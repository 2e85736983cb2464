import CodeWindow.Emulator.Scripted
import CodeWindow.Proofs.Reachable
import Mathlib.Data.List.Infix

/-! The shape of a window: what was assembled, with the run of one address at its end cut to two.
The run may begin among the remembered instructions and take the current one with it; history shows
an instruction at its address only as it is kept, so the window still holds the current one. -/

namespace CodeWindow

namespace Session

/-! ### The cut -/

/-- Instructions, latest first, that begin with a run of one address keep the earliest two of it. -/
theorem collapse_append {address : UInt64} {rest : List Instruction}
    (hrest : ∀ insn ∈ rest.head?, insn.address ≠ address) {run : List Instruction} (h : run ≠ [])
    (hrun : ∀ insn ∈ run, insn.address = address) :
    collapse (run ++ rest) = run.drop (run.length - 2) ++ rest := by
  induction run with
  | nil => contradiction
  | cons last run ih =>
    obtain ⟨hlast, hrun⟩ := List.forall_mem_cons.mp hrun
    rcases run with _ | ⟨second, _ | ⟨third, run⟩⟩
    · rcases rest with _ | ⟨second, _ | ⟨third, rest⟩⟩
      · rfl
      · rfl
      · have hne : second.address ≠ last.address := hlast ▸ hrest second rfl
        simp [collapse, hne]
    · rcases rest with _ | ⟨third, rest⟩
      · rfl
      · have hsecond : second.address = address := hrun second (by simp)
        have hne : third.address ≠ second.address := hsecond ▸ hrest third rfl
        simp [collapse, hne]
    · have hsame : third.address = second.address ∧ second.address = last.address := by
        simp [hlast, hrun]
      have hlater := ih (by simp) hrun
      simpa [collapse, hsame] using hlater

/-- Instructions end in a run of one address, which has no more of it before. -/
structure EndsInRun (front run : List Instruction) (address : UInt64) : Prop where
  nonempty : run ≠ []
  same : ∀ insn ∈ run, insn.address = address
  whole : ∀ insn ∈ front.getLast?, insn.address ≠ address

theorem exists_endsInRun (insns : List Instruction) (h : insns ≠ []) :
    ∃ front run address, insns = front ++ run ∧ EndsInRun front run address := by
  induction insns with
  | nil => contradiction
  | cons first insns ih =>
    by_cases hlater : insns = []
    · exact ⟨[], [first], first.address, by rw [hlater]; rfl, by simp, by simp, by simp⟩
    obtain ⟨front, run, address, rfl, hends⟩ := ih hlater
    by_cases hjoins : front = [] ∧ first.address = address
    · obtain ⟨rfl, haddress⟩ := hjoins
      exact ⟨[], first :: run, address, rfl, by simp,
        List.forall_mem_cons.mpr ⟨haddress, hends.same⟩, by simp⟩
    · refine ⟨first :: front, run, address, rfl, hends.nonempty, hends.same, ?_⟩
      cases front with
      | nil => simpa using hjoins
      | cons second front => simpa using hends.whole

theorem EndsInRun.collapse {front run : List Instruction} {address : UInt64}
    (h : EndsInRun front run address) :
    (collapse (front ++ run).reverse).reverse = front ++ run.take 2 := by
  have hwhole : ∀ insn ∈ front.reverse.head?, insn.address ≠ address := by
    simpa using h.whole
  have hkept : run.length - (run.length - 2) = min 2 run.length := by omega
  rw [List.reverse_append, collapse_append hwhole (by simpa using h.nonempty)
    (by simpa using h.same), List.length_reverse, List.drop_reverse, hkept, List.reverse_append,
    List.reverse_reverse, List.reverse_reverse, ← List.take_eq_take_min]

/-- Only two are left of a run. -/
theorem EndsInRun.not_three {front run : List Instruction} {address : UInt64}
    (h : EndsInRun front run address) {before : List Instruction} {first second third : Instruction}
    (hwindow : front ++ run.take 2 = before ++ [first, second, third]) :
    ¬ (first.address = second.address ∧ second.address = third.address) := by
  rintro ⟨hfirst, hsecond⟩
  obtain ⟨hnonempty, hsame, hwhole⟩ := h
  rcases run with _ | ⟨last, _ | ⟨other, run⟩⟩
  · contradiction
  · have hsplit : front ++ [last] = (before ++ [first, second]) ++ [third] := by simpa using hwindow
    obtain ⟨rfl, hlast⟩ := List.append_inj' hsplit rfl
    obtain rfl : last = third := by simpa using hlast
    exact hwhole second (by simp) (hsecond.trans (hsame last (by simp)))
  · have hsplit : front ++ [last, other] = (before ++ [first]) ++ [second, third] := by
      simpa using hwindow
    obtain ⟨rfl, hlast⟩ := List.append_inj' hsplit rfl
    obtain ⟨rfl, -⟩ : last = second ∧ other = third := by simpa using hlast
    exact hwhole first (by simp) (hfirst.trans (hsame last (by simp)))

/-- The cut may take the current instruction, but then an equal one before it is left. -/
theorem EndsInRun.exists_current {front run earlier forward : List Instruction} {address : UInt64}
    (h : EndsInRun front run address) {current : Instruction}
    (hinsns : front ++ run = earlier ++ current :: forward)
    (hearlier : ∀ insn ∈ earlier, insn.address = current.address → insn = current) :
    ∃ before after, front ++ run.take 2 = before ++ current :: after ∧
      before.length ≤ earlier.length := by
  rcases List.append_eq_append_iff.mp hinsns with ⟨more, rfl, rfl⟩ | ⟨more, rfl, hforward⟩
  · cases more with
    | nil => exact ⟨front, forward.take 1, rfl, by simp⟩
    | cons insn more =>
      have haddress : insn.address = current.address :=
        (h.same insn (by simp)).trans (h.same current (by simp)).symm
      obtain rfl : insn = current := hearlier insn (by simp) haddress
      exact ⟨front, (more ++ insn :: forward).take 1, rfl, by simp⟩
  · cases more with
    | nil =>
      obtain rfl : current :: forward = run := hforward
      exact ⟨earlier, forward.take 1, by simp, Nat.le_refl _⟩
    | cons insn more =>
      obtain ⟨rfl, -⟩ := List.cons.inj hforward
      exact ⟨earlier, more ++ run.take 2, by simp, Nat.le_refl _⟩

/-! ### The window -/

variable {σ : Type} [Emulator σ]

theorem walkRecorded_length_le (disassembler : Disassembler) (process : Process) (count : Nat)
    (last : Instruction) (emulation : Emulation σ) (session : Session) :
    (walkRecorded disassembler process count last emulation session).1.length ≤ count := by
  induction count generalizing last emulation session with
  | zero => exact Nat.le_refl 0
  | succ count ih =>
    simp only [walkRecorded]
    rcases session.visitRecorded disassembler process ((emulation.past last).pc?.getD last.next)
      (emulation.past last) with ⟨_ | visit, remaining, after⟩
    · exact Nat.zero_le _
    · exact Nat.succ_le_succ (ih visit.insn remaining after)

/-- The shape of a window. -/
structure WindowShape (session : Session) (host : Host σ) (process : Process)
    (request : WindowRequest) (assembly : Assembly σ) (window : List Instruction) : Prop where
  empty : window = [] ↔ process.peek request.address = false ∨
    (session.decode host.disassembler process request.address).1 = none
  length_le : window.length ≤ 1 + 2 * request.count
  earlier_le : assembly.earlier.length ≤ request.count
  /-- The instruction that was just enhanced follows the remembered ones where the window is
  assembled, and stands no later in the window. -/
  current : window ≠ [] → ∃ current forward before after,
    ((session.startEmulation host process request).2.visit host.disassembler process
      request.address (session.startEmulation host process request).1).1 = some current ∧
    current.address = request.address ∧
    assembly.insns = assembly.earlier.reverse ++ current :: forward ∧
    window = before ++ current :: after ∧ current ∉ before ∧ before.length ≤ request.count
  ending : ∀ before first second third, window = before ++ [first, second, third] →
    ¬ (first.address = second.address ∧ second.address = third.address)
  /-- Only the run of one address at the end is cut, to two. -/
  cut : window ≠ [] → ∃ front run address,
    assembly.insns = front ++ run ∧ EndsInRun front run address ∧ window = front ++ run.take 2

/-- The first occurrence is no later than any other. -/
theorem exists_first {window before after : List Instruction} {current : Instruction}
    (h : window = before ++ current :: after) :
    ∃ front back, window = front ++ current :: back ∧ current ∉ front ∧
      front.length ≤ before.length := by
  subst h
  by_cases hmem : current ∈ before
  · obtain ⟨front, back, rfl, hfirst⟩ := List.eq_append_cons_of_mem hmem
    exact ⟨front, back ++ current :: after, by simp, hfirst, by simp⟩
  · exact ⟨before, after, rfl, hmem, Nat.le_refl _⟩

/-- The cut of a window around a current instruction. -/
theorem exists_cut {earlier : List Instruction} {current : Instruction}
    (forward : List Instruction)
    (hearlier : ∀ insn ∈ earlier, insn.address = current.address → insn = current) :
    ∃ front run address before after, earlier ++ current :: forward = front ++ run ∧
      EndsInRun front run address ∧ front ++ run.take 2 = before ++ current :: after ∧
      current ∉ before ∧ before.length ≤ earlier.length := by
  obtain ⟨front, run, address, hsplit, hends⟩ :=
    exists_endsInRun (earlier ++ current :: forward) (by simp)
  obtain ⟨before, after, hwindow, hbefore⟩ := hends.exists_current hsplit.symm hearlier
  obtain ⟨before, after, hwindow, hfirst, hle⟩ := exists_first hwindow
  exact ⟨front, run, address, before, after, hsplit, hends, hwindow, hfirst, hle.trans hbefore⟩

/-- The current instruction was kept before history was asked for. -/
theorem Placed.eq_current {session recalled : Session} (h : session.Placed)
    {disassembler : Disassembler} {process : Process} {request : WindowRequest} {address : UInt64}
    {current : Instruction} {earlier : List Instruction} (haddress : current.address = address)
    (hrecalled : (session.behind process address current).historyFor disassembler process request
      current.address = (earlier, recalled)) :
    ∀ insn ∈ earlier, insn.address = current.address → insn = current := by
  intro insn hmem hsame
  have hshows := (h.behind process haddress).historyFor disassembler process request current.address
  rw [hrecalled] at hshows
  refine hshows insn hmem current ?_
  simp only [Session.behind, AddressMap.find?_insert, hsame, haddress, if_true]

/-- Every window that a session shows has this shape. -/
theorem near_windowShape {session : Session} (h : session.Reachable) (host : Host σ)
    (process : Process) (request : WindowRequest) :
    WindowShape session host process request (session.assemble host process request).1
      (session.near host process request).1 := by
  obtain ⟨hcomputed, hdecoders, -⟩ := session.startEmulation_frame host process request
  have hplaced := h.placed.of_computed hcomputed
  have hsame : (session.startEmulation host process request).2.found host.disassembler process
      request.address = session.found host.disassembler process request.address :=
    found_congr (by simp only [decoderFor, hdecoders])
  have hassembles := session.assemble_assembles host process request
  rw [near_eq_recorded]
  generalize session.assemble host process request = result at hassembles ⊢
  cases hassembles with
  | blind hfound =>
    constructor
    case empty => exact iff_of_true rfl (found_eq_none_iff.mp (hsame.symm.trans hfound))
    case length_le => exact Nat.zero_le _
    case earlier_le => exact Nat.zero_le _
    case current => exact fun hne => absurd rfl hne
    case ending =>
      intro before first second third hwindow
      simp [Assembly.insns, collapse] at hwindow
    case cut => exact fun hne => absurd rfl hne
  | @around _ current _ earlier later _ _ hfound hcurrent hrecalled hwalked =>
    have haddress := enhanceRecorded_address hfound hcurrent
    have hcount := historyFor_length_le hrecalled
    have hlater : later.length ≤ windowSize request.count - (1 + earlier.length) := by
      obtain rfl := congrArg Prod.fst hwalked
      exact walkRecorded_length_le host.disassembler process _ _ _ _
    have hsize := windowSize_le request.count
    have hinsns : (Assembly.insns { earlier, visits := current :: later }) =
        earlier.reverse ++ current.insn :: later.map Visit.insn := rfl
    have hearlier : ∀ insn ∈ earlier.reverse, insn.address = current.insn.address →
        insn = current.insn := by
      simpa only [List.mem_reverse] using hplaced.eq_current haddress hrecalled
    obtain ⟨front, run, address, before, after, hsplit, hends, hwindow, hfirst, hbefore⟩ :=
      exists_cut (later.map Visit.insn) hearlier
    rw [List.length_reverse] at hbefore
    have hnonempty : front ++ run.take 2 ≠ [] := by simp [hwindow]
    simp only [hinsns]
    rw [hsplit, hends.collapse]
    constructor
    case empty =>
      refine iff_of_false hnonempty fun hempty => ?_
      rw [← found_eq_none_iff, ← hsame, hfound] at hempty
      contradiction
    case length_le =>
      have htotal := congrArg List.length hsplit
      simp only [List.length_append, List.length_reverse, List.length_cons, List.length_map,
        List.length_take] at htotal ⊢
      omega
    case earlier_le => exact hcount
    case current =>
      exact fun _ => ⟨current.insn, later.map Visit.insn, before, after,
        visit_of_found hfound hcurrent, haddress, hinsns, hwindow, hfirst, hbefore.trans hcount⟩
    case ending => exact fun _ _ _ _ hthree => hends.not_three hthree
    case cut => exact fun _ => ⟨front, run, address, hinsns.trans hsplit, hends, rfl⟩

/-- In a loop of one instruction, the cut takes the current instruction and all that follows it. -/
theorem near_loop_windowShape :
    let loop : Process := Snapshot.process {
      machine := .ofArch .aarch64
      registers := NameMap.empty.insert "pc" 0x1000
      regions := AddressMap.empty.insert 0x1000 {
        start := 0x1000, data := [0, 0, 0, 0x14], readable := true, writable := false,
        executable := true, objfile := "" } }
    let host : Host Empty := {
      disassembler := fun _ _ address => some {
        size := 4, mnemonic := "b", operandText := "", groups := [1]
        operands := [{ kind := .immediate address.toInt64 }] } }
    let request : WindowRequest := {
      address := 0x1000, count := 3, emulate := true, history := true }
    let session := ((start {}).near host loop request).2
    let assembly := (session.assemble host loop request).1
    let window := (session.near host loop request).1
    assembly.earlier.length = 3 ∧ assembly.visits.length = 4 ∧ window.length = 2 ∧
      session.WindowShape host loop request assembly window := by
  intro loop host request session assembly window
  exact ⟨by decide +kernel, by decide +kernel, by decide +kernel,
    near_windowShape (.near (.start {}) host loop request) host loop request⟩

end Session

end CodeWindow
