import CodeWindow.Proofs.Record
import CodeWindow.Proofs.SameCode
import CodeWindow.Proofs.Sight
import Mathlib.Data.List.Chain
import Mathlib.Data.List.Infix

/-! The emulator along a window. An emulation leads a walk as long as it stands at the next
instruction, may step it, and does; the first instruction for which that fails ends it, and the
rest of the walk follows the successors of the instructions without it. -/

namespace CodeWindow

variable {σ : Type} [Emulator σ]

/-- How an emulation takes one visit, and what is left of it. -/
inductive Emulation.Takes : Emulation σ → Visit σ → Emulation σ → Prop
  /-- There is no emulation. -/
  | idle {visit : Visit σ} (hinsn : visit.insn.emulated = false) (hsteps : visit.steps = []) :
      Takes .off visit .off
  /-- The emulator stands elsewhere, or at an instruction that emulators never step. -/
  | refused {state : σ} {visit : Visit σ}
      (hrefused : Emulator.pc state ≠ visit.insn.address ∨ visit.insn.blocksEmulation = true)
      (hinsn : visit.insn.emulated = false) (hsteps : visit.steps = []) :
      Takes (.active state) visit .off
  /-- The step fails. -/
  | failed {state : σ} {cause : EmulationError} {visit : Visit σ}
      (hpc : Emulator.pc state = visit.insn.address)
      (hblocks : visit.insn.blocksEmulation = false)
      (hstep : Emulator.step state = .error cause) (hinsn : visit.insn.emulated = false)
      (hsteps : visit.steps = [state]) :
      Takes (.active state) visit .off
  /-- The step leads to the next state. -/
  | stepped {state next : σ} {visit : Visit σ} (hpc : Emulator.pc state = visit.insn.address)
      (hblocks : visit.insn.blocksEmulation = false) (hstep : Emulator.step state = .ok next)
      (hinsn : visit.insn.emulated = true) (hsteps : visit.steps = [state]) :
      Takes (.active state) visit (.active next)

/-- What is left of an emulation may go past the instruction. -/
theorem Emulation.Takes.past_eq {emulation after : Emulation σ} {visit : Visit σ}
    (h : emulation.Takes visit after) : after.past visit.insn = after := by
  unfold past
  cases h with
  | idle | refused | failed => exact ite_self _
  | stepped _ hblocks => simp only [hblocks, Bool.false_eq_true, if_false]

/-- An emulator either stands at an instruction and may step it, or is switched off for it. -/
theorem Emulation.readyFor_cases (state : σ) (insn : Instruction) :
    ((active state).readyFor insn = active state ∧
      Emulator.pc state = insn.address ∧ insn.blocksEmulation = false) ∨
    ((active state).readyFor insn = off ∧
      (Emulator.pc state ≠ insn.address ∨ insn.blocksEmulation = true)) := by
  by_cases hpc : Emulator.pc state = insn.address
  · cases hblocks : insn.blocksEmulation with
    | false => exact .inl ⟨by simp [readyFor, hpc, hblocks], hpc, rfl⟩
    | true => exact .inr ⟨by simp [readyFor, hblocks], .inr rfl⟩
  · exact .inr ⟨by simp [readyFor, hpc], .inl hpc⟩

namespace Enhancement

/-- The emulation takes the visit of an instruction that was just decoded. -/
theorem enhanceRecorded_takes (isa : Isa) (process : Process) (config : Config)
    {insn : Instruction} (hfresh : insn.emulated = false) (emulation : Emulation σ) :
    emulation.Takes (enhanceRecorded isa process config insn emulation).1
      (enhanceRecorded isa process config insn emulation).2 := by
  have hsame := describe_sameCode isa process config insn (emulation.readyFor insn)
  have hemulated := fun leaving => (hsame leaving).emulated
  simp only [hfresh, Bool.or_false] at hemulated
  cases emulation with
  | off => exact .idle (hemulated .off) rfl
  | active state =>
    rcases Emulation.readyFor_cases state insn with ⟨hready, hpc, hblocks⟩ | ⟨hready, hrefused⟩
    · rw [hready] at hsame hemulated
      have hpc := fun leaving => hpc.trans (hsame leaving).address.symm
      have hblocks := fun leaving => (hsame leaving).blocksEmulation.trans hblocks
      simp only [enhanceRecorded, hready, Emulation.stepRecorded]
      cases hstep : Emulator.step state with
      | error cause => exact .failed (hpc _) (hblocks _) hstep (hemulated .off) rfl
      | ok next => exact .stepped (hpc _) (hblocks _) hstep (hemulated (.active next)) rfl
    · rw [hready] at hsame hemulated
      simp only [enhanceRecorded, hready, Emulation.stepRecorded]
      refine .refused ?_ (hemulated .off) rfl
      rcases hrefused with hpc | hblocks
      · exact .inl fun h => hpc (h.trans (hsame _).address)
      · exact .inr ((hsame _).blocksEmulation.trans hblocks)

end Enhancement

/-- An emulation takes visits one after the other. -/
inductive Emulation.Leads : Emulation σ → List (Visit σ) → Prop
  | nil {emulation : Emulation σ} : Leads emulation []
  | cons {emulation after : Emulation σ} {visit : Visit σ} {later : List (Visit σ)}
      (htakes : emulation.Takes visit after) (hleads : after.Leads later) :
      Leads emulation (visit :: later)

/-- A walk whose first visits were led by an emulator and whose other visits were not. -/
structure Emulation.Led (led rest : List (Visit σ)) : Prop where
  /-- The emulator is asked to step only what it stands at and may step. -/
  placed : ∀ visit ∈ led ++ rest, ∀ state ∈ visit.steps,
    Emulator.pc state = visit.insn.address ∧ visit.insn.blocksEmulation = false
  /-- Each visit that was led took one step, which succeeded. -/
  emulated : ∀ visit ∈ led, visit.insn.emulated = true ∧
    ∃ state next, visit.steps = [state] ∧ Emulator.step state = .ok next
  static : ∀ visit ∈ rest, visit.insn.emulated = false
  /-- The first of the other visits took no step, or one that failed. -/
  last : ∀ visit ∈ rest.head?, visit.steps = [] ∨
    ∃ state cause, visit.steps = [state] ∧ Emulator.step state = .error cause
  /-- The visits behind it took no step. -/
  silent : ∀ visit ∈ rest.tail, visit.steps = []

namespace Emulation.Leads

/-- No emulation, no step. -/
theorem idle {visits : List (Visit σ)} (h : Leads .off visits) :
    ∀ visit ∈ visits, visit.insn.emulated = false ∧ visit.steps = [] := by
  induction visits with
  | nil => exact List.forall_mem_nil _
  | cons visit later ih =>
    cases h with
    | cons htakes hleads =>
      cases htakes with
      | idle hinsn hsteps => exact List.forall_mem_cons.mpr ⟨⟨hinsn, hsteps⟩, ih hleads⟩

/-- A walk whose emulation ends at the first visit. -/
theorem led_of_idle {visit : Visit σ} {later : List (Visit σ)}
    (hplaced : ∀ state ∈ visit.steps,
      Emulator.pc state = visit.insn.address ∧ visit.insn.blocksEmulation = false)
    (hinsn : visit.insn.emulated = false)
    (hlast : visit.steps = [] ∨
      ∃ state cause, visit.steps = [state] ∧ Emulator.step state = .error cause)
    (hleads : Leads .off later) : Led [] (visit :: later) where
  placed := by
    refine List.forall_mem_cons.mpr ⟨hplaced, fun visit hmem state hstate => ?_⟩
    simp only [(hleads.idle visit hmem).2, List.not_mem_nil] at hstate
  emulated := List.forall_mem_nil _
  static := List.forall_mem_cons.mpr ⟨hinsn, fun visit hmem => (hleads.idle visit hmem).1⟩
  last := by simpa using hlast
  silent visit hmem := (hleads.idle visit hmem).2

/-- An emulation leads the first visits of its walk, and no others. -/
theorem exists_led {emulation : Emulation σ} {visits : List (Visit σ)}
    (h : emulation.Leads visits) : ∃ led rest, visits = led ++ rest ∧ Led led rest := by
  induction h with
  | nil =>
    exact ⟨[], [], rfl, List.forall_mem_nil _, List.forall_mem_nil _, List.forall_mem_nil _,
      by simp, List.forall_mem_nil _⟩
  | @cons emulation after visit later htakes hleads ih =>
    cases htakes with
    | idle hinsn hsteps | refused _ hinsn hsteps =>
      exact ⟨[], visit :: later, rfl, led_of_idle (by simp [hsteps]) hinsn (.inl hsteps) hleads⟩
    | failed hpc hblocks hstep hinsn hsteps =>
      refine ⟨[], visit :: later, rfl, led_of_idle ?_ hinsn (.inr ⟨_, _, hsteps, hstep⟩) hleads⟩
      simp [hsteps, hpc, hblocks]
    | stepped hpc hblocks hstep hinsn hsteps =>
      obtain ⟨led, rest, rfl, hled⟩ := ih
      refine ⟨visit :: led, rest, rfl, ?_, ?_, hled.static, hled.last, hled.silent⟩
      · exact List.forall_mem_cons.mpr ⟨by simp [hsteps, hpc, hblocks], hled.placed⟩
      · exact List.forall_mem_cons.mpr ⟨⟨hinsn, _, _, hsteps, hstep⟩, hled.emulated⟩

/-- Without an emulation there is no step. -/
theorem steps_of_off {visits : List (Visit σ)} (h : Leads .off visits) :
    visits.flatMap Visit.steps = [] :=
  List.flatMap_eq_nil_iff.mpr fun visit hmem => (h.idle visit hmem).2

/-- The first step of a walk is from the state of the emulation. -/
theorem head_steps {emulation : Emulation σ} {visits : List (Visit σ)}
    (h : emulation.Leads visits) :
    ∀ state ∈ (visits.flatMap Visit.steps).head?, emulation = .active state := by
  cases h with
  | nil => simp
  | cons htakes hleads =>
    cases htakes with
    | idle _ hsteps | refused _ _ hsteps => simp [hsteps, hleads.steps_of_off]
    | failed _ _ _ _ hsteps | stepped _ _ _ _ hsteps => simp [hsteps]

/-- Each step of a walk leads to the next one. -/
theorem chain_steps {emulation : Emulation σ} {visits : List (Visit σ)}
    (h : emulation.Leads visits) :
    (visits.flatMap Visit.steps).IsChain fun state next => Emulator.step state = .ok next := by
  induction h with
  | nil => exact .nil
  | cons htakes hleads ih =>
    cases htakes with
    | idle _ hsteps | refused _ _ hsteps => simpa [hsteps] using ih
    | failed _ _ _ _ hsteps => simp [hsteps, hleads.steps_of_off]
    | stepped _ _ hstep _ hsteps =>
      simp only [List.flatMap_cons, hsteps, List.singleton_append]
      refine List.isChain_cons.mpr ⟨fun state hmem => ?_, ih⟩
      obtain rfl := Emulation.active.inj (hleads.head_steps state hmem)
      exact hstep

end Emulation.Leads

namespace Emulation.Led

/-- One step for each visit that was led, and at most one more. -/
theorem length_steps {led rest : List (Visit σ)} (h : Led led rest) :
    led.length ≤ ((led ++ rest).flatMap Visit.steps).length ∧
      ((led ++ rest).flatMap Visit.steps).length ≤ led.length + 1 := by
  have hled : (led.flatMap Visit.steps).length = led.length := by
    have hone : ∀ visit ∈ led, visit.steps.length = 1 := by
      intro visit hmem
      obtain ⟨-, state, next, hsteps, -⟩ := h.emulated visit hmem
      rw [hsteps, List.length_singleton]
    rw [List.length_flatMap, List.map_eq_replicate_iff.mpr hone]
    simp
  have hrest : (rest.flatMap Visit.steps).length ≤ 1 := by
    cases rest with
    | nil => simp
    | cons first later =>
      have hlater : later.flatMap Visit.steps = [] := List.flatMap_eq_nil_iff.mpr h.silent
      rcases h.last first rfl with hsteps | ⟨state, cause, hsteps, -⟩ <;> simp [hsteps, hlater]
  rw [List.flatMap_append, List.length_append]
  omega

/-- An emulated instruction was stepped where the emulator stood, and may be stepped. -/
theorem of_emulated {led rest : List (Visit σ)} (h : Led led rest) {visit : Visit σ}
    (hmem : visit ∈ led ++ rest) (hemulated : visit.insn.emulated = true) :
    visit.insn.blocksEmulation = false ∧ ∃ state next, visit.steps = [state] ∧
      Emulator.pc state = visit.insn.address ∧ Emulator.step state = .ok next := by
  rcases List.mem_append.mp hmem with hled | hrest
  · obtain ⟨-, state, next, hsteps, hstep⟩ := h.emulated visit hled
    obtain ⟨hpc, hblocks⟩ := h.placed visit hmem state (by simp [hsteps])
    exact ⟨hblocks, state, next, hsteps, hpc, hstep⟩
  · simp only [h.static visit hrest, Bool.false_eq_true] at hemulated

/-- Instructions that begin the walk: the emulated ones stand before the others. -/
theorem exists_replicate {led rest : List (Visit σ)} (h : Led led rest) {insns : List Instruction}
    (hinitial : insns <+: (led ++ rest).map Visit.insn) :
    ∃ emulated static, insns.map Instruction.emulated =
      List.replicate emulated true ++ List.replicate static false := by
  have hall : ((led ++ rest).map Visit.insn).map Instruction.emulated =
      List.replicate led.length true ++ List.replicate rest.length false := by
    simp only [List.map_append, List.map_map]
    congr 1
    · exact List.map_eq_replicate_iff.mpr fun visit hmem => (h.emulated visit hmem).1
    · exact List.map_eq_replicate_iff.mpr h.static
  have hshown := hinitial.map Instruction.emulated
  rw [hall, List.prefix_iff_eq_take, List.take_append, List.take_replicate,
    List.take_replicate] at hshown
  exact ⟨_, _, hshown⟩

end Emulation.Led

namespace Session

variable {session after : Session} {disassembler : Disassembler} {process : Process}
  {address : UInt64}

theorem visitRecorded_takes {emulation remaining : Emulation σ} {visit : Visit σ}
    (h : session.visitRecorded disassembler process address emulation =
      (some visit, remaining, after)) :
    emulation.Takes visit remaining ∧ visit.insn.address = address := by
  obtain ⟨decoded, hfound, hvisit⟩ := found_of_visitRecorded h
  have htakes := Enhancement.enhanceRecorded_takes decoded.arch.isa process session.config
    (found_fresh hfound).2 emulation
  rw [hvisit] at htakes
  exact ⟨htakes, enhanceRecorded_address hfound hvisit⟩

/-- The visits of a walk are led by the emulation that enters it. -/
theorem walkRecorded_leads (disassembler : Disassembler) (process : Process) (count : Nat)
    {last : Instruction} {emulation : Emulation σ} (hpast : emulation.past last = emulation)
    (session : Session) :
    emulation.Leads (walkRecorded disassembler process count last emulation session).1 := by
  induction count generalizing last emulation session with
  | zero => exact .nil
  | succ count ih =>
    simp only [walkRecorded, hpast]
    rcases hvisit : session.visitRecorded disassembler process (emulation.pc?.getD last.next)
      emulation with ⟨_ | visit, remaining, after⟩
    · exact .nil
    · obtain ⟨htakes, -⟩ := visitRecorded_takes hvisit
      -- What a visit leaves of the emulation may go past it, and so enters the next visit.
      exact .cons htakes (ih htakes.past_eq after)

/-- The visits of a window are led by the emulation that it starts with. -/
theorem assemble_leads (session : Session) (host : Host σ) (process : Process)
    (request : WindowRequest) :
    (session.startEmulation host process request).1.Leads
      (session.assemble host process request).1.visits := by
  unfold assemble
  generalize session.startEmulation host process request = start
  obtain ⟨emulation, session⟩ := start
  simp only
  rcases hvisit : session.visitRecorded host.disassembler process request.address emulation with
    ⟨_ | current, remaining, after⟩
  · exact .nil
  · obtain ⟨htakes, -⟩ := visitRecorded_takes hvisit
    exact .cons htakes (walkRecorded_leads host.disassembler process _ htakes.past_eq _)

/-- Only the end of a window is cut. -/
theorem collapse_suffix (insns : List Instruction) : collapse insns <:+ insns := by
  induction insns using collapse.induct with
  | case1 last second third rest hsame ih =>
    rw [collapse, if_pos hsame]
    exact ih.trans (List.suffix_cons last _)
  | case2 last second third rest hdiffer =>
    rw [collapse, if_neg hdiffer]
  | case3 insns hshort =>
    unfold collapse
    split
    · exact absurd rfl (hshort _ _ _ _)
    · exact List.suffix_refl _

omit [Emulator σ] in
/-- An emulation starts where it is wanted, with an emulator that the host makes. -/
theorem startEmulation_active {host : Host σ} {request : WindowRequest} {state : σ}
    (h : (session.startEmulation host process request).1 = .active state) :
    session.wantsEmulator host process request = true ∧
      ∃ factory ∈ host.factory, factory.create process = .ok state := by
  unfold startEmulation at h
  split at h
  · rename_i hwants
    refine ⟨hwants, ?_⟩
    split at h
    · rename_i factory _ hfactory
      cases hcreate : factory.create process with
      | error cause => simp [hcreate] at h
      | ok created =>
        obtain rfl : created = state := by simpa [hcreate] using h
        exact ⟨factory, hfactory, hcreate⟩
    · contradiction
  · contradiction

/-- The first visit of a window is at the address that the window is asked for. -/
theorem assemble_current (session : Session) (host : Host σ) (process : Process)
    (request : WindowRequest) :
    ∀ visit ∈ (session.assemble host process request).1.visits.head?,
      visit.insn.address = request.address := by
  have hassembles := session.assemble_assembles host process request
  generalize session.assemble host process request = result at hassembles ⊢
  cases hassembles with
  | blind => simp
  | around hfound hcurrent _ _ => simpa using enhanceRecorded_address hfound hcurrent

/-- How an emulator leads the visits of a window; `forward` is what the window shows from the
current instruction on. -/
structure LedWindow (session : Session) (host : Host σ) (process : Process)
    (request : WindowRequest) (visits : List (Visit σ)) (forward : List Instruction) : Prop where
  /-- The window shows the visits until it is cut. -/
  shown : forward <+: visits.map Visit.insn
  current : ∀ visit ∈ visits.head?, visit.insn.address = request.address
  /-- The emulated instructions stand before the others. -/
  segment : ∃ emulated static, forward.map Instruction.emulated =
    List.replicate emulated true ++ List.replicate static false
  /-- The emulator stood at each emulated instruction, was allowed to step it, and did. -/
  emulated : ∀ visit ∈ visits, visit.insn.emulated = true →
    visit.insn.blocksEmulation = false ∧ ∃ state next, visit.steps = [state] ∧
      Emulator.pc state = visit.insn.address ∧ Emulator.step state = .ok next
  /-- One step for each emulated instruction and at most one that fails, and none behind an
  instruction that was not emulated. -/
  led : ∃ led rest, visits = led ++ rest ∧ Emulation.Led led rest ∧
    led.length ≤ (visits.flatMap Visit.steps).length ∧
    (visits.flatMap Visit.steps).length ≤ led.length + 1
  /-- The steps are one run from the state that the host makes. -/
  run : (visits.flatMap Visit.steps).IsChain fun state next => Emulator.step state = .ok next
  started : ∀ state ∈ (visits.flatMap Visit.steps).head?,
    ∃ factory ∈ host.factory, factory.create process = .ok state
  /-- Nothing is emulated where emulation is not wanted. -/
  unwanted : (process.pc ≠ some request.address ∨ request.emulate = false ∨
      session.config.emulate = .off ∨
      ∀ factory ∈ host.factory, factory.supports process.machine.arch = false) →
    ∀ visit ∈ visits, visit.insn.emulated = false ∧ visit.steps = []

omit [Emulator σ] in
theorem not_wantsEmulator {host : Host σ} {request : WindowRequest}
    (h : process.pc ≠ some request.address ∨ request.emulate = false ∨
      session.config.emulate = .off ∨
      ∀ factory ∈ host.factory, factory.supports process.machine.arch = false) :
    session.wantsEmulator host process request = false := by
  unfold wantsEmulator
  rcases h with haway | hrequest | hconfig | hsupports
  · simp [haway]
  · simp [hrequest]
  · simp [hconfig]
  · cases hfactory : host.factory with
    | none => simp
    | some factory => simp [hsupports factory hfactory]

/-- The emulator leads a window from its current instruction on, for as long as it can. -/
theorem near_ledWindow (session : Session) (host : Host σ) (process : Process)
    (request : WindowRequest) :
    let assembly := (session.assemble host process request).1
    session.near host process request =
        ((collapse assembly.insns.reverse).reverse, (session.assemble host process request).2) ∧
      LedWindow session host process request assembly.visits
        ((session.near host process request).1.drop assembly.earlier.length) := by
  intro assembly
  have hnear := session.near_eq_recorded host process request
  have hleads := session.assemble_leads host process request
  obtain ⟨led, rest, hvisits, hled⟩ := hleads.exists_led
  -- The window begins what was assembled, and the remembered instructions come first in both.
  have hshown : (session.near host process request).1.drop assembly.earlier.length <+:
      assembly.visits.map Visit.insn := by
    have hcut := (List.reverse_prefix.mpr (collapse_suffix assembly.insns.reverse)).drop
      assembly.earlier.length
    rw [hnear]
    simpa [Assembly.insns] using hcut
  refine ⟨hnear, ?_⟩
  constructor
  case shown => exact hshown
  case current => exact session.assemble_current host process request
  case segment => exact hled.exists_replicate (hvisits ▸ hshown)
  case emulated =>
    rw [hvisits]
    exact fun visit hmem => hled.of_emulated hmem
  case led => exact ⟨led, rest, hvisits, hled, hvisits ▸ hled.length_steps⟩
  case run => exact hleads.chain_steps
  case started =>
    intro state hmem
    exact (startEmulation_active (hleads.head_steps state hmem)).2
  case unwanted =>
    intro hunwanted
    have hoff : (session.startEmulation host process request).1 = .off := by
      simp only [startEmulation, not_wantsEmulator hunwanted, Bool.false_eq_true, if_false]
    rw [hoff] at hleads
    exact hleads.idle

end Session

end CodeWindow
