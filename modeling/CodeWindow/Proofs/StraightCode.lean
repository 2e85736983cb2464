import CodeWindow.Proofs.Outlook
import CodeWindow.Proofs.ShownPath
import CodeWindow.Proofs.SnapshotMemory

/-! Windows over straight code: a region of instructions of one size that none of them leaves. The
predecessors that a session notes there are the places that it visited, each under the place behind
it. So history goes back as far as the visited places reach without a gap, and the walk forward as
far as the region, both as far as the window allows. -/

namespace CodeWindow

/-- The instruction transfers no control. -/
def Instruction.isStraight (insn : Instruction) : Bool :=
  !insn.isJumpLike && !insn.isUnconditionalJump && !insn.hasGroup .branchRelative

namespace Enhancement

variable {σ : Type} [Emulator σ] (isa : Isa) (ctx : Context σ) {insn : Instruction}

theorem branchTarget_of_straight (h : insn.isStraight = true)
    (hreturn : isa = .x86 → insn.mnemonic ≠ "ret") : isa.branchTarget ctx insn false = none := by
  simp only [Instruction.isStraight, Instruction.isJumpLike, Instruction.isCallLike,
    Bool.and_eq_true, Bool.not_eq_true', Bool.or_eq_false_iff] at h
  obtain ⟨⟨⟨⟨hjump, hret⟩, hcall, hlinking⟩, hunconditional⟩, hrelative⟩ := h
  have hgeneric : ctx.branchTarget insn false = none := by
    simp [Context.branchTarget, Context.mayBranch, Instruction.isCallLike, hjump, hcall, hrelative]
  cases isa with
  | x86 => simp [Isa.branchTarget, Isa.X86.branchTarget, hreturn rfl, hgeneric]
  | aarch64 =>
    simp [Isa.branchTarget, Isa.Aarch64.branchTarget, Isa.Aarch64.mayBranch, hjump, hcall, hret,
      hrelative, hunconditional]
  | arm | mips | generic => exact hgeneric

theorem successor?_of_straight (h : insn.isStraight = true)
    (hcondition : insn.condition = isa.condition ctx insn) :
    successor? isa ctx insn none = none := by
  have hjump : insn.isUnconditionalJump = false := by
    simp only [Instruction.isStraight, Bool.and_eq_true, Bool.not_eq_true'] at h
    exact h.1.2
  have hdecided :
      (if insn.condition = .holds then isa.branchTarget ctx insn false else none) = none := by
    split
    · rename_i hholds
      refine branchTarget_of_straight isa ctx h ?_
      -- On the x86 family the mnemonic of a return alone gives a target, but it has no condition.
      rintro rfl hreturn
      have hsuffix : Isa.X86.conditionSuffix? "ret" = none := by decide +kernel
      rw [hholds, Isa.condition, Isa.X86.condition, hreturn, hsuffix] at hcondition
      contradiction
    · rfl
  simp [successor?, hdecided, hjump]

theorem conclude_next_of_straight (h : insn.isStraight = true) :
    (conclude isa ctx insn none).next = insn.fallThrough &&& ctx.machine.pointerMask := by
  let conditioned := withCondition isa ctx (mapOperands insn fun operand =>
    { operand with display := displayOf ctx.process operand })
  have hcondition : conditioned.condition = isa.condition ctx conditioned := by cases isa <;> rfl
  have hsuccessor : successor? isa ctx conditioned none = none :=
    successor?_of_straight isa ctx h hcondition
  show (settled isa ctx (withNext isa ctx conditioned none)).next = _
  rw [settled_next]
  simp only [withNext, hsuccessor, Option.getD_none]
  rfl

theorem describe_next_of_straight (process : Process) (config : Config)
    (h : insn.isStraight = true) :
    (describe isa process config insn (.off : Emulation σ) .off).next =
      insn.fallThrough &&& process.machine.pointerMask := by
  rw [describe_of_withheld isa (contextFor_off _ _ _) (contextFor_off _ _ _)]
  exact conclude_next_of_straight isa (contextOff σ process config) h

end Enhancement

/-! ### Regions of straight code -/

/-- A region of code: so many places for instructions of one size. -/
structure CodeRegion where
  start : UInt64
  width : UInt64
  count : Nat
  positive : 0 < width
  bounded : start.toNat + count * width.toNat < UInt64.size

namespace CodeRegion

variable (region : CodeRegion)

/-- The address of a place; the one behind the last place is the end of the region. -/
def place (i : Nat) : UInt64 := region.start + UInt64.ofNat (i * region.width.toNat)

/-- The number of visited places right before a place, up to the first that was not visited. -/
def visitedBefore (visited : List UInt64) : Nat → Nat
  | 0 => 0
  | i + 1 => if region.place i ∈ visited then visitedBefore visited i + 1 else 0

theorem toNat_place {i : Nat} (hi : i ≤ region.count) :
    (region.place i).toNat = region.start.toNat + i * region.width.toNat := by
  have hbounded := region.bounded
  have hle := Nat.mul_le_mul_right region.width.toNat hi
  exact toNat_add_ofNat (by omega)

theorem place_inj {i j : Nat} (hi : i ≤ region.count) (hj : j ≤ region.count)
    (h : region.place i = region.place j) : i = j := by
  have hpositive : 0 < region.width.toNat := UInt64.lt_iff_toNat_lt.mp region.positive
  have hnat := congrArg UInt64.toNat h
  rw [region.toNat_place hi, region.toNat_place hj] at hnat
  exact Nat.eq_of_mul_eq_mul_right hpositive (Nat.add_left_cancel hnat)

theorem place_succ (i : Nat) : region.place i + region.width = region.place (i + 1) := by
  rw [place, place, Nat.succ_mul, UInt64.ofNat_add, UInt64.ofNat_toNat, UInt64.add_assoc]

theorem visitedBefore_le (visited : List UInt64) (i : Nat) :
    region.visitedBefore visited i ≤ i := by
  induction i with
  | zero => exact Nat.le_refl 0
  | succ i ih =>
    unfold visitedBefore
    split
    · exact Nat.succ_le_succ ih
    · exact Nat.zero_le _

theorem visitedBefore_congr {visited other : List UInt64} {i : Nat}
    (h : ∀ j < i, region.place j ∈ visited ↔ region.place j ∈ other) :
    region.visitedBefore visited i = region.visitedBefore other i := by
  induction i with
  | zero => rfl
  | succ i ih =>
    have hbefore := ih fun j hj => h j (Nat.lt_succ_of_lt hj)
    simp only [visitedBefore, h i (Nat.lt_succ_self i), hbefore]

theorem visitedBefore_cons {visited : List UInt64} {i : Nat} (hi : i < region.count) :
    region.visitedBefore (region.place i :: visited) i = region.visitedBefore visited i := by
  refine region.visitedBefore_congr fun j hj => ?_
  have hne : region.place j ≠ region.place i := fun hplace =>
    absurd (region.place_inj (by omega) (by omega) hplace) (Nat.ne_of_lt hj)
  simp only [List.mem_cons, hne, false_or]

theorem mem_of_visitedBefore {visited : List UInt64} {i j : Nat}
    (hle : i - region.visitedBefore visited i ≤ j) (hlt : j < i) : region.place j ∈ visited := by
  induction i with
  | zero => contradiction
  | succ i ih =>
    unfold visitedBefore at hle
    split at hle
    · rename_i hvisited
      rcases Nat.lt_succ_iff_lt_or_eq.mp hlt with hlt | rfl
      · exact ih (by omega) hlt
      · exact hvisited
    · omega

theorem nodup_places {first count : Nat} (h : first + count ≤ region.count) :
    ((List.range' first count).map region.place).Nodup := by
  refine List.Nodup.map_on (fun i hi j hj hplace => ?_) List.nodup_range'
  simp only [List.mem_range'_1] at hi hj
  exact region.place_inj (by omega) (by omega) hplace

/-- The places around one: those before it, the place, and those behind it. -/
theorem map_place_around {i before : Nat} (h : before ≤ i) (behind : Nat) :
    (List.range' (i - before) (before + 1 + behind)).map region.place =
      (List.range' (i - before) before).map region.place ++
        region.place i :: (List.range' (i + 1) behind).map region.place := by
  have hmiddle : i - before + before = i := Nat.sub_add_cancel h
  rw [Nat.add_assoc, Nat.add_comm 1 behind, ← List.range'_append_1, hmiddle, List.range'_succ,
    List.map_append, List.map_cons]

end CodeRegion

/-- The instruction at an address, if it can be read and decoded. -/
def Process.instructionAt? (process : Process) (disassembler : Disassembler) (address : UInt64) :
    Option Instruction :=
  (Session.start {}).found disassembler process address

/-- At each place of a region a process has an instruction that fills it and transfers no control,
and no instruction behind the region. The addresses are no wider than pointers. -/
structure StraightCode (disassembler : Disassembler) (process : Process) (region : CodeRegion) :
    Prop where
  decodes : ∀ i < region.count, ∃ insn,
    process.instructionAt? disassembler (region.place i) = some insn ∧
      insn.size = region.width ∧ insn.isStraight = true
  ends : process.instructionAt? disassembler (region.place region.count) = none
  fits : ∀ i ≤ region.count, region.place i &&& process.machine.pointerMask = region.place i

/-- What is shown at a place: its address, and the next place as the successor. -/
structure CodeRegion.Fills (region : CodeRegion) (i : Nat) (insn : Instruction) : Prop where
  address : insn.address = region.place i
  next : insn.next = region.place (i + 1)

theorem Session.found_of_sound {session : Session} (h : session.decoders.Sound)
    (disassembler : Disassembler) (process : Process) (address : UInt64) :
    session.found disassembler process address =
      process.instructionAt? disassembler address := by
  refine found_congr ?_
  unfold decoderFor
  rw [h.get_fst]
  exact (DecoderCache.sound_empty.get_fst _).symm

variable {σ : Type} [Emulator σ] {region : CodeRegion} {disassembler : Disassembler}
  {process : Process}

variable (σ) in
/-- What is found at a place of straight code fills it, however the session is set up. -/
theorem StraightCode.found (h : StraightCode disassembler process region) {session : Session}
    (hsound : session.decoders.Sound) {i : Nat} (hi : i < region.count) :
    ∃ decoded, session.found disassembler process (region.place i) = some decoded ∧
      ∀ config, region.Fills i (Enhancement.describe decoded.arch.isa process config decoded
        (.off : Emulation σ) .off) := by
  obtain ⟨decoded, hdecoded, hsize, hstraight⟩ := h.decodes i hi
  have hfound : session.found disassembler process (region.place i) = some decoded :=
    (session.found_of_sound hsound disassembler process _).trans hdecoded
  have haddress := (Session.found_fresh hfound).1
  refine ⟨decoded, hfound, fun config => ⟨?_, ?_⟩⟩
  · rw [(Enhancement.describe_sameCode _ process config decoded _ _).address, haddress]
  · rw [Enhancement.describe_next_of_straight _ process config hstraight, Instruction.fallThrough,
      haddress, hsize, region.place_succ, h.fits (i + 1) hi]

namespace Session

/-! ### What a session remembers of straight code -/

/-- The memories of a session that visited some places of a region, and nothing else. -/
structure Tracks (region : CodeRegion) (session : Session) (visited : List UInt64) : Prop where
  sound : session.decoders.Sound
  /-- The predecessors are the visited places, each under the next place. -/
  predecessors : ∀ next previous, session.predecessors.find? next = some previous ↔
    ∃ i < region.count, next = region.place (i + 1) ∧ previous = region.place i ∧
      region.place i ∈ visited
  kept : ∀ address insn, session.computed.find? address = some insn →
    ∃ i < region.count, address = region.place i ∧ region.Fills i insn

variable {session after : Session} {visited other : List UInt64} {i : Nat} {insn : Instruction}

namespace Tracks

theorem congr (h : Tracks region session visited) (hsame : ∀ address, address ∈ other ↔
    address ∈ visited) : Tracks region session other := by
  refine ⟨h.sound, fun next previous => ?_, h.kept⟩
  simp only [hsame, h.predecessors next previous]

theorem of_memories (h : Tracks region session visited) (hsound : after.decoders.Sound)
    (hpredecessors : after.predecessors = session.predecessors)
    (hcomputed : after.computed = session.computed) : Tracks region after visited where
  sound := hsound
  predecessors := by
    rw [hpredecessors]
    exact h.predecessors
  kept := by
    rw [hcomputed]
    exact h.kept

theorem opened (h : Tracks region session visited) (process : Process) :
    Tracks region (session.withDecoder process) visited :=
  h.of_memories (h.sound.get_snd (keyOf process)) rfl rfl

theorem lookedAt (h : Tracks region session visited) (process : Process) (address : UInt64) :
    Tracks region (session.lookedAt process address) visited := by
  unfold Session.lookedAt
  split
  · exact h.opened process
  · exact h

theorem remember (h : Tracks region session visited) (hi : i < region.count)
    (hfills : region.Fills i insn) :
    Tracks region (session.remember insn) (region.place i :: visited) := by
  refine ⟨h.sound, fun next previous => ?_, h.kept⟩
  simp only [Session.remember, AddressMap.find?_insert, hfills.next, hfills.address]
  split
  · rename_i hnext
    constructor
    · intro hprevious
      exact ⟨i, hi, hnext, (Option.some.inj hprevious).symm, List.mem_cons_self⟩
    · rintro ⟨j, hj, hnext', rfl, -⟩
      rw [hnext] at hnext'
      rw [Nat.succ_inj.mp (region.place_inj hi hj hnext')]
  · rename_i hnext
    rw [h.predecessors]
    constructor
    · rintro ⟨j, hj, hnext', hprevious, hmem⟩
      exact ⟨j, hj, hnext', hprevious, List.mem_cons_of_mem _ hmem⟩
    · rintro ⟨j, hj, hnext', hprevious, hmem⟩
      refine ⟨j, hj, hnext', hprevious, (List.mem_cons.mp hmem).resolve_left fun hplace => ?_⟩
      obtain rfl := region.place_inj (Nat.le_of_lt hj) (Nat.le_of_lt hi) hplace
      exact hnext hnext'

theorem behind (h : Tracks region session visited) (process : Process) (hi : i < region.count)
    (hfills : region.Fills i insn) :
    Tracks region (session.behind process (region.place i) insn) (region.place i :: visited) := by
  have hremembered := (h.opened process).remember hi hfills
  refine ⟨hremembered.sound, hremembered.predecessors, fun address kept hkept => ?_⟩
  simp only [Session.behind, AddressMap.find?_insert] at hkept
  split at hkept
  · rename_i haddress
    exact ⟨i, hi, haddress, Option.some.inj hkept ▸ hfills⟩
  · exact h.kept address kept hkept

theorem one (h : Tracks region session visited) (hcode : StraightCode disassembler process region)
    (hi : i < region.count) :
    ∃ insn after, session.one disassembler process (region.place i) = (some insn, after) ∧
      region.Fills i insn ∧ Tracks region after (region.place i :: visited) := by
  obtain ⟨decoded, hfound, hfills⟩ := hcode.found Empty h.sound hi
  have hfills : region.Fills i (session.unkept process decoded) := hfills session.config
  rcases session.one_cases disassembler process (region.place i) with
    ⟨found, hfound', hone⟩ | ⟨hnone, -⟩
  · obtain rfl := Option.some.inj (hfound.symm.trans hfound')
    exact ⟨_, _, hone, hfills, (h.opened process).remember hi hfills⟩
  · rw [hfound] at hnone
    contradiction

theorem visit (h : Tracks region session visited)
    (hcode : StraightCode disassembler process region) (hi : i < region.count) :
    ∃ visit after, session.visitRecorded disassembler process (region.place i)
        (.off : Emulation σ) = (some visit, .off, after) ∧
      region.Fills i visit.insn ∧ Tracks region after (region.place i :: visited) := by
  obtain ⟨decoded, hfound, hfills⟩ := hcode.found σ h.sound hi
  have hfills := hfills session.config
  exact ⟨_, _, visitRecorded_of_found hfound .off, hfills, h.behind process hi hfills⟩

theorem recollect (h : Tracks region session visited)
    (hcode : StraightCode disassembler process region) (hi : i < region.count)
    (hvisited : region.place i ∈ visited) :
    ∃ insn after, session.recollect disassembler process (region.place i) = (some insn, after) ∧
      region.Fills i insn ∧ Tracks region after visited := by
  -- Telling a place again notes nothing new.
  have hsame : ∀ address, address ∈ visited ↔ address ∈ region.place i :: visited := fun address =>
    ⟨List.mem_cons_of_mem _, fun hmem => (List.mem_cons.mp hmem).elim (· ▸ hvisited) id⟩
  cases hkept : session.computed.find? (region.place i) with
  | none =>
    obtain ⟨insn, after, hone, hfills, hafter⟩ := h.one hcode hi
    exact ⟨insn, after, (recollect_of_not_kept hkept).trans hone, hfills, hafter.congr hsame⟩
  | some insn =>
    obtain ⟨j, hj, hplace, hfills⟩ := h.kept (region.place i) insn hkept
    obtain rfl := region.place_inj (Nat.le_of_lt hi) (Nat.le_of_lt hj) hplace
    obtain ⟨decoded, hfound, -⟩ := hcode.found Empty h.sound hi
    have hpeek : process.peek (region.place i) = true := by
      by_contra hpeek
      simp [Session.found, hpeek] at hfound
    refine ⟨insn, session.remember insn, ?_, hfills, (h.remember hi hfills).congr hsame⟩
    simp only [Session.recollect, hpeek, if_true, hkept]

theorem predecessor_zero (h : Tracks region session visited) :
    session.predecessors.find? (region.place 0) = none := by
  by_contra hsome
  obtain ⟨previous, hprevious⟩ := Option.ne_none_iff_exists'.mp hsome
  obtain ⟨i, hi, hplace, -⟩ := (h.predecessors _ previous).mp hprevious
  exact absurd (region.place_inj (Nat.zero_le _) hi hplace) (Nat.succ_ne_zero i).symm

theorem predecessor_succ (h : Tracks region session visited) (hi : i < region.count) :
    session.predecessors.find? (region.place (i + 1)) =
      if region.place i ∈ visited then some (region.place i) else none := by
  split
  · rename_i hvisited
    exact (h.predecessors _ _).mpr ⟨i, hi, rfl, rfl, hvisited⟩
  · rename_i hunvisited
    by_contra hsome
    obtain ⟨previous, hprevious⟩ := Option.ne_none_iff_exists'.mp hsome
    obtain ⟨j, hj, hplace, -, hvisited⟩ := (h.predecessors _ previous).mp hprevious
    obtain rfl := Nat.succ_inj.mp (region.place_inj hi hj hplace)
    exact hunvisited hvisited

/-- History goes back over the visited places right before an address. -/
theorem history (h : Tracks region session visited)
    (hcode : StraightCode disassembler process region) (hi : i ≤ region.count) (count : Nat) :
    let k := min count (region.visitedBefore visited i)
    let told := history disassembler process count (region.place i) session
    told.1.map Instruction.address = ((List.range' (i - k) k).map region.place).reverse ∧
      Tracks region told.2 visited := by
  induction count generalizing i session with
  | zero => exact ⟨by simp [Session.history], h⟩
  | succ count ih =>
    cases i with
    | zero =>
      simp only [Session.history, h.predecessor_zero]
      exact ⟨by simp [CodeRegion.visitedBefore], h⟩
    | succ i =>
      have hprevious := h.predecessor_succ hi
      by_cases hvisited : region.place i ∈ visited
      · rw [if_pos hvisited] at hprevious
        obtain ⟨insn, after, hrecollect, hfills, hafter⟩ := h.recollect hcode hi hvisited
        obtain ⟨htold, hlast⟩ := ih hafter (Nat.le_of_lt hi)
        have hle := region.visitedBefore_le visited i
        simp only [Session.history, hprevious, hrecollect, hfills.address]
        refine ⟨?_, hlast⟩
        rw [List.map_cons, htold, hfills.address]
        simp only [CodeRegion.visitedBefore, if_pos hvisited, Nat.succ_min_succ]
        generalize hk : min count (region.visitedBefore visited i) = k
        have hstart : i + 1 - (k + 1) = i - k := Nat.succ_sub_succ i k
        have hend : i - k + k = i := by omega
        rw [hstart, List.range'_1_concat, hend, List.map_append, List.reverse_append]
        rfl
      · rw [if_neg hvisited] at hprevious
        simp only [Session.history, hprevious]
        exact ⟨by simp [CodeRegion.visitedBefore, hvisited], h⟩

theorem walk (h : Tracks region session visited)
    (hcode : StraightCode disassembler process region) (hi : i < region.count)
    (hlast : region.Fills i insn) (count : Nat) :
    let m := min count (region.count - 1 - i)
    let walked := walkRecorded disassembler process count insn (.off : Emulation σ) session
    walked.1.map (fun visit => visit.insn.address) =
        (List.range' (i + 1) m).map region.place ∧
      Tracks region walked.2 ((List.range' (i + 1) m).map region.place ++ visited) := by
  induction count generalizing i insn session visited with
  | zero => simpa [walkRecorded] using h
  | succ count ih =>
    have hpast : (.off : Emulation σ).past insn = .off := ite_self _
    have hplace : (.off : Emulation σ).pc?.getD insn.next = region.place (i + 1) := hlast.next
    simp only [walkRecorded, hpast, hplace]
    by_cases hnext : i + 1 < region.count
    · obtain ⟨visit, after, hvisit, hfills, hafter⟩ := h.visit (σ := σ) hcode hnext
      obtain ⟨hwalked, htracks⟩ := ih hafter hnext hfills
      have hm : min (count + 1) (region.count - 1 - i) =
          min count (region.count - 1 - (i + 1)) + 1 := by omega
      simp only [hvisit, hm, List.range'_succ, List.map_cons, hwalked, hfills.address, true_and]
      refine htracks.congr fun address => ?_
      simp only [List.cons_append, List.mem_cons, List.mem_append]
      exact or_left_comm
    · have hend : i + 1 = region.count := by omega
      have hnone : session.found disassembler process (region.place (i + 1)) = none := by
        rw [session.found_of_sound h.sound, hend]
        exact hcode.ends
      have hm : min (count + 1) (region.count - 1 - i) = 0 := by omega
      rw [visitRecorded_of_not_found hnone, hm]
      exact ⟨rfl, h.lookedAt process _⟩

theorem historyFor (h : Tracks region session visited)
    (hcode : StraightCode disassembler process region) (hi : i ≤ region.count)
    (request : WindowRequest) :
    let k := if request.history then min request.count (region.visitedBefore visited i) else 0
    let told := session.historyFor disassembler process request (region.place i)
    told.1.map Instruction.address = ((List.range' (i - k) k).map region.place).reverse ∧
      Tracks region told.2 visited := by
  unfold Session.historyFor
  split
  · exact h.history hcode hi request.count
  · exact ⟨rfl, h⟩

end Tracks

theorem collapse_of_nodup {insns : List Instruction}
    (h : (insns.map Instruction.address).Nodup) : collapse insns = insns := by
  unfold collapse
  split
  · rename_i last second third rest
    have hne : second.address ≠ last.address := by
      rintro heq
      simp [heq] at h
    simp [hne]
  · rfl

/-- What a window at a place of straight code is assembled from: the visited places right before
it, the place, and the places behind it. -/
theorem Tracks.assemble (h : Tracks region session visited) {host : Host σ}
    {request : WindowRequest} (hcode : StraightCode host.disassembler process region)
    (hi : i < region.count) (haddress : request.address = region.place i)
    (hoff : (session.startEmulation host process request).1 = .off) :
    let k := if request.history then min request.count (region.visitedBefore visited i) else 0
    let m := min (windowSize request.count - (1 + k)) (region.count - 1 - i)
    let assembled := session.assemble host process request
    assembled.1.insns.map Instruction.address =
        (List.range' (i - k) (k + 1 + m)).map region.place ∧
      Tracks region assembled.2
        ((List.range' (i + 1) m).map region.place ++ region.place i :: visited) := by
  intro k m assembled
  have hstarted : Tracks region (session.startEmulation host process request).2 visited := by
    obtain ⟨hcomputed, hdecoders, hpredecessors⟩ :=
      session.startEmulation_frame host process request
    exact h.of_memories (hdecoders ▸ h.sound) hpredecessors hcomputed
  obtain ⟨current, seen, hvisit, hfills, hseen⟩ := hstarted.visit (σ := σ) hcode hi
  obtain ⟨htold, hrecalled⟩ := hseen.historyFor hcode (Nat.le_of_lt hi) request
  -- History is told behind the visit of the place itself, which counts for no place before it.
  rw [region.visitedBefore_cons hi] at htold
  generalize hhistory : seen.historyFor host.disassembler process request (region.place i) = told
    at htold hrecalled
  have hlength : told.1.length = k := by
    simpa using congrArg List.length htold
  obtain ⟨hwalked, hafter⟩ := hrecalled.walk (σ := σ) hcode hi hfills
    (windowSize request.count - (1 + k))
  generalize hwalk : walkRecorded host.disassembler process (windowSize request.count - (1 + k))
    current.insn (.off : Emulation σ) told.2 = walked at hwalked hafter
  have hassembled : assembled =
      ({ earlier := told.1, visits := current :: walked.1 }, walked.2) := by
    have hstart : session.startEmulation host process request =
        (.off, (session.startEmulation host process request).2) := Prod.ext hoff rfl
    rw [Session.historyFor] at hhistory
    simp only [assembled]
    rw [Session.assemble, hstart]
    simp only [haddress, hvisit, hfills.address, hhistory, hlength, hwalk]
  have hk : k ≤ i := by
    have hle := region.visitedBefore_le visited i
    simp only [k]
    split <;> omega
  rw [hassembled, region.map_place_around hk, ← hwalked, ← hfills.address]
  refine ⟨?_, hwalked.symm ▸ hfills.address.symm ▸ hafter⟩
  simp only [Assembly.insns, List.map_append, List.map_reverse, htold, List.reverse_reverse,
    List.map_cons, List.map_map, Function.comp_def]
  rfl

/-- A window at a place of straight code is not cut, and all that it shows was visited then. -/
theorem Tracks.near (h : Tracks region session visited) {host : Host σ} {request : WindowRequest}
    (hcode : StraightCode host.disassembler process region) (hi : i < region.count)
    (haddress : request.address = region.place i)
    (hoff : (session.startEmulation host process request).1 = .off) :
    let k := if request.history then min request.count (region.visitedBefore visited i) else 0
    let m := min (windowSize request.count - (1 + k)) (region.count - 1 - i)
    let window := session.near host process request
    window.1.map Instruction.address = (List.range' (i - k) (k + 1 + m)).map region.place ∧
      Tracks region window.2 (window.1.map Instruction.address ++ visited) := by
  intro k m window
  obtain ⟨hinsns, hafter⟩ := h.assemble hcode hi haddress hoff
  have hvisited : k ≤ region.visitedBefore visited i := by
    simp only [k]
    split <;> omega
  have hk : k ≤ i := hvisited.trans (region.visitedBefore_le visited i)
  have hnodup : ((List.range' (i - k) (k + 1 + m)).map region.place).Nodup :=
    region.nodup_places (by omega)
  have hwindow : window.1.map Instruction.address =
      (List.range' (i - k) (k + 1 + m)).map region.place := by
    simp only [window]
    rw [near_eq_recorded, collapse_of_nodup, List.reverse_reverse, hinsns]
    rw [List.map_reverse, hinsns]
    exact List.nodup_reverse.mpr hnodup
  have hlast : window.2 = (session.assemble host process request).2 :=
    congrArg Prod.snd (session.near_eq_recorded host process request)
  refine ⟨hwindow, ?_⟩
  rw [hlast, hwindow, region.map_place_around hk]
  refine hafter.congr fun address => ?_
  -- What history told was visited before.
  have htold : address ∈ (List.range' (i - k) k).map region.place → address ∈ visited := by
    rintro hmem
    obtain ⟨j, hj, rfl⟩ := List.mem_map.mp hmem
    rw [List.mem_range'_1] at hj
    exact region.mem_of_visitedBefore (by omega) (by omega : j < i)
  simp only [List.mem_append, List.mem_cons]
  tauto

end Session

end CodeWindow
