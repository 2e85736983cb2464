import CodeWindow.Decoder
import CodeWindow.Emulator.Scripted
import CodeWindow.Proofs.SameCode
import CodeWindow.Proofs.Withheld
import Mathlib.Data.List.Forall2

/-! The values of operands around a step of the emulator. They are found from what was decoded of an
instruction and from the state of the emulator alone, so what the instruction shows from before the
step does not count for what it shows from behind it. -/

namespace CodeWindow

/-- What was decoded of an operand; its values and texts are not known. -/
def Operand.decoded (operand : Operand) : Operand where
  kind := operand.kind
  size := operand.size
  shift := operand.shift
  extend := operand.extend
  subtracted := operand.subtracted

/-- What was decoded of an instruction; nothing else is known of it. -/
def Instruction.decoded (insn : Instruction) : Instruction where
  arch := insn.arch
  mode := insn.mode
  address := insn.address
  size := insn.size
  mnemonic := insn.mnemonic
  operandText := insn.operandText
  bytes := insn.bytes
  groups := insn.groups
  operands := insn.operands.map Operand.decoded

theorem Listing.decoded_of_keptOperand {arch : Architecture} {listed : ListedOperand}
    {operand : Operand} (h : keptOperand arch listed = some operand) :
    operand.decoded = operand := by
  obtain ⟨kind, -, rfl⟩ := Option.map_eq_some_iff.mp h
  split_ifs <;> rfl

/-- An instruction that was just decoded is no more than that. -/
theorem Decoder.decoded_of_decode {decoder : Decoder} {disassembler : Disassembler}
    {code : List UInt8} {address : UInt64} {insn : Instruction}
    (h : decoder.decode disassembler code address = .ok insn) : insn.decoded = insn := by
  unfold decode at h
  split at h
  · obtain rfl := Except.ok.inj h
    have hoperand : ∀ listed : List Listing.ListedOperand,
        ∀ operand ∈ listed.filterMap (Listing.keptOperand decoder.key.arch),
          operand.decoded = id operand := by
      intro listed operand hmem
      obtain ⟨_, -, hkept⟩ := List.mem_filterMap.mp hmem
      exact Listing.decoded_of_keptOperand hkept
    simp only [Instruction.decoded, Listing.instruction, List.map_congr_left (hoperand _),
      List.map_id]
  · contradiction

namespace Instruction

variable {insn : Instruction}

theorem emulated_of_decoded (h : insn.decoded = insn) : insn.emulated = false :=
  h ▸ rfl

theorem values_of_decoded (h : insn.decoded = insn) :
    ∀ operand ∈ insn.operands, operand.afterValue = none ∧ operand.afterResolved = none := by
  rw [← h]
  simp only [decoded, List.mem_map, forall_exists_index, and_imp, forall_apply_eq_imp_iff₂]
  exact fun _ _ => ⟨rfl, rfl⟩

end Instruction

variable {σ : Type} [Emulator σ]

namespace Emulation

variable {emulation : Emulation σ} {insn : Instruction} {state : σ}

theorem eq_of_readyFor_eq (h : emulation.readyFor insn = .active state) :
    emulation = .active state := by
  cases emulation with
  | off => contradiction
  | active state =>
    simp only [readyFor] at h
    split at h
    · exact h
    · contradiction

/-- Only a step that succeeds leaves an emulation. -/
theorem exists_step_of_isActive (h : emulation.step.isActive = true) :
    ∃ state next, emulation = .active state ∧ Emulator.step state = .ok next ∧
      emulation.step = .active next := by
  cases emulation with
  | off => contradiction
  | active state =>
    simp only [step] at h ⊢
    cases hstep : Emulator.step state with
    | error cause =>
      rw [hstep] at h
      contradiction
    | ok next => exact ⟨state, next, rfl, hstep, rfl⟩

end Emulation

namespace Enhancement

/-! ### Evaluation -/

section

variable (isa : Isa) (ctx : Context σ)

/-- Only what was decoded of an instruction counts for the values of its operands. -/
theorem operandValue_decoded (insn : Instruction) (operand : Operand) :
    isa.operandValue ctx insn.decoded operand.decoded = isa.operandValue ctx insn operand := by
  -- AArch64 takes the width of an operand from the first one.
  rcases insn with ⟨arch, mode, address, size, mnemonic, operandText, bytes, groups,
    _ | ⟨first, rest⟩⟩
  · cases isa <;> rfl
  · cases isa <;> rfl

theorem maskedValue_congr {insn other : Instruction} {operand same : Operand}
    (hinsn : insn.decoded = other.decoded) (hoperand : operand.decoded = same.decoded) :
    maskedValue isa ctx insn operand = maskedValue isa ctx other same := by
  unfold maskedValue
  rw [← operandValue_decoded isa ctx insn, hinsn, hoperand, operandValue_decoded]

theorem mapOperands_decoded (insn : Instruction) {change : Operand → Operand}
    (h : ∀ operand, (change operand).decoded = operand.decoded) :
    (mapOperands insn change).decoded = insn.decoded := by
  have hkept : Operand.decoded ∘ change = Operand.decoded := funext h
  simp only [mapOperands, Instruction.decoded, List.map_map, hkept]

theorem valuesBefore_decoded (insn : Instruction) :
    (valuesBefore isa ctx insn).decoded = insn.decoded :=
  mapOperands_decoded insn fun _ => rfl

theorem valuesAfter_decoded (insn : Instruction) :
    (valuesAfter isa ctx insn).decoded = insn.decoded := by
  unfold valuesAfter
  split
  · exact mapOperands_decoded insn fun _ => rfl
  · rfl

theorem withCondition_decoded (insn : Instruction) :
    (withCondition isa ctx insn).decoded = insn.decoded := rfl

theorem withNext_decoded (insn : Instruction) (jumpPc : Option UInt64) :
    (withNext isa ctx insn jumpPc).decoded = insn.decoded := rfl

theorem withTarget_decoded (insn : Instruction) :
    (withTarget isa ctx insn).decoded = insn.decoded := rfl

theorem withNote_decoded (insn : Instruction) :
    (withNote isa ctx insn).decoded = insn.decoded := by
  unfold withNote
  split <;> rfl

theorem conclude_decoded (insn : Instruction) (jumpPc : Option UInt64) :
    (conclude isa ctx insn jumpPc).decoded = insn.decoded := by
  have htargetText : ∀ insn : Instruction,
      (withTargetText ctx.process insn).decoded = insn.decoded := fun _ => rfl
  have hshown : (mapOperands insn fun operand =>
      { operand with display := displayOf ctx.process operand }).decoded = insn.decoded :=
    mapOperands_decoded insn fun _ => rfl
  unfold conclude
  rw [withNote_decoded, htargetText, withTarget_decoded, withNext_decoded, withCondition_decoded,
    hshown]

/-- An operand as it is shown, given what is known before the instruction runs and after it ran. -/
def operandAround (before after : Context σ) (insn : Instruction) (operand : Operand) : Operand :=
  let valued := withBefore isa before insn operand
  let valued := if after.emulator.isSome then withAfter isa after insn valued else valued
  { valued with display := displayOf after.process valued }

/-- The operands that are shown from behind the step are found as if nothing was known from before
it. -/
theorem withAfter_valuesBefore (before : Context σ) (insn : Instruction) (emulated : Bool) :
    withAfter isa ctx { valuesBefore isa before insn with emulated } = withAfter isa ctx insn := by
  funext operand
  have hvalue : maskedValue isa ctx { valuesBefore isa before insn with emulated } operand =
      maskedValue isa ctx insn operand :=
    maskedValue_congr isa ctx (valuesBefore_decoded isa before insn) rfl
  unfold withAfter
  rw [hvalue]
  rfl

end

/-! ### The operands that are shown -/

section

variable (isa : Isa) (process : Process) (config : Config) (insn : Instruction)
  (entering leaving : Emulation σ)

theorem describe_eq_conclude :
    let ctx := contextFor process config insn leaving
    describe isa process config insn entering leaving =
      conclude isa ctx
        (valuesAfter isa ctx { valuesBefore isa (contextFor process config insn entering) insn with
          emulated := leaving.isActive || insn.emulated }) leaving.pc? := by
  cases leaving <;> rfl

/-- Nothing that was decoded of an instruction is changed. -/
theorem describe_decoded :
    (describe isa process config insn entering leaving).decoded = insn.decoded := by
  rw [describe_eq_conclude, conclude_decoded, valuesAfter_decoded]
  exact valuesBefore_decoded isa (contextFor process config insn entering) insn

theorem describe_operands :
    (describe isa process config insn entering leaving).operands =
      insn.operands.map (operandAround isa (contextFor process config insn entering)
        (contextFor process config insn leaving) insn) := by
  rw [describe_eq_conclude, operands_conclude]
  generalize contextFor process config insn entering = before
  generalize contextFor process config insn leaving = after
  unfold valuesAfter operandAround
  split
  · simp only [mapOperands, withAfter_valuesBefore]
    simp only [valuesBefore, mapOperands, List.map_map]
    rfl
  · simp only [valuesBefore, mapOperands, List.map_map]
    rfl

end

section

variable (isa : Isa) (insn : Instruction) (before : Context σ) {after : Context σ}
  (operand : Operand)

theorem operandAround_of_off (hoff : after.emulator = none) :
    (operandAround isa before after insn operand).afterValue = operand.afterValue ∧
      (operandAround isa before after insn operand).afterResolved = operand.afterResolved := by
  simp only [operandAround, hoff, Option.isSome_none, Bool.false_eq_true, if_false]
  exact ⟨rfl, rfl⟩

theorem operandAround_of_emulator {state : σ} (hstate : after.emulator = some state) :
    (operandAround isa before after insn operand).decoded = operand.decoded ∧
      (operandAround isa before after insn operand).beforeValue =
        maskedValue isa before insn operand ∧
      (operandAround isa before after insn operand).afterValue =
        maskedValue isa after insn operand := by
  simp only [operandAround, hstate, Option.isSome_some, if_true]
  exact ⟨rfl, rfl, maskedValue_congr isa after rfl rfl⟩

end

/-- What an enhanced instruction shows of a step of the emulator, for the instruction that was
decoded and the emulation that enters it. -/
structure ValuesAround (isa : Isa) (process : Process) (config : Config) (insn : Instruction)
    (emulation : Emulation σ) (enhanced : Instruction × Emulation σ) : Prop where
  /-- An instruction is emulated when the emulation goes on behind it. -/
  emulated : enhanced.1.emulated = enhanced.2.isActive
  /-- Nothing else shows a value from behind the step. -/
  allowed : ∀ operand ∈ enhanced.1.operands,
    operand.afterValue ≠ none ∨ operand.afterResolved ≠ none →
      enhanced.1.emulated = true ∧ mayUseEmulated process config insn = true
  /-- The values are those that the decoded operands have in the emulator's states. -/
  values : enhanced.1.emulated = true → mayUseEmulated process config insn = true →
    ∃ state next, emulation = .active state ∧ Emulator.step state = .ok next ∧
      enhanced.2 = .active next ∧
      List.Forall₂ (fun operand shown => shown.decoded = operand.decoded ∧
        shown.beforeValue =
          (isa.operandValue { process, config, emulator := some state } insn operand).map
            (· &&& process.machine.pointerMask) ∧
        shown.afterValue =
          (isa.operandValue { process, config, emulator := some next } insn operand).map
            (· &&& process.machine.pointerMask))
        insn.operands enhanced.1.operands

/-- An instruction that was just decoded shows the values of its operands in the states of the
emulator before its step and behind it, and otherwise no value from behind a step. -/
theorem enhance_valuesAround (isa : Isa) (process : Process) (config : Config) {insn : Instruction}
    (hdecoded : insn.decoded = insn) (emulation : Emulation σ) :
    ValuesAround isa process config insn emulation (enhance isa process config insn emulation) := by
  have hemulated : (enhance isa process config insn emulation).1.emulated =
      (enhance isa process config insn emulation).2.isActive := by
    have hsame := describe_sameCode isa process config insn (emulation.readyFor insn)
      (emulation.readyFor insn).step
    rw [Instruction.emulated_of_decoded hdecoded, Bool.or_false] at hsame
    exact hsame.emulated
  have hoperands : (enhance isa process config insn emulation).1.operands =
      insn.operands.map (operandAround isa
        (contextFor process config insn (emulation.readyFor insn))
        (contextFor process config insn (emulation.readyFor insn).step) insn) :=
    describe_operands isa process config insn _ _
  constructor
  case emulated => exact hemulated
  case allowed =>
    intro shown hshown hvalue
    rw [hoperands] at hshown
    obtain ⟨operand, hoperand, rfl⟩ := List.mem_map.mp hshown
    by_contra hnot
    rw [hemulated, not_and_or, Bool.not_eq_true (mayUseEmulated process config insn)] at hnot
    have hwithheld := contextFor_of_withheld (hnot.symm.imp_right Option.not_isSome_iff_eq_none.mp)
    obtain ⟨hafterValue, hafterResolved⟩ := operandAround_of_off isa insn
      (contextFor process config insn (emulation.readyFor insn)) operand
      (congrArg Context.emulator hwithheld)
    obtain ⟨hnoValue, hnoResolved⟩ := Instruction.values_of_decoded hdecoded operand hoperand
    exact hvalue.elim (absurd (hafterValue.trans hnoValue))
      (absurd (hafterResolved.trans hnoResolved))
  case values =>
    intro hon hmay
    rw [hemulated] at hon
    obtain ⟨state, next, hentering, hstep, hleaving⟩ := Emulation.exists_step_of_isActive hon
    have hcontext : ∀ state : σ, contextFor process config insn (.active state) =
        { process, config, emulator := some state } := by
      intro state
      simp only [contextFor, hmay, if_true, Emulation.state?]
    refine ⟨state, next, Emulation.eq_of_readyFor_eq hentering, hstep, hleaving, ?_⟩
    rw [hoperands, hleaving, hentering, hcontext, hcontext, List.forall₂_map_right_iff,
      List.forall₂_same]
    intro operand _
    exact operandAround_of_emulator isa insn _ operand rfl

/-- The process is stopped at an addition that reads the register that it sets. -/
theorem enhance_add_valuesAround :
    let snapshot : Snapshot := {
      machine := .ofArch .x86_64
      registers := (NameMap.empty.insert "rip" 0x402000).insert "rax" 0x1000
      regions := .empty }
    let listing : Listing := {
      size := 3, mnemonic := "add", operandText := "rax, qword ptr [rax]", groups := []
      operands := [{ kind := .register (some "rax"), size := 8 },
        { kind := .memory { base := some "rax" }, size := 8 }] }
    let decoder : Decoder := .ofKey (.ofMachine snapshot.machine .standard)
    let add : Instruction := listing.instruction .x86_64 .standard [0x48, 3, 0] 0x402000
    let state : ScriptedEmulator := {
      snapshot, pc := 0x402000
      steps := [{
        fails := false, pc := 0x402003, registers := [("rax", 0x1005)], regions := [] }] }
    let enhanced := enhance .x86 snapshot.process {} add (.active state)
    decoder.decode (fun _ _ _ => some listing) [0x48, 3, 0] 0x402000 = .ok add ∧
      enhanced.1.emulated = true ∧
      enhanced.1.operands.map (fun operand => (operand.beforeValue, operand.afterValue)) =
        [(some 0x1000, some 0x1005), (some 0x1000, some 0x1005)] ∧
      ValuesAround .x86 snapshot.process {} add (.active state) enhanced := by
  intro snapshot listing decoder add state enhanced
  have hdecode : decoder.decode (fun _ _ _ => some listing) [0x48, 3, 0] 0x402000 = .ok add := rfl
  exact ⟨hdecode, by decide +kernel, by decide +kernel,
    enhance_valuesAround .x86 snapshot.process {} (Decoder.decoded_of_decode hdecode)
      (.active state)⟩

end Enhancement

end CodeWindow
