import CodeWindow.Proofs.NotTaken
import CodeWindow.Proofs.OperandValues

/-! Instructions that are up to date: every step of enhancement leaves them as they are. Enhancement
without an emulator brings an instruction up to date, because each step reads only what was decoded
of the instruction and what the steps before it wrote. So it changes nothing a second time. -/

namespace CodeWindow

variable {σ : Type} [Emulator σ]

namespace Enhancement

/-- An operand with its text. -/
def withDisplay (process : Process) (operand : Operand) : Operand :=
  { operand with display := displayOf process operand }

/-- An instruction with all that is known of it where no emulator leads on. -/
def refresh (isa : Isa) (ctx : Context σ) (insn : Instruction) : Instruction :=
  conclude isa ctx (valuesBefore isa ctx insn) none

/-- An instruction shows what is known of it: each step of enhancement leaves it as it is. -/
structure UpToDate (isa : Isa) (ctx : Context σ) (insn : Instruction) : Prop where
  values : valuesBefore isa ctx insn = insn
  texts : mapOperands insn (withDisplay ctx.process) = insn
  condition : withCondition isa ctx insn = insn
  next : withNext isa ctx insn none = insn
  target : withTarget isa ctx insn = insn
  targetText : withTargetText ctx.process insn = insn
  note : withNote isa ctx insn = insn

section

variable (isa : Isa) (ctx : Context σ) (insn : Instruction)

theorem refresh_eq_steps :
    refresh isa ctx insn =
      withNote isa ctx (withTargetText ctx.process (withTarget isa ctx (withNext isa ctx
        (withCondition isa ctx
          (mapOperands (valuesBefore isa ctx insn) (withDisplay ctx.process))) none))) :=
  rfl

variable {isa ctx insn} in
theorem UpToDate.refresh_eq (h : UpToDate isa ctx insn) : refresh isa ctx insn = insn := by
  rw [refresh_eq_steps, h.values, h.texts, h.condition, h.next, h.target, h.targetText, h.note]

/-! ### Steps that were made before -/

theorem withTarget_eq :
    withTarget isa ctx insn = { insn with
      target := ((isa.branchTarget ctx insn true).map (· &&& ctx.machine.pointerMask)).getD
        insn.next } := by
  unfold withTarget
  cases isa.branchTarget ctx insn true <;> rfl

variable {insn} in
theorem mapOperands_eq_self {change : Operand → Operand}
    (h : ∀ operand ∈ insn.operands, change operand = operand) : mapOperands insn change = insn := by
  rw [mapOperands, List.map_congr_left h, List.map_id']

/-- The values of an operand are found from what was decoded of the instruction and of the
operand. -/
theorem withBefore_of_withBefore {other : Instruction} (hdecoded : other.decoded = insn.decoded)
    (operand : Operand) :
    withBefore isa ctx other (withDisplay ctx.process (withBefore isa ctx insn operand)) =
      withDisplay ctx.process (withBefore isa ctx insn operand) := by
  let shown := withDisplay ctx.process (withBefore isa ctx insn operand)
  have hvalue : maskedValue isa ctx other shown = maskedValue isa ctx insn operand :=
    maskedValue_congr isa ctx hdecoded rfl
  have hused : ∀ value, ctx.usedValue other shown value = ctx.usedValue insn operand value :=
    fun value => (congrArg (ctx.usedValue · operand value) hdecoded :)
  rw [withBefore, hvalue, hused]
  rfl

theorem withTargetText_withTargetText (process : Process) :
    withTargetText process (withTargetText process insn) = withTargetText process insn := by
  have htarget : (withTargetText process insn).hasJumpTarget = insn.hasJumpTarget := rfl
  rw [withTargetText, htarget]
  -- Without a target of its own, the instruction keeps the text that it has.
  simp only [withTargetText]
  split <;> rfl

variable {insn} in
theorem withTargetText_withNote {process : Process} (h : withTargetText process insn = insn) :
    withTargetText process (withNote isa ctx insn) = withNote isa ctx insn := by
  unfold withNote
  split
  · conv_rhs => rw [← h]
    rfl
  · exact h

theorem withNote_withNote : withNote isa ctx (withNote isa ctx insn) = withNote isa ctx insn := by
  unfold withNote
  split
  · cases isa <;> rfl
  · rfl

/-! ### Enhancement again -/

theorem refresh_decoded : (refresh isa ctx insn).decoded = insn.decoded := by
  rw [refresh, conclude_decoded, valuesBefore_decoded]

theorem operands_refresh :
    (refresh isa ctx insn).operands =
      insn.operands.map fun operand =>
        withDisplay ctx.process (withBefore isa ctx insn operand) := by
  rw [refresh, operands_conclude, valuesBefore, mapOperands, List.map_map]
  rfl

theorem upToDate_refresh : UpToDate isa ctx (refresh isa ctx insn) := by
  constructor
  case values =>
    refine mapOperands_eq_self fun shown hmem => ?_
    rw [operands_refresh] at hmem
    obtain ⟨operand, -, rfl⟩ := List.mem_map.mp hmem
    exact withBefore_of_withBefore isa ctx insn (refresh_decoded isa ctx insn) operand
  case texts =>
    refine mapOperands_eq_self fun shown hmem => ?_
    rw [operands_refresh] at hmem
    obtain ⟨operand, -, rfl⟩ := List.mem_map.mp hmem
    rfl
  case condition => rw [withCondition, refresh, ← conclude_condition_eq]
  case next => rw [withNext, refresh, conclude_fallThrough, ← conclude_next_eq]
  case target => rw [withTarget_eq, refresh, ← conclude_target_eq]
  case targetText =>
    rw [refresh_eq_steps]
    exact withTargetText_withNote isa ctx (withTargetText_withTargetText _ _)
  case note =>
    rw [refresh_eq_steps]
    exact withNote_withNote isa ctx _

end

/-- Without an emulator, enhancement changes nothing a second time, whatever was known of the
instruction before. It keeps what was decoded, whether the instruction was emulated, and the values
of operands from behind it. -/
theorem enhance_off_idempotent (isa : Isa) (process : Process) (config : Config)
    (insn : Instruction) :
    let once := enhance isa process config insn (.off : Emulation σ)
    enhance isa process config once.1 .off = once ∧
      once.1.decoded = insn.decoded ∧ once.1.emulated = insn.emulated ∧
      once.1.operands.map (fun operand => (operand.afterValue, operand.afterResolved)) =
        insn.operands.map fun operand => (operand.afterValue, operand.afterResolved) := by
  intro once
  let ctx := contextOff σ process config
  have henhance : ∀ insn : Instruction,
      enhance isa process config insn (.off : Emulation σ) = (refresh isa ctx insn, .off) :=
    fun insn => Prod.ext (enhance_off isa insn) rfl
  have honce : once = (refresh isa ctx insn, .off) := henhance insn
  refine ⟨?_, ?_, ?_, ?_⟩
  · rw [henhance, honce, (upToDate_refresh isa ctx insn).refresh_eq]
  · rw [honce, refresh_decoded]
  · exact (describe_sameCode isa process config insn .off .off).emulated
  · rw [honce, operands_refresh, List.map_map]
    rfl

end Enhancement

end CodeWindow
