import CodeWindow.Proofs.NotTaken

/-! Marks of an encoding's width. The mnemonics of Thumb code may end in a mark that says how wide
the encoding is and nothing else. What enhancement finds out about an instruction follows from the
mnemonic without its mark, except whether the mnemonic itself names a call. -/

namespace CodeWindow

namespace Text

theorem beforeEnd?_append (tail text : String) : beforeEnd? tail (text ++ tail) = some text := by
  have hreversed : tail.toList.reverse ++ text.toList.reverse = (text ++ tail).toList.reverse := by
    rw [String.toList_append, List.reverse_append]
  rw [beforeEnd?, List.isPrefixOf?_eq_some_iff_append_eq.mpr hreversed, Option.map_some,
    List.reverse_reverse, String.ofList_toList]

end Text

/-- The marks of an encoding's width. -/
def widthMarks : List String := [".w", ".n"]

/-- No mnemonic of a call has a mark. -/
theorem Architecture.beforeEnd?_linkingBranches (arch : Architecture) :
    ∀ branch ∈ arch.linkingBranches, ∀ mark ∈ widthMarks, Text.beforeEnd? mark branch = none := by
  cases arch <;> decide

namespace Instruction

/-- An instruction under another mnemonic. -/
def renamed (insn : Instruction) (mnemonic : String) : Instruction := { insn with mnemonic }

/-- Another mnemonic of the same meaning: without their marks the two are the same, and both or
neither name a call. -/
structure Alias (insn : Instruction) (mnemonic : String) : Prop where
  base : (insn.renamed mnemonic).baseMnemonic = insn.baseMnemonic
  call : (insn.renamed mnemonic).isCallLike = insn.isCallLike

variable {insn other : Instruction} {mnemonic mark : String}

namespace Alias

theorem of_sameCode (h : insn.Alias mnemonic) (hsame : other.SameCode insn) :
    other.Alias mnemonic where
  base := by
    have hbase : other.baseMnemonic = insn.baseMnemonic := by
      unfold baseMnemonic
      rw [hsame.mnemonic]
    exact h.base.trans hbase.symm
  call := by
    have hcall : (other.renamed mnemonic).isCallLike = (insn.renamed mnemonic).isCallLike := by
      simp only [isCallLike, hasGroup, renamed, hsame.arch, hsame.groups]
    rw [hcall, h.call, hsame.isCallLike]

theorem isUnconditionalJump (h : insn.Alias mnemonic) :
    (insn.renamed mnemonic).isUnconditionalJump = insn.isUnconditionalJump := by
  rw [Instruction.isUnconditionalJump, h.base]
  rfl

theorem isJumpLike (h : insn.Alias mnemonic) :
    (insn.renamed mnemonic).isJumpLike = insn.isJumpLike := by
  rw [Instruction.isJumpLike, h.call]
  rfl

theorem isConditionalJump (h : insn.Alias mnemonic) :
    (insn.renamed mnemonic).isConditionalJump = insn.isConditionalJump := by
  rw [Instruction.isConditionalJump, h.isJumpLike, h.isUnconditionalJump]
  rfl

theorem blocksEmulation (h : insn.Alias mnemonic) :
    (insn.renamed mnemonic).blocksEmulation = insn.blocksEmulation := by
  rw [Instruction.blocksEmulation, h.call]
  rfl

theorem hasJumpTarget (h : insn.Alias mnemonic) :
    (insn.renamed mnemonic).hasJumpTarget = insn.hasJumpTarget := by
  rw [Instruction.hasJumpTarget, h.isJumpLike]
  rfl

theorem traits (h : insn.Alias mnemonic) : (insn.renamed mnemonic).traits = insn.traits := by
  have htaken :
      (insn.renamed mnemonic).isConditionalJumpTaken = insn.isConditionalJumpTaken := by
    rw [isConditionalJumpTaken, h.isConditionalJump]
    rfl
  have hchanges : (insn.renamed mnemonic).canChangeInstructionPointer =
      insn.canChangeInstructionPointer := rfl
  simp only [Instruction.traits, h.call, h.isUnconditionalJump, h.isJumpLike, h.isConditionalJump,
    htaken, hchanges, h.hasJumpTarget, h.blocksEmulation]

end Alias

theorem baseMnemonic_marked (insn : Instruction) (hmark : mark ∈ widthMarks) (mnemonic : String) :
    (insn.renamed (mnemonic ++ mark)).baseMnemonic = mnemonic := by
  simp only [widthMarks, List.mem_cons, List.not_mem_nil, or_false] at hmark
  rcases hmark with rfl | rfl
  · simp only [baseMnemonic, renamed, Text.beforeEnd?_append]
  · have hwide : Text.beforeEnd? ".w" (mnemonic ++ ".n") = none := by
      unfold Text.beforeEnd?
      rw [String.toList_append, List.reverse_append]
      rfl
    simp only [baseMnemonic, renamed, hwide, Text.beforeEnd?_append, Option.getD_some]

/-- With a mark, only the decoder says whether an instruction calls. -/
theorem isCallLike_marked (insn : Instruction) (hmark : mark ∈ widthMarks) (mnemonic : String) :
    (insn.renamed (mnemonic ++ mark)).isCallLike = insn.hasGroup .call := by
  have hlinking : insn.arch.linkingBranches.contains (mnemonic ++ mark) = false := by
    rw [← Bool.not_eq_true, List.contains_iff_mem]
    intro hmem
    have hnone := insn.arch.beforeEnd?_linkingBranches _ hmem mark hmark
    rw [Text.beforeEnd?_append] at hnone
    contradiction
  show (insn.hasGroup .call || insn.arch.linkingBranches.contains (mnemonic ++ mark)) = _
  rw [hlinking, Bool.or_false]

theorem alias_marked_iff (hplain : insn.baseMnemonic = insn.mnemonic) (hmark : mark ∈ widthMarks) :
    insn.Alias (insn.mnemonic ++ mark) ↔
      (insn.mnemonic ∈ insn.arch.linkingBranches → insn.hasGroup .call = true) := by
  have hcall : (insn.renamed (insn.mnemonic ++ mark)).isCallLike = insn.isCallLike ↔
      (insn.mnemonic ∈ insn.arch.linkingBranches → insn.hasGroup .call = true) := by
    rw [isCallLike_marked insn hmark, isCallLike, ← List.contains_iff_mem]
    cases insn.hasGroup .call <;> cases insn.arch.linkingBranches.contains insn.mnemonic <;> decide
  rw [← hcall]
  refine ⟨fun h => h.call, fun h => ⟨?_, h⟩⟩
  rw [baseMnemonic_marked insn hmark, hplain]

theorem mem_traits_call_like : "call_like" ∈ insn.traits ↔ insn.isCallLike = true := by
  unfold traits
  cases insn.isCallLike <;> simp

end Instruction

variable {σ : Type} [Emulator σ]

namespace Enhancement

open Instruction

section

variable (ctx : Context σ) {insn : Instruction} {mnemonic : String}

theorem condition_renamed (h : insn.Alias mnemonic) :
    Isa.arm.condition ctx (insn.renamed mnemonic) = Isa.arm.condition ctx insn := by
  have hoperands : (insn.renamed mnemonic).operands = insn.operands := rfl
  have hflags :
      Isa.Arm.flagsOutcome ctx (insn.renamed mnemonic) = Isa.Arm.flagsOutcome ctx insn := by
    rw [Isa.Arm.flagsOutcome, h.base]
    rfl
  show Isa.Arm.condition ctx (insn.renamed mnemonic) = Isa.Arm.condition ctx insn
  unfold Isa.Arm.condition
  rw [h.base, h.isJumpLike, hflags, hoperands]

theorem branchTarget_renamed (h : insn.Alias mnemonic) (call : Bool) :
    Isa.arm.branchTarget ctx (insn.renamed mnemonic) call = Isa.arm.branchTarget ctx insn call := by
  have hmay : Context.mayBranch (insn.renamed mnemonic) call = Context.mayBranch insn call := by
    rw [Context.mayBranch, h.call]
    rfl
  show ctx.branchTarget (insn.renamed mnemonic) call = ctx.branchTarget insn call
  unfold Context.branchTarget
  rw [hmay]
  rfl

theorem note_renamed (h : insn.Alias mnemonic) :
    Isa.arm.note ctx (insn.renamed mnemonic) = Isa.arm.note ctx insn := by
  show Isa.Arm.note ctx (insn.renamed mnemonic) = Isa.Arm.note ctx insn
  unfold Isa.Arm.note
  rw [h.base]
  rfl

theorem successor?_renamed (h : insn.Alias mnemonic) (jumpPc : Option UInt64) :
    successor? .arm ctx (insn.renamed mnemonic) jumpPc = successor? .arm ctx insn jumpPc := by
  have hcondition : (insn.renamed mnemonic).condition = insn.condition := rfl
  unfold successor?
  rw [branchTarget_renamed ctx h, h.call, h.isUnconditionalJump, hcondition]

/-! ### Steps of enhancement -/

theorem valuesAfter_renamed (insn : Instruction) (mnemonic : String) :
    valuesAfter .arm ctx (insn.renamed mnemonic) =
      (valuesAfter .arm ctx insn).renamed mnemonic := by
  unfold valuesAfter
  split <;> rfl

theorem withCondition_renamed (h : insn.Alias mnemonic) :
    withCondition .arm ctx (insn.renamed mnemonic) =
      (withCondition .arm ctx insn).renamed mnemonic := by
  rw [withCondition, condition_renamed ctx h]
  rfl

theorem withNext_renamed (h : insn.Alias mnemonic) (jumpPc : Option UInt64) :
    withNext .arm ctx (insn.renamed mnemonic) jumpPc =
      (withNext .arm ctx insn jumpPc).renamed mnemonic := by
  rw [withNext, successor?_renamed ctx h]
  rfl

theorem withTarget_renamed (h : insn.Alias mnemonic) :
    withTarget .arm ctx (insn.renamed mnemonic) =
      (withTarget .arm ctx insn).renamed mnemonic := by
  rw [withTarget, branchTarget_renamed ctx h]
  rfl

theorem withTargetText_renamed (h : insn.Alias mnemonic) (process : Process) :
    withTargetText process (insn.renamed mnemonic) =
      (withTargetText process insn).renamed mnemonic := by
  rw [withTargetText, h.hasJumpTarget]
  rfl

theorem withNote_renamed (h : insn.Alias mnemonic) :
    withNote .arm ctx (insn.renamed mnemonic) = (withNote .arm ctx insn).renamed mnemonic := by
  rw [withNote, withNote, note_renamed ctx h]
  split <;> rfl

theorem conclude_renamed (h : insn.Alias mnemonic) (jumpPc : Option UInt64) :
    conclude .arm ctx (insn.renamed mnemonic) jumpPc =
      (conclude .arm ctx insn jumpPc).renamed mnemonic := by
  let shown := mapOperands insn fun operand =>
    { operand with display := displayOf ctx.process operand }
  let conditioned := withCondition .arm ctx shown
  let directed := withTarget .arm ctx (withNext .arm ctx conditioned jumpPc)
  have hshown : shown.Alias mnemonic := h.of_sameCode ⟨rfl, rfl, rfl, rfl, rfl⟩
  have hconditioned : conditioned.Alias mnemonic := hshown.of_sameCode ⟨rfl, rfl, rfl, rfl, rfl⟩
  have hnext : (withNext .arm ctx conditioned jumpPc).Alias mnemonic :=
    hconditioned.of_sameCode (withNext_sameCode .arm ctx conditioned jumpPc)
  have hdirected : directed.Alias mnemonic := hnext.of_sameCode (withTarget_sameCode .arm ctx _)
  have htext : (withTargetText ctx.process directed).Alias mnemonic :=
    hdirected.of_sameCode (withTargetText_sameCode ctx.process directed)
  calc conclude .arm ctx (insn.renamed mnemonic) jumpPc
      = withNote .arm ctx (withTargetText ctx.process (withTarget .arm ctx
          (withNext .arm ctx (withCondition .arm ctx (shown.renamed mnemonic)) jumpPc))) := rfl
    _ = withNote .arm ctx (withTargetText ctx.process (withTarget .arm ctx
          ((withNext .arm ctx conditioned jumpPc).renamed mnemonic))) := by
        rw [withCondition_renamed ctx hshown, withNext_renamed ctx hconditioned]
    _ = (withNote .arm ctx (withTargetText ctx.process directed)).renamed mnemonic := by
        rw [withTarget_renamed ctx hnext, withTargetText_renamed hdirected,
          withNote_renamed ctx htext]

end

section

variable {insn : Instruction} {mnemonic : String} (process : Process) (config : Config)

theorem describe_renamed (h : insn.Alias mnemonic) (entering leaving : Emulation σ) :
    describe .arm process config (insn.renamed mnemonic) entering leaving =
      (describe .arm process config insn entering leaving).renamed mnemonic := by
  let ctx := contextFor process config insn leaving
  let stepped : Instruction :=
    { valuesBefore .arm (contextFor process config insn entering) insn with
      emulated := leaving.isActive || insn.emulated }
  have hstepped : stepped.Alias mnemonic := ⟨h.base, h.call⟩
  have hafter : (valuesAfter .arm ctx stepped).Alias mnemonic :=
    hstepped.of_sameCode (valuesAfter_sameCode .arm ctx stepped)
  calc describe .arm process config (insn.renamed mnemonic) entering leaving
      = conclude .arm ctx (valuesAfter .arm ctx (stepped.renamed mnemonic)) leaving.pc? :=
        describe_eq_conclude ..
    _ = (conclude .arm ctx (valuesAfter .arm ctx stepped) leaving.pc?).renamed mnemonic := by
        rw [valuesAfter_renamed, conclude_renamed ctx hafter]
    _ = (describe .arm process config insn entering leaving).renamed mnemonic := by
        rw [describe_eq_conclude]

/-- A mnemonic of the same meaning changes nothing else about an instruction and its emulation. -/
theorem enhance_renamed (h : insn.Alias mnemonic) (emulation : Emulation σ) :
    enhance .arm process config (insn.renamed mnemonic) emulation =
      ((enhance .arm process config insn emulation).1.renamed mnemonic,
        (enhance .arm process config insn emulation).2) := by
  have hready : emulation.readyFor (insn.renamed mnemonic) = emulation.readyFor insn := by
    unfold Emulation.readyFor
    rw [h.blocksEmulation]
    rfl
  simp only [enhance]
  rw [hready, describe_renamed process config h]

theorem enhance_alias (h : insn.Alias mnemonic) (emulation : Emulation σ) :
    (enhance .arm process config insn emulation).1.Alias mnemonic := by
  let stepped : Instruction :=
    { insn with emulated := (emulation.readyFor insn).step.isActive || insn.emulated }
  have hstepped : stepped.Alias mnemonic := ⟨h.base, h.call⟩
  exact hstepped.of_sameCode (describe_sameCode .arm process config insn _ _)

end

/-- Enhancement finds out the same about an instruction and about one that only has another
mnemonic. -/
structure SameMeaning (mnemonic : String) (plain marked : Instruction × Emulation σ) : Prop where
  insn : marked.1 = plain.1.renamed mnemonic
  emulation : marked.2 = plain.2
  traits : marked.1.traits = plain.1.traits

/-- The mark of an encoding's width changes nothing about an instruction, unless its mnemonic names
a call that the decoder does not report as one. -/
theorem enhance_marked_iff {insn : Instruction} (hplain : insn.baseMnemonic = insn.mnemonic)
    {mark : String} (hmark : mark ∈ widthMarks) (process : Process) (config : Config)
    (emulation : Emulation σ) :
    SameMeaning (insn.mnemonic ++ mark) (enhance .arm process config insn emulation)
        (enhance .arm process config (insn.renamed (insn.mnemonic ++ mark)) emulation) ↔
      (insn.mnemonic ∈ insn.arch.linkingBranches → insn.hasGroup .call = true) := by
  rw [← alias_marked_iff hplain hmark]
  constructor
  · intro h
    have hcode : ∀ insn : Instruction,
        (enhance .arm process config insn emulation).1.isCallLike = insn.isCallLike := by
      intro insn
      exact (describe_sameCode .arm process config insn _ _).isCallLike
    have hcalls := congrArg ("call_like" ∈ ·) h.traits
    rw [eq_iff_iff, mem_traits_call_like, mem_traits_call_like, hcode, hcode] at hcalls
    constructor
    case base => rw [baseMnemonic_marked insn hmark, hplain]
    case call => exact Bool.eq_iff_iff.mpr hcalls
  · intro h
    rw [enhance_renamed process config h]
    exact ⟨rfl, rfl, (enhance_alias process config h emulation).traits⟩

/-- A conditional branch is taken in the wide encoding as in the narrow one. -/
theorem enhance_wide_branch :
    let snapshot : Snapshot := {
      machine := .ofArch .armCortexM
      registers := (NameMap.empty.insert "pc" 0x10000).insert "xpsr" 0x41000000 }
    let branch : Instruction := {
      arch := .armCortexM, mode := .mClassThumb, address := 0x10000, size := 4
      mnemonic := "beq", groups := [.jump, .branchRelative]
      operands := [{ kind := .immediate 0x20000 }] }
    let shown (insn : Instruction) := enhance .arm snapshot.process {} insn (.off : Emulation Empty)
    let wide : Instruction := branch.renamed (branch.mnemonic ++ ".w")
    branch.baseMnemonic = branch.mnemonic ∧ ".w" ∈ widthMarks ∧ wide.mnemonic = "beq.w" ∧
      (shown wide).1.condition = .holds ∧ (shown wide).1.next = 0x20000 ∧
      SameMeaning "beq.w" (shown branch) (shown wide) := by
  intro snapshot branch shown wide
  have hplain : branch.baseMnemonic = branch.mnemonic := by decide
  have hmark : ".w" ∈ widthMarks := by decide
  exact ⟨hplain, hmark, by decide, by decide +kernel, by decide +kernel,
    (enhance_marked_iff hplain hmark snapshot.process {} .off).mpr (by decide)⟩

/-- A call that is not reported as one is a jump in the wide encoding: the path goes on at its
target and not behind it, and an emulator may step it. -/
theorem enhance_wide_call_differs :
    let snapshot : Snapshot := {
      machine := .ofArch .armCortexM
      registers := (NameMap.empty.insert "pc" 0x10000).insert "xpsr" 0x1000000 }
    let call : Instruction := {
      arch := .armCortexM, mode := .mClassThumb, address := 0x10000, size := 4
      mnemonic := "bl", groups := [.jump], operands := [{ kind := .immediate 0x20000 }] }
    let shown (insn : Instruction) := enhance .arm snapshot.process {} insn (.off : Emulation Empty)
    let wide : Instruction := call.renamed "bl.w"
    call.baseMnemonic = call.mnemonic ∧ wide.baseMnemonic = call.mnemonic ∧
      (shown call).1.next = 0x10004 ∧ (shown wide).1.next = 0x20000 ∧
      (shown call).1.traits ≠ (shown wide).1.traits ∧
      (shown call).1.blocksEmulation = true ∧ (shown wide).1.blocksEmulation = false ∧
      ¬ SameMeaning "bl.w" (shown call) (shown wide) := by
  intro snapshot call shown wide
  have htraits : (shown call).1.traits ≠ (shown wide).1.traits := by decide +kernel
  exact ⟨by decide, by decide, by decide +kernel, by decide +kernel, htraits, by decide +kernel,
    by decide +kernel, fun h => htraits h.traits.symm⟩

end Enhancement

end CodeWindow
