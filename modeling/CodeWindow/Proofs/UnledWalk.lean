import CodeWindow.Emulator.Scripted
import CodeWindow.Proofs.Sight
import Mathlib.Data.List.Chain

/-! Windows that no emulator leads. Behind the current instruction they follow successors: each
instruction stands where the one before it leads, and the walk is as long as it may be unless it
comes to an address where nothing can be read or decoded. -/

namespace CodeWindow

variable {σ : Type} [Emulator σ]

namespace Session

/-- A walk of at most so many instructions along the successors behind one, given what is seen at
each address. It ends early only where nothing is seen. -/
inductive Trail (sees : UInt64 → Option Instruction) : Nat → Instruction → List Instruction → Prop
  | full {last : Instruction} : Trail sees 0 last []
  | blind {count : Nat} {last : Instruction} (hsees : sees last.next = none) :
      Trail sees (count + 1) last []
  | step {count : Nat} {last insn : Instruction} {later : List Instruction}
      (hsees : sees last.next = some insn) (hlater : Trail sees count insn later) :
      Trail sees (count + 1) last (insn :: later)

namespace Trail

variable {sees : UInt64 → Option Instruction} {count : Nat} {last : Instruction}
  {later : List Instruction}

theorem length_le (h : Trail sees count last later) : later.length ≤ count := by
  induction h with
  | full => exact Nat.le_refl 0
  | blind => exact Nat.zero_le _
  | step _ _ ih => exact Nat.succ_le_succ ih

/-- Where an instruction is seen at its own address only, so is each one of a walk. -/
theorem seen (h : Trail sees count last later)
    (hplaced : ∀ address insn, sees address = some insn → insn.address = address) :
    ∀ insn ∈ later, sees insn.address = some insn := by
  induction h with
  | full | blind => exact List.forall_mem_nil _
  | step hsees _ ih =>
    exact List.forall_mem_cons.mpr ⟨(hplaced _ _ hsees).symm ▸ hsees, ih⟩

end Trail

variable {session after : Session} {process : Process}

theorem SameSight.visit (h : SameSight process session after) (disassembler : Disassembler)
    (address : UInt64) :
    (after.visit disassembler process address (.off : Emulation σ)).1 =
      (session.visit disassembler process address (.off : Emulation σ)).1 := by
  obtain ⟨visit?, remaining, next, nextAfter, hvisit, hvisitAfter, -⟩ :=
    h.visitRecorded disassembler address (.off : Emulation σ)
  rw [visit_eq_recorded, visit_eq_recorded, hvisit, hvisitAfter]

end Session

end CodeWindow
