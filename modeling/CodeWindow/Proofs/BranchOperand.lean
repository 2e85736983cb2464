import CodeWindow.Emulator.Scripted
import CodeWindow.Enhancement

/-! Targets of branches that have no operand or several. The rightmost operand that leads to code
names the target. Whether a value leads to code is asked of the symbol of its operand, which for an
operand in memory is the symbol of the place that holds the value, and not of the value. -/

namespace CodeWindow

/-- The value of an operand is no wider than a pointer, and its symbol is the one at this value. -/
structure Operand.Labelled (process : Process) (operand : Operand) : Prop where
  masked : ∀ place, operand.beforeValue = some place →
    place &&& process.machine.pointerMask = place
  symbol : operand.symbol = operand.beforeValue.bind process.symbolAt

variable {σ : Type} [Emulator σ]

namespace Context

section

variable (ctx : Context σ)

/-- A place lies in an executable page. -/
def isExecutable (place : UInt64) : Bool :=
  match ctx.process.pageAt place with
  | some page => page.executable
  | none => false

/-- A place is code in itself: it has a symbol, or it lies in an executable page. -/
def isCode (place : UInt64) : Bool :=
  (ctx.process.symbolAt place).isSome || ctx.isExecutable place

/-- The place that the used value of an operand leads to, if that place is code in itself. -/
def codePlace? (insn : Instruction) (operand : Operand) : Option UInt64 :=
  ((ctx.usedNonzero insn operand).map (· &&& ctx.machine.pointerMask)).filter ctx.isCode

/-- A number that leads to no executable page has a symbol exactly if the place in memory that it
is read from has one. -/
def LabelsAgree : Prop :=
  ∀ (insn : Instruction) (place : UInt64) (size : Nat) (value : UInt64),
    place &&& ctx.machine.pointerMask = place →
    ctx.readMemory insn place (if size = 0 then ctx.machine.pointerSize else size) = some value →
    value ≠ 0 → ctx.isExecutable (value &&& ctx.machine.pointerMask) = false →
      (ctx.process.symbolAt place).isSome =
        (ctx.process.symbolAt (value &&& ctx.machine.pointerMask)).isSome

/-! ### One operand -/

variable {ctx} {insn : Instruction} {operand : Operand}

theorem usedValue_of_value (hvalue : operand.isMemory = false) (value : Option UInt64) :
    ctx.usedValue insn operand value = value := by
  unfold usedValue
  split
  · simp_all [Operand.isMemory, Operand.memory?]
  · rfl

theorem usedValue_of_memory (hmemory : operand.isMemory = true) (value : Option UInt64) :
    ctx.usedValue insn operand value = value.bind fun place =>
      ctx.readMemory insn place
        (if operand.size = 0 then ctx.machine.pointerSize else operand.size) := by
  unfold usedValue
  cases value with
  | none => rfl
  | some place =>
    split
    · simp_all
    · simp_all [Operand.isMemory, Operand.memory?]

theorem codeOperand?_eq : ctx.codeOperand? insn operand =
    ((ctx.usedNonzero insn operand).map (· &&& ctx.machine.pointerMask)).filter
      fun place => operand.symbol.isSome || ctx.isExecutable place := by
  unfold codeOperand?
  cases ctx.usedNonzero insn operand <;> rfl

theorem codeOperand?_eq_codePlace? (h : ∀ value, ctx.usedNonzero insn operand = some value →
      ctx.isExecutable (value &&& ctx.machine.pointerMask) = false →
      operand.symbol.isSome =
        (ctx.process.symbolAt (value &&& ctx.machine.pointerMask)).isSome) :
    ctx.codeOperand? insn operand = ctx.codePlace? insn operand := by
  rw [codeOperand?_eq, codePlace?]
  cases hused : ctx.usedNonzero insn operand with
  | none => rfl
  | some value =>
    have hcode : (operand.symbol.isSome || ctx.isExecutable (value &&& ctx.machine.pointerMask)) =
        ctx.isCode (value &&& ctx.machine.pointerMask) := by
      unfold isCode
      cases hexecutable : ctx.isExecutable (value &&& ctx.machine.pointerMask) with
      | true => simp only [Bool.or_true]
      | false => rw [h value hused hexecutable]
    simp only [Option.map_some, Option.filter_some, hcode]

/-- Outside memory, the symbol of an operand is the symbol of the value that is used. -/
theorem codeOperand?_of_value (hlabelled : operand.Labelled ctx.process)
    (hvalue : operand.isMemory = false) :
    ctx.codeOperand? insn operand = ctx.codePlace? insn operand := by
  refine codeOperand?_eq_codePlace? fun value hused _ => ?_
  obtain ⟨hbefore, -⟩ := Option.filter_eq_some_iff.mp hused
  rw [usedValue_of_value hvalue] at hbefore
  rw [Context.machine, hlabelled.masked value hbefore, hlabelled.symbol, hbefore, Option.bind_some]

/-- In memory, it is the symbol of the place that the value is read from. -/
theorem codeOperand?_of_memory (hlabelled : operand.Labelled ctx.process)
    (hmemory : operand.isMemory = true) (hlabels : ctx.LabelsAgree) :
    ctx.codeOperand? insn operand = ctx.codePlace? insn operand := by
  refine codeOperand?_eq_codePlace? fun value hused hexecutable => ?_
  obtain ⟨hread, hnonzero⟩ := Option.filter_eq_some_iff.mp hused
  rw [usedValue_of_memory hmemory] at hread
  obtain ⟨place, hbefore, hread⟩ := Option.bind_eq_some_iff.mp hread
  rw [hlabelled.symbol, hbefore, Option.bind_some]
  exact hlabels insn place operand.size value (hlabelled.masked place hbefore) hread
    (bne_iff_ne.mp hnonzero) hexecutable

/-! ### The scan over the operands -/

variable {call : Bool}

theorem branchTarget_eq_findSome? (hmay : mayBranch insn call = true)
    (hcount : insn.operands.length ≠ 1) :
    ctx.branchTarget insn call = insn.operands.reverse.findSome? (ctx.codeOperand? insn) := by
  unfold branchTarget
  rw [if_pos hmay]
  split
  · simp_all
  · rfl

/-- The target is the rightmost place that is code, if the operands are right about that. -/
theorem branchTarget_eq_rightmost (hmay : mayBranch insn call = true)
    (hcount : insn.operands.length ≠ 1)
    (hoperands : ∀ operand ∈ insn.operands,
      ctx.codeOperand? insn operand = ctx.codePlace? insn operand) :
    ctx.branchTarget insn call = insn.operands.reverse.findSome? (ctx.codePlace? insn) := by
  have hplaces : insn.operands.reverse.map (ctx.codeOperand? insn) =
      insn.operands.reverse.map (ctx.codePlace? insn) :=
    List.map_congr_left fun operand hmem => hoperands operand (List.mem_reverse.mp hmem)
  have hscan : ∀ place? : Operand → Option UInt64, insn.operands.reverse.findSome? place? =
      (insn.operands.reverse.map place?).findSome? id := by
    intro place?
    rw [List.findSome?_map, Function.id_comp]
  rw [branchTarget_eq_findSome? hmay hcount, hscan, hplaces, ← hscan]

end

end Context

namespace Enhancement

open Context

variable (isa : Isa) {entering ctx : Context σ} {insn : Instruction}

theorem withBefore_labelled (hprocess : entering.process = ctx.process) (operand : Operand) :
    (withBefore isa entering insn operand).Labelled ctx.process := by
  constructor
  case masked =>
    intro place hplace
    obtain ⟨value, -, rfl⟩ := Option.map_eq_some_iff.mp hplace
    rw [← hprocess, UInt64.and_assoc, Context.machine, UInt64.and_self]
  case symbol => rw [← hprocess]; rfl

/-- A jump through an absolute address, which follows an operand that leads nowhere. -/
def slotJump (insn : Instruction) (place : UInt64) (size : Nat) : Instruction where
  arch := .x86_64
  address := insn.address
  size := insn.size
  mnemonic := "jmp"
  groups := [.jump]
  operands := [{ kind := .immediate 0 }, { kind := .memory { disp := place.toInt64 }, size }]

/-- The jump leads to the number at the address by the symbol of the address, and in itself by the
symbol of the number. -/
theorem slotJump_scans {place value : UInt64} {size : Nat}
    (hplace : place &&& ctx.machine.pointerMask = place)
    (hread : ctx.readMemory insn place (if size = 0 then ctx.machine.pointerSize else size) =
      some value) (hnonzero : value ≠ 0) :
    let filled := valuesBefore .x86 ctx (slotJump insn place size)
    let target := some (value &&& ctx.machine.pointerMask)
    filled.operands.reverse.findSome? (ctx.codeOperand? filled) =
        target.filter (fun target =>
          (ctx.process.symbolAt place).isSome || ctx.isExecutable target) ∧
      filled.operands.reverse.findSome? (ctx.codePlace? filled) = target.filter ctx.isCode := by
  intro filled target
  let zero : Operand := withBefore .x86 ctx (slotJump insn place size) { kind := .immediate 0 }
  let slot : Operand := withBefore .x86 ctx (slotJump insn place size)
    { kind := .memory { disp := place.toInt64 }, size }
  have hzero : ctx.usedNonzero filled zero = none := by
    have hbefore : zero.beforeValue = some 0 := congrArg some UInt64.zero_and
    rw [usedNonzero, usedValue_of_value rfl, hbefore]
    rfl
  have hbefore : slot.beforeValue = some place := by
    simp [slot, withBefore, maskedValue, Isa.operandValue, Isa.address, Isa.X86.address,
      Operand.memory?, hplace]
  have hsymbol : slot.symbol = ctx.process.symbolAt place := by
    have hlabelled : slot.Labelled ctx.process := withBefore_labelled .x86 rfl _
    rw [hlabelled.symbol, hbefore, Option.bind_some]
  have hslot : ctx.usedNonzero filled slot = some value := by
    have hvalue : ctx.usedValue filled slot slot.beforeValue = some value := by
      rw [usedValue_of_memory rfl, hbefore, Option.bind_some]
      exact hread
    rw [usedNonzero, hvalue, Option.filter_some, if_pos (bne_iff_ne.mpr hnonzero)]
  have hscan : ∀ place? : Operand → Option UInt64, place? zero = none →
      filled.operands.reverse.findSome? place? = place? slot := by
    intro place? hnone
    have hoperands : filled.operands.reverse = [slot, zero] := rfl
    rw [hoperands, List.findSome?_cons, List.findSome?_cons, hnone]
    cases place? slot <;> rfl
  constructor
  · rw [hscan _ (by rw [codeOperand?_eq, hzero]; rfl), codeOperand?_eq, hslot, hsymbol]
    rfl
  · rw [hscan _ (by rw [codePlace?, hzero]; rfl), codePlace?, hslot]
    rfl

/-- Every branch leads to the rightmost of its operands that is code in itself exactly if the symbol
of each place that a number is read from agrees with the symbol of the number. -/
theorem branchTarget_rightmost_iff (ctx : Context σ) :
    (∀ (isa : Isa) (entering : Context σ) (insn : Instruction) (call : Bool),
      entering.process = ctx.process → mayBranch insn call = true →
        insn.operands.length ≠ 1 →
          let filled := valuesBefore isa entering insn
          isa.branchTarget ctx filled call = ctx.branchTarget filled call →
            isa.branchTarget ctx filled call =
              filled.operands.reverse.findSome? (ctx.codePlace? filled)) ↔
      ctx.LabelsAgree := by
  constructor
  case mp =>
    intro hrule insn place size value hplace hread hnonzero hexecutable
    obtain ⟨hcode, hplaces⟩ := slotJump_scans hplace hread hnonzero
    let jump : Instruction := slotJump insn place size
    let filled : Instruction := valuesBefore .x86 ctx jump
    have hmay : mayBranch filled false = true := rfl
    have hcount : filled.operands.length ≠ 1 := Nat.succ_ne_self 1
    have htarget : ctx.branchTarget filled false =
        filled.operands.reverse.findSome? (ctx.codePlace? filled) :=
      hrule .x86 ctx jump false rfl hmay hcount rfl
    rw [branchTarget_eq_findSome? hmay hcount, hcode, hplaces] at htarget
    have hboth := congrArg Option.isSome htarget
    simpa [isCode, hexecutable] using hboth
  case mpr =>
    intro hlabels isa entering insn call hprocess hmay hcount filled hgeneric
    rw [hgeneric]
    refine branchTarget_eq_rightmost hmay (by simpa [filled, valuesBefore, mapOperands]) ?_
    intro operand hmem
    obtain ⟨decoded, -, rfl⟩ := List.mem_map.mp hmem
    have hlabelled : (withBefore isa entering insn decoded).Labelled ctx.process :=
      withBefore_labelled isa hprocess decoded
    cases hmemory : (withBefore isa entering insn decoded).isMemory with
    | false => exact codeOperand?_of_value hlabelled hmemory
    | true => exact codeOperand?_of_memory hlabelled hmemory hlabels

/-- The program counter is loaded from memory. The load leads to the number there if only the place
has a symbol, and it leads nowhere if only the number has one. -/
theorem branchTarget_asks_slot :
    let snapshot (symbol : Symbol) : Snapshot := {
      machine := .ofArch .arm
      registers := (NameMap.empty.insert "pc" 0x10000).insert "r0" 0x20000
      regions := AddressMap.empty.insert 0x20000 {
        start := 0x20000, data := [0, 0, 3, 0], readable := true, writable := true
        executable := false, objfile := "" }
      symbols := SymbolTable.empty.insert symbol }
    let load : Instruction := {
      arch := .arm, mode := .arm, address := 0x10000, size := 4, mnemonic := "ldr"
      groups := [.jump]
      operands := [{ kind := .register "pc" }, { kind := .memory { base := some "r0" } }] }
    let ctx (symbol : Symbol) : Context ScriptedEmulator := {
      process := (snapshot symbol).process, config := {}, emulator := none }
    let filled (symbol : Symbol) : Instruction := valuesBefore .arm (ctx symbol) load
    let target (symbol : Symbol) : Option UInt64 :=
      Isa.arm.branchTarget (ctx symbol) (filled symbol) false
    let rightmost (symbol : Symbol) : Option UInt64 :=
      (filled symbol).operands.reverse.findSome? ((ctx symbol).codePlace? (filled symbol))
    let slot : Symbol := { name := "slot", address := 0x20000, size := 4, kind := .data }
    let handler : Symbol := {
      name := "handler", address := 0x30000, size := 4, kind := .function }
    target slot = some 0x30000 ∧ rightmost slot = none ∧
      target handler = none ∧ rightmost handler = some 0x30000 := by
  intro snapshot load ctx filled target rightmost slot handler
  exact ⟨by decide +kernel, by decide +kernel, by decide +kernel, by decide +kernel⟩

end Enhancement

end CodeWindow
