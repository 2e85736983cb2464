import CodeWindow.Note

/-! What an instruction can tell of a process that is stopped elsewhere. Two processes with the same
map may differ in their registers and in what their memory holds. Contexts over them are alike for
an instruction when they share the emulator and, where there is none, agree on the numbers that lie
in memory that cannot be written and on the strings that such memory leads to. Alike contexts answer
every question about the instruction alike. -/

namespace CodeWindow

namespace Process

/-- Two processes are the same but for what their registers and their memory hold. -/
structure SameMap (p q : Process) : Prop where
  machine : p.machine = q.machine
  pc : p.pc = q.pc
  symbolAt : p.symbolAt = q.symbolAt
  pageAt : p.pageAt = q.pageAt
  peek : ∀ address, p.peek address = q.peek address

theorem SameMap.isReadOnly {p q : Process} (h : SameMap p q) (address : UInt64) :
    p.isReadOnly address = q.isReadOnly address := by
  simp only [Process.isReadOnly, h.pageAt]

/-- An address lies in a page that can be written. -/
def isWritable (process : Process) (address : UInt64) : Bool :=
  match process.pageAt address with
  | some page => page.writable
  | none => false

theorem isWritable_of_isReadOnly {p : Process} {address : UInt64}
    (h : p.isReadOnly address = true) : p.isWritable address = false := by
  unfold isReadOnly at h
  unfold isWritable
  cases hpage : p.pageAt address with
  | none => rfl
  | some page => simpa [hpage] using h

/-- Two processes are the same but for their registers. -/
structure SameMemory (p q : Process) : Prop where
  machine : p.machine = q.machine
  pc : p.pc = q.pc
  symbolAt : p.symbolAt = q.symbolAt
  pageAt : p.pageAt = q.pageAt
  read : p.read = q.read

theorem SameMemory.sameMap {p q : Process} (h : SameMemory p q) : SameMap p q where
  machine := h.machine
  pc := h.pc
  symbolAt := h.symbolAt
  pageAt := h.pageAt
  peek address := by simp only [Process.peek, h.read]

/-- Some of so many bytes from an address on can be written. -/
def ReachesWritable (p : Process) (address : UInt64) (length : Nat) : Prop :=
  ∃ i < length, p.isWritable (address + UInt64.ofNat i) = true

/-- Two processes are the same but for what their memory holds where it can be written. -/
structure SameConstants (p q : Process) : Prop extends SameMap p q where
  register : p.register = q.register
  sp : p.sp = q.sp
  read : ∀ mode address length, ¬ p.ReachesWritable address length →
    p.read mode address length = q.read mode address length

/-- What an instruction takes from so many bytes in memory: a number smaller than a pointer, or else
a pointer. -/
def number? (p : Process) (place : UInt64) (size : Nat) : Option UInt64 :=
  if size < p.machine.pointerSize then (p.readUInt place size).toOption else p.pointer? place

theorem singleRead_eq (p : Process) (place : UInt64) (size : Nat) :
    p.singleRead place size = place :: (p.readUInt place size).toOption.toList := by
  unfold singleRead
  cases p.readUInt place size <;> rfl

theorem chain_pointerSize (p : Process) (pointer? : UInt64 → Option UInt64) (place : UInt64)
    (limit : Nat) :
    p.chain pointer? place limit (some p.machine.pointerSize) =
      p.chain pointer? place limit none := by
  simp only [chain, Nat.lt_irrefl, if_false]

/-- The link behind the first one is what is read there. -/
theorem getElem?_chain_one (p : Process) (pointer? : UInt64 → Option UInt64) (place : UInt64)
    (size : Nat) :
    (p.chain pointer? place 1 (some size))[1]? =
      if size < p.machine.pointerSize then (p.readUInt place size).toOption else pointer? place := by
  unfold chain
  simp only
  split
  · rw [singleRead_eq]
    cases p.readUInt place size <;> rfl
  · simp only [Chain.follow, Chain.linksAfter]
    cases pointer? place with
    | none => rfl
    | some value =>
      simp only [ite_self]
      rfl

/-- A number that meets no writable byte is the same. -/
theorem SameConstants.number? {p q : Process} (h : SameConstants p q) {place : UInt64} {size : Nat}
    (hreach : ¬ p.ReachesWritable place (min size p.machine.pointerSize)) :
    p.number? place size = q.number? place size := by
  unfold Process.number?
  rw [← h.machine]
  split
  · rename_i hsize
    rw [Nat.min_eq_left (Nat.le_of_lt hsize)] at hreach
    simp only [readUInt, h.read _ _ _ hreach, ← h.machine]
  · rename_i hsize
    rw [Nat.min_eq_right (Nat.le_of_not_lt hsize)] at hreach
    simp only [Process.pointer?, readPointer, readUInt, ← h.machine, h.read _ _ _ hreach]

/-- Two processes hold the same numbers from places on that cannot be written. -/
def SameNumbers (p q : Process) : Prop :=
  ∀ place size, p.isReadOnly place = true → p.number? place size = q.number? place size

namespace SameNumbers

variable {p q : Process}

theorem constantPointer? (h : p.SameNumbers q) (hmap : p.SameMap q) :
    p.constantPointer? = q.constantPointer? := by
  funext place
  unfold Process.constantPointer?
  rw [← hmap.isReadOnly]
  split
  · rename_i hread
    have hpointer := h place p.machine.pointerSize hread
    simpa only [Process.number?, ← hmap.machine, Nat.lt_irrefl, if_false] using hpointer
  · rfl

theorem chain (h : p.SameNumbers q) (hmap : p.SameMap q) {place : UInt64}
    (hread : p.isReadOnly place = true) (limit : Nat) (readSize : Option Nat) :
    p.chain p.constantPointer? place limit readSize =
      q.chain q.constantPointer? place limit readSize := by
  have hsingle : ∀ size < p.machine.pointerSize,
      p.singleRead place size = q.singleRead place size := by
    intro size hsize
    have hnumber := h place size hread
    simp only [Process.number?, ← hmap.machine, hsize, if_true] at hnumber
    rw [Process.singleRead_eq, Process.singleRead_eq, hnumber]
  cases readSize with
  | none => simp only [Process.chain, h.constantPointer? hmap]
  | some size =>
    simp only [Process.chain, h.constantPointer? hmap, ← hmap.machine]
    split
    · exact hsingle size ‹_›
    · rfl

end SameNumbers

/-- The links that notes can show of memory that cannot be written: the chain from a place, and what
follows the place in it where the place is loaded from. -/
inductive NoteLinks (p : Process) (config : Config) : List UInt64 → Prop
  | address {place : UInt64} (hread : p.isReadOnly place = true) :
      NoteLinks p config (p.chain p.constantPointer? place config.telescopeDepth none)
  | pointer {place : UInt64} (hread : p.isReadOnly place = true) :
      NoteLinks p config
        (p.chain p.constantPointer? place (Chain.oneMore config.telescopeDepth) none)
  | number {place : UInt64} {size : Nat} (hread : p.isReadOnly place = true) (hsize : 0 < size) :
      NoteLinks p config
        (p.chain p.constantPointer? place (Chain.oneMore config.telescopeDepth) (some size))
  | loaded {place first second : UInt64} {size : Nat} {rest : List UInt64}
      (hread : p.isReadOnly place = true)
      (hchain : p.chain p.constantPointer? place (Chain.oneMore config.telescopeDepth)
        (some size) = first :: second :: rest) :
      NoteLinks p config (second :: rest)

/-- A note can show the string at a place: the place is the last that is shown of some links. -/
def Previewed (p : Process) (config : Config) (place : UInt64) : Prop :=
  ∃ links, p.NoteLinks config links ∧
    (links.take (Chain.oneMore config.telescopeDepth)).getLast? = some place

/-- Two processes agree on what is looked at although it may have been written: numbers that begin
in memory that cannot be written and go on in memory that can, and, where notes are wanted, strings
that reach into memory that can be written. -/
structure SameStrayReads (config : Config) (p q : Process) : Prop where
  numbers : ∀ place size, p.isReadOnly place = true →
    p.ReachesWritable place (min size p.machine.pointerSize) →
      p.number? place size = q.number? place size
  strings : config.disasmAnnotations = true → ∀ place, p.Previewed config place →
    p.ReachesWritable place (Chain.oneMore config.telescopeStringLength) →
      Chain.stringAt? p place config.telescopeStringLength =
        Chain.stringAt? q place config.telescopeStringLength

end Process

namespace Chain

theorem renderLast_congr {p q : Process} {link : UInt64} {canDereference : Bool} {maxLength : Nat}
    (hsymbol : p.symbolAt = q.symbolAt)
    (hstring : canDereference = true → stringAt? p link maxLength = stringAt? q link maxLength) :
    renderLast p link canDereference maxLength = renderLast q link canDereference maxLength := by
  unfold renderLast
  rw [hsymbol]
  cases canDereference with
  | false => rfl
  | true => simp only [hstring rfl]

theorem renderLinks_congr {p q : Process} {canDereference : Bool} {maxLength : Nat}
    (hsymbol : p.symbolAt = q.symbolAt) : {links : List UInt64} →
      (∀ link ∈ links.getLast?, canDereference = true →
        stringAt? p link maxLength = stringAt? q link maxLength) →
      renderLinks p canDereference maxLength links = renderLinks q canDereference maxLength links
  | [], _ => rfl
  | [last], h => by
    simp only [renderLinks, renderLast_congr hsymbol (h last rfl)]
  | first :: second :: rest, h => by
    rw [List.getLast?_cons_cons] at h
    have hrest := renderLinks_congr hsymbol h
    simp only [renderLinks, hsymbol, hrest]

/-- The text of a chain depends on the symbols of its links and on the string at the last one that
is shown, and on no string where memory may not be looked into. -/
theorem render_congr {p q : Process} {links : List UInt64} {limit maxLength : Nat}
    {canDereference : Bool} (hsymbol : p.symbolAt = q.symbolAt)
    (hstring : ∀ link ∈ (links.take (oneMore limit)).getLast?, canDereference = true →
      stringAt? p link maxLength = stringAt? q link maxLength) :
    render p links limit canDereference maxLength =
      render q links limit canDereference maxLength := by
  simp only [render, renderLinks_congr hsymbol hstring]

end Chain

namespace Context

variable {σ : Type} {c d : Context σ} {insn : Instruction}

/-- Two contexts are alike for the instruction at an address, where neither process is stopped. -/
structure Alike (address : UInt64) (c d : Context σ) : Prop where
  config : c.config = d.config
  emulator : c.emulator = d.emulator
  process : c.process.SameMap d.process
  away : c.process.pc ≠ some address
  /-- Numbers that begin in memory that cannot be written. -/
  numbers : c.emulator = none → c.process.SameNumbers d.process
  /-- Strings that notes on such memory can show. -/
  strings : c.emulator = none → c.config.disasmAnnotations = true → ∀ place,
    c.process.Previewed c.config place →
      Chain.stringAt? c.process place c.config.telescopeStringLength =
        Chain.stringAt? d.process place c.config.telescopeStringLength

namespace Alike

variable {address : UInt64} {p q : Process}

/-- With an emulator, the process is asked for its map alone. -/
theorem ofMap (h : p.SameMap q) (haway : p.pc ≠ some address) (config : Config) (state : σ) :
    Alike address { process := p, config, emulator := some state }
      { process := q, config, emulator := some state } where
  config := rfl
  emulator := rfl
  process := h
  away := haway
  numbers := nofun
  strings := nofun

theorem ofMemory (h : p.SameMemory q) (haway : p.pc ≠ some address) (config : Config) :
    Alike address { process := p, config, emulator := (none : Option σ) }
      { process := q, config, emulator := none } where
  config := rfl
  emulator := rfl
  process := h.sameMap
  away := haway
  numbers _ place size _ := by
    simp only [Process.number?, Process.pointer?, Process.readPointer, Process.readUInt, h.read,
      h.machine]
  strings _ _ place _ := by simp only [Chain.stringAt?, h.read, h.machine]

theorem ofConstants {config : Config} (h : p.SameConstants q) (hstray : p.SameStrayReads config q)
    (haway : p.pc ≠ some address) :
    Alike address { process := p, config, emulator := (none : Option σ) }
      { process := q, config, emulator := none } where
  config := rfl
  emulator := rfl
  process := h.toSameMap
  away := haway
  numbers _ place size hread := by
    by_cases hreach : p.ReachesWritable place (min size p.machine.pointerSize)
    · exact hstray.numbers place size hread hreach
    · exact h.number? hreach
  strings _ hnotes place hplace := by
    by_cases hreach : p.ReachesWritable place (Chain.oneMore config.telescopeStringLength)
    · exact hstray.strings hnotes place hplace hreach
    · simp only [Chain.stringAt?, h.read _ _ _ hreach, h.machine]

theorem machine (h : Alike address c d) : c.machine = d.machine := h.process.machine

theorem stoppedAt_left (h : Alike insn.address c d) : c.stoppedAt insn = false := by
  simpa [stoppedAt] using h.away

theorem stoppedAt_right (h : Alike insn.address c d) : d.stoppedAt insn = false := by
  simpa [stoppedAt, h.process.pc] using h.away

theorem leadsToCode (h : Alike address c d) (operand : Operand) (value : UInt64) :
    c.leadsToCode operand value = d.leadsToCode operand value := by
  simp only [Context.leadsToCode, h.process.pageAt]

end Alike

variable [Emulator σ]

/-- Away from the program counter and without an emulator, a chain stays in memory that cannot be
written. -/
theorem telescope_away (hoff : c.emulator = none) (haway : c.stoppedAt insn = false)
    (place : UInt64) (limit : Nat) (readSize : Option Nat) :
    c.telescope insn place limit readSize =
      if c.process.isReadOnly place then
        (c.process.chain c.process.constantPointer? place limit readSize, true)
      else ([place], false) := by
  simp only [telescope, hoff, haway, Bool.false_eq_true, if_false]

namespace Alike

/-- Without an emulator no register is known. -/
theorem readRegister (h : Alike insn.address c d) (name : String) :
    c.readRegister insn name = d.readRegister insn name := by
  simp only [Context.readRegister, h.emulator, h.stoppedAt_left, h.stoppedAt_right,
    Bool.false_eq_true, if_false]

theorem telescope (h : Alike insn.address c d) (place : UInt64) (limit : Nat)
    (readSize : Option Nat) :
    c.telescope insn place limit readSize = d.telescope insn place limit readSize := by
  cases hoff : c.emulator with
  | some state => simp only [Context.telescope, ← h.emulator, hoff]
  | none =>
    rw [telescope_away hoff h.stoppedAt_left, telescope_away (h.emulator ▸ hoff) h.stoppedAt_right,
      ← h.process.isReadOnly]
    split
    · rename_i hread
      rw [(h.numbers hoff).chain h.process hread]
    · rfl

theorem usedValue (h : Alike insn.address c d) (operand : Operand) (value : Option UInt64) :
    c.usedValue insn operand value = d.usedValue insn operand value := by
  simp only [Context.usedValue, readMemory, h.telescope, h.machine]

theorem codeOperand? (h : Alike insn.address c d) :
    c.codeOperand? insn = d.codeOperand? insn := by
  funext operand
  simp only [Context.codeOperand?, usedNonzero, h.usedValue, h.leadsToCode, h.machine]

theorem branchTarget (h : Alike insn.address c d) (call : Bool) :
    c.branchTarget insn call = d.branchTarget insn call := by
  simp only [Context.branchTarget, usedNonzero, h.codeOperand?, h.usedValue, h.machine]

/-- Links have the same text where notes are wanted, if they are links that notes can show. -/
theorem renderChain (h : Alike insn.address c d) (hnotes : c.config.disasmAnnotations = true)
    {links : List UInt64} {trusted : Bool}
    (hlinks : c.emulator = none → trusted = true → c.process.NoteLinks c.config links) :
    c.renderChain links c.config.telescopeDepth trusted =
      d.renderChain links c.config.telescopeDepth trusted := by
  cases hoff : c.emulator with
  | some state => simp only [Context.renderChain, ← h.emulator, hoff, h.config]
  | none =>
    simp only [Context.renderChain, ← h.emulator, hoff, ← h.config]
    refine Chain.render_congr h.process.symbolAt fun link hlast htrusted => ?_
    exact h.strings hoff hnotes link ⟨links, hlinks hoff htrusted, hlast⟩

theorem renderTelescope (h : Alike insn.address c d) (hnotes : c.config.disasmAnnotations = true)
    {place : UInt64} {limit : Nat} {readSize : Option Nat}
    (hlinks : c.process.isReadOnly place = true → c.process.NoteLinks c.config
      (c.process.chain c.process.constantPointer? place limit readSize)) :
    c.renderTelescope insn place limit readSize = d.renderTelescope insn place limit readSize := by
  have hshown : c.emulator = none → (c.telescope insn place limit readSize).2 = true →
      c.process.NoteLinks c.config (c.telescope insn place limit readSize).1 := by
    intro hoff htrusted
    rw [telescope_away hoff h.stoppedAt_left] at htrusted ⊢
    split at htrusted
    · rename_i hread
      rw [if_pos hread]
      exact hlinks hread
    · contradiction
  simp only [Context.renderTelescope, ← h.telescope, ← h.config, h.renderChain hnotes hshown]

end Alike

end Context

end CodeWindow
