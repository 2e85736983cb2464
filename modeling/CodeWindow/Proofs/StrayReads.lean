import CodeWindow.Enhancement
import CodeWindow.Proofs.Agreement
import CodeWindow.Proofs.SameCode
import CodeWindow.Proofs.Withheld

/-! What instructions show of memory that cannot be written, where the process is not stopped at
them. For each number there is an operand that it resolves, and for each string that a note can show
there is an instruction with such a note. Processes in which all instructions are the same therefore
agree on stray reads. -/

namespace CodeWindow

/-! ### Texts of chains -/

theorem intercalate_inj {separator first second : String} {before after : List String}
    (h : separator.intercalate (before ++ first :: after) =
      separator.intercalate (before ++ second :: after)) : first = second := by
  induction before with
  | nil =>
    cases after with
    | nil => simpa using h
    | cons next rest =>
      simpa [String.intercalate_cons_cons, String.append_left_inj] using h
  | cons text before ih =>
    refine ih ?_
    have hne : ∀ last, before ++ last :: after ≠ [] := by simp
    rw [List.cons_append, List.cons_append, String.intercalate_cons_of_ne_nil (hne first),
      String.intercalate_cons_of_ne_nil (hne second)] at h
    exact (String.append_right_inj _).mp h

namespace Chain

variable {p q : Process} {maxLength : Nat}

theorem renderLinks_append (links : List UInt64) (last : UInt64) :
    renderLinks p true maxLength (links ++ [last]) =
      links.map (Rendering.addressAndSymbol p.symbolAt) ++ [renderLast p last true maxLength] := by
  induction links with
  | nil => rfl
  | cons first links ih =>
    cases links with
    | nil => rfl
    | cons second rest => simpa [renderLinks] using ih

theorem ne_append_stringArrow (text string : String) : text ≠ text ++ stringArrow ++ string := by
  intro h
  have hlength := congrArg String.length h
  have harrow : stringArrow.length = 4 := by decide
  simp only [String.length_append, harrow] at hlength
  omega

theorem stringAt?_eq_of_renderLast {place : UInt64} (hsymbol : p.symbolAt = q.symbolAt)
    (h : renderLast p place true maxLength = renderLast q place true maxLength) :
    stringAt? p place maxLength = stringAt? q place maxLength := by
  unfold renderLast at h
  rw [hsymbol] at h
  cases hp : stringAt? p place maxLength <;> cases hq : stringAt? q place maxLength <;>
    simp only [hp, hq, if_true] at h
  · rfl
  · exact absurd h (ne_append_stringArrow _ _)
  · exact absurd h.symm (ne_append_stringArrow _ _)
  · rw [(String.append_right_inj _).mp h]

theorem render_eq_intercalate {links before : List UInt64} {limit : Nat} {place : UInt64}
    (hshown : links.take (oneMore limit) = before ++ [place]) :
    render p links limit true maxLength =
      arrow.intercalate (before.map (Rendering.addressAndSymbol p.symbolAt) ++
        renderLast p place true maxLength ::
          if links.length > oneMore limit then ["..."] else []) := by
  unfold render
  rw [hshown, renderLinks_append]
  split
  · rename_i hnil
    simp at hnil
  · split <;> simp

/-- The text of links gives away the string at the last one that is shown. -/
theorem stringAt?_eq_of_render {links : List UInt64} {limit : Nat} {place : UInt64}
    (hsymbol : p.symbolAt = q.symbolAt)
    (hlast : (links.take (oneMore limit)).getLast? = some place)
    (h : render p links limit true maxLength = render q links limit true maxLength) :
    stringAt? p place maxLength = stringAt? q place maxLength := by
  obtain ⟨before, hshown⟩ := List.getLast?_eq_some_iff.mp hlast
  rw [render_eq_intercalate hshown, render_eq_intercalate hshown, hsymbol] at h
  exact stringAt?_eq_of_renderLast hsymbol (intercalate_inj h)

end Chain

/-! ### Instructions that look -/

/-- An x86-64 instruction with a register and a source, both of a size. -/
def Instruction.intoRegister (mnemonic : String) (address : UInt64) (source : OperandKind)
    (size : Nat) : Instruction where
  arch := .x86_64
  address := address
  size := 8
  mnemonic := mnemonic
  operands := [{ kind := .register "rax", size }, { kind := source, size }]

namespace Context

variable {σ : Type}

/-- The text of links in memory that is trusted. -/
def trustedText (ctx : Context σ) (links : List UInt64) : String :=
  Chain.render ctx.process links ctx.config.telescopeDepth true ctx.config.telescopeStringLength

variable [Emulator σ] {ctx : Context σ} {insn : Instruction} {place : UInt64}

theorem readMemory_away (hoff : ctx.emulator = none) (haway : ctx.stoppedAt insn = false)
    (hread : ctx.process.isReadOnly place = true) (size : Nat) :
    ctx.readMemory insn place size = ctx.process.number? place size := by
  simp only [readMemory, telescope_away hoff haway, if_pos hread, Process.getElem?_chain_one,
    Process.constantPointer?, Process.number?]

theorem renderTelescope_away (hoff : ctx.emulator = none) (haway : ctx.stoppedAt insn = false)
    (hread : ctx.process.isReadOnly place = true) (limit : Nat) (readSize : Option Nat) :
    ctx.renderTelescope insn place limit readSize =
      ctx.trustedText (ctx.process.chain ctx.process.constantPointer? place limit readSize) := by
  simp only [renderTelescope, telescope_away hoff haway, if_pos hread, renderChain, hoff,
    trustedText]

end Context

namespace Enhancement

variable {σ : Type} [Emulator σ] {p q : Process} {config : Config} {place : UInt64}

/-- An operand as the instruction shows it without an emulator. -/
def shownOperand (isa : Isa) (ctx : Context σ) (insn : Instruction) (operand : Operand) : Operand :=
  let before := withBefore isa ctx insn operand
  { before with display := displayOf ctx.process before }

/-- The note is that of an instruction with the same code and the shown operands. -/
theorem exists_note_conclude (isa : Isa) {ctx : Context σ} (insn : Instruction)
    (jumpPc : Option UInt64) (hnotes : ctx.config.disasmAnnotations = true) :
    ∃ shown : Instruction, shown.SameCode insn ∧
      shown.operands = (conclude isa ctx insn jumpPc).operands ∧
      (conclude isa ctx insn jumpPc).note = isa.note ctx shown := by
  have hcode := conclude_sameCode isa ctx insn jumpPc
  unfold conclude at hcode ⊢
  refine ⟨_, (withNote_sameCode isa ctx _).symm.trans hcode, ?_, ?_⟩
  · unfold withNote
    rw [if_pos hnotes]
  · unfold withNote
    rw [if_pos hnotes]

theorem operands_enhance_off (isa : Isa) (insn : Instruction) :
    (enhance isa p config insn (.off : Emulation σ)).1.operands =
      insn.operands.map (shownOperand isa (contextOff σ p config) insn) := by
  rw [enhance_off, operands_conclude]
  exact List.map_map

theorem exists_note_enhance_off (isa : Isa) (insn : Instruction)
    (hnotes : config.disasmAnnotations = true) :
    ∃ shown : Instruction, shown.SameCode insn ∧
      shown.operands = insn.operands.map (shownOperand isa (contextOff σ p config) insn) ∧
      (enhance isa p config insn (.off : Emulation σ)).1.note =
        isa.note (contextOff σ p config) shown := by
  have hwanted : (contextOff σ p config).config.disasmAnnotations = true := hnotes
  rw [← operands_enhance_off, enhance_off]
  obtain ⟨shown, hcode, hoperands, hnote⟩ :=
    exists_note_conclude isa (valuesBefore isa (contextOff σ p config) insn) none hwanted
  exact ⟨shown, hcode.trans (valuesBefore_sameCode _ _ insn), hoperands, hnote⟩

/-! ### Looking at a place -/

section

variable (hplace : place &&& p.machine.pointerMask = place)

include hplace

theorem maskedValue_immediate (insn : Instruction) (size : Nat) :
    maskedValue .x86 (contextOff σ p config) insn { kind := .immediate place.toInt64, size } =
      some place := by
  simpa [maskedValue, Isa.operandValue, Isa.immediateValue, Operand.immediate?, Context.machine]
    using hplace

theorem maskedValue_memory (insn : Instruction) (size : Nat) :
    maskedValue .x86 (contextOff σ p config) insn
      { kind := .memory { disp := place.toInt64 }, size } = some place := by
  simpa [maskedValue, Isa.operandValue, Isa.address, Operand.memory?, Isa.X86.address,
    Context.machine] using hplace

variable {address : UInt64} {size : Nat} (haway : p.pc ≠ some address)
  (hread : p.isReadOnly place = true)

include haway hread

/-- A load gives away the number that it reads. -/
theorem resolved_move (hsize : 0 < size) :
    (enhance .x86 p config
        (.intoRegister "mov" address (.memory { disp := place.toInt64 }) size)
        (.off : Emulation σ)).1.operands[1]?.bind Operand.beforeResolved =
      p.number? place size := by
  rw [operands_enhance_off]
  generalize hinsn : Instruction.intoRegister "mov" address _ size = insn
  have hstopped : (contextOff σ p config).stoppedAt insn = false :=
    stoppedAt_contextOff (by rw [← hinsn]; exact haway)
  have hoperand : insn.operands[1]? =
      some { kind := .memory { disp := place.toInt64 }, size } := by rw [← hinsn]; rfl
  rw [List.getElem?_map, hoperand]
  simp only [Option.map_some, Option.bind_some, shownOperand, withBefore, maskedValue_memory hplace,
    Context.usedValue, Nat.ne_of_gt hsize, if_false]
  exact Context.readMemory_away rfl hstopped hread size

end

/-- An instruction away from the program counter has a register and a source with the value of a
place that cannot be written. -/
structure LooksAt (ctx : Context σ) (insn : Instruction) (left right : Operand) (place : UInt64) :
    Prop where
  off : ctx.emulator = none
  away : ctx.stoppedAt insn = false
  readOnly : ctx.process.isReadOnly place = true
  operands : insn.operands = [left, right]
  register : left.kind = .register "rax"
  label : left.label = Text.upper "rax"
  value : right.beforeValue = some place
  display : right.display = displayOf ctx.process right

namespace LooksAt

variable {ctx : Context σ} {insn : Instruction} {left right : Operand}

theorem renderTelescope (h : LooksAt ctx insn left right place) (limit : Nat)
    (readSize : Option Nat) :
    ctx.renderTelescope insn place limit readSize =
      ctx.trustedText (ctx.process.chain ctx.process.constantPointer? place limit readSize) :=
  Context.renderTelescope_away h.off h.away h.readOnly limit readSize

theorem note_loadAddress (h : LooksAt ctx insn left right place)
    (hmnemonic : insn.mnemonic = "lea") :
    Isa.X86.note ctx insn =
      some (Note.becomes (Text.upper "rax")
        (ctx.trustedText (ctx.process.chain ctx.process.constantPointer? place
          ctx.config.telescopeDepth none))) := by
  have hrule : Isa.X86.noteRule? "lea" = some .loadAddress := rfl
  simp only [Isa.X86.note, hmnemonic, hrule, h.operands, Isa.X86.addressNote, h.value, h.label,
    h.renderTelescope, Option.bind_eq_bind, Option.bind_some]

theorem note_move (h : LooksAt ctx insn left right place) (hmnemonic : insn.mnemonic = "mov")
    (hmemory : right.isMemory = false) :
    Isa.X86.note ctx insn =
      some (Note.becomes (Text.upper "rax")
        (ctx.trustedText (ctx.process.chain ctx.process.constantPointer? place
          (Chain.oneMore ctx.config.telescopeDepth)
          (if right.size > 0 then some right.size else none)))) := by
  have hrule : Isa.X86.noteRule? "mov" = some .move := rfl
  simp only [Isa.X86.note, hmnemonic, hrule, h.operands, Isa.X86.moveNote, h.value, h.register,
    hmemory, h.label, h.renderTelescope, Option.bind_eq_bind, Option.bind_some, Bool.false_eq_true,
    if_false]

theorem note_load (h : LooksAt ctx insn left right place) (hmnemonic : insn.mnemonic = "mov")
    (hmemory : right.isMemory = true) {first second : UInt64} {rest : List UInt64}
    (hchain : ctx.process.chain ctx.process.constantPointer? place
      (Chain.oneMore ctx.config.telescopeDepth) (some right.size) = first :: second :: rest) :
    Isa.X86.note ctx insn =
      some (Note.becomes (Text.upper "rax" ++ ", " ++ right.label)
        (ctx.trustedText (second :: rest))) := by
  have hrule : Isa.X86.noteRule? "mov" = some .move := rfl
  have hlinks := Context.telescope_away h.off h.away place
    (Chain.oneMore ctx.config.telescopeDepth) (some right.size)
  rw [if_pos h.readOnly, hchain] at hlinks
  simp only [Isa.X86.note, hmnemonic, hrule, h.operands, Isa.X86.moveNote, h.value, h.register,
    hmemory, Note.load, hlinks, Note.loaded?, Context.renderChain, h.off, h.label,
    Option.bind_eq_bind, Option.bind_some, if_true, Context.trustedText]

end LooksAt

theorem exists_looksAt {mnemonic : String} {address : UInt64} {source : OperandKind} {size : Nat}
    (hnotes : config.disasmAnnotations = true) (haway : p.pc ≠ some address)
    (hread : p.isReadOnly place = true)
    (hvalue : ∀ insn, maskedValue .x86 (contextOff σ p config) insn { kind := source, size } =
      some place) :
    ∃ shown left right, LooksAt (contextOff σ p config) shown left right place ∧
      shown.mnemonic = mnemonic ∧ right.kind = source ∧ right.size = size ∧
      (enhance .x86 p config (.intoRegister mnemonic address source size)
        (.off : Emulation σ)).1.note = Isa.X86.note (contextOff σ p config) shown := by
  generalize hinsn : Instruction.intoRegister mnemonic address source size = insn
  obtain ⟨shown, hcode, hoperands, hnote⟩ := exists_note_enhance_off (σ := σ) (p := p) .x86 insn
    hnotes
  refine ⟨shown, shownOperand .x86 (contextOff σ p config) insn { kind := .register "rax", size },
    shownOperand .x86 (contextOff σ p config) insn { kind := source, size }, ?_, ?_, rfl, rfl,
    hnote⟩
  · exact {
      off := rfl
      away := stoppedAt_contextOff (by rw [hcode.address, ← hinsn]; exact haway)
      readOnly := hread
      operands := by rw [hoperands, ← hinsn]; rfl
      register := rfl
      label := rfl
      value := hvalue insn
      display := rfl }
  · rw [hcode.mnemonic, ← hinsn]
    rfl

section

variable (hnotes : config.disasmAnnotations = true)
  (hplace : place &&& p.machine.pointerMask = place) {address : UInt64}
  (haway : p.pc ≠ some address) (hread : p.isReadOnly place = true)

include hnotes hplace haway hread

theorem note_loadAddress (size : Nat) :
    (enhance .x86 p config (.intoRegister "lea" address (.memory { disp := place.toInt64 }) size)
      (.off : Emulation σ)).1.note =
      some (Note.becomes (Text.upper "rax") ((contextOff σ p config).trustedText
        (p.chain p.constantPointer? place config.telescopeDepth none))) := by
  obtain ⟨shown, left, right, hlooks, hmnemonic, -, -, hnote⟩ :=
    exists_looksAt (σ := σ) hnotes haway hread (maskedValue_memory hplace · size)
  rw [hnote, hlooks.note_loadAddress hmnemonic]
  rfl

theorem note_move (size : Nat) :
    (enhance .x86 p config (.intoRegister "mov" address (.immediate place.toInt64) size)
      (.off : Emulation σ)).1.note =
      some (Note.becomes (Text.upper "rax") ((contextOff σ p config).trustedText
        (p.chain p.constantPointer? place (Chain.oneMore config.telescopeDepth)
          (if size > 0 then some size else none)))) := by
  obtain ⟨shown, left, right, hlooks, hmnemonic, hkind, hsize, hnote⟩ :=
    exists_looksAt (σ := σ) hnotes haway hread (maskedValue_immediate hplace · size)
  have hmemory : right.isMemory = false := by
    simp only [Operand.isMemory, Operand.memory?, hkind, Option.isSome_none]
  rw [hnote, hlooks.note_move hmnemonic hmemory, hsize]
  rfl

theorem note_load {size : Nat} {first second : UInt64} {rest : List UInt64}
    (hchain : p.chain p.constantPointer? place (Chain.oneMore config.telescopeDepth) (some size) =
      first :: second :: rest) :
    (enhance .x86 p config (.intoRegister "mov" address (.memory { disp := place.toInt64 }) size)
      (.off : Emulation σ)).1.note =
      some (Note.becomes
        (Text.upper "rax" ++ ", " ++ ("[" ++ Rendering.addressOrSymbol p.symbolAt place ++ "]"))
        ((contextOff σ p config).trustedText (second :: rest))) := by
  obtain ⟨shown, left, right, hlooks, hmnemonic, hkind, hsize, hnote⟩ :=
    exists_looksAt (σ := σ) hnotes haway hread (maskedValue_memory hplace · size)
  have hmemory : right.isMemory = true := by
    simp only [Operand.isMemory, Operand.memory?, hkind, Option.isSome_some]
  have hlabel : right.label = "[" ++ Rendering.addressOrSymbol p.symbolAt place ++ "]" := by
    simp only [Operand.label, hlooks.display, displayOf, hkind, hlooks.value, Option.map_some,
      Option.getD_some, contextOff_process]
  rw [hnote, hlooks.note_load hmnemonic hmemory (hsize ▸ hchain), hlabel]

end

/-- For links that notes can show there is an instruction whose note shows them, also in processes
with the same numbers. -/
theorem exists_note_of_noteLinks (hnotes : config.disasmAnnotations = true)
    (hrange : ∀ place, p.isReadOnly place = true → place &&& p.machine.pointerMask = place)
    {address : UInt64} (haway : p.pc ≠ some address) {links : List UInt64}
    (hlinks : p.NoteLinks config links) :
    ∃ mnemonic source size label, ∀ q, p.SameMap q → p.SameNumbers q →
      (enhance .x86 q config (.intoRegister mnemonic address source size)
        (.off : Emulation σ)).1.note =
        some (Note.becomes label ((contextOff σ q config).trustedText links)) := by
  have hrange' : ∀ {place q}, p.SameMap q → p.isReadOnly place = true →
      place &&& q.machine.pointerMask = place := fun hmap hread => hmap.machine ▸ hrange _ hread
  have haway' : ∀ {q}, p.SameMap q → q.pc ≠ some address := fun hmap => hmap.pc ▸ haway
  have hread' : ∀ {place q}, p.SameMap q → p.isReadOnly place = true →
      q.isReadOnly place = true := fun hmap hread => hmap.isReadOnly _ ▸ hread
  cases hlinks with
  | @address place hread =>
    refine ⟨"lea", .memory { disp := place.toInt64 }, 8, Text.upper "rax",
      fun q hmap hnumbers => ?_⟩
    rw [hnumbers.chain hmap hread]
    exact note_loadAddress hnotes (hrange' hmap hread) (haway' hmap) (hread' hmap hread) 8
  | @pointer place hread =>
    refine ⟨"mov", .immediate place.toInt64, 0, Text.upper "rax", fun q hmap hnumbers => ?_⟩
    rw [hnumbers.chain hmap hread]
    exact note_move hnotes (hrange' hmap hread) (haway' hmap) (hread' hmap hread) 0
  | @number place size hread hsize =>
    refine ⟨"mov", .immediate place.toInt64, size, Text.upper "rax", fun q hmap hnumbers => ?_⟩
    have hnote := note_move (σ := σ) hnotes (hrange' hmap hread) (haway' hmap) (hread' hmap hread)
      size
    rw [if_pos hsize] at hnote
    rw [hnumbers.chain hmap hread]
    exact hnote
  | @loaded place first second size rest hread hchain =>
    refine ⟨"mov", .memory { disp := place.toInt64 }, size,
      Text.upper "rax" ++ ", " ++ ("[" ++ Rendering.addressOrSymbol p.symbolAt place ++ "]"),
      fun q hmap hnumbers => ?_⟩
    rw [hmap.symbolAt]
    rw [hnumbers.chain hmap hread] at hchain
    exact note_load hnotes (hrange' hmap hread) (haway' hmap) (hread' hmap hread) hchain

/-- Where none of these instructions tells two processes apart, stray reads do not either. -/
theorem sameStrayReads_of_enhance_eq (h : p.SameConstants q)
    (hrange : ∀ place, p.isReadOnly place = true → place &&& p.machine.pointerMask = place)
    (hsame : ∀ mnemonic address source size, p.pc ≠ some address →
      enhance .x86 p config (.intoRegister mnemonic address source size) (.off : Emulation σ) =
        enhance .x86 q config (.intoRegister mnemonic address source size) .off) :
    p.SameStrayReads config q := by
  obtain ⟨address, haway⟩ : ∃ address, p.pc ≠ some address := by
    by_cases hzero : p.pc = some 0
    · exact ⟨1, by rw [hzero]; decide⟩
    · exact ⟨0, hzero⟩
  have hnumbers : p.SameNumbers q := by
    intro place size hread
    by_cases hsize : 0 < size
    · calc p.number? place size
          = (enhance .x86 p config
              (.intoRegister "mov" address (.memory { disp := place.toInt64 }) size)
              (.off : Emulation σ)).1.operands[1]?.bind Operand.beforeResolved :=
            (resolved_move (hrange place hread) haway hread hsize).symm
        _ = q.number? place size := by
            rw [hsame _ _ _ _ haway]
            exact resolved_move (h.machine ▸ hrange place hread) (h.pc ▸ haway)
              (h.isReadOnly place ▸ hread) hsize
    · -- No byte is read, so none that can be written.
      refine h.number? ?_
      rintro ⟨i, hi, -⟩
      omega
  refine ⟨fun place size hread _ => hnumbers place size hread, ?_⟩
  rintro hnotes place ⟨links, hlinks, hlast⟩ -
  obtain ⟨mnemonic, source, size, label, hnote⟩ :=
    exists_note_of_noteLinks (σ := σ) hnotes hrange haway hlinks
  have hp := hnote p ⟨rfl, rfl, rfl, rfl, fun _ => rfl⟩ fun _ _ _ => rfl
  have hq := hnote q h.toSameMap hnumbers
  rw [hsame mnemonic address source size haway, hq] at hp
  have htext := (String.append_right_inj _).mp (Option.some_inj.mp hp)
  exact Chain.stringAt?_eq_of_render h.symbolAt hlast htext.symm

end Enhancement

end CodeWindow
