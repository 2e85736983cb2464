import CodeWindow.Proofs.ShownNumber
import CodeWindow.Proofs.StoredNumber
import CodeWindow.Proofs.StrayReads

/-! Loads into a register of AArch64. Where the mnemonic does not say how wide an access is, the
width of the register does; the notes know of the `w` registers that they are narrow, and take all
others for as wide as a pointer. -/

namespace CodeWindow

/-! ### Chains of one link and more -/

namespace Process

variable {process : Process} {place value : UInt64} {size limit : Nat}

theorem chain_eq_singleton (hnone : process.number? place size = none) :
    process.chain process.pointer? place limit (some size) = [place] := by
  unfold number? at hnone
  unfold chain
  simp only
  split at hnone
  · rename_i hlt
    rw [if_pos hlt, singleRead_eq, hnone]
    rfl
  · rename_i hge
    rw [if_neg hge]
    cases limit with
    | zero => rfl
    | succ limit => rw [Chain.follow, Chain.linksAfter, hnone]

theorem exists_chain_cons (hlimit : limit ≠ 0) (hvalue : process.number? place size = some value) :
    ∃ links, process.chain process.pointer? place limit (some size) = place :: value :: links := by
  obtain ⟨limit, rfl⟩ := Nat.exists_eq_succ_of_ne_zero hlimit
  unfold number? at hvalue
  unfold chain
  simp only
  split at hvalue
  · rename_i hlt
    rw [if_pos hlt, singleRead_eq, hvalue]
    exact ⟨[], rfl⟩
  · rename_i hge
    rw [if_neg hge, Chain.follow, Chain.linksAfter, hvalue]
    simp only
    split
    · exact ⟨[], rfl⟩
    · exact ⟨_, rfl⟩

end Process

/-! ### Notes of loads -/

namespace Note

/-- A note shows what is stored at an address: the text starts with the number, or says that there
is none. -/
def ShowsLoaded (note : Option String) (names : String) (address : UInt64) : Option Nat → Prop
  | some number =>
    ∃ shown, note = some (becomes names shown) ∧ Rendering.firstNumber? shown = some number
  | none => note = some (becomes names (cannotDereference address))

theorem firstNumber?_cannotDereference (address : UInt64) :
    Rendering.firstNumber? (cannotDereference address) = none := by
  have hrest : Rendering.Apart (" dereference [" ++ (hexAddress address ++ "]>")) := by
    simp [Rendering.Apart]
  have hsplit : "<Cannot dereference [" = "<Cannot" ++ " dereference [" := by decide +kernel
  calc Rendering.firstNumber? (cannotDereference address)
      = Rendering.firstNumber? ("<Cannot dereference [" ++ (hexAddress address ++ "]>")) :=
        congrArg _ (String.append_assoc ..)
    _ = Rendering.firstNumber? ("<Cannot" ++ " dereference [" ++ (hexAddress address ++ "]>")) :=
        congrArg (fun start => Rendering.firstNumber? (start ++ _)) hsplit
    _ = Rendering.firstNumber? ("<Cannot" ++ (" dereference [" ++ (hexAddress address ++ "]>"))) :=
        congrArg _ (String.append_assoc ..)
    _ = (Text.readMarkedNumeral UInt64.size "<Cannot".toList).toOption :=
        Rendering.firstNumber?_append (by decide +kernel) hrest
    _ = none := by decide +kernel

variable {note : Option String} {names : String} {address : UInt64}

theorem becomes_inj {first second : String}
    (hfirst : note = some (becomes names first)) (hsecond : note = some (becomes names second)) :
    first = second :=
  (String.append_right_inj _).mp (Option.some_inj.mp (hfirst.symm.trans hsecond))

/-- A note shows one number at most. -/
theorem ShowsLoaded.unique {stored other : Option Nat} (h : ShowsLoaded note names address stored)
    (hother : ShowsLoaded note names address other) : stored = other := by
  cases stored with
  | none =>
    cases other with
    | none => rfl
    | some number =>
      obtain ⟨shown, hnote, hnumber⟩ := hother
      rw [← becomes_inj h hnote, firstNumber?_cannotDereference] at hnumber
      contradiction
  | some number =>
    obtain ⟨shown, hnote, hnumber⟩ := h
    cases other with
    | none =>
      rw [becomes_inj hnote hother, firstNumber?_cannotDereference] at hnumber
      contradiction
    | some second =>
      obtain ⟨again, hagain, hsecond⟩ := hother
      rw [← hnumber, ← hsecond, becomes_inj hnote hagain]

section

variable {σ : Type} [Emulator σ] {ctx : Context σ} {insn : Instruction} {dest source : Operand}
  {size : Nat} (hoff : ctx.emulator = none) (hstopped : ctx.stoppedAt insn = true)
  (haddress : source.beforeValue = some address) (hreads : ctx.process.ReadsRuns) (hsize : size ≤ 8)

include hoff hstopped haddress

theorem load_of_loaded? {shown : String}
    (hloaded : loaded? ctx address (ctx.process.chain ctx.process.pointer? address
      (Chain.oneMore ctx.config.telescopeDepth) (some size), true) = some shown) :
    load ctx insn dest source size =
      some (becomes (dest.label ++ ", " ++ source.label) shown) := by
  simp only [load, haddress, Context.telescope, hoff, hstopped, if_true, Option.bind_eq_bind,
    Option.bind_some, hloaded]

theorem load_of_number?_eq_none (hnone : ctx.process.number? address size = none) :
    load ctx insn dest source size =
      some (becomes (dest.label ++ ", " ++ source.label) (cannotDereference address)) := by
  refine load_of_loaded? hoff hstopped haddress ?_
  rw [Process.chain_eq_singleton hnone]
  rfl

include hreads hsize in
/-- A load shows the number of its access, or of a pointer where that is narrower. -/
theorem showsLoaded_load (hlimit : Chain.oneMore ctx.config.telescopeDepth ≠ 0) :
    ShowsLoaded (load ctx insn dest source size) (dest.label ++ ", " ++ source.label) address
      (ctx.process.storedNumber? address (min size ctx.machine.pointerSize)) := by
  have hnarrow := Nat.le_trans (Nat.min_le_left size ctx.process.machine.pointerSize) hsize
  rw [Context.machine, ← Process.toNat_number?_of_min_le hreads address hnarrow]
  cases hnumber : ctx.process.number? address size with
  | none => exact load_of_number?_eq_none hoff hstopped haddress hnumber
  | some value =>
    obtain ⟨links, hlinks⟩ := Process.exists_chain_cons hlimit hnumber
    refine ⟨Chain.render ctx.process (value :: links) ctx.config.telescopeDepth true
      ctx.config.telescopeStringLength, ?_, Chain.firstNumber?_render hlimit⟩
    refine load_of_loaded? hoff hstopped haddress ?_
    rw [hlinks]
    simp only [loaded?, Context.renderChain, hoff]

/-- A chain that may have no links has no pointer. -/
theorem load_pointer_of_no_links (hlimit : Chain.oneMore ctx.config.telescopeDepth = 0)
    (hwide : ¬ size < ctx.process.machine.pointerSize) :
    load ctx insn dest source size =
      some (becomes (dest.label ++ ", " ++ source.label) (cannotDereference address)) := by
  refine load_of_loaded? hoff hstopped haddress ?_
  simp only [Process.chain, if_neg hwide, hlimit, Chain.follow, Chain.linksAfter, loaded?, if_true]

theorem exists_load_of_no_links (hlimit : Chain.oneMore ctx.config.telescopeDepth = 0) :
    ∃ shown, load ctx insn dest source size =
      some (becomes (dest.label ++ ", " ++ source.label) shown) ∧
        Rendering.firstNumber? shown = none := by
  -- A narrow number is read all the same, but the text of its chain is empty.
  by_cases hlt : size < ctx.process.machine.pointerSize
  · cases hnumber : ctx.process.number? address size with
    | none =>
      exact ⟨_, load_of_number?_eq_none hoff hstopped haddress hnumber,
        firstNumber?_cannotDereference address⟩
    | some value =>
      refine ⟨"", load_of_loaded? hoff hstopped haddress ?_, by decide +kernel⟩
      rw [Process.number?, if_pos hlt] at hnumber
      simp only [Process.chain, if_pos hlt, Process.singleRead_eq, hnumber, Option.toList_some,
        loaded?, Context.renderChain, hoff, Chain.render, hlimit, List.take_zero,
        Chain.renderLinks]
  · exact ⟨_, load_pointer_of_no_links hoff hstopped haddress hlimit hlt,
      firstNumber?_cannotDereference address⟩

include hreads hsize in
/-- Where chains show no links, a load shows no number. -/
theorem showsLoaded_load_of_no_links (hlimit : Chain.oneMore ctx.config.telescopeDepth = 0)
    {stored : Nat} (hle : stored ≤ size) :
    ShowsLoaded (load ctx insn dest source size) (dest.label ++ ", " ++ source.label) address
        (ctx.process.storedNumber? address stored) ↔
      ctx.process.storedNumber? address stored = none := by
  cases hstored : ctx.process.storedNumber? address stored with
  | some number =>
    obtain ⟨shown, hnote, hnumber⟩ : ∃ shown, load ctx insn dest source size =
        some (becomes (dest.label ++ ", " ++ source.label) shown) ∧
          Rendering.firstNumber? shown = none :=
      exists_load_of_no_links hoff hstopped haddress hlimit
    simp only [reduceCtorEq, iff_false]
    rintro ⟨again, hagain, hsome⟩
    rw [← becomes_inj hnote hagain, hnumber] at hsome
    contradiction
  | none =>
    simp only [iff_true]
    by_cases hlt : size < ctx.process.machine.pointerSize
    · have hnarrow := Nat.le_trans (Nat.min_le_left size ctx.process.machine.pointerSize) hsize
      have hnumber := Process.toNat_number?_of_min_le hreads address hnarrow
      rw [Nat.min_eq_left (Nat.le_of_lt hlt),
        Process.storedNumber?_eq_none_of_le hreads hle hstored, Option.map_eq_none_iff] at hnumber
      exact load_of_number?_eq_none hoff hstopped haddress hnumber
    · exact load_pointer_of_no_links hoff hstopped haddress hlimit hlt

end

end Note

/-! ### Registers -/

namespace Isa.Aarch64

/-- The registers that a load can set, by the first letter of their names. -/
inductive RegisterClass where
  | b
  | h
  | s
  | w
  | d
  | x
  deriving DecidableEq

namespace RegisterClass

/-- The first letter of the names of a class. -/
def letter : RegisterClass → String
  | b => "b"
  | h => "h"
  | s => "s"
  | w => "w"
  | d => "d"
  | x => "x"

/-- The width of the registers of a class in bytes. -/
def size : RegisterClass → Nat
  | b => 1
  | h => 2
  | s | w => 4
  | d | x => 8

/-- The width in bytes that notes take them for. -/
def noteSize : RegisterClass → Nat
  | w => 4
  | _ => 8

/-- The names of the registers of a class. The general registers `w` and `x` are one less than the
others, and have a zero register besides; two of the wide ones have second names. -/
def names (kind : RegisterClass) : List String :=
  match kind with
  | w => numbered 31 ++ ["wzr"]
  | x => numbered 31 ++ ["xzr", "fp", "lr"]
  | _ => numbered 32
where
  numbered (count : Nat) : List String :=
    (List.range count).map fun number => kind.letter ++ Text.decimal number

theorem size_le_noteSize (kind : RegisterClass) : kind.size ≤ kind.noteSize := by
  cases kind <;> decide

theorem accessSize_of_mem_names {kind : RegisterClass} {operand : Operand} {name : String}
    (hname : name ∈ kind.names) (hoperand : operand.kind = .register name) :
    accessSize none operand = kind.noteSize := by
  have hwidth : ∀ name ∈ kind.names,
      (if name.startsWith "w" then 32 else 64) / 8 = kind.noteSize := by
    cases kind <;> decide +kernel
  simpa only [accessSize, registerWidth, Operand.register?, hoperand, Option.getD_none] using
    hwidth name hname

end RegisterClass

end Isa.Aarch64

/-! ### Enhanced loads -/

namespace Enhancement

open Isa.Aarch64 (RegisterClass loadSizes)

variable {σ : Type} [Emulator σ] {process : Process} {config : Config} {insn : Instruction}
  {dest source : Operand} {rest : List Operand}

/-- The note of a load whose mnemonic leaves its width to the register. -/
theorem note_enhance_load {kind : RegisterClass} {name : String}
    (hnotes : config.disasmAnnotations = true)
    (hmnemonic : loadSizes.lookup insn.mnemonic = some none)
    (hoperands : (enhance .aarch64 process config insn (.off : Emulation σ)).1.operands =
      dest :: rest)
    (hname : name ∈ kind.names) (hdest : dest.kind = .register name)
    (hsource : rest.find? (fun operand => operand.isMemory || operand.isImmediate) = some source) :
    ∃ shown : Instruction, shown.address = insn.address ∧
      (enhance .aarch64 process config insn (.off : Emulation σ)).1.note =
        Note.load (contextOff σ process config) shown dest source kind.noteSize := by
  obtain ⟨shown, hcode, hshown, hnote⟩ :=
    exists_note_enhance_off (σ := σ) (p := process) .aarch64 insn hnotes
  rw [← operands_enhance_off, hoperands] at hshown
  refine ⟨shown, hcode.address, hnote.trans ?_⟩
  simp only [Isa.note, Isa.Aarch64.note, hcode.mnemonic, hmnemonic, Isa.Aarch64.loadNote, hshown,
    List.head?_cons, List.tail_cons, hsource, Option.bind_eq_bind, Option.bind_some,
    RegisterClass.accessSize_of_mem_names hname hdest]

/-- A load whose width is that of its register is shown as what lies at its source, if what notes
take for that width gives the same number. -/
theorem enhance_showsLoaded_iff {kind : RegisterClass} {name : String} {address : UInt64}
    (hstopped : process.pc = some insn.address) (hnotes : config.disasmAnnotations = true)
    (hmnemonic : loadSizes.lookup insn.mnemonic = some none)
    (hoperands : (enhance .aarch64 process config insn (.off : Emulation σ)).1.operands =
      dest :: rest)
    (hname : name ∈ kind.names) (hdest : dest.kind = .register name)
    (hsource : rest.find? (fun operand => operand.isMemory || operand.isImmediate) = some source)
    (haddress : source.beforeValue = some address) (hreads : process.ReadsRuns) :
    let note := (enhance .aarch64 process config insn (.off : Emulation σ)).1.note
    let stored := process.storedNumber? address
    Note.ShowsLoaded note (dest.label ++ ", " ++ source.label) address (stored kind.size) ↔
      if Chain.oneMore config.telescopeDepth = 0 then stored kind.size = none
      else stored (min kind.noteSize process.machine.pointerSize) = stored kind.size := by
  intro note stored
  obtain ⟨shown, hshown, hnote⟩ :=
    note_enhance_load hnotes hmnemonic hoperands hname hdest hsource
  have hpc : (contextOff σ process config).stoppedAt shown = true := by
    simp [Context.stoppedAt, contextOff, hstopped, hshown]
  have hsize : kind.noteSize ≤ 8 := by cases kind <;> decide
  simp only [note, hnote]
  split
  · rename_i hlimit
    exact Note.showsLoaded_load_of_no_links rfl hpc haddress hreads hsize hlimit
      kind.size_le_noteSize
  · rename_i hlimit
    have hshows : Note.ShowsLoaded (Note.load _ shown dest source kind.noteSize) _ address
        (stored (min kind.noteSize process.machine.pointerSize)) :=
      Note.showsLoaded_load rfl hpc haddress hreads hsize hlimit
    constructor
    · exact fun hright => hshows.unique hright
    · intro hsame
      rw [← hsame]
      exact hshows

/-- A load into a register that is known to be narrow. -/
theorem enhance_showsLoaded_word :
    let region : Region := {
      start := 0x2000, data := [0x11, 0x22, 0x33, 0x44], readable := true, writable := true
      executable := false, objfile := "" }
    let snapshot : Snapshot := {
      machine := .ofArch .aarch64
      registers := (NameMap.empty.insert "pc" 0x10000).insert "x1" 0x2000
      regions := AddressMap.empty.insert 0x2000 region }
    let load : Instruction := {
      arch := .aarch64, mode := .standard, address := 0x10000, size := 4, mnemonic := "ldr"
      operands := [{ kind := .register "w0" }, { kind := .memory { base := some "x1" } }] }
    let note := (enhance .aarch64 snapshot.process {} load (.off : Emulation Empty)).1.note
    snapshot.process.pc = some load.address ∧
      snapshot.process.storedNumber? 0x2000 4 = some 0x44332211 ∧
      Note.ShowsLoaded note "W0, [0x2000]" 0x2000 (some 0x44332211) := by
  intro region snapshot load note
  have hstopped : snapshot.process.pc = some load.address := by decide +kernel
  have hstored : snapshot.process.storedNumber? 0x2000 4 = some 0x44332211 := by decide +kernel
  let dest : Operand := { kind := .register "w0", display := some "W0" }
  let source : Operand := {
    kind := .memory { base := some "x1" }, beforeValue := some 0x2000, display := some "[0x2000]" }
  have hoperands : (enhance .aarch64 snapshot.process {} load (.off : Emulation Empty)).1.operands =
      dest :: [source] := by decide +kernel
  have hshows := @enhance_showsLoaded_iff Empty _ snapshot.process {} load dest source [source] .w
    "w0" 0x2000 hstopped rfl rfl hoperands (by decide +kernel) rfl rfl rfl snapshot.readsRuns
  refine ⟨hstopped, hstored, ?_⟩
  have hshown := hshows.mpr (by decide +kernel)
  rwa [show RegisterClass.w.size = 4 from rfl, hstored] at hshown

/-- Narrow registers of the vector unit are taken for wide ones: eight bytes are shown for four, and
where eight cannot be read, four are not read either. -/
theorem enhance_load_wide_register :
    let region (data : List UInt8) : Region := {
      start := 0x2000, data, readable := true, writable := true, executable := false
      objfile := "" }
    let snapshot (data : List UInt8) : Snapshot := {
      machine := .ofArch .aarch64
      registers := (NameMap.empty.insert "pc" 0x10000).insert "x1" 0x2000
      regions := AddressMap.empty.insert 0x2000 (region data) }
    let load : Instruction := {
      arch := .aarch64, mode := .standard, address := 0x10000, size := 4, mnemonic := "ldr"
      operands := [{ kind := .register "s0" }, { kind := .memory { base := some "x1" } }] }
    let note (data : List UInt8) :=
      (enhance .aarch64 (snapshot data).process {} load (.off : Emulation Empty)).1.note
    let whole := [0x11, 0x22, 0x33, 0x44, 0x55, 0x66, 0x77, 0x88]
    let half := [0x11, 0x22, 0x33, 0x44]
    (snapshot whole).process.pc = some load.address ∧
      (snapshot whole).process.storedNumber? 0x2000 4 = some 0x44332211 ∧
      note whole = some "S0, [0x2000] => 0x8877665544332211" ∧
      (snapshot half).process.storedNumber? 0x2000 4 = some 0x44332211 ∧
      note half = some "S0, [0x2000] => <Cannot dereference [0x2000]>" := by
  decide +kernel

end Enhancement

end CodeWindow
