import CodeWindow.Proofs.WordBits
import CodeWindow.Snapshot
import Mathlib.Data.List.Nodup
import Mathlib.Data.List.Pairwise

/-! The names of the general registers and what a snapshot shows under them. A snapshot that holds a
register at its full width shows its narrower names as slices of it, but it looks for them under the
64-bit and the 32-bit names of the x86 family and under `x0`, `x1`, … only. No name shows anything
of another register. -/

namespace CodeWindow

/-! ### Scans -/

theorem findSome?_congr {α β : Type} {f g : α → Option β} {items : List α}
    (h : ∀ a ∈ items, f a = g a) : items.findSome? f = items.findSome? g := by
  induction items with
  | nil => rfl
  | cons a items ih =>
    rw [List.findSome?_cons, List.findSome?_cons, h a List.mem_cons_self,
      ih fun b hb => h b (List.mem_cons_of_mem a hb)]

/-- A scan for entries that all have one value tells whether there is one. -/
theorem findSome?_eq_ite {α β : Type} {f : α → Option β} {items : List α} {p : α → Prop}
    [DecidablePred p] {b : β} (h : ∀ a ∈ items, f a = if p a then some b else none) :
    items.findSome? f = if ∃ a ∈ items, p a then some b else none := by
  induction items with
  | nil => simp
  | cons a items ih =>
    rw [List.findSome?_cons, h a List.mem_cons_self, ih fun c hc => h c (List.mem_cons_of_mem a hc)]
    by_cases ha : p a <;> simp [ha]

/-! ### Case of names -/

namespace Text

theorem toNat_lt_of_toLower {c : Char} (h : c.toLower.toNat < 0x80) : c.toNat < 0x80 := by
  unfold Char.toLower at h
  split at h
  · rename_i hupper
    have hle : c.val.toNat ≤ 'Z'.val.toNat := UInt32.le_iff_toNat_le.mp hupper.2
    exact Nat.lt_of_le_of_lt hle (by decide)
  · exact h

theorem lowerFrom_eq_map {text : List Char} (h : ∀ c ∈ text, c.toNat < 0x80)
    (before : List Char) : LetterCase.lowerFrom before text = text.map Char.toLower := by
  induction text generalizing before with
  | nil => rfl
  | cons c text ih =>
    have hc := h c List.mem_cons_self
    have hsigma : (c.toNat == 0x3A3) = false := beq_eq_false_iff_ne.mpr (by omega)
    rw [LetterCase.lowerFrom, ih (fun d hd => h d (List.mem_cons_of_mem c hd)), hsigma,
      Bool.false_and, LetterCase.lowerChar, if_pos hc]
    rfl

/-- A name of ASCII letters goes to lower case letter by letter. -/
theorem lower_eq_of_toLower_eq {name text : String} (h : name.toLower = text)
    (hascii : ∀ c ∈ text.toList, c.toNat < 0x80) : lower name = text := by
  have hletters : text.toList = name.toList.map Char.toLower := by
    rw [← h, show name.toLower = name.map Char.toLower from rfl, String.toList_map]
  have hname : ∀ c ∈ name.toList, c.toNat < 0x80 := fun c hc =>
    toNat_lt_of_toLower (hascii _ (hletters ▸ List.mem_map_of_mem hc))
  rw [lower, lowerFrom_eq_map hname, ← hletters, String.ofList_toList]

end Text

/-! ### Names -/

/-- A name of a register, with the bits of the register that it stands for. -/
structure RegisterForm where
  name : String
  first : Nat
  width : Nat
  deriving DecidableEq

/-- The general registers: `ax` to `dx`, whose two low bytes have names, the index and pointer
registers, those that only x86-64 has, and those of AArch64. -/
inductive GeneralRegister where
  | data (letter : String)
  | pointer (stem : String)
  | numbered (number : Nat)
  | x (number : Nat)
  deriving DecidableEq

namespace GeneralRegister

/-- The second names of two registers of AArch64. -/
def alias? : Nat → Option String
  | 29 => some "fp"
  | 30 => some "lr"
  | _ => none

/-- The names of a register on any architecture of its family, the wider ones first. -/
def forms : GeneralRegister → List RegisterForm
  | data letter =>
    [⟨"r" ++ letter ++ "x", 0, 64⟩, ⟨"e" ++ letter ++ "x", 0, 32⟩, ⟨letter ++ "x", 0, 16⟩,
      ⟨letter ++ "l", 0, 8⟩, ⟨letter ++ "h", 8, 8⟩]
  | pointer stem =>
    [⟨"r" ++ stem, 0, 64⟩, ⟨"e" ++ stem, 0, 32⟩, ⟨stem, 0, 16⟩, ⟨stem ++ "l", 0, 8⟩]
  | numbered number =>
    let name := "r" ++ Text.decimal number
    [⟨name, 0, 64⟩, ⟨name ++ "d", 0, 32⟩, ⟨name ++ "w", 0, 16⟩, ⟨name ++ "b", 0, 8⟩]
  | x number =>
    ⟨"x" ++ Text.decimal number, 0, 64⟩ :: ((alias? number).map (⟨·, 0, 64⟩)).toList ++
      [⟨"w" ++ Text.decimal number, 0, 32⟩]

def names (register : GeneralRegister) : List String := register.forms.map RegisterForm.name

end GeneralRegister

namespace Architecture

/-- The width of the general registers. -/
def registerWidth : Architecture → Nat
  | i8086 => 16
  | i386 => 32
  | x86_64 | aarch64 => 64
  | _ => 0

theorem registerWidth_le (arch : Architecture) : arch.registerWidth ≤ 64 := by
  cases arch <;> decide

/-- The general registers of an architecture of the x86 family, and those of AArch64. -/
def generalRegisters : Architecture → List GeneralRegister
  | i8086 | i386 => legacy
  | x86_64 => legacy ++ (List.range' 8 8).map .numbered
  | aarch64 => (List.range 31).map .x
  | _ => []
where
  legacy : List GeneralRegister :=
    ["a", "b", "c", "d"].map .data ++ ["si", "di", "bp", "sp"].map .pointer

/-- Different registers have different names. -/
theorem nodup_names (arch : Architecture) :
    (arch.generalRegisters.flatMap GeneralRegister.names).Nodup := by
  cases arch <;> decide +kernel

theorem all_lt_of_mem_forms (arch : Architecture) :
    ∀ register ∈ arch.generalRegisters, ∀ form ∈ register.forms,
      (form.name.toList.all fun c => c.toNat < 0x80) = true := by
  cases arch <;> decide +kernel

end Architecture

namespace RegisterForm

/-- The bits of a register that a name stands for, as a number. -/
def bitsOf (form : RegisterForm) (value : UInt64) : Nat :=
  value.toNat / 2 ^ form.first % 2 ^ form.width

/-- A snapshot finds a narrower name in a register that it holds under a wider one: in the 64-bit
names but the second ones of AArch64, and in the 32-bit names, except for the low bytes that only
x86-64 has names for. -/
def FoundIn (view full : RegisterForm) : Prop :=
  (full.width = 64 ∧ full.name ∉ ["fp", "lr"]) ∨
    (full.width = 32 ∧ view.name ∉ ["sil", "dil", "bpl", "spl"])

instance (view full : RegisterForm) : Decidable (view.FoundIn full) :=
  inferInstanceAs (Decidable (_ ∨ _))

end RegisterForm

namespace RegisterSlice

open GeneralRegister

/-- The slices that may show a narrower name are its bits of names of the same register. -/
theorem of_mem_candidates (arch : Architecture) :
    ∀ register ∈ arch.generalRegisters, ∀ view ∈ register.forms, view.width < arch.registerWidth →
      ∀ slice ∈ candidates arch view.name,
        slice.register ∈ register.names ∧ slice.shift = view.first ∧ slice.width = view.width := by
  cases arch <;> decide +kernel

theorem exists_candidate_iff (arch : Architecture) :
    ∀ register ∈ arch.generalRegisters, ∀ full ∈ register.forms, full.width = arch.registerWidth →
      ∀ view ∈ register.forms, view.width < arch.registerWidth →
        ((∃ slice ∈ candidates arch view.name, slice.register = full.name) ↔
          view.FoundIn full) := by
  cases arch <;> decide +kernel

theorem toNat_extract (slice : RegisterSlice) (value : UInt64) (hwidth : slice.width ≤ 64) :
    (slice.extract value).toNat = value.toNat / 2 ^ slice.shift % 2 ^ slice.width := by
  rw [extract, Bits.toNat_and_mask, Nat.min_eq_left hwidth, ← UInt64.toNat_toBitVec,
    Bits.toBitVec_shiftRight, BitVec.toNat_ushiftRight, UInt64.toNat_toBitVec,
    Nat.shiftRight_eq_div_pow]

end RegisterSlice

namespace Snapshot

variable {snapshot : Snapshot} {register : GeneralRegister} {full view : RegisterForm}
  {value : UInt64} {name : String}

/-! ### Views -/

/-- A snapshot holds a register under one of its names, and under no other. -/
def HoldsUnder (snapshot : Snapshot) (register : GeneralRegister) (full : RegisterForm)
    (value : UInt64) : Prop :=
  ∀ name ∈ register.names,
    snapshot.registers.find? name = if name = full.name then some value else none

instance (snapshot : Snapshot) (register : GeneralRegister) (full : RegisterForm) (value : UInt64) :
    Decidable (snapshot.HoldsUnder register full value) :=
  inferInstanceAs (Decidable (∀ name ∈ register.names, _))

section

variable (hregister : register ∈ snapshot.machine.arch.generalRegisters)
  (hview : view ∈ register.forms) (hnarrow : view.width < snapshot.machine.arch.registerWidth)
  (hname : name.toLower = view.name)

include hregister hview hname

theorem lower_view : Text.lower name = view.name :=
  Text.lower_eq_of_toLower_eq hname <| by
    simpa using snapshot.machine.arch.all_lt_of_mem_forms register hregister view hview

/-- A name shows what is stored under it, or else the first slice that is found. -/
theorem register_eq_or :
    snapshot.register name = (snapshot.registers.find? view.name).or
      ((RegisterSlice.candidates snapshot.machine.arch view.name).findSome? fun slice =>
        (snapshot.registers.find? slice.register).map slice.extract) := by
  rw [Snapshot.register, lower_view hregister hview hname]
  cases snapshot.registers.find? view.name <;> rfl

include hnarrow

/-- What a narrower name shows depends on the names of its register alone. -/
theorem register_congr {other : Snapshot} (hmachine : other.machine = snapshot.machine)
    (hsame : ∀ name ∈ register.names,
      other.registers.find? name = snapshot.registers.find? name) :
    other.register name = snapshot.register name := by
  have hslices := RegisterSlice.of_mem_candidates _ register hregister view hview hnarrow
  rw [register_eq_or hregister hview hname, register_eq_or (hmachine ▸ hregister) hview hname,
    hmachine, hsame _ (List.mem_map_of_mem hview)]
  congr 1
  refine findSome?_congr fun slice hslice => ?_
  rw [hsame _ (hslices slice hslice).1]

theorem register_setRegister_of_ne {other : GeneralRegister}
    (hother : other ∈ snapshot.machine.arch.generalRegisters) (hne : other ≠ register)
    {form : RegisterForm} (hform : form ∈ other.forms) {key : String}
    (hkey : key.toLower = form.name) (stored : UInt64) :
    (snapshot.setRegister key stored).register name = snapshot.register name := by
  have hdisjoint : ∀ candidate ∈ register.names, candidate ∉ other.names := by
    have hpairs := (List.nodup_flatMap.mp snapshot.machine.arch.nodup_names).2
    have : Std.Symm (Function.onFun List.Disjoint GeneralRegister.names) :=
      ⟨fun _ _ h _ ha hb => h hb ha⟩
    exact fun _ hmem hboth => hpairs.forall hregister hother (Ne.symm hne) hmem hboth
  refine register_congr hregister hview hnarrow hname rfl fun candidate hcandidate => ?_
  have hapart : candidate ≠ Text.lower key := by
    rintro rfl
    rw [lower_view hother hform hkey] at hcandidate
    exact hdisjoint _ hcandidate (List.mem_map_of_mem hform)
  rw [setRegister, NameMap.find?_insert, if_neg hapart]

end

/-- Under a narrower name of a register that is held at its full width, a snapshot shows the bits of
the name where it looks for them in the name that the register is held under, and otherwise nothing.
What it holds of other registers makes no difference. -/
theorem register_view_eq (hregister : register ∈ snapshot.machine.arch.generalRegisters)
    (hfull : full ∈ register.forms) (hwide : full.width = snapshot.machine.arch.registerWidth)
    (hheld : snapshot.HoldsUnder register full value)
    (hview : view ∈ register.forms) (hnarrow : view.width < snapshot.machine.arch.registerWidth)
    (hname : name.toLower = view.name) :
    (snapshot.register name).map UInt64.toNat =
        (if view.FoundIn full then some (view.bitsOf value) else none) ∧
      ∀ other ∈ snapshot.machine.arch.generalRegisters, other ≠ register →
        ∀ form ∈ other.forms, ∀ key : String, key.toLower = form.name → ∀ stored,
          (snapshot.setRegister key stored).register name = snapshot.register name := by
  refine ⟨?_, fun other hother hne form hform key hkey stored =>
    register_setRegister_of_ne hregister hview hnarrow hname hother hne hform hkey stored⟩
  have hslices := RegisterSlice.of_mem_candidates _ register hregister view hview hnarrow
  have hfound := RegisterSlice.exists_candidate_iff _ register hregister full hfull hwide view
    hview hnarrow
  -- The name itself is not stored, since it is not the wide one.
  have hunstored : snapshot.registers.find? view.name = none := by
    rw [hheld _ (List.mem_map_of_mem hview), if_neg]
    intro hsame
    have hforms := (List.nodup_flatMap.mp snapshot.machine.arch.nodup_names).1 register hregister
    have heq := List.inj_on_of_nodup_map hforms hview hfull hsame
    rw [heq, hwide] at hnarrow
    exact Nat.lt_irrefl _ hnarrow
  -- Every slice that is found shows the same bits, so it does not matter which one comes first.
  have hbits : ∀ slice ∈ RegisterSlice.candidates snapshot.machine.arch view.name,
      ((snapshot.registers.find? slice.register).map slice.extract).map UInt64.toNat =
        if slice.register = full.name then some (view.bitsOf value) else none := by
    intro slice hslice
    obtain ⟨hmem, hshift, hwidth⟩ := hslices slice hslice
    have hfits : slice.width ≤ 64 := by
      have := snapshot.machine.arch.registerWidth_le
      omega
    rw [hheld _ hmem]
    split
    · rw [Option.map_some, Option.map_some, RegisterSlice.toNat_extract slice value hfits, hshift,
        hwidth]
      rfl
    · rfl
  rw [register_eq_or hregister hview hname, hunstored, Option.none_or, List.map_findSome?]
  exact (findSome?_eq_ite hbits).trans (if_congr hfound rfl rfl)

/-- The second byte of a register of x86-64. -/
theorem register_view_high_byte :
    let snapshot := ({ machine := .ofArch .x86_64 } : Snapshot).setRegister "rax" 0x1122334455667788
    (snapshot.register "AH").map UInt64.toNat = some 0x77 ∧
      ∀ other ∈ snapshot.machine.arch.generalRegisters, other ≠ .data "a" →
        ∀ form ∈ other.forms, ∀ key : String, key.toLower = form.name → ∀ stored,
          (snapshot.setRegister key stored).register "AH" = snapshot.register "AH" := by
  have hviews := @register_view_eq
    (({ machine := .ofArch .x86_64 } : Snapshot).setRegister "rax" 0x1122334455667788)
    (.data "a") ⟨"rax", 0, 64⟩ ⟨"ah", 8, 8⟩ 0x1122334455667788 "AH" (by decide +kernel)
    (by decide +kernel) rfl (by decide +kernel) (by decide +kernel) (by decide) (by decide +kernel)
  exact ⟨hviews.1.trans (by decide +kernel), hviews.2⟩

/-- The 16-bit registers of the 8086 are not searched for their bytes, and the second names of
AArch64 are not searched for the lower halves. -/
theorem register_view_unfound :
    let old := ({ machine := .ofArch .i8086 } : Snapshot).setRegister "ax" 0x1234
    let arm := ({ machine := .ofArch .aarch64 } : Snapshot).setRegister "lr" 0x1122334455667788
    old.HoldsUnder (.data "a") ⟨"ax", 0, 16⟩ 0x1234 ∧
      arm.HoldsUnder (.x 30) ⟨"lr", 0, 64⟩ 0x1122334455667788 ∧
      old.register "al" = none ∧ old.register "ah" = none ∧ arm.register "w30" = none := by
  decide +kernel

end Snapshot

end CodeWindow
