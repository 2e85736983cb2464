import CodeWindow.Proofs.SnapshotMemory
import CodeWindow.Proofs.StoredNumber
import Mathlib.Data.Nat.Digits.Lemmas

/-! Numbers that memory holds and that are read back from it. A number is held as its digits to the
base 256, in the byte order of the machine; the bytes may go on from one region into the next. It is
read back, whole and by its first bytes, except where a region without bytes hides the address. -/

namespace CodeWindow

/-! ### Numbers as bytes -/

namespace Machine

variable (machine : Machine) {size number : Nat}

/-- A number below `256 ^ size` as so many bytes in the byte order of a machine. -/
def encode (size number : Nat) : List UInt8 :=
  let bytes := (Nat.digitsAppend 256 size number).map UInt8.ofNat
  match machine.byteOrder with
  | .little => bytes
  | .big => bytes.reverse

theorem littleNumber_map_ofNat {digits : List Nat} (h : ∀ digit ∈ digits, digit < 256) :
    littleNumber (digits.map UInt8.ofNat) = Nat.ofDigits 256 digits := by
  rw [littleNumber, List.map_map, List.map_congr_left (g := id), List.map_id]
  exact fun digit hmem => UInt8.toNat_ofNat_of_lt' (h digit hmem)

/-- The bytes of a number make that number. -/
theorem numberOf_encode (size number : Nat) :
    machine.numberOf (machine.encode size number) = number := by
  have hvalue :
      littleNumber ((Nat.digitsAppend 256 size number).map UInt8.ofNat) = number := by
    rw [littleNumber_map_ofNat fun digit => Nat.lt_of_mem_digitsAppend (by decide) size digit,
      Nat.digitsAppend, Nat.ofDigits_append_replicate_zero, Nat.ofDigits_digits]
  unfold numberOf encode
  cases machine.byteOrder with
  | little => exact hvalue
  | big => simpa only [List.reverse_reverse] using hvalue

theorem leading_self (h : number < 256 ^ size) : machine.leading size size number = number := by
  unfold leading
  cases machine.byteOrder with
  | little => exact Nat.mod_eq_of_lt h
  | big => simp only [Nat.sub_self, Nat.pow_zero, Nat.div_one]

end Machine

/-! ### Numbers read back -/

namespace Process

/-- Reads at an address give a number of so many bytes, and the numbers that its first bytes
make. -/
structure GivesNumber (process : Process) (address : UInt64) (size number : Nat) : Prop where
  whole : (process.readUInt address size).map UInt64.toNat = .ok number
  first : ∀ shorter ≤ size, (process.readUInt address shorter).map UInt64.toNat =
    .ok (process.machine.leading shorter size number)

theorem ReadsRuns.givesNumber {process : Process} {address : UInt64} {size number : Nat}
    (h : process.ReadsRuns) (hsize : size ≤ 8) (hnumber : number < 256 ^ size)
    (hread : process.read .exact address size = .ok (process.machine.encode size number)) :
    process.GivesNumber address size number := by
  have hfirst : ∀ shorter ≤ size, (process.readUInt address shorter).map UInt64.toNat =
      .ok (process.machine.leading shorter size number) := by
    intro shorter hle
    rw [toNat_readUInt_of_le h hsize hle hread, Machine.numberOf_encode]
  refine ⟨?_, hfirst⟩
  rw [hfirst size (Nat.le_refl size), Machine.leading_self _ hnumber]

end Process

namespace Snapshot

variable {snapshot : Snapshot} {address : UInt64} {size number : Nat}

theorem ReadsMemory.read_of_cells {bytes : List UInt8} (h : snapshot.ReadsMemory address size)
    (hcells : snapshot.cells address size = bytes.map some) :
    snapshot.read .exact address size = .ok bytes := by
  obtain ⟨found, hread, hfound⟩ := h.whole (by simp [hcells])
  rw [hcells] at hfound
  rw [hread, List.map_injective_iff.mpr (Option.some_injective _) hfound]

theorem Built.readUInt_of_hidden (built : snapshot.Built) (separate : snapshot.Separate)
    (hidden : snapshot.Hidden address) (hpos : 0 < size) :
    snapshot.process.readUInt address size = .error (.unmapped address size) := by
  have hread : snapshot.process.read .exact address size = .error (.unmapped address size) :=
    built.read_of_hidden separate hidden hpos .exact
  rw [Process.readUInt, hread]
  rfl

/-- A number that memory holds is read back if and only if its address is not hidden. At a hidden
address every read that asks for bytes fails. -/
theorem givesNumber_iff_not_hidden (built : snapshot.Built) (separate : snapshot.Separate)
    (hpos : 1 ≤ size) (hsize : size ≤ 8) (hnumber : number < 256 ^ size)
    (hcells : snapshot.cells address size = (snapshot.machine.encode size number).map some) :
    (snapshot.process.GivesNumber address size number ↔ ¬ snapshot.Hidden address) ∧
      (snapshot.Hidden address → ∀ shorter, 0 < shorter →
        snapshot.process.readUInt address shorter = .error (.unmapped address shorter)) := by
  refine ⟨⟨fun h hidden => ?_, fun hshown => ?_⟩,
    fun hidden shorter => built.readUInt_of_hidden separate hidden⟩
  · have hwhole := h.whole
    rw [built.readUInt_of_hidden separate hidden hpos] at hwhole
    contradiction
  · have hmemory := built.readsMemory separate size hshown
    exact snapshot.readsRuns.givesNumber hsize hnumber (hmemory.read_of_cells hcells)

/-- A number of four bytes goes on in an adjacent region. A region without bytes that starts at its
second byte does not hide the first one. -/
theorem givesNumber_across_regions :
    let region (start : UInt64) (data : List UInt8) : Region := {
      start, data, readable := true, writable := false, executable := false, objfile := "" }
    let bare : Snapshot := { machine := .ofArch .x86_64 }
    let snapshot : Snapshot := ((bare.mapRegion (region 0x1000 [0x11, 0x22])).mapRegion
      (region 0x1001 [])).mapRegion (region 0x1002 [0x33, 0x44])
    snapshot.Built ∧ snapshot.Separate ∧
      snapshot.cells 0x1000 4 = (snapshot.machine.encode 4 0x44332211).map some ∧
      snapshot.process.GivesNumber 0x1000 4 0x44332211 ∧
      (snapshot.process.readUInt 0x1000 3).map UInt64.toNat = .ok 0x332211 := by
  intro region bare snapshot
  have built : snapshot.Built := (((Built.bare _).mapRegion _).mapRegion _).mapRegion _
  have separate : snapshot.Separate := by decide +kernel
  have hcells : snapshot.cells 0x1000 4 = (snapshot.machine.encode 4 0x44332211).map some := by
    decide +kernel
  have hnumber : snapshot.process.GivesNumber 0x1000 4 0x44332211 :=
    (givesNumber_iff_not_hidden built separate (by decide) (by decide) (by decide) hcells).1.mpr
      (by decide +kernel)
  exact ⟨built, separate, hcells, hnumber, hnumber.first 3 (by decide)⟩

/-- A region without bytes starts at the third of four readable bytes. The number that they make is
read, but the one that the third and the fourth make is not. -/
theorem not_givesNumber_at_empty_region :
    let region (start : UInt64) (data : List UInt8) : Region := {
      start, data, readable := true, writable := false, executable := false, objfile := "" }
    let bare : Snapshot := { machine := .ofArch .x86_64 }
    let snapshot : Snapshot := (bare.mapRegion (region 0x1000 [0x11, 0x22, 0x33, 0x44])).mapRegion
      (region 0x1002 [])
    snapshot.Built ∧ snapshot.Separate ∧
      snapshot.cells 0x1002 2 = (snapshot.machine.encode 2 0x4433).map some ∧
      snapshot.process.readUInt 0x1000 4 = .ok 0x44332211 ∧
      snapshot.process.readUInt 0x1002 2 = .error (.unmapped 0x1002 2) ∧
      ¬ snapshot.process.GivesNumber 0x1002 2 0x4433 := by
  intro region bare snapshot
  have hread : snapshot.process.readUInt 0x1002 2 = .error (.unmapped 0x1002 2) := by
    decide +kernel
  refine ⟨((Built.bare _).mapRegion _).mapRegion _, by decide +kernel, by decide +kernel,
    by decide +kernel, hread, fun h => ?_⟩
  have hwhole := h.whole
  rw [hread] at hwhole
  contradiction

end Snapshot

end CodeWindow
