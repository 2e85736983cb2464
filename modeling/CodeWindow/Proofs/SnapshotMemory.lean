import CodeWindow.Proofs.MapEntries
import CodeWindow.Snapshot.Json

/-! The memory of a snapshot, byte by byte, and what a read makes of it. Where regions do not
overlap, an address has one byte at most. A read looks for the region with the greatest start not
above its cursor, so it finds the byte unless a region without bytes starts between the start of the
region that holds it and the cursor. Without such regions every read gives the bytes up to the first
gap. -/

namespace CodeWindow

/-- An address so many bytes behind another one, where the sum does not wrap. -/
theorem toNat_add_ofNat {address : UInt64} {n : Nat} (h : address.toNat + n < UInt64.size) :
    (address + UInt64.ofNat n).toNat = address.toNat + n := by
  rw [UInt64.toNat_add, UInt64.toNat_ofNat_of_lt' (Nat.lt_of_le_of_lt (Nat.le_add_left _ _) h),
    Nat.mod_eq_of_lt h]

/-! ### The bytes of a region -/

namespace Region

variable {region : Region} {address : UInt64}

/-- An address lies in a region, counted without wrapping. -/
def Covers (region : Region) (address : UInt64) : Prop :=
  region.start ≤ address ∧ address.toNat < region.start.toNat + region.data.length

instance (region : Region) (address : UInt64) : Decidable (region.Covers address) :=
  inferInstanceAs (Decidable (_ ∧ _))

/-- No address lies in both of two regions. -/
def Apart (first second : Region) : Prop :=
  ∀ address, ¬ (first.Covers address ∧ second.Covers address)

theorem apart_iff {first second : Region} :
    first.Apart second ↔
      first.data = [] ∨ second.data = [] ∨
        first.start.toNat + first.data.length ≤ second.start.toNat ∨
        second.start.toNat + second.data.length ≤ first.start.toNat := by
  simp only [Apart, Covers, UInt64.le_iff_toNat_le]
  constructor
  · intro h
    by_contra hoverlap
    simp only [not_or, Nat.not_le, ← List.length_eq_zero_iff] at hoverlap
    -- The greater one of the two starts lies in both regions.
    rcases Nat.le_total first.start.toNat second.start.toNat with hle | hle
    · exact h second.start (by omega)
    · exact h first.start (by omega)
  · rintro (h | h | h | h) address ⟨hfirst, hsecond⟩
    · rw [h, List.length_nil] at hfirst
      omega
    · rw [h, List.length_nil] at hsecond
      omega
    · omega
    · omega

instance (first second : Region) : Decidable (first.Apart second) := decidable_of_iff' _ apart_iff

/-- A region ends below the end of the address space. -/
def Bounded (region : Region) : Prop :=
  region.start.toNat + region.data.length < UInt64.size

instance (region : Region) : Decidable region.Bounded := inferInstanceAs (Decidable (_ < _))

/-- The byte of a region at an address. -/
def byteAt? (region : Region) (address : UInt64) : Option UInt8 :=
  if region.start ≤ address then region.data[(address - region.start).toNat]? else none

theorem Covers.of_le {before : UInt64} (h : region.Covers address) (hstart : region.start ≤ before)
    (hle : before ≤ address) : region.Covers before :=
  ⟨hstart, Nat.lt_of_le_of_lt (UInt64.le_iff_toNat_le.mp hle) h.2⟩

theorem covers_iff :
    region.Covers address ↔
      region.start ≤ address ∧ (address - region.start).toNat < region.data.length := by
  refine and_congr_right fun hle => ?_
  have hle' := UInt64.le_iff_toNat_le.mp hle
  rw [UInt64.toNat_sub_of_le address region.start hle]
  omega

theorem isSome_byteAt? : (region.byteAt? address).isSome ↔ region.Covers address := by
  rw [covers_iff, byteAt?]
  split
  · rename_i hle
    simp [hle]
  · rename_i hle
    simp only [Option.isSome_none, Bool.false_eq_true, hle, false_and]

theorem contains_iff_covers (h : region.Bounded) :
    region.contains address = true ↔ region.Covers address := by
  have hstop : region.stop.toNat = region.start.toNat + region.data.length := toNat_add_ofNat h
  simp only [contains, Covers, Bool.and_eq_true, decide_eq_true_eq, UInt64.lt_iff_toNat_lt, hstop]

theorem byteAt?_add (h : region.Bounded) (hle : region.start ≤ address) {i : Nat}
    (hi : i < (region.dataFrom address).length) :
    region.byteAt? (address + UInt64.ofNat i) = (region.dataFrom address)[i]? := by
  have hle' := UInt64.le_iff_toNat_le.mp hle
  have hoffset := UInt64.toNat_sub_of_le address region.start hle
  rw [dataFrom, List.length_drop, hoffset] at hi
  rw [Bounded] at h
  have hadd : (address + UInt64.ofNat i).toNat = address.toNat + i := toNat_add_ofNat (by omega)
  have hstart : region.start ≤ address + UInt64.ofNat i := by
    rw [UInt64.le_iff_toNat_le, hadd]
    omega
  have hindex : (address + UInt64.ofNat i - region.start).toNat =
      (address - region.start).toNat + i := by
    rw [UInt64.toNat_sub_of_le _ _ hstart, hadd, hoffset]
    omega
  rw [byteAt?, if_pos hstart, dataFrom, List.getElem?_drop, hindex]

theorem add_length_dataFrom (h : region.dataFrom address ≠ []) :
    address + UInt64.ofNat (region.dataFrom address).length = region.stop := by
  have hpos := List.length_pos_iff.mpr h
  have hstart : address = region.start + UInt64.ofNat (address - region.start).toNat := by
    rw [UInt64.ofNat_toNat, UInt64.add_comm, UInt64.sub_add_cancel]
  rw [dataFrom, List.length_drop] at hpos ⊢
  have hlength : region.data.length = (address - region.start).toNat +
      (region.data.length - (address - region.start).toNat) := by omega
  rw [stop, hlength, UInt64.ofNat_add, ← UInt64.add_assoc, ← hstart, Nat.add_sub_cancel_left]

end Region

namespace Snapshot

variable {snapshot : Snapshot} {address : UInt64} {region : Region}

/-! ### Snapshots as they are built -/

/-- The snapshots that come to be from bare machines. -/
inductive Built : Snapshot → Prop
  | bare (machine : Machine) : Built { machine }
  | setRegister {snapshot : Snapshot} : Built snapshot → ∀ name value,
      Built (snapshot.setRegister name value)
  | mapRegion {snapshot : Snapshot} : Built snapshot → ∀ region, Built (snapshot.mapRegion region)
  | withSymbols {snapshot : Snapshot} : Built snapshot → ∀ symbols,
      Built { snapshot with symbols }

theorem Built.key_eq_start (h : snapshot.Built) :
    ∀ entry ∈ snapshot.regions.entries, entry.1 = entry.2.start := by
  induction h with
  | bare machine =>
    intro entry hmem
    exact absurd hmem List.not_mem_nil
  | setRegister _ name value ih => exact ih
  | mapRegion _ region ih =>
    intro entry hmem
    rcases AddressMap.mem_place hmem with rfl | hmem
    · rfl
    · exact ih entry hmem
  | withSymbols _ symbols ih => exact ih

theorem exists_of_bind_eq_ok {ε α β : Type} {first : Except ε α} {rest : α → Except ε β} {last : β}
    (h : first >>= rest = .ok last) : ∃ value, first = .ok value ∧ rest value = .ok last := by
  cases first with
  | error cause => contradiction
  | ok value => exact ⟨value, rfl, h⟩

theorem foldlM_keeps {ε α β : Type} {kept : β → Prop} {step : β → α → Except ε β}
    (hstep : ∀ {before after : β} {item : α}, kept before → step before item = .ok after →
      kept after) :
    {items : List α} → {first last : β} → kept first → items.foldlM step first = .ok last →
      kept last
  | [], first, last, hfirst, h => Except.ok.inj h ▸ hfirst
  | item :: items, first, last, hfirst, h => by
    rw [List.foldlM_cons] at h
    obtain ⟨next, hitem, hrest⟩ := exists_of_bind_eq_ok h
    exact foldlM_keeps hstep (hstep hfirst hitem) hrest

/-- What is read from a form is built. -/
theorem built_of_form {form : Form} (h : form.snapshot = .ok snapshot) : snapshot.Built := by
  obtain ⟨withRegisters, hregisters, h⟩ := exists_of_bind_eq_ok h
  obtain ⟨withRegions, hregions, hsymbols⟩ := exists_of_bind_eq_ok h
  have hbuiltRegisters : withRegisters.Built := by
    refine foldlM_keeps (fun hbuilt hstep => ?_) (Built.bare form.machine) hregisters
    obtain ⟨value, -, hvalue⟩ := exists_of_bind_eq_ok hstep
    exact Except.ok.inj hvalue ▸ hbuilt.setRegister _ value
  have hbuiltRegions : withRegions.Built := by
    refine foldlM_keeps (fun hbuilt hstep => ?_) hbuiltRegisters hregions
    obtain ⟨region, -, hregion⟩ := exists_of_bind_eq_ok hstep
    exact Except.ok.inj hregion ▸ hbuilt.mapRegion region
  refine foldlM_keeps (fun hbuilt hstep => ?_) hbuiltRegions hsymbols
  obtain ⟨symbol, -, hsymbol⟩ := exists_of_bind_eq_ok hstep
  exact Except.ok.inj hsymbol ▸ hbuilt.withSymbols _

/-! ### Memory byte by byte -/

/-- The regions of a snapshot. -/
def allRegions (snapshot : Snapshot) : List Region := snapshot.regions.entries.map Prod.snd

/-- The byte at an address that lies in a readable region. -/
def byteAt? (snapshot : Snapshot) (address : UInt64) : Option UInt8 :=
  snapshot.allRegions.findSome? fun region =>
    if region.readable then region.byteAt? address else none

/-- The bytes at so many addresses, as far as there are any. -/
def cells (snapshot : Snapshot) (address : UInt64) (length : Nat) : List (Option UInt8) :=
  (List.range length).map fun i => snapshot.byteAt? (address + UInt64.ofNat i)

/-- Regions end below the end of the address space, and no address lies in two of them. -/
structure Separate (snapshot : Snapshot) : Prop where
  bounded : ∀ region ∈ snapshot.allRegions, region.Bounded
  apart : snapshot.allRegions.Pairwise Region.Apart

instance (snapshot : Snapshot) : Decidable snapshot.Separate :=
  decidable_of_iff
    ((∀ region ∈ snapshot.allRegions, region.Bounded) ∧ snapshot.allRegions.Pairwise Region.Apart)
    ⟨fun h => ⟨h.1, h.2⟩, fun h => ⟨h.bounded, h.apart⟩⟩

/-- No region without bytes starts inside a readable region. -/
def Unshadowed (snapshot : Snapshot) : Prop :=
  ∀ region ∈ snapshot.allRegions, region.readable = true →
    ∀ other ∈ snapshot.allRegions, other.data = [] →
      region.start < other.start → ¬ region.Covers other.start

instance (snapshot : Snapshot) : Decidable snapshot.Unshadowed :=
  inferInstanceAs (Decidable (∀ region ∈ snapshot.allRegions, region.readable = true →
    ∀ other ∈ snapshot.allRegions, other.data = [] →
      region.start < other.start → ¬ region.Covers other.start))

/-- A region without bytes starts behind the start of the readable region that holds an address,
and not behind the address. -/
def Hidden (snapshot : Snapshot) (address : UInt64) : Prop :=
  ∃ region ∈ snapshot.allRegions, region.readable = true ∧ region.Covers address ∧
    ∃ other ∈ snapshot.allRegions, other.data = [] ∧
      region.start < other.start ∧ other.start ≤ address

instance (snapshot : Snapshot) (address : UInt64) : Decidable (snapshot.Hidden address) :=
  inferInstanceAs (Decidable (∃ region ∈ snapshot.allRegions, region.readable = true ∧
    region.Covers address ∧ ∃ other ∈ snapshot.allRegions, other.data = [] ∧
      region.start < other.start ∧ other.start ≤ address))

theorem Unshadowed.not_hidden (h : snapshot.Unshadowed) (address : UInt64) :
    ¬ snapshot.Hidden address := by
  rintro ⟨region, hregion, hreadable, hcovers, other, hother, hempty, hlt, hle⟩
  exact h region hregion hreadable other hother hempty hlt
    (hcovers.of_le (UInt64.le_of_lt hlt) hle)

theorem Separate.eq_of_covers (h : snapshot.Separate) {other : Region}
    (hregion : region ∈ snapshot.allRegions) (hother : other ∈ snapshot.allRegions)
    (hcovers : region.Covers address) (hcovers' : other.Covers address) : region = other := by
  by_contra hne
  have : Std.Symm Region.Apart := ⟨fun _ _ hapart address hboth => hapart address hboth.symm⟩
  exact h.apart.forall hregion hother hne address ⟨hcovers, hcovers'⟩

theorem Separate.byteAt?_eq (h : snapshot.Separate) (hregion : region ∈ snapshot.allRegions)
    (hreadable : region.readable = true) (hcovers : region.Covers address) :
    snapshot.byteAt? address = region.byteAt? address := by
  obtain ⟨byte, hbyte⟩ := Option.isSome_iff_exists.mp (Region.isSome_byteAt?.mpr hcovers)
  have hsome : (snapshot.byteAt? address).isSome := by
    refine List.findSome?_isSome_iff.mpr ⟨region, hregion, ?_⟩
    simp only [hreadable, if_true, hbyte, Option.isSome_some]
  obtain ⟨found, hfound⟩ := Option.isSome_iff_exists.mp hsome
  obtain ⟨other, hother, hvalue⟩ := List.exists_of_findSome?_eq_some hfound
  split at hvalue
  · have hcovers' : other.Covers address :=
      Region.isSome_byteAt?.mp (hvalue ▸ Option.isSome_some)
    rw [hfound, h.eq_of_covers hregion hother hcovers hcovers', hvalue]
  · contradiction

theorem exists_region_of_byteAt? (h : snapshot.byteAt? address ≠ none) :
    ∃ region ∈ snapshot.allRegions, region.readable = true ∧ region.Covers address := by
  obtain ⟨byte, hbyte⟩ := Option.ne_none_iff_exists'.mp h
  obtain ⟨region, hregion, hvalue⟩ := List.exists_of_findSome?_eq_some hbyte
  split at hvalue
  · exact ⟨region, hregion, ‹_›, Region.isSome_byteAt?.mp (hvalue ▸ Option.isSome_some)⟩
  · contradiction

/-! ### The region at an address -/

theorem mem_entries_of_regionAt (h : snapshot.regionAt address = some region) :
    ∃ entry ∈ snapshot.regions.entries, entry.2 = region ∧ region.contains address = true := by
  unfold regionAt at h
  split at h
  · rename_i start found hfloor
    split at h
    · rename_i hcontains
      obtain rfl := Option.some.inj h
      exact ⟨_, (AddressMap.greatest_of_floor? hfloor).1, rfl, hcontains⟩
    · contradiction
  · contradiction

theorem mem_allRegions_of_regionAt (h : snapshot.regionAt address = some region) :
    region ∈ snapshot.allRegions := by
  obtain ⟨entry, hmem, rfl, -⟩ := mem_entries_of_regionAt h
  exact List.mem_map_of_mem hmem

theorem Separate.covers_of_regionAt (h : snapshot.Separate)
    (hregion : snapshot.regionAt address = some region) : region.Covers address := by
  have hbounded := h.bounded region (mem_allRegions_of_regionAt hregion)
  obtain ⟨entry, -, -, hcontains⟩ := mem_entries_of_regionAt hregion
  exact (Region.contains_iff_covers hbounded).mp hcontains

/-- The region that covers an address is found there, if no region starts between its start and
the address. -/
theorem Built.regionAt_of_covers (built : snapshot.Built) (hbounded : region.Bounded)
    (hregion : region ∈ snapshot.allRegions) (hcovers : region.Covers address)
    (hlast : ∀ other ∈ snapshot.allRegions, other.start ≤ address → other.start ≤ region.start) :
    snapshot.regionAt address = some region := by
  obtain ⟨entry, hmem, rfl⟩ := List.mem_map.mp hregion
  have hfloor : snapshot.regions.floor? address = some entry := by
    refine AddressMap.floor?_eq_some_iff.mpr ⟨hmem, ?_, fun other hother hle => ?_⟩
    · exact built.key_eq_start entry hmem ▸ hcovers.1
    · rw [built.key_eq_start other hother] at hle ⊢
      rw [built.key_eq_start entry hmem]
      exact hlast other.2 (List.mem_map_of_mem hother) hle
  have hcontains := (Region.contains_iff_covers hbounded).mpr hcovers
  simp only [regionAt, hfloor, hcontains, if_true]

theorem Built.regionAt_of_not_hidden (built : snapshot.Built) (separate : snapshot.Separate)
    (hshown : ¬ snapshot.Hidden address) (hregion : region ∈ snapshot.allRegions)
    (hreadable : region.readable = true) (hcovers : region.Covers address) :
    snapshot.regionAt address = some region := by
  refine built.regionAt_of_covers (separate.bounded region hregion) hregion hcovers ?_
  intro other hother hle
  by_contra hlt
  have hlt := UInt64.not_le.mp hlt
  -- The other region starts inside this one, so it has no byte there, and therefore none at all.
  by_cases hempty : other.data = []
  · exact hshown ⟨region, hregion, hreadable, hcovers, other, hother, hempty, hlt, hle⟩
  · have hinside : region.Covers other.start := hcovers.of_le (UInt64.le_of_lt hlt) hle
    have hown : other.Covers other.start :=
      ⟨UInt64.le_refl _, Nat.lt_add_of_pos_right (List.length_pos_iff.mpr hempty)⟩
    have heq := separate.eq_of_covers hregion hother hinside hown
    exact UInt64.lt_irrefl _ (heq ▸ hlt)

/-- At a hidden address the greatest start belongs to a region that does not hold the address. -/
theorem Built.regionAt_of_hidden (built : snapshot.Built) (separate : snapshot.Separate)
    (hidden : snapshot.Hidden address) : snapshot.regionAt address = none := by
  obtain ⟨region, hregion, -, hcovers, other, hother, -, hlt, hle⟩ := hidden
  obtain ⟨entry, hmem, rfl⟩ := List.mem_map.mp hother
  unfold regionAt
  split
  · rename_i start found hfloor
    obtain ⟨hlast, -, hgreatest⟩ := AddressMap.greatest_of_floor? hfloor
    have hstart : entry.2.start ≤ found.start := by
      rw [← built.key_eq_start _ hlast, ← built.key_eq_start _ hmem]
      exact hgreatest entry hmem (built.key_eq_start _ hmem ▸ hle)
    have hfound : found ∈ snapshot.allRegions := List.mem_map_of_mem hlast
    rw [if_neg]
    intro hcontains
    have hcovers' := (Region.contains_iff_covers (separate.bounded found hfound)).mp hcontains
    obtain rfl := separate.eq_of_covers hregion hfound hcovers hcovers'
    exact UInt64.not_le.mpr hlt hstart
  · rfl

/-- The bytes that a read finds at an address are those of memory. -/
theorem Separate.byteAt?_add (h : snapshot.Separate) {i : Nat}
    (hi : i < (snapshot.readableFrom address).length) :
    snapshot.byteAt? (address + UInt64.ofNat i) = (snapshot.readableFrom address)[i]? := by
  revert hi
  unfold readableFrom
  split
  · rename_i region hregion
    split
    · intro hi
      have hmem := mem_allRegions_of_regionAt hregion
      have hbyte := Region.byteAt?_add (h.bounded region hmem)
        (h.covers_of_regionAt hregion).1 hi
      have hcovers : region.Covers (address + UInt64.ofNat i) := by
        rw [← Region.isSome_byteAt?, hbyte, List.getElem?_eq_getElem hi]
        rfl
      rw [h.byteAt?_eq hmem ‹_› hcovers, hbyte]
    · intro hi
      contradiction
  · intro hi
    contradiction

theorem Built.byteAt?_eq_none (built : snapshot.Built) (separate : snapshot.Separate)
    (hshown : ¬ snapshot.Hidden address) (hempty : snapshot.readableFrom address = []) :
    snapshot.byteAt? address = none := by
  by_contra hbyte
  obtain ⟨region, hregion, hreadable, hcovers⟩ := exists_region_of_byteAt? hbyte
  have hfound := built.regionAt_of_not_hidden separate hshown hregion hreadable hcovers
  simp only [readableFrom, hfound, hreadable, if_true, Region.dataFrom, List.drop_eq_nil_iff]
    at hempty
  exact Nat.not_lt.mpr hempty (Region.covers_iff.mp hcovers).2

/-- Where a read goes on behind the end of a region, nothing hides what it finds: a region that
holds the address there starts at it. -/
theorem Separate.not_hidden_behind (separate : snapshot.Separate)
    (hbytes : snapshot.readableFrom address ≠ []) :
    ¬ snapshot.Hidden (address + UInt64.ofNat (snapshot.readableFrom address).length) := by
  revert hbytes
  unfold readableFrom
  split
  · rename_i region hregion
    split
    · intro hbytes
      rw [Region.add_length_dataFrom hbytes]
      rintro ⟨next, hnext, -, hcovers, other, -, -, hlt, hle⟩
      have hmem := mem_allRegions_of_regionAt hregion
      have hstop : region.stop.toNat = region.start.toNat + region.data.length :=
        toNat_add_ofNat (separate.bounded region hmem)
      have hinside := separate.covers_of_regionAt hregion
      have hlt := UInt64.lt_of_lt_of_le hlt hle
      -- The greater one of the address and the start behind it would lie in both regions.
      have hsame : region = next := by
        rcases UInt64.le_total address next.start with hle | hle
        · refine separate.eq_of_covers hmem hnext ⟨UInt64.le_trans hinside.1 hle, ?_⟩
            (hcovers.of_le (UInt64.le_refl _) (UInt64.le_of_lt hlt))
          rw [← hstop]
          exact UInt64.lt_iff_toNat_lt.mp hlt
        · refine separate.eq_of_covers hmem hnext hinside (hcovers.of_le hle ?_)
          rw [UInt64.le_iff_toNat_le, hstop]
          exact Nat.le_of_lt hinside.2
      have hend := hcovers.2
      rw [← hsame, hstop] at hend
      exact Nat.lt_irrefl _ hend
    · intro hbytes
      contradiction
  · intro hbytes
    contradiction

/-! ### Reads -/

/-- What is gathered first lies in one region; the rest is gathered from behind it. -/
theorem gather_eq {wanted : Nat} {bytes : List UInt8}
    (h : (snapshot.readableFrom address).take wanted = bytes) :
    snapshot.gather address wanted =
      if bytes = [] then []
      else bytes ++
        snapshot.gather (address + UInt64.ofNat bytes.length) (wanted - bytes.length) := by
  subst h
  rw [gather]
  split
  · rename_i h
    simp only [h, if_true]
  · rename_i byte bytes h
    simp only [h, reduceCtorEq, if_false, List.length_cons]

theorem gather_zero (address : UInt64) : snapshot.gather address 0 = [] := by
  rw [gather_eq List.take_zero, if_pos rfl]

theorem gather_of_unmapped (h : snapshot.regionAt address = none) (wanted : Nat) :
    snapshot.gather address wanted = [] := by
  have hbytes : (snapshot.readableFrom address).take wanted = [] := by
    simp only [readableFrom, h, List.take_nil]
  rw [gather_eq hbytes, if_pos rfl]

/-- The loop of a read: so many turns of it, each in one region, gather bytes until there are as
many as wanted or the next one cannot be read. -/
inductive Gathers (snapshot : Snapshot) : UInt64 → Nat → List UInt8 → Nat → Prop
  | whole (address : UInt64) : Gathers snapshot address 0 [] 0
  | broken {address : UInt64} (wanted : Nat) :
      snapshot.readableFrom address = [] → Gathers snapshot address wanted [] 0
  | turn {address : UInt64} {wanted turns : Nat} {bytes rest : List UInt8} :
      (snapshot.readableFrom address).take wanted = bytes → bytes ≠ [] →
      Gathers snapshot (address + UInt64.ofNat bytes.length) (wanted - bytes.length) rest turns →
      Gathers snapshot address wanted (bytes ++ rest) (turns + 1)

/-- The loop of a read ends, after no more turns than bytes are wanted. -/
theorem gathers (snapshot : Snapshot) (address : UInt64) (wanted : Nat) :
    ∃ turns ≤ wanted, snapshot.Gathers address wanted (snapshot.gather address wanted) turns := by
  induction wanted using Nat.strongRecOn generalizing address with
  | ind wanted ih =>
    generalize hbytes : (snapshot.readableFrom address).take wanted = bytes
    rw [gather_eq hbytes]
    by_cases hempty : bytes = []
    · rw [if_pos hempty]
      subst hempty
      rcases List.take_eq_nil_iff.mp hbytes with rfl | hnone
      · exact ⟨0, Nat.le_refl 0, .whole address⟩
      · exact ⟨0, Nat.zero_le wanted, .broken wanted hnone⟩
    · have hpos := List.length_pos_iff.mpr hempty
      have hle : bytes.length ≤ wanted := hbytes ▸ List.length_take_le _ _
      rw [if_neg hempty]
      obtain ⟨turns, hturns, hrest⟩ := ih (wanted - bytes.length) (by omega)
        (address + UInt64.ofNat bytes.length)
      exact ⟨turns + 1, by omega, .turn hbytes hempty hrest⟩

theorem cells_add (snapshot : Snapshot) (address : UInt64) (first second : Nat) :
    snapshot.cells address (first + second) =
      snapshot.cells address first ++
        snapshot.cells (address + UInt64.ofNat first) second := by
  simp only [cells, List.range_add, List.map_append, List.map_map, Function.comp_def,
    UInt64.ofNat_add, UInt64.add_assoc]

theorem cells_succ (snapshot : Snapshot) (address : UInt64) (length : Nat) :
    snapshot.cells address (length + 1) =
      snapshot.byteAt? address :: snapshot.cells (address + 1) length := by
  rw [Nat.add_comm, cells_add]
  simp [cells]

theorem Separate.cells_of_readableFrom (h : snapshot.Separate) {wanted : Nat} {bytes : List UInt8}
    (hbytes : (snapshot.readableFrom address).take wanted = bytes) :
    snapshot.cells address bytes.length = bytes.map some := by
  refine List.ext_getElem (by simp [cells]) fun i hi hi' => ?_
  subst hbytes
  rw [List.length_map] at hi'
  have hlt : i < (snapshot.readableFrom address).length := by
    rw [List.length_take] at hi'
    omega
  simp only [cells, List.getElem_map, List.getElem_range, h.byteAt?_add hlt,
    List.getElem_take, List.getElem?_eq_getElem hlt]

/-- A read gathers the bytes in front of the first address without one. -/
theorem Built.gather_eq_of_not_hidden (built : snapshot.Built) (separate : snapshot.Separate)
    (wanted : Nat) (hshown : ¬ snapshot.Hidden address) :
    (snapshot.gather address wanted).map some =
      (snapshot.cells address wanted).takeWhile Option.isSome := by
  obtain ⟨turns, -, hgathers⟩ := snapshot.gathers address wanted
  generalize snapshot.gather address wanted = gathered at hgathers ⊢
  -- A turn that leaves something wanted went up to the end of its region.
  replace hshown : 0 < wanted → ¬ snapshot.Hidden address := fun _ => hshown
  induction hgathers with
  | whole => rfl
  | broken wanted hnone =>
    cases wanted with
    | zero => rfl
    | succ rest =>
      have hbyte := built.byteAt?_eq_none separate (hshown rest.succ_pos) hnone
      rw [cells_succ, hbyte, List.takeWhile_cons_of_neg (by simp), List.map_nil]
  | @turn address wanted _ bytes _ hbytes hnonempty _ ih =>
    have hle : bytes.length ≤ wanted := hbytes ▸ List.length_take_le _ _
    obtain ⟨rest, rfl⟩ := Nat.exists_eq_add_of_le hle
    rw [Nat.add_sub_cancel_left] at ih
    have hbehind : 0 < rest → ¬ snapshot.Hidden (address + UInt64.ofNat bytes.length) := by
      intro hpos
      have hall : snapshot.readableFrom address = bytes := by
        have hlength := congrArg List.length hbytes
        rw [List.length_take] at hlength
        rwa [List.take_of_length_le (by omega)] at hbytes
      subst hall
      exact separate.not_hidden_behind hnonempty
    rw [List.map_append, ih hbehind, cells_add, separate.cells_of_readableFrom hbytes,
      List.takeWhile_append_of_pos]
    simp

/-- What a read at an address is to give: all bytes or an error in the one mode, the bytes in front
of the first address without one in the other. -/
structure ReadsMemory (snapshot : Snapshot) (address : UInt64) (length : Nat) : Prop where
  whole : (∀ cell ∈ snapshot.cells address length, cell ≠ none) →
    ∃ bytes, snapshot.read .exact address length = .ok bytes ∧
      bytes.map some = snapshot.cells address length
  broken : none ∈ snapshot.cells address length →
    snapshot.read .exact address length = .error (.unmapped address length)
  upTo : length = 0 ∨ snapshot.byteAt? address ≠ none →
    ∃ bytes, snapshot.read .upTo address length = .ok bytes ∧
      bytes.map some = (snapshot.cells address length).takeWhile Option.isSome
  unmapped : 0 < length → snapshot.byteAt? address = none →
    snapshot.read .upTo address length = .error (.unmapped address length)

theorem length_cells (snapshot : Snapshot) (address : UInt64) (length : Nat) :
    (snapshot.cells address length).length = length := by
  simp only [cells, List.length_map, List.length_range]

theorem read_of_length_eq {length : Nat} (mode : ReadMode)
    (h : (snapshot.gather address length).length = length) :
    snapshot.read mode address length = .ok (snapshot.gather address length) := by
  simp only [read, h, if_true]

theorem Built.readsMemory (built : snapshot.Built) (separate : snapshot.Separate) (length : Nat)
    (hshown : ¬ snapshot.Hidden address) : snapshot.ReadsMemory address length := by
  have hgather := built.gather_eq_of_not_hidden separate length hshown
  have hlength := congrArg List.length hgather
  rw [List.length_map] at hlength
  refine ⟨fun hall => ?_, fun hnone => ?_, fun hfirst => ?_, fun hpos hnone => ?_⟩
  · have hcells : (snapshot.cells address length).takeWhile Option.isSome =
        snapshot.cells address length :=
      List.takeWhile_eq_self_iff.mpr fun cell hmem => Option.isSome_iff_ne_none.mpr (hall cell hmem)
    rw [hcells] at hgather hlength
    rw [length_cells] at hlength
    exact ⟨_, read_of_length_eq .exact hlength, hgather⟩
  · have hshort : (snapshot.gather address length).length ≠ length := by
      intro hwhole
      -- Only a run of bytes is as long as what was asked for.
      have hprefix := List.takeWhile_prefix (l := snapshot.cells address length) Option.isSome
      have hcells := hprefix.eq_of_length (by rw [← hlength, hwhole, length_cells])
      have hsome := List.takeWhile_eq_self_iff.mp hcells none hnone
      contradiction
    simp [read, hshort]
  · refine ⟨snapshot.gather address length, ?_, hgather⟩
    cases length with
    | zero => rw [read_of_length_eq .upTo (by rw [gather_zero, List.length_nil])]
    | succ rest =>
      have hbyte : snapshot.byteAt? address ≠ none := hfirst.resolve_left (Nat.succ_ne_zero rest)
      have hnonempty : snapshot.gather address (rest + 1) ≠ [] := by
        rw [cells_succ, List.takeWhile_cons_of_pos (Option.isSome_iff_ne_none.mpr hbyte)] at hgather
        intro hempty
        rw [hempty] at hgather
        contradiction
      simp only [read]
      split
      · rfl
      · simp [hnonempty]
  · cases length with
    | zero => contradiction
    | succ rest =>
      have hempty : snapshot.gather address (rest + 1) = [] := by
        rw [cells_succ, hnone] at hgather
        exact List.map_eq_nil_iff.mp hgather
      simp [read, hempty]

theorem Unshadowed.readsMemory (h : snapshot.Unshadowed) (built : snapshot.Built)
    (separate : snapshot.Separate) (address : UInt64) (length : Nat) :
    snapshot.ReadsMemory address length :=
  built.readsMemory separate length (h.not_hidden address)

/-- A region without bytes hides the byte of a readable region at its start from reads there. -/
theorem Built.read_of_shadowed (built : snapshot.Built) {other : Region}
    (hother : other ∈ snapshot.allRegions) (hempty : other.data = []) :
    snapshot.read .exact other.start 1 = .error (.unmapped other.start 1) := by
  obtain ⟨entry, hmem, rfl⟩ := List.mem_map.mp hother
  have hfloor : snapshot.regions.floor? entry.2.start = some entry := by
    have hkey := built.key_eq_start entry hmem
    exact AddressMap.floor?_eq_some_iff.mpr
      ⟨hmem, UInt64.le_of_eq hkey, fun other _ hle => hkey ▸ hle⟩
  have hcontains : entry.2.contains entry.2.start = false := by
    simp [Region.contains, Region.stop, hempty]
  have hregion : snapshot.regionAt entry.2.start = none := by
    simp [regionAt, hfloor, hcontains]
  simp [read, gather_of_unmapped hregion]

/-- No read finds a hidden byte. -/
theorem Built.read_of_hidden (built : snapshot.Built) (separate : snapshot.Separate)
    (hidden : snapshot.Hidden address) {length : Nat} (hpos : 0 < length) (mode : ReadMode) :
    snapshot.read mode address length = .error (.unmapped address length) := by
  have hgather := gather_of_unmapped (built.regionAt_of_hidden separate hidden) length
  simp [read, hgather, Nat.ne_of_lt hpos]

/-- The loop of a read ends. Where regions are apart and end below the end of the address space,
reads give what lies in memory if and only if no region without bytes starts inside a readable
one. -/
theorem read_iff_unshadowed (built : snapshot.Built) (separate : snapshot.Separate) :
    (∀ address length, ∃ turns ≤ length,
      snapshot.Gathers address length (snapshot.gather address length) turns) ∧
    ((∀ address length, snapshot.ReadsMemory address length) ↔ snapshot.Unshadowed) := by
  refine ⟨snapshot.gathers, fun hreads => ?_, fun h => h.readsMemory built separate⟩
  intro region hregion hreadable other hother hempty _ hcovers
  have hbyte : snapshot.byteAt? other.start ≠ none := by
    rw [separate.byteAt?_eq hregion hreadable hcovers, ← Option.isSome_iff_ne_none,
      Region.isSome_byteAt?]
    exact hcovers
  have hcells : snapshot.cells other.start 1 = [snapshot.byteAt? other.start] :=
    snapshot.cells_succ other.start 0
  obtain ⟨bytes, hread, -⟩ := (hreads other.start 1).whole (by simp [hcells, hbyte])
  rw [built.read_of_shadowed hother hempty] at hread
  contradiction

/-- A read goes on in an adjacent region, and stops at one that cannot be read. -/
theorem read_across_regions :
    let region (start : UInt64) (data : List UInt8) (readable : Bool) : Region := {
      start, data, readable, writable := false, executable := false, objfile := "" }
    let bare : Snapshot := { machine := .ofArch .x86_64 }
    let snapshot : Snapshot := ((bare.mapRegion (region 0x1000 [1, 2] true)).mapRegion
      (region 0x1002 [3, 4] true)).mapRegion (region 0x1004 [5] false)
    snapshot.Built ∧ snapshot.Separate ∧
      (∀ address length, snapshot.ReadsMemory address length) ∧
      snapshot.cells 0x1001 4 = [some 2, some 3, some 4, none] ∧
      snapshot.read .exact 0x1001 3 = .ok [2, 3, 4] ∧
      snapshot.read .upTo 0x1001 4 = .ok [2, 3, 4] ∧
      snapshot.read .exact 0x1001 4 = .error (.unmapped 0x1001 4) := by
  intro region bare snapshot
  have built : snapshot.Built := (((Built.bare _).mapRegion _).mapRegion _).mapRegion _
  have separate : snapshot.Separate := by decide +kernel
  have hreads := (read_iff_unshadowed built separate).2.mpr (by decide +kernel)
  exact ⟨built, separate, hreads, by decide +kernel⟩

/-- A region without bytes starts in the middle of sixteen readable bytes. A read from the first of
them gives them all, but a read from the ninth one fails. -/
theorem read_at_empty_region :
    let region (start : UInt64) (data : List UInt8) : Region := {
      start, data, readable := true, writable := false, executable := false, objfile := "" }
    let bytes : List UInt8 := (List.range 16).map UInt8.ofNat
    let bare : Snapshot := { machine := .ofArch .x86_64 }
    let snapshot : Snapshot :=
      (bare.mapRegion (region 0x1000 bytes)).mapRegion (region 0x1008 [])
    snapshot.Built ∧ snapshot.Separate ∧ snapshot.byteAt? 0x1008 = some 8 ∧
      snapshot.read .exact 0x1000 16 = .ok bytes ∧
      snapshot.read .exact 0x1008 1 = .error (.unmapped 0x1008 1) ∧
      ¬ snapshot.ReadsMemory 0x1008 1 := by
  intro region bytes bare snapshot
  have hcell : snapshot.cells 0x1008 1 = [some 8] := by decide +kernel
  have hread : snapshot.read .exact 0x1008 1 = .error (.unmapped 0x1008 1) := by decide +kernel
  refine ⟨((Built.bare _).mapRegion _).mapRegion _, by decide +kernel, by decide +kernel,
    by decide +kernel, hread, fun h => ?_⟩
  obtain ⟨bytes, hok, -⟩ := h.whole (by simp [hcell])
  rw [hread] at hok
  contradiction

end Snapshot

end CodeWindow
