import CodeWindow.Proofs.SnapshotMemory

/-! What reads find of a region that was just mapped. The region takes the place of the one with the
same start and of no other one, and a read takes the region with the greatest start not above its
cursor. So an older region that starts inside the new one hides what lies behind its start from the
reads that begin there, and a region up to the very end of the address space, where its stop wraps,
is never found at all. All other reads give what was mapped. -/

namespace CodeWindow

/-- A region that ends with the address space seems to contain nothing. -/
theorem Region.contains_of_toTheEnd {region : Region}
    (h : region.start.toNat + region.data.length = UInt64.size) (address : UInt64) :
    region.contains address = false := by
  have hstop : region.stop = 0 := by
    apply UInt64.toNat_inj.mp
    rw [Region.stop, UInt64.toNat_add, UInt64.toNat_ofNat', Nat.add_mod_mod,
      show 2 ^ 64 = UInt64.size from rfl, h, Nat.mod_self]
    rfl
  simp [Region.contains, hstop]

namespace Snapshot

variable {snapshot : Snapshot} {region : Region} {address start : UInt64} {length offset : Nat}

/-! ### Reads in one region -/

theorem gather_of_le {wanted : Nat} (h : wanted ≤ (snapshot.readableFrom address).length) :
    snapshot.gather address wanted = (snapshot.readableFrom address).take wanted := by
  have hlength : ((snapshot.readableFrom address).take wanted).length = wanted :=
    List.length_take_of_le h
  rw [gather_eq rfl, hlength, Nat.sub_self, gather_zero, List.append_nil]
  split
  · exact Eq.symm ‹_›
  · rfl

theorem read_of_le (h : length ≤ (snapshot.readableFrom address).length) :
    snapshot.read .exact address length =
      .ok ((snapshot.readableFrom address).take length) := by
  rw [read_of_length_eq .exact (by rw [gather_of_le h, List.length_take_of_le h]), gather_of_le h]

theorem gather_one (snapshot : Snapshot) (address : UInt64) :
    snapshot.gather address 1 = (snapshot.readableFrom address).take 1 := by
  cases hbytes : snapshot.readableFrom address with
  | nil => rw [gather_eq rfl, hbytes, List.take_nil, if_pos rfl]
  | cons byte bytes => rw [gather_of_le (by simp [hbytes]), hbytes]

/-- What a read of one byte gives is up to the region at its address. -/
theorem read_one_congr {other : Snapshot}
    (h : snapshot.regionAt address = other.regionAt address) (mode : ReadMode) :
    snapshot.read mode address 1 = other.read mode address 1 := by
  simp only [read, gather_one, readableFrom, h]

/-! ### The new region and the older ones -/

/-- A region starts at one of so many addresses from `start` on, other than the first. -/
def StartsInside (snapshot : Snapshot) (start : UInt64) (length : Nat) : Prop :=
  ∃ entry ∈ snapshot.regions.entries, start < entry.1 ∧ entry.1.toNat < start.toNat + length

instance (snapshot : Snapshot) (start : UInt64) (length : Nat) :
    Decidable (snapshot.StartsInside start length) :=
  inferInstanceAs (Decidable (∃ entry ∈ snapshot.regions.entries, _))

theorem StartsInside.mono {shorter : Nat} (h : snapshot.StartsInside start shorter)
    (hle : shorter ≤ length) : snapshot.StartsInside start length := by
  obtain ⟨entry, hmem, hlt, hinside⟩ := h
  exact ⟨entry, hmem, hlt, by omega⟩

/-- Where none starts between, the new region is the one below an address. -/
theorem floor?_mapRegion (hle : region.start ≤ address)
    (hoffset : address.toNat = region.start.toNat + offset)
    (h : ¬ snapshot.StartsInside region.start (offset + 1)) :
    (snapshot.mapRegion region).regions.floor? address = some (region.start, region) := by
  refine AddressMap.floor?_insert_of_nearest region hle fun entry hmem hbelow => ?_
  by_contra habove
  rw [UInt64.le_iff_toNat_le] at hbelow
  exact h ⟨entry, hmem, UInt64.not_le.mp habove, by omega⟩

theorem regionAt_mapRegion_of_startsInside (hoffset : address.toNat = region.start.toNat + offset)
    (h : snapshot.StartsInside region.start (offset + 1)) :
    (snapshot.mapRegion region).regionAt address = snapshot.regionAt address := by
  obtain ⟨entry, hmem, hlt, hinside⟩ := h
  have hle : entry.1 ≤ address := by
    rw [UInt64.le_iff_toNat_le]
    omega
  simp only [regionAt, mapRegion, AddressMap.floor?_insert_of_between region hmem hlt hle]

/-! ### What was mapped -/

/-- Reads that begin so many bytes behind the start of a region, and end in it, give what the region
holds there. -/
def ShowsFrom (snapshot : Snapshot) (region : Region) (offset : Nat) : Prop :=
  ∀ length, offset + length ≤ region.data.length →
    snapshot.read .exact (region.start + UInt64.ofNat offset) length =
      .ok ((region.data.drop offset).take length)

/-- Whatever readable bytes are mapped at a place, the reads that begin so many bytes behind its
start show them. -/
def MapsFrom (snapshot : Snapshot) (start : UInt64) (length offset : Nat) : Prop :=
  ∀ region : Region, region.start = start → region.data.length = length →
    region.readable = true → (snapshot.mapRegion region).ShowsFrom region offset

theorem mapsFrom_length (snapshot : Snapshot) (start : UInt64) (length : Nat) :
    snapshot.MapsFrom start length length := by
  rintro region - rfl - taken htaken
  obtain rfl : taken = 0 := by omega
  rw [read_of_le (Nat.zero_le _), List.take_zero, List.take_zero]

theorem mapsFrom_of_not_startsInside (hoffset : offset < length)
    (hbounded : start.toNat + length < UInt64.size)
    (h : ¬ snapshot.StartsInside start (offset + 1)) : snapshot.MapsFrom start length offset := by
  rintro region rfl rfl hreadable taken htaken
  have haddress : (region.start + UInt64.ofNat offset).toNat = region.start.toNat + offset :=
    toNat_add_ofNat (by omega)
  have hle : region.start ≤ region.start + UInt64.ofNat offset := by
    rw [UInt64.le_iff_toNat_le]
    omega
  have hcontains : region.contains (region.start + UInt64.ofNat offset) = true :=
    (Region.contains_iff_covers hbounded).mpr ⟨hle, by omega⟩
  have hfrom : (snapshot.mapRegion region).readableFrom (region.start + UInt64.ofNat offset) =
      region.data.drop offset := by
    simp only [readableFrom, regionAt, floor?_mapRegion hle haddress h, hcontains, hreadable,
      if_true, Region.dataFrom, UInt64.toNat_sub_of_le _ _ hle, haddress, Nat.add_sub_cancel_left]
  rw [read_of_le (by rw [hfrom, List.length_drop]; omega), hfrom]

/-- One byte all over a place is enough to see what reads show of it. -/
theorem MapsFrom.exists_region (h : snapshot.MapsFrom start length offset)
    (hoffset : offset < length) (byte : UInt8) :
    ∃ region : Region, region.start = start ∧ region.data.length = length ∧
      (snapshot.mapRegion region).read .exact (start + UInt64.ofNat offset) 1 = .ok [byte] := by
  let region : Region := {
    start, data := List.replicate length byte, readable := true, writable := false
    executable := false, objfile := "" }
  have hlength : region.data.length = length := List.length_replicate
  refine ⟨region, rfl, hlength, ?_⟩
  rw [h region rfl hlength rfl 1 (by omega), List.drop_replicate, List.take_replicate,
    Nat.min_eq_left (by omega)]
  rfl

theorem MapsFrom.not_startsInside (h : snapshot.MapsFrom start length offset)
    (hoffset : offset < length) (hfits : start.toNat + length ≤ UInt64.size) :
    ¬ snapshot.StartsInside start (offset + 1) := by
  intro hinside
  have haddress : (start + UInt64.ofNat offset).toNat = start.toNat + offset :=
    toNat_add_ofNat (by omega)
  -- The older region answers whatever was mapped, so it cannot show two different bytes.
  have hold : ∀ byte, snapshot.read .exact (start + UInt64.ofNat offset) 1 = .ok [byte] := by
    intro byte
    obtain ⟨region, rfl, -, hread⟩ := h.exists_region hoffset byte
    rw [← hread]
    exact (read_one_congr (regionAt_mapRegion_of_startsInside haddress hinside) .exact).symm
  have hbytes : [(0 : UInt8)] = [1] := Except.ok.inj ((hold 0).symm.trans (hold 1))
  contradiction

theorem MapsFrom.bounded (h : snapshot.MapsFrom start length offset) (hoffset : offset < length)
    (hfits : start.toNat + length ≤ UInt64.size) : start.toNat + length < UInt64.size := by
  by_contra hend
  have hinside := h.not_startsInside hoffset hfits
  obtain ⟨region, rfl, rfl, hread⟩ := h.exists_region hoffset 0
  have haddress : (region.start + UInt64.ofNat offset).toNat = region.start.toNat + offset :=
    toNat_add_ofNat (by omega)
  have hle : region.start ≤ region.start + UInt64.ofNat offset := by
    rw [UInt64.le_iff_toNat_le]
    omega
  have hcontains : region.contains (region.start + UInt64.ofNat offset) = false :=
    Region.contains_of_toTheEnd (by omega) _
  have hregion : (snapshot.mapRegion region).regionAt (region.start + UInt64.ofNat offset) =
      none := by
    simp only [regionAt, floor?_mapRegion hle haddress hinside, hcontains, Bool.false_eq_true,
      if_false]
  simp [read, gather_of_unmapped hregion] at hread

/-- Reads show what was mapped, whatever it is, from just those places of a new region that no older
region starts in front of, in the new one, and only if the new region ends below the end of the
address space. So all of it can be read if and only if no older region starts inside it. -/
theorem mapsFrom_iff_not_startsInside (snapshot : Snapshot) (hpos : 0 < length)
    (hfits : start.toNat + length ≤ UInt64.size) :
    (∀ offset < length, snapshot.MapsFrom start length offset ↔
      start.toNat + length < UInt64.size ∧ ¬ snapshot.StartsInside start (offset + 1)) ∧
    ((∀ offset ≤ length, snapshot.MapsFrom start length offset) ↔
      start.toNat + length < UInt64.size ∧ ¬ snapshot.StartsInside start length) := by
  have hplace : ∀ offset < length, snapshot.MapsFrom start length offset ↔
      start.toNat + length < UInt64.size ∧ ¬ snapshot.StartsInside start (offset + 1) :=
    fun offset hoffset =>
      ⟨fun h => ⟨h.bounded hoffset hfits, h.not_startsInside hoffset hfits⟩,
        fun ⟨hbounded, hinside⟩ => mapsFrom_of_not_startsInside hoffset hbounded hinside⟩
  refine ⟨hplace, fun h => ?_, fun ⟨hbounded, hinside⟩ offset hle => ?_⟩
  · have hlast := (hplace (length - 1) (by omega)).mp (h (length - 1) (by omega))
    rwa [Nat.sub_add_cancel hpos] at hlast
  · rcases Nat.lt_or_eq_of_le hle with hoffset | rfl
    · exact (hplace offset hoffset).mpr ⟨hbounded, fun h => hinside (h.mono hoffset)⟩
    · exact mapsFrom_length snapshot start offset

/-- An older region starts in the middle of the sixteen bytes that are mapped over it. Reads show
the new bytes in front of its start, and may show others from there on. -/
theorem mapsFrom_before_older_region :
    let older : Snapshot := ({ machine := .ofArch .x86_64 } : Snapshot).mapRegion {
      start := 0x1008, data := [0xaa, 0xaa], readable := true, writable := false
      executable := false, objfile := "" }
    0 < 16 ∧ (0x1000 : UInt64).toNat + 16 ≤ UInt64.size ∧ older.MapsFrom 0x1000 16 7 ∧
      ¬ older.MapsFrom 0x1000 16 8 ∧ ∀ offset ≤ 8, older.MapsFrom 0x1000 8 offset := by
  intro older
  have hwide := @mapsFrom_iff_not_startsInside 0x1000 16 older (by decide) (by decide)
  have hnarrow := @mapsFrom_iff_not_startsInside 0x1000 8 older (by decide) (by decide)
  exact ⟨by decide, by decide, (hwide.1 7 (by decide)).mpr (by decide +kernel),
    fun h => absurd ((hwide.1 8 (by decide)).mp h) (by decide +kernel),
    hnarrow.2.mpr (by decide +kernel)⟩

/-- Sixteen bytes are mapped up to the end of the address space, and none of them can be read. The
same bytes are mapped over an older region: a read of all of them gives them, but reads from the
start of the older region on find its bytes, or none. -/
theorem reads_miss_mapped_bytes :
    let bytes : List UInt8 := (List.range 16).map UInt8.ofNat
    let region (start : UInt64) (data : List UInt8) : Region := {
      start, data, readable := true, writable := false, executable := false, objfile := "" }
    let bare : Snapshot := { machine := .ofArch .x86_64 }
    let last := region 0xfffffffffffffff0 bytes
    let new := region 0x1000 bytes
    let laid := (bare.mapRegion (region 0x1008 [0xaa, 0xaa])).mapRegion new
    ((bare.mapRegion last).read .exact 0xfffffffffffffff0 16 =
        .error (.unmapped 0xfffffffffffffff0 16) ∧
      ¬ (bare.mapRegion last).ShowsFrom last 0) ∧
    (laid.read .exact 0x1000 16 = .ok bytes ∧ laid.read .exact 0x1008 2 = .ok [0xaa, 0xaa] ∧
      laid.read .exact 0x100c 2 = .error (.unmapped 0x100c 2) ∧
      ¬ laid.ShowsFrom new 8) := by
  intro bytes region bare last new laid
  have hlast : (bare.mapRegion last).read .exact 0xfffffffffffffff0 16 =
      .error (.unmapped 0xfffffffffffffff0 16) := by decide +kernel
  have hlaid : laid.read .exact 0x1008 2 = .ok [0xaa, 0xaa] := by decide +kernel
  refine ⟨⟨hlast, fun h => ?_⟩, by decide +kernel, hlaid, by decide +kernel, fun h => ?_⟩
  · have hread := h 16 (by decide)
    rw [show last.start + UInt64.ofNat 0 = 0xfffffffffffffff0 from rfl, hlast] at hread
    contradiction
  · have hread := h 2 (by decide)
    rw [show new.start + UInt64.ofNat 8 = 0x1008 from rfl, hlaid] at hread
    exact absurd (Except.ok.inj hread) (by decide +kernel)

end Snapshot

end CodeWindow
