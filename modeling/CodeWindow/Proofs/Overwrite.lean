import CodeWindow.Proofs.Agreement
import CodeWindow.Proofs.SnapshotMemory

/-! Snapshots whose writable memory holds other bytes. Reads that meet no writable byte stay as they
are, so the two processes differ only where memory can be written. Reads that begin in memory that
cannot be written stay as they are too, where such memory is followed by a gap. -/

namespace CodeWindow

/-- The map with changed values, each under its address. -/
def AddressMap.mapValues {α β : Type} (map : AddressMap α) (change : α → β) : AddressMap β where
  entries := map.entries.map fun entry => (entry.1, change entry.2)
  ascending := List.pairwise_map.mpr map.ascending

theorem AddressMap.floor?_mapValues {α β : Type} (map : AddressMap α) (change : α → β)
    (address : UInt64) :
    (map.mapValues change).floor? address =
      (map.floor? address).map fun entry => (entry.1, change entry.2) := by
  simp only [floor?, mapValues, List.takeWhile_map, List.getLast?_map]
  rfl

namespace Region

/-- The region with other bytes, if it can be written; `contents` gives the byte at an offset of the
region at a start. -/
def overwrite (contents : UInt64 → Nat → UInt8) (region : Region) : Region :=
  if region.writable then
    { region with data := (List.range region.data.length).map (contents region.start) }
  else region

variable (contents : UInt64 → Nat → UInt8) (region : Region)

theorem overwrite_of_not_writable (h : region.writable = false) :
    region.overwrite contents = region := by
  simp only [overwrite, h, Bool.false_eq_true, if_false]

@[simp] theorem overwrite_start : (region.overwrite contents).start = region.start := by
  unfold overwrite
  split <;> rfl

@[simp] theorem overwrite_readable : (region.overwrite contents).readable = region.readable := by
  unfold overwrite
  split <;> rfl

@[simp] theorem overwrite_writable : (region.overwrite contents).writable = region.writable := by
  unfold overwrite
  split <;> rfl

@[simp] theorem overwrite_executable :
    (region.overwrite contents).executable = region.executable := by
  unfold overwrite
  split <;> rfl

@[simp] theorem overwrite_objfile : (region.overwrite contents).objfile = region.objfile := by
  unfold overwrite
  split <;> rfl

@[simp] theorem length_data_overwrite :
    (region.overwrite contents).data.length = region.data.length := by
  unfold overwrite
  split
  · simp only [List.length_map, List.length_range]
  · rfl

@[simp] theorem overwrite_stop : (region.overwrite contents).stop = region.stop := by
  simp only [stop, overwrite_start, length_data_overwrite]

@[simp] theorem overwrite_contains (address : UInt64) :
    (region.overwrite contents).contains address = region.contains address := by
  simp only [contains, overwrite_start, overwrite_stop]

end Region

namespace Snapshot

/-- The snapshot with other bytes in its writable memory. -/
def overwrite (contents : UInt64 → Nat → UInt8) (snapshot : Snapshot) : Snapshot :=
  { snapshot with regions := snapshot.regions.mapValues (Region.overwrite contents) }

variable (contents : UInt64 → Nat → UInt8) {snapshot : Snapshot}

theorem regionAt_overwrite (address : UInt64) :
    (snapshot.overwrite contents).regionAt address =
      (snapshot.regionAt address).map (Region.overwrite contents) := by
  simp only [regionAt, overwrite, AddressMap.floor?_mapValues]
  cases snapshot.regions.floor? address with
  | none => rfl
  | some entry =>
    simp only [Option.map_some, Region.overwrite_contains]
    split <;> rfl

theorem pageAt_overwrite : (snapshot.overwrite contents).pageAt = snapshot.pageAt := by
  funext address
  simp only [pageAt, regionAt_overwrite, Option.map_map, Function.comp_def, Region.overwrite_start,
    Region.overwrite_stop, Region.overwrite_readable, Region.overwrite_writable,
    Region.overwrite_executable, Region.overwrite_objfile]

theorem length_readableFrom_overwrite (address : UInt64) :
    ((snapshot.overwrite contents).readableFrom address).length =
      (snapshot.readableFrom address).length := by
  simp only [readableFrom, regionAt_overwrite]
  cases snapshot.regionAt address with
  | none => rfl
  | some region =>
    simp only [Option.map_some, Region.overwrite_readable]
    split
    · simp only [Region.dataFrom, List.length_drop, Region.length_data_overwrite,
        Region.overwrite_start]
    · rfl

/-- What lies from an address to the end of a region that cannot be written stays as it is. -/
theorem readableFrom_overwrite {address : UInt64}
    (h : snapshot.process.isWritable address = false) :
    (snapshot.overwrite contents).readableFrom address = snapshot.readableFrom address := by
  simp only [readableFrom, regionAt_overwrite]
  cases hregion : snapshot.regionAt address with
  | none => rfl
  | some region =>
    have hwritable : region.writable = false := by
      simpa [Process.isWritable, process, pageAt, hregion] using h
    simp only [Option.map_some, Region.overwrite_of_not_writable contents region hwritable]

theorem length_gather_overwrite (address : UInt64) (wanted : Nat) :
    ((snapshot.overwrite contents).gather address wanted).length =
      (snapshot.gather address wanted).length := by
  induction wanted using Nat.strongRecOn generalizing address with
  | ind wanted ih =>
    have hlength : (((snapshot.overwrite contents).readableFrom address).take wanted).length =
        ((snapshot.readableFrom address).take wanted).length := by
      simp only [List.length_take, length_readableFrom_overwrite]
    generalize hbytes : (snapshot.readableFrom address).take wanted = bytes at hlength
    generalize hwritten : ((snapshot.overwrite contents).readableFrom address).take wanted = written
      at hlength
    rw [gather_eq hbytes, gather_eq hwritten]
    by_cases hempty : bytes = []
    · obtain rfl : written = [] := List.length_eq_zero_iff.mp (by simp [hlength, hempty])
      simp only [hempty, if_true]
    · have hpos := List.length_pos_iff.mpr hempty
      have hwritten : written ≠ [] := List.length_pos_iff.mp (hlength ▸ hpos)
      have hle : bytes.length ≤ wanted := hbytes ▸ List.length_take_le _ _
      simp only [hempty, hwritten, if_false, List.length_append, hlength,
        ih (wanted - bytes.length) (by omega)]

/-- Bytes none of which can be written stay as they are. -/
theorem gather_overwrite (address : UInt64) (wanted : Nat)
    (h : ¬ snapshot.process.ReachesWritable address wanted) :
    (snapshot.overwrite contents).gather address wanted = snapshot.gather address wanted := by
  induction wanted using Nat.strongRecOn generalizing address with
  | ind wanted ih =>
    have hbytes : ((snapshot.overwrite contents).readableFrom address).take wanted =
        (snapshot.readableFrom address).take wanted := by
      rcases Nat.eq_zero_or_pos wanted with rfl | hpos
      · rfl
      · rw [readableFrom_overwrite contents]
        refine Bool.eq_false_iff.mpr fun hwritable => h ⟨0, hpos, ?_⟩
        simpa using hwritable
    generalize hchunk : (snapshot.readableFrom address).take wanted = bytes at hbytes
    rw [gather_eq hchunk, gather_eq hbytes]
    by_cases hempty : bytes = []
    · simp only [hempty, if_true]
    · have hpos := List.length_pos_iff.mpr hempty
      have hle : bytes.length ≤ wanted := hchunk ▸ List.length_take_le _ _
      simp only [hempty, if_false]
      rw [ih (wanted - bytes.length) (by omega)]
      -- A writable byte of the rest is one of the whole, behind the bytes of the first region.
      rintro ⟨i, hi, hwritable⟩
      refine h ⟨bytes.length + i, by omega, ?_⟩
      rwa [UInt64.ofNat_add, ← UInt64.add_assoc]

theorem peek_eq (snapshot : Snapshot) (address : UInt64) :
    snapshot.process.peek address = decide ((snapshot.gather address 1).length = 1) := by
  simp only [Process.peek, process, read]
  by_cases h : (snapshot.gather address 1).length = 1 <;> simp [h]

/-- Writing to memory that can be written changes nothing else. -/
theorem sameConstants_overwrite (snapshot : Snapshot) :
    snapshot.process.SameConstants (snapshot.overwrite contents).process where
  machine := rfl
  pc := rfl
  symbolAt := rfl
  pageAt := (pageAt_overwrite contents).symm
  peek address := by simp only [peek_eq, length_gather_overwrite]
  register := rfl
  sp := rfl
  read mode address length h := by
    simp only [process, read, gather_overwrite contents address length h]

end Snapshot

/-! ### Memory that a gap follows -/

/-- Every link after the first is a pointer that was followed. -/
theorem Chain.exists_pointer_of_mem_linksAfter {pointer? : UInt64 → Option UInt64} {link : UInt64} :
    {limit : Nat} → {seen : List UInt64} → {current : UInt64} →
      link ∈ linksAfter pointer? limit seen current → ∃ place, pointer? place = some link
  | limit + 1, seen, current, h => by
    unfold linksAfter at h
    split at h
    · contradiction
    · rename_i value hvalue
      split at h
      · obtain rfl := List.mem_singleton.mp h
        exact ⟨current, hvalue⟩
      · rcases List.mem_cons.mp h with rfl | h
        · exact ⟨current, hvalue⟩
        · exact exists_pointer_of_mem_linksAfter h

namespace Process

/-- Memory that cannot be written holds a place: as a pointer, or as a smaller number. -/
def NamesPlace (p : Process) (place : UInt64) : Prop :=
  ∃ address, p.isReadOnly address = true ∧
    (p.pointer? address = some place ∨
      ∃ size < p.machine.pointerSize, p.readUInt address size = .ok place)

variable {p : Process} {config : Config}

/-- A link of a chain through memory that cannot be written lies in such memory, or is held by
it. -/
theorem readOnly_or_named_of_mem_chain {place link : UInt64} {limit : Nat} {readSize : Option Nat}
    (hread : p.isReadOnly place = true)
    (hmem : link ∈ p.chain p.constantPointer? place limit readSize) :
    p.isReadOnly link = true ∨ p.NamesPlace link := by
  have hfollow : link ∈ Chain.follow p.constantPointer? place limit →
      p.isReadOnly link = true ∨ p.NamesPlace link := by
    intro h
    rcases List.mem_cons.mp h with rfl | h
    · exact .inl hread
    · obtain ⟨holder, hholder⟩ := Chain.exists_pointer_of_mem_linksAfter h
      unfold constantPointer? at hholder
      split at hholder
      · exact .inr ⟨holder, ‹_›, .inl hholder⟩
      · contradiction
  have hsingle : ∀ size < p.machine.pointerSize, link ∈ p.singleRead place size →
      p.isReadOnly link = true ∨ p.NamesPlace link := by
    intro size hsize h
    unfold singleRead at h
    split at h
    · rename_i value hvalue
      rcases List.mem_cons.mp h with rfl | h
      · exact .inl hread
      · obtain rfl := List.mem_singleton.mp h
        exact .inr ⟨place, hread, .inr ⟨size, hsize, hvalue⟩⟩
    · obtain rfl := List.mem_singleton.mp h
      exact .inl hread
  unfold chain at hmem
  split at hmem
  · split at hmem
    · exact hsingle _ ‹_› hmem
    · exact hfollow hmem
  · exact hfollow hmem

theorem Previewed.readOnly_or_named {place : UInt64} (h : p.Previewed config place) :
    p.isReadOnly place = true ∨ p.NamesPlace place := by
  obtain ⟨links, hlinks, hlast⟩ := h
  have hmem : place ∈ links := List.mem_of_mem_take (List.mem_of_getLast? hlast)
  cases hlinks with
  | address hread => exact readOnly_or_named_of_mem_chain hread hmem
  | pointer hread => exact readOnly_or_named_of_mem_chain hread hmem
  | number hread => exact readOnly_or_named_of_mem_chain hread hmem
  | loaded hread hchain =>
    exact readOnly_or_named_of_mem_chain hread (hchain ▸ List.mem_cons_of_mem _ hmem)

end Process

namespace Snapshot

variable (contents : UInt64 → Nat → UInt8) {snapshot : Snapshot}

/-- A gap follows every region that cannot be written. -/
def Fenced (snapshot : Snapshot) : Prop :=
  ∀ entry ∈ snapshot.regions.entries, entry.2.writable = false →
    snapshot.regionAt entry.2.stop = none

instance (snapshot : Snapshot) : Decidable snapshot.Fenced :=
  inferInstanceAs (Decidable (∀ entry ∈ snapshot.regions.entries, entry.2.writable = false →
    snapshot.regionAt entry.2.stop = none))

theorem exists_region_of_isReadOnly {address : UInt64}
    (h : snapshot.process.isReadOnly address = true) :
    ∃ region, snapshot.regionAt address = some region ∧ region.writable = false := by
  cases hregion : snapshot.regionAt address with
  | none => simp [Process.isReadOnly, process, pageAt, hregion] at h
  | some region =>
    exact ⟨region, rfl, by simpa [Process.isReadOnly, process, pageAt, hregion] using h⟩

namespace Fenced

/-- A read that begins in memory that cannot be written ends with the region there. -/
theorem gather_eq (h : snapshot.Fenced) {address : UInt64}
    (hread : snapshot.process.isReadOnly address = true) (wanted : Nat) :
    snapshot.gather address wanted = (snapshot.readableFrom address).take wanted := by
  obtain ⟨region, hregion, hwritable⟩ := exists_region_of_isReadOnly hread
  generalize hwhole : snapshot.readableFrom address = whole
  rw [Snapshot.gather_eq rfl, hwhole]
  -- Either the region holds all that is wanted, or what is left lies behind it, in the gap.
  rcases Nat.le_total wanted whole.length with hle | hle
  · rw [List.length_take_of_le hle, Nat.sub_self, gather_zero, List.append_nil, ite_eq_right_iff]
    exact Eq.symm
  · rw [List.take_of_length_le hle]
    by_cases hempty : whole = []
    · simp only [hempty, if_true]
    · have hdata : whole = region.dataFrom address := by
        simp only [readableFrom, hregion] at hwhole
        split at hwhole
        · exact hwhole.symm
        · exact absurd hwhole.symm hempty
      have hstop : snapshot.regionAt (address + UInt64.ofNat whole.length) = none := by
        obtain ⟨entry, hmem, rfl, -⟩ := mem_entries_of_regionAt hregion
        rw [hdata, Region.add_length_dataFrom (hdata ▸ hempty)]
        exact h entry hmem hwritable
      simp only [hempty, if_false, gather_of_unmapped hstop, List.append_nil]

theorem overwrite (h : snapshot.Fenced) : (snapshot.overwrite contents).Fenced := by
  intro written hwritten hwritable
  obtain ⟨entry, hmem, rfl⟩ := List.mem_map.mp hwritten
  simp only [Region.overwrite_writable] at hwritable
  simp only [Region.overwrite_stop, regionAt_overwrite, h entry hmem hwritable, Option.map_none]

/-- What is read from memory on that cannot be written stays as it is. -/
theorem read_overwrite (h : snapshot.Fenced) {address : UInt64}
    (hread : snapshot.process.isReadOnly address = true) (mode : ReadMode) (length : Nat) :
    snapshot.process.read mode address length =
      (snapshot.overwrite contents).process.read mode address length := by
  have hsame := sameConstants_overwrite contents snapshot
  have hgather : (snapshot.overwrite contents).gather address length =
      snapshot.gather address length := by
    rw [h.gather_eq hread, (h.overwrite contents).gather_eq (hsame.isReadOnly address ▸ hread),
      readableFrom_overwrite contents (Process.isWritable_of_isReadOnly hread)]
  simp only [process, read, hgather]

theorem sameNumbers_overwrite (h : snapshot.Fenced) :
    snapshot.process.SameNumbers (snapshot.overwrite contents).process := by
  intro place size hread
  simp only [Process.number?, Process.pointer?, Process.readPointer, Process.readUInt,
    h.read_overwrite contents hread]
  rfl

/-- Nothing that can be written is looked at then, if memory that cannot be written leads to no
place near it. -/
theorem sameStrayReads_overwrite (h : snapshot.Fenced) {config : Config}
    (hnamed : config.disasmAnnotations = true → ∀ place, snapshot.process.NamesPlace place →
      ¬ snapshot.process.ReachesWritable place (Chain.oneMore config.telescopeStringLength)) :
    snapshot.process.SameStrayReads config (snapshot.overwrite contents).process where
  numbers place size hread _ := h.sameNumbers_overwrite contents place size hread
  strings hnotes place hplace hreach := by
    rcases hplace.readOnly_or_named with hread | hplace
    · simp only [Chain.stringAt?, h.read_overwrite contents hread]
      rfl
    · exact absurd hreach (hnamed hnotes place hplace)

end Fenced

end Snapshot

end CodeWindow
