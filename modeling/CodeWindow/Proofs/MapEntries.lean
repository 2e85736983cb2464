import CodeWindow.AddressMap
import Mathlib.Data.List.Nodup
import Mathlib.Data.List.Pairwise
import Mathlib.Data.List.Perm.Lattice
import Mathlib.Data.List.TakeWhile

/-! What maps hold. An address map has one entry for each address, so the entry found below an
address is the one with the greatest address not above it. Behind a run of insertions a key reads
as what the last insertion for it put there. -/

namespace CodeWindow

/-- Whatever is looked up in, and whatever an insertion is: behind a run of insertions, the last one
for a key answers for it. -/
theorem Association.look_foldl {κ α β μ : Type} [DecidableEq κ] (look : μ → κ → Option α)
    (step : μ → β → μ) (key : β → κ) (value : β → α)
    (hstep : ∀ map item other,
      look (step map item) other = if other = key item then some (value item) else look map other)
    (items : List β) (map : μ) (other : κ) :
    look (items.foldl step map) other =
      ((items.reverse.find? fun item => key item == other).map value).or (look map other) := by
  induction items generalizing map with
  | nil => rfl
  | cons item items ih =>
    rw [List.foldl_cons, ih, List.reverse_cons, List.find?_append, hstep]
    cases items.reverse.find? fun item => key item == other with
    | some later => rfl
    | none =>
      by_cases hsame : key item = other
      · simp [hsame]
      · simp [hsame, Ne.symm hsame]

namespace AddressMap

variable {α : Type}

/-! ### Entries -/

theorem nodup_of_ascending {entries : List (UInt64 × α)}
    (hascending : entries.Pairwise (fun a b => a.1 < b.1)) : entries.Nodup := by
  refine hascending.imp ?_
  rintro a _ hlt rfl
  exact UInt64.lt_irrefl a.1 hlt

theorem nodup_keys (map : AddressMap α) : (map.entries.map Prod.fst).Nodup :=
  List.nodup_iff_pairwise_ne.mpr (List.pairwise_map.mpr (map.ascending.imp UInt64.ne_of_lt))

theorem eq_of_mem {map : AddressMap α} {first second : UInt64 × α} (hfirst : first ∈ map.entries)
    (hsecond : second ∈ map.entries) (h : first.1 = second.1) : first = second :=
  List.inj_on_of_nodup_map map.nodup_keys hfirst hsecond h

theorem mem_iff_lookup {address : UInt64} {value : α} {entries : List (UInt64 × α)}
    (hascending : entries.Pairwise (fun a b => a.1 < b.1)) :
    (address, value) ∈ entries ↔ entries.lookup address = some value := by
  induction entries with
  | nil => simp
  | cons entry rest ih =>
    obtain ⟨key, old⟩ := entry
    obtain ⟨hkey, hrest⟩ := List.pairwise_cons.mp hascending
    rw [List.mem_cons, Association.lookup_cons, ih hrest]
    by_cases hsame : address = key
    · subst hsame
      have hlater : rest.lookup address ≠ some value := fun hlookup =>
        UInt64.lt_irrefl address (hkey _ ((ih hrest).mpr hlookup))
      simp [hlater, eq_comm]
    · simp [hsame]

theorem mem_entries_iff {map : AddressMap α} {entry : UInt64 × α} :
    entry ∈ map.entries ↔ map.find? entry.1 = some entry.2 :=
  mem_iff_lookup map.ascending

/-- An insertion leaves the entries of other addresses. -/
theorem mem_entries_insert {map : AddressMap α} {address : UInt64} {value : α}
    {entry : UInt64 × α} :
    entry ∈ (map.insert address value).entries ↔
      entry = (address, value) ∨ entry ∈ map.entries ∧ entry.1 ≠ address := by
  obtain ⟨key, held⟩ := entry
  rw [mem_entries_iff, mem_entries_iff, find?_insert]
  by_cases hsame : key = address
  · simp [hsame, eq_comm]
  · simp [hsame]

/-- Maps that answer alike are the same. -/
theorem ext_find? {map other : AddressMap α}
    (h : ∀ address, map.find? address = other.find? address) : map = other := by
  obtain ⟨entries, hascending⟩ := map
  obtain ⟨entriesOther, hascendingOther⟩ := other
  have hmem : ∀ entry, entry ∈ entries ↔ entry ∈ entriesOther := by
    rintro ⟨address, value⟩
    rw [mem_iff_lookup hascending, mem_iff_lookup hascendingOther]
    exact iff_of_eq (congrArg (· = some value) (h address))
  have hperm : entries.Perm entriesOther :=
    (List.perm_ext_iff_of_nodup (nodup_of_ascending hascending)
      (nodup_of_ascending hascendingOther)).mpr hmem
  obtain rfl := hperm.eq_of_pairwise
    (fun a _ _ _ hab hba => absurd (UInt64.lt_trans hab hba) (UInt64.lt_irrefl a.1))
    hascending hascendingOther
  rfl

/-! ### The entry below an address -/

theorem takeWhile_eq_filter {address : UInt64} {entries : List (UInt64 × α)}
    (h : entries.Pairwise fun a b => a.1 < b.1) :
    (entries.takeWhile fun entry => entry.1 ≤ address) =
      entries.filter fun entry => entry.1 ≤ address := by
  induction entries with
  | nil => rfl
  | cons entry rest ih =>
    obtain ⟨hentry, hrest⟩ := List.pairwise_cons.mp h
    by_cases hle : entry.1 ≤ address
    · simp only [List.takeWhile_cons, List.filter_cons, hle, decide_true, if_true, ih hrest]
    · have hnone : ∀ other ∈ rest, ¬ decide (other.1 ≤ address) = true := fun other hmem hother =>
        hle (UInt64.le_of_lt (UInt64.lt_of_lt_of_le (hentry other hmem) (of_decide_eq_true hother)))
      simp only [List.takeWhile_cons, List.filter_cons, hle, decide_false, Bool.false_eq_true,
        if_false, List.filter_eq_nil_iff.mpr hnone]

/-- What is found below an address is an entry not above it, and no such entry is above that one. -/
theorem greatest_of_floor? {map : AddressMap α} {address : UInt64} {entry : UInt64 × α}
    (h : map.floor? address = some entry) :
    entry ∈ map.entries ∧ entry.1 ≤ address ∧
      ∀ other ∈ map.entries, other.1 ≤ address → other.1 ≤ entry.1 := by
  rw [floor?, takeWhile_eq_filter map.ascending] at h
  obtain ⟨front, hfront⟩ := List.getLast?_eq_some_iff.mp h
  have hsorted := map.ascending.filter fun entry => decide (entry.1 ≤ address)
  rw [hfront, List.pairwise_append] at hsorted
  have hmem : entry ∈ map.entries.filter fun entry => decide (entry.1 ≤ address) :=
    List.mem_of_getLast? h
  refine ⟨(List.mem_filter.mp hmem).1, of_decide_eq_true (List.mem_filter.mp hmem).2, ?_⟩
  -- The entry is the last of those not above the address, and they ascend.
  intro other hother hle
  have hin : other ∈ front ++ [entry] := hfront ▸ List.mem_filter.mpr ⟨hother, decide_eq_true hle⟩
  rcases List.mem_append.mp hin with hin | hin
  · exact UInt64.le_of_lt (hsorted.2.2 other hin entry (List.mem_singleton_self entry))
  · exact UInt64.le_of_eq (congrArg Prod.fst (List.mem_singleton.mp hin))

theorem exists_floor? {map : AddressMap α} {address : UInt64} {entry : UInt64 × α}
    (hmem : entry ∈ map.entries) (hle : entry.1 ≤ address) :
    ∃ last, map.floor? address = some last := by
  refine Option.ne_none_iff_exists'.mp fun hnone => ?_
  rw [floor?, takeWhile_eq_filter map.ascending, List.getLast?_eq_none_iff,
    List.filter_eq_nil_iff] at hnone
  exact hnone entry hmem (decide_eq_true hle)

theorem floor?_eq_some_iff {map : AddressMap α} {address : UInt64} {entry : UInt64 × α} :
    map.floor? address = some entry ↔
      entry ∈ map.entries ∧ entry.1 ≤ address ∧
        ∀ other ∈ map.entries, other.1 ≤ address → other.1 ≤ entry.1 := by
  refine ⟨greatest_of_floor?, fun ⟨hmem, hle, hmost⟩ => ?_⟩
  obtain ⟨last, hfloor⟩ := exists_floor? hmem hle
  obtain ⟨hlast, hlastLe, hlastMost⟩ := greatest_of_floor? hfloor
  have heq := UInt64.le_antisymm (hmost last hlast hlastLe) (hlastMost entry hmem hle)
  rw [hfloor, eq_of_mem hlast hmem heq]

section

variable {map : AddressMap α} {address key : UInt64} (value : α)

/-- A new entry is found below an address if no entry lies between. -/
theorem floor?_insert_of_nearest (hle : key ≤ address)
    (hnearest : ∀ entry ∈ map.entries, entry.1 ≤ address → entry.1 ≤ key) :
    (map.insert key value).floor? address = some (key, value) := by
  refine floor?_eq_some_iff.mpr ⟨mem_entries_insert.mpr (.inl rfl), hle, ?_⟩
  intro other hother hbelow
  rcases mem_entries_insert.mp hother with rfl | ⟨hold, -⟩
  · exact UInt64.le_refl key
  · exact hnearest other hold hbelow

/-- A new entry is not found below an address if an entry lies between. -/
theorem floor?_insert_of_between {entry : UInt64 × α} (hmem : entry ∈ map.entries)
    (hlt : key < entry.1) (hle : entry.1 ≤ address) :
    (map.insert key value).floor? address = map.floor? address := by
  obtain ⟨last, hfloor⟩ := exists_floor? hmem hle
  obtain ⟨hlast, hlastLe, hlastMost⟩ := greatest_of_floor? hfloor
  have habove : key < last.1 := UInt64.lt_of_lt_of_le hlt (hlastMost entry hmem hle)
  rw [hfloor]
  refine floor?_eq_some_iff.mpr ⟨mem_entries_insert.mpr (.inr ⟨hlast, ?_⟩), hlastLe, ?_⟩
  · exact fun hsame => UInt64.lt_irrefl key (hsame ▸ habove)
  · intro other hother hbelow
    rcases mem_entries_insert.mp hother with rfl | ⟨hold, -⟩
    · exact UInt64.le_of_lt habove
    · exact hlastMost other hold hbelow

end

end AddressMap

end CodeWindow
