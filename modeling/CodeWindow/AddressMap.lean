import CodeWindow.Association

/-! Maps from addresses to values, kept in ascending order of address. Besides the value at an
address, a map gives the entry at the greatest address not above a given one. -/

namespace CodeWindow

/-- Entries in strictly ascending order of address. -/
structure AddressMap (α : Type) where
  entries : List (UInt64 × α) := []
  ascending : entries.Pairwise (fun a b => a.1 < b.1) := by exact List.Pairwise.nil

namespace AddressMap

variable {α : Type}

/-- The map without entries. -/
def empty : AddressMap α := {}

/-- Puts an entry at its place among ascending entries, over the entry at the same address. -/
def place (address : UInt64) (value : α) : List (UInt64 × α) → List (UInt64 × α)
  | [] => [(address, value)]
  | (key, old) :: rest =>
    if address < key then (address, value) :: (key, old) :: rest
    else if address = key then (address, value) :: rest
    else (key, old) :: place address value rest

theorem mem_place {address : UInt64} {value : α} {entry : UInt64 × α} :
    {entries : List (UInt64 × α)} → entry ∈ place address value entries →
      entry = (address, value) ∨ entry ∈ entries
  | [], h => Or.inl (by simpa [place] using h)
  | (key, old) :: rest, h => by
    unfold place at h
    split at h
    · simpa using h
    · split at h
      · rcases List.mem_cons.mp h with h | h
        · exact Or.inl h
        · exact Or.inr (List.mem_cons_of_mem _ h)
      · rcases List.mem_cons.mp h with h | h
        · exact Or.inr (h ▸ List.mem_cons_self)
        · rcases mem_place h with h | h
          · exact Or.inl h
          · exact Or.inr (List.mem_cons_of_mem _ h)

theorem ascending_place (address : UInt64) (value : α) :
    {entries : List (UInt64 × α)} → entries.Pairwise (fun a b => a.1 < b.1) →
      (place address value entries).Pairwise (fun a b => a.1 < b.1)
  | [], _ => by simp [place]
  | (key, old) :: rest, h => by
    obtain ⟨hkey, hrest⟩ := List.pairwise_cons.mp h
    unfold place
    split
    · rename_i hlt
      refine List.pairwise_cons.mpr ⟨fun entry hmem => ?_, h⟩
      rcases List.mem_cons.mp hmem with rfl | hmem
      · exact hlt
      · exact UInt64.lt_trans hlt (hkey entry hmem)
    · split
      · rename_i heq
        exact List.pairwise_cons.mpr ⟨fun entry hmem => heq ▸ hkey entry hmem, hrest⟩
      · rename_i hlt hne
        refine List.pairwise_cons.mpr ⟨fun entry hmem => ?_, ascending_place address value hrest⟩
        rcases mem_place hmem with rfl | hmem
        · exact UInt64.lt_of_le_of_ne (UInt64.not_lt.mp hlt) fun h => hne h.symm
        · exact hkey entry hmem

/-- Puts a value at an address, in place of the value there. -/
def insert (map : AddressMap α) (address : UInt64) (value : α) : AddressMap α where
  entries := place address value map.entries
  ascending := ascending_place address value map.ascending

/-- The value at an address. -/
def find? (map : AddressMap α) (address : UInt64) : Option α := map.entries.lookup address

/-- The entry at the greatest address not above the given one. -/
def floor? (map : AddressMap α) (address : UInt64) : Option (UInt64 × α) :=
  (map.entries.takeWhile fun entry => entry.1 ≤ address).getLast?

/-- The number of entries. -/
def size (map : AddressMap α) : Nat := map.entries.length

/-- A map is empty when it has no entries. -/
def isEmpty (map : AddressMap α) : Bool := map.entries.isEmpty

@[simp] theorem find?_empty (address : UInt64) : (empty : AddressMap α).find? address = none := rfl

theorem lookup_place (address other : UInt64) (value : α) (entries : List (UInt64 × α)) :
    (place address value entries).lookup other =
      if other = address then some value else entries.lookup other := by
  induction entries with
  | nil => simp [place, Association.lookup_cons]
  | cons entry rest ih =>
    obtain ⟨key, old⟩ := entry
    unfold place
    split
    · rw [Association.lookup_cons]
    · split
      · rename_i heq
        subst heq
        simp only [Association.lookup_cons]
        split <;> rfl
      · rename_i hne
        simp only [Association.lookup_cons, ih]
        by_cases h : other = key
        · simp [h, Ne.symm hne]
        · simp [h]

/-- An address reads as what was last put there. -/
theorem find?_insert (map : AddressMap α) (address other : UInt64) (value : α) :
    (map.insert address value).find? other =
      if other = address then some value else map.find? other :=
  lookup_place address other value map.entries

end AddressMap

end CodeWindow
