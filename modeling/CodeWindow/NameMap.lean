import CodeWindow.Association

/-! Maps from names to values. A name is bound once; binding it again replaces its value. -/

namespace CodeWindow

/-- Bindings of names, the latest first. -/
structure NameMap (α : Type) where
  entries : List (String × α) := []

namespace NameMap

variable {α : Type}

/-- The map that binds no name. -/
def empty : NameMap α := {}

/-- The value bound to a name. -/
def find? (map : NameMap α) (name : String) : Option α := map.entries.lookup name

/-- Binds a name, in place of what it was bound to. -/
def insert (map : NameMap α) (name : String) (value : α) : NameMap α :=
  ⟨(name, value) :: map.entries.filter fun entry => entry.1 != name⟩

/-- The bindings in ascending order of their names. -/
def sorted (map : NameMap α) : List (String × α) :=
  map.entries.mergeSort fun a b => a.1 ≤ b.1

@[simp] theorem find?_empty (name : String) : (empty : NameMap α).find? name = none := rfl

/-- A name reads as what it was last bound to. -/
theorem find?_insert (map : NameMap α) (name other : String) (value : α) :
    (map.insert name value).find? other = if other = name then some value else map.find? other := by
  by_cases h : other = name
  · simp [find?, insert, h]
  · simp [find?, insert, Association.lookup_cons, h, Association.lookup_filter_ne map.entries h]

end NameMap

end CodeWindow
