import CodeWindow.Proofs.MapEntries
import CodeWindow.Symbol
import Mathlib.Data.List.Dedup
import Mathlib.Data.List.Induction

/-! What a symbol table remembers. Symbols are inserted one after the other, and the table may be
cleared in between. An address and a name stand for the symbol that was last inserted for them since
then, and a look-up goes to the symbol nearest below the address. -/

namespace CodeWindow

/-! ### The addresses of a symbol -/

namespace Symbol

variable {symbol : Symbol} {address : UInt64}

/-- A symbol covers the addresses that lie less than its size behind its own, and a symbol without
size covers its own. -/
def Covers (symbol : Symbol) (address : UInt64) : Prop :=
  symbol.address ≤ address ∧
    (address - symbol.address < symbol.size ∨ symbol.size = 0 ∧ address = symbol.address)

instance (symbol : Symbol) (address : UInt64) : Decidable (symbol.Covers address) :=
  inferInstanceAs (Decidable (_ ∧ _))

/-- The first number past the addresses of a symbol, counted without wrapping. -/
def stop (symbol : Symbol) : Nat := symbol.address.toNat + max 1 symbol.size.toNat

theorem covers_iff :
    symbol.Covers address ↔
      symbol.address.toNat ≤ address.toNat ∧ address.toNat < symbol.stop := by
  rw [Covers, UInt64.le_iff_toNat_le]
  refine and_congr_right fun hle => ?_
  rw [UInt64.lt_iff_toNat_lt, UInt64.toNat_sub_of_le _ _ (UInt64.le_iff_toNat_le.mpr hle), stop,
    ← UInt64.toNat_inj, ← UInt64.toNat_inj, UInt64.toNat_zero]
  omega

theorem toNat_limit (symbol : Symbol) :
    symbol.limit.toNat = min (symbol.address.toNat + symbol.size.toNat) (UInt64.size - 1) := by
  unfold limit
  split
  · rename_i hfits
    rw [UInt64.toNat_add, Nat.mod_eq_of_lt hfits]
    omega
  · rename_i hreaches
    rw [Nat.min_eq_right (by omega)]
    rfl

/-- Of the addresses of a symbol, a look-up misses the last one of all where the symbol has a
size. -/
theorem reaches_iff (hle : symbol.address ≤ address) :
    symbol.reaches address = true ↔
      symbol.Covers address ∧ (symbol.size = 0 ∨ address ≠ 0xFFFFFFFFFFFFFFFF) := by
  have hlast := address.toNat_lt_size
  rw [covers_iff, stop]
  rw [UInt64.le_iff_toNat_le] at hle
  by_cases hsize : symbol.size = 0
  · have hreaches : symbol.reaches address = decide (address = symbol.address) := by
      simp [reaches, hsize]
    rw [hreaches, decide_eq_true_eq, ← UInt64.toNat_inj, hsize, UInt64.toNat_zero]
    simp only [true_or, and_true]
    omega
  · have hpos : 0 < symbol.size := UInt64.pos_iff_ne_zero.mpr hsize
    have hreaches : symbol.reaches address = decide (address < symbol.limit) := by
      simp [reaches, hpos]
    have hend : address ≠ 0xFFFFFFFFFFFFFFFF ↔ address.toNat ≠ UInt64.size - 1 :=
      UInt64.toNat_inj.symm.not
    rw [UInt64.lt_iff_toNat_lt, UInt64.toNat_zero] at hpos
    rw [hreaches, decide_eq_true_eq, UInt64.lt_iff_toNat_lt, toNat_limit, hend]
    simp only [hsize, false_or]
    omega

end Symbol

namespace SymbolTable

/-! ### Operations on a table -/

/-- What can be done to a symbol table. -/
inductive Operation where
  | insert (symbol : Symbol)
  | clear

/-- The table behind an operation. -/
def perform (table : SymbolTable) : Operation → SymbolTable
  | .insert symbol => table.insert symbol
  | .clear => .empty

/-- The table that operations make of the empty one. -/
def run (operations : List Operation) : SymbolTable := operations.foldl perform .empty

/-- The symbols that are inserted behind the last clearing, in order. -/
def inserted (operations : List Operation) : List Symbol :=
  operations.foldl (fun symbols operation =>
    match operation with
    | .insert symbol => symbols ++ [symbol]
    | .clear => []) []

theorem run_eq_ofList (operations : List Operation) :
    run operations = ofList (inserted operations) := by
  induction operations using List.reverseRecOn with
  | nil => rfl
  | append_singleton before operation ih =>
    have hrun : run (before ++ [operation]) = (run before).perform operation :=
      List.foldl_concat _ _ _ _
    rw [hrun, ih]
    cases operation with
    | insert symbol =>
      have hinserted : inserted (before ++ [.insert symbol]) = inserted before ++ [symbol] :=
        List.foldl_concat _ _ _ _
      rw [hinserted, ofList, ofList, List.foldl_concat, perform]
    | clear =>
      have hcleared : inserted (before ++ [.clear]) = [] := List.foldl_concat _ _ _ _
      rw [hcleared]
      rfl

theorem run_inserts (symbols : List Symbol) : run (symbols.map .insert) = ofList symbols := by
  rw [run, List.foldl_map]
  rfl

/-! ### What is remembered -/

/-- The symbols that a table holds under their addresses. -/
def held (table : SymbolTable) : List Symbol := table.byAddress.entries.map Prod.snd

/-- The last symbol at an address. -/
def latestAt? (symbols : List Symbol) (address : UInt64) : Option Symbol :=
  symbols.reverse.find? fun symbol => symbol.address == address

/-- The last symbol of a name. -/
def latestNamed? (symbols : List Symbol) (name : String) : Option Symbol :=
  symbols.reverse.find? fun symbol => symbol.name == name

section

variable {symbols : List Symbol} {address : UInt64} {symbol : Symbol}

theorem find?_byAddress_ofList (symbols : List Symbol) (address : UInt64) :
    (ofList symbols).byAddress.find? address = latestAt? symbols address := by
  have hfold := Association.look_foldl (fun table : SymbolTable => table.byAddress.find?) insert
    Symbol.address id (fun table symbol other =>
      AddressMap.find?_insert table.byAddress symbol.address other symbol) symbols empty address
  rw [Option.map_id, id, show empty.byAddress.find? address = none from rfl, Option.or_none]
    at hfold
  exact hfold

theorem findName?_ofList (symbols : List Symbol) (name : String) :
    (ofList symbols).findName? name = latestNamed? symbols name := by
  have hfold := Association.look_foldl findName? insert Symbol.name id (fun table symbol other =>
    NameMap.find?_insert table.byName symbol.name other symbol) symbols empty name
  rw [Option.map_id, id, show empty.findName? name = none from rfl, Option.or_none] at hfold
  exact hfold

theorem address_of_latestAt? (h : latestAt? symbols address = some symbol) :
    symbol.address = address := by
  have hfound := List.find?_some h
  exact eq_of_beq hfound

theorem exists_latestAt? (h : symbol ∈ symbols) :
    ∃ latest, latestAt? symbols symbol.address = some latest := by
  refine Option.isSome_iff_exists.mp (List.find?_isSome.mpr ⟨symbol, List.mem_reverse.mpr h, ?_⟩)
  exact beq_self_eq_true symbol.address

theorem mem_of_latestAt? (h : latestAt? symbols address = some symbol) : symbol ∈ symbols :=
  List.mem_reverse.mp (List.mem_of_find?_eq_some h)

theorem mem_entries_ofList {entry : UInt64 × Symbol} :
    entry ∈ (ofList symbols).byAddress.entries ↔ latestAt? symbols entry.1 = some entry.2 := by
  rw [AddressMap.mem_entries_iff, find?_byAddress_ofList]

/-- A table holds the last symbol at each address. -/
theorem mem_held_iff :
    symbol ∈ (ofList symbols).held ↔ latestAt? symbols symbol.address = some symbol := by
  rw [held, List.mem_map]
  constructor
  · rintro ⟨entry, hentry, rfl⟩
    have hlatest := mem_entries_ofList.mp hentry
    rwa [address_of_latestAt? hlatest]
  · intro hlatest
    exact ⟨(symbol.address, symbol), mem_entries_ofList.mpr hlatest, rfl⟩

theorem eq_of_mem_held {other : Symbol} (h : symbol ∈ (ofList symbols).held)
    (hother : other ∈ (ofList symbols).held) (hsame : symbol.address = other.address) :
    symbol = other := by
  have hlatest := mem_held_iff.mp h
  rw [hsame, mem_held_iff.mp hother] at hlatest
  exact (Option.some.inj hlatest).symm

theorem exists_mem_held (h : symbol ∈ symbols) :
    ∃ other ∈ (ofList symbols).held, other.address = symbol.address := by
  obtain ⟨latest, hlatest⟩ := exists_latestAt? h
  have haddress := address_of_latestAt? hlatest
  exact ⟨latest, mem_held_iff.mpr (haddress.symm ▸ hlatest), haddress⟩

theorem size_ofList (symbols : List Symbol) :
    (ofList symbols).size = (symbols.map Symbol.address).dedup.length := by
  have hmem : ∀ address, address ∈ (ofList symbols).byAddress.entries.map Prod.fst ↔
      address ∈ (symbols.map Symbol.address).dedup := by
    intro address
    rw [List.mem_dedup, List.mem_map, List.mem_map]
    constructor
    · rintro ⟨entry, hentry, rfl⟩
      have hlatest := mem_entries_ofList.mp hentry
      exact ⟨entry.2, mem_of_latestAt? hlatest, address_of_latestAt? hlatest⟩
    · rintro ⟨symbol, hsymbol, rfl⟩
      obtain ⟨latest, hlatest⟩ := exists_latestAt? hsymbol
      exact ⟨(symbol.address, latest), mem_entries_ofList.mpr hlatest, rfl⟩
  have hperm := (List.perm_ext_iff_of_nodup (ofList symbols).byAddress.nodup_keys
    (List.nodup_dedup _)).mpr hmem
  rw [← hperm.length_eq, List.length_map]
  rfl

/-! ### Look-ups -/

/-- Of the symbols of a table, the one that lies nearest below an address. -/
structure Nearest (table : SymbolTable) (address : UInt64) (symbol : Symbol) : Prop where
  held : symbol ∈ table.held
  below : symbol.address ≤ address
  nearest : ∀ other ∈ table.held, other.address ≤ address → other.address ≤ symbol.address

theorem nearest_iff :
    (ofList symbols).Nearest address symbol ↔
      (ofList symbols).byAddress.floor? address = some (symbol.address, symbol) := by
  rw [AddressMap.floor?_eq_some_iff, mem_entries_ofList]
  constructor
  · intro ⟨hheld, hbelow, hnearest⟩
    refine ⟨mem_held_iff.mp hheld, hbelow, fun entry hentry hle => ?_⟩
    rw [← address_of_latestAt? (mem_entries_ofList.mp hentry)] at hle ⊢
    exact hnearest entry.2 (List.mem_map_of_mem hentry) hle
  · intro ⟨hlatest, hbelow, hnearest⟩
    exact ⟨mem_held_iff.mpr hlatest, hbelow, fun other hother hle =>
      hnearest (other.address, other) (mem_entries_ofList.mpr (mem_held_iff.mp hother)) hle⟩

theorem exists_nearest (h : symbol ∈ (ofList symbols).held) (hle : symbol.address ≤ address) :
    ∃ other, (ofList symbols).Nearest address other := by
  have hentry : (symbol.address, symbol) ∈ (ofList symbols).byAddress.entries :=
    mem_entries_ofList.mpr (mem_held_iff.mp h)
  obtain ⟨⟨start, other⟩, hfloor⟩ := AddressMap.exists_floor? hentry hle
  have hmem := mem_entries_ofList.mp (AddressMap.greatest_of_floor? hfloor).1
  obtain rfl : other.address = start := address_of_latestAt? hmem
  exact ⟨other, nearest_iff.mpr hfloor⟩

/-- The symbol nearest below an address is found if it covers the address, unless it has a size and
the address is the last one of all. -/
theorem lookup_eq_some_iff :
    (ofList symbols).lookup address = some symbol ↔
      (ofList symbols).Nearest address symbol ∧ symbol.Covers address ∧
        (symbol.size = 0 ∨ address ≠ 0xFFFFFFFFFFFFFFFF) := by
  constructor
  · intro h
    unfold lookup at h
    split at h
    · rename_i start found hfloor
      split at h
      · rename_i hreaches
        obtain rfl := Option.some.inj h
        have hmem := mem_entries_ofList.mp (AddressMap.greatest_of_floor? hfloor).1
        obtain rfl : found.address = start := address_of_latestAt? hmem
        have hnearest := nearest_iff.mpr hfloor
        exact ⟨hnearest, (Symbol.reaches_iff hnearest.below).mp hreaches⟩
      · contradiction
    · contradiction
  · rintro ⟨hnearest, hcovers⟩
    have hreaches := (Symbol.reaches_iff hnearest.below).mpr hcovers
    simp only [lookup, nearest_iff.mp hnearest, hreaches, if_true]

/-- A symbol answers for an address: it is the last one at its own address, no symbol lies nearer
below the address, and it covers the address. -/
structure Answers (symbols : List Symbol) (address : UInt64) (symbol : Symbol) : Prop where
  latest : latestAt? symbols symbol.address = some symbol
  nearest : ∀ other ∈ symbols, other.address ≤ address → other.address ≤ symbol.address
  covers : symbol.Covers address

theorem answers_iff :
    Answers symbols address symbol ↔
      (ofList symbols).Nearest address symbol ∧ symbol.Covers address := by
  constructor
  · intro ⟨hlatest, hnearest, hcovers⟩
    exact ⟨⟨mem_held_iff.mpr hlatest, hcovers.1, fun other hother =>
      hnearest other (mem_of_latestAt? (mem_held_iff.mp hother))⟩, hcovers⟩
  · intro ⟨⟨hheld, _, hnearest⟩, hcovers⟩
    refine ⟨mem_held_iff.mp hheld, fun other hother hle => ?_, hcovers⟩
    obtain ⟨latest, hlatest, hsame⟩ := exists_mem_held hother
    rw [← hsame] at hle ⊢
    exact hnearest latest hlatest hle

end

/-- An address inside a symbol is named by the symbol, and by how far it lies behind it. -/
theorem resolve_eq_some {table : SymbolTable} {address : UInt64} {symbol : Symbol}
    (h : table.lookup address = some symbol) (hle : symbol.address ≤ address) :
    table.resolve address = some (
      if address = symbol.address then symbol.name
      else symbol.name ++ "+" ++ Text.decimal (address.toNat - symbol.address.toNat)) := by
  have hoffset : address - symbol.address = 0 ↔ address = symbol.address := by
    rw [← UInt64.toNat_inj, ← UInt64.toNat_inj, UInt64.toNat_sub_of_le _ _ hle, UInt64.toNat_zero]
    rw [UInt64.le_iff_toNat_le] at hle
    omega
  simp only [resolve, h, Option.map_some, hoffset, UInt64.toNat_sub_of_le _ _ hle]

/-! ### Symbols of object files -/

/-- A table takes a symbol of an object file over: it is a function or data, and it has a name and
an address. -/
structure Takes (demangler : Demangler) (object : ObjectSymbol) (symbol : Symbol) : Prop where
  kind : object.kind = .text ∧ symbol.kind = .function ∨ object.kind = .data ∧ symbol.kind = .data
  name : ∃ name ≠ "", object.name = some name ∧ symbol.name = demangler.readable name
  address : object.address ≠ 0 ∧ symbol.address = object.address
  size : symbol.size = object.size

theorem entry?_eq_some_iff {demangler : Demangler} {object : ObjectSymbol} {symbol : Symbol} :
    object.entry? demangler = some symbol ↔ Takes demangler object symbol := by
  obtain ⟨kind, name?, address, size⟩ := object
  constructor
  · intro h
    cases name? with
    | none => cases kind <;> simp [ObjectSymbol.entry?] at h
    | some name =>
      cases kind with
      | other => simp [ObjectSymbol.entry?] at h
      | text | data =>
        simp only [ObjectSymbol.entry?, Bool.or_eq_true, String.isEmpty_iff, decide_eq_true_eq,
          Option.ite_none_left_eq_some, not_or, Option.some.injEq] at h
        obtain ⟨⟨hname, haddress⟩, rfl⟩ := h
        exact ⟨by simp, ⟨name, hname, rfl, rfl⟩, ⟨haddress, rfl⟩, rfl⟩
  · obtain ⟨_, _, _, _⟩ := symbol
    rintro ⟨hkind, ⟨name, hname, rfl, rfl⟩, ⟨haddress, rfl⟩, rfl⟩
    rcases hkind with ⟨rfl, rfl⟩ | ⟨rfl, rfl⟩
    · simp [ObjectSymbol.entry?, hname, haddress]
    · simp [ObjectSymbol.entry?, hname, haddress]

/-- A table counts the addresses of its symbols, knows the last symbol of each name, finds the last
symbol at the address nearest below another one where that symbol covers it, and names addresses by
what it finds. The table of an object file is that of its functions and data, inserted in order. -/
theorem run_remembers (operations : List Operation) :
    let symbols := inserted operations
    let table := run operations
    table.size = (symbols.map Symbol.address).dedup.length ∧
    (∀ name, table.findName? name = latestNamed? symbols name) ∧
    (∀ address symbol, table.lookup address = some symbol ↔
      Answers symbols address symbol ∧ (symbol.size = 0 ∨ address ≠ 0xFFFFFFFFFFFFFFFF)) ∧
    (∀ address, table.resolve address = (table.lookup address).map fun symbol =>
      if address = symbol.address then symbol.name
      else symbol.name ++ "+" ++ Text.decimal (address.toNat - symbol.address.toNat)) ∧
    (∀ demangler objects, ofObject demangler objects =
      run ((objects.filterMap (ObjectSymbol.entry? demangler)).map .insert)) ∧
    ∀ demangler object symbol,
      object.entry? demangler = some symbol ↔ Takes demangler object symbol := by
  intro symbols table
  have htable : table = ofList symbols := run_eq_ofList operations
  have hlookup : ∀ address symbol, table.lookup address = some symbol ↔
      Answers symbols address symbol ∧ (symbol.size = 0 ∨ address ≠ 0xFFFFFFFFFFFFFFFF) := by
    intro address symbol
    rw [htable, lookup_eq_some_iff, answers_iff, and_assoc]
  refine ⟨?_, fun name => ?_, hlookup, fun address => ?_, fun demangler objects => ?_,
    fun demangler object symbol => entry?_eq_some_iff⟩
  · rw [htable, size_ofList]
  · rw [htable, findName?_ofList]
  · cases hfound : table.lookup address with
    | none => rw [resolve, hfound, Option.map_none, Option.map_none]
    | some symbol =>
      have hanswers := ((hlookup address symbol).mp hfound).1
      rw [resolve_eq_some hfound hanswers.covers.1, Option.map_some]
  · rw [run_inserts, ofObject]

end SymbolTable

end CodeWindow
