import CodeWindow.Proofs.SymbolHistory

/-! Which addresses inside symbols are found. A look-up asks the symbol nearest below an address and
no other one. So a symbol that lies in a larger one hides what the larger one has behind it, and of
a symbol up to the end of the address space the last address is missed. -/

namespace CodeWindow.SymbolTable

/-- Where a symbol starts in another one and ends before it, there is a symbol that starts behind
the first and no later than its end. -/
def Seamless (symbols : List Symbol) : Prop :=
  ∀ inner ∈ symbols, ∀ outer ∈ symbols, outer.address ≤ inner.address → inner.stop < outer.stop →
    inner.stop < UInt64.size →
      ∃ next ∈ symbols, inner.address < next.address ∧ next.address.toNat ≤ inner.stop

instance (symbols : List Symbol) : Decidable (Seamless symbols) :=
  inferInstanceAs (Decidable (∀ inner ∈ symbols, ∀ outer ∈ symbols, _ → _ → _ →
    ∃ next ∈ symbols, _))

/-- Where a symbol has the last address of all, a marker stands at it. -/
def Capped (symbols : List Symbol) : Prop :=
  ∀ outer ∈ symbols, UInt64.size ≤ outer.stop →
    ∃ marker ∈ symbols, marker.size = 0 ∧ marker.address = 0xFFFFFFFFFFFFFFFF

instance (symbols : List Symbol) : Decidable (Capped symbols) :=
  inferInstanceAs (Decidable (∀ outer ∈ symbols, _ → ∃ marker ∈ symbols, _))

section

variable {symbols : List Symbol} {address : UInt64} {symbol outer : Symbol}

/-- Where symbols leave no seam, the one nearest below an address has the address if any does. -/
theorem Seamless.covers_of_nearest {table : SymbolTable} (h : Seamless table.held)
    (hnearest : table.Nearest address symbol) (houter : outer ∈ table.held)
    (hcovers : outer.Covers address) : symbol.Covers address := by
  have hbelow := UInt64.le_iff_toNat_le.mp hnearest.below
  have hinside := Symbol.covers_iff.mp hcovers
  have hlast := address.toNat_lt_size
  by_contra huncovered
  have hstop : symbol.stop ≤ address.toNat := by
    rw [Symbol.covers_iff] at huncovered
    omega
  obtain ⟨next, hnext, habove, hle⟩ := h symbol hnearest.held outer houter
    (hnearest.nearest outer houter hcovers.1) (by omega) (by omega)
  have hnextBelow : next.address ≤ address := by
    rw [UInt64.le_iff_toNat_le]
    omega
  exact absurd habove (UInt64.not_lt.mpr (hnearest.nearest next hnext hnextBelow))

/-- Where markers stand at the last address, the symbol nearest below it has no size. -/
theorem Capped.size_of_nearest (h : Capped (ofList symbols).held)
    (hnearest : (ofList symbols).Nearest 0xFFFFFFFFFFFFFFFF symbol)
    (houter : outer ∈ (ofList symbols).held) (hcovers : outer.Covers 0xFFFFFFFFFFFFFFFF) :
    symbol.size = 0 := by
  have hreaches : UInt64.size ≤ outer.stop := (Symbol.covers_iff.mp hcovers).2
  obtain ⟨marker, hmarker, hsize, haddress⟩ := h outer houter hreaches
  have habove := hnearest.nearest marker hmarker (UInt64.le_of_eq haddress)
  rw [haddress] at habove
  have hsame := UInt64.le_antisymm hnearest.below habove
  rw [eq_of_mem_held hnearest.held hmarker (hsame.trans haddress.symm), hsize]

theorem lookup_of_seamless (hseamless : Seamless (ofList symbols).held)
    (hcapped : Capped (ofList symbols).held) (houter : outer ∈ (ofList symbols).held)
    (hcovers : outer.Covers address) : ((ofList symbols).lookup address).isSome = true := by
  obtain ⟨nearest, hnearest⟩ := exists_nearest houter hcovers.1
  have hfound : (ofList symbols).lookup address = some nearest := by
    refine lookup_eq_some_iff.mpr
      ⟨hnearest, hseamless.covers_of_nearest hnearest houter hcovers, ?_⟩
    by_cases hlast : address = 0xFFFFFFFFFFFFFFFF
    · subst hlast
      exact .inl (hcapped.size_of_nearest hnearest houter hcovers)
    · exact .inr hlast
  rw [hfound, Option.isSome_some]

variable (h : ∀ outer ∈ (ofList symbols).held, ∀ address, outer.Covers address →
  ((ofList symbols).lookup address).isSome = true)
include h

/-- At the end of a symbol in another one, only a symbol behind the first can be found. -/
theorem seamless_of_lookup : Seamless (ofList symbols).held := by
  intro inner hinner outer houter hle hlt hbounded
  have hend : (UInt64.ofNat inner.stop).toNat = inner.stop :=
    UInt64.toNat_ofNat_of_lt' hbounded
  have hstart : inner.address.toNat < inner.stop := by
    rw [Symbol.stop]
    omega
  have hcovers : outer.Covers (UInt64.ofNat inner.stop) := by
    rw [UInt64.le_iff_toNat_le] at hle
    rw [Symbol.covers_iff, hend]
    omega
  obtain ⟨found, hfound⟩ := Option.isSome_iff_exists.mp (h outer houter _ hcovers)
  obtain ⟨hnearest, hreached, -⟩ := lookup_eq_some_iff.mp hfound
  rw [Symbol.covers_iff, hend] at hreached
  refine ⟨found, hnearest.held, ?_, hreached.1⟩
  have hbelow : inner.address ≤ UInt64.ofNat inner.stop := by
    rw [UInt64.le_iff_toNat_le, hend]
    omega
  refine UInt64.lt_of_le_of_ne (hnearest.nearest inner hinner hbelow) fun hsame => ?_
  obtain rfl := eq_of_mem_held hinner hnearest.held hsame
  exact Nat.lt_irrefl _ hreached.2

/-- At the last address of all, only a marker can be found. -/
theorem capped_of_lookup : Capped (ofList symbols).held := by
  intro outer houter hreaches
  have hcovers : outer.Covers 0xFFFFFFFFFFFFFFFF := by
    have haddress := outer.address.toNat_lt_size
    rw [Symbol.covers_iff, show (0xFFFFFFFFFFFFFFFF : UInt64).toNat = UInt64.size - 1 from rfl]
    omega
  obtain ⟨marker, hfound⟩ := Option.isSome_iff_exists.mp (h outer houter _ hcovers)
  obtain ⟨hnearest, hreached, hkind⟩ := lookup_eq_some_iff.mp hfound
  have hsize : marker.size = 0 := hkind.resolve_right fun hother => hother rfl
  refine ⟨marker, hnearest.held, hsize, ?_⟩
  rcases hreached.2 with hinside | ⟨-, hsame⟩
  · rw [hsize] at hinside
    exact absurd hinside UInt64.not_lt_zero
  · exact hsame.symm

end

theorem resolve_isSome (table : SymbolTable) (address : UInt64) :
    (table.resolve address).isSome = (table.lookup address).isSome :=
  Option.isSome_map

/-- A table finds and names every address inside its symbols if and only if no symbol ends in the
middle of another one with none behind it, and one up to the end of the address space has a marker
at the last address. -/
theorem lookup_complete_iff (operations : List Operation) :
    let table := run operations
    (∀ symbol ∈ table.held, ∀ address, symbol.Covers address →
      (table.lookup address).isSome = true ∧ (table.resolve address).isSome = true) ↔
        Seamless table.held ∧ Capped table.held := by
  intro table
  have htable : table = ofList (inserted operations) := run_eq_ofList operations
  simp only [resolve_isSome, and_self]
  rw [htable]
  exact ⟨fun h => ⟨seamless_of_lookup h, capped_of_lookup h⟩,
    fun ⟨hseamless, hcapped⟩ _ houter _ hcovers =>
      lookup_of_seamless hseamless hcapped houter hcovers⟩

/-- A marker inside a function hides the rest of the function, and the last address of all is not
found in the data that reaches it. -/
theorem lookup_misses_covered :
    let main : Symbol := { name := "main", address := 0x1000, size := 0x100, kind := .function }
    let loop : Symbol := { name := "loop", address := 0x1010, kind := .function }
    let top : Symbol := {
      name := "top", address := 0xfffffffffffffff0, size := 0x10, kind := .data }
    let table := run [.insert main, .insert loop, .insert top]
    (main ∈ table.held ∧ main.Covers 0x1020 ∧ table.lookup 0x1020 = none ∧
        table.resolve 0x1020 = none) ∧
      (top ∈ table.held ∧ top.Covers 0xffffffffffffffff ∧
        table.lookup 0xffffffffffffffff = none ∧ table.resolve 0xffffffffffffffff = none) := by
  decide +kernel

end CodeWindow.SymbolTable
