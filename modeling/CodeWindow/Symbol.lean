import CodeWindow.AddressMap
import CodeWindow.NameMap
import CodeWindow.Text.Numeral

/-! Symbols and their table. A symbol covers the bytes of its size from its address; one without a
size marks its address alone. The table answers for an address by the symbol at the greatest
address not above it, and for a name by the symbol last given that name. -/

namespace CodeWindow

/-- What a symbol names. -/
inductive SymbolKind where
  | function
  | data
  | unknown
  deriving DecidableEq

/-- The name of a symbol kind. -/
def SymbolKind.name : SymbolKind → String
  | .function => "function"
  | .data => "data"
  | .unknown => "unknown"

/-- The symbol kind with a name. -/
def SymbolKind.ofName? (text : String) : Option SymbolKind :=
  [SymbolKind.function, .data, .unknown].find? fun kind => kind.name == text

/-- A named range of addresses. -/
structure Symbol where
  name : String
  address : UInt64
  size : UInt64 := 0
  kind : SymbolKind := .unknown
  deriving DecidableEq

/-- The first address past a symbol, or the last address of all when the symbol would reach past
it. -/
def Symbol.limit (symbol : Symbol) : UInt64 :=
  if symbol.address.toNat + symbol.size.toNat < UInt64.size then symbol.address + symbol.size
  else 0xFFFFFFFFFFFFFFFF

/-- An address at or above a symbol's own belongs to the symbol when it lies below its limit, or is
the symbol's own address where the symbol is a marker. -/
def Symbol.reaches (symbol : Symbol) (address : UInt64) : Bool :=
  if symbol.size > 0 then address < symbol.limit else address = symbol.address

/-- The symbols known of a process, by address and by name. -/
structure SymbolTable where
  byAddress : AddressMap Symbol := .empty
  byName : NameMap Symbol := .empty

namespace SymbolTable

/-- The table without symbols. -/
def empty : SymbolTable := {}

/-- Adds a symbol. Of several symbols at one address, or of one name, the last one counts. -/
def insert (table : SymbolTable) (symbol : Symbol) : SymbolTable where
  byAddress := table.byAddress.insert symbol.address symbol
  byName := table.byName.insert symbol.name symbol

/-- The symbol that an address belongs to. -/
def lookup (table : SymbolTable) (address : UInt64) : Option Symbol :=
  match table.byAddress.floor? address with
  | some (_, symbol) => if symbol.reaches address then some symbol else none
  | none => none

/-- The symbol of a name. -/
def findName? (table : SymbolTable) (name : String) : Option Symbol := table.byName.find? name

/-- The number of addresses that carry a symbol. -/
def size (table : SymbolTable) : Nat := table.byAddress.size

/-- A table is empty when no address carries a symbol. -/
def isEmpty (table : SymbolTable) : Bool := table.byAddress.isEmpty

/-- An address inside a symbol as the symbol's name, followed by the offset where there is one. -/
def resolve (table : SymbolTable) (address : UInt64) : Option String :=
  (table.lookup address).map fun symbol =>
    let offset := address - symbol.address
    if offset = 0 then symbol.name else symbol.name ++ "+" ++ Text.decimal offset.toNat

/-- The table of a list of symbols, added in order. -/
def ofList (symbols : List Symbol) : SymbolTable := symbols.foldl insert empty

end SymbolTable

/-- The readers of mangled names. The scheme of hashed paths is tried on every name, the Itanium
scheme only on names that carry its mark. -/
structure Demangler where
  hashed : String → Option String
  itanium : String → Option String

/-- The readable form of a name, or the name itself when no reader knows it. -/
def Demangler.readable (demangler : Demangler) (name : String) : String :=
  match demangler.hashed name with
  | some text => text
  | none =>
    if name.startsWith "_Z" then (demangler.itanium name).getD name else name

/-- What an object file says a symbol is. -/
inductive ObjectSymbolKind where
  | text
  | data
  | other
  deriving DecidableEq

/-- A symbol of an object file; its name may be unreadable. -/
structure ObjectSymbol where
  kind : ObjectSymbolKind
  name : Option String
  address : UInt64
  size : UInt64

/-- The table's entry for a symbol of an object file. Only functions and data that have a name and
an address enter the table. -/
def ObjectSymbol.entry? (demangler : Demangler) (symbol : ObjectSymbol) : Option Symbol :=
  let kind? : Option SymbolKind :=
    match symbol.kind with
    | .text => some .function
    | .data => some .data
    | .other => none
  match kind?, symbol.name with
  | some kind, some name =>
    if name.isEmpty || symbol.address = 0 then none
    else some {
      name := demangler.readable name, address := symbol.address, size := symbol.size, kind }
  | _, _ => none

/-- The table of the symbols of an object file. -/
def SymbolTable.ofObject (demangler : Demangler) (symbols : List ObjectSymbol) : SymbolTable :=
  ofList (symbols.filterMap (ObjectSymbol.entry? demangler))

end CodeWindow
