import CodeWindow.Machine.Json
import CodeWindow.Snapshot
import CodeWindow.Snapshot.Values

/-! The JSON form of a snapshot. The text is first read as a form of texts and numbers; then the
numbers, bytes and permissions in the form are read in a fixed order: the registers by name, the
regions with permissions, start and data, and the symbols. -/

namespace CodeWindow.Snapshot

/-- A region as it is written. -/
structure RegionForm where
  start : WrittenNumber
  data : String
  permissions : String
  objfile : String

/-- A symbol as it is written. -/
structure SymbolForm where
  name : String
  address : WrittenNumber
  size : Nat
  kind : SymbolKind

/-- A snapshot as it is written. -/
structure Form where
  machine : Machine
  registers : List (String × WrittenNumber)
  regions : List RegionForm
  symbols : List SymbolForm

namespace Form

/-- A written number. -/
def number? : Json → Option WrittenNumber
  | .number natural => (Json.word? (.number natural)).map .word
  | .string text => text.map .numeral
  | _ => none

/-- The registers of an object, by name; of several values for one name the last one counts. -/
def registers? : Json → Option (List (String × WrittenNumber))
  | .object members => do
    let bindings ← (← Json.namedMembers? members).mapM fun member =>
      (number? member.2).map fun value => (member.1, value)
    let map : NameMap WrittenNumber := bindings.foldl (fun map b => map.insert b.1 b.2) .empty
    some map.sorted
  | _ => none

/-- A region form. -/
def region? (json : Json) : Option RegionForm := do
  match ← Json.fields? ["start", "data", "perms", "objfile"] json with
  | [start, data, permissions, objfile] =>
    some {
      start := ← Json.required? number? start
      data := ← Json.required? Json.text? data
      permissions := ← Json.defaulted? Json.text? "rw-" permissions
      objfile := ← Json.defaulted? Json.text? "" objfile }
  | _ => none

/-- A symbol form. -/
def symbol? (json : Json) : Option SymbolForm := do
  match ← Json.fields? ["name", "address", "size", "kind"] json with
  | [name, address, size, kind] =>
    some {
      name := ← Json.required? Json.text? name
      address := ← Json.required? number? address
      size := ← Json.defaulted? Json.word? 0 size
      kind := ← Json.defaulted? (Json.choice? SymbolKind.ofName?) .unknown kind }
  | _ => none

/-- The form that a JSON value has. -/
def ofJson? (json : Json) : Option Form := do
  match ← Json.fields? ["arch", "registers", "regions", "symbols"] json with
  | [machine, registers, regions, symbols] =>
    some {
      machine := ← Json.required? Machine.ofJson? machine
      registers := ← Json.defaulted? registers? [] registers
      regions := ← Json.defaulted? (Json.list? region?) [] regions
      symbols := ← Json.defaulted? (Json.list? symbol?) [] symbols }
  | _ => none

end Form

/-- The region that a form describes. -/
def RegionForm.region (form : RegionForm) : Except SnapshotError Region := do
  let permissions ← readPermissions form.permissions
  let start ← form.start.value
  let data ← readHexBytes form.data
  pure {
    start, data, readable := permissions.readable, writable := permissions.writable,
    executable := permissions.executable, objfile := form.objfile }

/-- The symbol that a form describes. -/
def SymbolForm.symbol (form : SymbolForm) : Except SnapshotError Symbol := do
  let address ← form.address.value
  pure { name := form.name, address, size := UInt64.ofNat form.size, kind := form.kind }

/-- The snapshot that a form describes. -/
def Form.snapshot (form : Form) : Except SnapshotError Snapshot := do
  let bare : Snapshot := { machine := form.machine }
  let withRegisters ← form.registers.foldlM (fun snapshot binding => do
    pure (snapshot.setRegister binding.1 (← binding.2.value))) bare
  let withRegions ← form.regions.foldlM (fun snapshot region => do
    pure (snapshot.mapRegion (← region.region))) withRegisters
  form.symbols.foldlM (fun snapshot symbol => do
    pure (snapshot.addSymbol (← symbol.symbol))) withRegions

/-- The snapshot that a JSON value describes. -/
def ofJson (json : Json) : Except SnapshotError Snapshot :=
  match Form.ofJson? json with
  | some form => form.snapshot
  | none => .error (.malformed "the text does not have the form of a snapshot")

/-- The snapshot that a text describes. -/
def parse (text : String) : Except SnapshotError Snapshot :=
  match Json.parse? text with
  | some json => ofJson json
  | none => .error (.malformed "the text is not JSON")

end CodeWindow.Snapshot
