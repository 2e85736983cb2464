import CodeWindow.CommandLine.Help
import CodeWindow.Config.Json
import CodeWindow.Instruction.Line
import CodeWindow.Session
import CodeWindow.Snapshot.Json

/-! What the program does: it reads the configuration, the snapshot and the symbols that its options
name, in this order, and prints the window around the program counter. -/

namespace CodeWindow.CommandLine

/-- What surrounds a run: the texts of files, the symbols of object files, and the tools. -/
structure Surroundings where
  readText : String → Option String
  readObject : String → Option (List ObjectSymbol)
  disassembler : Disassembler
  demangler : Demangler

/-- What a run comes to: the exit code, the text printed, and the failure reported. -/
structure Outcome where
  exitCode : Nat
  output : String := ""
  failure : Option String := none
  deriving DecidableEq

/-- Why a run fails. -/
inductive Failure where
  | config (path : String)
  | snapshot (path : String)
  | symbols (path : String)
  | noInstruction
  deriving DecidableEq

/-- The wording of a failure. -/
def Failure.message : Failure → String
  | .config path => "loading config " ++ path
  | .snapshot path => "loading snapshot " ++ path
  | .symbols path => "loading symbols from " ++ path
  | .noInstruction => "no instruction at the program counter"

/-- The configuration of a run: that of the named file, or else that of the options. -/
def loadConfig (surroundings : Surroundings) (options : Options) : Except Failure Config :=
  match options.config with
  | none => .ok options.settings
  | some path =>
    match (surroundings.readText path).bind Config.parse? with
    | some config => .ok config
    | none => .error (.config path)

/-- The snapshot in a file. -/
def loadSnapshot (surroundings : Surroundings) (path : String) : Except Failure Snapshot :=
  match (surroundings.readText path).bind fun text => (Snapshot.parse text).toOption with
  | some snapshot => .ok snapshot
  | none => .error (.snapshot path)

/-- The snapshot with the symbols of an object file in place of its own, where one is named. -/
def loadSymbols (surroundings : Surroundings) (options : Options) (snapshot : Snapshot) :
    Except Failure Snapshot :=
  match options.elf with
  | none => .ok snapshot
  | some path =>
    match surroundings.readObject path with
    | some symbols =>
      .ok { snapshot with symbols := .ofObject surroundings.demangler symbols }
    | none => .error (.symbols path)

/-- The lines of the window around a snapshot's program counter. -/
def windowLines (surroundings : Surroundings) (options : Options) (config : Config)
    (snapshot : Snapshot) : Except Failure (List String) :=
  let host : Host Empty := { disassembler := surroundings.disassembler }
  let process := snapshot.process
  match ((Session.start config).window host process options.count true !options.noHistory).1 with
  | [] => .error .noInstruction
  | insns => .ok (insns.map fun insn => insn.line (process.pc == some insn.address))

/-- The lines that options ask for. -/
def printedLines (surroundings : Surroundings) (options : Options) :
    Except Failure (List String) := do
  let config ← loadConfig surroundings options
  let bare ← loadSnapshot surroundings (options.snapshot.getD "")
  let snapshot ← loadSymbols surroundings options bare
  windowLines surroundings options config snapshot

/-- What arguments come to in given surroundings. -/
def run (surroundings : Surroundings) (args : List String) : Outcome :=
  match parse args with
  | .usageError => { exitCode := 2 }
  | .help full => { exitCode := 0, output := helpText full }
  | .version => { exitCode := 0, output := versionText }
  | .run options =>
    match printedLines surroundings options with
    | .ok lines => { exitCode := 0, output := String.join (lines.map (· ++ "\n")) }
    | .error failure => { exitCode := 1, failure := some failure.message }

end CodeWindow.CommandLine
