import CodeWindow.CommandLine
import CodeWindow.Text.Affix

/-! The texts that explain the program: its version, and its options, either in short or in full. In
the full text the options stand apart from each other, and the modes of emulation are explained one
by one. -/

namespace CodeWindow.CommandLine

/-- The name of the program. -/
def programName : String := "insn-enhance"

/-- The text that names the program and its version. -/
def versionText : String := programName ++ " 0.1.0\n"

namespace Item

/-- What an option is for. -/
def purpose (full : Bool) : Item → String
  | snapshot => "JSON snapshot of the stopped process"
  | elf => "Take symbols from this ELF instead of the snapshot"
  | config => "JSON config file; command line flags are ignored when given"
  | count => "Instructions shown before and after the program counter"
  | noHistory => "Don't show previously executed instructions"
  | debug => "Enable debug output"
  | trace => "Log every enhanced instruction (implies --debug)"
  | emulate => "Emulation of code from the program counter"
  | noDisasmAnnotations => "Don't annotate instructions with operand values and results"
  | noEmulateAnnotations => "Don't use the emulator for register and memory values"
  | noEmulateFutureAnnotations =>
    "Only use emulated values for the instruction at the program counter"
  | telescopeDepth => "Depth of pointer chains shown in annotations"
  | telescopeStringLength => "Characters of a string shown at the end of a pointer chain"
  | help =>
    if full then "Print help (see a summary with '-h')" else "Print help (see more with '--help')"
  | version => "Print version"

/-- The value that an option has when it is not given. -/
def defaultText? : Item → Option String
  | count => some (Text.decimal ({} : Options).count)
  | emulate => some ({} : Config).emulate.name
  | telescopeDepth => some (Text.decimal ({} : Config).telescopeDepth)
  | telescopeStringLength => some (Text.decimal ({} : Config).telescopeStringLength)
  | _ => none

/-- The placeholder of an option's value: its long name in capitals. -/
def placeholder (item : Item) : String :=
  String.ofList (item.long.toList.map fun c => if c == '-' then '_' else c.toUpper)

/-- How an option is written. -/
def form (item : Item) : String :=
  let letter : String :=
    match item.letter? with
    | some c => "  -" ++ String.singleton c ++ ", "
    | none => "      "
  letter ++ "--" ++ item.long ++ if item.takesValue then " <" ++ item.placeholder ++ ">" else ""

end Item

/-- What a mode of emulation is for. -/
def modePurpose? : EmulateMode → Option String
  | .on => some "Emulate for operand values and branch prediction"
  | .jumpsOnly => some "Only step the emulator to predict where branches go"
  | .off => none

/-- The indentation of explanations. -/
def indentation : String := "          "

/-- A mode of emulation in the full text. -/
def modeLine (mode : EmulateMode) : String :=
  match modePurpose? mode with
  | some purpose => indentation ++ "- " ++ Text.padEnd 12 (mode.name ++ ":") ++ purpose ++ "\n"
  | none => indentation ++ "- " ++ mode.name ++ "\n"

/-- An option in the short text: its default and its choices follow its purpose. -/
def shortEntry (item : Item) : String :=
  let default : String :=
    match item.defaultText? with
    | some text => " [default: " ++ text ++ "]"
    | none => ""
  let choices : String :=
    if item = .emulate then
      " [possible values: " ++ ", ".intercalate (EmulateMode.all.map EmulateMode.name) ++ "]"
    else ""
  item.form ++ "\n" ++ indentation ++ item.purpose false ++ default ++ choices ++ "\n"

/-- An option in the full text: its choices and its default stand in paragraphs of their own. -/
def fullEntry (item : Item) : String :=
  let choices : String :=
    if item = .emulate then
      "\n" ++ indentation ++ "Possible values:\n" ++ String.join (EmulateMode.all.map modeLine)
    else ""
  let default : String :=
    match item.defaultText? with
    | some text => indentation ++ "\n" ++ indentation ++ "[default: " ++ text ++ "]\n"
    | none => ""
  item.form ++ "\n" ++ indentation ++ item.purpose true ++ "\n" ++ choices ++ default

/-- The text that explains the program, with its options in short or in full. -/
def helpText (full : Bool) : String :=
  let options : String :=
    if full then "\n".intercalate (Item.all.map fullEntry)
    else String.join (Item.all.map shortEntry)
  "Print the annotated instruction window around the program counter of a process snapshot\n\n" ++
    "Usage: " ++ programName ++ " [OPTIONS] --snapshot <SNAPSHOT>\n\nOptions:\n" ++ options

end CodeWindow.CommandLine
