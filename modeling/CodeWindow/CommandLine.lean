import CodeWindow.Config
import CodeWindow.Text.Numeral

/-! The command line. Options have long names, and some have a letter; letters can be put together
behind one dash, and a value can follow its option directly, after an equals sign, or as the next
argument unless that starts with a dash. No option may be given twice, and nothing but options may
be given. The arguments are read in order, so a fault before a request for help is still a fault. -/

namespace CodeWindow.CommandLine

/-- The options. -/
inductive Item where
  | snapshot
  | elf
  | config
  | count
  | noHistory
  | debug
  | trace
  | emulate
  | noDisasmAnnotations
  | noEmulateAnnotations
  | noEmulateFutureAnnotations
  | telescopeDepth
  | telescopeStringLength
  | help
  | version
  deriving DecidableEq

namespace Item

/-- All options. -/
def all : List Item :=
  [snapshot, elf, config, count, noHistory, debug, trace, emulate, noDisasmAnnotations,
    noEmulateAnnotations, noEmulateFutureAnnotations, telescopeDepth, telescopeStringLength, help,
    version]

/-- The long name of an option. -/
def long : Item → String
  | snapshot => "snapshot"
  | elf => "elf"
  | config => "config"
  | count => "count"
  | noHistory => "no-history"
  | debug => "debug"
  | trace => "trace"
  | emulate => "emulate"
  | noDisasmAnnotations => "no-disasm-annotations"
  | noEmulateAnnotations => "no-emulate-annotations"
  | noEmulateFutureAnnotations => "no-emulate-future-annotations"
  | telescopeDepth => "telescope-depth"
  | telescopeStringLength => "telescope-string-length"
  | help => "help"
  | version => "version"

/-- The letter of an option, if it has one. -/
def letter? : Item → Option Char
  | snapshot => some 's'
  | elf => some 'e'
  | config => some 'c'
  | count => some 'n'
  | debug => some 'd'
  | help => some 'h'
  | version => some 'V'
  | _ => none

/-- The option takes a value. -/
def takesValue : Item → Bool
  | snapshot | elf | config | count | emulate | telescopeDepth | telescopeStringLength => true
  | _ => false

/-- The option with a long name. -/
def ofLong? (name : String) : Option Item := all.find? fun item => item.long == name

/-- The option with a letter. -/
def ofLetter? (c : Char) : Option Item := all.find? fun item => item.letter? == some c

end Item

/-- What the options ask for. -/
structure Options where
  snapshot : Option String := none
  elf : Option String := none
  config : Option String := none
  count : Nat := 5
  noHistory : Bool := false
  /-- The configuration that holds when no configuration file is named. -/
  settings : Config := {}

/-- What a command line comes to. -/
inductive Request where
  | run (options : Options)
  /-- A request for help, by the long name for the full text. -/
  | help (full : Bool)
  | version
  | usageError

/-- The options read so far, and which of them were given. -/
structure Progress where
  options : Options := {}
  given : List Item := []

/-- The path that a value denotes; it may not be empty. -/
def path? (value : String) : Option String := if value.isEmpty then none else some value

/-- The number that a value denotes. -/
def number? (value : String) : Option Nat := Text.natural? UInt64.size value

/-- The options with a value put in. -/
def Options.setValue? (options : Options) (item : Item) (value : String) : Option Options :=
  match item with
  | .snapshot => (path? value).map fun path => { options with snapshot := some path }
  | .elf => (path? value).map fun path => { options with elf := some path }
  | .config => (path? value).map fun path => { options with config := some path }
  | .count => (number? value).map fun count => { options with count }
  | .emulate =>
    (EmulateMode.ofName? value).map fun mode =>
      { options with settings := { options.settings with emulate := mode } }
  | .telescopeDepth =>
    (number? value).map fun depth =>
      { options with settings := { options.settings with telescopeDepth := depth } }
  | .telescopeStringLength =>
    (number? value).map fun length =>
      { options with settings := { options.settings with telescopeStringLength := length } }
  | _ => none

/-- The options with a switch turned. -/
def Options.turn (options : Options) (item : Item) : Options :=
  match item with
  | .noHistory => { options with noHistory := true }
  | .noDisasmAnnotations =>
    { options with settings := { options.settings with disasmAnnotations := false } }
  | .noEmulateAnnotations =>
    { options with settings := { options.settings with emulateAnnotations := false } }
  | .noEmulateFutureAnnotations =>
    { options with settings := { options.settings with emulateFutureAnnotations := false } }
  | _ => options

/-- Takes an option with its value. -/
def Progress.value (progress : Progress) (item : Item) (value : String) :
    Except Request Progress :=
  if progress.given.contains item then .error .usageError
  else
    match progress.options.setValue? item value with
    | some options => .ok { options, given := item :: progress.given }
    | none => .error .usageError

/-- Takes an option without a value, given by its long name or by its letter. -/
def Progress.switch (progress : Progress) (item : Item) (byLongName : Bool) :
    Except Request Progress :=
  match item with
  | .help => .error (.help byLongName)
  | .version => .error .version
  | _ =>
    if progress.given.contains item then .error .usageError
    else .ok { options := progress.options.turn item, given := item :: progress.given }

/-- A letter's value written right behind it, possibly after an equals sign. -/
def attachedValue : List Char → String
  | '=' :: value => String.ofList value
  | value => String.ofList value

/-- Takes letters that stand behind one dash. The last one may leave its value to the next
argument. -/
def letters (progress : Progress) : List Char → Except Request (Progress × Option Item)
  | [] => .ok (progress, none)
  | c :: rest =>
    match Item.ofLetter? c with
    | none => .error .usageError
    | some item =>
      if item.takesValue then
        if rest.isEmpty then .ok (progress, some item)
        else
          match progress.value item (attachedValue rest) with
          | .ok progress => .ok (progress, none)
          | .error request => .error request
      else
        match progress.switch item false with
        | .ok progress => letters progress rest
        | .error request => .error request

/-- Takes a long option, which may carry its value after an equals sign. -/
def longOption (progress : Progress) (text : List Char) :
    Except Request (Progress × Option Item) :=
  let name := String.ofList (text.takeWhile fun c => c != '=')
  match Item.ofLong? name, text.dropWhile fun c => c != '=' with
  | none, _ => .error .usageError
  | some item, [] =>
    if item.takesValue then .ok (progress, some item)
    else (progress.switch item true).map fun progress => (progress, none)
  | some item, _ :: value =>
    if item.takesValue then
      (progress.value item (String.ofList value)).map fun progress => (progress, none)
    else .error .usageError

/-- Takes an argument that is no value of the one before it. -/
def argument (progress : Progress) (text : String) : Except Request (Progress × Option Item) :=
  match text.toList with
  | '-' :: '-' :: name => longOption progress name
  | '-' :: c :: rest => letters progress (c :: rest)
  | _ => .error .usageError

/-- An argument can be the value of the option before it unless it starts with a dash; a dash alone
is a value. -/
def isValue (text : String) : Bool :=
  match text.toList with
  | '-' :: _ :: _ => false
  | _ => true

/-- Takes all arguments; `waiting` is the option whose value comes next. -/
def arguments : Progress → Option Item → List String → Except Request Progress
  | progress, none, [] => .ok progress
  | _, some _, [] => .error .usageError
  | progress, some item, text :: rest =>
    if isValue text then
      match progress.value item text with
      | .ok progress => arguments progress none rest
      | .error request => .error request
    else .error .usageError
  | progress, none, text :: rest =>
    if text == "--" then if rest.isEmpty then .ok progress else .error .usageError
    else
      match argument progress text with
      | .ok (progress, waiting) => arguments progress waiting rest
      | .error request => .error request

/-- What arguments ask for. A snapshot must be named. -/
def parse (args : List String) : Request :=
  match arguments {} none args with
  | .ok progress =>
    if progress.options.snapshot.isSome then .run progress.options else .usageError
  | .error request => request

end CodeWindow.CommandLine
