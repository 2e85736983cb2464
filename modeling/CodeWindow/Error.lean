import CodeWindow.Machine
import CodeWindow.Text.Numeral
import CodeWindow.Text.Quoted

/-! The causes of failure and their wording. -/

namespace CodeWindow

/-- The hexadecimal numeral of an address. -/
def hexAddress (address : UInt64) : String := Text.hex address.toNat

/-- Why bytes are no instruction. -/
inductive DecodeError where
  | engine (reason : String)
  | invalid (address : UInt64)
  | unsupported (arch : Architecture)
  deriving DecidableEq

/-- Why memory cannot be read. -/
inductive MemoryError where
  | unmapped (address : UInt64) (length : Nat)
  deriving DecidableEq

/-- Why an emulator stops or cannot start. -/
inductive EmulationError where
  | stepFailed (address : UInt64)
  | diverged (expected actual : UInt64)
  | unsupported (arch : Architecture)
  deriving DecidableEq

/-- Why the host lacks what an emulator needs. -/
inductive ResourceError where
  | scratchMapping (reason : String)
  deriving DecidableEq

/-- Why a text is no snapshot: it is not of the form, or one of its values does not read. -/
inductive SnapshotError where
  | malformed (reason : String)
  | badNumber (text : List Char) (cause : Text.NumeralError)
  | oddHexDigits
  | badHexByte (text : List Char)
  | badPermissions (text : List Char)
  deriving DecidableEq

/-- Every cause of failure of an operation. -/
inductive Error where
  | decode (cause : DecodeError)
  | memory (cause : MemoryError)
  | emulation (cause : EmulationError)
  | resource (cause : ResourceError)
  | config (reason : String)
  | snapshot (cause : SnapshotError)
  | object (reason : String)
  | file (reason : String)
  deriving DecidableEq

/-- The wording of a decoding error. -/
def DecodeError.message : DecodeError → String
  | .engine reason => "capstone: " ++ reason
  | .invalid address => "no valid instruction at " ++ hexAddress address
  | .unsupported arch => "no decoder for " ++ arch.title

/-- The wording of a memory error. -/
def MemoryError.message : MemoryError → String
  | .unmapped address length =>
    "cannot access " ++ Text.decimal length ++ " bytes at " ++ hexAddress address

/-- The wording of an emulation error. -/
def EmulationError.message : EmulationError → String
  | .stepFailed address => "emulator failed to step at " ++ hexAddress address
  | .diverged expected actual =>
    "emulator diverged: expected pc " ++ hexAddress expected ++ ", found " ++ hexAddress actual
  | .unsupported arch => "no emulator for " ++ arch.title

/-- The wording of a resource error. -/
def ResourceError.message : ResourceError → String
  | .scratchMapping reason => "cannot map emulator scratch region: " ++ reason

/-- The wording of a snapshot's fault. -/
def SnapshotError.message : SnapshotError → String
  | .malformed reason => reason
  | .badNumber text cause => "bad number " ++ Text.quoted text ++ ": " ++ cause.message
  | .oddHexDigits => "odd number of hex digits in region data"
  | .badHexByte text => "bad hex byte " ++ Text.quoted text
  | .badPermissions text => "bad permissions " ++ Text.quoted text

/-- The wording of an error. -/
def Error.message : Error → String
  | .decode cause => cause.message
  | .memory cause => cause.message
  | .emulation cause => cause.message
  | .resource cause => cause.message
  | .config reason => "invalid config: " ++ reason
  | .snapshot cause => "invalid snapshot: " ++ cause.message
  | .object reason => "cannot parse object file: " ++ reason
  | .file reason => reason

end CodeWindow
