import CodeWindow.Config
import CodeWindow.Json.Record

/-! The JSON form of a configuration: every option may be left out. -/

namespace CodeWindow.Config

/-- The configuration that a JSON value describes. -/
def ofJson? (json : Json) : Option Config := do
  match ← Json.fields? ["emulate", "disasm_annotations", "emulate_annotations",
      "emulate_future_annotations", "telescope_depth", "telescope_string_length"] json with
  | [emulate, disasm, values, future, depth, stringLength] =>
    some {
      emulate := ← Json.defaulted? (Json.choice? EmulateMode.ofName?) .on emulate
      disasmAnnotations := ← Json.defaulted? Json.bool? true disasm
      emulateAnnotations := ← Json.defaulted? Json.bool? true values
      emulateFutureAnnotations := ← Json.defaulted? Json.bool? true future
      telescopeDepth := ← Json.defaulted? Json.word? 3 depth
      telescopeStringLength := ← Json.defaulted? Json.word? 50 stringLength }
  | _ => none

/-- The configuration that a text describes. -/
def parse? (text : String) : Option Config :=
  match Json.parse? text with
  | some json => ofJson? json
  | none => none

end CodeWindow.Config
