import FieldSelect.Command.Guide
import FieldSelect.Command.Task

/-! What a run of the program leaves behind. -/
namespace FieldSelect

/-- The exit code and the two texts that are printed. -/
structure Outcome where
  code : UInt8
  output : String
  errors : String
  deriving DecidableEq

namespace Outcome

def success (output : String) : Outcome := ⟨0, output, ""⟩

def failure (message : String) : Outcome := ⟨1, "", message ++ "\n"⟩

def ofHalt : Halt → Outcome
  | .shown text => success text
  | .usage form => ⟨2, "", "Usage: " ++ form.usage ++ "\n"⟩

/-- A check without input of its own takes the text that was piped in. -/
def ofTask (piped : Option String) : Task → Outcome
  | .check options =>
    let options := { options with input := options.input <|> piped }
    match options.check with
    | .ok result => success (options.text result ++ "\n")
    | .error error => failure error.message
  | .overview => success Guide.overview
  | .topic name =>
    match Guide.topicText name with
    | .ok text => success text
    | .error error => failure error.message

def ofWords (words : List String) (piped : Option String) : Outcome :=
  match Task.ofWords words with
  | .ok task => ofTask piped task
  | .error halt => ofHalt halt

/-- Bytes that are no text end the run. -/
def ofBytes (words : List String) (piped : Option ByteArray) : Outcome :=
  match piped with
  | none => ofWords words none
  | some bytes =>
    match String.fromUTF8? bytes with
    | some text => ofWords words (some text)
    | none => failure "IO error: stream did not contain valid UTF-8"

/-- Piped text is asked for only when it can matter. -/
def readsInput (words : List String) : Bool :=
  match Task.ofWords words with
  | .ok (.check options) => options.input.isNone && !options.dry
  | _ => false

end Outcome
end FieldSelect
