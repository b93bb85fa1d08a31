import FieldSelect.Engine
import FieldSelect.Json.Reader

/-! A filter applied to one JSON document, or only read. -/
namespace FieldSelect

structure CheckOptions where
  filter : String
  input : Option String
  pretty : Bool
  /-- The filter is only read. -/
  dry : Bool
  view : Option String
  /-- Variables as `name=value`. -/
  assignments : List String

inductive CheckError where
  | parse (error : ParseError)
  | projection (error : ProjectionError)
  | build (error : BuildError)
  | json (error : Json.ReadError)
  | invalidAssignment (text : String)
  | noInput

def CheckError.message : CheckError → String
  | .parse error => "Parse error: " ++ error.message
  | .projection error => "Evaluation error: " ++ error.message
  | .build error => "Engine error: " ++ error.message
  | .json error => "Invalid JSON: " ++ error.message
  | .invalidAssignment text => "Invalid variable '" ++ text ++ "' (expected name=value)"
  | .noInput => "No input provided. Use --input or pipe JSON to stdin."

inductive CheckResult where
  | readable
  | document (json : Json)

namespace CheckOptions

/-- The name ends at the first equals sign. The value is JSON if it can be read as such, and a string if not. -/
def readAssignment (text : String) : Except CheckError (String × Value) :=
  match splitOnce? '=' text.toList with
  | none => .error (.invalidAssignment text)
  | some (before, after) =>
    let name := trimBlank before
    if name.isEmpty then .error (.invalidAssignment text)
    else
      let raw := String.ofList after
      let value :=
        match Json.read raw with
        | .ok json => Value.ofJson json
        | .error _ => .string raw
      .ok (String.ofList name, value)

/-- The request with all assignments, the later ones over the earlier. -/
def request (options : CheckOptions) : Except CheckError Request :=
  options.assignments.foldlM (fun request text => do
    let (name, value) ← readAssignment text
    return request.setVariable name value) Request.empty

def settings (options : CheckOptions) : Settings :=
  { Settings.standard with defaultView := options.view.getD Settings.standard.defaultView }

/-- Assignments are read before the document, and the document before the filter. -/
def project (options : CheckOptions) : Except CheckError Json := do
  let request ← options.request
  let some input := options.input | throw .noInput
  let json ← (Json.read input).mapError .json
  let engine ← (Blueprint.ofSettings options.settings).build.mapError .build
  let (tree, engine) := engine.compile options.filter
  let tree ← tree.mapError .parse
  let (value, _) := engine.projectIn tree engine.settings.defaultView request (Value.ofJson json)
  let value ← value.mapError .projection
  return value.toJson

def check (options : CheckOptions) : Except CheckError CheckResult :=
  if options.dry then (compile options.filter).map (fun _ => .readable) |>.mapError .parse
  else options.project.map .document

/-- What is printed for a result, without the end of its line. -/
def text (options : CheckOptions) : CheckResult → String
  | .readable => "Syntax is valid"
  | .document json => if options.pretty then json.pretty else json.compact

end CheckOptions
end FieldSelect
