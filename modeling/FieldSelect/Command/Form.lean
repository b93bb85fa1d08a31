import FieldSelect.Command.Words

/-! The forms of the commands, and the help that shows them. -/
namespace FieldSelect

inductive Mark where
  | input
  | pretty
  | dry
  | view
  | assignment
  | help
  | version
  deriving DecidableEq

/-- Operands come with the way they are shown in the usage. -/
structure Form where
  name : String
  about : String
  operands : List (String × String)
  commands : List (String × String)
  flags : List (Flag Mark)

namespace Form

def helpFlag : Flag Mark := ⟨.help, some 'h', "help", none, "Print help"⟩

def versionFlag : Flag Mark := ⟨.version, some 'V', "version", none, "Print version"⟩

/-! ### Help -/

/-- The parts of a usage line; help and version are left out of it. -/
def usage (form : Form) : String :=
  let optional := form.flags.any fun flag => flag.mark ≠ .help ∧ flag.mark ≠ .version
  " ".intercalate <|
    [form.name] ++ (if optional then ["[OPTIONS]"] else []) ++ form.operands.map (·.1) ++
      (if form.commands.isEmpty then [] else ["<COMMAND>"])

/-- Long names stand below each other whether or not a letter stands in front. -/
def label (flag : Flag Mark) : String :=
  (match flag.short with
    | some c => "-" ++ c.toString ++ ", "
    | none => "    ") ++
    "--" ++ flag.long ++
    match flag.valueName with
    | some name => " <" ++ name ++ ">"
    | none => ""

/-- Texts behind the labels begin in one column. -/
def listing (title : String) (rows : List (String × String)) : List String :=
  if rows.isEmpty then []
  else
    let width := rows.foldl (fun width row => max width row.1.length) 0
    let line (row : String × String) : String :=
      "  " ++ row.1 ++ String.ofList (List.replicate (width - row.1.length + 2) ' ') ++ row.2 ++ "\n"
    [title ++ ":\n" ++ String.join (rows.map line)]

def help (form : Form) : String :=
  "\n".intercalate <|
    [form.about ++ "\n", "Usage: " ++ form.usage ++ "\n"] ++ listing "Commands" form.commands ++
      listing "Arguments" form.operands ++
      listing "Options" (form.flags.map fun flag => (label flag, flag.about))

/-! ### The commands -/

def check : Form where
  name := "prune check"
  about := "Validate a filter and project JSON through it"
  operands := [("<FILTER>", "The filter, e.g. 'id,owner\x7bemail\x7d'")]
  commands := []
  flags :=
    [ ⟨.input, some 'i', "input", some "INPUT", "JSON input (reads from stdin if not provided)"⟩,
      ⟨.pretty, some 'p', "pretty", none, "Pretty-print the output"⟩,
      ⟨.dry, none, "syntax-only", none, "Only validate syntax, don't project"⟩,
      ⟨.view, none, "view", some "VIEW", "View used for typed records"⟩,
      ⟨.assignment, none, "var", some "NAME=VALUE", "Variable binding for @name references (repeatable)"⟩,
      helpFlag ]

def overview : Form where
  name := "prune docs"
  about := "List documentation categories"
  operands := []
  commands := []
  flags := [helpFlag]

def topic : Form where
  name := "prune doc"
  about := "Show documentation for a specific category"
  operands := [("<CATEGORY>", "Category name (use 'prune docs' to list categories)")]
  commands := []
  flags := [helpFlag]

def explain : Form where
  name := "prune help"
  about := "Print this message or the help of the given subcommand(s)"
  operands := [("[COMMAND]...", "Print help for the subcommand(s)")]
  commands := []
  flags := []

def top : Form where
  name := "prune"
  about := "Prune - A field-selection language for projecting JSON documents"
  operands := []
  commands :=
    [("check", check.about), ("docs", overview.about), ("doc", topic.about), ("help", explain.about)]
  flags := [helpFlag, versionFlag]

/-- The form of the command with a given name. -/
def command? : String → Option Form
  | "check" => some check
  | "docs" => some overview
  | "doc" => some topic
  | "help" => some explain
  | _ => none

end Form
end FieldSelect
