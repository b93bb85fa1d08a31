import FieldSelect.Command.Check
import FieldSelect.Command.Form

/-! What a command line asks for. -/
namespace FieldSelect

inductive Task where
  | check (options : CheckOptions)
  | overview
  | topic (name : String)

/-- Why a command line asks for no task: it wants a text shown, or it is not one of the program's. -/
inductive Halt where
  | shown (text : String)
  | usage (form : Form)

namespace Task

def versionText : String := "prune 0.1.0\n"

/-- Help and version end the reading of a command line where they stand. -/
def stopAt (form : Form) : Mark → Halt
  | .help => .shown form.help
  | .version => .shown versionText
  | _ => .usage form

/-- The parts of a check read so far. -/
structure Draft where
  filter : Option String
  input : Option String
  pretty : Bool
  dry : Bool
  view : Option String
  assignments : List String

/-- Only assignments may be given more than once. -/
def addToCheck (draft : Draft) : Item Mark → Except Halt Draft
  | .operand text =>
    if draft.filter.isSome then .error (.usage .check) else .ok { draft with filter := some text }
  | .option .input value =>
    if draft.input.isSome then .error (.usage .check) else .ok { draft with input := value }
  | .option .pretty _ =>
    if draft.pretty then .error (.usage .check) else .ok { draft with pretty := true }
  | .option .dry _ =>
    if draft.dry then .error (.usage .check) else .ok { draft with dry := true }
  | .option .view value =>
    if draft.view.isSome then .error (.usage .check) else .ok { draft with view := value }
  | .option .assignment value => .ok { draft with assignments := draft.assignments ++ value.toList }
  | .option mark _ => .error (stopAt .check mark)
  | .invalid => .error (.usage .check)

def readCheck (words : List String) : Except Halt Task := do
  let items := Item.ofWords Form.check.flags none words
  let draft ← items.foldlM addToCheck ⟨none, none, false, false, none, []⟩
  let some filter := draft.filter | throw (.usage .check)
  return .check ⟨filter, draft.input, draft.pretty, draft.dry, draft.view, draft.assignments⟩

/-- The operands of a command that has no options of its own. -/
def readOperands (form : Form) (words : List String) : Except Halt (List String) :=
  (Item.ofWords form.flags none words).foldlM (fun operands item =>
    match item with
    | .operand text =>
      if operands.length < form.operands.length then .ok (operands ++ [text]) else .error (.usage form)
    | .option mark _ => .error (stopAt form mark)
    | .invalid => .error (.usage form)) []

def readOverview (words : List String) : Except Halt Task :=
  (readOperands .overview words).map fun _ => .overview

def readTopic (words : List String) : Except Halt Task := do
  match ← readOperands .topic words with
  | [name] => return .topic name
  | _ => throw (.usage .topic)

/-- Help is for the program, or for the one command that is named. -/
def readExplain : List String → Halt
  | [] => .shown Form.top.help
  | [name] =>
    match Form.command? name with
    | some form => .shown form.help
    | none => .usage .top
  | name :: _ =>
    match Form.command? name with
    | some form => .usage form
    | none => .usage .top

/-- A command line without a command can still ask for help or for the version. -/
def readTop (words : List String) : Halt :=
  match Item.ofWords Form.top.flags none words with
  | .option mark _ :: _ => stopAt .top mark
  | _ => .usage .top

def ofWords : List String → Except Halt Task
  | "check" :: words => readCheck words
  | "docs" :: words => readOverview words
  | "doc" :: words => readTopic words
  | "help" :: words => .error (readExplain words)
  | words => .error (readTop words)

end Task
end FieldSelect
