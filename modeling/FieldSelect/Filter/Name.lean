import FieldSelect.Regex.Reader
import FieldSelect.Text.Letter
import FieldSelect.Text.Pieces
import FieldSelect.Value.Document

/-! The name patterns of a filter, and how closely each of them fits a field name. -/
namespace FieldSelect

/-- A glob or regular expression with its text and the number of characters it names outright. -/
structure Pattern where
  raw : String
  regex : Regex
  literals : Nat

inductive Name where
  | exact (name : String)
  | anyShallow
  | anyDeep
  | variable (name : String)
  | pattern (pattern : Pattern)

namespace Name

/-! ### Scores, from the closest fit to the loosest -/

def exactScore : Nat := Nat.pow 2 31 - 1

def patternBase : Nat := 3

def shallowScore : Nat := 2

def deepScore : Nat := 1

/-- A regular expression that has to match whole names; the flag is put in front of the pattern. -/
def regex? (pattern : String) (ignoresCase : Bool) : Except Regex.Fault Name :=
  let flag := if ignoresCase then "(?i)" else ""
  let mark := if ignoresCase then "~i" else "~"
  (Regex.read ("^" ++ flag ++ "(?:" ++ pattern ++ ")$")).map fun regex =>
    .pattern ⟨"~" ++ pattern ++ mark, regex, (pattern.toList.filter isAlphanumeric).length⟩

/-- The regular expression of a glob: a star stands for any run of characters within a line. -/
def globText (glob : String) : String :=
  let parts := (pieces ['*'] glob.toList).map Regex.escape
  "^" ++ String.ofList (joinPieces ['.', '*'] parts) ++ "$"

def glob? (glob : String) : Except Regex.Fault Name :=
  (Regex.read (globText glob)).map fun regex =>
    .pattern ⟨glob, regex, (glob.toList.filter (· != '*')).length⟩

/-- The text that stands for the name in messages and comparisons. -/
def raw : Name → String
  | .exact name => name
  | .anyShallow => "*"
  | .anyDeep => "**"
  | .variable name => name
  | .pattern p => p.raw

/-- Patterns are compared by their text. -/
def same : Name → Name → Bool
  | .exact a, .exact b => a == b
  | .anyShallow, .anyShallow => true
  | .anyDeep, .anyDeep => true
  | .variable a, .variable b => a == b
  | .pattern a, .pattern b => a.raw == b.raw
  | _, _ => false

instance : BEq Name := ⟨same⟩

/-- More characters named outright count for more, but never as much as an exact name. -/
def patternScore (literals : Nat) : Nat := min (patternBase + literals) (exactScore - 1)

/-- How closely a field name fits, if it does. A variable without a binding fits every name. -/
def score? (name : Name) (candidate : String) (bindings : Option Bindings) : Option Nat :=
  match name with
  | .exact wanted => if wanted = candidate then some exactScore else none
  | .anyShallow => some shallowScore
  | .anyDeep => some deepScore
  | .variable wanted =>
    match bindings.bind (Entries.find? wanted) with
    | some bound => if bound.plainText = candidate then some exactScore else none
    | none => some shallowScore
  | .pattern p => if p.regex.isMatch candidate then some (patternScore p.literals) else none

def isAnyDeep : Name → Bool
  | .anyDeep => true
  | _ => false

def isAnyShallow : Name → Bool
  | .anyShallow => true
  | _ => false

def isVariable : Name → Bool
  | .variable _ => true
  | _ => false

theorem isSome_score?_pattern {pattern : Pattern} {candidate : String} {bindings : Option Bindings} :
    ((Name.pattern pattern).score? candidate bindings).isSome ↔ pattern.regex.isMatch candidate = true := by
  rw [score?]
  split
  next fits => exact iff_of_true rfl fits
  next fails => exact iff_of_false nofun fails

theorem patternScore_lt_exactScore (literals : Nat) : patternScore literals < exactScore := by
  have : exactScore = 2147483647 := rfl
  simp only [patternScore]
  omega

theorem shallowScore_lt_patternScore (literals : Nat) : shallowScore < patternScore literals := by
  have : exactScore = 2147483647 := rfl
  simp only [patternScore, patternBase, shallowScore]
  omega

end Name
end FieldSelect
