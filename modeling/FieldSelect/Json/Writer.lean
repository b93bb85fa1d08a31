import FieldSelect.Json.Basic
import FieldSelect.Decimal.Notation

/-! The text of a document, on one line or indented. -/
namespace FieldSelect
namespace Json

def hexDigit (n : Nat) : Char := (Nat.toDigits 16 n).headD '0'

/-- Quotes, backslashes and control characters are escaped; all else stands for itself. -/
def escapeChar (c : Char) : List Char :=
  match c with
  | '"' => ['\\', '"']
  | '\\' => ['\\', '\\']
  | '\n' => ['\\', 'n']
  | '\r' => ['\\', 'r']
  | '\t' => ['\\', 't']
  | '\x08' => ['\\', 'b']
  | '\x0c' => ['\\', 'f']
  | c =>
    if c.toNat < 32 then ['\\', 'u', '0', '0', hexDigit (c.toNat / 16), hexDigit (c.toNat % 16)]
    else [c]

def quote (chars : String) : String :=
  "\"" ++ String.ofList (chars.toList.flatMap escapeChar) ++ "\""

def scalarText : Json → String
  | .null => "null"
  | .boolean truth => if truth then "true" else "false"
  | .integer n => toString n
  | .float x => (FloatLayout.document.write? x).getD "null"
  | .string chars => quote chars
  | .array _ => "[]"
  | .object _ => "\x7b\x7d"

mutual

/-- No space stands between the parts. -/
def compact : Json → String
  | .array items => "[" ++ ",".intercalate (compactItems items) ++ "]"
  | .object entries => "\x7b" ++ ",".intercalate (compactEntries entries) ++ "\x7d"
  | scalar => scalarText scalar

def compactItems : List Json → List String
  | [] => []
  | item :: rest => item.compact :: compactItems rest

def compactEntries : List (String × Json) → List String
  | [] => []
  | (key, value) :: rest => (quote key ++ ":" ++ value.compact) :: compactEntries rest

end

def indent (level : Nat) : String := String.ofList (List.replicate (2 * level) ' ')

/-- Parts stand on lines of their own, one level in; without parts the brackets touch. -/
def block (opening closing : String) (level : Nat) (parts : List String) : String :=
  if parts.isEmpty then opening ++ closing
  else
    opening ++ "\n" ++ ",\n".intercalate (parts.map (indent (level + 1) ++ ·)) ++ "\n" ++ indent level ++
      closing

mutual

def prettyAt (level : Nat) : Json → String
  | .array items => block "[" "]" level (prettyItems (level + 1) items)
  | .object entries => block "\x7b" "\x7d" level (prettyEntries (level + 1) entries)
  | scalar => scalarText scalar

def prettyItems (level : Nat) : List Json → List String
  | [] => []
  | item :: rest => prettyAt level item :: prettyItems level rest

def prettyEntries (level : Nat) : List (String × Json) → List String
  | [] => []
  | (key, value) :: rest => (quote key ++ ": " ++ prettyAt level value) :: prettyEntries level rest

end

/-- Two spaces a level. -/
def pretty (document : Json) : String := prettyAt 0 document

end Json
end FieldSelect
