import FieldSelect.Decimal.Reading
import FieldSelect.Filter.Token
import FieldSelect.Text.Blank
import FieldSelect.Text.Letter

/-! Filter text as tokens. A scanner can go on after an error, from where the error left it. -/
namespace FieldSelect

/-- Why no token could be read. -/
inductive LexFault where
  | unexpectedCharacter (c : Char)
  | unterminatedString
  | unterminatedRegex
  | invalidEscape (c : Char)
  | invalidNumber (digits : String)
  | emptyVariable
  deriving DecidableEq

structure LexError where
  fault : LexFault
  position : Position
  deriving DecidableEq

def LexFault.message : LexFault → String
  | .unexpectedCharacter c => "Unexpected character '" ++ c.toString ++ "' at "
  | .unterminatedString => "Unterminated string starting at "
  | .unterminatedRegex => "Unterminated regex starting at "
  | .invalidEscape c => "Invalid escape sequence '\\" ++ c.toString ++ "' at "
  | .invalidNumber digits => "Invalid number '" ++ digits ++ "' at "
  | .emptyVariable => "Expected variable name after '@' at "

def LexError.message (error : LexError) : String := error.fault.message ++ error.position.describe

/-! ### Words -/

/-- Names start with a letter, `_`, `$` or `*`. -/
def isNameStart (c : Char) : Bool := isAlphabetic c || c == '_' || c == '$' || c == '*'

/-- Names go on with letters, numbers, `_`, `$`, `-` and `*`. -/
def isNameChar (c : Char) : Bool := isAlphanumeric c || c == '_' || c == '$' || c == '-' || c == '*'

/-- A run of name characters is a wildcard, a glob when it holds a star among others, or an identifier. -/
def Token.ofWord (word : List Char) : Token :=
  if word == ['*'] then .star
  else if word == ['*', '*'] then .doubleStar
  else if word.contains '*' then .glob (String.ofList word)
  else .identifier (String.ofList word)

/-! ### Reading one token -/

/-- A token or the reason why there is none, and how many characters were read in either case. -/
structure Reading (α : Type) where
  outcome : Except LexFault α
  length : Nat

namespace Reading

def ok {α : Type} (value : α) (length : Nat) : Reading α := ⟨.ok value, length⟩

def fail {α : Type} (fault : LexFault) (length : Nat) : Reading α := ⟨.error fault, length⟩

/-- A character in front, for which `width` characters were read. -/
def behind (c : Char) (width : Nat) (reading : Reading (List Char)) : Reading (List Char) :=
  ⟨reading.outcome.map (c :: ·), width + reading.length⟩

def map {α β : Type} (f : α → β) (reading : Reading α) : Reading β :=
  ⟨reading.outcome.map f, reading.length⟩

/-- `width` characters were read before. -/
def shift {α : Type} (width : Nat) (reading : Reading α) : Reading α :=
  ⟨reading.outcome, width + reading.length⟩

end Reading

/-- The characters that may follow a backslash in a quoted text, and what they stand for. -/
def escaped? : Char → Option Char
  | 'n' => some '\n'
  | 't' => some '\t'
  | 'r' => some '\r'
  | '"' => some '"'
  | '\'' => some '\''
  | '\\' => some '\\'
  | _ => none

/-- The rest of a quoted text behind its opening quote. -/
def readQuoted (quote : Char) : List Char → Reading (List Char)
  | [] => .fail .unterminatedString 0
  | '\\' :: [] => .fail .unterminatedString 1
  | '\\' :: e :: rest =>
    match escaped? e with
    | some c => (readQuoted quote rest).behind c 2
    | none => .fail (.invalidEscape e) 1
  | c :: rest => if c == quote then .ok [] 1 else (readQuoted quote rest).behind c 1

/-- The pattern up to the next tilde; a backslash before a tilde keeps it in the pattern. -/
def readPattern : List Char → Reading (List Char)
  | [] => .fail .unterminatedRegex 0
  | '\\' :: '~' :: rest => (readPattern rest).behind '~' 2
  | c :: rest => if c == '~' then .ok [] 1 else (readPattern rest).behind c 1

def readRegex (text : List Char) : Reading Token :=
  let pattern := readPattern text
  match pattern.outcome with
  | .error fault => .fail fault pattern.length
  | .ok chars =>
    let ignoresCase := (text.drop pattern.length).head? == some 'i'
    .ok (.regex (String.ofList chars) ignoresCase) (pattern.length + if ignoresCase then 1 else 0)

/-- Digits are a float with a fraction, a name when a letter or `_` follows, and an integer otherwise. -/
def readNumber (text : List Char) : Reading Token :=
  let whole := text.takeWhile Char.isDigit
  let rest := text.dropWhile Char.isDigit
  match rest with
  | '.' :: after =>
    let fraction := after.takeWhile Char.isDigit
    if fraction.isEmpty then integer whole
    else .ok (.float (fractionFloat whole fraction 0)) (whole.length + 1 + fraction.length)
  | c :: _ =>
    if isAlphabetic c || c == '_' then
      let name := whole ++ rest.takeWhile isNameChar
      .ok (.identifier (String.ofList name)) name.length
    else integer whole
  | [] => integer whole
where
  integer (digits : List Char) : Reading Token :=
    (narrow? (digitsValue digits)).elim (.fail (.invalidNumber (String.ofList digits)) digits.length) fun n =>
      .ok (.integer n) digits.length

def sign? : Char → Option Token
  | ',' => some .comma
  | '.' => some .dot
  | ':' => some .colon
  | '|' => some .pipe
  | '-' => some .minus
  | '(' => some .leftParen
  | ')' => some .rightParen
  | '[' => some .leftBracket
  | ']' => some .rightBracket
  | '\x7b' => some .leftBrace
  | '\x7d' => some .rightBrace
  | _ => none

def readVariable (text : List Char) : Reading Token :=
  let name := text.takeWhile isNameChar
  if name.isEmpty then .fail .emptyVariable 1
  else .ok (.variable (String.ofList name)) (1 + name.length)

/-- The first character of a token decides its kind; a character that starts none is left unread. -/
def readToken : List Char → Reading Token
  | [] => .ok .finish 0
  | c :: rest =>
    match sign? c with
    | some token => .ok token 1
    | none =>
      if c == '"' || c == '\'' then
        ((readQuoted c rest).map fun chars => Token.quoted (String.ofList chars)).shift 1
      else if c == '~' then (readRegex rest).shift 1
      else if c == '@' then readVariable rest
      else if isNameStart c then
        let word := (c :: rest).takeWhile isNameChar
        .ok (Token.ofWord word) word.length
      else if c.isDigit then readNumber (c :: rest)
      else .fail (.unexpectedCharacter c) 0

/-! ### Scanning -/

/-- The text still to be read, and the place of its first character. -/
structure Scanner where
  rest : List Char
  position : Position

namespace Scanner

def ofText (text : String) : Scanner := ⟨text.toList, .start⟩

def advance (scanner : Scanner) (length : Nat) : Scanner :=
  ⟨scanner.rest.drop length, scanner.position.after (scanner.rest.take length)⟩

def skipBlanks (scanner : Scanner) : Scanner :=
  scanner.advance (scanner.rest.takeWhile isBlank).length

/-- An escape is reported at its backslash, the last character read; all else at the start of the token. -/
def place (scanner : Scanner) (fault : LexFault) (length : Nat) : Position :=
  match fault with
  | .invalidEscape _ => (scanner.advance (length - 1)).position
  | _ => scanner.position

/-- The next token, and the scanner behind it. -/
def next (scanner : Scanner) : Except LexError Spanned × Scanner :=
  let scanner := scanner.skipBlanks
  let reading := readToken scanner.rest
  let outcome :=
    match reading.outcome with
    | .ok token => .ok ⟨token, scanner.position⟩
    | .error fault => .error ⟨fault, scanner.place fault reading.length⟩
  (outcome, scanner.advance reading.length)

/-- Every token but the last takes a character, so the length of the text bounds the steps. -/
def collect : Nat → Scanner → Except LexError (List Spanned)
  | 0, _ => .ok []
  | steps + 1, scanner =>
    match scanner.next with
    | (.error error, _) => .error error
    | (.ok spanned, behind) =>
      match spanned.token with
      | .finish => .ok [spanned]
      | _ => (collect steps behind).map (spanned :: ·)

/-- All tokens up to the end of the text, which is the last one. -/
def tokens (scanner : Scanner) : Except LexError (List Spanned) :=
  collect (scanner.rest.length + 1) scanner

end Scanner

def tokenize (text : String) : Except LexError (List Spanned) := (Scanner.ofText text).tokens

end FieldSelect
