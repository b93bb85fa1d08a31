import FieldSelect.Regex.Classes
import FieldSelect.Regex.Layout
import FieldSelect.Decimal.Reading

/-! Regular expressions read from their text. There are no references back and no look-around. -/
namespace FieldSelect
namespace Regex

inductive Fault where
  | unclosedGroup
  | unopenedGroup
  | unclosedClass
  | unclosedCount
  | unclosedWordBoundary
  | unexpectedEnd
  | nothingToRepeat
  | invalidCount
  | missingNumber
  | invalidEscape
  | invalidCodePoint
  | backReference
  | lookAround
  | invalidRange
  | invalidProperty
  | invalidFlag
  | invalidGroupName
  | invalidWordBoundary
  | notUnicode
  | nestedTooDeep
  | tooLarge
  deriving DecidableEq

/-- What is wrong with the text of a pattern; only the size of a program is no matter of its text. -/
def Fault.message : Fault → String
  | .unclosedGroup => "regex parse error: unclosed group"
  | .unopenedGroup => "regex parse error: unopened group"
  | .unclosedClass => "regex parse error: unclosed character class"
  | .unclosedCount => "regex parse error: unclosed counted repetition"
  | .unclosedWordBoundary => "regex parse error: unclosed word boundary"
  | .unexpectedEnd => "regex parse error: unexpected end of pattern"
  | .nothingToRepeat => "regex parse error: repetition operator missing expression"
  | .invalidCount => "regex parse error: invalid repetition count range"
  | .missingNumber => "regex parse error: repetition quantifier expects a valid decimal"
  | .invalidEscape => "regex parse error: unrecognized escape sequence"
  | .invalidCodePoint => "regex parse error: invalid code point"
  | .backReference => "regex parse error: backreferences are not supported"
  | .lookAround => "regex parse error: look-around is not supported"
  | .invalidRange => "regex parse error: invalid character class range"
  | .invalidProperty => "regex parse error: unknown character property"
  | .invalidFlag => "regex parse error: invalid flags"
  | .invalidGroupName => "regex parse error: invalid group name"
  | .invalidWordBoundary => "regex parse error: unrecognized word boundary"
  | .notUnicode => "regex parse error: pattern can match text that is not valid"
  | .nestedTooDeep => "regex parse error: nested too deeply"
  | .tooLarge => "Compiled regex exceeds size limit of " ++ toString Layout.sizeLimit ++ " bytes."

/-- The flags in force at one place of a pattern. -/
structure Flags where
  ignoresCase : Bool
  multiLine : Bool
  dotAll : Bool
  unicode : Bool
  crlf : Bool
  extended : Bool

def Flags.initial : Flags := ⟨false, false, false, true, false, false⟩

namespace Flags

/-- Extended patterns may be spaced out and commented. -/
def skipComments : Bool → List Char → List Char
  | _, [] => []
  | true, c :: rest => skipComments (c != '\n') rest
  | false, c :: rest =>
    if isBlank c then skipComments false rest
    else if c == '#' then skipComments true rest
    else c :: rest

def skip (flags : Flags) (text : List Char) : List Char :=
  if flags.extended then skipComments false text else text

def fold (flags : Flags) (set : CharSet) : CharSet :=
  if !flags.ignoresCase then set
  else if flags.unicode then Property.foldCase set
  else Property.foldAsciiCase set

/-- Without the character standard a complement would match parts of characters. -/
def complement (flags : Flags) (negated : Bool) (set : CharSet) : Except Fault CharSet :=
  if !negated then .ok set
  else if flags.unicode then .ok set.compl
  else .error .notUnicode

def digit (flags : Flags) : CharSet :=
  if flags.unicode then Property.decimalDigit else asciiDigit

def blank (flags : Flags) : CharSet :=
  if flags.unicode then Property.whiteSpace else asciiBlank

def word (flags : Flags) : CharSet :=
  if flags.unicode then Property.word else asciiWord

end Flags

/-! ### Escapes -/

/-- What an escape or a plain character stands for. -/
inductive Atom where
  | literal (c : Char)
  | set (members : CharSet)
  | look (condition : Look)

def metaChars : List Char :=
  ['\\', '.', '+', '*', '?', '(', ')', '|', '[', ']', '\x7b', '\x7d', '^', '$', '#', '&', '-', '~']

/-- Every sign of the first 128 characters may be escaped without need, save `<` and `>`. -/
def isEscapable (c : Char) : Bool :=
  metaChars.contains c || (c.toNat < 128 && !c.isAlphanum && c != '<' && c != '>')

def hexDigit? (c : Char) : Option Nat :=
  if c.isDigit then some (c.toNat - '0'.toNat)
  else if 'a' ≤ c ∧ c ≤ 'f' then some (c.toNat - 'a'.toNat + 10)
  else if 'A' ≤ c ∧ c ≤ 'F' then some (c.toNat - 'A'.toNat + 10)
  else none

def codePoint? (n : Nat) : Except Fault Char :=
  if n.isValidChar then .ok (Char.ofNat n) else .error .invalidCodePoint

/-- Exactly so many hexadecimal digits. -/
def readHexDigits (flags : Flags) : Nat → Nat → List Char → Except Fault (Nat × List Char)
  | 0, value, text => .ok (value, text)
  | count + 1, value, text =>
    match text with
    | [] => .error .unexpectedEnd
    | c :: rest =>
      match hexDigit? c with
      | some digit => readHexDigits flags count (16 * value + digit) (flags.skip rest)
      | none => .error .missingNumber

/-- Any number of hexadecimal digits up to the closing brace. -/
def readHexBraced (digits : List Char) : Except Fault Nat :=
  if digits.isEmpty then .error .missingNumber
  else
    digits.foldlM (fun value c =>
      match hexDigit? c with
      | some digit => .ok (min (16 * value + digit) 0x110000)
      | none => .error .missingNumber) 0

/-- The text inside braces and the text behind them. -/
def readBraced (flags : Flags) : Nat → List Char → Except Fault (List Char × List Char)
  | 0, _ => .error .unexpectedEnd
  | steps + 1, text =>
    match flags.skip text with
    | [] => .error .unexpectedEnd
    | '\x7d' :: rest => .ok ([], rest)
    | c :: rest => (readBraced flags steps rest).map fun (chars, rest) => (c :: chars, rest)

/-- A code point of so many digits, or of any number of them in braces. Two digits stand for a byte, which
without the character standard is a character only among the first 128. -/
def readHex (flags : Flags) (width : Nat) (text : List Char) : Except Fault (Atom × List Char) := do
  match flags.skip text with
  | [] => throw .unexpectedEnd
  | '\x7b' :: rest =>
    let (digits, rest) ← readBraced flags (rest.length + 1) rest
    return (.literal (← codePoint? (← readHexBraced digits)), rest)
  | rest =>
    let (value, rest) ← readHexDigits flags width 0 rest
    if width == 2 && 128 ≤ value && !flags.unicode then throw .notUnicode
    return (.literal (← codePoint? value), rest)

/-- A property name may hold `!=`, `:` or `=` in front of a value; the first of the kinds found decides. -/
def splitProperty (name : List Char) : Bool × Option CharSet :=
  match (pairs name).find? fun (_, rest) => ['!', '='].isPrefixOf rest with
  | some (before, rest) => (true, valued? before (rest.drop 2))
  | none =>
    match (pairs name).find? fun (_, rest) => rest.head? == some ':' with
    | some (before, rest) => (false, valued? before (rest.drop 1))
    | none =>
      match (pairs name).find? fun (_, rest) => rest.head? == some '=' with
      | some (before, rest) => (false, valued? before (rest.drop 1))
      | none => (false, named? name)
where
  pairs (name : List Char) : List (List Char × List Char) :=
    (List.range (name.length + 1)).map fun n => (name.take n, name.drop n)

def readProperty (flags : Flags) (negated : Bool) (text : List Char) :
    Except Fault (Atom × List Char) := do
  let (name, rest) ←
    match flags.skip text with
    | [] => throw .unexpectedEnd
    | '\x7b' :: rest => readBraced flags (rest.length + 1) rest
    | c :: rest => if c == '\\' then throw .invalidProperty else pure ([c], flags.skip rest)
  if !flags.unicode then throw .notUnicode
  match splitProperty name with
  | (_, none) => throw .invalidProperty
  | (differs, some set) =>
    return (.set (← flags.complement (negated != differs) (flags.fold set)), rest)

def isBoundaryChar (c : Char) : Bool := c.isAlpha || c == '-'

/-- The name of a boundary, whose letters may be spaced out, and the text behind it. -/
def readBoundaryName (flags : Flags) : Nat → List Char → List Char × List Char
  | 0, text => ([], text)
  | steps + 1, text =>
    match text with
    | [] => ([], [])
    | c :: rest =>
      if isBoundaryChar c then
        let (name, rest) := readBoundaryName flags steps (flags.skip rest)
        (c :: name, rest)
      else ([], c :: rest)

/-- A brace behind `\b` opens the name of a boundary, unless a count follows. -/
def readBoundary (flags : Flags) (text : List Char) : Except Fault (Look × List Char) := do
  match text with
  | '\x7b' :: inside =>
    match flags.skip inside with
    | [] => throw .unexpectedEnd
    | c :: rest =>
      if !isBoundaryChar c then return (.boundary flags.word, text)
      let (name, rest) := readBoundaryName flags (rest.length + 1) (c :: rest)
      match rest with
      | '\x7d' :: rest =>
        match String.ofList name with
        | "start" => return (.wordStart flags.word, rest)
        | "end" => return (.wordEnd flags.word, rest)
        | "start-half" => return (.wordStartHalf flags.word, rest)
        | "end-half" => return (.wordEndHalf flags.word, rest)
        | _ => throw .invalidWordBoundary
      | _ => throw .unclosedWordBoundary
  | _ => return (.boundary flags.word, text)

def classEscape (flags : Flags) (c : Char) : Option (Bool × CharSet) :=
  match c with
  | 'd' => some (false, flags.digit)
  | 'D' => some (true, flags.digit)
  | 's' => some (false, flags.blank)
  | 'S' => some (true, flags.blank)
  | 'w' => some (false, flags.word)
  | 'W' => some (true, flags.word)
  | _ => none

/-- What stands behind a backslash. -/
def readEscape (flags : Flags) : List Char → Except Fault (Atom × List Char)
  | [] => .error .unexpectedEnd
  | c :: rest => do
    if let some (negated, set) := classEscape flags c then
      return (.set (← flags.complement negated set), rest)
    if isEscapable c then return (.literal c, rest)
    match c with
    | 'x' => readHex flags 2 rest
    | 'u' => readHex flags 4 rest
    | 'U' => readHex flags 8 rest
    | 'p' => readProperty flags false rest
    | 'P' => readProperty flags true rest
    | 'a' => return (.literal '\x07', rest)
    | 'f' => return (.literal '\x0c', rest)
    | 't' => return (.literal '\t', rest)
    | 'n' => return (.literal '\n', rest)
    | 'r' => return (.literal '\r', rest)
    | 'v' => return (.literal '\x0b', rest)
    | 'A' => return (.look .textStart, rest)
    | 'z' => return (.look .textEnd, rest)
    | 'B' => return (.look (.notBoundary flags.word), rest)
    | '<' => return (.look (.wordStart flags.word), rest)
    | '>' => return (.look (.wordEnd flags.word), rest)
    | 'b' =>
      let (condition, rest) ← readBoundary flags rest
      return (.look condition, rest)
    | c => throw (if c.isDigit then .backReference else .invalidEscape)

/-! ### Classes -/

/-- How two sets inside brackets are combined. -/
inductive SetOp where
  | inter
  | without
  | differ

def SetOp.apply : SetOp → CharSet → CharSet → CharSet
  | .inter => CharSet.inter
  | .without => CharSet.without
  | .differ => CharSet.differ

/-- The set read so far inside brackets: what stands before the last operator and how deeply it is nested,
and the items behind the operator with the depth of the deepest. -/
structure OpenClass where
  left : Option (CharSet × Nat × SetOp)
  items : List CharSet
  deepest : Nat

namespace OpenClass

def add (open_ : OpenClass) (set : CharSet) (depth : Nat) : OpenClass :=
  ⟨open_.left, set :: open_.items, max open_.deepest depth⟩

/-- Operators take their operands from the left, each folded for case first. -/
def value (open_ : OpenClass) (flags : Flags) : CharSet :=
  let items := CharSet.join open_.items
  match open_.left with
  | none => items
  | some (left, _, op) => op.apply (flags.fold left) (flags.fold items)

/-- Several items side by side are one level, and so is an operator with its operands. -/
def depth (open_ : OpenClass) : Nat :=
  let items := if 1 < open_.items.length then open_.deepest + 1 else open_.deepest
  match open_.left with
  | none => items
  | some (_, left, _) => max left items + 1

def operate (open_ : OpenClass) (flags : Flags) (op : SetOp) : OpenClass :=
  ⟨some (open_.value flags, open_.depth, op), [], 0⟩

end OpenClass

/-- A single item: an escape or the character itself. -/
def readItem (flags : Flags) : List Char → Except Fault (Atom × List Char)
  | [] => .error .unclosedClass
  | '\\' :: rest => readEscape flags rest
  | c :: rest => .ok (.literal c, rest)

/-- Without the character standard, brackets hold the first 128 characters only. -/
def Atom.member? (flags : Flags) : Atom → Except Fault CharSet
  | .literal c =>
    if flags.unicode || c.toNat < 128 then .ok (CharSet.single c) else .error .notUnicode
  | .set members => .ok members
  | .look _ => .error .invalidEscape

/-- The character that tells whether a hyphen before it makes a range. In an extended pattern it is the first
that is neither blank nor the first comment sign; what a comment says is not passed over. -/
def rangeSign? (flags : Flags) (text : List Char) : Option Char :=
  if !flags.extended then text.head?
  else
    match text.dropWhile isBlank with
    | '#' :: comment => (comment.dropWhile isBlank).head? <|> text.head?
    | rest => rest.head? <|> text.head?

/-- An item, or a range when a hyphen follows that is neither last nor part of an operator. -/
def readRange (flags : Flags) (text : List Char) : Except Fault (CharSet × List Char) := do
  let (low, rest) ← readItem flags text
  match flags.skip rest with
  | [] => throw .unclosedClass
  | '-' :: after =>
    let sign := rangeSign? flags after
    if sign == some ']' || sign == some '-' then return (← low.member? flags, '-' :: after)
    let (high, rest) ← readItem flags (flags.skip after)
    match low, high with
    | .literal a, .literal b =>
      if b < a then throw .invalidRange
      if !flags.unicode && 128 ≤ b.toNat then throw .notUnicode
      return (CharSet.range a b, rest)
    | _, _ => throw .invalidRange
  | rest => return (← low.member? flags, rest)

/-- A named set such as `[:alpha:]`; anything else in its place is a class of its own. -/
def readPosix? (text : List Char) : Option (Bool × CharSet × List Char) :=
  match text with
  | '[' :: ':' :: rest =>
    let (negated, rest) :=
      match rest with
      | '^' :: rest => (true, rest)
      | rest => (false, rest)
    match rest.span (· != ':') with
    | (name, ':' :: ']' :: rest) => (posix? (String.ofList name)).map (negated, ·, rest)
    | _ => none
  | _ => none

/-- Hyphens that open a class stand for themselves, and so does a bracket right after that. -/
def readOpening (flags : Flags) : Nat → Bool → List Char → Except Fault (List CharSet × List Char)
  | 0, _, _ => .error .unclosedClass
  | steps + 1, first, text =>
    match text with
    | [] => .error .unclosedClass
    | '-' :: rest =>
      (readOpening flags steps false (flags.skip rest)).map fun (sets, rest) =>
        (CharSet.single '-' :: sets, rest)
    | ']' :: rest =>
      if !first then .ok ([], text)
      else if (flags.skip rest).isEmpty then .error .unclosedClass
      else .ok ([CharSet.single ']'], flags.skip rest)
    | _ => .ok ([], text)

/-- The rest of a class behind its opening bracket: the set, how deeply classes are nested in it, and
the text that follows. As many steps as characters are left suffice. -/
def readClass (flags : Flags) : Nat → List Char → Except Fault (CharSet × Nat × List Char)
  | 0, _ => .error .unclosedClass
  | steps + 1, text => do
    let (negated, inside) :=
      match flags.skip text with
      | '^' :: rest => (true, flags.skip rest)
      | rest => (false, rest)
    let (opening, rest) ← readOpening flags (steps + 1) true inside
    let (class_, rest) ← items steps ⟨none, opening.reverse, 0⟩ (steps + 1) rest
    let set ← flags.complement negated (flags.fold (class_.value flags))
    return (set, class_.depth, rest)
where
  items (steps : Nat) : OpenClass → Nat → List Char → Except Fault (OpenClass × List Char)
    | _, 0, _ => .error .unclosedClass
    | open_, rounds + 1, text => do
      match flags.skip text with
      | [] => throw .unclosedClass
      | ']' :: rest => return (open_, rest)
      | '&' :: '&' :: rest => items steps (open_.operate flags .inter) rounds rest
      | '-' :: '-' :: rest => items steps (open_.operate flags .without) rounds rest
      | '~' :: '~' :: rest => items steps (open_.operate flags .differ) rounds rest
      | '[' :: rest =>
        match readPosix? ('[' :: rest) with
        | some (negated, set, rest) =>
          items steps (open_.add (← flags.complement negated (flags.fold set)) 0) rounds rest
        | none =>
          let (set, depth, rest) ← readClass flags steps rest
          items steps (open_.add set (depth + 1)) rounds rest
      | text =>
        let (set, rest) ← readRange flags text
        items steps (open_.add set 0) rounds rest

/-! ### Repetition counts -/

def skipBlanks (text : List Char) : List Char := text.dropWhile isBlank

def readCountDigits (flags : Flags) : Nat → Nat → List Char → Option Nat × List Char
  | 0, _, text => (none, text)
  | steps + 1, value, text =>
    match text with
    | c :: rest =>
      if c.isDigit then
        let next := 10 * value + (c.toNat - '0'.toNat)
        let (more, rest) := readCountDigits flags steps next (flags.skip rest)
        (some (more.getD next), rest)
      else (none, text)
    | [] => (none, [])

/-- Blanks may stand around a count. -/
def readCount (flags : Flags) (text : List Char) : Option Nat × List Char :=
  let (count, rest) := readCountDigits flags (text.length + 1) 0 (skipBlanks text)
  (count, skipBlanks rest)

def checkCount : Option Nat → Except Fault Nat
  | some n => if n < Nat.pow 2 32 then .ok n else .error .missingNumber
  | none => .error .missingNumber

/-- The bounds of a repetition behind its opening brace. -/
def readBounds (flags : Flags) (text : List Char) :
    Except Fault (Nat × Option Nat × List Char) := do
  match flags.skip text with
  | [] => throw .unclosedCount
  | text =>
    let (low, rest) := readCount flags text
    match rest with
    | [] => throw .unclosedCount
    | ',' :: after =>
      match flags.skip after with
      | [] => throw .unclosedCount
      | '\x7d' :: rest => return (← checkCount low, none, rest)
      | after =>
        let low ← checkCount low
        let (high, rest) := readCount flags after
        let high ← checkCount high
        match rest with
        | '\x7d' :: rest => if low ≤ high then return (low, some high, rest) else throw .invalidCount
        | _ => throw .unclosedCount
    | '\x7d' :: rest => do
      let count ← checkCount low
      return (count, some count, rest)
    | _ => do
      let _ ← checkCount low
      throw .unclosedCount

/-- A question mark behind a repetition changes which match is found, not whether there is one. -/
def skipLazy : List Char → List Char
  | '?' :: rest => rest
  | rest => rest

/-! ### Groups -/

def isGroupNameChar (first : Bool) (c : Char) : Bool :=
  c == '_' || isAlphabetic c || (!first && (c == '.' || c == '[' || c == ']' || isNumeric c))

/-- A group name that no other group has. -/
def readGroupName (used : List String) (text : List Char) :
    Except Fault (String × List Char) :=
  let name := text.takeWhile (· != '>')
  match text.dropWhile (· != '>'), name with
  | _ :: rest, first :: more =>
    if isGroupNameChar true first && more.all (isGroupNameChar false) &&
        !used.contains (String.ofList name) then
      .ok (String.ofList name, rest)
    else .error .invalidGroupName
  | _, _ => .error .invalidGroupName

def Flags.set (flags : Flags) (flag : Char) (on : Bool) : Flags :=
  match flag with
  | 'i' => { flags with ignoresCase := on }
  | 'm' => { flags with multiLine := on }
  | 's' => { flags with dotAll := on }
  | 'u' => { flags with unicode := on }
  | 'R' => { flags with crlf := on }
  | 'x' => { flags with extended := on }
  | _ => flags

/-- Flags up to a colon or a parenthesis; each may be given once, and those behind a hyphen are cleared. -/
def readFlags (flags : Flags) (text : List Char) : Except Fault (Flags × Bool × List Char) := do
  let items := text.takeWhile fun c => c != ':' && c != ')'
  if items.any fun c => !(['i', 'm', 's', 'U', 'u', 'R', 'x', '-'].contains c) then throw .invalidFlag
  if items.eraseDups.length != items.length || items.getLast? == some '-' then throw .invalidFlag
  match text.drop items.length with
  | [] => throw .unexpectedEnd
  | closing :: rest =>
    let on := items.takeWhile (· != '-')
    let off := items.dropWhile (· != '-')
    let flags := off.foldl (fun flags c => flags.set c false) (on.foldl (fun flags c => flags.set c true) flags)
    if closing == ')' && items.isEmpty then throw .nothingToRepeat
    return (flags, closing == ':', rest)

/-! ### Whole patterns -/

/-- A part of a pattern, how deeply it is nested, and whether it can be repeated. -/
structure Part where
  regex : Regex
  depth : Nat
  repeatable : Bool

def Part.ofParts (combine : List Regex → Regex) (parts : List Part) : Part :=
  let depth := (parts.map Part.depth).foldl max 0
  ⟨combine (parts.map Part.regex), if parts.length > 1 then depth + 1 else depth, true⟩

/-- What has been read of one group: finished branches and the parts of the last one, latest first. -/
structure OpenGroup where
  flags : Flags
  names : List String
  branches : List Part
  parts : List Part

namespace OpenGroup

def add (group : OpenGroup) (part : Part) : OpenGroup := { group with parts := part :: group.parts }

def addSet (group : OpenGroup) (set : CharSet) : OpenGroup := group.add ⟨.oneOf set, 0, true⟩

def addLook (group : OpenGroup) (condition : Look) : OpenGroup :=
  group.add ⟨.look condition, 0, true⟩

def addAtom (group : OpenGroup) : Atom → OpenGroup
  | .literal c => group.addSet (group.flags.fold (CharSet.single c))
  | .set set => group.addSet set
  | .look condition => group.addLook condition

def endBranch (group : OpenGroup) : OpenGroup :=
  { group with branches := Part.ofParts sequence group.parts.reverse :: group.branches, parts := [] }

def close (group : OpenGroup) : Part := Part.ofParts choice group.endBranch.branches.reverse

/-- The last part is repeated; flags and the start of a branch are no part. -/
def repeatLast (group : OpenGroup) (low : Nat) (high : Option Nat) : Except Fault OpenGroup :=
  match group.parts with
  | last :: rest =>
    if last.repeatable then
      .ok { group with parts := ⟨.repeated last.regex low high, last.depth + 1, true⟩ :: rest }
    else .error .nothingToRepeat
  | [] => .error .nothingToRepeat

end OpenGroup

/-- Any character but a line feed, unless the flags say otherwise. -/
def dotSet (flags : Flags) : Except Fault CharSet :=
  if !flags.unicode then .error .notUnicode
  else if flags.dotAll then .ok CharSet.all
  else if flags.crlf then .ok ((CharSet.single '\n').union (CharSet.single '\r')).compl
  else .ok (CharSet.single '\n').compl

def lineStart (flags : Flags) : Look :=
  if !flags.multiLine then .textStart else if flags.crlf then .lineStartCRLF else .lineStart

def lineEnd (flags : Flags) : Look :=
  if !flags.multiLine then .textEnd else if flags.crlf then .lineEndCRLF else .lineEnd

/-- What opens a group: flags for the rest of the enclosing one, or a group of its own, which may keep what
it matches. -/
inductive Opening where
  | flags (flags : Flags)
  | group (keeps : Bool) (flags : Flags) (names : List String)

def isLookAround (text : List Char) : Bool :=
  ["?=", "?!", "?<=", "?<!"].any fun sign => sign.toList.isPrefixOf text

def readGroupOpening (group : OpenGroup) (text : List Char) :
    Except Fault (Opening × List Char) := do
  let text := group.flags.skip text
  if isLookAround text then throw .lookAround
  match text with
  | '?' :: 'P' :: '<' :: rest | '?' :: '<' :: rest =>
    let (name, rest) ← readGroupName group.names rest
    return (.group true group.flags (name :: group.names), rest)
  | '?' :: [] => throw .unclosedGroup
  | '?' :: rest =>
    let (flags, opensGroup, rest) ← readFlags group.flags rest
    return (if opensGroup then .group false flags group.names else .flags flags, rest)
  | rest => return (.group true group.flags group.names, rest)

/-- The parts of a group up to its closing parenthesis or the end of the pattern, neither of them read. -/
def readGroup : Nat → OpenGroup → List Char → Except Fault (OpenGroup × List Char)
  | 0, _, _ => .error .unexpectedEnd
  | steps + 1, group, text => do
    let flags := group.flags
    match flags.skip text with
    | [] => return (group, [])
    | ')' :: rest => return (group, ')' :: rest)
    | '|' :: rest => readGroup steps group.endBranch rest
    | '(' :: rest =>
      match ← readGroupOpening group rest with
      | (.flags flags, rest) =>
        readGroup steps ({ group with flags := flags }.add ⟨.empty, 0, false⟩) rest
      | (.group keeps inner names, rest) =>
        let (inside, rest) ← readGroup steps ⟨inner, names, [], []⟩ rest
        match rest with
        | ')' :: rest =>
          let whole := inside.close
          let part := ⟨.grouped keeps whole.regex, whole.depth + 1, true⟩
          readGroup steps ({ group with names := inside.names }.add part) rest
        | _ => throw .unclosedGroup
    | '[' :: rest =>
      let (set, depth, rest) ← readClass flags steps rest
      readGroup steps (group.add ⟨.oneOf set, depth + 1, true⟩) rest
    | '?' :: rest => readGroup steps (← group.repeatLast 0 (some 1)) (skipLazy rest)
    | '*' :: rest => readGroup steps (← group.repeatLast 0 none) (skipLazy rest)
    | '+' :: rest => readGroup steps (← group.repeatLast 1 none) (skipLazy rest)
    | '\x7b' :: rest =>
      let _ ← group.repeatLast 0 none
      let (low, high, rest) ← readBounds flags rest
      readGroup steps (← group.repeatLast low high) (skipLazy (flags.skip rest))
    | '\\' :: rest =>
      let (atom, rest) ← readEscape flags rest
      readGroup steps (group.addAtom atom) rest
    | '.' :: rest => readGroup steps (group.addSet (← dotSet flags)) rest
    | '^' :: rest => readGroup steps (group.addLook (lineStart flags)) rest
    | '$' :: rest => readGroup steps (group.addLook (lineEnd flags)) rest
    | c :: rest => readGroup steps (group.addAtom (.literal c)) rest

/-- Groups, classes, repetitions, branches and sequences may stand inside one another this often. -/
def nestingLimit : Nat := 250

/-- Every step reads a character, so the length of the pattern bounds the steps. -/
def read (pattern : String) : Except Fault Regex := do
  let text := pattern.toList
  let (group, rest) ← readGroup (text.length + 1) ⟨.initial, [], [], []⟩ text
  if !rest.isEmpty then throw .unopenedGroup
  let whole := group.close
  if nestingLimit < whole.depth then throw .nestedTooDeep
  if !whole.regex.fits then throw .tooLarge
  return whole.regex

/-- A text in which every sign is taken for itself. -/
def escape (text : List Char) : List Char :=
  text.flatMap fun c => if metaChars.contains c then ['\\', c] else [c]

end Regex
end FieldSelect
