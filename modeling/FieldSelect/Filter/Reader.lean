import FieldSelect.Filter.Block
import FieldSelect.Filter.Scanner
import FieldSelect.Filter.Tree

/-! Filters read from their text: stages of selectors, blocks, dotted paths, calls and depth bounds. -/
namespace FieldSelect

/-- Why a filter text is refused. -/
inductive ParseFault where
  | lexical (error : LexError)
  | expected (wanted actual : Token)
  | expectedName (actual : Token)
  | expectedDepth (actual : Token)
  | expectedFunction (actual : Token)
  | expectedNumber
  | invalidGlob (glob : String) (fault : Regex.Fault)
  | invalidRegex (pattern : String) (fault : Regex.Fault)
  | blockBeforeDot (name : String)
  | depthOrder (high low : Nat)
  | bareWord (word : String)
  | unexpectedArgument (actual : Token)

structure ParseError where
  fault : ParseFault
  position : Position

def ParseFault.message : ParseFault → String
  | .lexical error => error.message
  | .expected wanted actual => "Expected " ++ wanted.describe ++ ", got " ++ actual.describe
  | .expectedName actual => "Expected field name, got " ++ actual.describe
  | .expectedDepth actual => "Expected depth, got " ++ actual.describe
  | .expectedFunction actual => "Expected function name, got " ++ actual.describe
  | .expectedNumber => "Expected number after '-'"
  | .invalidGlob glob fault => "Invalid pattern '" ++ glob ++ "': " ++ fault.message
  | .invalidRegex pattern fault => "Invalid regex '" ++ pattern ++ "': " ++ fault.message
  | .blockBeforeDot name => "Nested block on '" ++ name ++ "' cannot be followed by '.'"
  | .depthOrder high low =>
    "Max depth " ++ toString high ++ " must be greater than min depth " ++ toString low
  | .bareWord word => "Unexpected identifier '" ++ word ++ "' in arguments (quote strings)"
  | .unexpectedArgument actual => "Unexpected " ++ actual.describe ++ " in arguments"

/-- The place of a character that is no token stands in the message twice. -/
def ParseError.message (error : ParseError) : String :=
  error.fault.message ++ " at " ++ error.position.describe

/-- Tokens still to be read; behind the last one the text has ended. -/
abbrev Tokens := List Spanned

namespace Tokens

def position : Tokens → Position
  | spanned :: _ => spanned.position
  | [] => .start

def head : Tokens → Token
  | spanned :: _ => spanned.token
  | [] => .finish

def fail {α : Type} (tokens : Tokens) (fault : ParseFault) : Except ParseError α :=
  .error ⟨fault, tokens.position⟩

end Tokens

/-- Reads from the front of the tokens and hands back the rest. -/
abbrev Parser (α : Type) := Tokens → Except ParseError (α × Tokens)

namespace Parser

/-- The signs that a filter may lack. -/
def isSign : Token → Token → Bool
  | .comma, .comma | .leftParen, .leftParen | .rightParen, .rightParen => true
  | .rightBracket, .rightBracket | .rightBrace, .rightBrace | .finish, .finish => true
  | _, _ => false

def expect (wanted : Token) : Parser Unit
  | spanned :: rest =>
    if isSign wanted spanned.token then .ok ((), rest)
    else Tokens.fail (spanned :: rest) (.expected wanted spanned.token)
  | [] => if isSign wanted .finish then .ok ((), []) else Tokens.fail [] (.expected wanted .finish)

/-- A name with an opening parenthesis behind a dot is a function and no path. -/
def isCall : Tokens → Bool
  | ⟨.identifier _, _⟩ :: ⟨.leftParen, _⟩ :: _ => true
  | _ => false

/-! ### Calls -/

/-- Three words are values; all other text has to be quoted. -/
def wordValue? : String → Option Value
  | "true" => some (.boolean true)
  | "false" => some (.boolean false)
  | "null" => some .null
  | _ => none

def argument : Parser Argument
  | ⟨.quoted chars, _⟩ :: rest => .ok (.literal (.string chars), rest)
  | ⟨.integer n, _⟩ :: rest => .ok (.literal (.integer n), rest)
  | ⟨.float x, _⟩ :: rest => .ok (.literal (.float x), rest)
  | ⟨.variable name, _⟩ :: rest => .ok (.variable name, rest)
  | ⟨.identifier word, position⟩ :: rest =>
    match wordValue? word with
    | some value => .ok (.literal value, rest)
    | none => Tokens.fail (⟨.identifier word, position⟩ :: rest) (.bareWord word)
  | ⟨.minus, _⟩ :: ⟨.integer n, _⟩ :: rest => .ok (.literal (.integer (-n)), rest)
  | ⟨.minus, _⟩ :: ⟨.float x, _⟩ :: rest => .ok (.literal (.float (-x)), rest)
  | ⟨.minus, _⟩ :: rest => Tokens.fail rest .expectedNumber
  | tokens => tokens.fail (.unexpectedArgument tokens.head)

/-- Arguments up to the closing parenthesis; a comma may stand in front of it. -/
def arguments : Nat → Parser (List Argument)
  | _, ⟨.rightParen, _⟩ :: rest => .ok ([], rest)
  | 0, tokens => tokens.fail (.unexpectedArgument tokens.head)
  | steps + 1, tokens => do
    let (first, rest) ← argument tokens
    match rest with
    | ⟨.rightParen, _⟩ :: rest => return ([first], rest)
    | rest =>
      let ((), rest) ← expect .comma rest
      let (more, rest) ← arguments steps rest
      return (first :: more, rest)

def call : Parser Call
  | ⟨.identifier name, position⟩ :: rest => do
    let ((), rest) ← expect .leftParen rest
    let (arguments, rest) ← arguments rest.length rest
    return (⟨name, arguments, position⟩, rest)
  | tokens => tokens.fail (.expectedFunction tokens.head)

/-- Calls inside brackets, apart by dots or commas. -/
def bracketCalls : Nat → Parser (List Call)
  | 0, tokens => tokens.fail (.expectedFunction tokens.head)
  | steps + 1, tokens => do
    let (first, rest) ← call tokens
    match rest with
    | ⟨.dot, _⟩ :: rest | ⟨.comma, _⟩ :: rest =>
      let (more, rest) ← bracketCalls steps rest
      return (first :: more, rest)
    | rest =>
      let ((), rest) ← expect .rightBracket rest
      return ([first], rest)

/-- Calls behind a name, those for its key behind a colon. -/
def calls : Nat → Selector → Parser Selector
  | 0, selector, tokens => .ok (selector, tokens)
  | steps + 1, selector, tokens =>
    match tokens with
    | ⟨.colon, _⟩ :: rest => do
      let (call, rest) ← call rest
      calls steps { selector with keyCalls := selector.keyCalls ++ [call] } rest
    | ⟨.dot, position⟩ :: rest =>
      if isCall rest then do
        let (call, rest) ← call rest
        calls steps { selector with valueCalls := selector.valueCalls ++ [call] } rest
      else .ok (selector, ⟨.dot, position⟩ :: rest)
    | ⟨.leftBracket, _⟩ :: rest => do
      let (added, rest) ← bracketCalls rest.length rest
      calls steps { selector with valueCalls := selector.valueCalls ++ added } rest
    | tokens => .ok (selector, tokens)

/-! ### Segments -/

def name : Parser Name
  | ⟨.identifier name, _⟩ :: rest => .ok (.exact name, rest)
  | ⟨.quoted name, _⟩ :: rest => .ok (.exact name, rest)
  | ⟨.integer n, _⟩ :: rest => .ok (.exact (toString n.toInt), rest)
  | ⟨.star, _⟩ :: rest => .ok (.anyShallow, rest)
  | ⟨.doubleStar, _⟩ :: rest => .ok (.anyDeep, rest)
  | ⟨.variable name, _⟩ :: rest => .ok (.variable name, rest)
  | ⟨.glob glob, position⟩ :: rest =>
    match Name.glob? glob with
    | .ok name => .ok (name, rest)
    | .error fault => .error ⟨.invalidGlob glob fault, position⟩
  | ⟨.regex pattern ignoresCase, position⟩ :: rest =>
    match Name.regex? pattern ignoresCase with
    | .ok name => .ok (name, rest)
    | .error fault => .error ⟨.invalidRegex pattern fault, position⟩
  | tokens => tokens.fail (.expectedName tokens.head)

def depth : Parser Nat
  | ⟨.integer n, _⟩ :: rest => .ok (n.toInt.toNat, rest)
  | tokens => tokens.fail (.expectedDepth tokens.head)

/-- The bounds behind the opening brace: a least depth, and perhaps a greater one behind a comma. -/
def depthBounds (tokens : Tokens) : Except ParseError ((Nat × Option Nat) × Tokens) := do
  let (low, rest) ← depth tokens
  match rest with
  | ⟨.comma, _⟩ :: ⟨.rightBrace, _⟩ :: rest => return ((low, none), rest)
  | ⟨.comma, _⟩ :: rest =>
    let (high, after) ← depth rest
    if high ≤ low then Tokens.fail rest (.depthOrder high low)
    let ((), after) ← expect .rightBrace after
    return ((low, some high), after)
  | rest =>
    let ((), rest) ← expect .rightBrace rest
    return ((low, none), rest)

/-- A brace with a number behind `**` opens its depth bounds. -/
def bounded (selector : Selector) (tokens : Tokens) : Except ParseError (Selector × Tokens) :=
  match selector.name, tokens with
  | .anyDeep, ⟨.leftBrace, _⟩ :: ⟨.integer n, position⟩ :: rest => do
    let ((low, high), rest) ← depthBounds (⟨.integer n, position⟩ :: rest)
    return ({ selector with minDepth := some low, maxDepth := high }, rest)
  | _, tokens => return (selector, tokens)

/-- The block of a segment, if one follows; its selectors are read by `inside`. -/
def block (inside : Parser (List Selector)) (selector : Selector) (tokens : Tokens) :
    Except ParseError (Selector × Tokens) :=
  match tokens with
  | ⟨.leftBrace, _⟩ :: ⟨.rightBrace, _⟩ :: rest =>
    return ({ selector with nested := true, emptyNested := true }, rest)
  | ⟨.leftBrace, _⟩ :: rest => do
    let (children, rest) ← inside rest
    let ((), rest) ← expect .rightBrace rest
    return ({ selector with nested := true, children := Block.finish children }, rest)
  | tokens => return (selector, tokens)

/-- A name with its depth bounds, its calls and its block. -/
def segment (inside : Parser (List Selector)) (tokens : Tokens) :
    Except ParseError (Selector × Tokens) := do
  let (name, rest) ← name tokens
  let (selector, rest) ← bounded (Selector.named name tokens.position) rest
  let (selector, rest) ← calls rest.length selector rest
  block inside selector rest

/-! ### Selectors -/

/-- The segments of a dotted path. -/
def path (inside : Parser (List Selector)) : Nat → Parser (List Selector)
  | 0, tokens => tokens.fail (.expectedName tokens.head)
  | steps + 1, tokens => do
    let (first, rest) ← segment inside tokens
    match rest with
    | ⟨.dot, position⟩ :: rest =>
      if isCall rest then return ([first], ⟨.dot, position⟩ :: rest)
      let (more, rest) ← path inside steps rest
      return (first :: more, rest)
    | rest => return ([first], rest)

/-- A path is a nest of blocks around its last segment; none of the others may have a block of its own.
Blocks are opened from the inside, so the last segment with a block too many is reported. -/
def nest (leaf : Selector) : List Selector → Except ParseError Selector
  | [] => .ok leaf
  | parent :: rest => do
    let child ← nest leaf rest
    if parent.nested then throw ⟨.blockBeforeDot parent.name.raw, parent.position⟩
    return { parent with nested := true, children := Block.finish [child] }

/-- A hyphen in front of a path drops what its last segment matches. -/
def selector (inside : Parser (List Selector)) (tokens : Tokens) :
    Except ParseError (Selector × Tokens) := do
  let (negated, rest) :=
    match tokens with
    | ⟨.minus, _⟩ :: rest => (true, rest)
    | tokens => (false, tokens)
  let (segments, rest) ← path inside rest.length rest
  match segments.getLast? with
  | some leaf => return (← nest { leaf with negated } segments.dropLast, rest)
  | none => Tokens.fail rest (.expectedName (Tokens.head rest))

/-- Selectors apart by commas. -/
def selectorsWith (inside : Parser (List Selector)) : Nat → Parser (List Selector)
  | 0, tokens => tokens.fail (.expectedName tokens.head)
  | steps + 1, tokens => do
    let (first, rest) ← selector inside tokens
    match rest with
    | ⟨.comma, _⟩ :: rest =>
      let (more, rest) ← selectorsWith inside steps rest
      return (first :: more, rest)
    | rest => return ([first], rest)

/-- Selectors whose blocks stand inside one another at most so many times. -/
def selectors : Nat → Parser (List Selector)
  | 0, tokens => tokens.fail (.expectedName tokens.head)
  | levels + 1, tokens => selectorsWith (selectors levels) tokens.length tokens

/-! ### Stages -/

/-- A stage without selectors keeps everything. -/
def stage (tokens : Tokens) : Except ParseError (List Selector × Tokens) :=
  match tokens.head with
  | .pipe | .finish => return ([Selector.named .anyDeep tokens.position], tokens)
  | _ => do
    let (selectors, rest) ← selectors tokens.length tokens
    return (Block.finish selectors, rest)

/-- Stages apart by bars, numbered from `number` on. -/
def stages : Nat → Nat → Parser (List Selector)
  | 0, _, tokens => tokens.fail (.expectedName tokens.head)
  | steps + 1, number, tokens => do
    let (selectors, rest) ← stage tokens
    let staged := Selector.allWithStage number selectors
    match rest with
    | ⟨.pipe, _⟩ :: rest =>
      let (more, rest) ← stages steps (number + 1) rest
      return (staged ++ more, rest)
    | rest => return (staged, rest)

/-- All tokens have to be read. -/
def filter (tokens : Tokens) : Except ParseError (List Selector) := do
  let (selectors, rest) ← stages (tokens.length + 1) 0 tokens
  let ((), _) ← expect .finish rest
  return selectors

end Parser

/-- A text without a first mistake is a tree of selectors. -/
def compile (text : String) : Except ParseError Tree := do
  let tokens ← (tokenize text).mapError fun error => ⟨.lexical error, error.position⟩
  return ⟨text, ← Parser.filter tokens⟩

end FieldSelect
