import FieldSelect.Proofs.Filter.Stages

/-! The grammar of filters, on tokens without their places, and the conditions under which its phrases can be told
apart: which words a phrase can start with, and what may follow it. -/
namespace FieldSelect
namespace Grammar

/-! ### Words ahead -/

/-- A name with an opening parenthesis is a function. -/
def opensCall : List Token → Bool
  | .identifier _ :: .leftParen :: _ => true
  | _ => false

/-- A brace with a number opens depth bounds where it can. -/
def opensBound : List Token → Bool
  | .leftBrace :: .integer _ :: _ => true
  | _ => false

theorem opensCall_append {front : List Token} (opens : opensCall front = true) (back : List Token) :
    opensCall (front ++ back) = true := by
  unfold opensCall at opens
  split at opens <;> trivial

theorem opensBound_append {front : List Token} (opens : opensBound front = true) (back : List Token) :
    opensBound (front ++ back) = true := by
  unfold opensBound at opens
  split at opens <;> trivial

/-! ### Calls -/

inductive Argument : List Token → Prop where
  | quoted (chars : String) : Argument [.quoted chars]
  | integer (n : Int64) : Argument [.integer n]
  | float (x : Float) : Argument [.float x]
  | negativeInteger (n : Int64) : Argument [.minus, .integer n]
  | negativeFloat (x : Float) : Argument [.minus, .float x]
  | word {word : String} (valued : word = "true" ∨ word = "false" ∨ word = "null") : Argument [.identifier word]
  | variable (name : String) : Argument [.variable name]

/-- Arguments apart by commas, with one more behind the last if so wished. -/
inductive Arguments : List Token → Prop where
  | last {first : List Token} (argument : Argument first) : Arguments first
  | trailing {first : List Token} (argument : Argument first) : Arguments (first ++ [.comma])
  | comma {first more : List Token} (argument : Argument first) (others : Arguments more) :
      Arguments (first ++ .comma :: more)

inductive Call : List Token → Prop where
  | bare (name : String) : Call [.identifier name, .leftParen, .rightParen]
  | applied (name : String) {words : List Token} (arguments : Arguments words) :
      Call (.identifier name :: .leftParen :: (words ++ [.rightParen]))

/-- Calls inside brackets, apart by dots or commas. -/
inductive Chain : List Token → Prop where
  | last {first : List Token} (call : Call first) : Chain first
  | dot {first more : List Token} (call : Call first) (others : Chain more) : Chain (first ++ .dot :: more)
  | comma {first more : List Token} (call : Call first) (others : Chain more) : Chain (first ++ .comma :: more)

/-- Calls behind a name, in any order. -/
inductive Calls : List Token → Prop where
  | none : Calls []
  | key {first more : List Token} (call : Call first) (others : Calls more) : Calls (.colon :: (first ++ more))
  | value {first more : List Token} (call : Call first) (others : Calls more) : Calls (.dot :: (first ++ more))
  | chained {chain more : List Token} (calls : Chain chain) (others : Calls more) :
      Calls (.leftBracket :: (chain ++ .rightBracket :: more))

/-! ### Names and depth bounds -/

def isPattern : Token → Bool
  | .identifier _ | .quoted _ | .integer _ | .star | .doubleStar | .variable _ | .glob _ | .regex _ _ => true
  | _ => false

/-- A greatest depth is above the least one. -/
inductive Bound : List Token → Prop where
  | least (low : Int64) : Bound [.leftBrace, .integer low, .rightBrace]
  | unlimited (low : Int64) : Bound [.leftBrace, .integer low, .comma, .rightBrace]
  | limited {low high : Int64} (rises : low.toInt < high.toInt) :
      Bound [.leftBrace, .integer low, .comma, .integer high, .rightBrace]

theorem Bound.opensBound {bound : List Token} (bounds : Bound bound) (back : List Token) :
    opensBound (bound ++ back) = true := by
  cases bounds <;> rfl

/-! ### Selectors -/

/-- The phrases that hold one another. Whether a segment has a block matters for what may follow it. -/
inductive Phrase where
  | block (present : Bool)
  | segment (blocked : Bool)
  | path
  | selector
  | selectors

/-- The words make up such a phrase. Depth bounds stand behind `**` as soon as the words behind it open some, a dot of
a path has no function behind it, and only the last segment of a path has a block. -/
inductive Derives : Phrase → List Token → Prop where
  | unblocked : Derives (.block false) []
  | emptied : Derives (.block true) [.leftBrace, .rightBrace]
  | filled {words : List Token} (selectors : Derives .selectors words) :
      Derives (.block true) (.leftBrace :: (words ++ [.rightBrace]))
  | segment {pattern : Token} {bound calls block : List Token} {blocked : Bool} (names : isPattern pattern = true)
      (bounded : pattern = .doubleStar ∧ opensBound (bound ++ (calls ++ block)) = true → Bound bound)
      (unbounded : ¬(pattern = .doubleStar ∧ opensBound (bound ++ (calls ++ block)) = true) → bound = [])
      (called : Calls calls) (ends : Derives (.block blocked) block) :
      Derives (.segment blocked) (pattern :: (bound ++ (calls ++ block)))
  | last {words : List Token} {blocked : Bool} (segment : Derives (.segment blocked) words) : Derives .path words
  | dot {first more : List Token} (segment : Derives (.segment false) first) (uncalled : opensCall more = false)
      (others : Derives .path more) : Derives .path (first ++ .dot :: more)
  | kept {words : List Token} (path : Derives .path words) : Derives .selector words
  | dropped {words : List Token} (path : Derives .path words) : Derives .selector (.minus :: words)
  | one {words : List Token} (selector : Derives .selector words) : Derives .selectors words
  | comma {first more : List Token} (selector : Derives .selector first) (others : Derives .selectors more) :
      Derives .selectors (first ++ .comma :: more)

/-! ### Stages -/

inductive Stage : List Token → Prop where
  | empty : Stage []
  | filled {words : List Token} (selectors : Derives .selectors words) : Stage words

/-- Stages apart by bars. -/
inductive Stages : List Token → Prop where
  | last {words : List Token} (stage : Stage words) : Stages words
  | bar {first more : List Token} (stage : Stage first) (others : Stages more) : Stages (first ++ .pipe :: more)

inductive Filter : List Token → Prop where
  | ended {words : List Token} (stages : Stages words) : Filter (words ++ [.finish])

end Grammar
end FieldSelect
