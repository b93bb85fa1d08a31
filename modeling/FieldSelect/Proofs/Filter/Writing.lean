import FieldSelect.Proofs.Filter.Accepting
import FieldSelect.Proofs.Filter.Lettering
import FieldSelect.Proofs.Filter.Reading
import Mathlib

/-! Well-formed filters written down. Names are quoted, every block has its braces, and no path is dotted, so that what
is written is read back as it was. -/
namespace FieldSelect
open Selector

/-! ### Words of names and calls -/

/-- A pattern stands for itself: between tildes, with a flag perhaps, it is a regular expression, and else a glob. -/
def Name.word : Name → Token
  | .exact name => .quoted name
  | .anyShallow => .star
  | .anyDeep => .doubleStar
  | .variable name => .variable name
  | .pattern shape =>
    match shape.raw.toList with
    | '~' :: text =>
      if text.getLast? = some 'i' then .regex (String.ofList text.dropLast.dropLast) true
      else .regex (String.ofList text.dropLast) false
    | _ => .glob shape.raw

def Argument.words : Argument → List Token
  | .variable name => [.variable name]
  | .literal (.string chars) => [.quoted chars]
  | .literal (.boolean true) => [.identifier "true"]
  | .literal (.boolean false) => [.identifier "false"]
  | .literal .null => [.identifier "null"]
  | .literal (.integer n) => if n.toInt < 0 then [.minus, .integer (-n)] else [.integer n]
  | .literal _ => []

def Call.words (call : Call) : List Token :=
  .identifier call.name :: .leftParen ::
    ([Token.comma].intercalate (call.arguments.map Argument.words) ++ [.rightParen])

/-- A variable can be named so. -/
structure IsVariable (name : String) : Prop where
  some_ : name ≠ ""
  named : ∀ c ∈ name.toList, isNameChar c = true

/-- The names that can be written. -/
inductive Name.Writable : Name → Prop where
  | exact (name : String) : Writable (.exact name)
  | anyShallow : Writable .anyShallow
  | anyDeep : Writable .anyDeep
  | variable {name : String} (plain : IsVariable name) : Writable (.variable name)
  | glob {text : String} {name : Name} (spelled : (Token.glob text).Spelled) (compiled : Name.glob? text = .ok name) :
      Writable name
  | regex {text : String} {ignoresCase : Bool} {name : Name} (compiled : Name.regex? text ignoresCase = .ok name)
      (closed : text.toList.getLast? ≠ some '\\') : Writable name

/-- The arguments that can be written: the least integer has no opposite, and floats have no exact text. -/
inductive Argument.Writable : Argument → Prop where
  | variable {name : String} (plain : IsVariable name) : Writable (.variable name)
  | string (chars : String) : Writable (.literal (.string chars))
  | boolean (truth : Bool) : Writable (.literal (.boolean truth))
  | null : Writable (.literal .null)
  | integer {n : Int64} (opposite : n ≠ Int64.minValue) : Writable (.literal (.integer n))

structure Call.Writable (call : Call) : Prop where
  name : IsIdentifier call.name
  arguments : ∀ argument ∈ call.arguments, argument.Writable

/-! ### Words of selectors -/

def boundWords : Option Nat → Option Nat → List Token
  | some low, some high =>
    [.leftBrace, .integer (Int64.ofNat low), .comma, .integer (Int64.ofNat high), .rightBrace]
  | some low, none => [.leftBrace, .integer (Int64.ofNat low), .rightBrace]
  | none, _ => []

def callWords (keyCalls valueCalls : List Call) : List Token :=
  keyCalls.flatMap (fun call => .colon :: call.words) ++ valueCalls.flatMap fun call => .dot :: call.words

def blockWords (nested emptyNested : Bool) (children : List (List Token)) : List Token :=
  if nested then
    if emptyNested then [.leftBrace, .rightBrace]
    else .leftBrace :: ([Token.comma].intercalate children ++ [.rightBrace])
  else []

namespace Selector

mutual

def words : Selector → List Token
  | ⟨_, name, children, _, keyCalls, valueCalls, negated, nested, emptyNested, _, low, high⟩ =>
    (if negated then [.minus] else []) ++ name.word ::
      (boundWords low high ++ (callWords keyCalls valueCalls ++ blockWords nested emptyNested (wordsEach children)))

def wordsEach : List Selector → List (List Token)
  | [] => []
  | selector :: rest => selector.words :: wordsEach rest

end

theorem wordsEach_eq_map (selectors : List Selector) : wordsEach selectors = selectors.map words := by
  induction selectors with
  | nil => rfl
  | cons selector rest ih => rw [wordsEach, ih, List.map_cons]

/-- The words behind the sign of a selector. -/
def segmentWords (selector : Selector) : List Token :=
  selector.name.word :: (boundWords selector.minDepth selector.maxDepth ++
    (callWords selector.keyCalls selector.valueCalls ++
      blockWords selector.nested selector.emptyNested (selector.children.map words)))

theorem words_eq (selector : Selector) :
    selector.words = (if selector.negated then [.minus] else []) ++ selector.segmentWords := by
  cases selector
  rw [words, wordsEach_eq_map, segmentWords]

/-- The parts of a selector that are written can be written. -/
structure Writable (selector : Selector) : Prop where
  name : selector.name.Writable
  low : ∀ bound, selector.minDepth = some bound → bound < 2 ^ 63
  high : ∀ bound, selector.maxDepth = some bound → bound < 2 ^ 63
  keyCalls : ∀ call ∈ selector.keyCalls, call.Writable
  valueCalls : ∀ call ∈ selector.valueCalls, call.Writable

theorem writable_of_unbounded {selector : Selector} (name : selector.name.Writable) (low : selector.minDepth = none)
    (high : selector.maxDepth = none) (keyCalls : ∀ call ∈ selector.keyCalls, call.Writable)
    (valueCalls : ∀ call ∈ selector.valueCalls, call.Writable) : selector.Writable := by
  refine ⟨name, fun bound same => ?_, fun bound same => ?_, keyCalls, valueCalls⟩
  · rw [low] at same
    cases same
  · rw [high] at same
    cases same

end Selector

/-! ### Words of names -/

theorem Name.isPattern_word (name : Name) : Grammar.isPattern name.word = true := by
  cases name with
  | pattern shape =>
    rw [Name.word]
    split
    · split <;> rfl
    · rfl
  | _ => rfl

theorem Name.word_ne_integer (name : Name) (n : Int64) : name.word ≠ .integer n := by
  cases name with
  | pattern shape =>
    rw [Name.word]
    split
    · split <;> nofun
    · nofun
  | _ => nofun

theorem Name.word_of_regex? {text : String} {ignoresCase : Bool} {name : Name}
    (compiled : Name.regex? text ignoresCase = .ok name) : name.word = .regex text ignoresCase := by
  have raw : ∃ regex literals,
      name = .pattern ⟨"~" ++ text ++ (if ignoresCase then "~i" else "~"), regex, literals⟩ := by
    unfold Name.regex? at compiled
    dsimp only at compiled
    generalize Regex.read _ = regex at compiled
    cases regex <;> cases compiled
    exact ⟨_, _, rfl⟩
  obtain ⟨regex, literals, rfl⟩ := raw
  cases ignoresCase <;> simp [Name.word, List.getLast?_append]

theorem Name.word_of_glob? {text : String} {name : Name} (spelled : (Token.glob text).Spelled)
    (compiled : Name.glob? text = .ok name) : name.word = .glob text := by
  have raw : ∃ regex literals, name = .pattern ⟨text, regex, literals⟩ := by
    unfold Name.glob? at compiled
    generalize Regex.read _ = regex at compiled
    cases regex <;> cases compiled
    exact ⟨_, _, rfl⟩
  obtain ⟨regex, literals, rfl⟩ := raw
  rw [Name.word]
  split
  · rename_i rest opened
    -- A text that opens with a tilde is read as a regular expression or not at all.
    have read : readToken text.toList = .ok (.glob text) text.toList.length := spelled
    rw [opened] at read
    have outcome : ((readRegex rest).shift 1).outcome = .ok (.glob text) := congrArg Reading.outcome read
    rw [readRegex] at outcome
    cases pattern : (readPattern rest).outcome <;> simp [Reading.shift, Reading.ok, Reading.fail, pattern] at outcome
  · rfl

/-! ### All words can be read -/

/-- The token can be read from the way it is written, and it is not the end. -/
structure Token.Legible (token : Token) : Prop where
  spelled : token.Spelled
  inner : token ≠ .finish

theorem legible_of_mem_intercalate (separator : Token) (own : separator.Legible) {lists : List (List Token)}
    (each : ∀ words ∈ lists, ∀ token ∈ words, token.Legible) :
    ∀ token ∈ [separator].intercalate lists, token.Legible := by
  induction lists with
  | nil => nofun
  | cons first rest ih =>
    obtain ⟨front, others⟩ := List.forall_mem_cons.mp each
    cases rest with
    | nil =>
      rw [List.intercalate_singleton]
      exact front
    | cons next rest =>
      rw [List.intercalate_cons_cons]
      have separated := List.forall_mem_append.mpr ⟨front, List.forall_mem_singleton.mpr own⟩
      exact List.forall_mem_append.mpr ⟨separated, ih others⟩

theorem legible_integer {n : Int64} (unsigned : 0 ≤ n.toInt) : (Token.integer n).Legible :=
  ⟨spelled_integer unsigned, nofun⟩

theorem legible_variable {name : String} (plain : IsVariable name) : (Token.variable name).Legible :=
  ⟨spelled_variable plain.some_ plain.named, nofun⟩

theorem Name.Writable.legible {name : Name} (writable : name.Writable) : name.word.Legible := by
  cases writable with
  | exact name => exact ⟨spelled_quoted name, nofun⟩
  | anyShallow | anyDeep => exact ⟨rfl, nofun⟩
  | «variable» plain => exact legible_variable plain
  | glob spelled compiled =>
    rw [Name.word_of_glob? spelled compiled]
    exact ⟨spelled, nofun⟩
  | regex compiled closed =>
    rw [Name.word_of_regex? compiled]
    exact ⟨spelled_regex closed _, nofun⟩

/-- Only the least integer has no opposite. -/
theorem toInt_neg_of_ne_minValue {n : Int64} (opposite : n ≠ Int64.minValue) : (-n).toInt = -n.toInt := by
  have low : -2 ^ 63 ≤ n.toInt := Int64.le_toInt n
  have high : n.toInt < 2 ^ 63 := Int64.toInt_lt n
  have least : n.toInt ≠ -2 ^ 63 := fun same => opposite (Int64.toInt_inj.mp same)
  rw [Int64.toInt_neg, Int.bmod_eq_of_le (by omega) (by omega)]

theorem Argument.Writable.legible {argument : Argument} (writable : argument.Writable) :
    ∀ token ∈ argument.words, token.Legible := by
  cases writable with
  | «variable» plain => exact List.forall_mem_singleton.mpr (legible_variable plain)
  | string chars => exact List.forall_mem_singleton.mpr ⟨spelled_quoted chars, nofun⟩
  | boolean truth => cases truth <;> exact List.forall_mem_singleton.mpr ⟨rfl, nofun⟩
  | null => exact List.forall_mem_singleton.mpr ⟨rfl, nofun⟩
  | @integer n opposite =>
    have flipped := toInt_neg_of_ne_minValue opposite
    rw [Argument.words]
    split
    · refine List.forall_mem_cons.mpr ⟨⟨rfl, nofun⟩, List.forall_mem_singleton.mpr (legible_integer ?_)⟩
      omega
    · exact List.forall_mem_singleton.mpr (legible_integer (by omega))

theorem Call.Writable.legible {call : Call} (writable : call.Writable) : ∀ token ∈ call.words, token.Legible := by
  have filled : ∀ token ∈ [Token.comma].intercalate (call.arguments.map Argument.words), token.Legible :=
    legible_of_mem_intercalate .comma ⟨rfl, nofun⟩
      (List.forall_mem_map.mpr fun argument member => (writable.arguments argument member).legible)
  refine List.forall_mem_cons.mpr ⟨⟨writable.name, nofun⟩, List.forall_mem_cons.mpr ⟨⟨rfl, nofun⟩, ?_⟩⟩
  exact List.forall_mem_append.mpr ⟨filled, List.forall_mem_singleton.mpr ⟨rfl, nofun⟩⟩

theorem legible_callWords {keyCalls valueCalls : List Call} (writable : ∀ call ∈ keyCalls, call.Writable)
    (writable' : ∀ call ∈ valueCalls, call.Writable) : ∀ token ∈ callWords keyCalls valueCalls, token.Legible := by
  have marked (mark : Token) (own : mark.Legible) {calls : List Call} (each : ∀ call ∈ calls, call.Writable) :
      ∀ token ∈ calls.flatMap (fun call => mark :: call.words), token.Legible := by
    intro token member
    obtain ⟨call, called, member⟩ := List.mem_flatMap.mp member
    exact List.forall_mem_cons.mpr ⟨own, (each call called).legible⟩ token member
  exact List.forall_mem_append.mpr ⟨marked .colon ⟨rfl, nofun⟩ writable, marked .dot ⟨rfl, nofun⟩ writable'⟩

theorem legible_boundWords {low high : Option Nat} (small : ∀ bound, low = some bound → bound < 2 ^ 63)
    (small' : ∀ bound, high = some bound → bound < 2 ^ 63) : ∀ token ∈ boundWords low high, token.Legible := by
  have number {bound : Nat} (small : bound < 2 ^ 63) : (Token.integer (Int64.ofNat bound)).Legible := by
    refine legible_integer ?_
    rw [Int64.toInt_ofNat_of_lt small]
    exact Int.natCast_nonneg bound
  cases low with
  | none => nofun
  | some least =>
    have least' := number (small least rfl)
    cases high with
    | none => simp only [boundWords, List.forall_mem_cons]; exact ⟨⟨rfl, nofun⟩, least', ⟨rfl, nofun⟩, nofun⟩
    | some most =>
      have most' := number (small' most rfl)
      simp only [boundWords, List.forall_mem_cons]
      exact ⟨⟨rfl, nofun⟩, least', ⟨rfl, nofun⟩, most', ⟨rfl, nofun⟩, nofun⟩

theorem legible_blockWords {nested emptyNested : Bool} {children : List (List Token)}
    (each : ∀ words ∈ children, ∀ token ∈ words, token.Legible) :
    ∀ token ∈ blockWords nested emptyNested children, token.Legible := by
  unfold blockWords
  split
  · split
    · exact List.forall_mem_cons.mpr ⟨⟨rfl, nofun⟩, List.forall_mem_singleton.mpr ⟨rfl, nofun⟩⟩
    · refine List.forall_mem_cons.mpr ⟨⟨rfl, nofun⟩, List.forall_mem_append.mpr ⟨?_, ?_⟩⟩
      · exact legible_of_mem_intercalate .comma ⟨rfl, nofun⟩ each
      · exact List.forall_mem_singleton.mpr ⟨rfl, nofun⟩
  · nofun

theorem Selector.legible {selector : Selector} (writable : ∀ below, Within below [selector] → below.Writable) :
    ∀ token ∈ selector.words, token.Legible := by
  induction selector using of_children with
  | step selector ih =>
    have own := writable selector (.here (List.mem_singleton_self selector))
    have inner : ∀ child ∈ selector.children, ∀ token ∈ child.words, token.Legible :=
      fun child member => ih child member fun below within => writable below (within.onward member)
    have segment : ∀ token ∈ selector.segmentWords, token.Legible :=
      List.forall_mem_cons.mpr ⟨own.name.legible, List.forall_mem_append.mpr ⟨legible_boundWords own.low own.high,
        List.forall_mem_append.mpr ⟨legible_callWords own.keyCalls own.valueCalls,
          legible_blockWords (List.forall_mem_map.mpr inner)⟩⟩⟩
    rw [words_eq]
    split
    · exact List.forall_mem_cons.mpr ⟨⟨rfl, nofun⟩, segment⟩
    · exact segment

end FieldSelect
