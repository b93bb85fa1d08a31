import FieldSelect.Proofs.Filter.Numerals

/-! Depth bounds by themselves. A filter that is nothing but `**` with bounds is a single selector with these bounds, as
long as their numbers are integers and rise. -/
namespace FieldSelect

/-- The selector `**` with a least depth, and perhaps a greatest one. -/
def Selector.deep (position : Position) (depths : Nat × Option Nat) : Selector :=
  { Selector.named .anyDeep position with minDepth := some depths.1, maxDepth := depths.2 }

/-- Depth bounds as they can be written: a least depth, perhaps with a comma, and perhaps with a greatest one. -/
inductive DepthBound where
  | least (low : Nat)
  | unlimited (low : Nat)
  | limited (low high : Nat)

namespace DepthBound

def low : DepthBound → Nat
  | .least low | .unlimited low | .limited low _ => low

def high : DepthBound → Option Nat
  | .limited _ high => some high
  | _ => none

/-- The filter that has just these bounds. -/
def text : DepthBound → String
  | .least low => "**\x7b" ++ toString low ++ "\x7d"
  | .unlimited low => "**\x7b" ++ toString low ++ ",\x7d"
  | .limited low high => "**\x7b" ++ toString low ++ "," ++ toString high ++ "\x7d"

/-- The numbers are integers of 64 bits. -/
def Narrow (bound : DepthBound) : Prop := bound.low < 2 ^ 63 ∧ ∀ most ∈ bound.high, most < 2 ^ 63

/-- The greatest depth is above the least one. -/
def Rises (bound : DepthBound) : Prop := ∀ most ∈ bound.high, bound.low < most

/-- The words behind the least depth. -/
def ending : DepthBound → List Token
  | .least _ => [.rightBrace]
  | .unlimited _ => [.comma, .rightBrace]
  | .limited _ high => [.comma, .integer (.ofNat high), .rightBrace]

def words (bound : DepthBound) : List Token :=
  .doubleStar :: .leftBrace :: .integer (.ofNat bound.low) :: bound.ending

/-- The depths that are read, or the reason why there are none. -/
def depths (bound : DepthBound) (place : Position) : Except ParseError (Nat × Option Nat) :=
  match bound with
  | .least low | .unlimited low => .ok (low, none)
  | .limited low high => if high ≤ low then .error ⟨.depthOrder high low, place⟩ else .ok (low, some high)

theorem depths_eq_ok_iff {bound : DepthBound} {place : Position} {found : Nat × Option Nat} :
    bound.depths place = .ok found ↔ bound.Rises ∧ (bound.low, bound.high) = found := by
  cases bound with
  | least | unlimited => simp [depths, Rises, low, high]
  | limited least most =>
    simp only [depths, Rises, low, high, Option.mem_def, Option.some.injEq, forall_eq']
    split
    · rename_i falls
      simp [Nat.not_lt_of_le falls]
    · rename_i rises
      simp [Nat.lt_of_not_le rises]

end DepthBound

section Words
variable {n : Nat} {c : Char} {token : Token} {back : List Char} {words : List Token}

theorem reads_nil_iff : Reads [] words [] ↔ words = [] := by
  constructor
  · intro reads
    cases reads
    rfl
  · rintro rfl
    exact .done []

theorem reads_sign_iff (sign : sign? c = some token) :
    Reads (c :: back) words [] ↔ ∃ more, words = token :: more ∧ Reads back more [] := by
  constructor
  · exact of_reads_sign sign
  · rintro ⟨more, rfl, reads⟩
    exact (Token.Spells.sign sign).reads (stops_sign sign) reads

/-- A number is read just if it is an integer of 64 bits. -/
theorem reads_number_iff (stops : ∀ m : Int64, (Token.integer m).stops back = true) :
    Reads ((toString n).toList ++ back) words [] ↔
      n < 2 ^ 63 ∧ ∃ more, words = .integer (.ofNat n) :: more ∧ Reads back more [] := by
  have printed : (toString n).toList = Nat.toDigits 10 n := Nat.toList_repr
  have digit : ∀ c ∈ Nat.toDigits 10 n, c.isDigit = true :=
    fun c member => Nat.isDigit_of_mem_toDigits (by decide) (by decide) member
  have spells (small : n < 2 ^ 63) : (Token.integer (.ofNat n)).Spells (Nat.toDigits 10 n) := by
    have value : (Int64.ofNat n).toInt = n := Int64.toInt_ofNat_of_lt small
    have spelled := spells_integer (value ▸ Int.natCast_nonneg n)
    rwa [value, Int.toNat_natCast] at spelled
  rw [printed]
  constructor
  · intro reads
    obtain ⟨m, narrowed⟩ := exists_narrow_of_reads Nat.toDigits_ne_nil digit (stops 0) reads
    rw [digitsValue_toDigits] at narrowed
    have small : n < 2 ^ 63 := by
      have same := toInt_of_narrow? narrowed
      have high := m.toInt_lt
      omega
    exact ⟨small, (spells small).of_reads (stops _) reads⟩
  · rintro ⟨small, more, rfl, reads⟩
    exact (spells small).reads (stops _) reads

theorem reads_deep_iff : Reads ('*' :: '*' :: '\x7b' :: back) words [] ↔
    ∃ more, words = .doubleStar :: .leftBrace :: more ∧ Reads back more [] := by
  have stars : Token.doubleStar.Spells ['*', '*'] :=
    @Token.Spells.word '*' ['*'] rfl (List.forall_mem_cons.mpr ⟨rfl, List.forall_mem_singleton.mpr rfl⟩)
  have brace : sign? '\x7b' = some .leftBrace := rfl
  change Reads (['*', '*'] ++ '\x7b' :: back) words [] ↔ _
  constructor
  · intro reads
    obtain ⟨behind, rfl, opening⟩ := stars.of_reads rfl reads
    obtain ⟨more, rfl, inside⟩ := of_reads_sign brace opening
    exact ⟨more, rfl, inside⟩
  · rintro ⟨more, rfl, reads⟩
    exact stars.reads rfl (.sign brace (by decide) reads)

end Words

namespace DepthBound
variable {bound : DepthBound} {words : List Token}

/-- The words of the filter, whose numbers have to be integers of 64 bits. -/
theorem reads_text_iff : Reads bound.text.toList words [] ↔ bound.Narrow ∧ words = bound.words := by
  have comma (back : List Char) (m : Int64) : (Token.integer m).stops (',' :: back) = true := rfl
  have brace (back : List Char) (m : Int64) : (Token.integer m).stops ('\x7d' :: back) = true := rfl
  have comma_ : sign? ',' = some .comma := rfl
  have brace_ : sign? '\x7d' = some .rightBrace := rfl
  cases bound with
  | least low =>
    have whole : (least low).text.toList = '*' :: '*' :: '\x7b' :: ((toString low).toList ++ ['\x7d']) := by simp [text]
    simp only [whole, reads_deep_iff, reads_number_iff (brace _), reads_sign_iff brace_, reads_nil_iff]
    constructor
    · rintro ⟨_, rfl, small, _, rfl, _, rfl, rfl⟩
      exact ⟨⟨small, nofun⟩, rfl⟩
    · rintro ⟨⟨small, _⟩, rfl⟩
      exact ⟨_, rfl, small, _, rfl, _, rfl, rfl⟩
  | unlimited low =>
    have whole : (unlimited low).text.toList = '*' :: '*' :: '\x7b' :: ((toString low).toList ++ [',', '\x7d']) := by
      simp [text]
    simp only [whole, reads_deep_iff, reads_number_iff (comma _), reads_sign_iff comma_, reads_sign_iff brace_,
      reads_nil_iff]
    constructor
    · rintro ⟨_, rfl, small, _, rfl, _, rfl, _, rfl, rfl⟩
      exact ⟨⟨small, nofun⟩, rfl⟩
    · rintro ⟨⟨small, _⟩, rfl⟩
      exact ⟨_, rfl, small, _, rfl, _, rfl, _, rfl, rfl⟩
  | limited low high =>
    have whole : (limited low high).text.toList =
        '*' :: '*' :: '\x7b' :: ((toString low).toList ++ ',' :: ((toString high).toList ++ ['\x7d'])) := by simp [text]
    simp only [whole, reads_deep_iff, reads_number_iff (comma _), reads_sign_iff comma_, reads_number_iff (brace _),
      reads_sign_iff brace_, reads_nil_iff]
    constructor
    · rintro ⟨_, rfl, small, _, rfl, _, rfl, small', _, rfl, _, rfl, rfl⟩
      refine ⟨⟨small, ?_⟩, rfl⟩
      rintro _ ⟨⟩
      exact small'
    · rintro ⟨⟨small, small'⟩, rfl⟩
      exact ⟨_, rfl, small, _, rfl, _, rfl, small' high rfl, _, rfl, _, rfl, rfl⟩

end DepthBound

namespace Parser
variable {p q r t : Position} {n : Int64} {rest : Tokens}

/-- A filter of one segment is read, or refused, as the segment is. -/
theorem filter_of_segment {token : Token} {outcome : Except ParseError Selector}
    (names : Grammar.isPattern token = true)
    (read : ∀ inside, segment inside (⟨token, p⟩ :: rest) = outcome.map fun found => (found, [⟨.finish, t⟩])) :
    Parser.filter (⟨token, p⟩ :: rest) =
      outcome.map fun found => Selector.allWithStage 0 (Block.finish [{ found with negated := false }]) := by
  have path_ (inside : Parser (List Selector)) (steps : Nat) :
      path inside (steps + 1) (⟨token, p⟩ :: rest) = outcome.map fun found => ([found], [⟨.finish, t⟩]) := by
    rw [path, read]
    cases outcome <;> rfl
  have selector_ (inside : Parser (List Selector)) : selector inside (⟨token, p⟩ :: rest) =
      outcome.map fun found => ({ found with negated := false }, [⟨.finish, t⟩]) := by
    have unsigned : Tokens.head (⟨token, p⟩ :: rest) ≠ .minus := by
      rintro ⟨⟩
      cases names
    rw [selector_unsigned unsigned, unsignedSelector, List.length_cons, path_]
    cases outcome <;> rfl
  have stage_ : stage (⟨token, p⟩ :: rest) =
      outcome.map fun found => (Block.finish [{ found with negated := false }], [⟨.finish, t⟩]) := by
    rw [stage.eq_def]
    split
    · rename_i pipe
      cases pipe
      cases names
    · rename_i finish
      cases finish
      cases names
    · rw [List.length_cons, selectors, List.length_cons, selectorsWith, selector_]
      cases outcome <;> rfl
  rw [Parser.filter, List.length_cons, stages, stage_]
  cases outcome <;> rfl

theorem filter_of_depthBounds {outcome : Except ParseError (Nat × Option Nat)}
    (bounding : depthBounds (⟨.integer n, r⟩ :: rest) = outcome.map fun depths => (depths, [⟨.finish, t⟩])) :
    Parser.filter (⟨.doubleStar, p⟩ :: ⟨.leftBrace, q⟩ :: ⟨.integer n, r⟩ :: rest) = outcome.map fun depths =>
      [Selector.deep p depths] := by
  have read (inside : Parser (List Selector)) :
      segment inside (⟨.doubleStar, p⟩ :: ⟨.leftBrace, q⟩ :: ⟨.integer n, r⟩ :: rest) =
        (outcome.map (Selector.deep p)).map fun found => (found, [⟨.finish, t⟩]) := by
    change (bounded (Selector.named .anyDeep p) _ >>= _) = _
    rw [bounded_deep rfl, bounding]
    cases outcome <;> rfl
  rw [filter_of_segment rfl read]
  cases outcome <;> rfl

end Parser

namespace DepthBound
variable {bound : DepthBound} {tokens : Tokens}

theorem depthBounds_ending (narrow : bound.Narrow) (start : Position)
    (spells : tokens.words = bound.ending ++ [.finish]) :
    ∃ place position, Parser.depthBounds (⟨.integer (.ofNat bound.low), start⟩ :: tokens) =
      (bound.depths place).map fun depths => (depths, [⟨.finish, position⟩]) := by
  have least : (Int64.ofNat bound.low).toInt.toNat = bound.low := Parser.toInt_ofNat narrow.1
  cases bound with
  | least =>
    obtain ⟨_, _, rfl, ended⟩ := Tokens.of_words_cons spells
    obtain ⟨position, _, rfl, none⟩ := Tokens.of_words_cons ended
    cases List.map_eq_nil_iff.mp none
    refine ⟨start, position, ?_⟩
    change Except.ok ((_, _), _) = _
    rw [least]
    rfl
  | unlimited =>
    obtain ⟨_, _, rfl, closing⟩ := Tokens.of_words_cons spells
    obtain ⟨_, _, rfl, ended⟩ := Tokens.of_words_cons closing
    obtain ⟨position, _, rfl, none⟩ := Tokens.of_words_cons ended
    cases List.map_eq_nil_iff.mp none
    refine ⟨start, position, ?_⟩
    change Except.ok ((_, _), _) = _
    rw [least]
    rfl
  | limited low high =>
    have most := Parser.toInt_ofNat (narrow.2 high rfl)
    obtain ⟨_, _, rfl, number⟩ := Tokens.of_words_cons spells
    obtain ⟨place, _, rfl, closing⟩ := Tokens.of_words_cons number
    obtain ⟨_, _, rfl, ended⟩ := Tokens.of_words_cons closing
    obtain ⟨position, _, rfl, none⟩ := Tokens.of_words_cons ended
    cases List.map_eq_nil_iff.mp none
    refine ⟨place, position, ?_⟩
    dsimp only [DepthBound.low] at least ⊢
    change (if (Int64.ofNat high).toInt.toNat ≤ (Int64.ofNat low).toInt.toNat then _ else _) = _
    rw [most, least, depths]
    by_cases falls : high ≤ low
    · rw [if_pos falls, if_pos falls]
      rfl
    · rw [if_neg falls, if_neg falls]
      rfl

theorem filter_words (narrow : bound.Narrow) (spells : tokens.words = bound.words ++ [.finish]) :
    ∃ position place, Parser.filter tokens = (bound.depths place).map fun depths =>
      [Selector.deep position depths] := by
  obtain ⟨position, _, rfl, opening⟩ := Tokens.of_words_cons spells
  obtain ⟨_, _, rfl, number⟩ := Tokens.of_words_cons opening
  obtain ⟨start, _, rfl, ending⟩ := Tokens.of_words_cons number
  obtain ⟨place, _, bounding⟩ := depthBounds_ending narrow start ending
  exact ⟨position, place, Parser.filter_of_depthBounds bounding⟩

/-- The text of the bounds is a filter just if the numbers are integers of 64 bits and rise, and then it is the one
selector that has the bounds. -/
theorem compile_bound (bound : DepthBound) :
    ((∃ tree, compile bound.text = .ok tree) ↔ bound.Narrow ∧ bound.Rises) ∧
      ∀ tree, compile bound.text = .ok tree →
        ∃ position, tree.selectors = [Selector.deep position (bound.low, bound.high)] := by
  have made (narrow : bound.Narrow) : ∃ position place, (compile bound.text).map Tree.selectors =
      (bound.depths place).map fun depths => [Selector.deep position depths] := by
    obtain ⟨tokens, tokenized, spells⟩ := (reads_text_iff.mpr ⟨narrow, rfl⟩).tokenize
    obtain ⟨position, place, filtered⟩ := filter_words narrow spells
    exact ⟨position, place, (map_compile tokenized).trans filtered⟩
  have narrow {tree : Tree} (compiled : compile bound.text = .ok tree) : bound.Narrow := by
    obtain ⟨_, _, _, _, reads, _⟩ := compile_ok compiled
    exact (reads_text_iff.mp reads).1
  have single {tree : Tree} (compiled : compile bound.text = .ok tree) :
      bound.Rises ∧ ∃ position, tree.selectors = [Selector.deep position (bound.low, bound.high)] := by
    obtain ⟨position, place, selected⟩ := made (narrow compiled)
    rw [compiled] at selected
    obtain ⟨depths, found, same⟩ := exists_of_map_eq_ok selected.symm
    obtain ⟨rises, rfl⟩ := depths_eq_ok_iff.mp found
    exact ⟨rises, position, same.symm⟩
  refine ⟨⟨?_, ?_⟩, fun tree compiled => (single compiled).2⟩
  · rintro ⟨tree, compiled⟩
    exact ⟨narrow compiled, (single compiled).1⟩
  · rintro ⟨small, rises⟩
    obtain ⟨position, place, selected⟩ := made small
    rw [depths_eq_ok_iff.mpr ⟨rises, rfl⟩] at selected
    obtain ⟨tree, compiled, _⟩ := exists_of_map_eq_ok selected
    exact ⟨tree, compiled⟩

end DepthBound
end FieldSelect
