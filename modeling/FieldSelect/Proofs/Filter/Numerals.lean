import FieldSelect.Proofs.Filter.Padding
import FieldSelect.Proofs.Filter.Siblings

/-! Integers as arguments. A sign is a token by itself and the digits behind it are read without it, so that an integer
can be written as an argument just when its opposite is one too. -/
namespace FieldSelect

/-- A filter with one call, whose only argument is the integer in decimal. -/
def integerCall (n : Int64) : String := "x.f(" ++ toString n.toInt ++ ")"

section Words
variable {n : Int64} {back : List Char} {words : List Token}

/-- The digits of an integer without a sign. -/
theorem spells_integer (unsigned : 0 ≤ n.toInt) : (Token.integer n).Spells (Nat.toDigits 10 n.toInt.toNat) := by
  refine .integer Nat.toDigits_ne_nil (fun c member => Nat.isDigit_of_mem_toDigits (by decide) (by decide) member) ?_
  rw [digitsValue_toDigits, Int.toNat_of_nonneg unsigned, narrow?_toInt]

/-- The decimal text of an integer is read as the words of an argument with this value, in front of what ends a
token. -/
theorem reads_integer (opposite : n ≠ Int64.minValue) (ends : ∀ c ∈ back.head?, endsToken c = true)
    (more : Reads back words []) :
    Reads ((toString n.toInt).toList ++ back) ((Argument.literal (.integer n)).words ++ words) [] := by
  have digits {m : Int64} (unsigned : 0 ≤ m.toInt) :
      Reads (Nat.toDigits 10 m.toInt.toNat ++ back) (.integer m :: words) [] := by
    refine (spells_integer unsigned).reads ?_ more
    cases back with
    | nil => exact stops_nil _
    | cons c back => exact stops_of_endsToken (ends c rfl)
  rw [Argument.words]
  by_cases negative : n.toInt < 0
  · have flipped := toInt_neg_of_ne_minValue opposite
    obtain ⟨k, least⟩ := Int.eq_negSucc_of_lt_zero negative
    have printed : (toString n.toInt).toList = '-' :: Nat.toDigits 10 (-n).toInt.toNat := by
      have size : (-n).toInt.toNat = k + 1 := by omega
      rw [least, size]
      change ("-" ++ Nat.repr (k + 1)).toList = _
      simp [Nat.repr]
    rw [if_pos negative, printed]
    exact .sign rfl (by decide) (digits (by omega))
  · have printed : (toString n.toInt).toList = Nat.toDigits 10 n.toInt.toNat := by
      obtain ⟨k, same⟩ := Int.eq_ofNat_of_zero_le (Int.not_lt.mp negative)
      rw [same]
      change (Nat.repr k).toList = _
      simp [Nat.repr]
    rw [if_neg negative, printed]
    exact digits (by omega)

theorem reads_integerCall (opposite : n ≠ Int64.minValue) : Reads (integerCall n).toList
    (.identifier "x" :: .dot :: .identifier "f" :: .leftParen ::
      ((Argument.literal (.integer n)).words ++ [.rightParen])) [] := by
  have closing : Reads [')'] [.rightParen] [] := .sign rfl (by decide) (.done [])
  have number := reads_integer opposite (by rintro _ ⟨⟩; decide) closing
  have whole : (integerCall n).toList = 'x' :: '.' :: 'f' :: '(' :: ((toString n.toInt).toList ++ [')']) := by
    simp [integerCall]
  rw [whole]
  exact .token (by decide) rfl (.sign rfl (by decide) (.token (by decide) rfl (.sign rfl (by decide) number)))

end Words

theorem map_compile_integerCall {n : Int64} (opposite : n ≠ Int64.minValue) :
    ∃ place place', (compile (integerCall n)).map Tree.selectors = .ok
      [{ Selector.named (.exact "x") place with valueCalls := [⟨"f", [.literal (.integer n)], place'⟩] }] := by
  obtain ⟨tokens, tokenized, spells⟩ := (reads_integerCall opposite).tokenize
  rw [map_compile tokenized]
  obtain ⟨place, _, rfl, dot⟩ := Parser.of_tokens_cons spells
  obtain ⟨_, _, rfl, called⟩ := Parser.of_tokens_cons dot
  obtain ⟨place', _, rfl, opening⟩ := Parser.of_tokens_cons called
  obtain ⟨_, _, rfl, filled⟩ := Parser.of_tokens_cons opening
  refine ⟨place, place', ?_⟩
  rw [Argument.words] at filled
  split at filled
  · obtain ⟨_, _, rfl, number⟩ := Parser.of_tokens_cons filled
    obtain ⟨_, _, rfl, closing⟩ := Parser.of_tokens_cons number
    obtain ⟨_, _, rfl, ended⟩ := Parser.of_tokens_cons closing
    obtain ⟨_, _, rfl, none⟩ := Parser.of_tokens_cons ended
    cases List.map_eq_nil_iff.mp none
    conv => rhs; rw [← Int64.neg_neg (a := n)]
    rfl
  · obtain ⟨_, _, rfl, closing⟩ := Parser.of_tokens_cons filled
    obtain ⟨_, _, rfl, ended⟩ := Parser.of_tokens_cons closing
    obtain ⟨_, _, rfl, none⟩ := Parser.of_tokens_cons ended
    cases List.map_eq_nil_iff.mp none
    rfl

/-- The digits of the least integer are too great for a positive one. -/
theorem map_compile_minValue (selectors : List Selector) :
    (compile (integerCall Int64.minValue)).map Tree.selectors ≠ .ok selectors := by
  have refused : (compile (integerCall Int64.minValue)).map Tree.selectors =
      .error ⟨.lexical ⟨.invalidNumber "9223372036854775808", ⟨1, 6⟩⟩, ⟨1, 6⟩⟩ := rfl
  intro same
  cases refused.symm.trans same

/-- Integers that are read have an opposite. -/
theorem Scanner.toInt_neg_of_next {scanner behind : Scanner} {spanned : Spanned} {m : Int64}
    (read : scanner.next = (.ok spanned, behind)) (integer : spanned.token = .integer m) :
    (-m).toInt = -m.toInt := by
  obtain ⟨_, rfl, _⟩ | ⟨front, _, spells, _⟩ := cases_of_next read
  · cases integer
  · rw [integer] at spells
    have unsigned : 0 ≤ m.toInt := spells.inner
    refine toInt_neg_of_ne_minValue ?_
    rintro rfl
    exact absurd unsigned (by decide)

/-- Every integer but the least one is the argument of a call that has its decimal text, and where the sign of a number
is turned around nothing overflows. -/
theorem compile_integerCall (n : Int64) :
    ((∃ place place', (compile (integerCall n)).map Tree.selectors = .ok
        [{ Selector.named (.exact "x") place with valueCalls := [⟨"f", [.literal (.integer n)], place'⟩] }]) ↔
      n ≠ Int64.minValue) ∧
    ∀ (scanner behind : Scanner) (spanned : Spanned) (m : Int64), scanner.next = (.ok spanned, behind) →
      spanned.token = .integer m → (-m).toInt = -m.toInt := by
  refine ⟨⟨?_, map_compile_integerCall⟩, fun _ _ _ _ read integer => Scanner.toInt_neg_of_next read integer⟩
  rintro ⟨_, _, compiled⟩ rfl
  exact map_compile_minValue _ compiled

/-- The digits of the least integer are refused, though a hyphen stands in front of them. -/
theorem compile_integerCall_minValue : integerCall Int64.minValue = "x.f(-9223372036854775808)" ∧
    ¬∃ tree, compile "x.f(-9223372036854775808)" = .ok tree := by
  have written : integerCall Int64.minValue = "x.f(-9223372036854775808)" := by cbv
  refine ⟨written, ?_⟩
  rintro ⟨tree, compiled⟩
  refine map_compile_minValue tree.selectors ?_
  rw [written, compiled]
  rfl

end FieldSelect
