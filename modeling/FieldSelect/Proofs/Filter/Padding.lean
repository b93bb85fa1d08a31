import FieldSelect.Proofs.Filter.Lexemes
import FieldSelect.Proofs.Filter.Placing

/-! White space between tokens. Every kind of token stops at white space, and where it stopped before it stops in front
of white space as well, so that a filter with more of it has the same tokens at other places. -/
namespace FieldSelect

/-- The second text is the first one with white space put in where a token starts or ends, or where white space is. -/
inductive Padded : List Char → List Char → Prop where
  | finish : Padded [] []
  | pad {c : Char} {text other : List Char} (blank : isBlank c = true) (more : Padded text other) :
      Padded text (c :: other)
  | blank {c : Char} {text other : List Char} (blank : isBlank c = true) (more : Padded text other) :
      Padded (c :: text) (c :: other)
  | token {c : Char} {front back other : List Char} {token : Token} (dark : isBlank c = false)
      (read : readToken (c :: (front ++ back)) = .ok token (c :: front).length) (more : Padded back other) :
      Padded (c :: (front ++ back)) (c :: (front ++ other))

section Stops
variable {token : Token} {c : Char} {rest rest' : List Char}

/-- White space goes on with no token. -/
theorem endsToken_of_isBlank (blank : isBlank c = true) : endsToken c = true := by
  have noLetter : isAlphanumeric c = false := by
    by_cases letter : isAlphanumeric c = true
    · rw [isBlank_eq_false_of_isAlphanumeric letter] at blank
      cases blank
    · simpa using letter
  have other {d : Char} (dark : isBlank d = false) : c ≠ d := by
    intro same
    rw [same, dark] at blank
    cases blank
  have signs : c ≠ '_' ∧ c ≠ '$' ∧ c ≠ '*' ∧ c ≠ '-' ∧ c ≠ '.' :=
    ⟨other rfl, other rfl, other rfl, other rfl, other rfl⟩
  simp [endsToken, isNameChar, noLetter, signs]

/-- Only behind a dot the second character counts. -/
theorem stops_of_head (stops : token.stops (c :: rest) = true)
    (next : c = '.' → ∀ d ∈ rest'.head?, d.isDigit = true → d ∈ rest.head?) : token.stops (c :: rest') = true := by
  cases token with
  | integer n =>
    by_cases dot : c = '.'
    · subst dot
      rw [Token.stops, Option.all_eq_true] at stops ⊢
      intro d here
      by_cases digit : d.isDigit = true
      · exact stops d (next rfl d here digit)
      · simpa using digit
    · rwa [stops_integer_of_ne dot] at stops ⊢
  | _ => exact stops

end Stops

namespace Padded
variable {text other back : List Char} {token : Token}

/-- What stands first stood first before, or it is white space. -/
theorem head (padded : Padded text other) : ∀ c ∈ other.head?, isBlank c = true ∨ c ∈ text.head? := by
  intro c first
  cases padded with
  | finish => cases first
  | pad blank =>
    cases first
    exact .inl blank
  | blank blank =>
    cases first
    exact .inl blank
  | token => exact .inr first

/-- A token does not go on behind which white space is put. -/
theorem stops (padded : Padded back other) (stops : token.stops back = true) : token.stops other = true := by
  cases padded with
  | finish => exact stops
  | pad blank => exact stops_of_endsToken (endsToken_of_isBlank blank)
  | blank blank => exact stops_of_endsToken (endsToken_of_isBlank blank)
  | @token c front back other found dark read more =>
    apply stops_of_head stops
    intro dot d here digit
    -- The dot is a token by itself, so that what follows it was padded on its own.
    subst dot
    cases front with
    | cons _ _ => cases congrArg Reading.length read
    | nil =>
      rcases more.head d here with blank | same
      · simp [(not_isNameStart_of_isBlank blank).2] at digit
      · exact same

/-- The same tokens are read of both. -/
theorem reads (padded : Padded text other) : ∃ tokens, Reads text tokens [] ∧ Reads other tokens [] := by
  induction padded with
  | finish => exact ⟨[], .done [], .done []⟩
  | pad blank _ ih =>
    obtain ⟨tokens, own, own'⟩ := ih
    exact ⟨tokens, own, .blank blank own'⟩
  | blank blank _ ih =>
    obtain ⟨tokens, own, own'⟩ := ih
    exact ⟨tokens, .blank blank own, .blank blank own'⟩
  | @token c front back other token dark read more ih =>
    obtain ⟨tokens, own, own'⟩ := ih
    obtain ⟨front', back', whole, width, spells, stops⟩ := readToken_eq_ok_iff.mp read
    have whole : c :: front ++ back = front' ++ back' := whole
    obtain ⟨rfl, rfl⟩ := List.append_inj whole width
    have read' : readToken (c :: (front ++ other)) = .ok token (c :: front).length :=
      readToken_of_spells spells (more.stops stops)
    refine ⟨token :: tokens, .token dark read ?_, .token dark read' ?_⟩
    · simpa using own
    · simpa using own'

end Padded

theorem Reads.padded {text rest : List Char} {tokens : List Token} (reads : Reads text tokens rest)
    (ended : rest = []) : Padded text text := by
  induction reads with
  | done =>
    subst ended
    exact .finish
  | blank blank _ ih => exact .blank blank (ih ended)
  | token dark read _ ih =>
    obtain ⟨front, back, whole, rfl, spells, stops⟩ := readToken_eq_ok_iff.mp read
    have more := ih ended
    rw [whole, List.drop_left] at more
    obtain ⟨c, front, rfl⟩ := List.exists_cons_of_ne_nil spells.ne_nil
    rw [List.cons_append] at whole
    obtain ⟨rfl, rfl⟩ := List.cons.inj whole
    exact .token dark read more

/-- A text can be padded, with nothing at least, just when it is made of tokens. -/
theorem padded_self_iff {text : String} : Padded text.toList text.toList ↔ ∃ tokens, tokenize text = .ok tokens := by
  constructor
  · intro padded
    obtain ⟨_, reads, _⟩ := padded.reads
    obtain ⟨tokens, tokenized, _⟩ := reads.tokenize
    exact ⟨tokens, tokenized⟩
  · rintro ⟨tokens, tokenized⟩
    obtain ⟨_, reads, _⟩ := tokenize_ok tokenized
    exact reads.padded rfl

/-- What becomes of tokens is the filter of the text. -/
theorem compile_of_tokenize {text : String} {tokens : List Spanned} (read : tokenize text = .ok tokens) :
    compile text = (Parser.filter tokens).map fun selectors => ⟨text, selectors⟩ := by
  rw [compile, read]
  cases found : Parser.filter tokens <;> simp [Except.mapError, bind, Except.bind, found] <;> rfl

/-- The place of one token in both. -/
def SamePlace (tokens others : List Spanned) (p q : Position) : Prop :=
  ∃ pair ∈ tokens.zip others, p = pair.1.position ∧ q = pair.2.position

/-- White space between tokens changes nothing but places: the tokens are the same, and the text is the same filter as
before, or it is refused for the same reason at the same token. -/
theorem compile_padded {text other : String} (padded : Padded text.toList other.toList) :
    ∃ tokens others, tokenize text = .ok tokens ∧ tokenize other = .ok others ∧
      tokens.map (·.token) = others.map (·.token) ∧
        Agree (SamePlace tokens others) (fun tree tree' =>
          tree.selectors.map Selector.unplaced = tree'.selectors.map Selector.unplaced) (compile text)
            (compile other) := by
  obtain ⟨read, reads, reads'⟩ := padded.reads
  obtain ⟨tokens, tokenized, spells⟩ := reads.tokenize
  obtain ⟨others, tokenized', spells'⟩ := reads'.tokenize
  have alike : Tokens.Alike (SamePlace tokens others) tokens others :=
    .of_words reads.ne_finish spells spells' fun pair member => ⟨pair, member, rfl, rfl⟩
  refine ⟨tokens, others, tokenized, tokenized', spells.trans spells'.symm, ?_⟩
  rw [compile_of_tokenize tokenized, compile_of_tokenize tokenized']
  have agree := Parser.alike_filter alike
  generalize Parser.filter tokens = first at agree
  generalize Parser.filter others = second at agree
  cases agree with
  | ok same => exact .ok same
  | error fault placed => exact .error fault placed

theorem compile_padded_of_number : Padded "a.2,~b~i".toList " a . 2\n,~b~i\u3000".toList ∧
    ∃ tokens others, tokenize "a.2,~b~i" = .ok tokens ∧ tokenize " a . 2\n,~b~i\u3000" = .ok others ∧
      tokens.map (·.token) = others.map (·.token) ∧
        Agree (SamePlace tokens others) (fun tree tree' =>
          tree.selectors.map Selector.unplaced = tree'.selectors.map Selector.unplaced) (compile "a.2,~b~i")
            (compile " a . 2\n,~b~i\u3000") := by
  have padded : Padded "a.2,~b~i".toList " a . 2\n,~b~i\u3000".toList := by
    change Padded ['a', '.', '2', ',', '~', 'b', '~', 'i']
      [' ', 'a', ' ', '.', ' ', '2', '\n', ',', '~', 'b', '~', 'i', '\u3000']
    have regex : Padded ['~', 'b', '~', 'i'] ['~', 'b', '~', 'i', '\u3000'] :=
      @Padded.token '~' ['b', '~', 'i'] [] _ _ rfl rfl (.pad (by decide) .finish)
    have two : readToken (['2'] ++ [',', '~', 'b', '~', 'i']) = .ok (.integer 2) ['2'].length :=
      readToken_of_spells (.integer (by simp) (by simp) (by decide)) rfl
    have number : Padded ['2', ',', '~', 'b', '~', 'i'] ['2', '\n', ',', '~', 'b', '~', 'i', '\u3000'] :=
      @Padded.token '2' [] _ _ _ rfl two (.pad rfl (@Padded.token ',' [] _ _ _ rfl rfl regex))
    exact .pad rfl (@Padded.token 'a' [] _ _ _ rfl rfl (.pad rfl
      (@Padded.token '.' [] _ _ _ rfl rfl (.pad rfl number))))
  exact ⟨padded, compile_padded padded⟩

end FieldSelect
