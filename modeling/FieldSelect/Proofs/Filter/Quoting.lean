import FieldSelect.Proofs.Filter.Padding
import FieldSelect.Proofs.Filter.Siblings

/-! Which texts are a single quoted name or a single regular expression. Every string can be put in quotes of either
kind, and a string is a pattern between tildes unless it ends in a backslash. -/
namespace FieldSelect

/-- What may stand behind a backslash in quotes, and what it stands for there. -/
def escapes : List (Char × Char) :=
  [('n', '\n'), ('t', '\t'), ('r', '\r'), ('"', '"'), ('\'', '\''), ('\\', '\\')]

def IsQuote (c : Char) : Prop := c = '"' ∨ c = '\''

/-- The characters are written so between quotes: a backslash and the quote itself have to be escaped, and whatever has
an escape may be. -/
inductive Quotes (quote : Char) : List Char → List Char → Prop where
  | nil : Quotes quote [] []
  | plain {c : Char} {chars body : List Char} (open_ : c ≠ quote) (unmarked : c ≠ '\\')
      (more : Quotes quote chars body) : Quotes quote (c :: chars) (c :: body)
  | escaped {e c : Char} {chars body : List Char} (pair : (e, c) ∈ escapes) (more : Quotes quote chars body) :
      Quotes quote (c :: chars) ('\\' :: e :: body)

/-- The text is the token and nothing else. -/
def Token.IsText (token : Token) (text : String) : Prop :=
  ∃ tokens, tokenize text = .ok tokens ∧ tokens.map (·.token) = [token, .finish]

/-- The text is this stretch, with nothing around it but white space. -/
def StandsAlone (front : List Char) (text : String) : Prop :=
  ∃ before after, (∀ c ∈ before, isBlank c = true) ∧ (∀ c ∈ after, isBlank c = true) ∧
    text.toList = before ++ front ++ after

section Quotes
variable {quote e c : Char} {chars body text : List Char} {length : Nat}

theorem escaped?_eq_some_iff : escaped? e = some c ↔ (e, c) ∈ escapes := by
  constructor
  · intro found
    unfold escaped? at found
    split at found <;> cases found <;> simp [escapes]
  · intro pair
    simp only [escapes, List.mem_cons, Prod.mk.injEq, List.not_mem_nil, or_false] at pair
    rcases pair with ⟨rfl, rfl⟩ | ⟨rfl, rfl⟩ | ⟨rfl, rfl⟩ | ⟨rfl, rfl⟩ | ⟨rfl, rfl⟩ | ⟨rfl, rfl⟩ <;> rfl

/-- A string can be written in quotes of either kind. -/
theorem exists_quotes (own : IsQuote quote) (chars : List Char) : ∃ body, Quotes quote chars body := by
  induction chars with
  | nil => exact ⟨[], .nil⟩
  | cons c chars ih =>
    obtain ⟨body, more⟩ := ih
    by_cases special : c = quote ∨ c = '\\'
    · have pair : (c, c) ∈ escapes := by
        rcases special with rfl | rfl
        · rcases own with rfl | rfl <;> decide
        · decide
      exact ⟨_, .escaped pair more⟩
    · obtain ⟨open_, unmarked⟩ := not_or.mp special
      exact ⟨_, .plain open_ unmarked more⟩

theorem IsQuote.ne_backslash (own : IsQuote quote) : quote ≠ '\\' := by
  rcases own with rfl | rfl <;> decide

/-- What is written between quotes is read up to the closing one. -/
theorem Quotes.read (quotes : Quotes quote chars body) (own : IsQuote quote) (back : List Char) :
    readQuoted quote (body ++ quote :: back) = .ok chars (body.length + 1) := by
  induction quotes with
  | nil =>
    rw [List.nil_append, readQuoted_cons own.ne_backslash, if_pos (BEq.refl quote)]
    rfl
  | plain open_ unmarked _ ih =>
    rw [List.cons_append, readQuoted_cons unmarked, if_neg (by simpa using open_), ih]
    simp [Reading.behind, Reading.ok, Except.map, Nat.add_comm 1]
  | escaped pair _ ih =>
    rw [List.cons_append, List.cons_append, readQuoted, escaped?_eq_some_iff.mpr pair]
    dsimp only
    rw [ih]
    simp [Reading.behind, Reading.ok, Except.map, Nat.add_comm 2]

/-- Whatever is read up to a closing quote was written so. -/
theorem quotes_of_readQuoted (read : readQuoted quote text = .ok chars length) :
    ∃ body back, text = body ++ quote :: back ∧ length = body.length + 1 ∧ Quotes quote chars body := by
  fun_induction readQuoted quote text generalizing chars length with
  | case1 => cases read
  | case2 => cases read
  | case3 e rest c found ih =>
    obtain ⟨inner, behind, same, rfl, rfl⟩ := Reading.behind_eq_ok.mp read
    obtain ⟨body, back, rfl, rfl, quotes⟩ := ih same
    exact ⟨_, back, rfl, by simp [Nat.add_comm 2], .escaped (escaped?_eq_some_iff.mp found) quotes⟩
  | case4 => cases read
  | case5 c rest single pair closing =>
    cases read
    obtain rfl : c = quote := by simpa using closing
    exact ⟨[], rest, rfl, rfl, .nil⟩
  | case6 c rest single pair open_ ih =>
    obtain ⟨inner, behind, same, rfl, rfl⟩ := Reading.behind_eq_ok.mp read
    obtain ⟨body, back, rfl, rfl, quotes⟩ := ih same
    have unmarked : c ≠ '\\' := by
      rintro rfl
      cases whole : body ++ quote :: back with
      | nil => exact single rfl whole
      | cons e rest => exact pair e rest rfl whole
    exact ⟨c :: body, back, rfl, by simp [Nat.add_comm 1], .plain (by simpa using open_) unmarked quotes⟩

end Quotes

/-- A pattern that is read ends in no backslash, and only its tildes were escaped. -/
theorem escapePattern_of_readPattern {text chars : List Char} {length : Nat}
    (read : readPattern text = .ok chars length) : chars.getLast? ≠ some '\\' ∧
      ∃ back, text = escapePattern chars ++ '~' :: back ∧ length = (escapePattern chars).length + 1 := by
  fun_induction readPattern text generalizing chars length with
  | case1 => cases read
  | case2 rest ih =>
    obtain ⟨inner, behind, same, rfl, rfl⟩ := Reading.behind_eq_ok.mp read
    obtain ⟨closed, back, rfl, rfl⟩ := ih same
    refine ⟨?_, back, by simp [escapePattern], by simp [escapePattern, Nat.add_comm 2]⟩
    cases inner with
    | nil => simp
    | cons d inner => rwa [List.getLast?_cons_cons]
  | case3 c rest plain closing =>
    cases read
    obtain rfl : c = '~' := by simpa using closing
    exact ⟨by simp, rest, rfl, rfl⟩
  | case4 c rest plain open_ ih =>
    obtain ⟨inner, behind, same, rfl, rfl⟩ := Reading.behind_eq_ok.mp read
    obtain ⟨closed, back, rfl, rfl⟩ := ih same
    have other : c ≠ '~' := by simpa using open_
    refine ⟨?_, back, by simp [escapePattern, other], by simp [escapePattern, other, Nat.add_comm 1]⟩
    cases inner with
    | nil =>
      -- The closing tilde would be escaped by it.
      intro last
      exact plain back (by simpa using last) rfl
    | cons d inner => rwa [List.getLast?_cons_cons]

section Tokens
variable {token : Token} {text front back : List Char} {words : List Token}

theorem Reads.blanks_of_nil (reads : Reads text [] back) :
    ∃ blanks, text = blanks ++ back ∧ ∀ c ∈ blanks, isBlank c = true := by
  generalize none : ([] : List Token) = words at reads
  induction reads with
  | done rest => exact ⟨[], rfl, by simp⟩
  | @blank c _ _ _ blank _ ih =>
    obtain ⟨blanks, rfl, others⟩ := ih none
    exact ⟨c :: blanks, rfl, List.forall_mem_cons.mpr ⟨blank, others⟩⟩
  | token => cases none

/-- The first token of a text, with the white space in front of it. -/
theorem Reads.exists_spells (reads : Reads text (token :: words) back) :
    ∃ blanks front rest, text = blanks ++ front ++ rest ∧ (∀ c ∈ blanks, isBlank c = true) ∧ token.Spells front ∧
      Reads rest words back := by
  generalize all : token :: words = read at reads
  induction reads with
  | done => cases all
  | @blank c _ _ _ blank _ ih =>
    obtain ⟨blanks, front, rest, rfl, others, spells, more⟩ := ih all
    exact ⟨c :: blanks, front, rest, rfl, List.forall_mem_cons.mpr ⟨blank, others⟩, spells, more⟩
  | token _ read more =>
    cases all
    obtain ⟨front, rest, whole, rfl, spells, _⟩ := readToken_eq_ok_iff.mp read
    rw [whole, List.drop_left] at more
    exact ⟨[], front, rest, whole, by simp, spells, more⟩

/-- A text is a single token just when this is written there by itself. -/
theorem Token.isText_iff {text : String} :
    token.IsText text ↔ ∃ front, token.Spells front ∧ StandsAlone front text := by
  constructor
  · rintro ⟨tokens, tokenized, single⟩
    obtain ⟨read, reads, words⟩ := tokenize_ok tokenized
    obtain rfl : read = [token] := List.append_cancel_right (words.symm.trans single)
    obtain ⟨before, front, rest, whole, blank, spells, more⟩ := reads.exists_spells
    obtain ⟨after, rfl, blank'⟩ := more.blanks_of_nil
    rw [List.append_nil] at whole
    exact ⟨front, spells, before, after, blank, blank', whole⟩
  · rintro ⟨front, spells, before, after, blank, blank', whole⟩
    have stops : token.stops after = true := by
      cases after with
      | nil => exact stops_nil token
      | cons c after => exact stops_of_endsToken (endsToken_of_isBlank (blank' c List.mem_cons_self))
    have behind : Reads after [] [] := by simpa using Reads.blanks blank' []
    have reads : Reads text.toList [token] [] := by
      rw [whole, List.append_assoc]
      exact (Reads.blanks blank _).append (spells.reads stops behind)
    exact reads.tokenize

/-- The token is written between signs of its own. -/
def Token.isDelimited : Token → Bool
  | .quoted _ | .regex _ _ => true
  | _ => false

theorem sign?_ne_of_isDelimited (delimited : token.isDelimited = true) {c : Char} : sign? c ≠ some token := by
  intro sign
  unfold sign? at sign
  split at sign <;> cases sign <;> cases delimited

theorem ne_ofWord_of_isDelimited (delimited : token.isDelimited = true) (word : List Char) : token ≠ .ofWord word := by
  rintro rfl
  rw [Token.ofWord] at delimited
  split at delimited
  · cases delimited
  · split at delimited
    · cases delimited
    · split at delimited <;> cases delimited

theorem spells_quoted_iff {chars : String} : (Token.quoted chars).Spells front ↔
    ∃ quote body, IsQuote quote ∧ Quotes quote chars.toList body ∧ front = quote :: (body ++ [quote]) := by
  constructor
  · intro spells
    generalize same : Token.quoted chars = token at spells
    cases spells with
    | sign sign => exact absurd (same ▸ sign) (sign?_ne_of_isDelimited rfl)
    | quoted own read =>
      cases same
      obtain ⟨body, back, rfl, width, quotes⟩ := quotes_of_readQuoted read
      obtain rfl : back = [] := by simpa using width
      exact ⟨_, body, own, by simpa using quotes, rfl⟩
    | word => exact absurd same (ne_ofWord_of_isDelimited rfl _)
    | _ => cases same
  · rintro ⟨quote, body, own, quotes, rfl⟩
    have read : readQuoted quote (body ++ [quote]) = .ok chars.toList (body ++ [quote]).length := by
      rw [quotes.read own, List.length_append, List.length_singleton]
    simpa using Token.Spells.quoted own read

theorem spells_regex_iff {pattern : String} {ignoresCase : Bool} : (Token.regex pattern ignoresCase).Spells front ↔
    pattern.toList.getLast? ≠ some '\\' ∧ front = (Token.regex pattern ignoresCase).spelling := by
  constructor
  · intro spells
    generalize same : Token.regex pattern ignoresCase = token at spells
    cases spells with
    | sign sign => exact absurd (same ▸ sign) (sign?_ne_of_isDelimited rfl)
    | regex read | flaggedRegex read =>
      cases same
      obtain ⟨closed, back, rfl, width⟩ := escapePattern_of_readPattern read
      obtain rfl : back = [] := by simpa using width
      exact ⟨by simpa using closed, by simp [Token.spelling]⟩
    | word => exact absurd same (ne_ofWord_of_isDelimited rfl _)
    | _ => cases same
  · rintro ⟨closed, rfl⟩
    have read : readPattern (escapePattern pattern.toList ++ ['~']) =
        .ok pattern.toList (escapePattern pattern.toList ++ ['~']).length := readPattern_escapePattern closed []
    cases ignoresCase with
    | false => simpa [Token.spelling] using Token.Spells.regex read
    | true => simpa [Token.spelling] using Token.Spells.flaggedRegex read

end Tokens

/-- Every string can be put in quotes of either kind, and the texts of a quoted name are just those that write it so. A
string is the pattern of some text, with the flag or without, just when it ends in no backslash. -/
theorem isText_quoted_and_regex :
    (∀ (chars : String) (quote : Char), IsQuote quote → ∃ body, Quotes quote chars.toList body) ∧
      (∀ chars text : String, (Token.quoted chars).IsText text ↔
        ∃ quote body, IsQuote quote ∧ Quotes quote chars.toList body ∧
          StandsAlone (quote :: (body ++ [quote])) text) ∧
        ∀ (pattern : String) (ignoresCase : Bool),
          (∃ text, (Token.regex pattern ignoresCase).IsText text) ↔ pattern.toList.getLast? ≠ some '\\' := by
  refine ⟨fun chars quote own => exists_quotes own chars.toList, fun chars text => ?_, fun pattern ignoresCase => ?_⟩
  · rw [Token.isText_iff]
    constructor
    · rintro ⟨front, spells, alone⟩
      obtain ⟨quote, body, own, quotes, rfl⟩ := spells_quoted_iff.mp spells
      exact ⟨quote, body, own, quotes, alone⟩
    · rintro ⟨quote, body, own, quotes, alone⟩
      exact ⟨_, spells_quoted_iff.mpr ⟨quote, body, own, quotes, rfl⟩, alone⟩
  · constructor
    · rintro ⟨text, single⟩
      obtain ⟨front, spells, _⟩ := Token.isText_iff.mp single
      exact (spells_regex_iff.mp spells).1
    · intro closed
      have spells : (Token.regex pattern ignoresCase).Spells (Token.regex pattern ignoresCase).spelling :=
        spells_regex_iff.mpr ⟨closed, rfl⟩
      refine ⟨String.ofList (Token.regex pattern ignoresCase).spelling, Token.isText_iff.mpr ⟨_, spells, [], [], ?_⟩⟩
      simp

end FieldSelect
