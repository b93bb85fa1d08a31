import FieldSelect.Proofs.Filter.Spelling
import Mathlib.Data.List.TakeWhile

/-! How tokens are written down. Each one can be read back in front of a blank, so that tokens apart by blanks are a
text of just these tokens. -/
namespace FieldSelect

/-! ### Characters that need a backslash -/

/-- Quotes and backslashes of a quoted text have a backslash in front. -/
def escapeQuoted : List Char → List Char
  | [] => []
  | c :: rest => if c = '"' ∨ c = '\\' then '\\' :: c :: escapeQuoted rest else c :: escapeQuoted rest

/-- Tildes of a regular expression have a backslash in front. -/
def escapePattern : List Char → List Char
  | [] => []
  | c :: rest => if c = '~' then '\\' :: c :: escapePattern rest else c :: escapePattern rest

theorem readQuoted_escapeQuoted (chars back : List Char) :
    readQuoted '"' (escapeQuoted chars ++ '"' :: back) = .ok chars (escapeQuoted chars ++ ['"']).length := by
  induction chars with
  | nil => rfl
  | cons c rest ih =>
    by_cases special : c = '"' ∨ c = '\\'
    · have escaped : escaped? c = some c := by rcases special with rfl | rfl <;> rfl
      rw [escapeQuoted, if_pos special, List.cons_append, List.cons_append, readQuoted, escaped]
      dsimp only
      rw [ih]
      simp [Reading.behind, Reading.ok, Except.map]
      omega
    · obtain ⟨open_, plain⟩ := not_or.mp special
      rw [escapeQuoted, if_neg special, List.cons_append, readQuoted_cons plain, if_neg (by simpa using open_), ih]
      simp [Reading.behind, Reading.ok, Except.map]
      omega

/-- A pattern that does not end in a backslash is read back up to its closing tilde. -/
theorem readPattern_escapePattern {chars : List Char} (closed : chars.getLast? ≠ some '\\') (back : List Char) :
    readPattern (escapePattern chars ++ '~' :: back) = .ok chars (escapePattern chars ++ ['~']).length := by
  induction chars with
  | nil => rfl
  | cons c rest ih =>
    have closed' : rest.getLast? ≠ some '\\' := by
      intro last
      cases rest with
      | nil => cases last
      | cons d rest => exact closed (by rw [List.getLast?_cons_cons]; exact last)
    by_cases tilde : c = '~'
    · subst tilde
      rw [escapePattern, if_pos rfl, List.cons_append, List.cons_append, readPattern, ih closed']
      simp [Reading.behind, Reading.ok, Except.map]
      omega
    · have plain : ∀ after, c = '\\' → escapePattern rest ++ '~' :: back ≠ '~' :: after := by
        rintro after rfl
        cases rest with
        | nil => exact absurd rfl closed
        | cons d rest =>
          rw [escapePattern]
          split
          · intro same
            cases same
          · rename_i other
            intro same
            exact other (List.cons.inj same).1
      rw [escapePattern, if_neg tilde, List.cons_append, readPattern_cons plain, if_neg (by simpa using tilde),
        ih closed']
      simp [Reading.behind, Reading.ok, Except.map]
      omega

/-! ### Tokens -/

/-- How a token is written. Floats are never written. -/
def Token.spelling : Token → List Char
  | .identifier name => name.toList
  | .quoted chars => '"' :: (escapeQuoted chars.toList ++ ['"'])
  | .integer n => Nat.toDigits 10 n.toInt.toNat
  | .float _ => []
  | .star => ['*']
  | .doubleStar => ['*', '*']
  | .glob pattern => pattern.toList
  | .regex pattern ignoresCase =>
    '~' :: (escapePattern pattern.toList ++ '~' :: if ignoresCase then ['i'] else [])
  | .variable name => '@' :: name.toList
  | .minus => ['-']
  | .colon => [':']
  | .pipe => ['|']
  | .comma => [',']
  | .dot => ['.']
  | .leftParen => ['(']
  | .rightParen => [')']
  | .leftBracket => ['[']
  | .rightBracket => [']']
  | .leftBrace => ['\x7b']
  | .rightBrace => ['\x7d']
  | .finish => []

/-- The token is read from the way it is written. -/
def Token.Spelled (token : Token) : Prop := readToken token.spelling = .ok token token.spelling.length

theorem spelled_quoted (chars : String) : (Token.quoted chars).Spelled := by
  change ((readQuoted '"' (escapeQuoted chars.toList ++ '"' :: [])).map _).shift 1 = _
  rw [readQuoted_escapeQuoted]
  simp [Reading.map, Reading.shift, Reading.ok, Except.map, Token.spelling]
  omega

theorem spelled_regex {pattern : String} (closed : pattern.toList.getLast? ≠ some '\\') (ignoresCase : Bool) :
    (Token.regex pattern ignoresCase).Spelled := by
  change (readRegex (escapePattern pattern.toList ++ '~' :: if ignoresCase then ['i'] else [])).shift 1 = _
  rw [readRegex, readPattern_escapePattern closed]
  have behind (flag : List Char) : (escapePattern pattern.toList ++ '~' :: flag).drop
      (escapePattern pattern.toList ++ ['~']).length = flag := by
    rw [List.append_cons _ '~' flag]
    exact List.drop_left
  simp only [Reading.ok, behind, String.ofList_toList]
  cases ignoresCase <;> simp [Reading.shift, Token.spelling] <;> omega

theorem spelled_variable {name : String} (some_ : name ≠ "") (named : ∀ c ∈ name.toList, isNameChar c = true) :
    (Token.variable name).Spelled := by
  have whole : name.toList.takeWhile isNameChar = name.toList := by
    rw [List.takeWhile_eq_self_iff]
    exact named
  have nonempty : name.toList ≠ [] := by simpa using some_
  change readVariable name.toList = _
  simp [readVariable, whole, nonempty, Token.spelling, Nat.add_comm]

theorem digitsValue_toDigits (n : Nat) : digitsValue (Nat.toDigits 10 n) = n :=
  Nat.ofDigitChars_ten_toDigits

/-- The character opens a token of its own kind. -/
def isMark (c : Char) : Bool := (sign? c).isSome || c == '"' || c == '\'' || c == '~' || c == '@'

theorem readToken_unmarked {c : Char} (unmarked : isMark c = false) (rest : List Char) :
    readToken (c :: rest) =
      if isNameStart c then
        .ok (Token.ofWord ((c :: rest).takeWhile isNameChar)) ((c :: rest).takeWhile isNameChar).length
      else if c.isDigit then readNumber (c :: rest)
      else .fail (.unexpectedCharacter c) 0 := by
  simp only [isMark, Bool.or_eq_false_iff, Option.isSome_eq_false_iff, Option.isNone_iff_eq_none] at unmarked
  obtain ⟨⟨⟨⟨sign, quote⟩, quote'⟩, tilde⟩, at_⟩ := unmarked
  rw [readToken, sign]
  simp only [quote, quote', tilde, at_, Bool.or_self, Bool.false_eq_true, if_false]

theorem unmarked_of_isDigit {c : Char} (digit : c.isDigit = true) : isMark c = false ∧ isNameStart c = false := by
  have all : (List.range' 48 10).all (fun point => !isMark (Char.ofNat point) && !isNameStart (Char.ofNat point)) =
      true := by decide +kernel
  simp only [Char.isDigit, Bool.and_eq_true, decide_eq_true_eq, UInt32.le_iff_toNat_le] at digit
  have point := List.all_eq_true.mp all c.toNat (List.mem_range'_1.mpr ⟨digit.1, Nat.lt_succ_of_le digit.2⟩)
  rwa [Char.ofNat_toNat, Bool.and_eq_true, Bool.not_eq_true', Bool.not_eq_true'] at point

theorem unmarked_of_isBlank {c : Char} (blank : isBlank c = true) : isMark c = false := by
  have unmarked : (!isMark c) = true := of_isBlank (p := fun c => !isMark c) (by decide +kernel) blank
  rwa [Bool.not_eq_true'] at unmarked

/-- White space starts no token. -/
theorem dark_of_readToken {c : Char} {rest : List Char} {token : Token}
    (read : (readToken (c :: rest)).outcome = .ok token) : isBlank c = false := by
  by_contra dark
  have blank : isBlank c = true := by simpa using dark
  obtain ⟨start, digit⟩ := not_isNameStart_of_isBlank blank
  rw [readToken_unmarked (unmarked_of_isBlank blank), start, digit] at read
  cases read

theorem spelled_integer {n : Int64} (unsigned : 0 ≤ n.toInt) : (Token.integer n).Spelled := by
  have digits : ∀ c ∈ Nat.toDigits 10 n.toInt.toNat, c.isDigit = true :=
    fun c member => Nat.isDigit_of_mem_toDigits (by decide) (by decide) member
  have whole : (Nat.toDigits 10 n.toInt.toNat).takeWhile Char.isDigit = Nat.toDigits 10 n.toInt.toNat :=
    List.takeWhile_eq_self_iff.mpr digits
  have behind : (Nat.toDigits 10 n.toInt.toNat).dropWhile Char.isDigit = [] := List.dropWhile_eq_nil_iff.mpr digits
  have number :
      readNumber (Nat.toDigits 10 n.toInt.toNat) = .ok (.integer n) (Nat.toDigits 10 n.toInt.toNat).length := by
    rw [readNumber, whole, behind]
    change readNumber.integer _ = _
    rw [readNumber.integer, digitsValue_toDigits, Int.toNat_of_nonneg unsigned, narrow?_toInt]
    rfl
  rw [Token.Spelled, Token.spelling]
  cases spelled : Nat.toDigits 10 n.toInt.toNat with
  | nil => exact absurd spelled Nat.toDigits_ne_nil
  | cons c rest =>
    rw [spelled] at digits number
    obtain ⟨unmarked, start⟩ := unmarked_of_isDigit (digits c List.mem_cons_self)
    rw [readToken_unmarked unmarked, start, digits c List.mem_cons_self, ← number]
    rfl

/-! ### Texts of tokens -/

/-- Tokens with a blank behind each. -/
def Token.text (tokens : List Token) : List Char := tokens.flatMap fun token => token.spelling ++ [' ']

theorem Token.text_cons (token : Token) (tokens : List Token) :
    Token.text (token :: tokens) = token.spelling ++ ' ' :: Token.text tokens := by
  simp [Token.text]

theorem reads_text {tokens : List Token} (spelled : ∀ token ∈ tokens, token.Spelled)
    (inner : ∀ token ∈ tokens, token ≠ .finish) : Reads (Token.text tokens) tokens [] := by
  induction tokens with
  | nil => exact .done []
  | cons token rest ih =>
    obtain ⟨own, others⟩ := List.forall_mem_cons.mp spelled
    obtain ⟨proper, below⟩ := List.forall_mem_cons.mp inner
    have own : readToken token.spelling = .ok token token.spelling.length := own
    rw [Token.text_cons]
    cases written : token.spelling with
    | nil =>
      rw [written] at own
      cases own
      exact absurd rfl proper
    | cons c front =>
      rw [written] at own
      have read : (readToken (c :: front)).outcome = .ok token := congrArg Reading.outcome own
      have stop : ∀ c ∈ (' ' :: Token.text rest).head?, endsToken c = true := by
        rintro _ ⟨⟩
        decide
      have whole := readToken_append (List.cons_ne_nil c front) stop read
      refine .token (dark_of_readToken read) (whole.trans own) ?_
      have behind : (c :: front ++ ' ' :: Token.text rest).drop (c :: front).length = ' ' :: Token.text rest :=
        List.drop_left
      change Reads ((c :: front ++ ' ' :: Token.text rest).drop (c :: front).length) rest []
      rw [behind]
      exact .blank (by decide) (ih others below)

end FieldSelect
