import FieldSelect.Proofs.Filter.Lettering
import Mathlib

/-! Words written without quotes. As a filter such a word names the field that the same word in quotes names, unless
digits stand in front of it that are read as a number. -/
namespace FieldSelect
open Selector

/-- Letters, digits, `_`, `$` and `-`, and the first of them is no hyphen. -/
structure IsPlainWord (word : String) : Prop where
  some_ : word ≠ ""
  signs : ∀ c ∈ word.toList, isAlphanumeric c = true ∨ c = '_' ∨ c = '$' ∨ c = '-'
  unsigned : word.toList.head? ≠ some '-'

instance (word : String) : Decidable (IsPlainWord word) :=
  decidable_of_iff (word ≠ "" ∧
      word.toList.all (fun c => isAlphanumeric c || (c == '_' || (c == '$' || c == '-'))) = true ∧
      word.toList.head? ≠ some '-')
    ⟨fun ⟨some_, signs, unsigned⟩ => ⟨some_, by simpa using signs, unsigned⟩,
      fun ⟨some_, signs, unsigned⟩ => ⟨some_, by simpa using signs, unsigned⟩⟩

/-- What stands behind the leading digits decides: nothing, and then they are a number of 63 bits in the form in which
it is printed, or a letter or `_`, or, where there are no such digits, `$`. -/
def StandsForItself (word : String) : Prop :=
  match word.toList.dropWhile Char.isDigit with
  | [] => ∃ n < 2 ^ 63, word = Nat.repr n
  | c :: rest => isAlphabetic c = true ∨ c = '_' ∨ c = '$' ∧ word.toList = c :: rest

/-! ### Characters of words -/

theorem isBlank_eq_false_of_isAlphanumeric {c : Char} (sign : isAlphanumeric c = true) : isBlank c = false := by
  rw [← Bool.not_eq_true]
  intro blank
  rw [isAlphanumeric_eq_false_of_isBlank blank] at sign
  cases sign

/-- The signs that open tokens of their own kinds are among the first 128 characters. -/
theorem isMark_eq_false_of_le {c : Char} (beyond : 128 ≤ c.toNat) : isMark c = false := by
  have other {d : Char} (small : d.toNat < 128) : c ≠ d := by
    rintro rfl
    omega
  have sign : sign? c = none := by
    unfold sign?
    split <;> first | rfl | exact absurd rfl (other (by decide))
  simp [isMark, sign, other (d := '"') (by decide), other (d := '\'') (by decide), other (d := '~') (by decide),
    other (d := '@') (by decide)]

section Characters
variable {c : Char}

theorem isMark_eq_false_of_isNameStart (start : isNameStart c = true) : isMark c = false := by
  by_cases small : c.toNat < 128
  · have all : (List.range 128).all (fun point => !isNameStart (Char.ofNat point) || !isMark (Char.ofNat point)) =
        true := by decide +kernel
    have here := List.all_eq_true.mp all c.toNat (List.mem_range.mpr small)
    simpa [Char.ofNat_toNat, start] using here
  · exact isMark_eq_false_of_le (Nat.le_of_not_lt small)

/-- Digits beyond the first 128 characters start no token. -/
theorem readToken_of_isNumeric (numeric : isNumeric c = true) (letter : isAlphabetic c = false)
    (digit : c.isDigit = false) (rest : List Char) :
    readToken (c :: rest) = .fail (.unexpectedCharacter c) 0 := by
  have beyond : 128 ≤ c.toNat := by
    apply Nat.le_of_not_lt
    intro small
    rw [isNumeric, if_pos small, digit] at numeric
    cases numeric
  have other {d : Char} (small : d.toNat < 128) : c ≠ d := by
    rintro rfl
    omega
  have start : isNameStart c = false := by
    simp [isNameStart, letter, other (d := '_') (by decide), other (d := '$') (by decide),
      other (d := '*') (by decide)]
  rw [readToken_unmarked (isMark_eq_false_of_le beyond), start, digit]
  rfl

/-- All signs of a word are name characters, and none of them is a star. -/
theorem isNameChar_of_sign (sign : isAlphanumeric c = true ∨ c = '_' ∨ c = '$' ∨ c = '-') :
    isNameChar c = true ∧ c ≠ '*' := by
  rcases sign with sign | rfl | rfl | rfl
  · refine ⟨by simp [isNameChar, sign], ?_⟩
    rintro rfl
    exact absurd sign (by decide)
  · decide
  · decide
  · decide

end Characters

/-! ### Words as tokens -/

section Tokens
variable {word : String} {c : Char} {rest : List Char}

/-- A text that is one token up to its end. -/
theorem tokenize_single {token : Token} (read : readToken (c :: rest) = .ok token (rest.length + 1))
    (spelled : word.toList = c :: rest) :
    tokenize word = .ok [⟨token, .start⟩, ⟨.finish, Position.start.after word.toList⟩] := by
  have dark : isBlank c = false := dark_of_readToken (congrArg Reading.outcome read)
  rw [tokenize, Scanner.tokens, Scanner.ofText, spelled, Scanner.collect_dark dark read]
  simp only [List.length_cons, List.drop_succ_cons, List.drop_length, List.take_succ_cons, List.take_length]
  rfl

/-- Behind the first token the rest is scanned for itself. -/
theorem tokenize_cons {token : Token} {length : Nat} (read : readToken (c :: rest) = .ok token length)
    (spelled : word.toList = c :: rest) :
    ∃ position, tokenize word =
      (Scanner.collect (rest.length + 1) ⟨(c :: rest).drop length, position⟩).map (⟨token, .start⟩ :: ·) := by
  have dark : isBlank c = false := dark_of_readToken (congrArg Reading.outcome read)
  rw [tokenize, Scanner.tokens, Scanner.ofText, spelled, Scanner.collect_dark dark read]
  exact ⟨_, rfl⟩

/-- Where no token can be read the scan ends. -/
theorem collect_of_fail {fault : LexFault} {length steps : Nat} {position : Position} (dark : isBlank c = false)
    (read : readToken (c :: rest) = .fail fault length) :
    ∃ error, Scanner.collect (steps + 1) ⟨c :: rest, position⟩ = .error error := by
  rw [Scanner.collect, Scanner.next, Scanner.skipBlanks_dark dark]
  simp only [read]
  exact ⟨_, rfl⟩

theorem tokenize_of_fail {fault : LexFault} {length : Nat} (dark : isBlank c = false)
    (read : readToken (c :: rest) = .fail fault length) (spelled : word.toList = c :: rest) :
    ∃ error, tokenize word = .error error := by
  rw [tokenize, Scanner.tokens, Scanner.ofText, spelled]
  exact collect_of_fail dark read

end Tokens

/-! ### Words as filters -/

section Words
variable {word : String} {c : Char} {rest : List Char}

theorem map_compile {tokens : Tokens} (scanned : tokenize word = .ok tokens) :
    (compile word).map Tree.selectors = Parser.filter tokens := by
  have compiled : compile word = Parser.filter tokens >>= fun selectors => .ok ⟨word, selectors⟩ := by
    simp only [compile, scanned]
    rfl
  rw [compiled]
  cases Parser.filter tokens <;> rfl

theorem map_compile_ne_of_error {error : LexError} (scanned : tokenize word = .error error)
    (selectors : List Selector) : (compile word).map Tree.selectors ≠ .ok selectors := by
  have failed : compile word = .error ⟨.lexical error, error.position⟩ := by
    simp only [compile, scanned]
    rfl
  rw [failed]
  rintro ⟨⟩

theorem escapeQuoted_of_forall {chars : List Char} (plain : ∀ c ∈ chars, c ≠ '"' ∧ c ≠ '\\') :
    escapeQuoted chars = chars := by
  induction chars with
  | nil => rfl
  | cons c rest ih =>
    obtain ⟨own, others⟩ := List.forall_mem_cons.mp plain
    rw [escapeQuoted, if_neg (not_or.mpr own), ih others]

/-- In quotes a word stands for itself, if it holds no sign that is special there. -/
theorem compile_quoted (plain : ∀ c ∈ word.toList, c ≠ '"' ∧ c ≠ '\\') :
    (compile ("\"" ++ word ++ "\"")).map Tree.selectors = .ok [named (.exact word) .start] := by
  have read : readToken (Token.quoted word).spelling = .ok (.quoted word) (Token.quoted word).spelling.length :=
    spelled_quoted word
  rw [Token.spelling, escapeQuoted_of_forall plain] at read
  have spelled : ("\"" ++ word ++ "\"").toList = '"' :: (word.toList ++ ['"']) := by simp
  rw [map_compile (tokenize_single read spelled)]
  rfl

theorem compile_identifier (plain : IsIdentifier word) :
    (compile word).map Tree.selectors = .ok [named (.exact word) .start] := by
  have read : readToken word.toList = .ok (.identifier word) word.toList.length := plain
  cases spelled : word.toList with
  | nil =>
    rw [spelled] at read
    cases read
  | cons c rest =>
    rw [spelled] at read
    rw [map_compile (tokenize_single read spelled)]
    rfl

/-! #### Identifiers -/

theorem ofWord_of_noStar {word : List Char} (noStar : '*' ∉ word) :
    Token.ofWord word = .identifier (String.ofList word) := by
  have other {stars : List Char} (star : '*' ∈ stars) : ¬(word == stars) = true := by
    intro same
    exact noStar (beq_iff_eq.mp same ▸ star)
  rw [Token.ofWord, if_neg (other (by simp)), if_neg (other (by simp)), if_neg (by simpa using noStar)]

theorem isIdentifier_of_isNameStart (signs : ∀ c ∈ word.toList, isNameChar c = true ∧ c ≠ '*')
    (spelled : word.toList = c :: rest) (start : isNameStart c = true) : IsIdentifier word := by
  have whole : word.toList.takeWhile isNameChar = word.toList :=
    List.takeWhile_eq_self_iff.mpr fun c member => (signs c member).1
  have noStar : '*' ∉ word.toList := fun member => (signs '*' member).2 rfl
  have ofWord : Token.ofWord word.toList = .identifier word := by
    rw [ofWord_of_noStar noStar, String.ofList_toList]
  rw [IsIdentifier, spelled, readToken_unmarked (isMark_eq_false_of_isNameStart start), start, if_pos rfl, ← spelled,
    whole, ofWord]

/-- Digits are the front of a name or a number by themselves, unless a dot is behind them. -/
theorem readNumber_of_behind {text after : List Char} {d : Char} (behind : text.dropWhile Char.isDigit = d :: after)
    (noDot : d ≠ '.') :
    readNumber text =
      if isAlphabetic d || d == '_' then
        let name := text.takeWhile Char.isDigit ++ (d :: after).takeWhile isNameChar
        .ok (.identifier (String.ofList name)) name.length
      else readNumber.integer (text.takeWhile Char.isDigit) := by
  rw [readNumber, behind]
  dsimp only
  split
  · rename_i same
    exact absurd (List.cons.inj same).1 noDot
  · rename_i same
    cases same
    rfl
  · rename_i same
    cases same

theorem isIdentifier_of_digits (signs : ∀ c ∈ word.toList, isNameChar c = true ∧ c ≠ '*') {d : Char}
    {after : List Char} (spelled : word.toList = c :: rest) (digit : c.isDigit = true)
    (behind : word.toList.dropWhile Char.isDigit = d :: after) (goesOn : isAlphabetic d = true ∨ d = '_') :
    IsIdentifier word := by
  have onward : (d :: after).takeWhile isNameChar = d :: after := by
    refine List.takeWhile_eq_self_iff.mpr fun e member => (signs e ?_).1
    rw [← behind] at member
    exact (List.dropWhile_sublist _).mem member
  have noDot : d ≠ '.' := by
    rintro rfl
    exact absurd goesOn (by decide)
  have number : readNumber word.toList = .ok (.identifier word) word.toList.length := by
    rw [readNumber_of_behind behind noDot, if_pos (by simpa using goesOn), onward, ← behind,
      List.takeWhile_append_dropWhile]
    dsimp only
    rw [String.ofList_toList]
  obtain ⟨unmarked, start⟩ := unmarked_of_isDigit digit
  rw [IsIdentifier, ← number, spelled, readToken_unmarked unmarked, start, digit]
  rfl

/-! #### Numbers -/

theorem readToken_of_isDigit (digit : c.isDigit = true) (rest : List Char) :
    readToken (c :: rest) = readNumber (c :: rest) := by
  obtain ⟨unmarked, start⟩ := unmarked_of_isDigit digit
  rw [readToken_unmarked unmarked, start, digit]
  rfl

/-- Digits alone name the field that is their number as it is printed, if it has at most 63 bits. -/
theorem compile_digits_iff (spelled : word.toList = c :: rest) (digits : ∀ c ∈ word.toList, c.isDigit = true) :
    (compile word).map Tree.selectors = .ok [named (.exact word) .start] ↔ ∃ n < 2 ^ 63, word = Nat.repr n := by
  have digit : c.isDigit = true := digits c (spelled ▸ List.mem_cons_self)
  have dark : isBlank c = false := isBlank_eq_false_of_isAlphanumeric (isAlphanumeric_of_isDigit digit)
  have whole : word.toList.takeWhile Char.isDigit = word.toList := List.takeWhile_eq_self_iff.mpr digits
  have behind : word.toList.dropWhile Char.isDigit = [] := List.dropWhile_eq_nil_iff.mpr digits
  have number : readNumber word.toList = readNumber.integer word.toList := by
    rw [readNumber, whole, behind]
  have read : readToken (c :: rest) = readNumber.integer word.toList := by
    rw [readToken_of_isDigit digit, ← spelled, number]
  have value {n : Nat} (printed : word = Nat.repr n) : digitsValue word.toList = n := by
    rw [printed, Nat.repr, String.toList_ofList, digitsValue_toDigits]
  rw [readNumber.integer] at read
  cases narrowed : narrow? (digitsValue word.toList) with
  | none =>
    rw [narrowed] at read
    obtain ⟨error, failed⟩ := tokenize_of_fail dark read spelled
    refine iff_of_false (map_compile_ne_of_error failed _) ?_
    rintro ⟨n, small, printed⟩
    rw [value printed, narrow?, if_pos ⟨by omega, by omega⟩] at narrowed
    cases narrowed
  | some n =>
    have same : n.toInt = digitsValue word.toList := toInt_of_narrow? narrowed
    have scanned := tokenize_single (by rw [read, narrowed, spelled]; rfl) spelled
    have named_ : (compile word).map Tree.selectors =
        .ok [named (.exact (Nat.repr (digitsValue word.toList))) .start] := by
      have printed : toString n.toInt = Nat.repr (digitsValue word.toList) := by rw [same]; rfl
      rw [map_compile scanned, ← printed]
      rfl
    rw [named_]
    constructor
    · intro itself
      have names : Nat.repr (digitsValue word.toList) = word := by
        have same := congrArg Selector.name (List.cons.inj (Except.ok.inj itself)).1
        exact Name.exact.inj same
      exact ⟨_, by have := n.toInt_lt; omega, names.symm⟩
    · rintro ⟨m, small, printed⟩
      rw [value printed, ← printed]

/-- A number with a hyphen or an identifier right behind it is no filter. -/
theorem filter_ne_of_second {token : Token} (second : token = .minus ∨ ∃ name, token = .identifier name) (n : Int64)
    (p q : Position) (more : Tokens) (selectors : List Selector) :
    Parser.filter (⟨.integer n, p⟩ :: ⟨token, q⟩ :: more) ≠ .ok selectors := by
  rcases second with rfl | ⟨name, rfl⟩
  · have failed : Parser.filter (⟨.integer n, p⟩ :: ⟨.minus, q⟩ :: more) = .error ⟨.expected .finish .minus, q⟩ := rfl
    rw [failed]
    nofun
  · have failed : Parser.filter (⟨.integer n, p⟩ :: ⟨.identifier name, q⟩ :: more) =
        .error ⟨.expected .finish (.identifier name), q⟩ := rfl
    rw [failed]
    nofun

/-- What may stand in a word behind digits, and is neither a digit nor the start of a name, is such a token or none. -/
theorem readToken_of_stop {d : Char} {after : List Char} (noStar : '*' ∉ d :: after)
    (sign : isAlphanumeric d = true ∨ d = '_' ∨ d = '$' ∨ d = '-') (stops : ¬(isAlphabetic d = true ∨ d = '_'))
    (digit : d.isDigit = false) :
    (∃ token length, readToken (d :: after) = .ok token length ∧ (token = .minus ∨ ∃ name, token = .identifier name)) ∨
      isBlank d = false ∧ ∃ fault length, readToken (d :: after) = .fail fault length := by
  obtain ⟨letter, underscore⟩ := not_or.mp stops
  rcases sign with sign | rfl | rfl | rfl
  · rw [Bool.not_eq_true] at letter
    have numeric : isNumeric d = true := by simpa [isAlphanumeric, letter] using sign
    exact .inr ⟨isBlank_eq_false_of_isAlphanumeric sign, _, _, readToken_of_isNumeric numeric letter digit after⟩
  · exact absurd rfl underscore
  · have start : isNameStart '$' = true := by decide
    have noStar' : '*' ∉ ('$' :: after).takeWhile isNameChar :=
      fun member => noStar ((List.takeWhile_sublist _).mem member)
    have read : readToken ('$' :: after) =
        .ok (.identifier (String.ofList (('$' :: after).takeWhile isNameChar)))
          (('$' :: after).takeWhile isNameChar).length := by
      rw [readToken_unmarked (by decide), if_pos start, ofWord_of_noStar noStar']
    exact .inl ⟨_, _, read, .inr ⟨_, rfl⟩⟩
  · exact .inl ⟨.minus, 1, rfl, .inl rfl⟩

theorem compile_ne_of_stopped (signs : ∀ c ∈ word.toList, isAlphanumeric c = true ∨ c = '_' ∨ c = '$' ∨ c = '-')
    {d : Char} {after : List Char} (spelled : word.toList = c :: rest) (digit : c.isDigit = true)
    (behind : word.toList.dropWhile Char.isDigit = d :: after) (stops : ¬(isAlphabetic d = true ∨ d = '_'))
    (selectors : List Selector) : (compile word).map Tree.selectors ≠ .ok selectors := by
  have left : ∀ e ∈ d :: after, e ∈ word.toList :=
    fun e member => (List.dropWhile_sublist _).mem (behind ▸ member)
  have digit' : d.isDigit = false := by
    have stop := List.head?_dropWhile_not Char.isDigit word.toList
    rwa [behind] at stop
  have noDot : d ≠ '.' := by
    rintro rfl
    exact absurd (signs '.' (left '.' List.mem_cons_self)) (by decide)
  have noStar : '*' ∉ d :: after := fun member => (isNameChar_of_sign (signs '*' (left '*' member))).2 rfl
  have dark : isBlank c = false := isBlank_eq_false_of_isAlphanumeric (isAlphanumeric_of_isDigit digit)
  have read : readToken (c :: rest) = readNumber.integer (word.toList.takeWhile Char.isDigit) := by
    rw [readToken_of_isDigit digit, ← spelled, readNumber_of_behind behind noDot, if_neg (by simpa using stops)]
  rw [readNumber.integer] at read
  cases narrowed : narrow? (digitsValue (word.toList.takeWhile Char.isDigit)) with
  | none =>
    rw [narrowed] at read
    obtain ⟨error, failed⟩ := tokenize_of_fail dark read spelled
    exact map_compile_ne_of_error failed selectors
  | some n =>
    rw [narrowed] at read
    obtain ⟨position, scanned⟩ := tokenize_cons read spelled
    have onward : (c :: rest).drop (word.toList.takeWhile Char.isDigit).length = d :: after := by
      have parts : word.toList.takeWhile Char.isDigit ++ d :: after = c :: rest := by
        rw [← behind, List.takeWhile_append_dropWhile, spelled]
      rw [← parts]
      exact List.drop_left
    rw [onward] at scanned
    rcases readToken_of_stop noStar (signs d (left d List.mem_cons_self)) stops digit' with
      ⟨token, length, read', second⟩ | ⟨dark', fault, length, read'⟩
    · rw [Scanner.collect_dark (dark_of_readToken (congrArg Reading.outcome read')) read'] at scanned
      generalize Scanner.collect rest.length _ = others at scanned
      cases others with
      | error error => exact map_compile_ne_of_error scanned selectors
      | ok more =>
        rw [map_compile scanned]
        exact filter_ne_of_second second n _ _ more selectors
    · obtain ⟨error, failed⟩ := collect_of_fail dark' read'
      rw [failed] at scanned
      exact map_compile_ne_of_error scanned selectors

/-- In quotes a word names the field that is spelled like it. Without quotes it does so, and nothing else, just where it
stands for itself. -/
theorem compile_plainWord {word : String} (plain : IsPlainWord word) :
    let itself := [named (.exact word) .start]
    (compile ("\"" ++ word ++ "\"")).map Tree.selectors = .ok itself ∧
      ((compile word).map Tree.selectors = .ok itself ↔ StandsForItself word) := by
  intro itself
  obtain ⟨some_, signs, unsigned⟩ := plain
  have named_ : ∀ c ∈ word.toList, isNameChar c = true ∧ c ≠ '*' := fun c member => isNameChar_of_sign (signs c member)
  refine ⟨compile_quoted fun c member => ⟨?_, ?_⟩, ?_⟩
  · rintro rfl
    exact absurd (named_ '"' member).1 (by decide)
  · rintro rfl
    exact absurd (named_ '\\' member).1 (by decide)
  cases spelled : word.toList with
  | nil => exact absurd (String.toList_eq_nil_iff.mp spelled) some_
  | cons c rest =>
    have own := signs c (spelled ▸ List.mem_cons_self)
    have itself_ : c.isDigit = false → (StandsForItself word ↔ isNameStart c = true) := by
      intro digit
      have front : word.toList.dropWhile Char.isDigit = c :: rest := by
        rw [spelled, List.dropWhile_cons_of_neg (by simp [digit])]
      have noStar : c ≠ '*' := (isNameChar_of_sign own).2
      rw [StandsForItself, front]
      simp [isNameStart, spelled, noStar, or_assoc]
    cases digit : c.isDigit with
    | false =>
      rw [itself_ digit]
      cases start : isNameStart c with
      | true => exact iff_of_true (compile_identifier (isIdentifier_of_isNameStart named_ spelled start)) rfl
      | false =>
        refine iff_of_false ?_ Bool.false_ne_true
        simp only [isNameStart, Bool.or_eq_false_iff, beq_eq_false_iff_ne] at start
        obtain ⟨⟨⟨letter, underscore⟩, dollar⟩, _⟩ := start
        have minus : c ≠ '-' := by simpa [spelled] using unsigned
        have sign : isAlphanumeric c = true := by simpa [underscore, dollar, minus] using own
        have numeric : isNumeric c = true := by simpa [isAlphanumeric, letter] using sign
        obtain ⟨error, failed⟩ := tokenize_of_fail (isBlank_eq_false_of_isAlphanumeric sign)
          (readToken_of_isNumeric numeric letter digit rest) spelled
        exact map_compile_ne_of_error failed itself
    | true =>
      rw [StandsForItself]
      cases behind : word.toList.dropWhile Char.isDigit with
      | nil => exact compile_digits_iff spelled (List.dropWhile_eq_nil_iff.mp behind)
      | cons d after =>
        by_cases goesOn : isAlphabetic d = true ∨ d = '_'
        · refine iff_of_true (compile_identifier (isIdentifier_of_digits named_ spelled digit behind goesOn)) ?_
          exact goesOn.imp_right .inl
        · refine iff_of_false (compile_ne_of_stopped signs spelled digit behind goesOn itself) ?_
          rintro (letter | underscore | ⟨rfl, same⟩)
          · exact goesOn (.inl letter)
          · exact goesOn (.inr underscore)
          · cases spelled.symm.trans same
            exact absurd digit (by decide)

/-- Digits with a letter behind them stand for themselves. -/
theorem compile_plainWord_of_digits :
    IsPlainWord "2fa-$x" ∧ StandsForItself "2fa-$x" ∧
      (compile "2fa-$x").map Tree.selectors = .ok [named (.exact "2fa-$x") .start] := by
  have plain : IsPlainWord "2fa-$x" := by decide
  have itself : StandsForItself "2fa-$x" := .inl (by decide)
  exact ⟨plain, itself, (compile_plainWord plain).2.mpr itself⟩

/-- Leading zeros get lost: the word names another field than the same word in quotes. -/
theorem compile_zeros_ne :
    IsPlainWord "007" ∧ (compile "007").map Tree.selectors = .ok [named (.exact "7") .start] ∧
      (compile "\"007\"").map Tree.selectors = .ok [named (.exact "007") .start] ∧
      (compile "007").map Tree.selectors ≠ (compile "\"007\"").map Tree.selectors := by
  have bare : (compile "007").map Tree.selectors = .ok [named (.exact "7") .start] := by cbv
  have quoted : (compile "\"007\"").map Tree.selectors = .ok [named (.exact "007") .start] := by cbv
  refine ⟨by decide, bare, quoted, ?_⟩
  rw [bare, quoted]
  intro same
  have names := congrArg Selector.name (List.cons.inj (Except.ok.inj same)).1
  exact absurd (Name.exact.inj names) (by decide)

end Words
end FieldSelect
