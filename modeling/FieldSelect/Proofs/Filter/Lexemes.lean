import FieldSelect.Proofs.Filter.Naming

/-! How the tokens of a filter are written, and where each of them ends. A token is read just where its characters
stand and do not go on, and for that one or two characters behind it are looked at. -/
namespace FieldSelect

/-- The character goes on with digits that are the front of a name. -/
def extendsDigits (c : Char) : Bool := isAlphabetic c || c == '_'

/-- The token can be written with these characters. -/
inductive Token.Spells : Token → List Char → Prop where
  | sign {token : Token} {c : Char} (sign : sign? c = some token) : Spells token [c]
  | quoted {quote : Char} {body chars : List Char} (quotes : quote = '"' ∨ quote = '\'')
      (read : readQuoted quote body = .ok chars body.length) : Spells (.quoted (String.ofList chars)) (quote :: body)
  | regex {body chars : List Char} (read : readPattern body = .ok chars body.length) :
      Spells (.regex (String.ofList chars) false) ('~' :: body)
  | flaggedRegex {body chars : List Char} (read : readPattern body = .ok chars body.length) :
      Spells (.regex (String.ofList chars) true) ('~' :: (body ++ ['i']))
  | variableName {name : List Char} (some_ : name ≠ []) (signs : ∀ c ∈ name, isNameChar c = true) :
      Spells (.variable (String.ofList name)) ('@' :: name)
  | word {c : Char} {rest : List Char} (start : isNameStart c = true) (signs : ∀ d ∈ c :: rest, isNameChar d = true) :
      Spells (.ofWord (c :: rest)) (c :: rest)
  | digitsWord {digits rest : List Char} {c : Char} (some_ : digits ≠ []) (digit : ∀ d ∈ digits, d.isDigit = true)
      (start : extendsDigits c = true) (signs : ∀ d ∈ c :: rest, isNameChar d = true) :
      Spells (.identifier (String.ofList (digits ++ c :: rest))) (digits ++ c :: rest)
  | integer {digits : List Char} {n : Int64} (some_ : digits ≠ []) (digit : ∀ d ∈ digits, d.isDigit = true)
      (narrowed : narrow? (digitsValue digits) = some n) : Spells (.integer n) digits
  | float {whole fraction : List Char} (some_ : whole ≠ []) (digit : ∀ d ∈ whole, d.isDigit = true)
      (some_' : fraction ≠ []) (digit' : ∀ d ∈ fraction, d.isDigit = true) :
      Spells (.float (fractionFloat whole fraction 0)) (whole ++ '.' :: fraction)

/-- The token does not go on with what follows: a word not with a name character, a number not with a digit, and an
integer not with a name either, nor with a dot that has a digit behind it. -/
def Token.stops : Token → List Char → Bool
  | .regex _ ignoresCase, back => ignoresCase || back.head? != some 'i'
  | .variable _, back | .identifier _, back | .glob _, back | .star, back | .doubleStar, back =>
    back.head?.all fun c => !isNameChar c
  | .integer _, '.' :: rest => rest.head?.all fun c => !c.isDigit
  | .integer _, back => back.head?.all fun c => !c.isDigit && !extendsDigits c
  | .float _, back => back.head?.all fun c => !c.isDigit
  | _, _ => true

/-- The text opens with the token: it is written in full, and does not go on. -/
def Token.Opens (token : Token) (text : List Char) (length : Nat) : Prop :=
  ∃ front back, text = front ++ back ∧ length = front.length ∧ token.Spells front ∧ token.stops back = true

section Readers
variable {text front back chars : List Char} {length : Nat}

theorem Reading.behind_eq_ok {c : Char} {width : Nat} {reading : Reading (List Char)} :
    reading.behind c width = .ok chars length ↔
      ∃ inner behind, reading = .ok inner behind ∧ c :: inner = chars ∧ width + behind = length := by
  obtain ⟨outcome, behind⟩ := reading
  cases outcome <;> simp [Reading.behind, Reading.ok, Except.map]

/-- A quoted text is read from its own characters alone. -/
theorem readQuoted_take {quote : Char} (read : readQuoted quote text = .ok chars length) :
    readQuoted quote (text.take length) = .ok chars length := by
  fun_induction readQuoted quote text generalizing chars length with
  | case1 => cases read
  | case2 => cases read
  | case3 e rest c found ih =>
    obtain ⟨inner, behind, same, rfl, rfl⟩ := Reading.behind_eq_ok.mp read
    simp [Nat.add_comm 2, readQuoted, found, ih same, Reading.behind, Reading.ok, Except.map]
  | case4 => cases read
  | case5 c rest single pair closing =>
    cases read
    have plain : c ≠ '\\' := by
      rintro rfl
      cases rest with
      | nil => exact single rfl rfl
      | cons e rest => exact pair e rest rfl rfl
    simp [readQuoted_cons plain, closing]
  | case6 c rest single pair open_ ih =>
    obtain ⟨inner, behind, same, rfl, rfl⟩ := Reading.behind_eq_ok.mp read
    have plain : c ≠ '\\' := by
      rintro rfl
      cases rest with
      | nil => exact single rfl rfl
      | cons e rest => exact pair e rest rfl rfl
    simp [Nat.add_comm 1, readQuoted_cons plain, open_, ih same, Reading.behind, Reading.ok, Except.map]

theorem readPattern_take (read : readPattern text = .ok chars length) :
    readPattern (text.take length) = .ok chars length := by
  fun_induction readPattern text generalizing chars length with
  | case1 => cases read
  | case2 rest ih =>
    obtain ⟨inner, behind, same, rfl, rfl⟩ := Reading.behind_eq_ok.mp read
    simp [Nat.add_comm 2, readPattern, ih same, Reading.behind, Reading.ok, Except.map]
  | case3 c rest plain closing =>
    cases read
    have tilde : c = '~' := by simpa using closing
    subst tilde
    rfl
  | case4 c rest plain open_ ih =>
    obtain ⟨inner, behind, same, rfl, rfl⟩ := Reading.behind_eq_ok.mp read
    have unescaped : ∀ after, c = '\\' → rest.take behind ≠ '~' :: after := by
      intro after backslash
      cases rest with
      | nil => simp
      | cons d rest =>
        cases behind with
        | zero => simp
        | succ behind =>
          rw [List.take_succ_cons]
          rintro ⟨⟩
          exact plain rest backslash rfl
    simp [Nat.add_comm 1, readPattern_cons unescaped, open_, ih same, Reading.behind, Reading.ok, Except.map]

theorem length_of_readQuoted {quote : Char} (read : readQuoted quote text = .ok chars length) :
    length ≤ text.length := by
  simpa [read, Reading.ok] using readQuoted_length quote text

theorem length_of_readPattern (read : readPattern text = .ok chars length) : length ≤ text.length := by
  simpa [read, Reading.ok] using readPattern_length text

end Readers

section Runs
variable {p : Char → Bool} {front back : List Char}

theorem takeWhile_of_stop (all : ∀ c ∈ front, p c = true) (stop : ∀ c ∈ back.head?, p c = false) :
    (front ++ back).takeWhile p = front := by
  rw [takeWhile_append_of_stop stop]
  exact List.takeWhile_eq_self_iff.mpr all

theorem dropWhile_of_stop (all : ∀ c ∈ front, p c = true) (stop : ∀ c ∈ back.head?, p c = false) :
    (front ++ back).dropWhile p = back := by
  rw [dropWhile_append_of_stop stop, List.dropWhile_eq_nil_iff.mpr all, List.nil_append]

/-- Every text is a longest run of such characters, and what is behind it. -/
theorem exists_run (p : Char → Bool) (text : List Char) : ∃ front back, text = front ++ back ∧
    (∀ c ∈ front, p c = true) ∧ ∀ c ∈ back.head?, p c = false := by
  refine ⟨text.takeWhile p, text.dropWhile p, List.takeWhile_append_dropWhile.symm, ?_, ?_⟩
  · intro c member
    exact List.mem_takeWhile_imp member
  · intro c first
    have stops := List.head?_dropWhile_not p text
    rw [Option.mem_def.mp first] at stops
    simpa using stops

end Runs

section Kinds
variable {token : Token} {c d : Char} {rest front back : List Char} {length : Nat}

theorem stops_word {word : List Char} : (Token.ofWord word).stops back = back.head?.all fun c => !isNameChar c := by
  rw [Token.ofWord]
  split
  · rfl
  · split
    · rfl
    · split <;> rfl

theorem stops_sign (sign : sign? c = some token) : token.stops back = true := by
  unfold sign? at sign
  split at sign <;> cases sign <;> rfl

theorem readToken_quote (quotes : c = '"' ∨ c = '\'') (rest : List Char) : readToken (c :: rest) =
    ((readQuoted c rest).map fun chars => Token.quoted (String.ofList chars)).shift 1 := by
  rcases quotes with rfl | rfl <;> rfl

theorem readToken_word (start : isNameStart c = true) (rest : List Char) : readToken (c :: rest) =
    .ok (Token.ofWord ((c :: rest).takeWhile isNameChar)) ((c :: rest).takeWhile isNameChar).length := by
  rw [readToken_unmarked (isMark_eq_false_of_isNameStart start), if_pos start]

end Kinds

section Numbers
variable {digits fraction rest back : List Char} {c : Char} {token : Token} {n : Int64} {length : Nat}

theorem not_isDigit_of_extendsDigits (goesOn : extendsDigits c = true) : c.isDigit = false := by
  by_cases digit : c.isDigit = true
  · have start := (unmarked_of_isDigit digit).2
    simp only [isNameStart, Bool.or_eq_false_iff] at start
    simp [extendsDigits, start] at goesOn
  · simpa using digit

theorem stops_integer_of_ne (other : c ≠ '.') : (Token.integer n).stops (c :: rest) =
    (!c.isDigit && !extendsDigits c) := by
  rw [Token.stops]
  · simp
  · simpa using other

/-- Behind the leading digits nothing but the next two characters decides what the number is. -/
theorem readNumber_integer (digit : ∀ d ∈ digits, d.isDigit = true) (stops : (Token.integer n).stops back = true) :
    readNumber (digits ++ back) = readNumber.integer digits := by
  have ends : ∀ c ∈ back.head?, c.isDigit = false := by
    intro c first
    obtain ⟨rest, rfl⟩ := List.head?_eq_some_iff.mp first
    by_cases dot : c = '.'
    · subst dot
      rfl
    · rw [stops_integer_of_ne dot] at stops
      simp only [Bool.and_eq_true, Bool.not_eq_true'] at stops
      exact stops.1
  rw [readNumber, takeWhile_of_stop digit ends, dropWhile_of_stop digit ends]
  cases back with
  | nil => rfl
  | cons c rest =>
    by_cases dot : c = '.'
    · subst dot
      have none : rest.takeWhile Char.isDigit = [] := by
        cases rest with
        | nil => rfl
        | cons d rest =>
          have stop : d.isDigit = false := by simpa [Token.stops, Option.all_eq_true] using stops
          simp [stop]
      simp [none]
    · rw [stops_integer_of_ne dot] at stops
      simp only [extendsDigits, Bool.and_eq_true, Bool.not_eq_true'] at stops
      simp [stops.2]

theorem readNumber_float (digit : ∀ d ∈ digits, d.isDigit = true) (some_ : fraction ≠ [])
    (digit' : ∀ d ∈ fraction, d.isDigit = true) (stop : ∀ c ∈ back.head?, c.isDigit = false) :
    readNumber (digits ++ '.' :: (fraction ++ back)) =
      .ok (.float (fractionFloat digits fraction 0)) (digits ++ '.' :: fraction).length := by
  have dot : ∀ c ∈ ('.' :: (fraction ++ back)).head?, c.isDigit = false := by simp
  rw [readNumber, takeWhile_of_stop digit dot, dropWhile_of_stop digit dot]
  simp [takeWhile_of_stop digit' stop, some_, Nat.add_comm, Nat.add_left_comm]

theorem readNumber_word (digit : ∀ d ∈ digits, d.isDigit = true) (start : extendsDigits c = true)
    (signs : ∀ d ∈ c :: rest, isNameChar d = true) (stop : ∀ d ∈ back.head?, isNameChar d = false) :
    readNumber (digits ++ c :: (rest ++ back)) =
      .ok (.identifier (String.ofList (digits ++ c :: rest))) (digits ++ c :: rest).length := by
  have ends : ∀ d ∈ (c :: (rest ++ back)).head?, d.isDigit = false := by
    simpa using not_isDigit_of_extendsDigits start
  have noDot : c ≠ '.' := by
    rintro rfl
    cases start
  have word : (c :: rest ++ back).takeWhile isNameChar = c :: rest := takeWhile_of_stop signs stop
  rw [List.cons_append] at word
  rw [readNumber_of_behind (dropWhile_of_stop digit ends) noDot, takeWhile_of_stop digit ends, word,
    if_pos (by simpa [extendsDigits] using start)]

theorem opens_of_readNumber (digit : c.isDigit = true) (read : readNumber (c :: rest) = .ok token length) :
    token.Opens (c :: rest) length := by
  obtain ⟨digits, back, split_, digit', ends⟩ := exists_run Char.isDigit (c :: rest)
  have some_ : digits ≠ [] := by
    rintro rfl
    rw [List.nil_append] at split_
    subst split_
    simp [digit] at ends
  have integer (stops : ∀ n, (Token.integer n).stops back = true)
      (read : readNumber.integer digits = .ok token length) : token.Opens (c :: rest) length := by
    rw [readNumber.integer] at read
    cases narrowed : narrow? (digitsValue digits) with
    | none =>
      rw [narrowed] at read
      cases read
    | some n =>
      rw [narrowed] at read
      cases read
      exact ⟨digits, back, split_, rfl, .integer some_ digit' narrowed, stops n⟩
  rw [split_] at read
  rcases back with _ | ⟨d, behind⟩
  · rw [readNumber_integer (n := 0) digit' rfl] at read
    exact integer (fun _ => rfl) read
  · by_cases dot : d = '.'
    · subst dot
      obtain ⟨fraction, back, rfl, digit'', ends'⟩ := exists_run Char.isDigit behind
      by_cases empty : fraction = []
      · subst empty
        have stops (n : Int64) : (Token.integer n).stops ('.' :: ([] ++ back)) = true := by
          simpa [Token.stops, Option.all_eq_true] using ends'
        rw [readNumber_integer digit' (stops 0)] at read
        exact integer stops read
      · rw [readNumber_float digit' empty digit'' ends'] at read
        cases read
        refine ⟨digits ++ '.' :: fraction, back, by simpa using split_, rfl, .float some_ digit' empty digit'', ?_⟩
        simpa [Token.stops, Option.all_eq_true] using ends'
    · by_cases start : extendsDigits d = true
      · obtain ⟨word, back, rfl, signs, ends'⟩ := exists_run isNameChar behind
        have signs' : ∀ e ∈ d :: word, isNameChar e = true := by
          refine List.forall_mem_cons.mpr ⟨?_, signs⟩
          simp only [extendsDigits, Bool.or_eq_true, beq_iff_eq] at start
          rcases start with letter | rfl
          · simp [isNameChar, isAlphanumeric, letter]
          · decide
        rw [readNumber_word digit' start signs' ends'] at read
        cases read
        refine ⟨digits ++ d :: word, back, by simpa using split_, rfl, .digitsWord some_ digit' start signs', ?_⟩
        simpa [Token.stops, Option.all_eq_true] using ends'
      · have stops (n : Int64) : (Token.integer n).stops (d :: behind) = true := by
          rw [stops_integer_of_ne dot]
          simpa [start] using ends
        rw [readNumber_integer digit' (stops 0)] at read
        exact integer stops read

end Numbers

section Tokens
variable {token : Token} {c : Char} {rest front back : List Char} {length : Nat}

/-- A token that is written in full and does not go on is read. -/
theorem readToken_of_spells (spells : token.Spells front) (stops : token.stops back = true) :
    readToken (front ++ back) = .ok token front.length := by
  cases spells with
  | sign sign => simp [readToken, sign]
  | @quoted quote body chars quotes read =>
    have same : readQuoted quote (body ++ back) = .ok chars body.length := by
      rw [readQuoted_append (by rw [read]; rfl), read]
    rw [List.cons_append, readToken_quote quotes, same]
    simp [Reading.map, Reading.shift, Reading.ok, Except.map, Nat.add_comm]
  | @regex body chars read =>
    have same : readPattern (body ++ back) = .ok chars body.length := by
      rw [readPattern_append (by rw [read]; rfl), read]
    have noFlag : back.head? ≠ some 'i' := by simpa [Token.stops, Option.all_eq_true] using stops
    change (readRegex (body ++ back)).shift 1 = _
    simp [readRegex, same, Reading.ok, Reading.shift, noFlag, Nat.add_comm]
  | @flaggedRegex body chars read =>
    have same : readPattern (body ++ 'i' :: back) = .ok chars body.length := by
      rw [readPattern_append (by rw [read]; rfl), read]
    rw [List.cons_append, List.append_assoc]
    change (readRegex (body ++ 'i' :: back)).shift 1 = _
    simp [readRegex, same, Reading.ok, Reading.shift, Nat.add_comm]
  | @variableName name some_ signs =>
    have ends : ∀ c ∈ back.head?, isNameChar c = false := by simpa [Token.stops, Option.all_eq_true] using stops
    change readVariable (name ++ back) = _
    simp [readVariable, takeWhile_of_stop signs ends, some_, Nat.add_comm]
  | @word c rest start all =>
    have ends : ∀ c ∈ back.head?, isNameChar c = false := by simpa [stops_word, Option.all_eq_true] using stops
    rw [List.cons_append, readToken_word start, ← List.cons_append, takeWhile_of_stop all ends]
  | @digitsWord digits rest c some_ digit start signs =>
    have ends : ∀ c ∈ back.head?, isNameChar c = false := by simpa [Token.stops, Option.all_eq_true] using stops
    obtain ⟨d, digits, rfl⟩ := List.exists_cons_of_ne_nil some_
    rw [List.append_assoc, List.cons_append, readToken_of_isDigit (digit d List.mem_cons_self)]
    exact readNumber_word digit start signs ends
  | @integer digits n some_ digit narrowed =>
    obtain ⟨d, digits, rfl⟩ := List.exists_cons_of_ne_nil some_
    rw [List.cons_append, readToken_of_isDigit (digit d List.mem_cons_self), ← List.cons_append,
      readNumber_integer digit stops, readNumber.integer, narrowed]
    rfl
  | @float whole fraction some_ digit some_' digit' =>
    have ends : ∀ c ∈ back.head?, c.isDigit = false := by simpa [Token.stops, Option.all_eq_true] using stops
    obtain ⟨d, whole, rfl⟩ := List.exists_cons_of_ne_nil some_
    rw [List.append_assoc, List.cons_append, readToken_of_isDigit (digit d List.mem_cons_self)]
    exact readNumber_float digit some_' digit' ends

theorem opens_of_readQuoted {quote : Char} (quotes : quote = '"' ∨ quote = '\'')
    (read : ((readQuoted quote rest).map fun chars => Token.quoted (String.ofList chars)).shift 1 = .ok token length) :
    token.Opens (quote :: rest) length := by
  generalize quoted : readQuoted quote rest = reading at read
  obtain ⟨outcome, behind⟩ := reading
  cases outcome with
  | error fault => cases read
  | ok chars =>
    cases read
    have within := length_of_readQuoted quoted
    refine ⟨quote :: rest.take behind, rest.drop behind, by simp, ?_, .quoted quotes ?_, rfl⟩
    · simp [Nat.min_eq_left within, Reading.map, Nat.add_comm]
    · rw [List.length_take, Nat.min_eq_left within]
      exact readQuoted_take quoted

theorem opens_of_readRegex (read : (readRegex rest).shift 1 = .ok token length) : token.Opens ('~' :: rest) length := by
  rw [readRegex] at read
  generalize found : readPattern rest = reading at read
  obtain ⟨outcome, behind⟩ := reading
  cases outcome with
  | error fault => cases read
  | ok chars =>
    have within := length_of_readPattern found
    have own : readPattern (rest.take behind) = .ok chars (rest.take behind).length := by
      rw [List.length_take, Nat.min_eq_left within]
      exact readPattern_take found
    by_cases flag : (rest.drop behind).head? = some 'i'
    · obtain ⟨back, flagged⟩ := List.head?_eq_some_iff.mp flag
      simp only [flag, BEq.rfl, if_true] at read
      cases read
      refine ⟨'~' :: (rest.take behind ++ ['i']), back, ?_, ?_, .flaggedRegex own, rfl⟩
      · rw [List.cons_append, List.append_assoc, List.singleton_append, ← flagged, List.take_append_drop]
      · simp [Nat.min_eq_left within, Reading.ok, Nat.add_comm]
    · have unflagged : ((rest.drop behind).head? == some 'i') = false := by simpa using flag
      simp only [unflagged] at read
      cases read
      refine ⟨'~' :: rest.take behind, rest.drop behind, by simp, ?_, .regex own, ?_⟩
      · simp [Nat.min_eq_left within, Reading.ok, Nat.add_comm]
      · simpa [Token.stops] using flag

theorem opens_of_readVariable (read : readVariable rest = .ok token length) : token.Opens ('@' :: rest) length := by
  obtain ⟨name, back, rfl, signs, ends⟩ := exists_run isNameChar rest
  rw [readVariable, takeWhile_of_stop signs ends] at read
  by_cases empty : name = []
  · subst empty
    cases read
  · simp only [List.isEmpty_iff, empty, if_false] at read
    cases read
    refine ⟨'@' :: name, back, rfl, by simp [Nat.add_comm], .variableName empty signs, ?_⟩
    simpa [Token.stops, Option.all_eq_true] using ends

theorem opens_of_word (start : isNameStart c = true) (read : readToken (c :: rest) = .ok token length) :
    token.Opens (c :: rest) length := by
  obtain ⟨word, back, rfl, signs, ends⟩ := exists_run isNameChar rest
  have all : ∀ d ∈ c :: word, isNameChar d = true :=
    List.forall_mem_cons.mpr ⟨isNameChar_of_isNameStart start, signs⟩
  rw [readToken_word start, ← List.cons_append, takeWhile_of_stop all ends] at read
  cases read
  refine ⟨c :: word, back, rfl, rfl, .word start all, ?_⟩
  simpa [stops_word, Option.all_eq_true] using ends

/-- A token is read just where the text opens with it. -/
theorem readToken_eq_ok_iff : readToken (c :: rest) = .ok token length ↔ token.Opens (c :: rest) length := by
  constructor
  · intro read
    rw [readToken] at read
    cases sign : sign? c with
    | some token' =>
      simp only [sign] at read
      cases read
      exact ⟨[c], rest, rfl, rfl, .sign sign, stops_sign sign⟩
    | none =>
      simp only [sign] at read
      split at read
      · rename_i quote
        exact opens_of_readQuoted (by simpa using quote) read
      · split at read
        · rename_i tilde
          obtain rfl : c = '~' := by simpa using tilde
          exact opens_of_readRegex read
        · split at read
          · rename_i mark
            obtain rfl : c = '@' := by simpa using mark
            exact opens_of_readVariable read
          · split at read
            · rename_i start
              rw [← readToken_word start] at read
              exact opens_of_word start read
            · split at read
              · rename_i digit
                exact opens_of_readNumber digit read
              · cases read
  · rintro ⟨front, back, whole, rfl, spells, stops⟩
    rw [whole]
    exact readToken_of_spells spells stops

/-- At the end of the text every token ends. -/
@[simp] theorem stops_nil (token : Token) : token.stops [] = true := by
  cases token <;> simp [Token.stops]

/-- No token goes on with such a character. -/
theorem stops_of_endsToken (ends : endsToken c = true) : token.stops (c :: rest) = true := by
  have noName := not_isNameChar_of_endsToken ends
  have noDigit : c.isDigit = false := by
    by_cases digit : c.isDigit = true
    · simp [isNameChar_of_isDigit digit] at noName
    · simpa using digit
  cases token with
  | integer n =>
    have noDot : c ≠ '.' := by
      rintro rfl
      cases ends
    simp only [isNameChar, isAlphanumeric, Bool.or_eq_false_iff] at noName
    simp [stops_integer_of_ne noDot, extendsDigits, noDigit, noName]
  | regex pattern ignoresCase =>
    have noFlag : c ≠ 'i' := by
      rintro rfl
      cases noName
    simp [Token.stops, noFlag]
  | _ => simp [Token.stops, noName, noDigit]

/-- By itself a token is read from its characters. -/
theorem Token.Spells.read (spells : token.Spells front) : readToken front = .ok token front.length := by
  simpa using readToken_of_spells spells (stops_nil token)

theorem Token.Spells.ne_nil (spells : token.Spells front) : front ≠ [] := by
  cases spells with
  | integer some_ => exact some_
  | _ => simp

theorem Token.Spells.inner (spells : token.Spells front) : token.Inner := by
  have read := spells.read
  obtain ⟨c, rest, rfl⟩ := List.exists_cons_of_ne_nil spells.ne_nil
  exact (readToken_sound token (congrArg Reading.outcome read)).1

/-! ### Runs of tokens -/

variable {words : List Token}

theorem Token.Spells.reads (spells : token.Spells front) (stops : token.stops back = true)
    (more : Reads back words rest) : Reads (front ++ back) (token :: words) rest := by
  have read := readToken_of_spells spells stops
  obtain ⟨c, front, rfl⟩ := List.exists_cons_of_ne_nil spells.ne_nil
  have dark : isBlank c = false := dark_of_readToken (congrArg Reading.outcome read)
  refine .token dark read ?_
  simpa using more

theorem Token.Spells.of_reads (spells : token.Spells front) (stops : token.stops back = true)
    (reads : Reads (front ++ back) words []) : ∃ more, words = token :: more ∧ Reads back more [] := by
  have read := readToken_of_spells spells stops
  obtain ⟨c, front, rfl⟩ := List.exists_cons_of_ne_nil spells.ne_nil
  have dark : isBlank c = false := dark_of_readToken (congrArg Reading.outcome read)
  cases reads with
  | blank blank =>
    rw [dark] at blank
    cases blank
  | @token _ _ _ other length more _ found reads =>
    rw [List.cons_append] at read
    cases found.symm.trans read
    exact ⟨more, rfl, by simpa using reads⟩

/-- Too many digits are no token. -/
theorem exists_narrow_of_reads (some_ : front ≠ []) (digit : ∀ c ∈ front, c.isDigit = true)
    (stops : (Token.integer 0).stops back = true) (reads : Reads (front ++ back) words []) :
    ∃ n, narrow? (digitsValue front) = some n := by
  have number := readNumber_integer digit stops
  rw [readNumber.integer] at number
  cases narrowed : narrow? (digitsValue front) with
  | some n => exact ⟨n, rfl⟩
  | none =>
    obtain ⟨c, behind, rfl⟩ := List.exists_cons_of_ne_nil some_
    have first : c.isDigit = true := digit c List.mem_cons_self
    rw [narrowed, List.cons_append, ← readToken_of_isDigit first] at number
    cases reads with
    | blank blank => simp [(not_isNameStart_of_isBlank blank).2] at first
    | token _ found => cases found.symm.trans number

theorem of_reads_sign {c : Char} (sign : sign? c = some token) (reads : Reads (c :: back) words []) :
    ∃ more, words = token :: more ∧ Reads back more [] :=
  (Token.Spells.sign sign).of_reads (stops_sign sign) reads

end Tokens

namespace Scanner
variable {scanner : Scanner} {spanned : Spanned} {error : LexError} {tokens : List Spanned} {steps : Nat}

theorem advance_append (front back : List Char) (position : Position) :
    advance ⟨front ++ back, position⟩ front.length = ⟨back, position.after front⟩ := by
  simp [advance]

/-- White space in front of the next token is skipped. -/
theorem exists_blanks (scanner : Scanner) : ∃ blanks, scanner.rest = blanks ++ scanner.skipBlanks.rest ∧
    scanner.skipBlanks.position = scanner.position.after blanks ∧ (∀ c ∈ blanks, isBlank c = true) ∧
      ∀ c ∈ scanner.skipBlanks.rest.head?, isBlank c = false := by
  obtain ⟨rest, position⟩ := scanner
  obtain ⟨blanks, behind, rfl, blank, dark⟩ := exists_run isBlank rest
  have skipped : skipBlanks ⟨blanks ++ behind, position⟩ = ⟨behind, position.after blanks⟩ := by
    rw [skipBlanks, takeWhile_of_stop blank dark, advance_append]
  rw [skipped]
  exact ⟨blanks, rfl, rfl, blank, dark⟩

/-- What a scanner can come to: the end of the text, a token that is written there, or no token. -/
theorem next_cases (scanner : Scanner) :
    scanner.skipBlanks.rest = [] ∧
        scanner.next = (.ok ⟨.finish, scanner.skipBlanks.position⟩, scanner.skipBlanks) ∨
      (∃ token front back, scanner.skipBlanks.rest = front ++ back ∧ token.Spells front ∧ token.stops back = true ∧
        scanner.next = (.ok ⟨token, scanner.skipBlanks.position⟩, ⟨back, scanner.skipBlanks.position.after front⟩)) ∨
      ∃ c rest fault length, scanner.skipBlanks.rest = c :: rest ∧ readToken (c :: rest) = .fail fault length ∧
        scanner.next =
          (.error ⟨fault, scanner.skipBlanks.place fault length⟩, scanner.skipBlanks.advance length) := by
  rw [Scanner.next]
  generalize scanner.skipBlanks = skipped
  obtain ⟨rest, position⟩ := skipped
  cases rest with
  | nil => exact .inl ⟨rfl, rfl⟩
  | cons c rest =>
    right
    cases reading : (readToken (c :: rest)).outcome with
    | ok token =>
      left
      have read : readToken (c :: rest) = .ok token (readToken (c :: rest)).length := by
        rw [Reading.ok, ← reading]
      obtain ⟨front, back, whole, width, spells, stops⟩ := readToken_eq_ok_iff.mp read
      refine ⟨token, front, back, whole, spells, stops, ?_⟩
      rw [width, whole] at read
      rw [whole, ← advance_append, read]
      rfl
    | error fault =>
      right
      have read : readToken (c :: rest) = .fail fault (readToken (c :: rest)).length := by
        rw [Reading.fail, ← reading]
      exact ⟨c, rest, fault, _, rfl, read, rfl⟩

/-- A token that is found is the end of the text, or it is written there. -/
theorem cases_of_next {behind : Scanner} (read : scanner.next = (.ok spanned, behind)) :
    scanner.skipBlanks.rest = [] ∧ spanned = ⟨.finish, scanner.skipBlanks.position⟩ ∧ behind = scanner.skipBlanks ∨
      ∃ front, scanner.skipBlanks.rest = front ++ behind.rest ∧ spanned.token.Spells front ∧
        spanned.token.stops behind.rest = true ∧ spanned.position = scanner.skipBlanks.position ∧
          behind.position = scanner.skipBlanks.position.after front := by
  obtain ⟨ended, next⟩ | ⟨token, front, back, whole, spells, stops, next⟩ | ⟨_, _, _, _, _, _, next⟩ :=
    scanner.next_cases
  · cases next.symm.trans read
    exact .inl ⟨ended, rfl, rfl⟩
  · cases next.symm.trans read
    exact .inr ⟨front, whole, spells, stops, rfl, rfl⟩
  · cases next.symm.trans read

/-- The end of the text is the last token, and others follow every other one. -/
theorem collect_succ : collect (steps + 1) scanner = scanner.next.1 >>= fun spanned =>
    match spanned.token with
    | .finish => .ok [spanned]
    | _ => (collect steps scanner.next.2).map (spanned :: ·) := by
  rw [collect]
  obtain ⟨outcome, behind⟩ := scanner.next
  cases outcome <;> rfl

end Scanner

end FieldSelect
