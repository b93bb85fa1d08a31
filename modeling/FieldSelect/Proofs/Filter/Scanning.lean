import FieldSelect.Filter.Scanner

/-! Which tokens a text is made of, apart from where they stand. A stretch of text is read in front of
whatever follows it, so stretches can be put together where no token reaches across. -/
namespace FieldSelect

section Delimiters

/-- No name, number or regular expression goes on with this character. -/
def endsToken (c : Char) : Bool := !isNameChar c && c != '.'

theorem not_isNameChar_of_endsToken {c : Char} (ends : endsToken c = true) : isNameChar c = false := by
  simp only [endsToken, Bool.and_eq_true, Bool.not_eq_true'] at ends
  exact ends.1

theorem isNumeric_of_isDigit {c : Char} (digit : c.isDigit = true) : isNumeric c = true := by
  have small : c.toNat < 128 := by
    simp only [Char.isDigit, Bool.and_eq_true, decide_eq_true_eq, UInt32.le_iff_toNat_le] at digit
    simp at digit
    omega
  simp [isNumeric, small, digit]

theorem isNameChar_of_isDigit {c : Char} (digit : c.isDigit = true) : isNameChar c = true := by
  simp [isNameChar, isAlphanumeric, isNumeric_of_isDigit digit]

theorem isNameChar_of_isNameStart {c : Char} (start : isNameStart c = true) : isNameChar c = true := by
  simp only [isNameStart, Bool.or_eq_true] at start
  simp only [isNameChar, isAlphanumeric, Bool.or_eq_true]
  rcases start with ((h | h) | h) | h <;> simp [h]

theorem takeWhile_append_of_stop {p : Char → Bool} {front back : List Char}
    (stop : ∀ c ∈ back.head?, p c = false) : (front ++ back).takeWhile p = front.takeWhile p := by
  induction front with
  | nil =>
    cases back with
    | nil => rfl
    | cons c rest => simp [stop c rfl]
  | cons c rest ih => simp only [List.cons_append, List.takeWhile_cons, ih]

theorem dropWhile_append_of_stop {p : Char → Bool} {front back : List Char}
    (stop : ∀ c ∈ back.head?, p c = false) : (front ++ back).dropWhile p = front.dropWhile p ++ back := by
  induction front with
  | nil =>
    cases back with
    | nil => rfl
    | cons c rest => simp [stop c rfl]
  | cons c rest ih =>
    simp only [List.cons_append, List.dropWhile_cons, ih]
    split <;> rfl

end Delimiters

section Tokens

theorem Reading.of_behind {c : Char} {width : Nat} {reading : Reading (List Char)} {chars : List Char}
    (read : (reading.behind c width).outcome = .ok chars) :
    ∃ inner, reading.outcome = .ok inner ∧ chars = c :: inner := by
  obtain ⟨outcome, length⟩ := reading
  cases outcome with
  | ok inner =>
    cases read
    exact ⟨inner, rfl, rfl⟩
  | error fault => cases read

variable {text back : List Char}

theorem readQuoted_cons {quote c : Char} {rest : List Char} (plain : c ≠ '\\') :
    readQuoted quote (c :: rest) = if c == quote then .ok [] 1 else (readQuoted quote rest).behind c 1 := by
  rw [readQuoted]
  · exact fun same => absurd same plain
  · exact fun _ _ same => absurd same plain

theorem readPattern_cons {c : Char} {rest : List Char} (plain : ∀ after, c = '\\' → rest ≠ '~' :: after) :
    readPattern (c :: rest) = if c == '~' then .ok [] 1 else (readPattern rest).behind c 1 := by
  rw [readPattern]
  exact plain

theorem readQuoted_append {quote : Char} {chars : List Char} (read : (readQuoted quote text).outcome = .ok chars) :
    readQuoted quote (text ++ back) = readQuoted quote text := by
  fun_induction readQuoted quote text generalizing chars with
  | case1 => cases read
  | case2 => cases read
  | case3 e rest c found ih =>
    obtain ⟨inner, same, _⟩ := Reading.of_behind read
    simp [readQuoted, found, ih same]
  | case4 => cases read
  | case5 c rest single pair closing =>
    have plain : c ≠ '\\' := by
      rintro rfl
      cases rest with
      | nil => exact single rfl rfl
      | cons e rest => exact pair e rest rfl rfl
    rw [List.cons_append, readQuoted_cons plain, if_pos closing]
  | case6 c rest single pair open_ ih =>
    obtain ⟨inner, same, _⟩ := Reading.of_behind read
    have plain : c ≠ '\\' := by
      rintro rfl
      cases rest with
      | nil => exact single rfl rfl
      | cons e rest => exact pair e rest rfl rfl
    rw [List.cons_append, readQuoted_cons plain, if_neg open_, ih same]

theorem readPattern_append {chars : List Char} (read : (readPattern text).outcome = .ok chars) :
    readPattern (text ++ back) = readPattern text := by
  fun_induction readPattern text generalizing chars with
  | case1 => cases read
  | case2 rest ih =>
    obtain ⟨inner, same, _⟩ := Reading.of_behind read
    simp [readPattern, ih same]
  | case3 c rest plain closing =>
    have notBackslash : ∀ after, c = '\\' → rest ++ back ≠ '~' :: after := by
      rintro _ rfl
      exact absurd closing (by decide)
    rw [List.cons_append, readPattern_cons notBackslash, if_pos closing]
  | case4 c rest plain open_ ih =>
    obtain ⟨inner, same, _⟩ := Reading.of_behind read
    have unescaped : ∀ after, c = '\\' → rest ++ back ≠ '~' :: after := by
      intro after backslash
      cases rest with
      | nil => cases same
      | cons first rest => exact fun tilde => plain rest backslash (by cases tilde; rfl)
    rw [List.cons_append, readPattern_cons unescaped, if_neg open_, ih same]

theorem readQuoted_length (quote : Char) (text : List Char) : (readQuoted quote text).length ≤ text.length := by
  fun_induction readQuoted quote text with
  | case1 => exact Nat.le_refl _
  | case2 => exact Nat.le_refl _
  | case3 e rest c found ih => simp only [Reading.behind, List.length_cons]; omega
  | case4 => simp [Reading.fail]
  | case5 => simp [Reading.ok]
  | case6 c rest single pair open_ ih => simp only [Reading.behind, List.length_cons]; omega

theorem readPattern_length (text : List Char) : (readPattern text).length ≤ text.length := by
  fun_induction readPattern text with
  | case1 => exact Nat.le_refl _
  | case2 rest ih => simp only [Reading.behind, List.length_cons]; omega
  | case3 => simp [Reading.ok]
  | case4 c rest plain open_ ih => simp only [Reading.behind, List.length_cons]; omega

theorem readRegex_append {token : Token} (stop : back.head? ≠ some 'i')
    (read : (readRegex text).outcome = .ok token) : readRegex (text ++ back) = readRegex text := by
  cases pattern : (readPattern text).outcome with
  | error fault => simp [readRegex, pattern, Reading.fail] at read
  | ok chars =>
    have flag : (((text ++ back).drop (readPattern text).length).head? == some 'i') =
        ((text.drop (readPattern text).length).head? == some 'i') := by
      rw [List.drop_append_of_le_length (readPattern_length text)]
      cases text.drop (readPattern text).length with
      | nil => simpa using stop
      | cons c rest => rfl
    rw [readRegex, readRegex, readPattern_append pattern, flag]

theorem readNumber_append (stop : ∀ c ∈ back.head?, endsToken c = true) :
    readNumber (text ++ back) = readNumber text := by
  have noName : ∀ c ∈ back.head?, isNameChar c = false := fun c here => not_isNameChar_of_endsToken (stop c here)
  have noDigit : ∀ c ∈ back.head?, c.isDigit = false := by
    intro c here
    cases digit : c.isDigit with
    | true => exact absurd (isNameChar_of_isDigit digit) (by simp [noName c here])
    | false => rfl
  rw [readNumber, readNumber, takeWhile_append_of_stop noDigit, dropWhile_append_of_stop noDigit]
  cases text.dropWhile Char.isDigit with
  | nil =>
    cases back with
    | nil => rfl
    | cons c rest =>
      have ends := stop c rfl
      simp only [endsToken, isNameChar, isAlphanumeric, Bool.and_eq_true, Bool.not_eq_true', Bool.or_eq_false_iff,
        bne_iff_ne, ne_eq] at ends
      simp [ends]
  | cons c rest =>
    by_cases dot : c = '.'
    · subst dot
      simp only [List.cons_append, takeWhile_append_of_stop noDigit]
    · have word : (c :: rest ++ back).takeWhile isNameChar = (c :: rest).takeWhile isNameChar :=
        takeWhile_append_of_stop noName
      rw [List.cons_append] at word ⊢
      simp only [word]

theorem readToken_append {token : Token} (nonempty : text ≠ []) (stop : ∀ c ∈ back.head?, endsToken c = true)
    (read : (readToken text).outcome = .ok token) : readToken (text ++ back) = readToken text := by
  have noName : ∀ c ∈ back.head?, isNameChar c = false := fun c here => not_isNameChar_of_endsToken (stop c here)
  have noFlag : back.head? ≠ some 'i' := fun same => absurd (noName 'i' same) (by decide)
  cases text with
  | nil => exact absurd rfl nonempty
  | cons c rest =>
    rw [readToken] at read
    rw [List.cons_append, readToken, readToken]
    cases sign : sign? c with
    | some token => rfl
    | none =>
      simp only [sign] at read ⊢
      split
      · rename_i quote
        rw [if_pos quote] at read
        cases quoted : (readQuoted c rest).outcome with
        | ok chars => rw [readQuoted_append quoted]
        | error fault => simp [Reading.shift, Reading.map, quoted, Except.map] at read
      · rename_i notQuote
        rw [if_neg notQuote] at read
        split
        · rename_i tilde
          rw [if_pos tilde] at read
          rw [readRegex_append noFlag read]
        · have word : (c :: rest ++ back).takeWhile isNameChar = (c :: rest).takeWhile isNameChar :=
            takeWhile_append_of_stop noName
          have number : readNumber (c :: rest ++ back) = readNumber (c :: rest) := readNumber_append stop
          rw [List.cons_append] at word number
          rw [readVariable, readVariable, takeWhile_append_of_stop noName, word, number]

/-- A token inside a text is not its end, and a number has no sign of its own. -/
def Token.Inner : Token → Prop
  | .finish => False
  | .integer n => 0 ≤ n.toInt
  | _ => True

theorem Token.Inner.ne_finish {token : Token} (inner : token.Inner) : token ≠ .finish := by
  rintro rfl
  exact inner

/-- A token that is read is not the end, and takes some of the text but no more. -/
def Reading.Sound (reading : Reading Token) (limit : Nat) : Prop :=
  ∀ token, reading.outcome = .ok token → token.Inner ∧ 0 < reading.length ∧ reading.length ≤ limit

theorem inner_of_sign? {c : Char} {token : Token} (sign : sign? c = some token) : token.Inner := by
  unfold sign? at sign
  split at sign <;> cases sign <;> trivial

theorem inner_ofWord (word : List Char) : (Token.ofWord word).Inner := by
  rw [Token.ofWord]
  split
  · trivial
  · split
    · trivial
    · split <;> trivial

/-- Digits have no sign. -/
theorem toInt_of_narrow? {value : Nat} {n : Int64} (narrowed : narrow? value = some n) : n.toInt = value := by
  rw [narrow?] at narrowed
  split at narrowed
  · cases narrowed
    exact Int64.toInt_ofInt_of_le (by omega) (by omega)
  · cases narrowed

theorem readQuoted_sound (quote : Char) (text : List Char) :
    (((readQuoted quote text).map fun chars => Token.quoted (String.ofList chars)).shift 1).Sound (text.length + 1) := by
  have within := readQuoted_length quote text
  intro token read
  cases quoted : (readQuoted quote text).outcome with
  | ok chars =>
    simp only [Reading.shift, Reading.map, quoted, Except.map, Except.ok.injEq] at read ⊢
    subst read
    exact ⟨trivial, by omega, by omega⟩
  | error fault => simp [Reading.shift, Reading.map, quoted, Except.map] at read

theorem readRegex_sound (text : List Char) : ((readRegex text).shift 1).Sound (text.length + 1) := by
  have within := readPattern_length text
  intro token read
  rw [Reading.shift] at read ⊢
  rw [readRegex] at read ⊢
  cases pattern : (readPattern text).outcome with
  | error fault => simp [pattern, Reading.fail] at read
  | ok chars =>
    simp only [pattern, Reading.ok, Except.ok.injEq] at read ⊢
    subst read
    refine ⟨trivial, by omega, ?_⟩
    by_cases flag : (text.drop (readPattern text).length).head? == some 'i'
    · have shorter : 0 < (text.drop (readPattern text).length).length := by
        cases drop : text.drop (readPattern text).length with
        | nil => simp [drop] at flag
        | cons => simp
      rw [List.length_drop] at shorter
      simp only [flag, if_true]
      omega
    · simp only [flag, Bool.false_eq_true, if_false]
      omega

theorem readVariable_sound (text : List Char) : (readVariable text).Sound (text.length + 1) := by
  intro token read
  rw [readVariable] at read ⊢
  split at read
  · cases read
  · rename_i named
    cases read
    rw [if_neg named]
    have within : (text.takeWhile isNameChar).length ≤ text.length := (List.takeWhile_sublist _).length_le
    simp only [Reading.ok]
    exact ⟨trivial, by omega, by omega⟩

theorem integer_sound {digits : List Char} (nonempty : 0 < digits.length) {limit : Nat}
    (within : digits.length ≤ limit) : (readNumber.integer digits).Sound limit := by
  intro token read
  rw [readNumber.integer] at read ⊢
  cases narrowed : narrow? (digitsValue digits) with
  | some n =>
    rw [narrowed] at read
    cases read
    have unsigned : 0 ≤ n.toInt := by
      rw [toInt_of_narrow? narrowed]
      exact Int.natCast_nonneg _
    exact ⟨unsigned, nonempty, within⟩
  | none =>
    rw [narrowed] at read
    cases read

theorem readNumber_sound {c : Char} {rest : List Char} (digit : c.isDigit = true) :
    (readNumber (c :: rest)).Sound (rest.length + 1) := by
  have whole : rest.length + 1 =
      ((c :: rest).takeWhile Char.isDigit).length + ((c :: rest).dropWhile Char.isDigit).length := by
    rw [← List.length_append, List.takeWhile_append_dropWhile, List.length_cons]
  have positive : 0 < ((c :: rest).takeWhile Char.isDigit).length := by simp [digit]
  have integer : (readNumber.integer ((c :: rest).takeWhile Char.isDigit)).Sound (rest.length + 1) :=
    integer_sound positive (by omega)
  rw [readNumber]
  dsimp only
  split
  · rename_i after behind
    have short : (after.takeWhile Char.isDigit).length ≤ after.length := (List.takeWhile_sublist _).length_le
    rw [behind, List.length_cons] at whole
    split
    · exact integer
    · rintro _ ⟨⟩
      simp only [Reading.ok]
      exact ⟨trivial, by omega, by omega⟩
  · rename_i d after _ behind
    split
    · rintro _ ⟨⟩
      have short : ((d :: after).takeWhile isNameChar).length ≤ (d :: after).length :=
        (List.takeWhile_sublist _).length_le
      rw [behind] at whole ⊢
      simp only [Reading.ok, List.length_append]
      exact ⟨trivial, by omega, by omega⟩
    · exact integer
  · exact integer

theorem readToken_sound {c : Char} {rest : List Char} : (readToken (c :: rest)).Sound (rest.length + 1) := by
  rw [readToken]
  split
  · rename_i token sign
    rintro _ ⟨⟩
    exact ⟨inner_of_sign? sign, by simp [Reading.ok], by simp [Reading.ok]⟩
  · split
    · exact readQuoted_sound c rest
    · split
      · exact readRegex_sound rest
      · split
        · exact readVariable_sound rest
        · split
          · rename_i start
            rintro _ ⟨⟩
            refine ⟨inner_ofWord _, ?_, ?_⟩
            · simp [Reading.ok, isNameChar_of_isNameStart start]
            · exact (List.takeWhile_sublist _).length_le
          · split
            · rename_i digit
              exact readNumber_sound digit
            · rintro _ ⟨⟩

end Tokens

/-- The text opens with these tokens, and white space between them, up to the rest. Each token is read with
all that follows it at hand. -/
inductive Reads : List Char → List Token → List Char → Prop where
  | done (rest : List Char) : Reads rest [] rest
  | blank {c : Char} {text rest : List Char} {tokens : List Token} (blank : isBlank c = true)
      (more : Reads text tokens rest) : Reads (c :: text) tokens rest
  | token {c : Char} {text rest : List Char} {token : Token} {length : Nat} {tokens : List Token}
      (dark : isBlank c = false) (read : readToken (c :: text) = .ok token length)
      (more : Reads ((c :: text).drop length) tokens rest) : Reads (c :: text) (token :: tokens) rest

namespace Reads
variable {text middle rest back : List Char} {tokens others : List Token}

theorem append (first : Reads text tokens middle) (second : Reads middle others rest) :
    Reads text (tokens ++ others) rest := by
  induction first with
  | done => exact second
  | blank blank _ ih => exact .blank blank (ih second)
  | token dark read _ ih => exact .token dark read (ih second)

/-- A text that is read to its end is read in the same way in front of what ends its last token. -/
theorem before (reads : Reads text tokens []) (stop : ∀ c ∈ back.head?, endsToken c = true) :
    Reads (text ++ back) tokens back := by
  generalize ended : ([] : List Char) = rest at reads
  induction reads with
  | done => exact ended ▸ .done back
  | blank blank _ ih => exact .blank blank (ih ended)
  | @token c text rest token length tokens dark read _ ih =>
    have sound := readToken_sound token (by rw [read]; rfl)
    rw [read] at sound
    have more := ih ended
    rw [← List.drop_append_of_le_length sound.2.2] at more
    have same : readToken (c :: text ++ back) = readToken (c :: text) :=
      readToken_append (List.cons_ne_nil c text) stop (by rw [read]; rfl)
    exact .token dark (same.trans read) more

theorem inner (reads : Reads text tokens rest) : ∀ token ∈ tokens, token.Inner := by
  induction reads with
  | done => simp
  | blank _ _ ih => exact ih
  | token _ read _ ih =>
    exact List.forall_mem_cons.mpr ⟨(readToken_sound _ (by rw [read]; rfl)).1, ih⟩

/-- The end of the text is no token of it. -/
theorem ne_finish (reads : Reads text tokens rest) : ∀ token ∈ tokens, token ≠ .finish :=
  fun token member => (reads.inner token member).ne_finish

end Reads

namespace Scanner
variable {c : Char} {text : List Char} {position : Position} {steps : Nat}

theorem collect_blank (blank : isBlank c = true) :
    collect steps ⟨c :: text, position⟩ = collect steps ⟨text, position.step c⟩ := by
  cases steps with
  | zero => rfl
  | succ steps =>
    have skipped : skipBlanks ⟨c :: text, position⟩ = skipBlanks ⟨text, position.step c⟩ := by
      simp [skipBlanks, advance, blank]
    have next : Scanner.next ⟨c :: text, position⟩ = Scanner.next ⟨text, position.step c⟩ := by
      rw [Scanner.next, Scanner.next, skipped]
    rw [collect, collect, next]

theorem skipBlanks_dark (dark : isBlank c = false) : skipBlanks ⟨c :: text, position⟩ = ⟨c :: text, position⟩ := by
  simp [skipBlanks, advance, dark]

theorem next_dark (dark : isBlank c = false) {token : Token} {length : Nat}
    (read : readToken (c :: text) = .ok token length) :
    Scanner.next ⟨c :: text, position⟩ =
      (.ok ⟨token, position⟩, ⟨(c :: text).drop length, position.after ((c :: text).take length)⟩) := by
  rw [Scanner.next, skipBlanks_dark dark]
  simp [read, Reading.ok, advance]

theorem collect_dark (dark : isBlank c = false) {token : Token} {length : Nat}
    (read : readToken (c :: text) = .ok token length) :
    collect (steps + 1) ⟨c :: text, position⟩ =
      (collect steps ⟨(c :: text).drop length, position.after ((c :: text).take length)⟩).map
        (⟨token, position⟩ :: ·) := by
  have sound := readToken_sound token (by rw [read]; rfl)
  rw [collect, next_dark dark read]
  cases token <;> first | rfl | exact sound.1.elim

theorem collect_of_reads {tokens : List Token} {rest : List Char} (reads : Reads text tokens rest) (done : rest = [])
    (enough : text.length < steps) (position : Position) :
    ∃ spanned, collect steps ⟨text, position⟩ = .ok spanned ∧ spanned.map (·.token) = tokens ++ [.finish] := by
  induction reads generalizing steps position with
  | done =>
    obtain ⟨steps, rfl⟩ := Nat.exists_eq_add_of_lt enough
    subst done
    exact ⟨[⟨.finish, position⟩], rfl, rfl⟩
  | blank blank _ ih =>
    rw [collect_blank blank]
    exact ih done (Nat.lt_trans (Nat.lt_succ_self _) enough) _
  | @token c text rest token length tokens dark read _ ih =>
    have sound := readToken_sound token (by rw [read]; rfl)
    rw [read] at sound
    cases steps with
    | zero => exact absurd enough (Nat.not_lt_zero _)
    | succ steps =>
      have shorter : ((c :: text).drop length).length < steps := by
        simp only [Reading.ok, List.length_cons, List.length_drop] at sound enough ⊢
        omega
      obtain ⟨spanned, collected, same⟩ := ih done shorter (position.after ((c :: text).take length))
      refine ⟨⟨token, position⟩ :: spanned, ?_, ?_⟩
      · rw [collect_dark dark read, collected]
        rfl
      · rw [List.map_cons, same, List.cons_append]

theorem reads_of_collect {spanned : List Spanned} (collected : collect steps ⟨text, position⟩ = .ok spanned)
    (enough : text.length < steps) :
    ∃ tokens, Reads text tokens [] ∧ spanned.map (·.token) = tokens ++ [.finish] := by
  -- White space takes no step, so the induction is on the text that is left.
  induction left : text.length using Nat.strongRecOn generalizing text position spanned steps with
  | _ left ih =>
    subst left
    cases text with
    | nil =>
      obtain ⟨steps, rfl⟩ := Nat.exists_eq_add_of_lt enough
      cases collected
      exact ⟨[], .done [], rfl⟩
    | cons c text =>
      cases blank : isBlank c with
      | true =>
        rw [collect_blank blank] at collected
        obtain ⟨tokens, reads, same⟩ := ih text.length (by simp) collected (by simp at enough; omega) rfl
        exact ⟨tokens, .blank blank reads, same⟩
      | false =>
        obtain ⟨steps, rfl⟩ := Nat.exists_eq_add_of_lt enough
        cases read : (readToken (c :: text)).outcome with
        | error fault =>
          rw [collect, Scanner.next, skipBlanks_dark blank] at collected
          simp [read] at collected
        | ok token =>
          have reading : readToken (c :: text) = .ok token (readToken (c :: text)).length := by
            rw [Reading.ok, ← read]
          have sound := readToken_sound token read
          rw [collect_dark blank reading] at collected
          cases behind : collect ((c :: text).length + steps) ⟨(c :: text).drop (readToken (c :: text)).length,
              position.after ((c :: text).take (readToken (c :: text)).length)⟩ with
          | error error =>
            rw [behind] at collected
            cases collected
          | ok others =>
            have shorter : ((c :: text).drop (readToken (c :: text)).length).length < (c :: text).length := by
              rw [List.length_drop, List.length_cons]
              omega
            obtain ⟨tokens, reads, same⟩ := ih _ shorter behind (by omega) rfl
            rw [behind] at collected
            cases collected
            exact ⟨token :: tokens, .token blank reading reads, by rw [List.map_cons, same, List.cons_append]⟩

end Scanner

/-- A text that can be read is a run of tokens up to its end. -/
theorem tokenize_ok {text : String} {spanned : List Spanned} (read : tokenize text = .ok spanned) :
    ∃ tokens, Reads text.toList tokens [] ∧ spanned.map (·.token) = tokens ++ [.finish] :=
  Scanner.reads_of_collect read (Nat.lt_succ_self _)

theorem Reads.tokenize {text : String} {tokens : List Token} (reads : Reads text.toList tokens []) :
    ∃ spanned, tokenize text = .ok spanned ∧ spanned.map (·.token) = tokens ++ [.finish] :=
  Scanner.collect_of_reads reads rfl (Nat.lt_succ_self _) .start

end FieldSelect
