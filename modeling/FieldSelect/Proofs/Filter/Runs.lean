import FieldSelect.Proofs.Filter.Lexemes

/-! Runs of name characters, and the classes of the tokens that they become. The stars of a run make it a wildcard, a
glob or an identifier, unless a digit stands in front: then it is a number or an identifier, stars or not. -/
namespace FieldSelect

/-- The longest run of name characters from where the next token starts. -/
def Scanner.run (scanner : Scanner) : List Char := scanner.skipBlanks.rest.takeWhile isNameChar

/-- The class that a run has by its stars. -/
def Token.IsClassOf (run : List Char) : Token → Prop
  | .star => run = ['*']
  | .doubleStar => run = ['*', '*']
  | .glob pattern => pattern = String.ofList run ∧ '*' ∈ run ∧ run ≠ ['*'] ∧ run ≠ ['*', '*']
  | .identifier name => name = String.ofList run ∧ '*' ∉ run
  | _ => False

/-- The text starts with a digit. -/
def startsWithDigit (text : List Char) : Bool := text.head?.any Char.isDigit

section Classes
variable {token : Token} {run front : List Char} {c : Char}

theorem isClassOf_iff : token.IsClassOf run ↔ token = Token.ofWord run := by
  rw [Token.ofWord]
  by_cases star : run = ['*']
  · subst star
    cases token <;> simp [Token.IsClassOf]
  · by_cases stars : run = ['*', '*']
    · subst stars
      cases token <;> simp [Token.IsClassOf]
    · by_cases some_ : '*' ∈ run
      · cases token <;> simp [Token.IsClassOf, star, stars, some_]
      · cases token <;> simp [Token.IsClassOf, star, stars, some_]

theorem not_isDigit_of_isNameStart (start : isNameStart c = true) : c.isDigit = false := by
  by_cases digit : c.isDigit = true
  · simp [(unmarked_of_isDigit digit).2] at start
  · simpa using digit

theorem isMark_eq_false_of_start (start : isNameStart c = true ∨ c.isDigit = true) : isMark c = false := by
  rcases start with start | digit
  · exact isMark_eq_false_of_isNameStart start
  · exact (unmarked_of_isDigit digit).1

/-- A run that is a token is so by its stars, or starts with a digit: then it is an integer or an identifier. -/
theorem isClassOf_of_spells (spells : token.Spells run) (signs : ∀ c ∈ run, isNameChar c = true)
    (starts : ∀ c ∈ run.head?, isNameStart c = true ∨ c.isDigit = true) :
    token.IsClassOf run ↔ startsWithDigit run = false ∨ '*' ∉ run ∧ ∃ c ∈ run, c.isDigit = false := by
  have noMark {c : Char} {rest : List Char} (whole : run = c :: rest) : isMark c = false :=
    isMark_eq_false_of_start (starts c (by rw [whole]; rfl))
  cases spells with
  | @sign _ c sign =>
    have mark := noMark rfl
    simp [isMark, sign] at mark
  | quoted quotes =>
    have mark := noMark rfl
    rcases quotes with rfl | rfl <;> cases mark
  | regex => cases noMark rfl
  | flaggedRegex => cases noMark rfl
  | variableName => cases noMark rfl
  | @word c rest start =>
    have own : startsWithDigit (c :: rest) = false := not_isDigit_of_isNameStart start
    simp [isClassOf_iff, own]
  | @digitsWord digits rest c some_ digit start =>
    obtain ⟨d, digits, rfl⟩ := List.exists_cons_of_ne_nil some_
    have own : startsWithDigit (d :: digits ++ c :: rest) = true := digit d List.mem_cons_self
    have other : ∃ e ∈ d :: digits ++ c :: rest, e.isDigit = false :=
      ⟨c, by simp, not_isDigit_of_extendsDigits start⟩
    simp only [Token.IsClassOf, own, other, true_and, Bool.true_eq_false, false_or, and_true]
  | @integer _ n some_ digit =>
    obtain ⟨d, digits, rfl⟩ := List.exists_cons_of_ne_nil some_
    have own : startsWithDigit (d :: digits) = true := digit d List.mem_cons_self
    simp only [Token.IsClassOf, own, false_iff, Bool.true_eq_false, false_or]
    rintro ⟨_, e, member, other⟩
    rw [digit e member] at other
    cases other
  | float =>
    have dot := signs '.' (by simp)
    cases dot

/-- The star of an identifier stands behind a digit. -/
theorem startsWithDigit_of_spells {name : String} (spells : (Token.identifier name).Spells front)
    (star : '*' ∈ name.toList) : startsWithDigit name.toList = true := by
  generalize same : Token.identifier name = token at spells
  cases spells with
  | sign sign =>
    rw [← same] at sign
    exact absurd sign (sign?_ne_identifier _)
  | @word c rest =>
    have class_ : (Token.identifier name).IsClassOf (c :: rest) := isClassOf_iff.mpr same
    obtain ⟨rfl, noStar⟩ := class_
    rw [String.toList_ofList] at star
    exact absurd star noStar
  | @digitsWord digits rest c some_ digit =>
    obtain ⟨d, digits, rfl⟩ := List.exists_cons_of_ne_nil some_
    cases same
    rw [String.toList_ofList]
    exact digit d List.mem_cons_self
  | _ => cases same

end Classes

namespace Scanner
variable {scanner behind : Scanner} {spanned : Spanned} {tokens : List Spanned} {steps : Nat}

theorem suffix_of_next (read : scanner.next = (.ok spanned, behind)) : behind.rest <:+ scanner.rest := by
  obtain ⟨blanks, whole, _, _, _⟩ := scanner.exists_blanks
  have skipped : scanner.skipBlanks.rest <:+ scanner.rest := ⟨blanks, whole.symm⟩
  obtain ⟨_, _, rfl⟩ | ⟨front, written, _⟩ := cases_of_next read
  · exact skipped
  · exact List.IsSuffix.trans ⟨front, written.symm⟩ skipped

/-- Each token of a text is the next one of a scanner that has come to some place in the text. -/
theorem exists_next_of_mem (collected : collect steps scanner = .ok tokens) (member : spanned ∈ tokens) :
    ∃ reached behind : Scanner, reached.rest <:+ scanner.rest ∧ reached.next = (.ok spanned, behind) := by
  induction steps generalizing scanner tokens with
  | zero =>
    cases collected
    cases member
  | succ steps ih =>
    rw [collect_succ] at collected
    obtain ⟨first, read, collected⟩ := exists_of_bind_eq_ok collected
    have next : scanner.next = (.ok first, scanner.next.2) := Prod.ext read rfl
    have own : ∃ reached behind : Scanner, reached.rest <:+ scanner.rest ∧ reached.next = (.ok first, behind) :=
      ⟨scanner, _, List.suffix_rfl, next⟩
    split at collected
    · cases collected
      rwa [List.mem_singleton.mp member]
    · obtain ⟨more, others, rfl⟩ := exists_of_map_eq_ok collected
      rcases List.mem_cons.mp member with rfl | later
      · exact own
      · obtain ⟨reached, behind, ends, found⟩ := ih others later
        exact ⟨reached, behind, ends.trans (suffix_of_next next), found⟩

/-- A star in an identifier stands behind a digit. -/
theorem startsWithDigit_of_next (read : scanner.next = (.ok spanned, behind)) {name : String}
    (named : spanned.token = .identifier name) (star : '*' ∈ name.toList) : startsWithDigit name.toList = true := by
  obtain ⟨_, rfl, _⟩ | ⟨front, _, spells, _⟩ := cases_of_next read
  · cases named
  · rw [named] at spells
    exact startsWithDigit_of_spells spells star

/-- A run that is read as one token has the class of its stars, but for two kinds of runs behind a digit: those with a
star, which become identifiers, and those of digits alone. -/
theorem isClassOf_of_next (read : scanner.next = (.ok spanned, behind))
    (whole : scanner.skipBlanks.rest = scanner.run ++ behind.rest)
    (starts : ∃ c ∈ scanner.run.head?, isNameStart c = true ∨ c.isDigit = true) :
    spanned.token.IsClassOf scanner.run ↔
      startsWithDigit scanner.run = false ∨ '*' ∉ scanner.run ∧ ∃ c ∈ scanner.run, c.isDigit = false := by
  obtain ⟨first, here, start⟩ := starts
  obtain ⟨ended, _⟩ | ⟨front, written, spells, _⟩ := cases_of_next read
  · rw [ended] at whole
    simp [(List.append_eq_nil_iff.mp whole.symm).1] at here
  · have same : front = scanner.run := List.append_cancel_right (written.symm.trans whole)
    rw [same] at spells
    refine isClassOf_of_spells spells (fun c member => List.mem_takeWhile_imp member) ?_
    intro c own
    obtain rfl : c = first := Option.mem_unique own here
    exact start

/-- Whatever is read of a text, from wherever in it: a star in an identifier stands behind a digit, and a run of name
characters that is read as one token has the class of its stars, unless a digit in front makes it a number, or an
identifier with its stars. All tokens of a text are read so. -/
theorem stars_classify (text : String) :
    (∀ (scanner behind : Scanner) (spanned : Spanned), scanner.rest <:+ text.toList →
      scanner.next = (.ok spanned, behind) →
        (∀ name, spanned.token = .identifier name → '*' ∈ name.toList → startsWithDigit name.toList = true) ∧
          (scanner.skipBlanks.rest = scanner.run ++ behind.rest →
            (∃ c ∈ scanner.run.head?, isNameStart c = true ∨ c.isDigit = true) →
              (spanned.token.IsClassOf scanner.run ↔
                startsWithDigit scanner.run = false ∨ '*' ∉ scanner.run ∧ ∃ c ∈ scanner.run, c.isDigit = false))) ∧
      ∀ tokens, tokenize text = .ok tokens → ∀ spanned ∈ tokens,
        ∃ scanner behind : Scanner, scanner.rest <:+ text.toList ∧ scanner.next = (.ok spanned, behind) := by
  refine ⟨?_, ?_⟩
  · intro scanner behind spanned _ read
    exact ⟨fun _ named star => startsWithDigit_of_next read named star, isClassOf_of_next read⟩
  · intro tokens read spanned member
    exact exists_next_of_mem read member

theorem stars_classify_of_glob : ∃ spanned behind, (ofText " $b*c-,2fa").next = (.ok spanned, behind) ∧
    spanned.token.IsClassOf ['$', 'b', '*', 'c', '-'] := by
  have read : (ofText " $b*c-,2fa").next = (.ok ⟨.glob "$b*c-", ⟨1, 2⟩⟩, ⟨[',', '2', 'f', 'a'], ⟨1, 7⟩⟩) := rfl
  have classified := (stars_classify " $b*c-,2fa").1 _ _ _ List.suffix_rfl read
  exact ⟨_, _, read, (classified.2 rfl ⟨'$', rfl, .inl rfl⟩).mpr (.inl rfl)⟩

/-- Behind a digit a star does not make a glob. -/
theorem identifier_with_star : ∃ tokens, tokenize "2f*" = .ok tokens ∧
    ∃ spanned ∈ tokens, ∃ name, spanned.token = .identifier name ∧ '*' ∈ name.toList :=
  ⟨[⟨.identifier "2f*", .start⟩, ⟨.finish, ⟨1, 4⟩⟩], rfl, _, List.mem_cons_self, "2f*", rfl, by decide⟩

end Scanner

end FieldSelect
