import FieldSelect.Proofs.Filter.Dropping
import FieldSelect.Proofs.Filter.Stages

/-! Negated paths as they are written, and the selectors that are read from them. -/
namespace FieldSelect

section Identifiers
variable {name : String} {text back : List Char} {length : Nat}

/-- The name needs no quotes: by itself it is read as an identifier. -/
def IsIdentifier (name : String) : Prop := readToken name.toList = .ok (.identifier name) name.toList.length

/-- What holds of all white space, point by point. -/
theorem of_isBlank {p : Char → Bool} (all : (blankRuns.all fun run =>
    (List.range' run.first (run.last + 1 - run.first)).all fun point => p (Char.ofNat point)) = true) {c : Char}
    (blank : isBlank c = true) : p c = true := by
  rw [isBlank, Stretch.anyHolds, List.any_eq_true] at blank
  obtain ⟨run, member, holds⟩ := blank
  simp only [Stretch.holds, Bool.and_eq_true, decide_eq_true_eq] at holds
  have point := List.all_eq_true.mp (List.all_eq_true.mp all run member) c.toNat
    (List.mem_range'_1.mpr ⟨holds.1.1, by omega⟩)
  rwa [Char.ofNat_toNat] at point

theorem isAlphanumeric_of_isDigit {c : Char} (digit : c.isDigit = true) : isAlphanumeric c = true := by
  rw [isAlphanumeric, isNumeric_of_isDigit digit, Bool.or_true]

theorem isAlphanumeric_eq_false_of_isBlank {c : Char} (blank : isBlank c = true) : isAlphanumeric c = false := by
  have other : (!isAlphanumeric c) = true := of_isBlank (p := fun c => !isAlphanumeric c) (by decide +kernel) blank
  rwa [Bool.not_eq_true'] at other

/-- White space starts neither names nor numbers. -/
theorem not_isNameStart_of_isBlank {c : Char} (blank : isBlank c = true) :
    isNameStart c = false ∧ c.isDigit = false := by
  have other := isAlphanumeric_eq_false_of_isBlank blank
  have unsigned {d : Char} (dark : isBlank d = false) : c ≠ d := by
    rintro rfl
    rw [dark] at blank
    cases blank
  constructor
  · obtain ⟨noLetter, _⟩ := Bool.or_eq_false_iff.mp other
    simp [isNameStart, noLetter, unsigned (d := '_') (by decide), unsigned (d := '$') (by decide),
      unsigned (d := '*') (by decide)]
  · rw [← Bool.not_eq_true]
    intro digit
    rw [isAlphanumeric_of_isDigit digit] at other
    cases other

theorem sign?_ne_identifier (c : Char) : sign? c ≠ some (.identifier name) := by
  unfold sign?
  split <;> nofun

theorem integer_ne_identifier (digits : List Char) :
    (readNumber.integer digits).outcome ≠ .ok (.identifier name) := by
  intro same
  rw [readNumber.integer] at same
  cases narrowed : narrow? (digitsValue digits) with
  | none =>
    rw [narrowed] at same
    cases same
  | some n =>
    rw [narrowed] at same
    cases same

/-- Digits that are read as an identifier have a letter or `_` behind them. -/
theorem readNumber_identifier (read : (readNumber text).outcome = .ok (.identifier name))
    (stop : ∀ c ∈ back.head?, isNameChar c = false) : readNumber (text ++ back) = readNumber text := by
  have noDigit : ∀ c ∈ back.head?, c.isDigit = false := by
    intro c here
    apply Bool.eq_false_iff.mpr
    intro digit
    exact absurd (isNameChar_of_isDigit digit) (by simp [stop c here])
  rw [readNumber] at read
  rw [readNumber, readNumber, takeWhile_append_of_stop noDigit, dropWhile_append_of_stop noDigit]
  cases behind : text.dropWhile Char.isDigit with
  | nil =>
    rw [behind] at read
    exact absurd read (integer_ne_identifier _)
  | cons c rest =>
    by_cases dot : c = '.'
    · subst dot
      simp only [behind] at read
      split at read
      · exact absurd read (integer_ne_identifier _)
      · cases read
    · have word : (c :: rest ++ back).takeWhile isNameChar = (c :: rest).takeWhile isNameChar :=
        takeWhile_append_of_stop stop
      rw [List.cons_append] at word ⊢
      simp only [word]

/-- An identifier goes on to the first character that no name has. -/
theorem readToken_identifier {c : Char} {rest : List Char}
    (read : (readToken (c :: rest)).outcome = .ok (.identifier name))
    (stop : ∀ d ∈ back.head?, isNameChar d = false) :
    isBlank c = false ∧ readToken (c :: rest ++ back) = readToken (c :: rest) := by
  have dark : isNameStart c = true ∨ c.isDigit = true → isBlank c = false := by
    intro starts
    apply Bool.eq_false_iff.mpr
    intro blank
    have none := not_isNameStart_of_isBlank blank
    rcases starts with start | digit
    · rw [none.1] at start
      cases start
    · rw [none.2] at digit
      cases digit
  rw [readToken] at read
  rw [List.cons_append, readToken, readToken]
  cases sign : sign? c with
  | some token =>
    simp only [sign] at read
    exact absurd (sign.trans (congrArg some (Except.ok.inj read))) (sign?_ne_identifier c)
  | none =>
    simp only [sign] at read ⊢
    by_cases quote : c == '"' || c == '\''
    · rw [if_pos quote] at read
      cases quoted : (readQuoted c rest).outcome <;> simp [Reading.shift, Reading.map, quoted, Except.map] at read
    · simp only [if_neg quote] at read ⊢
      by_cases tilde : c == '~'
      · rw [if_pos tilde, readRegex] at read
        cases pattern : (readPattern rest).outcome <;> simp [Reading.shift, Reading.ok, Reading.fail, pattern] at read
      · simp only [if_neg tilde] at read ⊢
        by_cases at_ : c == '@'
        · rw [if_pos at_, readVariable] at read
          split at read <;> cases read
        · simp only [if_neg at_] at read ⊢
          have word : (c :: rest ++ back).takeWhile isNameChar = (c :: rest).takeWhile isNameChar :=
            takeWhile_append_of_stop stop
          rw [List.cons_append] at word
          by_cases start : isNameStart c
          · simp only [if_pos start, word]
            exact ⟨dark (.inl start), trivial⟩
          · simp only [if_neg start] at read ⊢
            by_cases digit : c.isDigit
            · simp only [if_pos digit] at read ⊢
              exact ⟨dark (.inr digit), readNumber_identifier read stop⟩
            · rw [if_neg digit] at read
              cases read

theorem Reads.identifier (plain : IsIdentifier name) (stop : ∀ c ∈ back.head?, isNameChar c = false) :
    Reads (name.toList ++ back) [.identifier name] back := by
  have plain : readToken name.toList = .ok (.identifier name) name.toList.length := plain
  generalize spelled : name.toList = text at plain
  cases text with
  | nil => cases plain
  | cons c rest =>
    have read : (readToken (c :: rest)).outcome = .ok (.identifier name) := by rw [plain]; rfl
    obtain ⟨dark, same⟩ := readToken_identifier read stop
    refine .token dark (same.trans plain) ?_
    have behind : (c :: rest ++ back).drop (c :: rest).length = back := List.drop_left
    change Reads ((c :: rest ++ back).drop (c :: rest).length) [] back
    rw [behind]
    exact .done back

end Identifiers

/-! ### Paths -/

/-- The text of a dotted path. -/
def dottedText (path : List String) : String := ".".intercalate path

/-- The text of a filter that drops some paths and keeps the rest. -/
def negatingText (paths : List (List String)) : String :=
  ",".intercalate (paths.map fun path => "-" ++ dottedText path)

def pathTokens (path : List String) : List Token := (path.map Token.identifier).intersperse .dot

def negatingTokens (paths : List (List String)) : List Token :=
  [Token.comma].intercalate (paths.map fun path => .minus :: pathTokens path)

theorem Reads.path {path : List String} (some_ : path ≠ []) (plain : ∀ key ∈ path, IsIdentifier key)
    {back : List Char} (stop : ∀ c ∈ back.head?, isNameChar c = false) :
    Reads ((dottedText path).toList ++ back) (pathTokens path) back := by
  rw [dottedText]
  induction path with
  | nil => exact absurd rfl some_
  | cons key rest ih =>
    obtain ⟨own, onward⟩ := List.forall_mem_cons.mp plain
    cases rest with
    | nil =>
      rw [String.intercalate_singleton]
      exact .identifier own stop
    | cons next rest =>
      have dot : Reads ('.' :: ((".".intercalate (next :: rest)).toList ++ back))
          (.dot :: pathTokens (next :: rest)) back :=
        .token (by decide) rfl (ih (List.cons_ne_nil _ _) onward)
      have stop' : ∀ c ∈ ('.' :: ((".".intercalate (next :: rest)).toList ++ back)).head?, isNameChar c = false := by
        rintro _ ⟨⟩
        decide
      rw [String.intercalate_cons_cons]
      simpa [pathTokens] using (Reads.identifier own stop').append dot

theorem Reads.negating {paths : List (List String)} (some_ : paths ≠ []) (nonempty : ∀ path ∈ paths, path ≠ [])
    (plain : ∀ path ∈ paths, ∀ key ∈ path, IsIdentifier key) :
    Reads (negatingText paths).toList (negatingTokens paths) [] := by
  rw [negatingText, negatingTokens]
  induction paths with
  | nil => exact absurd rfl some_
  | cons path rest ih =>
    obtain ⟨own, onward⟩ := List.forall_mem_cons.mp plain
    obtain ⟨own', onward'⟩ := List.forall_mem_cons.mp nonempty
    have minus : ∀ back : List Char, (∀ c ∈ back.head?, isNameChar c = false) →
        Reads (("-" ++ dottedText path).toList ++ back) (.minus :: pathTokens path) back := by
      intro back stop
      have dash : Reads ('-' :: ((dottedText path).toList ++ back)) (.minus :: pathTokens path) back :=
        .token (by decide) rfl (Reads.path own' own stop)
      simpa using dash
    cases rest with
    | nil =>
      have last := minus [] nofun
      simpa using last
    | cons next rest =>
      have comma : Reads (',' :: (",".intercalate ((next :: rest).map fun path => "-" ++ dottedText path)).toList)
          (.comma :: [Token.comma].intercalate ((next :: rest).map fun path => .minus :: pathTokens path)) [] :=
        .token (by decide) rfl (ih (List.cons_ne_nil _ _) onward' onward)
      have stop : ∀ c ∈ (',' :: (",".intercalate ((next :: rest).map fun path => "-" ++ dottedText path)).toList).head?,
          isNameChar c = false := by
        rintro _ ⟨⟩
        decide
      have both := (minus _ stop).append comma
      rw [List.map_cons, List.map_cons, String.intercalate_cons_cons, List.map_cons, List.map_cons,
        List.intercalate_cons_cons]
      simpa using both

/-- The name that a token is read as, where it is no pattern and no variable. -/
def Token.plainName? : Token → Option String
  | .identifier name | .quoted name => some name
  | .integer n => some (toString n.toInt)
  | _ => none

/-- A selector inside a nest of blocks. -/
def Selector.nestedIn : List String → Selector → Selector
  | [], leaf => leaf
  | name :: names, leaf => opened name (Block.finish [nestedIn names leaf])

theorem Selector.negatedPath_concat (names : List String) (last : String) :
    negatedPath (names ++ [last]) = nestedIn names (drop last) := by
  induction names with
  | nil => rfl
  | cons name names ih =>
    have below : negatedPath (name :: names ++ [last]) =
        opened name (Block.finish [negatedPath (names ++ [last])]) := by
      cases names <;> rfl
    rw [below, ih, nestedIn]

namespace Parser
open Tokens Selector
variable {inside : Parser (List Selector)} {key : String} {position place : Position} {front rest : Tokens}
  {token : Token} {words : List Token}

theorem name_of_plainName? (plain : token.plainName? = some key) :
    name (⟨token, position⟩ :: rest) = .ok (.exact key, rest) := by
  cases token <;> cases plain <;> rfl

/-- A plain name has no depth bounds. -/
theorem segment_of_plainName? (plain : token.plainName? = some key) :
    segment inside (⟨token, position⟩ :: rest) =
      calls rest.length (named (.exact key) position) rest >>= fun read => block inside read.1 read.2 := by
  rw [segment, name_of_plainName? plain]
  rfl

/-- A name in front of the end of its path stands for itself. -/
theorem segment_last (plain : token.plainName? = some key) (closes : rest.Closes) :
    segment inside (⟨token, position⟩ :: rest) = .ok (named (.exact key) position, rest) := by
  obtain ⟨ender, place, beyond, rfl, ends⟩ := closes
  rw [segment_of_plainName? plain]
  cases ender <;> first | rfl | cases ends

/-- A name in front of a dot stands for itself, when no call follows. -/
theorem segment_dot (plain : token.plainName? = some key) (uncalled : isCall rest = false) :
    segment inside (⟨token, position⟩ :: ⟨.dot, place⟩ :: rest) =
      .ok (named (.exact key) position, ⟨.dot, place⟩ :: rest) := by
  have calls : calls (rest.length + 1) (named (.exact key) position) (⟨.dot, place⟩ :: rest) =
      .ok (named (.exact key) position, ⟨.dot, place⟩ :: rest) := by
    rw [Parser.calls, uncalled]
    rfl
  rw [segment_of_plainName? plain, List.length_cons, calls]
  rfl

/-- Behind the first name of a path there is no call. -/
theorem isCall_path (listed : front.map (·.token) = words.intersperse .dot) (closes : rest.Closes) :
    isCall (front ++ rest) = false := by
  obtain ⟨ender, place, beyond, rfl, ends⟩ := closes
  rcases words with _ | ⟨word, _ | ⟨next, words⟩⟩
  · cases List.map_eq_nil_iff.mp listed
    cases ender <;> first | rfl | cases ends
  · obtain ⟨_, _, rfl, last⟩ := of_tokens_cons listed
    cases List.map_eq_nil_iff.mp last
    cases word <;> first | rfl | (cases ender <;> first | rfl | cases ends)
  · obtain ⟨_, _, rfl, dotted⟩ := of_tokens_cons listed
    obtain ⟨_, _, rfl, _⟩ := of_tokens_cons dotted
    cases word <;> rfl

/-- A dotted path is read name by name. -/
theorem path_names (inside : Parser (List Selector)) {names : List String} (some_ : names ≠ [])
    (plain : words.map Token.plainName? = names.map some) (listed : front.map (·.token) = words.intersperse .dot)
    (closes : rest.Closes) {steps : Nat} (enough : names.length ≤ steps) :
    ∃ segments, path inside steps (front ++ rest) = .ok (segments, rest) ∧
      segments.map bare = names.map fun name => named (.exact name) .start := by
  induction names generalizing front words steps with
  | nil => exact absurd rfl some_
  | cons name names ih =>
    obtain ⟨word, words, rfl, own, others⟩ := List.map_eq_cons_iff.mp plain
    cases steps with
    | zero => cases enough
    | succ steps =>
      cases names with
      | nil =>
        cases List.map_eq_nil_iff.mp others
        obtain ⟨position, _, rfl, last⟩ := of_tokens_cons listed
        cases List.map_eq_nil_iff.mp last
        refine ⟨[named (.exact name) position], ?_, by simp⟩
        rw [List.cons_append, List.nil_append, path, segment_last own closes]
        obtain ⟨ender, place, beyond, rfl, ends⟩ := closes
        cases ender <;> first | rfl | cases ends
      | cons next names =>
        obtain ⟨second, words, rfl, _, _⟩ := List.map_eq_cons_iff.mp others
        obtain ⟨position, _, rfl, dotted⟩ := of_tokens_cons listed
        obtain ⟨place, after, rfl, onward⟩ := of_tokens_cons dotted
        have onward : after.map (·.token) = (second :: words).intersperse .dot := onward
        have uncalled : isCall (after ++ rest) = false := isCall_path onward closes
        obtain ⟨segments, read, same⟩ := ih (List.cons_ne_nil _ _) others onward (Nat.le_of_succ_le_succ enough)
        refine ⟨named (.exact name) position :: segments, ?_, ?_⟩
        · rw [List.cons_append, List.cons_append, path, segment_dot own uncalled]
          change (if isCall (after ++ rest) then _ else _) = _
          rw [uncalled]
          change (path inside steps (after ++ rest) >>= _) = _
          rw [read]
          rfl
        · rw [List.map_cons, same, bare_named]
          rfl

/-- The names of a path become a nest of blocks. -/
theorem nest_names (names : List String) (leaf : Selector) :
    nest leaf (names.map fun name => named (.exact name) .start) = .ok (nestedIn names leaf) := by
  induction names with
  | nil => rfl
  | cons name names ih =>
    rw [List.map_cons, nest, ih]
    rfl

/-- A dotted path is read as its nest of blocks. -/
theorem unsignedSelector_names (inside : Parser (List Selector)) (negated : Bool) {names : List String} {last : String}
    (plain : words.map Token.plainName? = (names ++ [last]).map some)
    (listed : front.map (·.token) = words.intersperse .dot) (closes : rest.Closes) :
    ∃ read, unsignedSelector inside negated (front ++ rest) = .ok (read, rest) ∧
      read.bare = (nestedIn names { named (.exact last) .start with negated }).bare := by
  have enough : (names ++ [last]).length ≤ (front ++ rest).length := by
    have count := congrArg List.length listed
    have count' := congrArg List.length plain
    simp only [List.length_map, List.length_intersperse] at count count'
    rw [← count', List.length_append, count]
    omega
  obtain ⟨segments, read, same⟩ := path_names inside (List.append_ne_nil_of_right_ne_nil _ (List.cons_ne_nil _ _)) plain
    listed closes enough
  rw [List.map_append] at same
  obtain ⟨parents, last', rfl, sameParents, sameLast⟩ := List.map_eq_append_iff.mp same
  obtain ⟨leaf, _, rfl, sameLeaf, ended⟩ := List.map_eq_cons_iff.mp sameLast
  cases List.map_eq_nil_iff.mp ended
  have signed : ({ leaf with negated } : Selector).bare =
      ({ named (.exact last) .start with negated } : Selector).bare := by
    have own : ({ leaf with negated } : Selector).bare = { leaf.bare with negated } := by
      rw [bare_eq, bare_eq]
    rw [own, sameLeaf]
    rfl
  have bare_ : parents.map bare = (names.map fun name => named (.exact name) .start).map bare := by
    rw [sameParents, List.map_map]
    exact List.map_congr_left fun name _ => (bare_named _ _).symm
  obtain ⟨nested, nests, below⟩ := nest_bare signed.symm bare_.symm (nest_names names _)
  refine ⟨nested, ?_, below.symm⟩
  rw [unsignedSelector, read]
  simp only [bind, Except.bind, List.getLast?_concat, List.dropLast_concat, nests]
  rfl

/-- A negated path is read as its nest of blocks. -/
theorem selector_negated (inside : Parser (List Selector)) (position : Position) {names : List String}
    (some_ : names ≠ []) (listed : front.map (·.token) = pathTokens names)
    (closes : rest.Closes) :
    ∃ read, selector inside (⟨.minus, position⟩ :: (front ++ rest)) = .ok (read, rest) ∧
      read.bare = (negatedPath names).bare := by
  have split_ := List.dropLast_concat_getLast some_
  have plain : (names.map Token.identifier).map Token.plainName? =
      (names.dropLast ++ [names.getLast some_]).map some := by
    rw [split_, List.map_map]
    rfl
  obtain ⟨read, reads, same⟩ := unsignedSelector_names inside true plain listed closes
  have whole := negatedPath_concat names.dropLast (names.getLast some_)
  rw [split_] at whole
  exact ⟨read, reads, same.trans (congrArg bare whole.symm)⟩

/-- Negated paths are read one after the other. -/
theorem selectors_negated (inside : Parser (List Selector)) (place : Position) {paths : List (List String)}
    (some_ : paths ≠ []) (nonempty : ∀ path ∈ paths, path ≠ [])
    (listed : front.map (·.token) = negatingTokens paths) {steps : Nat} (enough : paths.length ≤ steps) :
    ∃ block, selectorsWith inside steps (front ++ [⟨.finish, place⟩]) = .ok (block, [⟨.finish, place⟩]) ∧
      block.map bare = (paths.map negatedPath).map bare := by
  induction paths generalizing front steps with
  | nil => exact absurd rfl some_
  | cons names paths ih =>
    obtain ⟨own, onward⟩ := List.forall_mem_cons.mp nonempty
    cases steps with
    | zero => cases enough
    | succ steps =>
      cases paths with
      | nil =>
        have listed : front.map (·.token) = .minus :: pathTokens names := by simpa [negatingTokens] using listed
        obtain ⟨position, front, rfl, path⟩ := of_tokens_cons listed
        have closes : Closes [⟨.finish, place⟩] := ⟨.finish, place, [], rfl, rfl⟩
        obtain ⟨read, single, same⟩ := selector_negated inside position own path closes
        refine ⟨[read], ?_, by simpa using same⟩
        rw [List.cons_append, selectorsWith, single]
        rfl
      | cons next paths =>
        have listed : front.map (·.token) =
            .minus :: (pathTokens names ++ .comma :: negatingTokens (next :: paths)) := by
          simpa [negatingTokens, List.intercalate_cons_cons] using listed
        obtain ⟨position, front, rfl, both⟩ := of_tokens_cons listed
        obtain ⟨first, behind, rfl, path, separated⟩ := List.map_eq_append_iff.mp both
        obtain ⟨comma, behind, rfl, others⟩ := of_tokens_cons separated
        have closes : Closes (⟨.comma, comma⟩ :: (behind ++ [⟨.finish, place⟩])) := ⟨.comma, comma, _, rfl, rfl⟩
        obtain ⟨read, single, same⟩ := selector_negated inside position own path closes
        obtain ⟨block, more, same'⟩ := ih (List.cons_ne_nil _ _) onward others (Nat.le_of_succ_le_succ enough)
        refine ⟨read :: block, ?_, by rw [List.map_cons, same, same']; rfl⟩
        rw [List.cons_append, List.append_assoc, List.cons_append, selectorsWith, single]
        change (selectorsWith inside steps (behind ++ [⟨.finish, place⟩]) >>= _) = _
        rw [more]
        rfl

end Parser

theorem length_le_negatingTokens (paths : List (List String)) : paths.length ≤ (negatingTokens paths).length := by
  rw [negatingTokens]
  induction paths with
  | nil => exact Nat.zero_le _
  | cons path rest ih =>
    cases rest with
    | nil => simp
    | cons next rest =>
      rw [List.map_cons, List.map_cons, List.intercalate_cons_cons, List.length_append, List.length_append]
      rw [List.map_cons] at ih
      simp only [List.length_cons] at ih ⊢
      omega

/-- A filter of negated paths is one stage: the block of these paths. -/
theorem compile_negating {paths : List (List String)} (some_ : paths ≠ []) (nonempty : ∀ path ∈ paths, path ≠ [])
    (plain : ∀ path ∈ paths, ∀ key ∈ path, IsIdentifier key) :
    ∃ tree block, compile (negatingText paths) = .ok tree ∧ tree.MadeOf [block] ∧
      block.map Selector.bare = (Block.finish (paths.map Selector.negatedPath)).map Selector.bare := by
  obtain ⟨spanned, tokenized, listed⟩ := (Reads.negating some_ nonempty plain).tokenize
  obtain ⟨front, last, rfl, same, ended⟩ := List.map_eq_append_iff.mp listed
  obtain ⟨place, _, rfl, nothing⟩ := Parser.of_tokens_cons ended
  cases List.map_eq_nil_iff.mp nothing
  have enough : paths.length ≤ (front ++ [⟨.finish, place⟩] : Tokens).length := by
    have count := congrArg List.length same
    have least := length_le_negatingTokens paths
    simp only [List.length_map, List.length_append, List.length_singleton] at count ⊢
    omega
  obtain ⟨block, read, bare_⟩ := Parser.selectors_negated (Parser.selectors front.length) place some_ nonempty same
    enough
  have stage : Parser.stage (front ++ [⟨.finish, place⟩]) = .ok (Block.finish block, [⟨.finish, place⟩]) := by
    obtain ⟨path, paths, rfl⟩ := List.exists_cons_of_ne_nil some_
    obtain ⟨others, first⟩ : ∃ others, negatingTokens (path :: paths) = .minus :: others := by
      cases paths <;> simp [negatingTokens, List.intercalate_cons_cons]
    obtain ⟨position, behind, rfl, _⟩ := Parser.of_tokens_cons (same.trans first)
    have all : Parser.selectors ((⟨.minus, position⟩ :: behind).length + 1)
        ((⟨.minus, position⟩ :: behind) ++ [⟨.finish, place⟩]) = .ok (block, [⟨.finish, place⟩]) := read
    change (Parser.selectors ((⟨.minus, position⟩ :: behind) ++ [⟨.finish, place⟩] : Tokens).length
      ((⟨.minus, position⟩ :: behind) ++ [⟨.finish, place⟩]) >>= _) = _
    rw [List.length_append, List.length_singleton, all]
    rfl
  have staged : Parser.Staged (front ++ [⟨.finish, place⟩]) [Block.finish block] [⟨.finish, place⟩] :=
    .last stage nofun
  refine ⟨⟨negatingText paths, Parser.numbered 0 [Block.finish block]⟩, Block.finish block, ?_,
    ⟨rfl, staged.ne_nil⟩, ?_⟩
  · rw [compile, tokenized]
    simp only [Except.mapError, bind, Except.bind, staged.filter (Nat.le_add_left _ _)]
    rfl
  · rw [Block.finish_bare, Block.finish_bare, bare_]

end FieldSelect
