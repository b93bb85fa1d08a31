import FieldSelect.Proofs.Regex.Enclosing.Escapes
import Mathlib.Data.List.TakeDrop

/-! Classes are read alike whether or not a group is closed behind them. -/
namespace FieldSelect
namespace Regex
variable {flags : Flags} {text longer : List Char}

/-! ### Items and ranges -/

theorem reread_item (extends_ : Extends text longer) : Reread (readItem flags text) (readItem flags longer) := by
  obtain ⟨rfl, _⟩ | ⟨c, rest, rfl, rfl⟩ := extends_.cases
  · exact Carries.error
  · by_cases escape : c = '\\'
    · subst escape
      exact reread_escape (.closed rest)
    · rw [readItem.eq_def, readItem.eq_def]
      simp only
      exact Reread.ok (.closed rest)

theorem skipComments_eq_nil {inComment : Bool} (blank : text.dropWhile isBlank = []) :
    Flags.skipComments inComment text = [] := by
  induction text generalizing inComment with
  | nil => cases inComment <;> rfl
  | cons c rest ih =>
    rw [List.dropWhile_cons] at blank
    split at blank
    next own =>
      cases inComment with
      | true => exact ih blank
      | false =>
        rw [Flags.skipComments, if_pos own]
        exact ih blank
    next => cases blank

theorem skipComments_dropWhile (text : List Char) :
    Flags.skipComments false (text.dropWhile isBlank) = Flags.skipComments false text := by
  induction text with
  | nil => rfl
  | cons c rest ih =>
    rw [List.dropWhile_cons]
    split
    next blank => rw [ih, Flags.skipComments, if_pos blank]
    next => rfl

/-- Where the next sign is only looked for behind blanks and comments, it is none that would end a class or combine it. -/
theorem head?_of_dropWhile (passed : text.dropWhile isBlank = [] ∨ (text.dropWhile isBlank).head? = some '#') :
    text.head? ≠ some ']' ∧ text.head? ≠ some '-' := by
  cases text with
  | nil => exact ⟨nofun, nofun⟩
  | cons c rest =>
    rw [List.dropWhile_cons] at passed
    have different (sign : Char) (solid : isBlank sign = false) (other : sign ≠ '#') : some c ≠ some sign := by
      rintro ⟨⟩
      rw [solid] at passed
      rcases passed with impossible | same
      · cases impossible
      · exact other (Option.some.inj same)
    exact ⟨different ']' (by decide +kernel) (by decide), different '-' (by decide +kernel) (by decide)⟩

/-- The sign behind a hyphen is found alike, unless nothing can be read behind it. -/
theorem rangeSign?_append (flags : Flags) (text : List Char) :
    rangeSign? flags (text ++ closing) = rangeSign? flags text ∨
      flags.skip text = [] ∧ rangeSign? flags text ≠ some ']' ∧ rangeSign? flags text ≠ some '-' := by
  by_cases extended : flags.extended = true
  · simp only [rangeSign?, Flags.skip, extended, Bool.not_true, Bool.false_eq_true, if_false, if_true]
    rw [← skipComments_dropWhile, List.dropWhile_append]
    have passed := @head?_of_dropWhile text
    cases dropped : text.dropWhile isBlank with
    | nil => exact .inr ⟨rfl, passed (.inl dropped)⟩
    | cons c rest =>
      rw [dropped] at passed
      by_cases comment : c = '#'
      · subst comment
        have skipped : Flags.skipComments false ('#' :: rest) = Flags.skipComments true rest := rfl
        cases more : rest.dropWhile isBlank with
        | nil =>
          refine .inr ⟨skipped.trans (skipComments_eq_nil more), ?_⟩
          simp only [more]
          exact passed (.inr rfl)
        | cons d behind =>
          refine .inl ?_
          simp [List.dropWhile_append, more]
      · refine .inl ?_
        simp only [List.isEmpty_cons, Bool.false_eq_true, if_false, List.cons_append, List.cons.injEq, comment, false_and,
          imp_self, implies_true]
        rfl
  · simp only [rangeSign?, Flags.skip, extended, Bool.not_false, if_true]
    cases text with
    | nil => exact .inr ⟨rfl, by simp, by simp⟩
    | cons c rest => exact .inl rfl

theorem reread_range (extends_ : Extends text longer) : Reread (readRange flags text) (readRange flags longer) := by
  rw [readRange, readRange]
  refine Carries.bind (reread_item extends_) ?_
  rintro ⟨low, rest⟩ ⟨_, longer⟩ ⟨rfl, left⟩
  dsimp only
  obtain ⟨nothing, _⟩ | ⟨c, rest, here, there⟩ := (left.skip flags).cases
  · rw [nothing]
    exact Carries.error
  · rw [here, there]
    by_cases hyphen : c = '-'
    · subst hyphen
      simp only
      rcases rangeSign?_append flags rest with same | ⟨nothing, noBracket, noHyphen⟩
      · rw [same]
        split
        · exact Carries.after fun set => Reread.ok (.closed ('-' :: rest))
        · refine Carries.bind (reread_item ((Extends.closed rest).skip flags)) ?_
          rintro ⟨high, rest⟩ ⟨_, longer⟩ ⟨rfl, left⟩
          dsimp only
          split
          · split
            · exact Carries.error
            · split
              · exact Carries.error
              · exact Reread.ok left
          · exact Carries.error
      · rw [if_neg (by simp [noBracket, noHyphen]), nothing]
        exact Carries.error
    · split
      next impossible => cases impossible
      next same => exact absurd (List.cons.inj same).1 hyphen
      next =>
        split
        next impossible => cases impossible
        next same => exact absurd (List.cons.inj same).1 hyphen
        next => exact Carries.after fun set => Reread.ok (.closed (c :: rest))

/-! ### What opens a class -/

/-- A text is parted where it was before, if it was parted at all. -/
theorem span_append {p : Char → Bool} {text : List Char} (stops : text.dropWhile p ≠ []) (more : List Char) :
    (text ++ more).takeWhile p = text.takeWhile p ∧ (text ++ more).dropWhile p = text.dropWhile p ++ more := by
  induction text with
  | nil => exact absurd rfl stops
  | cons c rest ih =>
    rw [List.dropWhile_cons] at stops
    rw [List.cons_append, List.takeWhile_cons, List.takeWhile_cons, List.dropWhile_cons, List.dropWhile_cons]
    split at stops
    next own =>
      obtain ⟨taken, dropped⟩ := ih stops
      rw [if_pos own, if_pos own, if_pos own, if_pos own, taken, dropped]
      exact ⟨rfl, rfl⟩
    next other =>
      rw [if_neg other, if_neg other, if_neg other, if_neg other]
      exact ⟨rfl, rfl⟩

/-- The set whose name stands in front of the text, with what is behind it. -/
def namedSet? (negated : Bool) (text : List Char) : Option (Bool × CharSet × List Char) :=
  match text.span (· != ':') with
  | (name, ':' :: ']' :: rest) => (posix? (String.ofList name)).map (negated, ·, rest)
  | _ => none

/-- Nothing that closes a group could be the end of a named set. -/
theorem namedSet?_append (negated : Bool) (text : List Char) : namedSet? negated (text ++ closing) =
    (namedSet? negated text).map fun found => (found.1, found.2.1, found.2.2 ++ closing) := by
  rw [namedSet?, namedSet?, List.span_eq_takeWhile_dropWhile, List.span_eq_takeWhile_dropWhile]
  by_cases stops : text.dropWhile (· != ':') = []
  · rw [List.dropWhile_append, stops]
    rfl
  · obtain ⟨taken, dropped⟩ := span_append stops closing
    rw [taken, dropped]
    generalize text.takeWhile (· != ':') = name
    rcases text.dropWhile (· != ':') with _ | ⟨c, _ | ⟨d, rest⟩⟩
    · rfl
    · by_cases same : c = ':'
      · subst same
        rfl
      · simp [same]
    · by_cases same : c = ':'
      · by_cases same' : d = ']'
        · subst same same'
          simp only [List.cons_append]
          cases posix? (String.ofList name) <;> rfl
        · simp [same']
      · simp [same]

theorem readPosix?_append (rest : List Char) : readPosix? ('[' :: (rest ++ closing)) =
    (readPosix? ('[' :: rest)).map fun found => (found.1, found.2.1, found.2.2 ++ closing) := by
  cases rest with
  | nil => rfl
  | cons d rest =>
    by_cases colon : d = ':'
    · subst colon
      rw [List.cons_append, readPosix?.eq_def, readPosix?.eq_def]
      cases rest with
      | nil => exact namedSet?_append false []
      | cons e rest =>
        by_cases caret : e = '^'
        · subst caret
          exact namedSet?_append true rest
        · simp only [List.cons_append, List.cons.injEq, caret, false_and, imp_self, implies_true]
          exact namedSet?_append false (e :: rest)
    · have other (behind : List Char) : readPosix? ('[' :: d :: behind) = none := by
        rw [readPosix?.eq_def]
        split
        next same => exact absurd (List.cons.inj (List.cons.inj same).2).1 colon
        next => rfl
      rw [List.cons_append, other, other]
      rfl

theorem readOpening_other {c : Char} (hyphen : c ≠ '-') (bracket : c ≠ ']') (steps : Nat) (first : Bool)
    (rest : List Char) : readOpening flags (steps + 1) first (c :: rest) = .ok ([], c :: rest) := by
  rw [readOpening]
  · nofun
  · rintro _ ⟨⟩
    exact hyphen rfl
  · rintro _ ⟨⟩
    exact bracket rfl

theorem reread_opening (extends_ : Extends text longer) {steps others : Nat} (enough : steps ≤ others) (first : Bool) :
    Reread (readOpening flags steps first text) (readOpening flags others first longer) := by
  induction steps generalizing others text longer first with
  | zero => exact Carries.error
  | succ steps ih =>
    obtain ⟨others, rfl⟩ := Nat.exists_eq_add_of_le' enough
    obtain ⟨rfl, _⟩ | ⟨c, rest, rfl, rfl⟩ := extends_.cases
    · exact Carries.error
    · rw [← Nat.add_assoc]
      have left := (Extends.closed rest).skip flags
      by_cases hyphen : c = '-'
      · subst hyphen
        refine (ih left (Nat.le_add_left steps others) false).map ?_
        rintro ⟨sets, rest⟩ ⟨_, longer⟩ ⟨rfl, left⟩
        exact ⟨rfl, left⟩
      · by_cases bracket : c = ']'
        · subst bracket
          rw [readOpening, readOpening]
          split
          · exact Reread.ok extends_
          · split
            · exact Carries.error
            next more =>
              obtain ⟨nothing, _⟩ | ⟨d, behind, here, there⟩ := left.cases
              · exact absurd (List.isEmpty_iff.mpr nothing) more
              · rw [if_neg (by simp [there])]
                exact Reread.ok left
        · rw [readOpening_other hyphen bracket, readOpening_other hyphen bracket]
          exact Reread.ok extends_

theorem cons_ne_of_closed {c d : Char} {rest : List Char} (different : ∀ behind, c :: rest = d :: behind → False)
    (behind : List Char) : c :: (rest ++ closing) = d :: behind → False := by
  rintro ⟨⟩
  exact different rest rfl

/-- What closes a group does not make a pair of two like signs. -/
theorem cons_cons_ne_of_closed {c d e : Char} (inside : e ≠ ')') {rest : List Char}
    (different : ∀ behind, c :: rest = d :: e :: behind → False) (behind : List Char) :
    c :: (rest ++ closing) = d :: e :: behind → False := by
  cases rest with
  | nil =>
    rintro ⟨⟩
    exact inside rfl
  | cons second rest =>
    rintro ⟨⟩
    exact different rest rfl

/-! ### Whole classes -/

theorem reread_items {steps others : Nat}
    (inner : ∀ {text longer}, Extends text longer → RereadTwo (readClass flags steps text) (readClass flags others longer))
    (extends_ : Extends text longer) (open_ : OpenClass) {rounds more : Nat} (enough : rounds ≤ more) :
    Reread (readClass.items flags steps open_ rounds text) (readClass.items flags others open_ more longer) := by
  induction rounds generalizing more text longer open_ with
  | zero =>
    rw [readClass.items]
    exact Carries.error
  | succ rounds ih =>
    obtain ⟨more, rfl⟩ := Nat.exists_eq_add_of_le' enough
    have enough := Nat.le_add_left rounds more
    rw [← Nat.add_assoc, readClass.items, readClass.items]
    obtain ⟨nothing, _⟩ | ⟨c, rest, here, there⟩ := (extends_.skip flags).cases
    · rw [nothing]
      exact Carries.error
    · rw [here, there]
      split
      case h_1 => exact Carries.error
      case h_2 same =>
        cases same
        exact Reread.ok (.closed _)
      case h_3 same =>
        cases same
        exact ih (.closed _) _ enough
      case h_4 same =>
        cases same
        exact ih (.closed _) _ enough
      case h_5 same =>
        cases same
        exact ih (.closed _) _ enough
      case h_6 rest same =>
        cases same
        simp only [readPosix?_append]
        cases readPosix? ('[' :: rest) with
        | none =>
          refine Carries.bind (inner (.closed rest)) ?_
          rintro ⟨set, depth, rest⟩ ⟨_, _, longer⟩ ⟨rfl, rfl, left⟩
          exact ih left _ enough
        | some named =>
          obtain ⟨negated, set, rest⟩ := named
          exact Carries.after fun set => ih (.closed rest) _ enough
      case h_7 noEnd noAnd noMinus noTilde noOpening =>
        split
        case h_1 same => cases same
        case h_2 same => exact (cons_ne_of_closed noEnd _ same).elim
        case h_3 same => exact (cons_cons_ne_of_closed (by decide) noAnd _ same).elim
        case h_4 same => exact (cons_cons_ne_of_closed (by decide) noMinus _ same).elim
        case h_5 same => exact (cons_cons_ne_of_closed (by decide) noTilde _ same).elim
        case h_6 same => exact (cons_ne_of_closed noOpening _ same).elim
        refine Carries.bind (reread_range (.closed (c :: rest))) ?_
        rintro ⟨set, rest⟩ ⟨_, longer⟩ ⟨rfl, left⟩
        exact ih left _ enough

/-- What stands between the brackets of a class, behind the caret. -/
def readBody (flags : Flags) (steps : Nat) (negated : Bool) (inside : List Char) :
    Except Fault (CharSet × Nat × List Char) := do
  let (opening, rest) ← readOpening flags (steps + 1) true inside
  let (class_, rest) ← readClass.items flags steps ⟨none, opening.reverse, 0⟩ (steps + 1) rest
  let set ← flags.complement negated (flags.fold (class_.value flags))
  return (set, class_.depth, rest)

theorem reread_class (extends_ : Extends text longer) {steps others : Nat} (enough : steps ≤ others) :
    RereadTwo (readClass flags steps text) (readClass flags others longer) := by
  induction steps generalizing others text longer with
  | zero =>
    rw [readClass]
    exact Carries.error
  | succ steps ih =>
    obtain ⟨others, rfl⟩ := Nat.exists_eq_add_of_le' enough
    have inner {text longer : List Char} (left : Extends text longer) := ih left (Nat.le_add_left steps others)
    have enough : steps + 1 ≤ others + steps + 1 := Nat.add_le_add_right (Nat.le_add_left steps others) 1
    have body (negated : Bool) {inside inside' : List Char} (left : Extends inside inside') :
        RereadTwo (readBody flags steps negated inside) (readBody flags (others + steps) negated inside') := by
      refine Carries.bind (reread_opening left enough true) ?_
      rintro ⟨opening, rest⟩ ⟨_, longer⟩ ⟨rfl, left⟩
      refine Carries.bind (reread_items inner left _ enough) ?_
      rintro ⟨class_, rest⟩ ⟨_, longer⟩ ⟨rfl, left⟩
      exact Carries.after fun set => Carries.ok ⟨rfl, rfl, left⟩
    rw [← Nat.add_assoc, readClass, readClass]
    obtain ⟨nothing, _⟩ | ⟨c, rest, here, there⟩ := (extends_.skip flags).cases
    · rw [nothing]
      exact Carries.error
    · rw [here, there]
      by_cases caret : c = '^'
      · subst caret
        exact body true ((Extends.closed rest).skip flags)
      · simp only [List.cons.injEq, caret, false_and, imp_self, implies_true]
        exact body false (.closed (c :: rest))

end Regex
end FieldSelect
