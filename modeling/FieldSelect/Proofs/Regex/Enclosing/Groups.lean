import FieldSelect.Proofs.Regex.Enclosing.Classes

/-! Whole groups are read alike by themselves and with their closing behind them. -/
namespace FieldSelect
namespace Regex
variable {flags : Flags} {text longer : List Char}

/-! ### Counts -/

theorem Extends.skipBlanks (extends_ : Extends text longer) : Extends (skipBlanks text) (skipBlanks longer) := by
  obtain rfl | ⟨rfl, rfl⟩ := extends_
  · rw [Regex.skipBlanks, Regex.skipBlanks, List.dropWhile_append]
    split
    next blank =>
      rw [List.isEmpty_iff.mp blank]
      exact .inl (by decide +kernel)
    next => exact .closed _
  · exact .inr ⟨rfl, rfl⟩

/-- A count ends where no digit follows. -/
theorem readCountDigits_extends (extends_ : Extends text longer) (value : Nat) {steps others : Nat}
    (enough : text.length ≤ steps) (enough' : longer.length ≤ others) :
    Paired Extends (readCountDigits flags steps value text) (readCountDigits flags others value longer) := by
  induction steps generalizing others text longer value with
  | zero =>
    obtain rfl := List.length_eq_zero_iff.mp (Nat.le_zero.mp enough)
    obtain ⟨_, rfl | rfl⟩ | ⟨_, _, impossible, _⟩ := extends_.cases
    · obtain ⟨others, rfl⟩ := Nat.exists_eq_add_of_le' enough'
      exact ⟨rfl, extends_⟩
    · cases others <;> exact ⟨rfl, extends_⟩
    · cases impossible
  | succ steps ih =>
    obtain ⟨rfl, rfl | rfl⟩ | ⟨c, rest, rfl, rfl⟩ := extends_.cases
    · obtain ⟨others, rfl⟩ := Nat.exists_eq_add_of_le' enough'
      exact ⟨rfl, extends_⟩
    · cases others <;> exact ⟨rfl, extends_⟩
    · obtain ⟨others, rfl⟩ := Nat.exists_eq_add_of_le' (Nat.le_trans (Nat.le_add_left 1 _) enough')
      rw [readCountDigits, readCountDigits]
      split
      · have behind := (Extends.closed rest).skip flags
        have fewer := Nat.le_trans (length_skip_le flags rest) (Nat.le_of_succ_le_succ enough)
        have fewer' := Nat.le_trans (length_skip_le flags _) (Nat.le_of_succ_le_succ enough')
        obtain ⟨same, left⟩ := ih behind _ fewer fewer'
        exact ⟨congrArg (fun more => some (more.getD (10 * value + (c.toNat - '0'.toNat)))) same, left⟩
      · exact ⟨rfl, extends_⟩

theorem readCount_extends (extends_ : Extends text longer) :
    Paired Extends (readCount flags text) (readCount flags longer) := by
  have fewer (text : List Char) : (skipBlanks text).length ≤ text.length + 1 :=
    Nat.le_succ_of_le (List.dropWhile_sublist _).length_le
  obtain ⟨same, left⟩ :=
    @readCountDigits_extends flags _ _ extends_.skipBlanks 0 _ _ (fewer text) (fewer longer)
  exact ⟨same, left.skipBlanks⟩

theorem reread_bounds (extends_ : Extends text longer) :
    RereadTwo (readBounds flags text) (readBounds flags longer) := by
  rw [readBounds, readBounds]
  obtain ⟨nothing, _⟩ | ⟨c, text, here, there⟩ := (extends_.skip flags).cases
  · rw [nothing]
    exact Carries.error
  · rw [here, there]
    simp only
    have counted : Paired Extends (readCount flags (c :: text)) (readCount flags (c :: (text ++ closing))) :=
      readCount_extends (.closed (c :: text))
    generalize readCount flags (c :: text) = first at counted
    generalize readCount flags (c :: (text ++ closing)) = second at counted
    obtain ⟨low, rest⟩ := first
    obtain ⟨_, longer⟩ := second
    obtain ⟨rfl, left⟩ := counted
    obtain ⟨nothing, _⟩ | ⟨d, rest, rfl, rfl⟩ := Extends.cases left
    · cases nothing
      exact Carries.error
    · by_cases comma : d = ','
      · subst comma
        simp only
        obtain ⟨nothing, _⟩ | ⟨e, rest, here, there⟩ := ((Extends.closed rest).skip flags).cases
        · rw [nothing]
          exact Carries.error
        · rw [here, there]
          by_cases brace : e = '\x7d'
          · subst brace
            exact Carries.after fun least => Carries.ok ⟨rfl, rfl, .closed rest⟩
          · simp only [List.cons.injEq, brace, false_and, imp_self, implies_true]
            refine Carries.after fun least => ?_
            obtain ⟨same, left⟩ : Paired Extends (readCount flags (e :: rest)) (readCount flags (e :: (rest ++ closing))) :=
              readCount_extends (.closed (e :: rest))
            rw [same]
            refine Carries.after fun most => ?_
            obtain ⟨nothing, _⟩ | ⟨f, behind, here, there⟩ := left.cases
            · rw [nothing]
              exact Carries.error
            · rw [here, there]
              by_cases brace : f = '\x7d'
              · subst brace
                simp only
                split
                · exact Carries.ok ⟨rfl, rfl, .closed behind⟩
                · exact Carries.error
              · simp only [List.cons.injEq, brace, false_and, imp_self, implies_true]
                exact Carries.error
      · by_cases brace : d = '\x7d'
        · subst brace
          exact Carries.after fun count => Carries.ok ⟨rfl, rfl, .closed rest⟩
        · simp only [List.cons.injEq, comma, brace, false_and, imp_self, implies_true]
          exact Carries.after fun _ => Carries.error

/-! ### Groups -/

theorem Extends.skipLazy (extends_ : Extends text longer) : Extends (skipLazy text) (skipLazy longer) := by
  obtain ⟨rfl, rfl | rfl⟩ | ⟨c, rest, rfl, rfl⟩ := extends_.cases
  · exact extends_
  · exact extends_
  · by_cases lazy : c = '?'
    · subst lazy
      exact .closed rest
    · have kept (behind : List Char) : Regex.skipLazy (c :: behind) = c :: behind := by
        rw [Regex.skipLazy]
        rintro _ ⟨⟩
        exact lazy rfl
      rw [kept, kept]
      exact extends_

theorem reread_groupName (used : List String) (text : List Char) :
    Reread (readGroupName used text) (readGroupName used (text ++ closing)) := by
  rw [readGroupName, readGroupName]
  by_cases stops : text.dropWhile (· != '>') = []
  · rw [stops]
    exact Carries.error
  · obtain ⟨taken, dropped⟩ := span_append stops closing
    rw [taken, dropped]
    generalize text.takeWhile (· != '>') = name
    cases found : text.dropWhile (· != '>') with
    | nil => exact absurd found stops
    | cons c rest =>
      cases name with
      | nil => exact Carries.error
      | cons first more =>
        rw [List.cons_append]
        simp only
        split
        · exact Reread.ok (.closed rest)
        · exact Carries.error

theorem drop_length_takeWhile (p : Char → Bool) (text : List Char) :
    text.drop (text.takeWhile p).length = text.dropWhile p :=
  calc text.drop (text.takeWhile p).length
    _ = (text.takeWhile p ++ text.dropWhile p).drop (text.takeWhile p).length := by
      rw [List.takeWhile_append_dropWhile]
    _ = text.dropWhile p := List.drop_left

theorem reread_flags (flags : Flags) (text : List Char) :
    RereadTwo (readFlags flags text) (readFlags flags (text ++ closing)) := by
  rw [readFlags, readFlags]
  dsimp only
  rw [drop_length_takeWhile, drop_length_takeWhile]
  by_cases stops : text.dropWhile (fun c => c != ':' && c != ')') = []
  · rw [stops]
    split
    · exact Carries.error
    · split
      · exact Carries.error
      · exact Carries.error
  · obtain ⟨taken, dropped⟩ := span_append stops closing
    rw [taken, dropped]
    split
    · exact Carries.error
    · split
      · exact Carries.error
      · cases found : text.dropWhile (fun c => c != ':' && c != ')') with
        | nil => exact absurd found stops
        | cons c rest =>
          rw [List.cons_append]
          simp only
          split
          · exact Carries.error
          · exact Carries.ok ⟨rfl, rfl, .closed rest⟩

theorem isPrefixOf_append {sign : List Char} (inside : ')' ∉ sign) (text : List Char) :
    sign.isPrefixOf (text ++ closing) = sign.isPrefixOf text := by
  induction sign generalizing text with
  | nil => rfl
  | cons c sign ih =>
    obtain ⟨different, inside⟩ := not_or.mp (mt List.mem_cons.mpr inside)
    cases text with
    | nil => simp [closing, List.isPrefixOf, Ne.symm different]
    | cons d text => rw [List.cons_append, List.isPrefixOf, List.isPrefixOf, ih inside]

theorem isLookAround_append (text : List Char) : isLookAround (text ++ closing) = isLookAround text := by
  have each : ∀ sign ∈ ["?=", "?!", "?<=", "?<!"], ')' ∉ sign.toList := by decide
  rw [isLookAround, isLookAround, Bool.eq_iff_iff, List.any_eq_true, List.any_eq_true]
  refine exists_congr fun sign => and_congr_right fun member => ?_
  rw [isPrefixOf_append (each sign member)]

theorem reread_groupOpening (group : OpenGroup) (extends_ : Extends text longer) :
    Reread (readGroupOpening group text) (readGroupOpening group longer) := by
  have skipped := extends_.skip group.flags
  rw [readGroupOpening, readGroupOpening]
  generalize group.flags.skip text = text at skipped
  generalize group.flags.skip longer = longer at skipped
  obtain rfl | ⟨rfl, rfl⟩ := skipped
  · dsimp only
    rw [isLookAround_append]
    split
    · exact Carries.error
    · cases text with
      | nil => exact Reread.ok (.closed [])
      | cons c rest =>
        by_cases question : c = '?'
        · subst question
          cases rest with
          | nil => exact Carries.error
          | cons d rest =>
            have named (rest : List Char) : Reread
                (readGroupName group.names rest >>= fun found =>
                  .ok (Opening.group true group.flags (found.1 :: group.names), found.2))
                (readGroupName group.names (rest ++ closing) >>= fun found =>
                  .ok (Opening.group true group.flags (found.1 :: group.names), found.2)) := by
              refine Carries.bind (reread_groupName group.names rest) ?_
              rintro ⟨name, rest⟩ ⟨_, longer⟩ ⟨rfl, left⟩
              exact Reread.ok left
            have flagged : Reread
                (readFlags group.flags (d :: rest) >>= fun found =>
                  .ok (if found.2.1 then Opening.group false found.1 group.names else .flags found.1, found.2.2))
                (readFlags group.flags (d :: rest ++ closing) >>= fun found =>
                  .ok (if found.2.1 then Opening.group false found.1 group.names else .flags found.1, found.2.2)) := by
              refine Carries.bind (reread_flags group.flags (d :: rest)) ?_
              rintro ⟨flags, opensGroup, rest⟩ ⟨_, _, longer⟩ ⟨rfl, rfl, left⟩
              exact Reread.ok left
            simp only [List.cons_append]
            split
            case h_1 same =>
              cases same
              exact named _
            case h_2 same =>
              cases same
              exact named _
            case h_3 same => cases same
            case h_4 noName noShortName _ same =>
              cases same
              split
              case h_1 same => exact (cons_cons_ne_of_closed (by decide) noName _ (List.cons.inj same).2).elim
              case h_2 same => exact (cons_ne_of_closed noShortName _ (List.cons.inj same).2).elim
              case h_3 same => cases same
              case h_4 same =>
                cases same
                exact flagged
              case h_5 same => exact absurd rfl (same _)
            case h_5 same => exact absurd rfl (same _)
        · simp only [List.cons_append, List.cons.injEq, question, false_and, imp_self, implies_true]
          exact Reread.ok (.closed (c :: rest))
  · exact Reread.ok (.inr ⟨rfl, rfl⟩)

/-- What is read of a group by itself is read of it with its closing behind it, in as many steps or more. -/
theorem reread_group (group : OpenGroup) (extends_ : Extends text longer) {steps others : Nat} (enough : steps ≤ others) :
    Reread (readGroup steps group text) (readGroup others group longer) := by
  induction steps generalizing others text longer group with
  | zero => exact Carries.error
  | succ steps ih =>
    obtain ⟨others, rfl⟩ := Nat.exists_eq_add_of_le' enough
    have enough := Nat.le_add_left steps others
    rw [← Nat.add_assoc, readGroup, readGroup]
    dsimp only
    obtain ⟨nothing, more⟩ | ⟨c, rest, here, there⟩ := (extends_.skip group.flags).cases
    · rw [nothing]
      rcases more with there | there
      · rw [there]
        exact Reread.ok (.inl rfl)
      · rw [there]
        exact Reread.ok (.inr ⟨rfl, rfl⟩)
    · rw [here, there]
      have closed := Extends.closed rest
      split
      case h_1 same => cases same
      case h_2 same =>
        cases same
        exact Reread.ok (.closed (')' :: rest))
      case h_3 same =>
        cases same
        exact ih _ closed enough
      case h_4 same =>
        cases same
        refine Carries.bind (reread_groupOpening group closed) ?_
        rintro ⟨opening, rest⟩ ⟨_, longer⟩ ⟨rfl, left⟩
        cases opening with
        | flags flags => exact ih _ left enough
        | group keeps inner names =>
          refine Carries.bind (ih _ left enough) ?_
          rintro ⟨inside, rest⟩ ⟨_, longer⟩ ⟨rfl, left⟩
          obtain ⟨nothing, _⟩ | ⟨d, rest, rfl, rfl⟩ := Extends.cases left
          · cases nothing
            exact Carries.error
          · by_cases close : d = ')'
            · subst close
              exact ih _ (.closed rest) enough
            · simp only [List.cons.injEq, close, false_and, imp_self, implies_true]
              exact Carries.error
      case h_5 same =>
        cases same
        refine Carries.bind (reread_class closed enough) ?_
        rintro ⟨set, depth, rest⟩ ⟨_, _, longer⟩ ⟨rfl, rfl, left⟩
        exact ih _ left enough
      case h_6 same =>
        cases same
        exact Carries.after fun group => ih group closed.skipLazy enough
      case h_7 same =>
        cases same
        exact Carries.after fun group => ih group closed.skipLazy enough
      case h_8 same =>
        cases same
        exact Carries.after fun group => ih group closed.skipLazy enough
      case h_9 same =>
        cases same
        refine Carries.after fun _ => Carries.bind (reread_bounds closed) ?_
        rintro ⟨low, high, rest⟩ ⟨_, _, longer⟩ ⟨rfl, rfl, left⟩
        exact Carries.after fun group => ih group (left.skip _).skipLazy enough
      case h_10 same =>
        cases same
        refine Carries.bind (reread_escape closed) ?_
        rintro ⟨atom, rest⟩ ⟨_, longer⟩ ⟨rfl, left⟩
        exact ih _ left enough
      case h_11 same =>
        cases same
        exact Carries.after fun set => ih _ closed enough
      case h_12 same =>
        cases same
        exact ih _ closed enough
      case h_13 same =>
        cases same
        exact ih _ closed enough
      case h_14 same =>
        cases same
        simp only
        exact ih _ closed enough

end Regex
end FieldSelect
