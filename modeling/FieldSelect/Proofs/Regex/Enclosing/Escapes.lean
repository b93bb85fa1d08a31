import FieldSelect.Regex.Reader

/-! A regular expression by itself and inside a group that ends the line. What closes the group is left over where the
expression ends, unless it gets lost in a comment; escapes are read alike. -/
namespace FieldSelect
namespace Regex
variable {α β γ : Type}

/-! ### Two readings side by side -/

/-- Where the first reading has a result, the second has one like it. -/
def Carries (alike : α → β → Prop) (here : Except Fault α) (there : Except Fault β) : Prop :=
  ∀ x, here = .ok x → ∃ y, there = .ok y ∧ alike x y

/-- Pairs with the same first parts. -/
def Paired (alike : β → γ → Prop) (x : α × β) (y : α × γ) : Prop := x.1 = y.1 ∧ alike x.2 y.2

namespace Carries
variable {α' β' : Type} {alike : α → β → Prop} {alike' : α' → β' → Prop}

theorem ok {x : α} {y : β} (same : alike x y) : Carries alike (.ok x) (.ok y) := by
  rintro _ ⟨⟩
  exact ⟨y, rfl, same⟩

theorem error {fault : Fault} {there : Except Fault β} : Carries alike (.error fault) there := nofun

theorem bind {here : Except Fault α} {there : Except Fault β} {next : α → Except Fault α'} {next' : β → Except Fault β'}
    (carries : Carries alike here there) (behind : ∀ x y, alike x y → Carries alike' (next x) (next' y)) :
    Carries alike' (here >>= next) (there >>= next') := by
  cases here with
  | error fault => exact error
  | ok x =>
    obtain ⟨y, rfl, same⟩ := carries x rfl
    exact behind x y same

/-- A step that both have in common. -/
theorem after {outcome : Except Fault γ} {next : γ → Except Fault α} {next' : γ → Except Fault β}
    (behind : ∀ x, Carries alike (next x) (next' x)) : Carries alike (outcome >>= next) (outcome >>= next') := by
  cases outcome with
  | error fault => exact error
  | ok x => exact behind x

theorem map {here : Except Fault α} {there : Except Fault β} {f : α → α'} {g : β → β'}
    (carries : Carries alike here there) (same : ∀ x y, alike x y → alike' (f x) (g y)) :
    Carries alike' (here.map f) (there.map g) := by
  cases here with
  | error fault => exact error
  | ok x =>
    obtain ⟨y, rfl, own⟩ := carries x rfl
    exact ok (same x y own)

end Carries

/-! ### Longer texts -/

/-- What closes a group, and with it the line. -/
def closing : List Char := [')', '$']

/-- The longer text goes on with the closing, unless that is lost in a comment. -/
def Extends (text longer : List Char) : Prop := longer = text ++ closing ∨ text = [] ∧ longer = []

namespace Extends
variable {text longer rest : List Char} {c : Char}

theorem closed (text : List Char) : Extends text (text ++ closing) := .inl rfl

theorem cases (extends_ : Extends text longer) :
    (text = [] ∧ (longer = closing ∨ longer = [])) ∨ ∃ c rest, text = c :: rest ∧ longer = c :: (rest ++ closing) := by
  obtain rfl | ⟨rfl, rfl⟩ := extends_
  · cases text with
    | nil => exact .inl ⟨rfl, .inl rfl⟩
    | cons c rest => exact .inr ⟨c, rest, rfl, rfl⟩
  · exact .inl ⟨rfl, .inr rfl⟩

theorem cons (extends_ : Extends (c :: rest) longer) : longer = c :: (rest ++ closing) := by
  obtain rfl | ⟨same, _⟩ := extends_
  · rfl
  · cases same

theorem skipComments (inComment : Bool) (text : List Char) :
    Extends (Flags.skipComments inComment text) (Flags.skipComments inComment (text ++ closing)) := by
  induction text generalizing inComment with
  | nil =>
    cases inComment with
    | true => exact .inr ⟨rfl, rfl⟩
    | false => exact .inl rfl
  | cons c rest ih =>
    cases inComment with
    | true => exact ih _
    | false =>
      rw [List.cons_append, Flags.skipComments, Flags.skipComments]
      split
      · exact ih false
      · split
        · exact ih true
        · exact .inl rfl

theorem skip (extends_ : Extends text longer) (flags : Flags) : Extends (flags.skip text) (flags.skip longer) := by
  rw [Flags.skip, Flags.skip]
  split
  · obtain rfl | ⟨rfl, rfl⟩ := extends_
    · exact skipComments false text
    · exact .inr ⟨rfl, rfl⟩
  · exact extends_

end Extends

/-- Readings of the same thing, with what is left over. -/
def Reread (here there : Except Fault (α × List Char)) : Prop := Carries (Paired Extends) here there

/-- Readings of the same two things. -/
def RereadTwo (here there : Except Fault (α × β × List Char)) : Prop := Carries (Paired (Paired Extends)) here there

variable {flags : Flags} {text longer : List Char}

theorem Reread.ok {x : α} (extends_ : Extends text longer) : Reread (.ok (x, text)) (.ok (x, longer)) :=
  Carries.ok ⟨rfl, extends_⟩

/-! ### Escapes -/

theorem reread_hexDigits (extends_ : Extends text longer) (width value : Nat) :
    Reread (readHexDigits flags width value text) (readHexDigits flags width value longer) := by
  induction width generalizing value text longer with
  | zero => exact .ok extends_
  | succ width ih =>
    obtain ⟨rfl, _⟩ | ⟨c, rest, rfl, rfl⟩ := extends_.cases
    · exact Carries.error
    · rw [readHexDigits, readHexDigits]
      cases hexDigit? c with
      | none => exact Carries.error
      | some digit => exact ih ((Extends.closed rest).skip flags) _

theorem reread_braced (extends_ : Extends text longer) {steps others : Nat} (enough : steps ≤ others) :
    Reread (readBraced flags steps text) (readBraced flags others longer) := by
  induction steps generalizing others text longer with
  | zero => exact Carries.error
  | succ steps ih =>
    obtain ⟨others, rfl⟩ := Nat.exists_eq_add_of_le' enough
    rw [← Nat.add_assoc, readBraced, readBraced]
    obtain ⟨nothing, _⟩ | ⟨c, rest, here, there⟩ := (extends_.skip flags).cases
    · rw [nothing]
      exact Carries.error
    · rw [here, there]
      by_cases brace : c = '\x7d'
      · subst brace
        exact .ok (.closed rest)
      · simp only
        refine (ih (.closed rest) (Nat.le_add_left steps others)).map ?_
        rintro ⟨chars, rest⟩ ⟨_, longer⟩ ⟨rfl, left⟩
        exact ⟨rfl, left⟩

theorem reread_hex (extends_ : Extends text longer) (width : Nat) :
    Reread (readHex flags width text) (readHex flags width longer) := by
  rw [readHex, readHex]
  obtain ⟨nothing, _⟩ | ⟨c, rest, here, there⟩ := (extends_.skip flags).cases
  · rw [nothing]
    exact Carries.error
  · rw [here, there]
    by_cases brace : c = '\x7b'
    · subst brace
      refine Carries.bind (reread_braced (.closed rest) (by simp)) ?_
      · rintro ⟨digits, rest⟩ ⟨_, longer⟩ ⟨rfl, left⟩
        exact Carries.after fun value => Carries.after fun c => Reread.ok left
    · split
      next impossible => cases impossible
      next same => exact absurd (List.cons.inj same).1 brace
      next =>
        split
        next impossible => cases impossible
        next same => exact absurd (List.cons.inj same).1 brace
        next =>
          refine Carries.bind (reread_hexDigits (.closed (c :: rest)) width 0) ?_
          rintro ⟨value, rest⟩ ⟨_, longer⟩ ⟨rfl, left⟩
          dsimp only
          split
          · exact Carries.error
          · exact Carries.after fun c => Reread.ok left

theorem reread_property (extends_ : Extends text longer) (negated : Bool) :
    Reread (readProperty flags negated text) (readProperty flags negated longer) := by
  rw [readProperty, readProperty]
  obtain ⟨nothing, _⟩ | ⟨c, rest, here, there⟩ := (extends_.skip flags).cases
  · rw [nothing]
    exact Carries.error
  · rw [here, there]
    by_cases brace : c = '\x7b'
    · subst brace
      refine Carries.bind (reread_braced (.closed rest) (by simp)) ?_
      rintro ⟨name, rest⟩ ⟨_, longer⟩ ⟨rfl, left⟩
      dsimp only
      split
      · exact Carries.error
      · split
        · exact Carries.error
        · exact Carries.after fun set => Reread.ok left
    · simp only
      split
      · exact Carries.error
      · refine Carries.bind (Reread.ok ((Extends.closed rest).skip flags)) ?_
        rintro ⟨name, rest⟩ ⟨_, longer⟩ ⟨rfl, left⟩
        dsimp only
        split
        · exact Carries.error
        · split
          · exact Carries.error
          · exact Carries.after fun set => Reread.ok left

theorem length_skipComments_le (inComment : Bool) (text : List Char) :
    (Flags.skipComments inComment text).length ≤ text.length := by
  induction text generalizing inComment with
  | nil => cases inComment <;> exact Nat.le_refl _
  | cons c rest ih =>
    cases inComment with
    | true => exact Nat.le_succ_of_le (ih _)
    | false =>
      rw [Flags.skipComments]
      split
      · exact Nat.le_succ_of_le (ih false)
      · split
        · exact Nat.le_succ_of_le (ih true)
        · exact Nat.le_refl _

theorem length_skip_le (flags : Flags) (text : List Char) : (flags.skip text).length ≤ text.length := by
  rw [Flags.skip]
  split
  · exact length_skipComments_le false text
  · exact Nat.le_refl _

/-- The name of a boundary ends where no letter follows that it could have. -/
theorem readBoundaryName_extends (extends_ : Extends text longer) {steps others : Nat} (enough : text.length ≤ steps)
    (enough' : longer.length ≤ others) :
    Paired Extends (readBoundaryName flags steps text) (readBoundaryName flags others longer) := by
  induction steps generalizing others text longer with
  | zero =>
    obtain rfl := List.length_eq_zero_iff.mp (Nat.le_zero.mp enough)
    obtain ⟨_, rfl | rfl⟩ | ⟨_, _, impossible, _⟩ := extends_.cases
    · obtain ⟨others, rfl⟩ := Nat.exists_eq_add_of_le' enough'
      exact ⟨rfl, extends_⟩
    · cases others <;> exact ⟨rfl, extends_⟩
    · cases impossible
  | succ steps ih =>
    obtain ⟨rfl, rfl | rfl⟩ | ⟨c, rest, rfl, rfl⟩ := extends_.cases
    · obtain ⟨others, rfl⟩ := Nat.exists_eq_add_of_le' enough'
      exact ⟨rfl, extends_⟩
    · cases others <;> exact ⟨rfl, extends_⟩
    · obtain ⟨others, rfl⟩ := Nat.exists_eq_add_of_le' (Nat.le_trans (Nat.le_add_left 1 _) enough')
      rw [readBoundaryName, readBoundaryName]
      split
      · have behind := (Extends.closed rest).skip flags
        have fewer := Nat.le_trans (length_skip_le flags rest) (Nat.le_of_succ_le_succ enough)
        have fewer' := Nat.le_trans (length_skip_le flags _) (Nat.le_of_succ_le_succ enough')
        obtain ⟨same, left⟩ := ih behind fewer fewer'
        exact ⟨congrArg (c :: ·) same, left⟩
      · exact ⟨rfl, extends_⟩

theorem reread_boundary (extends_ : Extends text longer) : Reread (readBoundary flags text) (readBoundary flags longer) := by
  obtain ⟨rfl, rfl | rfl⟩ | ⟨c, rest, rfl, rfl⟩ := extends_.cases
  · exact Reread.ok extends_
  · exact Reread.ok extends_
  · rw [readBoundary.eq_def, readBoundary.eq_def]
    by_cases brace : c = '\x7b'
    · subst brace
      obtain ⟨nothing, _⟩ | ⟨d, inside, here, there⟩ := ((Extends.closed rest).skip flags).cases
      · simp only [nothing]
        exact Carries.error
      · simp only [here, there]
        split
        · exact Reread.ok extends_
        · have named : Paired Extends (readBoundaryName flags (inside.length + 1) (d :: inside))
              (readBoundaryName flags ((inside ++ closing).length + 1) (d :: (inside ++ closing))) :=
            readBoundaryName_extends (.closed (d :: inside)) (Nat.le_refl _) (Nat.le_refl _)
          generalize readBoundaryName flags (inside.length + 1) (d :: inside) = first at named
          generalize readBoundaryName flags ((inside ++ closing).length + 1) (d :: (inside ++ closing)) = second at named
          obtain ⟨name, rest⟩ := first
          obtain ⟨_, longer⟩ := second
          obtain ⟨rfl, left⟩ := named
          split
          next rest' same =>
            cases same
            obtain rfl := Extends.cons left
            have left : Extends rest' (rest' ++ closing) := .closed rest'
            simp only
            split
            case h_5 => exact Carries.error
            all_goals exact Reread.ok left
          next => exact Carries.error
    · split
      next same => exact absurd (List.cons.inj same).1 brace
      next =>
        split
        next same => exact absurd (List.cons.inj same).1 brace
        next => exact Reread.ok extends_

theorem reread_escape (extends_ : Extends text longer) : Reread (readEscape flags text) (readEscape flags longer) := by
  obtain ⟨rfl, _⟩ | ⟨c, rest, rfl, rfl⟩ := extends_.cases
  · exact Carries.error
  · have left : Extends rest (rest ++ closing) := .closed rest
    unfold readEscape
    dsimp only
    split
    · exact Carries.after fun set => Reread.ok left
    · split
      · exact Reread.ok left
      · split
        · exact reread_hex left 2
        · exact reread_hex left 4
        · exact reread_hex left 8
        · exact reread_property left false
        · exact reread_property left true
        case h_17 =>
          refine Carries.bind (reread_boundary left) ?_
          rintro ⟨condition, rest⟩ ⟨_, longer⟩ ⟨rfl, left⟩
          exact Reread.ok left
        case h_18 => exact Carries.error
        all_goals exact Reread.ok left

end Regex
end FieldSelect
