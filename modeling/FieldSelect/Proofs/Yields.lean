import FieldSelect.Entries

/-! What comes out of steps that may fail, and of readers among them. A reader takes a part of what is before it and
hands back the rest. -/
namespace FieldSelect
variable {ε ρ α β : Type} {P : α → Prop} {Q : β → Prop}

theorem exists_of_bind_eq_ok {first : Except ε α} {next : α → Except ε β} {y : β}
    (done : first >>= next = .ok y) : ∃ x, first = .ok x ∧ next x = .ok y := by
  cases first with
  | ok x => exact ⟨x, rfl, done⟩
  | error error => cases done

theorem exists_of_bind_eq_error {first : Except ε α} {next : α → Except ε β} {error : ε}
    (failed : first >>= next = .error error) : first = .error error ∨ ∃ x, next x = .error error := by
  cases first with
  | error own => exact .inl (congrArg Except.error (Except.error.inj failed))
  | ok x => exact .inr ⟨x, failed⟩

theorem exists_of_map_eq_ok {outcome : Except ε α} {f : α → β} {y : β} (done : outcome.map f = .ok y) :
    ∃ x, outcome = .ok x ∧ f x = y := by
  cases outcome with
  | ok x => exact ⟨x, rfl, Except.ok.inj done⟩
  | error error => cases done

theorem exists_of_any_toOption {outcome : Except ε α} {check : α → Bool}
    (checked : outcome.toOption.any check = true) : ∃ x, outcome = .ok x ∧ check x = true := by
  cases outcome with
  | ok x => exact ⟨x, rfl, checked⟩
  | error error => cases checked

theorem exists_of_foldlM_eq_error {step : β → α → Except ε β} {items : List α} {start : β} {error : ε}
    (failed : items.foldlM step start = .error error) : ∃ x, ∃ item ∈ items, step x item = .error error := by
  induction items generalizing start with
  | nil => cases failed
  | cons item rest ih =>
    rw [List.foldlM_cons] at failed
    rcases exists_of_bind_eq_error failed with own | ⟨next, later⟩
    · exact ⟨start, item, List.mem_cons_self, own⟩
    · obtain ⟨x, other, member, found⟩ := ih later
      exact ⟨x, other, List.mem_cons_of_mem item member, found⟩

/-! ### Steps -/

/-- Whatever comes out has the property. -/
def Returns (P : α → Prop) (outcome : Except ε α) : Prop := ∀ x, outcome = .ok x → P x

theorem Returns.ok {x : α} (holds : P x) : Returns P (.ok x : Except ε α) := by
  rintro _ ⟨⟩
  exact holds

theorem Returns.error (error : ε) : Returns P (.error error : Except ε α) := by
  rintro _ ⟨⟩

theorem Returns.bind {first : Except ε α} {next : α → Except ε β} (returns : Returns P first)
    (rest : ∀ x, P x → Returns Q (next x)) : Returns Q (first >>= next) := by
  intro y done
  obtain ⟨x, result, done⟩ := exists_of_bind_eq_ok done
  exact rest x (returns x result) y done

/-- What came out before does not matter. -/
theorem Returns.after (first : Except ε α) {next : α → Except ε β} (rest : ∀ x, Returns Q (next x)) :
    Returns Q (first >>= next) :=
  Returns.bind (P := fun _ => True) (fun _ _ => trivial) fun x _ => rest x

theorem Returns.mapError {ε' : Type} {outcome : Except ε α} (returns : Returns P outcome) (rename : ε → ε') :
    Returns P (outcome.mapError rename) := by
  cases outcome with
  | ok x => exact .ok (returns x rfl)
  | error error => exact .error _

theorem Returns.mapM {step : α → Except ε β} {items : List α} (each : ∀ item ∈ items, Returns Q (step item)) :
    Returns (fun results => ∀ result ∈ results, Q result) (items.mapM step) := by
  induction items with
  | nil => exact .ok nofun
  | cons item rest ih =>
    obtain ⟨own, others⟩ := List.forall_mem_cons.mp each
    rw [List.mapM_cons]
    exact own.bind fun first head => (ih others).bind fun more tail => .ok (List.forall_mem_cons.mpr ⟨head, tail⟩)

/-- What each step keeps, all of them keep. -/
theorem Returns.foldlM {step : β → α → Except ε β} {items : List α} {start : β}
    (each : ∀ item ∈ items, ∀ x, Q x → Returns Q (step x item)) (holds : Q start) :
    Returns Q (items.foldlM step start) := by
  induction items generalizing start with
  | nil => exact .ok holds
  | cons item rest ih =>
    obtain ⟨own, others⟩ := List.forall_mem_cons.mp each
    rw [List.foldlM_cons]
    exact (own start holds).bind fun next kept => ih others kept

/-! ### Readers -/

/-- Whatever is read has the property. -/
def Yields (P : α → Prop) (result : Except ε (α × ρ)) : Prop := ∀ x rest, result = .ok (x, rest) → P x

theorem Yields.pure {x : α} (holds : P x) (rest : ρ) : Yields P (pure (x, rest) : Except ε (α × ρ)) := by
  rintro _ _ ⟨⟩
  exact holds

theorem Yields.error (error : ε) : Yields P (.error error : Except ε (α × ρ)) := by
  rintro _ _ ⟨⟩

theorem Yields.bind {first : Except ε (α × ρ)} {next : α × ρ → Except ε (β × ρ)} (yields : Yields P first)
    (then_ : ∀ x rest, P x → Yields Q (next (x, rest))) : Yields Q (first >>= next) := by
  intro y left read
  obtain ⟨⟨x, rest⟩, result, read⟩ := exists_of_bind_eq_ok read
  exact then_ x rest (yields x rest result) y left read

/-- What was read does not matter. -/
theorem Yields.any (result : Except ε (α × ρ)) : Yields (fun _ => True) result := fun _ _ _ => trivial

end FieldSelect
