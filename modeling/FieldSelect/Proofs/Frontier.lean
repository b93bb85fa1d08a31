import FieldSelect.Frontier
import FieldSelect.Proofs.FirstBest

/-! Which selector of a frontier decides for a field, and where it leads. -/
namespace FieldSelect
namespace Frontier
variable {frontier : Frontier} {candidate : String} {bindings : Option Bindings} {selector : Selector}
  {score : Nat}

/-- All selectors that may decide for a field. -/
def selectors (frontier : Frontier) : List Selector := frontier.explicit ++ frontier.inherited.map (·.1)

/-- Below a field that one of the selectors keeps, the lower frontier decides. -/
def LeadsTo (frontier lower : Frontier) : Prop :=
  ∃ selector ∈ frontier.selectors, frontier.next selector = .descend lower

/-- No selector of the list fits, or the one that was found does and no other fits better. -/
def IsBest (fit : Selector → Option Nat) (selectors : List Selector) : Option (Selector × Nat) → Prop
  | none => ∀ selector ∈ selectors, fit selector = none
  | some (found, score) =>
    found ∈ selectors ∧ fit found = some score ∧
      ∀ selector ∈ selectors, ∀ other, fit selector = some other → other ≤ score

theorem findsFirstBest_best? (frontier : Frontier) (candidate : String) (bindings : Option Bindings) :
    FindsFirstBest (fit? candidate bindings) frontier.explicit (frontier.best? candidate bindings) := by
  rw [best?]
  induction frontier.explicit using List.reverseRecOn with
  | nil => exact List.forall_mem_nil _
  | append_singleton selectors next ih =>
    rw [List.foldl_append, List.foldl_cons, List.foldl_nil]
    refine cast (congrArg _ ?_) (ih.concat next)
    rw [better.eq_def]
    cases fit? candidate bindings next with
    | none => rfl
    | some high =>
      cases selectors.foldl (fun best next => better best next (fit? candidate bindings next)) none with
      | none => rfl
      | some best => simp only [Option.all_some, decide_eq_true_eq]

theorem isBest_best? (frontier : Frontier) (candidate : String) (bindings : Option Bindings) :
    IsBest (fit? candidate bindings) frontier.explicit (frontier.best? candidate bindings) := by
  have finds := frontier.findsFirstBest_best? candidate bindings
  cases found : frontier.best? candidate bindings with
  | none => exact finds.eq_none_iff.mp found
  | some best =>
    have first := finds.eq_some_iff.mp found
    exact ⟨first.mem, first.scored, fun _ member _ fits => first.le member fits⟩

theorem mem_of_nearest? (found : frontier.nearest? candidate bindings = some (selector, score)) :
    selector ∈ frontier.inherited.map (·.1) := by
  obtain ⟨⟨inherited, depth⟩, member, same⟩ := List.exists_of_findSome?_eq_some found
  dsimp only at same
  split at same
  · obtain ⟨_, _, same⟩ := Option.map_eq_some_iff.mp same
    cases same
    exact List.mem_map_of_mem member
  · cases same

theorem verdict_eq_included {inherited fromAbove : Bool} {found : Selector × Nat}
    (included : verdict fromAbove found = .included selector score inherited) :
    found = (selector, score) ∧ selector.negated = false := by
  obtain ⟨best, top⟩ := found
  rw [verdict] at included
  split at included
  · cases included
  · rename_i kept
    cases included
    exact ⟨rfl, by simpa using kept⟩

theorem mem_of_resolve {inherited : Bool}
    (included : frontier.resolve candidate bindings = .included selector score inherited) :
    selector ∈ frontier.selectors := by
  rw [resolve] at included
  split at included
  · rename_i best found
    have isBest := frontier.isBest_best? candidate bindings
    rw [found, (verdict_eq_included included).1] at isBest
    exact List.mem_append_left _ isBest.1
  · split at included
    · rename_i nearest found
      rw [(verdict_eq_included included).1] at found
      exact List.mem_append_right _ (mem_of_nearest? found)
    · cases included

theorem mem_of_passedDown {depth : Nat} (passed : (selector, depth) ∈ frontier.passedDown) :
    selector ∈ frontier.selectors := by
  rw [passedDown, List.mem_filterMap] at passed
  obtain ⟨⟨before, above⟩, member, same⟩ := passed
  dsimp only at same
  split at same
  · cases same
    rcases List.mem_append.mp member with own | inherited
    · obtain ⟨_, present, same⟩ := List.mem_map.mp own
      cases same
      exact List.mem_append_left _ ((List.mem_filter.mp present).1)
    · exact List.mem_append_right _ (List.mem_map_of_mem inherited)
  · cases same

/-- Lower down there are only selectors that stood here or in a block of one that did. -/
theorem LeadsTo.mem_selectors {lower : Frontier} (leads : frontier.LeadsTo lower)
    (member : selector ∈ lower.selectors) :
    selector ∈ frontier.selectors ∨ ∃ parent ∈ frontier.selectors, selector ∈ parent.children := by
  obtain ⟨parent, present, next⟩ := leads
  have passed : selector ∈ frontier.passedDown.map (·.1) → selector ∈ frontier.selectors := by
    intro inherited
    obtain ⟨⟨_, depth⟩, passed, same⟩ := List.mem_map.mp inherited
    cases same
    exact mem_of_passedDown passed
  rw [Frontier.next] at next
  split at next
  · cases next
  · split at next
    · cases next
      rcases List.mem_append.mp member with child | inherited
      · exact .inr ⟨parent, present, child⟩
      · exact .inl (passed inherited)
    · split at next <;> cases next
      exact .inl (passed member)

/-- What holds of selectors and is handed on to those in their blocks holds lower down as well. -/
theorem LeadsTo.forall_mem {P : Selector → Prop} {lower : Frontier} (leads : frontier.LeadsTo lower)
    (inner : ∀ parent, P parent → ∀ child ∈ parent.children, P child)
    (all : ∀ selector ∈ frontier.selectors, P selector) : ∀ selector ∈ lower.selectors, P selector := by
  intro selector member
  rcases leads.mem_selectors member with present | ⟨parent, present, child⟩
  · exact all selector present
  · exact inner parent (all parent present) selector child

theorem mem_of_mem_top {tree : Tree} {stage : Nat} (member : selector ∈ (top (tree.stage stage)).selectors) :
    selector ∈ tree.selectors := by
  rw [selectors, top, List.map_nil, List.append_nil] at member
  exact (List.mem_filter.mp member).1

end Frontier
end FieldSelect
