import FieldSelect.Engine
import FieldSelect.Proofs.Filter.Reordering
import FieldSelect.Proofs.Frontier
import FieldSelect.Proofs.Projection.Matching
import Mathlib

/-! In which order siblings stand does not count as long as no two of them can tie. -/
namespace FieldSelect
open Selector

namespace Frontier

/-- Its block is untied, and so are all blocks below what may decide for a field. Only `**` is recursive. -/
structure Untied (frontier : Frontier) : Prop where
  explicit : Block.Untied frontier.explicit
  blocks : ∀ selector, Within selector frontier.selectors → Block.Untied selector.children
  deep : ∀ selector, Within selector frontier.selectors → selector.recursive = true → selector.name = .anyDeep

/-- The same inherited selector at the same depth, with the blocks below it in another order. -/
def InheritedReordered (inherited other : Selector × Nat) : Prop :=
  inherited.1.Reordered other.1 ∧ inherited.2 = other.2

/-- An untied frontier and the same one in another order. -/
structure Reordered (frontier other : Frontier) : Prop where
  untied : frontier.Untied
  explicit : Block.Reordered frontier.explicit other.explicit
  inherited : List.Forall₂ InheritedReordered frontier.inherited other.inherited

variable {frontier lower other : Frontier} {candidate : String} {bindings : Option Bindings} {selector : Selector}

theorem LeadsTo.within (leads : frontier.LeadsTo lower) (within : Within selector lower.selectors) :
    Within selector frontier.selectors := by
  cases within with
  | here member =>
    rcases leads.mem_selectors member with present | ⟨parent, present, child⟩
    · exact .here present
    · exact .deeper present (.here child)
  | deeper member within =>
    rcases leads.mem_selectors member with present | ⟨parent, present, child⟩
    · exact .deeper present within
    · exact .deeper present (.deeper child within)

theorem LeadsTo.untied (leads : frontier.LeadsTo lower) (untied : frontier.Untied) : lower.Untied where
  explicit := by
    obtain ⟨parent, present, next⟩ := leads
    rw [Frontier.next] at next
    split at next
    · cases next
    · split at next
      · cases next
        exact untied.blocks parent (.here present)
      · split at next <;> cases next
        exact ⟨List.forall_mem_nil _, .nil⟩
  blocks selector within := untied.blocks selector (leads.within within)
  deep selector within := untied.deep selector (leads.within within)

/-- The same selector with the same score, but for the order of the blocks below it. -/
def FoundReordered (found other : Selector × Nat) : Prop := found.1.Reordered other.1 ∧ found.2 = other.2

theorem score?_of_fit? {score : Nat} (fits : fit? candidate bindings selector = some score) :
    selector.name.score? candidate bindings = some score := by
  rw [fit?] at fits
  split at fits
  · exact fits
  · cases fits

/-- Two selectors of an untied block do not fit a name equally well. -/
theorem eq_of_fit? {block : List Selector} (untied : Block.Untied block) {partner : Selector}
    (member : selector ∈ block) (member' : partner ∈ block) {score : Nat} (fits : fit? candidate bindings selector = some score)
    (fits' : fit? candidate bindings partner = some score) : selector = partner :=
  untied.eq_of_name member member' <| (untied.plain selector member).eq_of_score? (untied.plain partner member')
    (score?_of_fit? fits) (score?_of_fit? fits')

/-- Where no two selectors tie, the best one does not depend on the order. -/
theorem Reordered.best? (reordered : frontier.Reordered other) (candidate : String) (bindings : Option Bindings) :
    Option.Rel FoundReordered (frontier.best? candidate bindings) (other.best? candidate bindings) := by
  have shallow : Shallow (fit? candidate bindings) := fun _ _ => rfl
  have isBest := frontier.isBest_best? candidate bindings
  have isBest' := other.isBest_best? candidate bindings
  rcases found : frontier.best? candidate bindings with _ | ⟨best, score⟩ <;>
    rcases found' : other.best? candidate bindings with _ | ⟨best', score'⟩ <;>
      rw [found] at isBest <;> rw [found'] at isBest'
  · exact .none
  · obtain ⟨partner, present, related⟩ := reordered.explicit.exists_left isBest'.1
    have fits := isBest'.2.1
    rw [related.congr shallow, isBest partner present] at fits
    cases fits
  · obtain ⟨partner, present, related⟩ := reordered.explicit.exists_right isBest.1
    have fits := isBest.2.1
    rw [← related.congr shallow, isBest' partner present] at fits
    cases fits
  · obtain ⟨member, fits, most⟩ := isBest
    obtain ⟨member', fits', most'⟩ := isBest'
    obtain ⟨right, present, related⟩ := reordered.explicit.exists_right member
    obtain ⟨left, present', related'⟩ := reordered.explicit.exists_left member'
    have fitsLeft : fit? candidate bindings left = some score' := (related'.congr shallow).symm.trans fits'
    have fitsRight : fit? candidate bindings right = some score := (related.congr shallow).trans fits
    obtain rfl : score = score' :=
      Nat.le_antisymm (most' right present score fitsRight) (most left present' score' fitsLeft)
    obtain rfl : best = left := eq_of_fit? reordered.untied.explicit member present' fits fitsLeft
    exact .some ⟨related', rfl⟩

theorem Reordered.nearest? (reordered : frontier.Reordered other) (candidate : String) (bindings : Option Bindings) :
    Option.Rel FoundReordered (frontier.nearest? candidate bindings) (other.nearest? candidate bindings) := by
  have paired := reordered.inherited
  rw [Frontier.nearest?, Frontier.nearest?]
  generalize frontier.inherited = inherited at paired ⊢
  generalize other.inherited = inherited' at paired ⊢
  induction paired with
  | nil => exact .none
  | @cons inherited inherited' _ _ related _ ih =>
    obtain ⟨selector, depth⟩ := inherited
    obtain ⟨selector', depth'⟩ := inherited'
    obtain ⟨same, rfl⟩ := related
    have shallow : Shallow fun selector : Selector => selector.recursesAt depth := fun _ _ => rfl
    have shallow' : Shallow fun selector : Selector => selector.name.score? candidate bindings := fun _ _ => rfl
    rw [List.findSome?_cons, List.findSome?_cons]
    simp only [same.congr shallow, same.congr shallow']
    by_cases reaches : selector.recursesAt depth = true
    · cases fits : selector.name.score? candidate bindings with
      | none => simpa [reaches] using ih
      | some score =>
        have found : FoundReordered (selector, score) (selector', score) := ⟨same, rfl⟩
        simp [reaches, found]
    · simpa [reaches] using ih

/-- The same field is kept, dropped or left alone, by the same selector. -/
inductive ResolutionReordered : Resolution → Resolution → Prop where
  | included {selector other : Selector} (same : selector.Reordered other) (score : Nat) (inherited : Bool) :
      ResolutionReordered (.included selector score inherited) (.included other score inherited)
  | excluded {selector other : Selector} (same : selector.Reordered other) :
      ResolutionReordered (.excluded selector) (.excluded other)
  | unmatched : ResolutionReordered .unmatched .unmatched

theorem FoundReordered.verdict {found found' : Selector × Nat} (same : FoundReordered found found') (inherited : Bool) :
    ResolutionReordered (verdict inherited found) (verdict inherited found') := by
  obtain ⟨selector, score⟩ := found
  obtain ⟨selector', _⟩ := found'
  obtain ⟨same, rfl⟩ := same
  have shallow : Shallow (·.negated) := fun _ _ => rfl
  have negated : selector'.negated = selector.negated := same.congr shallow
  rw [Frontier.verdict, Frontier.verdict, negated]
  split
  · exact .excluded same
  · exact .included same score inherited

theorem Reordered.resolve (reordered : frontier.Reordered other) (candidate : String) (bindings : Option Bindings) :
    ResolutionReordered (frontier.resolve candidate bindings) (other.resolve candidate bindings) := by
  have best := reordered.best? candidate bindings
  have nearest := reordered.nearest? candidate bindings
  rw [Frontier.resolve, Frontier.resolve]
  generalize frontier.best? candidate bindings = first at best ⊢
  generalize other.best? candidate bindings = second at best ⊢
  generalize frontier.nearest? candidate bindings = third at nearest ⊢
  generalize other.nearest? candidate bindings = fourth at nearest ⊢
  cases best with
  | some same => exact same.verdict false
  | none =>
    cases nearest with
    | some same => exact same.verdict true
    | none => exact .unmatched

/-- At most one `**` of each level goes down, and all of them in the same order. -/
theorem Reordered.passedDown (reordered : frontier.Reordered other) :
    List.Forall₂ InheritedReordered frontier.passedDown other.passedDown := by
  have deep : ∀ selector ∈ frontier.explicit, selector.recursive = true → selector.name = .anyDeep :=
    fun selector member => reordered.untied.deep selector (.here (List.mem_append_left _ member))
  have own : List.Forall₂ InheritedReordered
      ((frontier.explicit.filter (·.recursive)).map fun selector => (selector, 0))
      ((other.explicit.filter (·.recursive)).map fun selector => (selector, 0)) := by
    rw [List.forall₂_map_left_iff, List.forall₂_map_right_iff]
    exact (reordered.explicit.forall₂_filter (fun _ _ => rfl) reordered.untied.explicit deep).imp
      fun _ _ same => ⟨same, rfl⟩
  rw [Frontier.passedDown, Frontier.passedDown]
  refine List.rel_filterMap ?_ (List.rel_append own reordered.inherited)
  rintro ⟨selector, depth⟩ ⟨selector', _⟩ ⟨same, rfl⟩
  have shallow : Shallow fun selector : Selector => selector.reaches (depth + 1) := fun _ _ => rfl
  have reaches : selector'.reaches (depth + 1) = selector.reaches (depth + 1) := same.congr shallow
  dsimp only
  rw [reaches]
  split
  · exact .some ⟨same, rfl⟩
  · exact .none

/-- Below a field that such selectors keep the frontiers are the same again, but for the order. -/
theorem Reordered.next (reordered : frontier.Reordered other) (member : selector ∈ frontier.selectors)
    {selector' : Selector} (same : selector.Reordered selector') :
    (frontier.next selector).Alike Reordered (other.next selector') := by
  have passed := reordered.passedDown
  obtain ⟨children, rfl, block⟩ := same.exists_children
  have leads : ∀ lower, frontier.next selector = .descend lower → lower.Untied := fun lower next =>
    LeadsTo.untied ⟨selector, member, next⟩ reordered.untied
  rw [Frontier.next] at leads
  rw [Frontier.next, Frontier.next]
  change Continuation.Alike _ _ (if selector.emptyNested then _ else if selector.nested then
    .descend ⟨children, other.passedDown⟩ else if selector.recursive then .descend ⟨[], other.passedDown⟩ else .whole)
  split
  · exact .stop
  · rename_i open_
    rw [if_neg open_] at leads
    split
    · rename_i nested
      rw [if_pos nested] at leads
      exact .descend ⟨leads _ rfl, block, passed⟩
    · rename_i unnested
      rw [if_neg unnested] at leads
      split
      · rename_i recursive
        rw [if_pos recursive] at leads
        exact .descend ⟨leads _ rfl, ⟨[], .nil, .nil⟩, passed⟩
      · exact .whole

end Frontier

theorem Projector.applyCalls_congr {m : Type → Type} (projector : Projector m) {selector other : Selector}
    (keys : selector.keyCalls = other.keyCalls) (values : selector.valueCalls = other.valueCalls) :
    projector.applyCalls selector = projector.applyCalls other := by
  funext key value
  rw [applyCalls, applyCalls, keys, values]

theorem Projector.matches_reordered {m : Type → Type} [Monad m] (projector : Projector m) :
    Matches Frontier.Reordered projector projector where
  table _ := rfl
  named reordered table := reordered.explicit.propertiesNamed table
  chosen {frontier other} reordered offer := by
    have resolved := reordered.resolve offer.name projector.bindings
    have member : ∀ {selector score inherited},
        frontier.resolve offer.name projector.bindings = .included selector score inherited →
          selector ∈ frontier.selectors := Frontier.mem_of_resolve
    rw [chosen?, chosen?]
    generalize frontier.resolve offer.name projector.bindings = first at resolved member ⊢
    generalize other.resolve offer.name projector.bindings = second at resolved ⊢
    cases resolved with
    | @included selector selector' same score inherited =>
      refine .some ⟨.some ?_, reordered.next (member rfl) same⟩
      exact projector.applyCalls_congr (same.congr fun _ _ => rfl).symm (same.congr fun _ _ => rfl).symm
    | excluded => exact .none
    | unmatched =>
      dsimp only
      split
      · exact .some ⟨.none, .whole⟩
      · exact .none

/-- The frontiers of an untied filter and of the same one in another order. -/
theorem Tree.Reordered.top {tree other : Tree} (reordered : tree.Reordered other) (untied : tree.Untied)
    (formed : tree.WellFormed) (stage : Nat) :
    Frontier.Reordered (.top (tree.stage stage)) (.top (other.stage stage)) := by
  have within : ∀ selector, Within selector (Frontier.top (tree.stage stage)).selectors →
      Within selector tree.selectors :=
    fun selector within => within.subset fun _ member => Frontier.mem_of_mem_top member
  refine ⟨⟨untied.stages stage, fun selector inside => untied.blocks selector (within selector inside), ?_⟩,
    reordered.stage stage, .nil⟩
  exact fun selector inside => (formed.consistent selector (within selector inside)).recursive.mp

namespace Engine

/-- A filter in which no two siblings can tie projects every value like the same filter with its siblings in another
order: to the same result or the same error, and it leaves the same engine behind. -/
theorem project_reordered {text : String} {tree other : Tree} (compiled : FieldSelect.compile text = .ok tree)
    (reordered : tree.Reordered other) (untied : tree.Untied) (engine : Engine) (bindings : Option Bindings)
    (view : String) (value : Value) :
    engine.run ((engine.projector bindings).project tree view value) =
      engine.run ((engine.projector bindings).project other view value) :=
  congrArg engine.run <| (engine.projector bindings).matches_reordered.project reordered.stageCount
    (reordered.top untied (compile_wellFormed compiled)) view value

private def keptB : Selector := .named (.exact "b") ⟨1, 3⟩

private def droppedC : Selector := { Selector.named (.exact "c") ⟨1, 6⟩ with negated := true }

private def blockOf (children : List Selector) : Selector :=
  { Selector.named (.exact "a") ⟨1, 1⟩ with nested := true, children }

private def detailView : Selector := .named (.exact "detail") ⟨1, 9⟩

private def allDeep : Selector := .named .anyDeep ⟨1, 16⟩

/-- Its second selector may name a view. -/
private def inOrder : Tree := ⟨"a\x7bb,-c\x7d,detail,**", [blockOf [keptB, droppedC], detailView, allDeep]⟩

private def outOfOrder : Tree := ⟨"**,a\x7b-c,b\x7d,detail", [allDeep, blockOf [droppedC, keptB], detailView]⟩

theorem project_reordered_nested :
    FieldSelect.compile inOrder.source = .ok inOrder ∧ inOrder.Reordered outOfOrder ∧ inOrder.Untied ∧
      ∀ (engine : Engine) (bindings : Option Bindings) (view : String) (value : Value),
        engine.run ((engine.projector bindings).project inOrder view value) =
          engine.run ((engine.projector bindings).project outOfOrder view value) := by
  have compiled : FieldSelect.compile inOrder.source = .ok inOrder := by cbv
  have inside : (blockOf [keptB, droppedC]).Reordered (blockOf [droppedC, keptB]) :=
    .block (.swap droppedC keptB []) (.cons (.refl _) (.cons (.refl _) .nil))
  have reordered : inOrder.Reordered outOfOrder :=
    ⟨[allDeep, blockOf [keptB, droppedC], detailView], @List.perm_append_comm _ [_, _] [allDeep],
      .cons (.refl _) (.cons inside (.cons (.refl _) .nil))⟩
  have top : Block.Untied inOrder.selectors :=
    ⟨by simp [inOrder, Name.IsPlain, blockOf, detailView, allDeep, Selector.named],
      by simp [inOrder, blockOf, detailView, allDeep, Selector.named]⟩
  have below : Block.Untied [keptB, droppedC] :=
    ⟨by simp [keptB, droppedC, Name.IsPlain, Selector.named], by simp [keptB, droppedC, Selector.named]⟩
  have empty : Block.Untied [] := ⟨List.forall_mem_nil _, .nil⟩
  have untied : inOrder.Untied := by
    refine ⟨fun stage => top.sublist List.filter_sublist, ?_⟩
    refine forall_within_cons below ?_ (forall_within_cons empty (forall_within_nil _)
      (forall_within_cons empty (forall_within_nil _) (forall_within_nil _)))
    exact forall_within_cons empty (forall_within_nil _)
      (forall_within_cons empty (forall_within_nil _) (forall_within_nil _))
  exact ⟨compiled, reordered, untied, project_reordered compiled reordered untied⟩

end Engine
end FieldSelect
