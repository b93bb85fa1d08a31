import FieldSelect.Proofs.Filter.Reading
import FieldSelect.Proofs.Pairing
import FieldSelect.Proofs.Schema.NameSets
import Mathlib.Data.List.Nodup
import Mathlib.Data.Option.Defs

/-! Filters that differ in the order of siblings, and blocks in which no two siblings fit a field name equally well. -/
namespace FieldSelect

/-- The same selector with the siblings in all blocks below it in another order. -/
inductive Selector.Reordered : Selector → Selector → Prop where
  | block {selector : Selector} {children others : List Selector} (order : selector.children.Perm children)
      (each : List.Forall₂ Reordered children others) : Reordered selector (selector.withChildren others)

/-- The same block in another order, and so with all blocks below. -/
def Block.Reordered (block other : List Selector) : Prop :=
  ∃ middle, block.Perm middle ∧ List.Forall₂ Selector.Reordered middle other

/-- The same filter with the siblings of its stages and of all its blocks in another order. The text it was compiled
from does not count. -/
def Tree.Reordered (tree other : Tree) : Prop := Block.Reordered tree.selectors other.selectors

/-- An exact name, `*` or `**`. -/
def Name.IsPlain : Name → Prop
  | .exact _ | .anyShallow | .anyDeep => True
  | .variable _ | .pattern _ => False

/-- All names are plain and differ from each other: there is at most one `*` and at most one `**`. -/
structure Block.Untied (block : List Selector) : Prop where
  plain : ∀ selector ∈ block, selector.name.IsPlain
  distinct : (block.map (·.name)).Nodup

/-- Its stages and all its blocks are untied. -/
structure Tree.Untied (tree : Tree) : Prop where
  stages : ∀ stage, Block.Untied (tree.stage stage)
  blocks : ∀ selector, Selector.Within selector tree.selectors → Block.Untied selector.children

/-- How well a plain name fits tells which one it is. -/
theorem Name.IsPlain.of_score? {name : Name} {candidate : String} {bindings : Option Bindings} {score : Nat}
    (plain : name.IsPlain) (fits : name.score? candidate bindings = some score) :
    name = .exact candidate ∧ score = exactScore ∨ name = .anyShallow ∧ score = shallowScore ∨
      name = .anyDeep ∧ score = deepScore := by
  cases name with
  | exact wanted =>
    rw [score?] at fits
    split at fits
    · rename_i same
      exact .inl ⟨congrArg _ same, (Option.some.inj fits).symm⟩
    · cases fits
  | anyShallow => exact .inr (.inl ⟨rfl, (Option.some.inj fits).symm⟩)
  | anyDeep => exact .inr (.inr ⟨rfl, (Option.some.inj fits).symm⟩)
  | _ => cases plain

theorem Name.IsPlain.eq_of_score? {name other : Name} {candidate : String} {bindings : Option Bindings} {score : Nat}
    (plain : name.IsPlain) (plain' : other.IsPlain) (fits : name.score? candidate bindings = some score)
    (fits' : other.score? candidate bindings = some score) : name = other := by
  rcases plain.of_score? fits with ⟨rfl, rfl⟩ | ⟨rfl, rfl⟩ | ⟨rfl, rfl⟩
  all_goals
    rcases plain'.of_score? fits' with ⟨rfl, same⟩ | ⟨rfl, same⟩ | ⟨rfl, same⟩
  all_goals first | rfl | exact absurd same (by decide)

/-- Nothing of a selector's block but its presence is read. -/
def Selector.Shallow {α : Type} (f : Selector → α) : Prop :=
  ∀ selector children, f (Selector.withChildren selector children) = f selector

theorem Selector.Reordered.exists_children {selector other : Selector} (reordered : selector.Reordered other) :
    ∃ others, other = selector.withChildren others ∧ Block.Reordered selector.children others := by
  cases reordered with
  | block order each => exact ⟨_, rfl, _, order, each⟩

theorem Selector.Reordered.refl (selector : Selector) : selector.Reordered selector := by
  induction selector using of_children with
  | step selector ih =>
    have same : selector.withChildren selector.children = selector := by cases selector; rfl
    exact same ▸ .block (.refl _) (List.forall₂_same.mpr ih)

theorem Selector.Reordered.congr {α : Type} {f : Selector → α} (shallow : Shallow f) {selector other : Selector}
    (reordered : selector.Reordered other) : f other = f selector := by
  obtain ⟨others, rfl, _⟩ := reordered.exists_children
  exact shallow selector others

namespace Block
open Selector
variable {block other : List Selector} {selector : Selector}

theorem Reordered.exists_right (reordered : Reordered block other) (member : selector ∈ block) :
    ∃ partner ∈ other, selector.Reordered partner := by
  obtain ⟨middle, order, each⟩ := reordered
  exact exists_of_forall₂ each (order.mem_iff.mp member)

theorem Reordered.exists_left (reordered : Reordered block other) (member : selector ∈ other) :
    ∃ partner ∈ block, partner.Reordered selector := by
  obtain ⟨middle, order, each⟩ := reordered
  obtain ⟨partner, present, related⟩ := exists_of_forall₂ each.flip member
  exact ⟨partner, order.mem_iff.mpr present, related⟩

theorem Reordered.filter {keeps : Selector → Bool} (shallow : Shallow keeps) (reordered : Reordered block other) :
    Reordered (block.filter keeps) (other.filter keeps) := by
  obtain ⟨middle, order, each⟩ := reordered
  refine ⟨middle.filter keeps, order.filter keeps, List.rel_filter ?_ each⟩
  intro selector partner related
  beta_reduce
  rw [related.congr shallow]

theorem Reordered.map_perm {α : Type} {f : Selector → α} (shallow : Shallow f) (reordered : Reordered block other) :
    (block.map f).Perm (other.map f) := by
  obtain ⟨middle, order, each⟩ := reordered
  have same : middle.map f = other.map f := by
    clear order
    induction each with
    | nil => rfl
    | cons related _ ih => rw [List.map_cons, List.map_cons, related.congr shallow, ih]
  rw [← same]
  exact order.map f

/-- Such blocks bring the same views into a record. -/
theorem Reordered.propertiesNamed (reordered : Reordered block other) (table : ViewTable) :
    table.propertiesNamed block = table.propertiesNamed other := by
  have named : (block.map table.namedView?).Perm (other.map table.namedView?) := reordered.map_perm fun _ _ => rfl
  refine table.propertiesNamed_congr fun view => ?_
  have same := named.mem_iff (a := some view)
  simpa only [List.mem_map, List.mem_filterMap] using same

theorem Untied.sublist (untied : Untied block) (sublist : other.Sublist block) : Untied other where
  plain selector member := untied.plain selector (sublist.subset member)
  distinct := untied.distinct.sublist (sublist.map _)

/-- An untied block holds at most one selector of a name. -/
theorem Untied.eq_of_name (untied : Untied block) {partner : Selector} (member : selector ∈ block)
    (member' : partner ∈ block) (same : selector.name = partner.name) : selector = partner :=
  List.inj_on_of_nodup_map untied.distinct member member' same

/-- Where selectors of at most one name are picked from an untied block, their order is given. -/
theorem Reordered.forall₂_filter {keeps : Selector → Bool} (shallow : Shallow keeps) (reordered : Reordered block other)
    (untied : Untied block) {name : Name} (named : ∀ selector ∈ block, keeps selector = true → selector.name = name) :
    List.Forall₂ Selector.Reordered (block.filter keeps) (other.filter keeps) := by
  obtain ⟨middle, order, each⟩ := reordered.filter shallow
  have distinct : (block.filter keeps).Nodup := untied.distinct.of_map.filter keeps
  have single : ∀ selector ∈ block.filter keeps, ∀ partner ∈ block.filter keeps, selector = partner := by
    intro selector member partner member'
    obtain ⟨present, kept⟩ := List.mem_filter.mp member
    obtain ⟨present', kept'⟩ := List.mem_filter.mp member'
    exact untied.eq_of_name present present' ((named _ present kept).trans (named _ present' kept').symm)
  have same : block.filter keeps = middle := by
    generalize block.filter keeps = picked at order distinct single
    match picked with
    | [] => exact order.nil_eq
    | [selector] => exact (List.singleton_perm.mp order)
    | selector :: next :: rest =>
      have twice : selector = next := single _ List.mem_cons_self _ (List.mem_cons_of_mem _ List.mem_cons_self)
      exact absurd (twice ▸ List.mem_cons_self) (List.nodup_cons.mp distinct).1
  exact same ▸ each

end Block

namespace Tree
variable {tree other : Tree}

theorem Reordered.stage (reordered : tree.Reordered other) (stage : Nat) :
    Block.Reordered (tree.stage stage) (other.stage stage) :=
  Block.Reordered.filter (fun _ _ => rfl) reordered

theorem Reordered.stageCount (reordered : tree.Reordered other) : tree.stageCount = other.stageCount := by
  have stages : (tree.selectors.map (·.stage)).Perm (other.selectors.map (·.stage)) :=
    Block.Reordered.map_perm (fun _ _ => rfl) reordered
  have counted : ∀ selectors : List Selector,
      selectors.foldl (fun count selector => max count (selector.stage + 1)) 0 =
        (selectors.map (·.stage)).foldl (fun count stage => max count (stage + 1)) 0 := by
    intro selectors
    rw [List.foldl_map]
  rw [Tree.stageCount, Tree.stageCount, counted, counted]
  exact stages.foldl_eq' (fun _ _ _ _ _ => by omega) 0

end Tree
end FieldSelect
