import FieldSelect.Proofs.Filter.Spelling
import FieldSelect.Proofs.Projection.Pruning
import Mathlib.Data.Fintype.EquivFin

/-! Which entries are left of a value without records when paths are negated. -/
namespace FieldSelect

/-- What is left of some paths below one key. -/
def pathsBelow (key : String) (paths : List (List String)) : List (List String) :=
  paths.filterMap fun
    | [] => none
    | first :: rest => if first = key then some rest else none

/-- The key paths that are kept when some are dropped. Where no path goes on, `rest` decides; below a key that
paths go through, the rest is kept when one of them ends there. -/
def keptBeside (paths : List (List String)) (rest : Bool) : List String → Bool
  | [] => true
  | key :: onward =>
    let below := pathsBelow key paths
    if below.isEmpty then rest
    else !below.contains [] && keptBeside below (below.any (·.length == 1)) onward

theorem mem_pathsBelow {key : String} {paths : List (List String)} {path : List String} :
    path ∈ pathsBelow key paths ↔ key :: path ∈ paths := by
  rw [pathsBelow, List.mem_filterMap]
  constructor
  · rintro ⟨other, member, same⟩
    cases other with
    | nil => cases same
    | cons first rest =>
      by_cases own : first = key
      · simp only [if_pos own, Option.some.injEq] at same
        rw [← own, ← same]
        exact member
      · simp [own] at same
  · intro member
    exact ⟨key :: path, member, by simp⟩

section Paths
variable {key : String} {paths : List (List String)} {rest : Bool} {onward : List String}

theorem keptBeside_of_none (none : pathsBelow key paths = []) : keptBeside paths rest (key :: onward) = rest := by
  rw [keptBeside, none]
  rfl

theorem keptBeside_of_end (ends : [] ∈ pathsBelow key paths) : keptBeside paths rest (key :: onward) = false := by
  have some_ : (pathsBelow key paths).isEmpty = false := List.isEmpty_eq_false_iff.mpr (List.ne_nil_of_mem ends)
  simp [keptBeside, some_, ends]

theorem keptBeside_of_through (some_ : pathsBelow key paths ≠ []) (through : [] ∉ pathsBelow key paths) :
    keptBeside paths rest (key :: onward) =
      keptBeside (pathsBelow key paths) ((pathsBelow key paths).any (·.length == 1)) onward := by
  simp [keptBeside, some_, through]

/-- No path leads on from another one. -/
def PrefixFree (paths : List (List String)) : Prop := ∀ path ∈ paths, ∀ other ∈ paths, path <+: other → path = other

theorem PrefixFree.pathsBelow (free : PrefixFree paths) (key : String) : PrefixFree (pathsBelow key paths) := by
  intro path member other member' before
  have same : key :: path = key :: other :=
    free _ (mem_pathsBelow.mp member) _ (mem_pathsBelow.mp member') ((List.prefix_cons_inj key).mpr before)
  exact List.tail_eq_of_cons_eq same

end Paths

namespace Frontier
open Selector
variable {block : List Selector} {key : String} {bindings : Option Bindings} {selector : Selector}

theorem fit?_drop : fit? key bindings (drop key) = some Name.exactScore := by
  change (if key = key then _ else _) = _
  rw [if_pos rfl]

theorem fit?_opened (children : List Selector) : fit? key bindings (opened key children) = some Name.exactScore := by
  change (if key = key then _ else _) = _
  rw [if_pos rfl]

/-- What fits a field is a selector for its name, or else `*`. -/
theorem of_fit? (drops : selector.Drops) {score : Nat} (fits : fit? key bindings selector = some score) :
    score = Name.exactScore ∧ (selector = drop key ∨ ∃ children, selector = opened key children) ∨
      score = Name.shallowScore ∧ selector = others := by
  cases drops with
  | drop own =>
    change (if own = key then _ else _) = _ at fits
    split at fits
    · rename_i same
      subst same
      exact .inl ⟨(Option.some.inj fits).symm, .inl rfl⟩
    · cases fits
  | others => exact .inr ⟨(Option.some.inj fits).symm, rfl⟩
  | @opened own children =>
    change (if own = key then _ else _) = _ at fits
    split at fits
    · rename_i same
      subst same
      exact .inl ⟨(Option.some.inj fits).symm, .inr ⟨children, rfl⟩⟩
    · cases fits

section Block
variable (drops : ∀ selector ∈ block, selector.Drops)

include drops

/-- A selector for the name of a field goes before `*`. -/
theorem best?_of_exact (present : selector ∈ block) (fits : fit? key bindings selector = some Name.exactScore) :
    ∃ found ∈ block, (top block).best? key bindings = some (found, Name.exactScore) ∧
      (found = drop key ∨ ∃ children, found = opened key children) := by
  have isBest := (top block).isBest_best? key bindings
  cases best : (top block).best? key bindings with
  | none =>
    rw [best] at isBest
    rw [isBest selector present] at fits
    cases fits
  | some pair =>
    obtain ⟨found, score⟩ := pair
    rw [best] at isBest
    obtain ⟨member, fitting, least⟩ := isBest
    rcases of_fit? (drops found member) fitting with ⟨same, own⟩ | ⟨low, _⟩
    · subst same
      exact ⟨found, member, rfl, own⟩
    · have most := least selector present _ fits
      rw [low] at most
      exact absurd most (by decide)

/-- A field with a selector that drops it is not kept. -/
theorem kept?_drop (present : drop key ∈ block) (alone : ∀ children, opened key children ∉ block) :
    (top block).kept? bindings key = none := by
  obtain ⟨found, member, best, own⟩ := best?_of_exact drops present fit?_drop
  have same : found = drop key := by
    rcases own with same | ⟨children, same⟩
    · exact same
    · exact absurd (same ▸ member) (alone children)
  rw [kept?, resolve, best, same]
  rfl

theorem passedDown_top : (top block).passedDown = [] := by
  have none_ : (top block).explicit.filter (·.recursive) = [] := by
    apply List.filter_eq_nil_iff.mpr
    intro selector member
    cases drops selector member <;> exact Bool.false_ne_true
  rw [passedDown, none_]
  rfl

/-- A field without a selector for its name is kept as a whole by `*`, and not at all without one. -/
theorem kept?_other (undropped : drop key ∉ block) (unopened : ∀ children, opened key children ∉ block) :
    (others ∈ block → (top block).kept? bindings key = some .whole) ∧
      (others ∉ block → (top block).kept? bindings key = none) := by
  have isBest := (top block).isBest_best? key bindings
  cases best : (top block).best? key bindings with
  | none =>
    rw [best] at isBest
    constructor
    · intro star
      cases isBest others star
    · intro _
      rw [kept?, resolve, best]
      rfl
  | some pair =>
    obtain ⟨found, score⟩ := pair
    rw [best] at isBest
    obtain ⟨member, fits, _⟩ := isBest
    have same : found = others := by
      rcases of_fit? (drops found member) fits with ⟨_, same | ⟨children, same⟩⟩ | ⟨_, same⟩
      · exact absurd (same ▸ member) undropped
      · exact absurd (same ▸ member) (unopened children)
      · exact same
    subst same
    constructor
    · intro _
      rw [kept?, resolve, best]
      rfl
    · intro absent
      exact absurd member absent

/-- A block that drops a field does not open it as well. -/
theorem opened_notMem (free : PrefixFree (droppedAll block)) (dropped_ : drop key ∈ block)
    (children : List Selector) : opened key children ∉ block := by
  intro present
  obtain ⟨inside, _, some_, _⟩ := drops_opened.mp (drops _ present)
  obtain ⟨path, within⟩ := List.exists_mem_of_ne_nil _ some_
  have further : path ≠ [] := fun same => nil_notMem_droppedAll inside (same ▸ within)
  have long := (cons_mem_droppedAll drops further).mpr ⟨children, present, within⟩
  have same := free [key] ((single_mem_droppedAll drops).mpr dropped_) _ long ⟨path, rfl⟩
  exact further (List.tail_eq_of_cons_eq same).symm

section Merged
variable (apart : block.Pairwise fun a b => Block.mergeable a b = false)

include apart

/-- Siblings that have been merged open one block for a field. -/
theorem opened_unique {first second : List Selector} (here : opened key first ∈ block)
    (there : opened key second ∈ block) : opened key first = opened key second := by
  have joined : ∀ {a b}, b ∈ block → Block.mergeable a b = false →
      ¬((∃ first, a = opened key first) ∧ ∃ second, b = opened key second) := by
    rintro _ _ inside stands ⟨⟨first, rfl⟩, second, rfl⟩
    rw [(Block.mergeable_opened (drops _ inside)).mpr ⟨second, rfl⟩] at stands
    cases stands
  have once : ∀ ⦃a⦄, a ∈ block → ∀ ⦃b⦄, b ∈ block →
      ((∃ first, a = opened key first) ∧ ∃ second, b = opened key second) → a = b := by
    apply List.Pairwise.forall_of_forall_of_flip
    · exact fun _ _ _ => rfl
    · exact apart.imp_of_mem fun _ there stands both => absurd both (joined there stands)
    · exact apart.imp_of_mem fun _ there stands both => absurd ⟨both.2, both.1⟩ (joined there stands)
  exact once here there ⟨⟨first, rfl⟩, second, rfl⟩

/-- A field with a block is kept, and its block decides below it. -/
theorem kept?_opened {children : List Selector} (present : opened key children ∈ block) (alone : drop key ∉ block) :
    (top block).kept? bindings key = some (.descend (top children)) := by
  obtain ⟨found, member, best, own⟩ := best?_of_exact drops present (fit?_opened children)
  have same : found = opened key children := by
    rcases own with same | ⟨more, same⟩
    · exact absurd (same ▸ member) alone
    · subst same
      exact opened_unique drops apart member present
  rw [kept?, resolve, best, same]
  change some ((top block).next (opened key children)) = _
  rw [next, passedDown_top drops]
  rfl

/-- What is dropped below a field is dropped by the block for it. -/
theorem mem_droppedAll_opened (undropped : drop key ∉ block) {children : List Selector}
    (present : opened key children ∈ block) (path : List String) :
    path ∈ droppedAll children ↔ key :: path ∈ droppedAll block := by
  by_cases further : path = []
  · subst further
    rw [single_mem_droppedAll drops]
    exact iff_of_false (nil_notMem_droppedAll (drops_opened.mp (drops _ present)).1) undropped
  · rw [cons_mem_droppedAll drops further]
    constructor
    · intro member
      exact ⟨children, present, member⟩
    · rintro ⟨more, there, member⟩
      have same : children = more := congrArg Selector.children (opened_unique drops apart present there)
      exact same ▸ member

/-- A merged block keeps all but the paths that it drops, as far as it keeps the rest. -/
theorem admits_of_drops {paths : List (List String)} (same : ∀ path, path ∈ droppedAll block ↔ path ∈ paths)
    (free : PrefixFree paths) {rest : Bool} (star : rest = true ↔ others ∈ block) (path : List String) :
    (top block).admits bindings path = keptBeside paths rest path := by
  induction path generalizing block paths rest with
  | nil => rfl
  | cons key onward ih =>
    have below : ∀ path, path ∈ pathsBelow key paths ↔ key :: path ∈ droppedAll block :=
      fun path => mem_pathsBelow.trans (same _).symm
    rw [admits]
    by_cases dropped_ : drop key ∈ block
    · have free' : PrefixFree (droppedAll block) := fun path member other member' =>
        free path ((same path).mp member) other ((same other).mp member')
      rw [kept?_drop drops dropped_ (opened_notMem drops free' dropped_)]
      exact (keptBeside_of_end ((below []).mpr ((single_mem_droppedAll drops).mpr dropped_))).symm
    · by_cases opened_ : ∃ children, opened key children ∈ block
      · obtain ⟨children, present⟩ := opened_
        obtain ⟨inside, apart', some_, star'⟩ := drops_opened.mp (drops _ present)
        have same' : ∀ path, path ∈ droppedAll children ↔ path ∈ pathsBelow key paths := fun path =>
          (mem_droppedAll_opened drops apart dropped_ present path).trans (below path).symm
        have star'' : (pathsBelow key paths).any (·.length == 1) = true ↔ others ∈ children := by
          rw [star', List.any_eq_true]
          simp only [same', beq_iff_eq, List.length_eq_one_iff]
          constructor
          · rintro ⟨_, member, own, rfl⟩
            exact ⟨own, member⟩
          · rintro ⟨own, member⟩
            exact ⟨_, member, own, rfl⟩
        have nonempty : pathsBelow key paths ≠ [] := by
          obtain ⟨path, member⟩ := List.exists_mem_of_ne_nil _ some_
          exact List.ne_nil_of_mem ((same' path).mp member)
        rw [kept?_opened drops apart present dropped_,
          keptBeside_of_through nonempty (mt (same' []).mpr (nil_notMem_droppedAll inside))]
        exact ih inside apart' same' (free.pathsBelow key) star''
      · have unopened : ∀ children, opened key children ∉ block := fun children here => opened_ ⟨children, here⟩
        have none : pathsBelow key paths = [] := by
          apply List.eq_nil_iff_forall_not_mem.mpr
          intro path member
          by_cases further : path = []
          · exact dropped_ ((single_mem_droppedAll drops).mp (further ▸ (below path).mp member))
          · obtain ⟨children, here, _⟩ := (cons_mem_droppedAll drops further).mp ((below path).mp member)
            exact unopened children here
        obtain ⟨kept, lost⟩ := kept?_other drops dropped_ unopened
        rw [keptBeside_of_none none]
        cases rest with
        | true => rw [kept (star.mp rfl)]
        | false => rw [lost (mt star.mpr Bool.false_ne_true)]

end Merged
end Block
end Frontier

/-- The key paths that are left when the entries at some paths are deleted, with all that they hold. -/
def keptWithout (paths : List (List String)) (path : List String) : Bool := !paths.any (·.isPrefixOf path)

theorem keptWithout_iff {paths : List (List String)} {path : List String} :
    keptWithout paths path = true ↔ ∀ deleted ∈ paths, ¬deleted <+: path := by
  simp [keptWithout]

/-- Nothing is kept at a path that is dropped, nor below it. -/
theorem keptWithout_of_keptBeside {paths : List (List String)} (nonempty : [] ∉ paths) {rest : Bool}
    {path : List String} (kept : keptBeside paths rest path = true) : keptWithout paths path = true := by
  rw [keptWithout_iff]
  induction path generalizing paths rest with
  | nil =>
    intro deleted member before
    exact nonempty (List.prefix_nil.mp before ▸ member)
  | cons key onward ih =>
    intro deleted member before
    cases deleted with
    | nil => exact nonempty member
    | cons first deleted =>
      obtain ⟨rfl, onto⟩ := List.cons_prefix_cons.mp before
      have below : deleted ∈ pathsBelow first paths := mem_pathsBelow.mpr member
      by_cases ends : [] ∈ pathsBelow first paths
      · rw [keptBeside_of_end ends] at kept
        cases kept
      · rw [keptBeside_of_through (List.ne_nil_of_mem below) ends] at kept
        exact ih ends kept deleted below onto

/-- When all paths are single keys, nothing goes but the entries at these keys. -/
theorem keptBeside_of_singles {paths : List (List String)} (single : ∀ path ∈ paths, path.length = 1)
    (path : List String) : keptBeside paths true path = keptWithout paths path := by
  have flat : ∀ {key onward}, key :: onward ∈ paths → onward = [] := fun member =>
    List.length_eq_zero_iff.mp (Nat.succ.inj (single _ member))
  rw [Bool.eq_iff_iff, keptWithout_iff]
  cases path with
  | nil =>
    refine iff_of_true rfl fun deleted member before => ?_
    have long := single deleted member
    rw [List.prefix_nil.mp before] at long
    cases long
  | cons key onward =>
    by_cases ends : [] ∈ pathsBelow key paths
    · rw [keptBeside_of_end ends]
      refine iff_of_false Bool.false_ne_true fun kept => ?_
      exact kept [key] (mem_pathsBelow.mp ends) ⟨onward, rfl⟩
    · have none : pathsBelow key paths = [] := by
        apply List.eq_nil_iff_forall_not_mem.mpr
        intro below member
        exact ends (flat (mem_pathsBelow.mp member) ▸ member)
      rw [keptBeside_of_none none]
      refine iff_of_true rfl fun deleted member before => ?_
      obtain ⟨other, rfl⟩ := List.length_eq_one_iff.mp (single deleted member)
      obtain ⟨same, _⟩ := List.cons_prefix_cons.mp before
      exact ends (mem_pathsBelow.mpr (same ▸ member))

theorem prune_fresh {keeps : List String → Bool} (fresh : String) :
    (Value.object [(fresh, .null)]).prune keeps = .object (if keeps [fresh] then [(fresh, .null)] else []) := by
  rw [Value.prune, Value.pruneEntries, Value.pruneEntries]
  rfl

/-- Where the rest is not kept, some field goes that no path leads to. -/
theorem exists_prune_ne {paths : List (List String)} (nonempty : ∀ path ∈ paths, path ≠ []) :
    ∃ value : Value, value.RecordFree ∧ value.Ordered ∧
      value.prune (keptBeside paths false) ≠ value.prune (keptWithout paths) := by
  obtain ⟨fresh, unused⟩ := Infinite.exists_notMem_finset (paths.filterMap List.head?).toFinset
  have apart : ∀ {onward}, fresh :: onward ∉ paths := fun member =>
    unused (List.mem_toFinset.mpr (List.mem_filterMap.mpr ⟨_, member, rfl⟩))
  have gone : keptBeside paths false [fresh] = false := by
    apply keptBeside_of_none
    apply List.eq_nil_iff_forall_not_mem.mpr
    exact fun below member => apart (mem_pathsBelow.mp member)
  have kept : keptWithout paths [fresh] = true := by
    rw [keptWithout_iff]
    intro deleted member before
    cases deleted with
    | nil => exact nonempty _ member rfl
    | cons key onward =>
      obtain ⟨rfl, _⟩ := List.cons_prefix_cons.mp before
      exact apart member
  refine ⟨.object [(fresh, .null)], ?_, ?_, ?_⟩
  · exact .object (by simpa using Value.RecordFree.scalar rfl)
  · exact .object (List.pairwise_singleton _ _) (by simpa using Value.Ordered.scalar rfl)
  · rw [prune_fresh, prune_fresh, gone, kept]
    nofun

theorem Selector.Drops.isQuiet {selector : Selector} (drops : selector.Drops) : selector.isQuiet = true := by
  induction drops with
  | drop => rfl
  | others => rfl
  | opened key _ _ _ _ ih => exact allQuiet_iff.mpr ih

/-- The key paths that are kept when some paths are negated. The rest is kept at the top when all of them end there. -/
def keptNegating (paths : List (List String)) : List String → Bool := keptBeside paths (paths.all (·.length == 1))

/-- One stage with the block of some negated paths prunes a value to what is kept beside them. -/
theorem Projector.project_negatedPaths {m : Type → Type} [Monad m] [LawfulMonad m] (projector : Projector m)
    {paths : List (List String)} (some_ : paths ≠ []) (nonempty : ∀ path ∈ paths, path ≠ []) (free : PrefixFree paths)
    {tree : Tree} {block : List Selector} (made : tree.MadeOf [block])
    (same : block.map Selector.bare = (Block.finish (paths.map Selector.negatedPath)).map Selector.bare)
    (view : String) {value : Value} (recordFree : value.RecordFree) (ordered : value.Ordered) :
    projector.project tree view value = pure (value.prune (keptNegating paths)) := by
  have finished := Block.finish_finished (by simpa using some_) (Selector.drops_negatedPaths nonempty)
  have quiet : Selector.allQuiet tree.selectors = true := by
    rw [made.selectors, Tree.MadeOf.allQuiet_numbered, List.map_singleton, List.all_cons, List.all_nil, Bool.and_true,
      same, ← Selector.bareAll_eq_map, Selector.allQuiet_bareAll]
    exact Selector.allQuiet_iff.mpr fun selector member => (finished.drops selector member).isQuiet
  have keeps : tree.keeps projector.bindings = keptNegating paths := by
    funext path
    have dropped_ : ∀ path, path ∈ Selector.droppedAll (Block.finish (paths.map Selector.negatedPath)) ↔ path ∈ paths :=
      fun path => (finished.paths path).trans (Selector.mem_droppedAll_negatedPaths nonempty)
    have star : paths.all (·.length == 1) = true ↔ Selector.others ∈ Block.finish (paths.map Selector.negatedPath) := by
      rw [finished.others, List.all_eq_true]
      simp only [Selector.others_notMem_negatedPaths nonempty, false_or, Selector.mem_droppedAll_negatedPaths nonempty,
        beq_iff_eq]
    rw [made.keeps_eq, List.map_singleton, List.all_cons, List.all_nil, Bool.and_true, same,
      Frontier.admits_top_bare]
    exact Frontier.admits_of_drops finished.drops finished.apart dropped_ free star path
  rw [projector.project_eq_prune quiet view recordFree ordered, keeps]

namespace Engine

/-- A filter of negated paths deletes the entries at these paths. What else it keeps is decided block by block:
everything where it drops a field of the block, and only the way of its paths elsewhere. So nothing else is deleted
just when all paths are single keys. -/
theorem project_negating {paths : List (List String)} (some_ : paths ≠ []) (nonempty : ∀ path ∈ paths, path ≠ [])
    (plain : ∀ path ∈ paths, ∀ key ∈ path, IsIdentifier key) (free : PrefixFree paths) :
    ∃ tree : Tree, FieldSelect.compile (negatingText paths) = .ok tree ∧
      (∀ (engine : Engine) (bindings : Option Bindings) (view : String) (value : Value),
        value.RecordFree → value.Ordered →
          engine.run ((engine.projector bindings).project tree view value) =
            (.ok (value.prune (keptNegating paths)), engine)) ∧
      (∀ path, keptNegating paths path = true → keptWithout paths path = true) ∧
      ((∀ value : Value, value.RecordFree → value.Ordered →
          value.prune (keptNegating paths) = value.prune (keptWithout paths)) ↔
        ∀ path ∈ paths, path.length = 1) := by
  obtain ⟨tree, block, compiled, made, same⟩ := compile_negating some_ nonempty plain
  refine ⟨tree, compiled, ?_, ?_, ?_⟩
  · intro engine bindings view value recordFree ordered
    rw [Projector.project_negatedPaths _ some_ nonempty free made same view recordFree ordered]
    rfl
  · intro path
    exact keptWithout_of_keptBeside fun empty => nonempty [] empty rfl
  · constructor
    · intro exactly
      by_contra deeper
      have rest : paths.all (·.length == 1) = false := by
        apply Bool.eq_false_iff.mpr
        simpa using deeper
      obtain ⟨value, recordFree, ordered, differ⟩ := exists_prune_ne nonempty
      have equal := exactly value recordFree ordered
      rw [keptNegating, rest] at equal
      exact differ equal
    · intro single value _ _
      have all : paths.all (·.length == 1) = true := by simpa using single
      rw [keptNegating, all, funext (keptBeside_of_singles single)]

theorem project_negating_fork :
    let kept := keptNegating [["a", "b"], ["a", "d", "e"]]
    kept ["a", "c"] = true ∧ kept ["a", "b"] = false ∧ kept ["a", "d", "f"] = true ∧ kept ["c"] = false ∧
      ∃ tree : Tree, FieldSelect.compile "-a.b,-a.d.e" = .ok tree ∧
        ∀ (engine : Engine) (bindings : Option Bindings) (view : String) (value : Value),
          value.RecordFree → value.Ordered →
            engine.run ((engine.projector bindings).project tree view value) = (.ok (value.prune kept), engine) := by
  have plain : IsIdentifier "a" ∧ IsIdentifier "b" ∧ IsIdentifier "d" ∧ IsIdentifier "e" := ⟨rfl, rfl, rfl, rfl⟩
  obtain ⟨tree, compiled, projected, _⟩ := @project_negating [["a", "b"], ["a", "d", "e"]] (by simp) (by simp)
    (by simp [plain]) (by simp [PrefixFree])
  exact ⟨rfl, rfl, rfl, rfl, tree, compiled, projected⟩

/-- A path of two keys: its sibling stays, but the top block keeps nothing beside the way to it. -/
theorem project_negating_nested :
    let value : Value := .object [("a", .object [("b", .integer 1), ("c", .integer 2)]), ("d", .integer 3)]
    let kept : Value := .object [("a", .object [("c", .integer 2)])]
    value.RecordFree ∧ value.Ordered ∧ kept ≠ value.prune (keptWithout [["a", "b"]]) ∧
      ∃ tree : Tree, FieldSelect.compile "-a.b" = .ok tree ∧
        ∀ (engine : Engine) (bindings : Option Bindings) (view : String),
          engine.run ((engine.projector bindings).project tree view value) = (.ok kept, engine) := by
  intro value kept
  have recordFree : value.RecordFree := by
    refine .object (List.forall_mem_cons.mpr ⟨.object ?_, List.forall_mem_cons.mpr ⟨.scalar rfl, nofun⟩⟩)
    exact List.forall_mem_cons.mpr ⟨.scalar rfl, List.forall_mem_cons.mpr ⟨.scalar rfl, nofun⟩⟩
  have ordered : value.Ordered := by
    refine .object (by decide)
      (List.forall_mem_cons.mpr ⟨.object (by decide) ?_, List.forall_mem_cons.mpr ⟨.scalar rfl, nofun⟩⟩)
    exact List.forall_mem_cons.mpr ⟨.scalar rfl, List.forall_mem_cons.mpr ⟨.scalar rfl, nofun⟩⟩
  have a : IsIdentifier "a" := rfl
  have b : IsIdentifier "b" := rfl
  obtain ⟨tree, block, compiled, made, same⟩ := @compile_negating [["a", "b"]] (by simp) (by simp) (by simp [a, b])
  refine ⟨recordFree, ordered, ?_, tree, compiled, ?_⟩
  · have deleted : value.prune (keptWithout [["a", "b"]]) =
        .object [("a", .object [("c", .integer 2)]), ("d", .integer 3)] := rfl
    rw [deleted]
    intro same
    have entries := congrArg List.length (Value.object.inj same)
    cases entries
  · intro engine bindings view
    rw [Projector.project_negatedPaths _ (by simp) (by simp) (by simp [PrefixFree]) made same view recordFree ordered]
    rfl

end Engine
end FieldSelect
