import FieldSelect.Proofs.Filter.Stages

/-! Every filter that is read is a well-formed tree, stage by stage. -/
namespace FieldSelect
open Selector

namespace Parser
variable {tokens rest : Tokens}

theorem Staged.wellFormed {blocks : List (List Selector)} (staged : Staged tokens blocks rest) :
    ∀ block ∈ blocks, Block.Settled block ∧ ∀ selector ∈ block, selector.WellFormed := by
  induction staged with
  | last read _ => simpa using yields_stage _ _ _ read
  | bar read _ ih => exact List.forall_mem_cons.mpr ⟨yields_stage _ _ _ read, ih⟩

theorem Staged.blocks_ne_nil {blocks : List (List Selector)} (staged : Staged tokens blocks rest) : blocks ≠ [] := by
  cases staged <;> exact List.cons_ne_nil _ _

end Parser

namespace Selector
variable {stage : Nat} {selector : Selector} {selectors : List Selector}

theorem withStage_eq (stage : Nat) (selector : Selector) :
    selector.withStage stage = { selector with stage, children := allWithStage stage selector.children } := by
  cases selector
  rw [withStage]

theorem allWithStage_eq_nil : allWithStage stage selectors = [] ↔ selectors = [] := by
  rw [allWithStage_eq_map, List.map_eq_nil_iff]

theorem mergeable_withStage (stage : Nat) (a b : Selector) :
    Block.mergeable (a.withStage stage) (b.withStage stage) = Block.mergeable a b := by
  rw [withStage_eq, withStage_eq]
  rfl

theorem settled_allWithStage (settled : Block.Settled selectors) (stage : Nat) :
    Block.Settled (allWithStage stage selectors) := by
  rw [allWithStage_eq_map]
  constructor
  · obtain ⟨selector, member, kept⟩ := settled.keeps
    refine ⟨selector.withStage stage, List.mem_map_of_mem member, ?_⟩
    rw [withStage_eq]
    exact kept
  · refine List.pairwise_map.mpr (settled.apart.imp fun apart => ?_)
    rw [mergeable_withStage]
    exact apart

theorem WellFormed.withStage (formed : selector.WellFormed) (stage : Nat) : (selector.withStage stage).WellFormed := by
  induction formed with
  | @intro selector own settled _ ih =>
    rw [withStage_eq]
    refine .intro ⟨?_, ?_, own.emptied, own.recursive, own.bounded, own.ordered⟩ ?_ ?_
    · intro blockless
      exact allWithStage_eq_nil.mpr (own.blockless blockless)
    · intro nested unemptied
      exact fun empty => own.filled nested unemptied (allWithStage_eq_nil.mp empty)
    · intro nonempty
      exact settled_allWithStage (settled fun empty => nonempty (allWithStage_eq_nil.mpr empty)) stage
    · intro child member
      change child ∈ allWithStage stage selector.children at member
      rw [allWithStage_eq_map] at member
      obtain ⟨before, present, rfl⟩ := List.mem_map.mp member
      exact ih before present

/-- A stage is carried by all its selectors, however deep they stand. -/
theorem Within.stage_eq (within : Within selector (allWithStage stage selectors)) : selector.stage = stage := by
  generalize moved : allWithStage stage selectors = others at within
  induction within generalizing selectors with
  | here member =>
    rw [← moved] at member
    exact Parser.stage_allWithStage member
  | @deeper _ parent member _ ih =>
    rw [← moved, allWithStage_eq_map] at member
    obtain ⟨before, _, rfl⟩ := List.mem_map.mp member
    have below : allWithStage stage before.children = (before.withStage stage).children := by rw [withStage_eq]
    exact ih below

end Selector

theorem Parser.numbered_wellFormed {number : Nat} {blocks : List (List Selector)}
    (formed : ∀ block ∈ blocks, ∀ selector ∈ block, selector.WellFormed) :
    ∀ selector ∈ numbered number blocks, selector.WellFormed :=
  forall_mem_numbered (fun _ stage formed => formed.withStage stage) formed

/-- The stages of a compiled filter are settled blocks of well-formed selectors. -/
theorem compile_settled {text : String} {tree : Tree} (compiled : compile text = .ok tree) :
    ∃ blocks, tree.MadeOf blocks ∧ blocks ≠ [] ∧
      ∀ block ∈ blocks, Block.Settled block ∧ ∀ selector ∈ block, selector.WellFormed := by
  obtain ⟨_, tokens, blocks, position, _, _, staged, made⟩ := compile_ok compiled
  exact ⟨blocks, made, staged.blocks_ne_nil, staged.wellFormed⟩

/-- Every filter has at least one stage. -/
theorem Tree.MadeOf.blocks_ne_nil {text : String} {tree : Tree} {blocks : List (List Selector)}
    (made : tree.MadeOf blocks) (compiled : compile text = .ok tree) : blocks ≠ [] := by
  obtain ⟨others, made', some_, _⟩ := compile_settled compiled
  have count : blocks.length = others.length := made.stageCount.symm.trans made'.stageCount
  intro none
  rw [none] at count
  exact some_ (List.length_eq_zero_iff.mp count.symm)

/-- A tree as it ought to be: the parts of each selector fit together and all its blocks are settled, no stage is
missing, and no selector is of another stage than the one above it. -/
structure Tree.WellFormed (tree : Tree) : Prop where
  consistent : ∀ selector, Within selector tree.selectors → selector.Consistent
  settled : ∀ selector, Within selector tree.selectors → selector.children ≠ [] → Block.Settled selector.children
  staged : 0 < tree.stageCount
  stages : ∀ stage < tree.stageCount, tree.stage stage ≠ [] ∧ Block.Settled (tree.stage stage)
  carried : ∀ stage selector, Within selector (tree.stage stage) → selector.stage = stage

/-- A tree made of settled blocks of well-formed selectors is well-formed. -/
theorem Tree.MadeOf.wellFormed {tree : Tree} {blocks : List (List Selector)} (made : tree.MadeOf blocks)
    (some_ : blocks ≠ [])
    (formed : ∀ block ∈ blocks, Block.Settled block ∧ ∀ selector ∈ block, selector.WellFormed) : tree.WellFormed := by
  have all : ∀ selector ∈ tree.selectors, selector.WellFormed := by
    rw [made.selectors]
    exact Parser.numbered_wellFormed fun block member => (formed block member).2
  refine ⟨?_, ?_, ?_, ?_, ?_⟩
  · intro selector within
    exact (within.wellFormed all).consistent
  · intro selector within
    exact (within.wellFormed all).settled
  · rw [made.stageCount]
    exact List.length_pos_iff.mpr some_
  · intro stage inside
    rw [made.stageCount] at inside
    have settled := settled_allWithStage (formed _ (List.getElem_mem inside)).1 stage
    rw [made.stage inside]
    exact ⟨settled.ne_nil, settled⟩
  · intro stage selector within
    by_cases inside : stage < blocks.length
    · rw [made.stage inside] at within
      exact within.stage_eq
    · rw [made.stage_of_le (Nat.le_of_not_lt inside)] at within
      cases within <;> contradiction

/-- Whatever text compiles, its tree is well-formed. -/
theorem compile_wellFormed {text : String} {tree : Tree} (compiled : compile text = .ok tree) : tree.WellFormed := by
  obtain ⟨blocks, made, some_, formed⟩ := compile_settled compiled
  exact made.wellFormed some_ formed

theorem compile_wellFormed_of_siblings :
    ∃ tree : Tree, compile "a{b},a{-c}|-d.**{2,5}" = .ok tree ∧ tree.WellFormed := by
  have compiles : ∃ tree : Tree, compile "a{b},a{-c}|-d.**{2,5}" = .ok tree := ⟨_, rfl⟩
  obtain ⟨tree, compiled⟩ := compiles
  exact ⟨tree, compiled, compile_wellFormed compiled⟩

end FieldSelect
