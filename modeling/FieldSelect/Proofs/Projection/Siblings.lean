import FieldSelect.Proofs.Filter.Siblings
import FieldSelect.Proofs.Projection.Places
import FieldSelect.Proofs.Projection.Pruning

/-! Siblings that open the same block project like one of them that lists what both do. -/
namespace FieldSelect
open Projection

/-- Filters with the same stages, up to places, project a value alike. -/
theorem Projector.project_alike {m : Type → Type} [Monad m] [LawfulMonad m] (projector : Projector m)
    {text other : String} {tree tree' : Tree} (alike : tree.Alike tree') (compiled : compile text = .ok tree)
    (compiled' : compile other = .ok tree') (view : String) (value : Value) :
    bare (projector.project tree view value) = bare (projector.project tree' view value) := by
  obtain ⟨blocks, blocks', made, made', same⟩ := alike
  rw [projector.project_blocks made (made.blocks_ne_nil compiled), projector.projectBlocks_congr same,
    projector.project_blocks made' (made'.blocks_ne_nil compiled')]

namespace Engine
variable {name X Y before after : String} {xs ys : List Selector}

/-- Two blocks of one name and one block of both their lists, in the same place of a filter, compile both or not at
all, and project every value alike. Each list that only drops fields has to be completed with `*` first: its own block
keeps everything else. -/
theorem project_siblings (plain : IsIdentifier name) (list : selectorsOf X = .ok xs) (list' : selectorsOf Y = .ok ys)
    (opens : OpensList before) (closes : ClosesList after) :
    let siblings := blockText name X ++ "," ++ blockText name Y
    let apart := before ++ siblings ++ after
    let together := before ++ blockText name (completedText X xs ++ "," ++ completedText Y ys) ++ after
    (∃ tree, FieldSelect.compile siblings = .ok tree) ∧
      ((∃ tree, FieldSelect.compile apart = .ok tree) ↔ ∃ tree, FieldSelect.compile together = .ok tree) ∧
      ∀ tree tree', FieldSelect.compile apart = .ok tree → FieldSelect.compile together = .ok tree' →
        ∀ (engine : Engine) (bindings : Option Bindings) (view : String) (value : Value),
          placeless (engine.run ((engine.projector bindings).project tree view value)) =
            placeless (engine.run ((engine.projector bindings).project tree' view value)) := by
  intro siblings apart together
  obtain ⟨onward, back⟩ := compile_siblings plain list list' opens closes
  refine ⟨?_, ⟨?_, ?_⟩, ?_⟩
  · obtain ⟨first, listed⟩ := selectorsOf_blockText plain list
    obtain ⟨second, listed'⟩ := selectorsOf_blockText plain list'
    obtain ⟨both, all⟩ := selectorsOf_comma listed listed'
    exact compile_of_selectorsOf all
  · rintro ⟨tree, compiled⟩
    obtain ⟨tree', compiled', _⟩ := onward tree compiled
    exact ⟨tree', compiled'⟩
  · rintro ⟨tree, compiled⟩
    obtain ⟨tree', compiled', _⟩ := back tree compiled
    exact ⟨tree', compiled'⟩
  · intro tree tree' compiled compiled' engine bindings view value
    obtain ⟨other, compiledOther, alike⟩ := onward tree compiled
    cases compiledOther.symm.trans compiled'
    exact placeless_run_congr (Projector.project_alike _ alike compiled compiled' view value) engine

theorem project_siblings_enclosed :
    ∃ tree tree' : Tree, FieldSelect.compile "b{a{-x},a{y}}|c" = .ok tree ∧
      FieldSelect.compile "b{a{-x,*,y}}|c" = .ok tree' ∧
        ∀ (engine : Engine) (bindings : Option Bindings) (view : String) (value : Value),
          placeless (engine.run ((engine.projector bindings).project tree view value)) =
            placeless (engine.run ((engine.projector bindings).project tree' view value)) := by
  have plain : IsIdentifier "a" ∧ IsIdentifier "b" ∧ IsIdentifier "c" := ⟨rfl, rfl, rfl⟩
  have list : selectorsOf "-x" = .ok [{ Selector.named (.exact "x") ⟨1, 2⟩ with negated := true }] := rfl
  have list' : selectorsOf "y" = .ok [.named (.exact "y") .start] := rfl
  have word : ∀ {name : String}, IsIdentifier name → Reads name.toList [.identifier name] [] := by
    intro name plain
    rw [← List.append_nil name.toList]
    exact .identifier plain nofun
  have opens : OpensList ("b" ++ String.singleton '\x7b' ++ "") := .sign (word plain.2.1) rfl rfl nofun
  have closes : ClosesList "\x7d|c" := by
    refine ⟨_, .sign rfl (by decide) (.sign rfl (by decide) (word plain.2.2)), ?_⟩
    rintro _ ⟨⟩
    rfl
  obtain ⟨_, both, alike⟩ := project_siblings plain.1 list list' opens closes
  obtain ⟨tree, compiled⟩ : ∃ tree, FieldSelect.compile "b{a{-x},a{y}}|c" = .ok tree := ⟨_, rfl⟩
  obtain ⟨tree', compiled'⟩ := both.mp ⟨tree, compiled⟩
  exact ⟨tree, tree', compiled, compiled', alike tree tree' compiled compiled'⟩

/-- A block that only drops fields has got its `*` before its sibling is read, which keeps more than their selectors
do in one block. -/
theorem project_siblings_negated :
    let value : Value := .object [("a", .object [("x", .integer 1), ("y", .integer 2), ("z", .integer 3)])]
    value.RecordFree ∧ IsIdentifier "a" ∧ (∃ xs, selectorsOf "-x" = .ok xs) ∧ (∃ ys, selectorsOf "y" = .ok ys) ∧
      ∃ apart together : Tree, FieldSelect.compile "a{-x},a{y}" = .ok apart ∧
        FieldSelect.compile "a{-x,y}" = .ok together ∧ ∀ (engine : Engine) (view : String),
          engine.run ((engine.projector none).project apart view value) =
            (.ok (.object [("a", .object [("y", .integer 2), ("z", .integer 3)])]), engine) ∧
          engine.run ((engine.projector none).project together view value) =
            (.ok (.object [("a", .object [("y", .integer 2)])]), engine) ∧
          placeless (engine.run ((engine.projector none).project apart view value)) ≠
            placeless (engine.run ((engine.projector none).project together view value)) := by
  intro value
  have free : value.RecordFree := by
    refine .object (List.forall_mem_cons.mpr ⟨.object ?_, nofun⟩)
    exact List.forall_mem_cons.mpr ⟨.scalar rfl, List.forall_mem_cons.mpr ⟨.scalar rfl,
      List.forall_mem_cons.mpr ⟨.scalar rfl, nofun⟩⟩⟩
  have ordered : value.Ordered := by
    refine .object (by decide) (List.forall_mem_cons.mpr ⟨.object (by decide) ?_, nofun⟩)
    exact List.forall_mem_cons.mpr ⟨.scalar rfl, List.forall_mem_cons.mpr ⟨.scalar rfl,
      List.forall_mem_cons.mpr ⟨.scalar rfl, nofun⟩⟩⟩
  have pruned : ∀ {tree : Tree} {rest : Bool}, (Selector.allQuiet tree.selectors &&
      [["a"], ["a", "x"], ["a", "y"], ["a", "z"]].map (tree.keeps none) == [true, false, true, rest]) = true →
      ∀ (engine : Engine) (view : String), engine.run ((engine.projector none).project tree view value) =
        (.ok (.object [("a", .object (("y", .integer 2) :: if rest then [("z", .integer 3)] else []))]), engine) := by
    intro tree rest checked engine view
    simp only [Bool.and_eq_true, beq_iff_eq, List.map_cons, List.map_nil, List.cons.injEq, and_true] at checked
    obtain ⟨quiet, a, x, y, z⟩ := checked
    have kept : value.prune (tree.keeps none) =
        .object [("a", .object (("y", .integer 2) :: if rest then [("z", .integer 3)] else []))] := by
      simp only [value, Value.prune, Value.pruneEntries, a, x, y, z, if_true]
      rfl
    rw [Projector.project_eq_prune _ quiet view free ordered, ← kept]
    rfl
  -- Which key paths the filters keep, as far as the value has them, is a matter of evaluation.
  obtain ⟨apart, compiled, checked⟩ := exists_of_any_toOption
    (show (FieldSelect.compile "a{-x},a{y}").toOption.any (fun tree => Selector.allQuiet tree.selectors &&
      [["a"], ["a", "x"], ["a", "y"], ["a", "z"]].map (tree.keeps none) == [true, false, true, true]) = true by
        decide +kernel)
  obtain ⟨together, compiled', checked'⟩ := exists_of_any_toOption
    (show (FieldSelect.compile "a{-x,y}").toOption.any (fun tree => Selector.allQuiet tree.selectors &&
      [["a"], ["a", "x"], ["a", "y"], ["a", "z"]].map (tree.keeps none) == [true, false, true, false]) = true by
        decide +kernel)
  refine ⟨free, rfl, ⟨_, rfl⟩, ⟨_, rfl⟩, apart, together, compiled, compiled', fun engine view => ?_⟩
  have first := pruned checked engine view
  have second := pruned checked' engine view
  refine ⟨first, second, ?_⟩
  rw [first, second]
  intro same
  have entries := Value.object.inj (Except.ok.inj (congrArg Prod.fst same))
  cases entries

end Engine
end FieldSelect
