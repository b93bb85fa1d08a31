import FieldSelect.Proofs.Filter.Reading
import FieldSelect.Proofs.Projection.Simulation

/-! Where the selectors of a filter were written shows in the errors of a projection and nowhere else. -/
namespace FieldSelect

/-- The error without the place of its call. -/
def UnresolvedCall.bare (error : UnresolvedCall) : UnresolvedCall := { error with position := .start }

def ProjectionError.bare : ProjectionError → ProjectionError
  | .unresolved error => .unresolved error.bare
  | .function name _ cause => .function name .start cause
  | .schema error => .schema error

section Failing
variable {ε δ α β : Type} {f : ε → δ}

theorem mapError_bind (first : Except ε α) (next : α → Except ε β) (f : ε → δ) :
    (first >>= next).mapError f = first.mapError f >>= fun x => (next x).mapError f := by
  cases first <;> rfl

theorem mapError_mapM (step : α → Except ε β) (items : List α) (f : ε → δ) :
    (items.mapM step).mapError f = items.mapM fun item => (step item).mapError f := by
  induction items with
  | nil => rfl
  | cons item rest ih =>
    rw [List.mapM_cons, List.mapM_cons, mapError_bind, ← ih]
    refine congrArg (_ >>= ·) (funext fun first => ?_)
    rw [mapError_bind]
    rfl

theorem mapError_foldlM {γ : Type} {step : α → β → Except ε α} {onward : α → γ → Except ε α} {change : β → γ}
    (same : ∀ x item, (onward x (change item)).mapError f = (step x item).mapError f) (items : List β) (x : α) :
    ((items.map change).foldlM onward x).mapError f = (items.foldlM step x).mapError f := by
  induction items generalizing x with
  | nil => rfl
  | cons item rest ih =>
    rw [List.map_cons, List.foldlM_cons, List.foldlM_cons, mapError_bind, mapError_bind, same]
    exact congrArg (_ >>= ·) (funext ih)

end Failing

namespace Projection
variable {m : Type → Type} [Monad m] [LawfulMonad m] {α β : Type}

/-- The same steps, failing without places. -/
def bare (run : Projection m α) : Projection m α := ExceptT.adapt ProjectionError.bare run

@[simp] theorem bare_pure (x : α) : bare (pure x : Projection m α) = pure x := by
  apply ExceptT.ext
  exact map_pure _ _

theorem bare_bind (run : Projection m α) (next : α → Projection m β) :
    bare (run >>= next) = bare run >>= fun x => bare (next x) := by
  apply ExceptT.ext
  change Except.mapError ProjectionError.bare <$> ExceptT.run (run >>= next) =
    ExceptT.run (bare run >>= fun x => bare (next x))
  rw [ExceptT.run_bind, ExceptT.run_bind, map_bind]
  change _ = (Except.mapError ProjectionError.bare <$> ExceptT.run run) >>= _
  rw [bind_map_left]
  refine bind_congr fun result => ?_
  cases result with
  | ok x => rfl
  | error error => exact map_pure _ _

theorem bare_liftExcept (result : Except ProjectionError α) :
    bare (liftExcept result : Projection m α) = liftExcept (result.mapError ProjectionError.bare) := by
  cases result with
  | ok x => exact bare_pure x
  | error error => exact ExceptT.ext (map_pure _ _)

theorem bare_bind_congr {run other : Projection m α} {next onward : α → Projection m β} (first : bare run = bare other)
    (rest : ∀ x, bare (next x) = bare (onward x)) : bare (run >>= next) = bare (other >>= onward) := by
  rw [bare_bind, bare_bind, first]
  exact congrArg (_ >>= ·) (funext rest)

theorem bare_mapM {step onward : α → Projection m β} (same : ∀ item, bare (step item) = bare (onward item))
    (items : List α) : bare (items.mapM step) = bare (items.mapM onward) := by
  induction items with
  | nil => rfl
  | cons item rest ih =>
    rw [List.mapM_cons, List.mapM_cons]
    exact bare_bind_congr (same item) fun first => bare_bind_congr ih fun more => rfl

end Projection

open Projection Selector

/-! ### Calls -/

theorem Call.bind_bare (call : Call) (bindings : Option Bindings) :
    call.bare.bind bindings = (call.bind bindings).mapError UnresolvedCall.bare := by
  rw [Call.bind, Call.bind, mapError_mapM]
  refine congrArg (fun step => call.arguments.mapM step) (funext fun argument => ?_)
  rcases argument with value | name
  · rfl
  · dsimp only
    cases bindings.bind (Entries.find? name) <;> rfl

theorem Registry.resolve_bare (registry : Registry) (call : Call) (input : Value) (arguments : List Value) :
    registry.resolve call.bare input arguments =
      (registry.resolve call input arguments).mapError UnresolvedCall.bare := by
  rw [resolve, resolve, show call.bare.name = call.name from rfl]
  cases registry.overloads? call.name with
  | none => rfl
  | some set =>
    dsimp only
    cases set.resolve? input arguments <;> rfl

namespace Projector
variable {m : Type → Type} (projector : Projector m)

theorem passOver_bare (error : UnresolvedCall) (input : Value) :
    (projector.passOver error.bare input).mapError ProjectionError.bare =
      (projector.passOver error input).mapError ProjectionError.bare := by
  rw [passOver, passOver]
  split <;> rfl

theorem call_bare (input : Value) (call : Call) :
    (projector.call input call.bare).mapError ProjectionError.bare =
      (projector.call input call).mapError ProjectionError.bare := by
  rw [Projector.call, Projector.call, Call.bind_bare]
  cases call.bind projector.bindings with
  | error error => exact projector.passOver_bare error input
  | ok arguments =>
    have bound : Except.mapError UnresolvedCall.bare (.ok arguments) = .ok arguments := rfl
    rw [bound]
    dsimp only
    rw [Registry.resolve_bare]
    cases projector.registry.resolve call input arguments with
    | error error => exact projector.passOver_bare error input
    | ok overload =>
      change ((overload.invoke input arguments).mapError _).mapError _ =
        ((overload.invoke input arguments).mapError _).mapError _
      cases overload.invoke input arguments <;> rfl

theorem callKey_bare (key : String) (call : Call) :
    (projector.callKey key call.bare).mapError ProjectionError.bare =
      (projector.callKey key call).mapError ProjectionError.bare := by
  rw [callKey, callKey, mapError_bind, mapError_bind, call_bare]
  refine congrArg (_ >>= ·) (funext fun result => ?_)
  cases result <;> rfl

theorem applyCalls_bare (selector : Selector) (key : String) (value : Value) :
    (projector.applyCalls selector.bare key value).mapError ProjectionError.bare =
      (projector.applyCalls selector key value).mapError ProjectionError.bare := by
  rw [applyCalls, applyCalls, bare_valueCalls, bare_keyCalls, mapError_bind, mapError_bind,
    mapError_foldlM projector.call_bare]
  refine congrArg (_ >>= ·) (funext fun value => ?_)
  rw [mapError_bind, mapError_bind, mapError_foldlM projector.callKey_bare]

variable [Monad m] [LawfulMonad m]

omit [LawfulMonad m] in
/-- Selectors bring nothing into a record but what the views that they name show. -/
theorem recordOffers_congr {selectors others : List Selector}
    (same : ∀ table : ViewTable, table.propertiesNamed selectors = table.propertiesNamed others) (view : String)
    (levels : Nat) : projector.recordOffers view selectors levels = projector.recordOffers view others levels := by
  induction levels with
  | zero =>
    funext typeName fields
    simp only [recordOffers, offersWith, same]
  | succ levels ih =>
    funext typeName fields
    simp only [recordOffers, offersWith, same, ih]

end Projector

theorem ViewTable.propertiesNamed_bare (table : ViewTable) (selectors : List Selector) :
    table.propertiesNamed (selectors.map Selector.bare) = table.propertiesNamed selectors := by
  have same : table.namedView? ∘ Selector.bare = table.namedView? := by
    funext selector
    simp only [Function.comp_apply, namedView?, Selector.bare_name, Selector.bare_negated]
  rw [propertiesNamed, propertiesNamed, List.filterMap_map, same]

namespace Projector
variable {m : Type → Type} [Monad m] [LawfulMonad m] (projector : Projector m)

/-! ### Stages -/

section Fields
variable {levels : Nat} {descend : Value → Frontier → Projection m Value} {frontier : Frontier}
  (below : ∀ value lower, bare (descend value (Frontier.bare lower)) = bare (descend value lower))

include below

omit [LawfulMonad m] in
theorem keep_bare (value : Value) (continuation : Continuation) :
    bare (projector.keep levels descend value continuation.bare) =
      bare (projector.keep levels descend value continuation) := by
  cases continuation with
  | descend lower => exact below value lower
  | _ => rfl

theorem field_bare (offer : Offer) :
    bare (projector.field levels descend frontier.bare offer) = bare (projector.field levels descend frontier offer) := by
  have chosen : projector.chosen? frontier.bare offer = (projector.chosen? frontier offer).map
      (Prod.map (Option.map Selector.bare) Continuation.bare) := by
    rw [chosen?, chosen?, Frontier.resolve_bare]
    cases frontier.resolve offer.name projector.bindings with
    | included selector score inherited =>
      exact congrArg (fun onward => some (some selector.bare, onward)) (frontier.next_bare selector)
    | excluded selector => rfl
    | unmatched =>
      by_cases inView : offer.byView = true
      · simp [Resolution.bare, inView, Continuation.bare]
      · simp [Resolution.bare, inView]
  rw [field, field, chosen]
  cases projector.chosen? frontier offer with
  | none => rfl
  | some pair =>
    obtain ⟨selector, continuation⟩ := pair
    refine bare_bind_congr (projector.keep_bare below offer.value continuation) fun value => ?_
    cases selector with
    | none => rfl
    | some selector =>
      refine bare_bind_congr ?_ fun entry => rfl
      rw [bare_liftExcept, bare_liftExcept, applyCalls_bare]

theorem fields_bare (offers : List Offer) :
    bare (projector.fields levels descend frontier.bare offers) =
      bare (projector.fields levels descend frontier offers) := by
  rw [fields, fields]
  exact bare_bind_congr (bare_mapM (projector.field_bare below) offers) fun kept => rfl

end Fields

theorem projectWithin_bare (view : String) (levels : Nat) (value : Value) (frontier : Frontier) :
    bare (projector.projectWithin view levels value frontier.bare) =
      bare (projector.projectWithin view levels value frontier) := by
  induction levels generalizing value frontier with
  | zero => cases value <;> rfl
  | succ levels ih =>
    cases value with
    | array items =>
      rw [projectWithin, projectWithin]
      exact bare_bind_congr (bare_mapM (fun item => ih item frontier) items) fun items => rfl
    | object entries =>
      rw [projectWithin, projectWithin]
      exact projector.fields_bare ih _
    | record typeName fields =>
      have offered : projector.recordOffers view frontier.bare.explicit levels =
          projector.recordOffers view frontier.explicit levels :=
        projector.recordOffers_congr (fun table => table.propertiesNamed_bare frontier.explicit) view levels
      rw [projectWithin, projectWithin, offered]
      exact bare_bind_congr rfl fun offers => projector.fields_bare ih offers
    | _ => rfl

/-- One block after the other, each on what the one before it kept. -/
def projectBlocks (view : String) (blocks : List (List Selector)) (value : Value) : Projection m Value :=
  blocks.foldlM (fun value block => projector.projectWithin view value.height value (.top block)) value

theorem projectBlocks_append (view : String) (blocks more : List (List Selector)) (value : Value) :
    projector.projectBlocks view (blocks ++ more) value =
      projector.projectBlocks view blocks value >>= projector.projectBlocks view more := by
  rw [projectBlocks, List.foldlM_append]
  rfl

/-- Blocks that differ in places and stages only project a value alike. -/
theorem projectWithin_congr {block other : List Selector} (same : block.map Selector.bare = other.map Selector.bare)
    (view : String) (value : Value) :
    bare (projector.projectWithin view value.height value (.top block)) =
      bare (projector.projectWithin view value.height value (.top other)) := by
  have tops : (Frontier.top block).bare = (Frontier.top other).bare :=
    congrArg (fun selectors => (⟨selectors, []⟩ : Frontier)) same
  rw [← projectWithin_bare, tops, projectWithin_bare]

theorem projectBlocks_congr {blocks others : List (List Selector)}
    (same : blocks.map (List.map Selector.bare) = others.map (List.map Selector.bare)) (view : String) (value : Value) :
    bare (projector.projectBlocks view blocks value) = bare (projector.projectBlocks view others value) := by
  induction blocks generalizing others value with
  | nil =>
    rw [List.map_eq_nil_iff.mp same.symm]
  | cons block rest ih =>
    cases others with
    | nil => cases same
    | cons other more =>
      rw [List.map_cons, List.map_cons, List.cons.injEq] at same
      rw [projectBlocks, projectBlocks, List.foldlM_cons, List.foldlM_cons]
      exact bare_bind_congr (projector.projectWithin_congr same.1 view value) (ih same.2)

/-- The stages from a number on project a value as their blocks do. -/
theorem foldlM_projectStage {tree : Tree} {number : Nat} {blocks : List (List Selector)}
    (staged : ∀ index (inside : index < blocks.length),
      tree.stage (number + index) = allWithStage (number + index) blocks[index]) (view : String) (value : Value) :
    bare ((List.range' number blocks.length).foldlM (projector.projectStage tree view) value) =
      bare (projector.projectBlocks view blocks value) := by
  induction blocks generalizing number value with
  | nil => rfl
  | cons block rest ih =>
    have first : (tree.stage number).map Selector.bare = block.map Selector.bare := by
      have own : tree.stage number = allWithStage number block := staged 0 (Nat.zero_lt_succ _)
      rw [own, ← bareAll_eq_map, bareAll_allWithStage, bareAll_eq_map]
    have others : ∀ index (inside : index < rest.length),
        tree.stage (number + 1 + index) = allWithStage (number + 1 + index) rest[index] := by
      intro index inside
      have later := staged (index + 1) (Nat.succ_lt_succ inside)
      rwa [List.getElem_cons_succ, Nat.add_comm index 1, ← Nat.add_assoc] at later
    rw [List.length_cons, List.range'_succ, projectBlocks, List.foldlM_cons, List.foldlM_cons]
    exact bare_bind_congr (projector.projectWithin_congr first view value) (ih others)

/-- A tree projects a value through the blocks that it is made of. -/
theorem project_blocks {tree : Tree} {blocks : List (List Selector)} (made : tree.MadeOf blocks) (some_ : blocks ≠ [])
    (view : String) (value : Value) :
    bare (projector.project tree view value) = bare (projector.projectBlocks view blocks value) := by
  have count : tree.stageCount ≠ 0 := by
    rw [made.stageCount]
    exact fun none => some_ (List.length_eq_zero_iff.mp none)
  have staged : ∀ index (inside : index < blocks.length),
      tree.stage (0 + index) = allWithStage (0 + index) blocks[index] := by
    intro index inside
    rw [Nat.zero_add]
    exact made.stage inside
  rw [project, if_neg count, made.stageCount, List.range_eq_range']
  exact projector.foldlM_projectStage staged view value

end Projector

namespace Engine

/-- What a projection comes to, apart from places: a value or an error, and the engine that is left. -/
def placeless (outcome : Except ProjectionError Value × Engine) : Except ProjectionError Value × Engine :=
  (outcome.1.mapError ProjectionError.bare, outcome.2)

theorem run_bare (engine : Engine) (work : Projection (StateM Catalog) Value) :
    engine.run (bare work) = placeless (engine.run work) := rfl

theorem placeless_run_congr {work other : Projection (StateM Catalog) Value} (same : bare work = bare other)
    (engine : Engine) : placeless (engine.run work) = placeless (engine.run other) := by
  rw [← run_bare, same, run_bare]

/-- The engine that the first part leaves goes on with the second one, unless the first one failed. -/
theorem run_bind (engine : Engine) (work : Projection (StateM Catalog) Value)
    (next : Value → Projection (StateM Catalog) Value) :
    engine.run (work >>= next) =
      match engine.run work with
      | (.ok value, after) => after.run (next value)
      | (.error error, after) => (.error error, after) := by
  rw [run, run, Projection.run_bind]
  rcases StateT.run (ExceptT.run work) engine.catalog with ⟨error | value, after⟩ <;> rfl

/-- Two filters with a bar between them are one that projects a value through the first, and what that one keeps
through the second. -/
theorem project_bar {text other : String} {tree tree' : Tree} (compiled : FieldSelect.compile text = .ok tree)
    (compiled' : FieldSelect.compile other = .ok tree') :
    ∃ whole : Tree, FieldSelect.compile (text ++ "|" ++ other) = .ok whole ∧
      ∀ (engine : Engine) (bindings : Option Bindings) (view : String) (value : Value),
        placeless (engine.run ((engine.projector bindings).project whole view value)) =
          placeless (match engine.run ((engine.projector bindings).project tree view value) with
            | (.ok kept, after) => after.run ((after.projector bindings).project tree' view kept)
            | (.error error, after) => (.error error, after)) := by
  obtain ⟨blocks, blocks', together, made, made', whole, compiledBoth, madeBoth, same⟩ := compile_bar compiled compiled'
  have some_ := made.blocks_ne_nil compiled
  have some' := made'.blocks_ne_nil compiled'
  have someBoth := madeBoth.blocks_ne_nil compiledBoth
  refine ⟨whole, compiledBoth, fun engine bindings view value => ?_⟩
  have sequence : bare ((engine.projector bindings).project whole view value) =
      bare ((engine.projector bindings).project tree view value >>=
        (engine.projector bindings).project tree' view) := by
    rw [Projector.project_blocks _ madeBoth someBoth, Projector.projectBlocks_congr _ same, Projector.projectBlocks_append]
    refine bare_bind_congr (Projector.project_blocks _ made some_ view value).symm fun kept => ?_
    exact (Projector.project_blocks _ made' some' view kept).symm
  rw [placeless_run_congr sequence engine, run_bind]
  cases first : engine.run ((engine.projector bindings).project tree view value) with
  | mk outcome after =>
    -- Only what is remembered of view tables can change on the way.
    have stays : after.projector bindings = engine.projector bindings := by
      have left : (engine.run ((engine.projector bindings).project tree view value)).2 = after := congrArg Prod.snd first
      rw [← left]
      rfl
    cases outcome with
    | error error => rfl
    | ok kept =>
      dsimp only
      rw [stays]

theorem project_bar_of_empty :
    let tree : Tree := ⟨"a", [.named (.exact "a") .start]⟩
    let tree' : Tree := ⟨"", [.named .anyDeep .start]⟩
    let value : Value := .record "User" [("a", .array [.null]), ("b", .null)]
    FieldSelect.compile "a" = .ok tree ∧ FieldSelect.compile "" = .ok tree' ∧
      ∃ whole : Tree, FieldSelect.compile "a|" = .ok whole ∧ ∀ (engine : Engine) (view : String),
        placeless (engine.run ((engine.projector none).project whole view value)) =
          placeless (match engine.run ((engine.projector none).project tree view value) with
            | (.ok kept, after) => after.run ((after.projector none).project tree' view kept)
            | (.error error, after) => (.error error, after)) := by
  intro tree tree' value
  have compiled : FieldSelect.compile "a" = .ok tree := rfl
  have compiled' : FieldSelect.compile "" = .ok tree' := rfl
  obtain ⟨whole, together, same⟩ := project_bar compiled compiled'
  exact ⟨compiled, compiled', whole, together, fun engine view => same engine none view value⟩

end Engine
end FieldSelect
