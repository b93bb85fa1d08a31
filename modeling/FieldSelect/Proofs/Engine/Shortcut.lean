import FieldSelect.Proofs.Engine.History
import FieldSelect.Proofs.Projection.IncludeAll
import FieldSelect.Proofs.Projection.Matching

/-! A filter that was resolved for a request is applied like any other one, except that a bare `**` shows records under
their base view, whatever the default view is. -/
namespace FieldSelect

/-- The text reads as a bare `**`, however it is spelled. -/
def IncludesAll (text : String) : Prop := ∃ tree : Tree, compile text = .ok tree ∧ tree.isIncludeAll = true

/-! ### No variables -/

theorem Name.score?_unbound (name : Name) (candidate : String) :
    name.score? candidate (some []) = name.score? candidate none := by
  cases name <;> rfl

theorem Call.bind_unbound (call : Call) : call.bind (some []) = call.bind none := rfl

theorem Frontier.resolve_unbound (frontier : Frontier) (candidate : String) :
    frontier.resolve candidate (some []) = frontier.resolve candidate none := by
  have fits : fit? candidate (some []) = fit? candidate none := by
    funext selector
    rw [fit?, fit?, Name.score?_unbound]
  simp only [resolve, best?, nearest?, fits, Name.score?_unbound]

namespace Projector
variable {m : Type → Type} (projector : Projector m)

theorem applyCalls_unbound (selector : Selector) :
    { projector with bindings := some [] }.applyCalls selector =
      { projector with bindings := none }.applyCalls selector := by
  have called : ∀ input call, { projector with bindings := some [] }.call input call =
      { projector with bindings := none }.call input call := by
    intro input call
    rw [Projector.call, Projector.call, Call.bind_unbound]
    rfl
  have keyed : { projector with bindings := some [] }.callKey = { projector with bindings := none }.callKey := by
    funext key call
    rw [callKey, callKey, called]
  funext key value
  rw [applyCalls, applyCalls, keyed, funext fun input => funext (called input)]

/-- A request that binds no variables chooses like no request at all. -/
theorem matches_unbound [Monad m] :
    Matches Eq { projector with bindings := some [] } { projector with bindings := none } where
  table _ := rfl
  named same _ := by rw [same]
  chosen {frontier frontier'} same offer := by
    subst same
    have continued : ∀ continuation : Continuation, continuation.Alike Eq continuation := by
      rintro (_ | _ | lower)
      exacts [.stop, .whole, .descend rfl]
    rw [chosen?, chosen?, Frontier.resolve_unbound]
    cases frontier.resolve offer.name none with
    | included selector score inherited => exact .some ⟨.some (projector.applyCalls_unbound selector), continued _⟩
    | excluded => exact .none
    | unmatched =>
      dsimp only
      split
      · exact .some ⟨.none, continued _⟩
      · exact .none

end Projector

theorem Tree.allQuiet_of_isIncludeAll {text : String} {tree : Tree} (compiled : compile text = .ok tree)
    (all : tree.isIncludeAll = true) : Selector.allQuiet tree.selectors = true := by
  have consistent := (compile_wellFormed compiled).consistent
  rw [isIncludeAll.eq_def] at all
  split at all
  · rename_i selector single
    simp only [Bool.and_eq_true, Bool.not_eq_true'] at all
    obtain ⟨⟨_, unnested⟩, silent⟩ := all
    have empty : selector.children = [] :=
      (consistent selector (.here (single ▸ List.mem_singleton_self selector))).blockless (.inl unnested)
    rw [single, Selector.allQuiet, Selector.isQuiet_eq, silent, empty]
    rfl
  · cases all

namespace Engine

theorem projectIn_of_no_bindings (engine : Engine) (tree : Tree) (view : String) {request : Request}
    (unbound : request.bindings = []) (value : Value) :
    engine.projectIn tree view request value = engine.project tree view value := by
  rw [projectIn, project, unbound]
  exact congrArg engine.run ((engine.projector none).matches_unbound.project rfl (fun _ => rfl) view value)

/-! ### The view of a filter -/

/-- The filter is compiled first and the value projected under the view. -/
def applyUnder (engine : Engine) (view filter : String) (value : Value) : Except EngineError Value × Engine :=
  match engine.compile filter with
  | (.error error, engine) => (.error (.parse error), engine)
  | (.ok tree, engine) =>
    let (result, engine) := engine.project tree view value
    (result.mapError .projection, engine)

theorem apply_eq_applyUnder (engine : Engine) (filter : String) (value : Value) :
    engine.apply filter value = engine.applyUnder engine.settings.defaultView filter value := by
  have settings : (engine.compile filter).2.settings = engine.settings := rfl
  rw [apply, applyUnder]
  rcases same : engine.compile filter with ⟨error | tree, after⟩
  · rfl
  · rw [same] at settings
    rw [← settings]

variable {blueprint : Blueprint} {engine : Engine} {key text : String} {source : String → Option String} {value : Value}

/-- A fresh request takes the filter from its source. -/
theorem applyIn_fresh (answered : source key = some text) :
    (engine.applyIn key source .empty value).1 =
      match engine.compile text with
      | (.error error, engine) => (.error (.parse error), engine)
      | (.ok tree, engine) =>
        let (result, engine) := if tree.isIncludeAll then engine.whole value
          else engine.project tree engine.settings.defaultView value
        (result.mapError .projection, engine) := by
  have resolved : Id.run (Request.empty.resolveFilter key (fun key => source key) none) =
      (some text, ⟨[], [(key, some text)]⟩) := by
    rw [Request.resolveFilter, answered]
    rfl
  rw [applyIn, resolved]
  dsimp only
  rcases engine.compile text with ⟨error | tree, after⟩
  · rfl
  · dsimp only
    split
    · rfl
    · rw [projectIn_of_no_bindings _ _ _ rfl]

theorem Serves.compile_cases (serves : engine.Serves blueprint) (text : String) :
    (∃ error after, engine.compile text = (.error error, after)) ∨
      ∃ tree after, engine.compile text = (.ok tree, after) ∧ FieldSelect.compile text = .ok tree := by
  have compiled := (serves.compile text).1
  rcases same : engine.compile text with ⟨error | tree, after⟩
  · exact .inl ⟨error, after, rfl⟩
  · rw [same] at compiled
    exact .inr ⟨tree, after, rfl, compiled.symm⟩

/-- A bare `**` keeps the value as a whole, which is to show records under their base view. -/
theorem Serves.applyIn_of_includesAll (serves : engine.Serves blueprint) (answered : source key = some text)
    (all : IncludesAll text) (ordered : value.Ordered) :
    (engine.applyIn key source .empty value).1 = engine.applyUnder baseView text value := by
  obtain ⟨tree, compiled, includes⟩ := all
  rw [applyIn_fresh answered, applyUnder]
  rcases serves.compile_cases text with ⟨error, after, same⟩ | ⟨tree', after, same, compiled'⟩
  · rw [same]
  · cases compiled.symm.trans compiled'
    rw [same]
    dsimp only
    rw [if_pos includes, project, project_includeAll compiled includes after none ordered]
    rfl

theorem Serves.applyIn_of_not_includesAll (serves : engine.Serves blueprint) (answered : source key = some text)
    (some_ : ¬ IncludesAll text) : (engine.applyIn key source .empty value).1 = engine.apply text value := by
  rw [applyIn_fresh answered, Engine.apply]
  rcases serves.compile_cases text with ⟨error, after, same⟩ | ⟨tree, after, same, compiled⟩
  · rw [same]
  · have selects : tree.isIncludeAll ≠ true := fun includes => some_ ⟨tree, compiled, includes⟩
    rw [same]
    dsimp only
    rw [if_neg selects]

/-- A value without records does not show under which view it is projected by a bare `**`. -/
theorem Serves.applyUnder_of_recordFree (serves : engine.Serves blueprint) (all : IncludesAll text)
    (free : value.RecordFree) (ordered : value.Ordered) (view other : String) :
    engine.applyUnder view text value = engine.applyUnder other text value := by
  obtain ⟨tree, compiled, includes⟩ := all
  rw [applyUnder, applyUnder]
  rcases serves.compile_cases text with ⟨error, after, same⟩ | ⟨tree', after, same, compiled'⟩
  · rw [same]
  · cases compiled.symm.trans compiled'
    have quiet := Tree.allQuiet_of_isIncludeAll compiled includes
    rw [same]
    dsimp only
    rw [project, project, Projector.project_eq_prune _ quiet view free ordered,
      Projector.project_eq_prune _ quiet other free ordered]

/-- The filter that a fresh request without variables takes from its source is applied as it is applied on its own,
but for the view of a bare `**`, which is the base view. So the two agree unless the text is a bare `**`, the default
view is another one, and there are records in the value. -/
theorem applyIn_eq_apply (built : blueprint.build = .ok engine) (uses : List EngineUse)
    (answered : source key = some text) (ordered : value.Ordered) :
    let after := (engine.performAll uses).2
    (IncludesAll text → (after.applyIn key source .empty value).1 = after.applyUnder baseView text value) ∧
      (¬ IncludesAll text ∨ blueprint.settings.defaultView = baseView ∨ value.RecordFree →
        (after.applyIn key source .empty value).1 = after.apply text value) := by
  intro after
  have serves : after.Serves blueprint := ((serves_of_build built).performAll uses).2
  have kept : IncludesAll text → (after.applyIn key source .empty value).1 = after.applyUnder baseView text value :=
    fun all => serves.applyIn_of_includesAll answered all ordered
  refine ⟨kept, fun agrees => ?_⟩
  by_cases all : IncludesAll text
  · rw [kept all, apply_eq_applyUnder, serves.settings]
    rcases agrees with some_ | based | free
    · exact absurd all some_
    · rw [based]
    · exact serves.applyUnder_of_recordFree all free ordered _ _
  · exact serves.applyIn_of_not_includesAll answered all

/-- Without a view of their own, values are shown as their owners see them. -/
private def owned : Blueprint :=
  { Blueprint.ofSettings { Settings.standard with defaultView := "private" } with
    withCore := false
    schemas := [⟨"User", [⟨"id", none, [], false⟩, ⟨"email", none, ["private"], false⟩]⟩] }

private def owner : Value := .record "User" [("email", .string "a@b.c"), ("id", .integer 1)]

theorem applyIn_eq_apply_of_private_view :
    ∃ engine : Engine, owned.build = .ok engine ∧ owner.Ordered ∧ ¬ IncludesAll "*" ∧ IncludesAll " ** " ∧
      let after := (engine.performAll [.apply "**" owner, .wait 5]).2
      (after.applyIn "User" (fun _ => some "*") .empty owner).1 = after.apply "*" owner ∧
        (after.applyIn "User" (fun _ => some " ** ") .empty owner).1 = after.applyUnder baseView " ** " owner := by
  obtain ⟨engine, built⟩ : ∃ engine, owned.build = .ok engine := ⟨_, rfl⟩
  have shallow : FieldSelect.compile "*" = .ok ⟨"*", [.named .anyShallow .start]⟩ := rfl
  have deep : FieldSelect.compile " ** " = .ok ⟨" ** ", [.named .anyDeep ⟨1, 2⟩]⟩ := rfl
  have ordered : owner.Ordered :=
    .record (by decide) (List.forall_mem_cons.mpr ⟨.scalar rfl, List.forall_mem_cons.mpr ⟨.scalar rfl, nofun⟩⟩)
  have some_ : ¬ IncludesAll "*" := by
    rintro ⟨tree, compiled, all⟩
    cases shallow.symm.trans compiled
    cases all
  have all : IncludesAll " ** " := ⟨_, deep, rfl⟩
  refine ⟨engine, built, ordered, some_, all, ?_, ?_⟩
  · exact (@applyIn_eq_apply _ _ "User" _ (fun _ => some "*") _ built _ rfl ordered).2 (.inl some_)
  · exact (@applyIn_eq_apply _ _ "User" _ (fun _ => some " ** ") _ built _ rfl ordered).1 all

/-- A bare `**` from a source leaves out what the default view adds to the base view. -/
theorem applyIn_ne_apply_of_bare_deep :
    ∃ engine : Engine, owned.build = .ok engine ∧
      (engine.applyIn "User" (fun _ => some "**") .empty owner).1.1 = .ok (.object [("id", .integer 1)]) ∧
      (engine.apply "**" owner).1 = .ok (.object [("email", .string "a@b.c"), ("id", .integer 1)]) ∧
      (engine.applyIn "User" (fun _ => some "**") .empty owner).1.1 ≠ (engine.apply "**" owner).1 := by
  obtain ⟨engine, built⟩ : ∃ engine, owned.build = .ok engine := ⟨_, rfl⟩
  have deep : FieldSelect.compile "**" = .ok ⟨"**", [.named .anyDeep .start]⟩ := rfl
  have serves := serves_of_build built
  have answered : owned.applyResolved (some "**") [] owner = .ok (.object [("id", .integer 1)]) := by
    rw [Blueprint.applyResolved, deep]
    rfl
  have applied : owned.apply "**" owner = .ok (.object [("email", .string "a@b.c"), ("id", .integer 1)]) := by
    rw [Blueprint.apply, deep]
    rfl
  have replied := (serves.applyIn "User" (fun _ => some "**") .empty owner).1
  have outcome : (engine.applyIn "User" (fun _ => some "**") .empty owner).1.1 =
      owned.applyResolved (some "**") [] owner := by
    injection replied
  have resolved := outcome.trans answered
  have own := ((serves.apply "**" owner).1).trans applied
  refine ⟨engine, built, resolved, own, ?_⟩
  rw [resolved, own]
  simp

end Engine
end FieldSelect
