import FieldSelect.Proofs.Filter.Calling
import FieldSelect.Proofs.Function.Freeing
import FieldSelect.Proofs.Projection.Clearing
import FieldSelect.Proofs.Projection.Simulation
import Mathlib

/-! No record comes out of a projection. Without calls there is a result as soon as all records of the value have a
table; with them there need not be one, but functions that make no records bring none in. -/
namespace FieldSelect
open Projection

namespace Value
variable {value : Value} {tableOf : String → Except SchemaError ViewTable}

theorem RecordFree.not_hasRecord (free : value.RecordFree) (typeName : String) : ¬ value.HasRecord typeName := by
  have never : ∀ other fields, ¬ (Value.record other fields).RecordFree := by
    rintro other fields (flat | _ | _)
    simp [height] at flat
  intro inside
  induction inside with
  | here fields => exact never _ _ free
  | item member _ ih => exact ih (free.of_array _ member)
  | entry member _ ih => exact ih (free.of_object _ member)
  | field _ _ _ => exact never _ _ free

/-- The types of all records in the value have a table. -/
def Tabled (tableOf : String → Except SchemaError ViewTable) (value : Value) : Prop :=
  ∀ typeName, value.HasRecord typeName → ∃ table, tableOf typeName = .ok table

theorem Tabled.not_lacksTable (tabled : value.Tabled tableOf) (error : ProjectionError) :
    ¬ value.LacksTable tableOf error := by
  rintro ⟨typeName, cause, inside, untabled, _⟩
  obtain ⟨table, found⟩ := tabled typeName inside
  cases untabled.symm.trans found

theorem RecordFree.tabled (free : value.RecordFree) : value.Tabled tableOf :=
  fun typeName inside => absurd inside (free.not_hasRecord typeName)

theorem Tabled.array {items : List Value} (inside : ∀ item ∈ items, item.Tabled tableOf) :
    (Value.array items).Tabled tableOf := by
  rintro typeName (_ | ⟨member, present⟩)
  exact inside _ member typeName present

theorem Tabled.record {typeName : String} {fields : Entries Value} {table : ViewTable}
    (own : tableOf typeName = .ok table) (inside : ∀ field ∈ fields, field.2.Tabled tableOf) :
    (Value.record typeName fields).Tabled tableOf := by
  rintro other (_ | _ | _ | ⟨member, present⟩)
  · exact ⟨table, own⟩
  · exact inside _ member other present

end Value

open Value

namespace Projection
variable {α β : Type} {P Q : α → Prop} {failed : ProjectionError → Prop}

/-- Each step takes what has the one property and gives what has the other, which is not weaker. -/
theorem Ends.foldlM_of_ne_nil {step : α → β → Projection Id α} {items : List β} {start : α} (some_ : items ≠ [])
    (each : ∀ item ∈ items, ∀ x, P x → Ends Q failed (step x item)) (back : ∀ x, Q x → P x) (holds : P start) :
    Ends Q failed (items.foldlM step start) := by
  induction items generalizing start with
  | nil => exact absurd rfl some_
  | cons item rest ih =>
    obtain ⟨own, others⟩ := List.forall_mem_cons.mp each
    rw [List.foldlM_cons]
    refine (own start holds).bind fun next kept => ?_
    cases rest with
    | nil => exact .pure kept
    | cons => exact ih (List.cons_ne_nil _ _) others (back next kept)

theorem Ends.liftExcept {outcome : Except ProjectionError α} (returns : Returns P outcome) :
    Ends P (fun _ => True) (liftExcept outcome) := by
  cases outcome with
  | ok x => exact .pure (returns x rfl)
  | error error => exact .throw trivial

/-- Whatever comes out holds no record. -/
abbrev Frees (run : Projection Id Value) : Prop := Ends RecordFree (fun _ => True) run

theorem Ends.frees {value : Value} {run : Projection Id Value} (ends : Ends (Cleared value) failed run) : Frees run :=
  ends.imp (fun _ cleared => cleared.free) fun _ _ => trivial

end Projection

/-- Neither the selectors of the frontier nor those below them have other calls than these. -/
def Frontier.CallsOnly (calling : Call → Prop) (frontier : Frontier) : Prop :=
  ∀ selector ∈ frontier.selectors, selector.CallsOnly calling

theorem Frontier.LeadsTo.callsOnly {calling : Call → Prop} {frontier lower : Frontier} (leads : frontier.LeadsTo lower)
    (only : frontier.CallsOnly calling) : lower.CallsOnly calling :=
  leads.forall_mem (fun _ own => own.inner) only

namespace Projector
variable {projector : Projector Id} {tree : Tree} {view : String} {value : Value}

/-- What the first stage may be given and what each stage returns, as far as it may be given to the next. -/
theorem project_ends {P Q : Value → Prop} {failed : ProjectionError → Prop}
    (whole : ∀ value, P value → Ends Q failed (projector.whole value))
    (stage : ∀ value number, P value → Ends Q failed (projector.projectStage tree view value number))
    (back : ∀ value, Q value → P value) (holds : P value) : Ends Q failed (projector.project tree view value) := by
  rw [project]
  split
  · exact whole value holds
  · rename_i stages
    exact .foldlM_of_ne_nil (by simpa using stages) (fun number _ value => stage value number) back holds

/-! ### Without calls -/

/-- A filter without calls fails only at a record of the value whose type has no table, and leaves no record. -/
theorem project_ends_of_quiet (quiet : Selector.allQuiet tree.selectors = true) :
    Ends RecordFree (LacksTable projector.tableOf value) (projector.project tree view value) := by
  have lifted : ∀ {inner run}, (∀ typeName, inner.HasRecord typeName → value.HasRecord typeName) →
      Ends (Cleared inner) (LacksTable projector.tableOf inner) run →
      Ends RecordFree (LacksTable projector.tableOf value) run :=
    fun within ends => ends.imp (fun _ cleared => cleared.free) fun _ lacks => lacks.imp within
  refine project_ends (P := fun inner => ∀ typeName, inner.HasRecord typeName → value.HasRecord typeName) ?_ ?_ ?_
    fun _ inside => inside
  · exact fun inner within => lifted within (wholeWithin_ends (Nat.le_refl _))
  · exact fun inner number within =>
      lifted within (projectWithin_ends view (Nat.le_refl _) (Tree.quiet_top quiet number))
  · -- What a later stage is given holds no record, so that nothing can lack a table there.
    exact fun inner free typeName inside => absurd inside (free.not_hasRecord typeName)

/-! ### With calls -/

/-- No function that can be called makes records, and no variable holds one. -/
structure FreesRecords (projector : Projector Id) : Prop where
  functions : projector.registry.FreesRecords
  values : ∀ bound, projector.bindings = some bound → ∀ entry ∈ bound, entry.2.RecordFree

section Calls
variable (frees : projector.FreesRecords)
include frees

theorem FreesRecords.returns_arguments {call : Call} (plain : call.Plain) :
    Returns (fun arguments => ∀ argument ∈ arguments, argument.RecordFree) (call.bind projector.bindings) := by
  refine Returns.mapM fun argument member => ?_
  rcases argument with value | name
  · exact .ok (.scalar (plain value member))
  · dsimp only
    split
    · rename_i found
      obtain ⟨bound, same, found⟩ := Option.bind_eq_some_iff.mp found
      exact .ok (frees.values bound same _ (Entries.mem_of_find? found))
    · exact .error _

theorem FreesRecords.returns_call {call : Call} (plain : call.Plain) {input : Value} (free : input.RecordFree) :
    Returns RecordFree (projector.call input call) := by
  have passed : ∀ error, Returns RecordFree (projector.passOver error input) := by
    intro error
    rw [passOver]
    split
    · exact .error _
    · exact .ok free
  rw [Projector.call]
  split
  · exact passed _
  · rename_i arguments bound
    split
    · exact passed _
    · rename_i overload resolved
      have own := frees.functions.resolve resolved input arguments free (frees.returns_arguments plain arguments bound)
      exact own.mapError _

/-- The calls of a selector leave no record in the value of a field. -/
theorem FreesRecords.returns_applyCalls {selector : Selector} (only : selector.CallsOnly Call.Plain) (key : String)
    (free : value.RecordFree) :
    Returns (fun entry => entry.2.RecordFree) (projector.applyCalls selector key value) := by
  rw [applyCalls]
  have called : Returns RecordFree (selector.valueCalls.foldlM projector.call value) :=
    .foldlM (fun call member _ free => frees.returns_call (only.values call member) free) free
  exact called.bind fun _ free => .after _ fun _ => .ok free

variable {levels : Nat} {descend : Value → Frontier → Projection Id Value} {frontier : Frontier}
  (only : frontier.CallsOnly Call.Plain)
include only

theorem FreesRecords.field_ends {offer : Offer} (enough : offer.value.height ≤ levels)
    (below : ∀ lower, frontier.LeadsTo lower → Frees (descend offer.value lower)) :
    Ends (fun result => ∀ entry ∈ result, entry.2.RecordFree) (fun _ => True)
      (projector.field levels descend frontier offer) := by
  rw [field]
  cases choice : projector.chosen? frontier offer with
  | none => exact .pure fun _ member => absurd member (Option.not_mem_none _)
  | some pair =>
    obtain ⟨selector, continuation⟩ := pair
    have kept : Frees (projector.keep levels descend offer.value continuation) := by
      cases continuation with
      | stop => exact .pure (cleared_shell offer.value).free
      | whole => exact (wholeWithin_ends enough).frees
      | descend lower => exact below lower (leadsTo_of_chosen? choice)
    refine kept.bind fun value free => ?_
    rcases exists_of_chosen? choice with ⟨found, present, rfl, _⟩ | ⟨rfl, _⟩
    · have called := frees.returns_applyCalls (only found present) offer.name free
      exact (Ends.liftExcept called).bind fun entry free => .pure (by simpa using free)
    · exact .pure (by simpa using free)

theorem FreesRecords.fields_ends {offers : List Offer} (enough : ∀ offer ∈ offers, offer.value.height ≤ levels)
    (below : ∀ offer ∈ offers, ∀ lower, frontier.LeadsTo lower → Frees (descend offer.value lower)) :
    Frees (projector.fields levels descend frontier offers) := by
  have each := Ends.mapM fun offer member => frees.field_ends only (enough offer member) (below offer member)
  refine each.bind fun results paired => .pure (.object fun entry member => ?_)
  obtain ⟨result, present, same⟩ := List.mem_filterMap.mp (Entries.mem_of_mem_ofPairs member)
  obtain ⟨_, _, free⟩ := exists_of_forall₂ paired.flip present
  exact free entry same

end Calls

/-- One stage takes any value, and leaves no record. -/
theorem FreesRecords.projectWithin_ends (frees : projector.FreesRecords) (view : String) {levels : Nat}
    (enough : value.height ≤ levels) {frontier : Frontier} (only : frontier.CallsOnly Call.Plain) :
    Frees (projector.projectWithin view levels value frontier) := by
  induction levels generalizing value frontier with
  | zero => cases value <;> first | exact .pure (.scalar rfl) | (rw [Value.height] at enough; omega)
  | succ levels ih =>
    cases value with
    | array items =>
      have each : ∀ item ∈ items, Frees (projector.projectWithin view levels item frontier) := by
        intro item member
        have low := height_le_of_mem_items member
        rw [Value.height] at enough
        exact ih (by omega) only
      refine (Ends.mapM each).bind fun results paired => .pure (.array fun result member => ?_)
      obtain ⟨_, _, free⟩ := exists_of_forall₂ paired.flip member
      exact free
    | object entries =>
      have low : ∀ offer ∈ entries.map fun entry => (⟨entry.1, entry.2, false⟩ : Offer),
          offer.value.height ≤ levels := by
        intro offer member
        obtain ⟨entry, present, rfl⟩ := List.mem_map.mp member
        have inside := height_le_of_mem_entries present
        rw [Value.height] at enough
        exact Nat.le_trans inside (by omega)
      exact frees.fields_ends only low fun offer member lower leads => ih (low offer member) (leads.callsOnly only)
    | record typeName fields =>
      have fits : heightEntries fields ≤ levels := by
        rw [Value.height] at enough
        omega
      have offered : Ends (Collects projector.tableOf view frontier.explicit (.record typeName fields)) (fun _ => True)
          (projector.recordOffers view frontier.explicit levels typeName fields) :=
        (recordOffers_ends fits).imp (fun _ => id) fun _ _ => trivial
      refine offered.bind fun offers collected => ?_
      have low : ∀ offer ∈ offers, offer.value.height ≤ levels :=
        fun offer member => Nat.le_trans ((collected offer).mp member).height_le fits
      exact frees.fields_ends only low fun offer member lower leads => ih (low offer member) (leads.callsOnly only)
    | _ => exact .pure (.scalar rfl)

/-- Whatever the value holds, no record comes out, if functions and variables bring none in. -/
theorem FreesRecords.project_ends (frees : projector.FreesRecords)
    (only : ∀ selector ∈ tree.selectors, selector.CallsOnly Call.Plain) :
    Frees (projector.project tree view value) := by
  refine Projector.project_ends (P := fun _ => True) ?_ ?_ (fun _ _ => trivial) trivial
  · exact fun value _ => (wholeWithin_ends (Nat.le_refl _)).frees
  · intro value number _
    exact frees.projectWithin_ends view (Nat.le_refl _) fun selector member =>
      only selector (Frontier.mem_of_mem_top member)

end Projector

namespace Engine

/-- A compiled filter without calls fails only where the value holds a record without a table, and so not at all if all
of its records have one; there is no record in its result. With calls, no result has a record in it if no function makes
one and no variable holds one. -/
theorem project_recordFree (engine : Engine) (reachable : engine.catalog.Reachable) (bindings : Option Bindings)
    {text : String} {tree : Tree} (compiled : FieldSelect.compile text = .ok tree) (view : String) (value : Value) :
    let outcome := (engine.run ((engine.projector bindings).project tree view value)).1
    (Selector.allQuiet tree.selectors = true →
        (value.Tabled engine.catalog.build → ∃ result, outcome = .ok result ∧ result.RecordFree) ∧
        (∀ error, outcome = .error error → value.LacksTable engine.catalog.build error) ∧
        ∀ result, outcome = .ok result → result.RecordFree) ∧
      (engine.registry.FreesRecords →
        (∀ bound, bindings = some bound → ∀ entry ∈ bound, entry.2.RecordFree) →
        ∀ result, outcome = .ok result → result.RecordFree) := by
  intro outcome
  let fresh := engine.projectorOver bindings engine.catalog.build
  have same : outcome = ExceptT.run (fresh.project tree view value) :=
    engine.run_project bindings reachable tree view value
  rw [same]
  constructor
  · intro quiet
    have ended : Ends RecordFree (LacksTable fresh.tableOf value) (fresh.project tree view value) :=
      Projector.project_ends_of_quiet quiet
    rcases ended.cases with ⟨error, failed, lacks⟩ | ⟨result, found, free⟩
    · refine ⟨fun tabled => absurd lacks (tabled.not_lacksTable error), fun _ other => ?_, fun _ succeeded => ?_⟩
      · cases failed.symm.trans other
        exact lacks
      · cases failed.symm.trans succeeded
    · refine ⟨fun _ => ⟨result, found, free⟩, fun _ failed => ?_, fun _ other => ?_⟩
      · cases found.symm.trans failed
      · cases found.symm.trans other
        exact free
  · intro functions values result succeeded
    have frees : fresh.FreesRecords := ⟨functions, values⟩
    have ended : Frees (fresh.project tree view value) := frees.project_ends (compile_plain compiled)
    rcases ended.cases with ⟨_, failed, _⟩ | ⟨_, found, free⟩
    · cases failed.symm.trans succeeded
    · cases found.symm.trans succeeded
      exact free

/-- Users show what their profiles hold. -/
private def crew : Engine :=
  let user : Schema :=
    ⟨"User",
      [⟨"id", none, [], false⟩, ⟨"nick", none, [], false⟩, ⟨"profile", none, [], true⟩, ⟨"team", none, [], false⟩]⟩
  let profile : Schema := ⟨"Profile", [⟨"email", none, [], false⟩]⟩
  let team : Schema := ⟨"Team", [⟨"name", none, [], false⟩]⟩
  let catalog := (((Catalog.ofSettings .standard).register user).register profile).register team
  ⟨.standard, .core, catalog, .ofSpec .standard⟩

private def ada : Value :=
  .record "User"
    [("id", .integer 1), ("nick", .null), ("profile", .record "Profile" [("email", .string "a@b.c")]),
      ("team", .array [.record "Team" [("name", .string "core")]])]

private def contacts : Tree :=
  ⟨"**|email,team", [.named .anyDeep .start, { Selector.named (.exact "email") ⟨1, 4⟩ with stage := 1 },
    { Selector.named (.exact "team") ⟨1, 10⟩ with stage := 1 }]⟩

private def firstTeam : Tree :=
  ⟨"team.first(),nick.default(@nick)|*",
    [{ Selector.named (.exact "team") .start with valueCalls := [⟨"first", [], ⟨1, 6⟩⟩] },
      { Selector.named (.exact "nick") ⟨1, 14⟩ with valueCalls := [⟨"default", [.variable "nick"], ⟨1, 19⟩⟩] },
      { Selector.named .anyShallow ⟨1, 34⟩ with stage := 1 }]⟩

private theorem crew_reachable : crew.catalog.Reachable := .register (.register (.register (.ofSettings _) _) _) _

private theorem firstTeam_of_ada :
    (crew.run ((crew.projector (some [("nick", .string "ada")])).project firstTeam "base" ada)).1 =
      .ok (.object [("nick", .string "ada"), ("team", .object [("name", .string "core")])]) := by
  rw [run_project _ _ crew_reachable]
  rfl

theorem project_recordFree_of_crew :
    crew.catalog.Reachable ∧ FieldSelect.compile "**|email,team" = .ok contacts ∧
      FieldSelect.compile "team.first(),nick.default(@nick)|*" = .ok firstTeam ∧
      Selector.allQuiet contacts.selectors = true ∧ ada.Tabled crew.catalog.build ∧ crew.registry.FreesRecords ∧
      (∃ result, (crew.run ((crew.projector none).project contacts "base" ada)).1 = .ok result ∧ result.RecordFree) ∧
      ∃ result, (crew.run ((crew.projector (some [("nick", .string "ada")])).project firstTeam "base" ada)).1 =
        .ok result ∧ result.RecordFree := by
  have compiled : FieldSelect.compile "**|email,team" = .ok contacts := by cbv
  have compiled' : FieldSelect.compile "team.first(),nick.default(@nick)|*" = .ok firstTeam := by cbv
  have quiet : Selector.allQuiet contacts.selectors = true := rfl
  have tabled : ada.Tabled crew.catalog.build := by
    have flat : ∀ {value : Value}, value.height = 0 → value.Tabled crew.catalog.build :=
      fun flat => (RecordFree.scalar flat).tabled
    have profile : (Value.record "Profile" [("email", .string "a@b.c")]).Tabled crew.catalog.build :=
      .record rfl (List.forall_mem_singleton.mpr (flat rfl))
    have team : (Value.record "Team" [("name", .string "core")]).Tabled crew.catalog.build :=
      .record rfl (List.forall_mem_singleton.mpr (flat rfl))
    refine .record rfl ?_
    simp only [List.forall_mem_cons]
    exact ⟨flat rfl, flat rfl, profile, .array (List.forall_mem_singleton.mpr team), List.forall_mem_nil _⟩
  have functions : crew.registry.FreesRecords := Registry.freesRecords_core
  have values : ∀ bound, some [("nick", Value.string "ada")] = some bound → ∀ entry ∈ bound, entry.2.RecordFree := by
    rintro _ ⟨⟩
    exact List.forall_mem_singleton.mpr (.scalar rfl)
  refine ⟨crew_reachable, compiled, compiled', quiet, tabled, functions, ?_, ?_⟩
  · exact (project_recordFree crew crew_reachable none compiled "base" ada).1 quiet |>.1 tabled
  · have free := (project_recordFree crew crew_reachable _ compiled' "base" ada).2 functions values
    exact ⟨_, firstTeam_of_ada, free _ firstTeam_of_ada⟩

end Engine
end FieldSelect
