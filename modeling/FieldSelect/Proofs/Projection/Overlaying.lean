import FieldSelect.Proofs.Entries
import FieldSelect.Proofs.Filter.Reading
import FieldSelect.Proofs.Projection.Clearing
import FieldSelect.Proofs.Projection.Simulation
import FieldSelect.Proofs.Schema.NameSets
import Mathlib

/-! A property of a record and a field in the place of an unwrapped one can have the same name. The one that is later in
the order of the external names stays, and so a record's own field can be overlaid. -/
namespace FieldSelect
open Projection Value

namespace Projector

section Stages
variable {m : Type → Type} [Monad m]

/-- What the first stage makes of one offer. -/
def firstStage (projector : Projector m) (tree : Tree) (view : String) (levels : Nat) (offer : Offer) :
    Projection m (Option (String × Value)) :=
  projector.field levels (projector.projectWithin view levels) (.top (tree.stage 0)) offer

/-- All stages but the first. -/
def laterStages (projector : Projector m) (tree : Tree) (view : String) (value : Value) : Projection m Value :=
  (List.range' 1 (tree.stageCount - 1)).foldlM (projector.projectStage tree view) value

/-- The first stage on some offers, and all other stages on what it makes of them. -/
def projectOffers (projector : Projector m) (tree : Tree) (view : String) (levels : Nat) (offers : List Offer) :
    Projection m Value := do
  let kept ← offers.mapM (projector.firstStage tree view levels)
  projector.laterStages tree view (.object (Entries.ofPairs (kept.filterMap id)))

variable (projector : Projector m) {tree : Tree}

theorem project_eq_laterStages (staged : 0 < tree.stageCount) (view : String) (value : Value) :
    projector.project tree view value =
      projector.projectStage tree view value 0 >>= projector.laterStages tree view := by
  obtain ⟨count, counted⟩ := Nat.exists_eq_add_of_lt staged
  rw [project, if_neg (Nat.ne_of_gt staged), counted, Nat.zero_add, List.range_eq_range', List.range'_succ,
    List.foldlM_cons, Nat.zero_add]
  refine congrArg (_ >>= ·) (funext fun value => ?_)
  rw [laterStages, counted, Nat.zero_add, Nat.add_sub_cancel]

variable [LawfulMonad m]

/-- A record is projected by projecting what it offers. -/
theorem project_record (staged : 0 < tree.stageCount) (view typeName : String) (fields : Entries Value) :
    projector.project tree view (.record typeName fields) =
      projector.recordOffers view (tree.stage 0) (heightEntries fields) typeName fields >>=
        projector.projectOffers tree view (heightEntries fields) := by
  rw [project_eq_laterStages projector staged, projectStage, Value.height, projectWithin, bind_assoc]
  refine congrArg (_ >>= ·) (funext fun offers => ?_)
  rw [Projector.fields, bind_assoc]
  simp only [pure_bind]
  rfl

/-- A field on its own is projected like an object that holds nothing else, unless it is only a view that keeps it. -/
theorem project_object (staged : 0 < tree.stageCount) (view name : String) (value : Value) :
    projector.project tree view (.object [(name, value)]) =
      projector.projectOffers tree view value.height [⟨name, value, false⟩] := by
  have height : heightEntries [(name, value)] = value.height := Nat.max_zero _
  rw [project_eq_laterStages projector staged, projectStage, Value.height, height, projectWithin, Projector.fields,
    bind_assoc]
  simp only [pure_bind]
  rfl

theorem projectOffers_single (view : String) (levels : Nat) (offer : Offer) :
    projector.projectOffers tree view levels [offer] =
      (do let result ← projector.firstStage tree view levels offer
          projector.laterStages tree view (.object result.toList)) := by
  rw [projectOffers, List.mapM_cons]
  simp only [List.mapM_nil, bind_assoc, pure_bind]
  refine congrArg (_ >>= ·) (funext fun result => ?_)
  cases result <;> rfl

end Stages

theorem InStep.projectOffers {m n : Type → Type} [Monad m] [Monad n] [LawfulMonad m] [LawfulMonad n]
    {R : ∀ α : Type, Projection m α → Projection n α → Prop} {projector : Projector m} {other : Projector n}
    (inStep : InStep R projector other) (tree : Tree) (view : String) (levels : Nat) (offers : List Offer) :
    R Value (projector.projectOffers tree view levels offers) (other.projectOffers tree view levels offers) := by
  have first := inStep.steps.mapM (inStep.field (inStep.projectWithin view levels) levels (.top (tree.stage 0))) offers
  refine inStep.steps.bind first fun kept => ?_
  exact inStep.steps.foldlM (fun value stage => inStep.projectWithin view value.height value _) _ _

variable {projector : Projector Id} {tree : Tree} {view : String}

theorem firstStage_levels {levels : Nat} {offer : Offer} (enough : offer.value.height ≤ levels) :
    projector.firstStage tree view levels offer = projector.firstStage tree view offer.value.height offer := by
  have levelled : Levelled projector (SameUpTo offer.value.height) levels offer.value.height
      (projector.projectWithin view levels) (projector.projectWithin view offer.value.height)
      (.top (tree.stage 0)) := by
    refine ⟨?_, wholeWithin_levels enough (Nat.le_refl _), ?_⟩
    · rintro value _ ⟨rfl, _⟩
      rfl
    · rintro lower _ value _ ⟨rfl, low⟩
      exact projectWithin_levels (Nat.le_trans low enough) low lower
  exact field_congr levelled ⟨rfl, ⟨rfl, Nat.le_refl _⟩, rfl⟩

/-- On its own the field comes out under its name as that value. -/
def ShowsAlone (projector : Projector Id) (tree : Tree) (view : String) (offer : Offer) (value : Value) : Prop :=
  ∃ entries, projector.projectOffers tree view offer.value.height [offer] = pure (.object entries) ∧
    Entries.find? offer.name entries = some value

/-- The key paths that all stages but the first keep. -/
def keptLater (projector : Projector Id) (tree : Tree) (path : List String) : Bool :=
  (List.range' 1 (tree.stageCount - 1)).all fun stage =>
    (Frontier.top (tree.stage stage)).admits projector.bindings path

section Quiet
variable (quiet : Selector.allQuiet tree.selectors = true)
include quiet

theorem laterStages_eq_prune {entries : Entries Value} (free : (Value.object entries).RecordFree)
    (ordered : (Value.object entries).Ordered) :
    projector.laterStages tree view (.object entries) =
      pure (.object (pruneEntries (projector.keptLater tree) entries)) :=
  projector.foldlM_projectStage_eq_prune quiet view _ free ordered

theorem firstStage_ends {levels : Nat} {offer : Offer} (enough : offer.value.height ≤ levels) :
    Ends (Kept offer) (LacksTable projector.tableOf offer.value) (projector.firstStage tree view levels offer) :=
  field_ends (Tree.quiet_top quiet 0) enough fun _ leads =>
    projectWithin_ends view enough (leads.quiet (Tree.quiet_top quiet 0))

/-- The first stage decides whether the field is kept and as what, and the others what is left of that. -/
theorem showsAlone_iff {levels : Nat} {offer : Offer} (enough : offer.value.height ≤ levels)
    (ordered : offer.value.Ordered) {value : Value} :
    projector.ShowsAlone tree view offer value ↔
      ∃ first, projector.firstStage tree view levels offer = pure (some (offer.name, first)) ∧
        projector.keptLater tree [offer.name] = true ∧
          value = first.prune fun path => projector.keptLater tree (offer.name :: path) := by
  have ends : Ends (Kept offer) (LacksTable projector.tableOf offer.value)
      (projector.firstStage tree view levels offer) := firstStage_ends quiet enough
  rw [ShowsAlone, projectOffers_single, ← firstStage_levels enough]
  generalize projector.firstStage tree view levels offer = run at ends ⊢
  cases ends with
  | throw => exact ⟨fun ⟨_, same, _⟩ => absurd same throw_ne_pure, fun ⟨_, same, _⟩ => absurd same throw_ne_pure⟩
  | @pure result kept =>
    simp only [pure_bind, pure_inj]
    cases result with
    | none =>
      have free : (Value.object []).RecordFree := .object (List.forall_mem_nil _)
      have inOrder : (Value.object []).Ordered := .object List.Pairwise.nil (List.forall_mem_nil _)
      rw [Option.toList_none, laterStages_eq_prune quiet free inOrder]
      constructor
      · rintro ⟨entries, same, found⟩
        cases pure_inj.mp same
        cases found
      · rintro ⟨first, same, _⟩
        cases same
    | some pair =>
      obtain ⟨name, first⟩ := pair
      obtain ⟨rfl, cleared⟩ := kept _ rfl
      have free : (Value.object [(offer.name, first)]).RecordFree :=
        .object (List.forall_mem_singleton.mpr cleared.free)
      have inOrder : (Value.object [(offer.name, first)]).Ordered :=
        .object (List.pairwise_singleton _ _) (List.forall_mem_singleton.mpr (cleared.ordered ordered))
      have single : Entries.find? offer.name [(offer.name, first)] = some first := if_pos rfl
      rw [Option.toList_some, laterStages_eq_prune quiet free inOrder]
      constructor
      · rintro ⟨entries, same, found⟩
        cases pure_inj.mp same
        rw [find?_pruneEntries, single, Option.map_some] at found
        split at found
        · rename_i left
          exact ⟨first, rfl, left, (Option.some.inj found).symm⟩
        · cases found
      · rintro ⟨_, same, left, rfl⟩
        cases same
        refine ⟨_, rfl, ?_⟩
        rw [find?_pruneEntries, if_pos left, single, Option.map_some]

end Quiet

/-- Of the fields that are kept under a key the last one counts. -/
theorem find?_of_results {R : Offer → Option (String × Value) → Prop} {key : String} {first : Value}
    {front own back : List Offer} {results : List (Option (String × Value))}
    (made : List.Forall₂ R (front ++ (own ++ back)) results)
    (mine : ∀ offer ∈ own, ∀ result, R offer result → result = some (key, first)) (some_ : own ≠ []) :
    (Entries.find? key (Entries.ofPairs (results.filterMap id)) = some first ∧
        ∀ offer ∈ back, ∃ result, R offer result ∧ ∀ value, result ≠ some (key, value)) ∨
      ∃ offer ∈ back, ∃ value, R offer (some (key, value)) ∧
        Entries.find? key (Entries.ofPairs (results.filterMap id)) = some value := by
  obtain ⟨before, rest, rfl, _, made⟩ := exists_append_of_forall₂ made
  obtain ⟨kept, behind, rfl, madeOwn, madeBack⟩ := exists_append_of_forall₂ made
  have found : Entries.find? key (Entries.ofPairs (kept.filterMap id)) = some first := by
    obtain ⟨offer, member⟩ := List.exists_mem_of_ne_nil own some_
    obtain ⟨result, present, related⟩ := exists_of_forall₂ madeOwn member
    have written : (key, first) ∈ kept.filterMap id :=
      List.mem_filterMap.mpr ⟨result, present, mine offer member result related⟩
    obtain ⟨last, found, member⟩ := Entries.exists_find?_ofPairs written
    obtain ⟨_, present, rfl⟩ := List.mem_filterMap.mp member
    obtain ⟨other, member, related⟩ := exists_of_forall₂ madeOwn.flip present
    cases mine other member _ related
    exact found
  rw [List.filterMap_append, List.filterMap_append, Entries.find?_ofPairs_append, Entries.find?_ofPairs_append, found]
  cases later : Entries.find? key (Entries.ofPairs (behind.filterMap id)) with
  | none =>
    refine .inl ⟨rfl, fun offer member => ?_⟩
    obtain ⟨result, present, related⟩ := exists_of_forall₂ madeBack member
    refine ⟨result, related, ?_⟩
    rintro value rfl
    have written : (key, value) ∈ behind.filterMap id := List.mem_filterMap.mpr ⟨_, present, rfl⟩
    obtain ⟨last, found, _⟩ := Entries.exists_find?_ofPairs written
    cases later.symm.trans found
  | some value =>
    obtain ⟨_, present, rfl⟩ := List.mem_filterMap.mp (Entries.mem_of_mem_ofPairs (Entries.mem_of_find? later))
    obtain ⟨offer, member, related⟩ := exists_of_forall₂ madeBack.flip present
    exact .inr ⟨offer, member, value, related, rfl⟩

end Projector

/-- A field in the place of an unwrapped property that is listed behind the external name, and has that name itself. -/
def ViewTable.Overlays (tableOf : String → Except SchemaError ViewTable) (view : String) (selectors : List Selector)
    (table : ViewTable) (fields : Entries Value) (external : String) (offer : Offer) : Prop :=
  ∃ other, external < other ∧ table.Lists view selectors other ∧ table.isUnwrapped other = true ∧
    table.Contributes tableOf view selectors fields other offer ∧ offer.name = external

theorem ViewTable.Overlays.name {tableOf : String → Except SchemaError ViewTable} {view : String}
    {selectors : List Selector} {table : ViewTable} {fields : Entries Value} {external : String} {offer : Offer}
    (overlays : table.Overlays tableOf view selectors fields external offer) : offer.name = external := by
  obtain ⟨_, _, _, _, _, same⟩ := overlays
  exact same

namespace Projector
variable {projector : Projector Id} {tree : Tree} {view typeName external : String} {table : ViewTable}
  {fields : Entries Value} {own value : Value}

/-- What a record offers before one of its own fields, that field, and what it offers behind it. -/
theorem exists_split {tableOf : String → Except SchemaError ViewTable} {selectors : List Selector}
    {groups : List (List Offer)} (grouped : Grouped tableOf view selectors table fields groups)
    (listed : table.Lists view selectors external) (held : table.held? fields external = some own)
    (whole : table.isUnwrapped external = false) :
    ∃ front group back, groups.flatten = front ++ (group ++ back) ∧
      (∀ offer, offer ∈ group ↔ offer = ⟨external, own, (table.propertiesNamed selectors).contains external⟩) ∧
      ∀ offer, offer.name = external →
        (offer ∈ back ↔ table.Overlays tableOf view selectors fields external offer) := by
  have sorted : NameSet.Sorted (NameSet.union (table.propertiesIn view) (table.propertiesNamed selectors)) :=
    NameSet.sorted_union (table.sorted_propertiesNamed selectors) _
  have paired := grouped
  obtain ⟨before, after, split⟩ := List.append_of_mem (NameSet.mem_union.mpr listed)
  rw [Grouped, split] at paired
  rw [split] at sorted
  obtain ⟨front, rest, rfl, _, paired⟩ := exists_append_of_forall₂ paired
  obtain ⟨group, back, contributed, behind, rfl⟩ := List.forall₂_cons_left_iff.mp paired
  have later : ∀ other, other ∈ after ↔ external < other ∧ table.Lists view selectors other := by
    intro other
    obtain ⟨_, here, apart⟩ := List.pairwise_append.mp sorted
    rw [ViewTable.Lists, ← NameSet.mem_union, split, List.mem_append, List.mem_cons]
    constructor
    · exact fun member => ⟨List.rel_of_pairwise_cons here member, .inr (.inr member)⟩
    · rintro ⟨less, member | rfl | member⟩
      · exact absurd less (String.lt_asymm (apart other member external List.mem_cons_self))
      · exact absurd less (String.lt_irrefl _)
      · exact member
  refine ⟨front.flatten, group, back.flatten, ?_, fun offer => ?_, fun offer same => ?_⟩
  · rw [List.flatten_append, List.flatten_cons]
  · rw [contributed]
    constructor
    · rintro (⟨held', _⟩ | ⟨_, unwrapped, _⟩)
      · cases held.symm.trans held'
        rfl
      · cases whole.symm.trans unwrapped
    · rintro rfl
      exact .own held whole
  · rw [List.mem_flatten]
    constructor
    · rintro ⟨others, present, member⟩
      obtain ⟨other, inside, collected⟩ := exists_of_forall₂ behind.flip present
      obtain ⟨less, listed⟩ := (later other).mp inside
      have contributes := (collected offer).mp member
      refine ⟨other, less, listed, ?_, contributes, same⟩
      cases contributes with
      | own => exact absurd (same ▸ less) (String.lt_irrefl _)
      | spliced _ unwrapped => exact unwrapped
    · rintro ⟨other, less, listed, _, contributes, _⟩
      obtain ⟨others, present, collected⟩ := exists_of_forall₂ behind ((later other).mpr ⟨less, listed⟩)
      exact ⟨others, present, (collected offer).mpr contributes⟩

/-- What the first stage makes of each offer of a record is written in turn, and the other stages prune that. -/
theorem project_results (quiet : Selector.allQuiet tree.selectors = true) (staged : 0 < tree.stageCount)
    (tabled : projector.tableOf typeName = .ok table) (ordered : (Value.record typeName fields).Ordered) :
    Ends
      (fun result => ∃ groups results, Grouped projector.tableOf view (tree.stage 0) table fields groups ∧
        List.Forall₂
          (fun offer result =>
            projector.firstStage tree view (heightEntries fields) offer = pure result ∧ Kept offer result)
          groups.flatten results ∧
        result = .object (pruneEntries (projector.keptLater tree) (Entries.ofPairs (results.filterMap id))))
      (LacksTable projector.tableOf (.record typeName fields))
      (projector.project tree view (.record typeName fields)) := by
  rw [project_record projector staged]
  refine (recordOffers_grouped (Nat.le_refl _) tabled).bind ?_
  rintro _ ⟨groups, rfl, grouped⟩
  have offered : ∀ offer ∈ groups.flatten,
      Offers projector.tableOf view (tree.stage 0) (.record typeName fields) offer :=
    fun offer => (collects_of_groups tabled grouped offer).mp
  have ends := results_end (Tree.quiet_top quiet 0) offered (fun offer member => (offered offer member).height_le)
    fun offer member lower leads =>
      projectWithin_ends view (offered offer member).height_le (leads.quiet (Tree.quiet_top quiet 0))
  refine ends.bind fun results made => ?_
  have cleared := cleared_of_results offered (made.imp fun _ _ => And.right)
  rw [laterStages_eq_prune quiet cleared.free (cleared.ordered ordered)]
  exact .pure ⟨groups, results, grouped, made, rfl⟩

/-- A field of the record's own comes out as it does on its own, unless a field that overlays it is kept as well. -/
theorem project_overlaid (quiet : Selector.allQuiet tree.selectors = true) (staged : 0 < tree.stageCount)
    (tabled : projector.tableOf typeName = .ok table) (ordered : (Value.record typeName fields).Ordered)
    (listed : table.Lists view (tree.stage 0) external) (held : table.held? fields external = some own)
    (whole : table.isUnwrapped external = false)
    (alone : projector.ShowsAlone tree view
      ⟨external, own, (table.propertiesNamed (tree.stage 0)).contains external⟩ value) :
    let overlays := table.Overlays projector.tableOf view (tree.stage 0) fields external
    Ends
      (fun result => ∃ entries, result = .object entries ∧
        ((Entries.find? external entries = some value ∧
            ∀ later shown, overlays later → ¬ projector.ShowsAlone tree view later shown) ∨
          ∃ later shown, overlays later ∧ projector.ShowsAlone tree view later shown ∧
            Entries.find? external entries = some shown))
      (LacksTable projector.tableOf (.record typeName fields))
      (projector.project tree view (.record typeName fields)) := by
  intro overlays
  refine (project_results quiet staged tabled ordered).imp ?_ fun _ => id
  rintro _ ⟨groups, results, grouped, made, rfl⟩
  refine ⟨_, rfl, ?_⟩
  have offered : ∀ offer ∈ groups.flatten,
      Offers projector.tableOf view (tree.stage 0) (.record typeName fields) offer :=
    fun offer => (collects_of_groups tabled grouped offer).mp
  have alone_iff : ∀ offer ∈ groups.flatten, ∀ {value}, projector.ShowsAlone tree view offer value ↔ _ :=
    fun offer member => showsAlone_iff quiet (offered offer member).height_le ((offered offer member).ordered ordered)
  obtain ⟨front, group, back, split, mine, behind⟩ := exists_split grouped listed held whole
  rw [split] at made alone_iff
  have inFront : ∀ {offer}, offer ∈ group → offer ∈ front ++ (group ++ back) :=
    fun member => List.mem_append_right _ (List.mem_append_left _ member)
  have inBack : ∀ {offer}, offer ∈ back → offer ∈ front ++ (group ++ back) :=
    fun member => List.mem_append_right _ (List.mem_append_right _ member)
  have present := (mine _).mpr rfl
  obtain ⟨first, kept, left, rfl⟩ := (alone_iff _ (inFront present)).mp alone
  have same : ∀ offer ∈ group, ∀ result, projector.firstStage tree view (heightEntries fields) offer = pure result ∧
      Kept offer result → result = some (external, first) := by
    intro offer member result made
    cases (mine offer).mp member
    exact pure_inj.mp (made.1.symm.trans kept)
  rw [find?_pruneEntries, if_pos left]
  rcases find?_of_results made same (List.ne_nil_of_mem present) with
    ⟨found, absent⟩ | ⟨offer, member, shown, ⟨made, named⟩, found⟩
  · refine .inl ⟨by rw [found, Option.map_some], fun later shown overlays shows_ => ?_⟩
    have member := (behind later overlays.name).mpr overlays
    obtain ⟨value, kept, _⟩ := (alone_iff later (inBack member)).mp shows_
    obtain ⟨result, made, other⟩ := absent later member
    exact other value (overlays.name ▸ pure_inj.mp (made.1.symm.trans kept))
  · have same : offer.name = external := (named _ rfl).1.symm
    refine .inr ⟨offer, _, (behind offer same).mp member,
      (alone_iff offer (inBack member)).mpr ⟨shown, same.symm ▸ made, same.symm ▸ left, rfl⟩, ?_⟩
    rw [found, Option.map_some, same]

end Projector

namespace Engine

/-- On its own the field comes out under its name as that value. -/
def ShowsAlone (engine : Engine) (bindings : Option Bindings) (tree : Tree) (view : String) (offer : Offer)
    (value : Value) : Prop :=
  ∃ entries,
    (engine.run ((engine.projector bindings).projectOffers tree view offer.value.height [offer])).1 =
      .ok (.object entries) ∧ Entries.find? offer.name entries = some value

theorem showsAlone_iff_over (engine : Engine) (reachable : engine.catalog.Reachable) (bindings : Option Bindings)
    (tree : Tree) (view : String) (offer : Offer) (value : Value) :
    engine.ShowsAlone bindings tree view offer value ↔
      (engine.projectorOver bindings engine.catalog.build).ShowsAlone tree view offer value := by
  have same : (engine.run ((engine.projector bindings).projectOffers tree view offer.value.height [offer])).1 =
      ExceptT.run ((engine.projectorOver bindings engine.catalog.build).projectOffers tree view offer.value.height
        [offer]) :=
    engine.run_of_follows reachable ((engine.projector_inStep bindings fun _ => 0).projectOffers tree view _ _)
  rw [ShowsAlone, same]
  exact Iff.rfl

/-- What a filter without calls shows of a record under the name of one of its own properties. It is what the property's
own field comes out as, unless the value of an unwrapped property that is listed behind that name has a field of the
same name which comes out as well: then it is what such a field comes out as. -/
theorem project_own_field (engine : Engine) (reachable : engine.catalog.Reachable) (bindings : Option Bindings)
    {text : String} {tree : Tree} (compiled : FieldSelect.compile text = .ok tree)
    (quiet : Selector.allQuiet tree.selectors = true) {view typeName external : String} {table : ViewTable}
    {fields : Entries Value} {own value : Value} (tabled : engine.catalog.build typeName = .ok table)
    (ordered : (Value.record typeName fields).Ordered) (listed : table.Lists view (tree.stage 0) external)
    (held : table.held? fields external = some own) (whole : table.isUnwrapped external = false)
    (alone : engine.ShowsAlone bindings tree view
      ⟨external, own, (table.propertiesNamed (tree.stage 0)).contains external⟩ value) :
    let outcome := (engine.run ((engine.projector bindings).project tree view (.record typeName fields))).1
    let overlays := table.Overlays engine.catalog.build view (tree.stage 0) fields external
    (∃ error, outcome = .error error ∧ (Value.record typeName fields).LacksTable engine.catalog.build error) ∨
      ∃ entries, outcome = .ok (.object entries) ∧
        ((Entries.find? external entries = some value ∧
            ∀ later shown, overlays later → ¬ engine.ShowsAlone bindings tree view later shown) ∨
          ∃ later shown, overlays later ∧ engine.ShowsAlone bindings tree view later shown ∧
            Entries.find? external entries = some shown) := by
  intro outcome overlays
  have alike := engine.showsAlone_iff_over reachable bindings tree view
  have staged := (compile_wellFormed compiled).staged
  rw [show outcome = _ from engine.run_project bindings reachable tree view (.record typeName fields)]
  simp only [alike] at alone ⊢
  refine (Projector.project_overlaid quiet staged tabled ordered listed held whole alone).cases.imp_right ?_
  rintro ⟨_, succeeded, entries, rfl, shown⟩
  exact ⟨entries, succeeded, shown⟩

/-- Orders have a number of their own, and show the fields of one more property in its place. -/
private def numbering (unwrapped : String) : Engine :=
  let order : Schema := ⟨"Order", [⟨"id", none, [], false⟩, ⟨unwrapped, none, [], true⟩]⟩
  ⟨.standard, .empty, (Catalog.ofSettings .standard).register order, .ofSpec .standard⟩

private def billTable : ViewTable :=
  ⟨"Order", [("base", ["bill", "id"])], ["bill"], [("bill", "bill"), ("id", "id")]⟩

private def parentTable : ViewTable :=
  ⟨"Order", [("base", ["id", "parent"])], ["parent"], [("id", "id"), ("parent", "parent")]⟩

private def billed : Entries Value :=
  [("bill", .object [("id", .integer 4), ("sum", .integer 7)]), ("id", .integer 9)]

private def nested : Entries Value := [("id", .integer 9), ("parent", .object [("id", .integer 4)])]

private def number : Tree := ⟨"id", [.named (.exact "id") .start]⟩

/-- All fields, and then the number of all that is left. -/
private def numberOfAll : Tree :=
  ⟨"*|id", [.named .anyShallow .start, { Selector.named (.exact "id") ⟨1, 3⟩ with stage := 1 }]⟩

private theorem numberOfAll_of_bill :
    ((numbering "bill").run
      (((numbering "bill").projector none).project numberOfAll "base" (.record "Order" billed))).1 =
        .ok (.object [("id", .integer 9)]) := by
  rw [run_project _ _ (.register (.ofSettings _) _)]
  rfl

private theorem number_of_parent :
    ((numbering "parent").run
      (((numbering "parent").projector none).project number "base" (.record "Order" nested))).1 =
        .ok (.object [("id", .integer 4)]) := by
  rw [run_project _ _ (.register (.ofSettings _) _)]
  rfl

theorem project_own_field_of_bill :
    let engine := numbering "bill"
    let record : Value := .record "Order" billed
    engine.catalog.Reachable ∧ FieldSelect.compile "*|id" = .ok numberOfAll ∧
      Selector.allQuiet numberOfAll.selectors = true ∧ engine.catalog.build "Order" = .ok billTable ∧ record.Ordered ∧
      billTable.Lists "base" (numberOfAll.stage 0) "id" ∧ billTable.held? billed "id" = some (.integer 9) ∧
      billTable.isUnwrapped "id" = false ∧
      engine.ShowsAlone none numberOfAll "base" ⟨"id", .integer 9, false⟩ (.integer 9) ∧
      ∃ entries, (engine.run ((engine.projector none).project numberOfAll "base" record)).1 = .ok (.object entries) ∧
        Entries.find? "id" entries = some (.integer 9) := by
  intro engine record
  have reachable : engine.catalog.Reachable := .register (.ofSettings _) _
  have compiled : FieldSelect.compile "*|id" = .ok numberOfAll := by cbv
  have tabled : engine.catalog.build "Order" = .ok billTable := by decide
  have bill : (Value.object [("id", .integer 4), ("sum", .integer 7)]).Ordered :=
    .object (by decide) (List.forall_mem_cons.mpr ⟨.scalar rfl, List.forall_mem_singleton.mpr (.scalar rfl)⟩)
  have ordered : record.Ordered :=
    .record (by decide) (List.forall_mem_cons.mpr ⟨bill, List.forall_mem_singleton.mpr (.scalar rfl)⟩)
  have listed : billTable.Lists "base" (numberOfAll.stage 0) "id" := .inl (by decide)
  have alone : engine.ShowsAlone none numberOfAll "base" ⟨"id", .integer 9, false⟩ (.integer 9) :=
    (engine.showsAlone_iff_over reachable none numberOfAll "base" _ _).mpr ⟨[("id", .integer 9)], rfl, rfl⟩
  refine ⟨reachable, compiled, rfl, tabled, ordered, listed, rfl, by decide, alone, ?_⟩
  rcases project_own_field engine reachable none compiled rfl tabled ordered listed rfl (by decide) alone with
    ⟨_, failed, _⟩ | ⟨entries, succeeded, ⟨found, _⟩ | ⟨_, _, ⟨other, less, inside, _⟩, _⟩⟩
  · cases numberOfAll_of_bill.symm.trans failed
  · exact ⟨entries, succeeded, found⟩
  · have listed : other ∈ ["bill", "id"] := inside.elim id fun named => absurd named List.not_mem_nil
    rcases List.mem_cons.mp listed with rfl | same
    · exact absurd less (by decide)
    · exact absurd (List.mem_singleton.mp same ▸ less) (by decide)

/-- The number of an order is overlaid by that of its parent. -/
theorem project_own_field_overlaid_by_parent :
    let engine := numbering "parent"
    FieldSelect.compile "id" = .ok number ∧ Selector.allQuiet number.selectors = true ∧
      engine.catalog.build "Order" = .ok parentTable ∧ parentTable.Lists "base" (number.stage 0) "id" ∧
      parentTable.held? nested "id" = some (.integer 9) ∧ parentTable.isUnwrapped "id" = false ∧
      engine.ShowsAlone none number "base" ⟨"id", .integer 9, false⟩ (.integer 9) ∧
      (engine.run ((engine.projector none).project number "base" (.record "Order" nested))).1 =
        .ok (.object [("id", .integer 4)]) := by
  intro engine
  have compiled : FieldSelect.compile "id" = .ok number := by cbv
  have tabled : engine.catalog.build "Order" = .ok parentTable := by decide
  have alone : engine.ShowsAlone none number "base" ⟨"id", .integer 9, false⟩ (.integer 9) :=
    (engine.showsAlone_iff_over (.register (.ofSettings _) _) none number "base" _ _).mpr
      ⟨[("id", .integer 9)], rfl, rfl⟩
  exact ⟨compiled, rfl, tabled, .inl (by decide), rfl, by decide, alone, number_of_parent⟩

end Engine
end FieldSelect
