import FieldSelect.Proofs.Projection.Levels
import FieldSelect.Proofs.Projection.Simulation

/-! What a projection gives does not depend on the fields that its views leave out. -/
namespace FieldSelect
open Projection

namespace Selector

/-- An exact name that is not negated can stand for a view. -/
def ownView : Name → Bool → List String
  | .exact view, false => [view]
  | _, _ => []

mutual

/-- The names that can stand for views in a selector or below it. -/
def viewNames : Selector → List String
  | ⟨_, name, children, _, _, _, negated, _, _, _, _, _⟩ => ownView name negated ++ allViewNames children

def allViewNames : List Selector → List String
  | [] => []
  | selector :: rest => selector.viewNames ++ allViewNames rest

end

theorem mem_allViewNames {view : String} {selectors : List Selector} :
    view ∈ allViewNames selectors ↔ ∃ selector ∈ selectors, view ∈ selector.viewNames := by
  induction selectors with
  | nil => simp [allViewNames]
  | cons selector rest ih => simp [allViewNames, ih]

theorem viewNames_eq (selector : Selector) :
    selector.viewNames = ownView selector.name selector.negated ++ allViewNames selector.children := by
  cases selector
  rw [viewNames]

theorem mem_viewNames_of_children {view : String} {selector child : Selector} (member : child ∈ selector.children)
    (named : view ∈ child.viewNames) : view ∈ selector.viewNames := by
  rw [viewNames_eq]
  exact List.mem_append_right _ (mem_allViewNames.mpr ⟨child, member, named⟩)

theorem mem_viewNames_of_exact {view : String} {selector : Selector} (name : selector.name = .exact view)
    (kept : selector.negated = false) : view ∈ selector.viewNames := by
  rw [viewNames_eq, name, kept]
  exact List.mem_append_left _ List.mem_cons_self

end Selector

/-- The views that a projection under `view` can show: that view, the base view of whatever is kept as a
whole, and every view that the filter names. -/
def Tree.shownViews (tree : Tree) (view : String) : List String :=
  view :: baseView :: Selector.allViewNames tree.selectors

namespace ViewTable

/-- One of the views has a property that holds the field. -/
def Shows (table : ViewTable) (views : List String) (declared : String) : Prop :=
  ∃ view ∈ views, ∃ external ∈ table.propertiesIn view, table.declaredName? external = some declared

theorem mem_propertiesNamed {table : ViewTable} {selectors : List Selector} {external : String}
    (member : external ∈ table.propertiesNamed selectors) :
    ∃ selector ∈ selectors, ∃ view ∈ selector.viewNames, external ∈ table.propertiesIn view := by
  have named : ∀ views : List String,
      external ∈ views.foldr (fun view names => NameSet.union (table.propertiesIn view) names) [] →
        ∃ view ∈ views, external ∈ table.propertiesIn view := by
    intro views inside
    induction views with
    | nil => cases inside
    | cons view rest ih =>
      rcases NameSet.mem_union.mp inside with first | later
      · exact ⟨view, List.mem_cons_self, first⟩
      · obtain ⟨other, present, inside⟩ := ih later
        exact ⟨other, List.mem_cons_of_mem _ present, inside⟩
  obtain ⟨view, present, inside⟩ := named _ member
  obtain ⟨selector, present, named⟩ := List.mem_filterMap.mp present
  refine ⟨selector, present, view, ?_, inside⟩
  rw [namedView?] at named
  split at named
  · rename_i name exact
    split at named
    · rename_i kept
      cases named
      rw [Bool.and_eq_true, Bool.not_eq_true'] at kept
      exact Selector.mem_viewNames_of_exact exact kept.1
    · cases named
  · cases named

end ViewTable

/-- Two values that differ at most in fields of records that none of the views shows. Of a record without
a table all fields count. -/
inductive SameShown (tableOf : String → Except SchemaError ViewTable) (views : List String) :
    Value → Value → Prop where
  | same (value : Value) : SameShown tableOf views value value
  | array {items others : List Value} (paired : List.Forall₂ (SameShown tableOf views) items others) :
      SameShown tableOf views (.array items) (.array others)
  | object {entries others : Entries Value} (keys : Entries.keys entries = Entries.keys others)
      (paired : List.Forall₂ (SameShown tableOf views) (Entries.values entries) (Entries.values others)) :
      SameShown tableOf views (.object entries) (.object others)
  | untabled {typeName : String} {fields others : Entries Value}
      (untabled : ∀ table, tableOf typeName ≠ .ok table) (keys : Entries.keys fields = Entries.keys others)
      (paired : List.Forall₂ (SameShown tableOf views) (Entries.values fields) (Entries.values others)) :
      SameShown tableOf views (.record typeName fields) (.record typeName others)
  | record {typeName : String} {fields others : Entries Value} {table : ViewTable}
      (tabled : tableOf typeName = .ok table)
      (shown : ∀ declared, table.Shows views declared →
        Option.Rel (SameShown tableOf views) (Entries.find? declared fields) (Entries.find? declared others)) :
      SameShown tableOf views (.record typeName fields) (.record typeName others)

/-- The frontier names no view beyond the given ones. -/
def Frontier.NamesWithin (frontier : Frontier) (views : List String) : Prop :=
  ∀ selector ∈ frontier.selectors, ∀ view ∈ selector.viewNames, view ∈ views

theorem Frontier.LeadsTo.namesWithin {frontier lower : Frontier} {views : List String}
    (leads : frontier.LeadsTo lower) (within : frontier.NamesWithin views) : lower.NamesWithin views :=
  leads.forall_mem
    (fun _ own _ child view named => own view (Selector.mem_viewNames_of_children child named)) within

namespace SameShown
variable {tableOf : String → Except SchemaError ViewTable} {views : List String} {levels : Nat}
  {projector : Projector Id}

section Inversion
variable {typeName : String} {fields others : Entries Value} {value : Value}

theorem of_array {items : List Value} (same : SameShown tableOf views (.array items) value) :
    ∃ others, value = .array others ∧ List.Forall₂ (SameShown tableOf views) items others := by
  cases same with
  | same => exact ⟨items, rfl, List.forall₂_same.mpr fun value _ => .same value⟩
  | array paired => exact ⟨_, rfl, paired⟩

theorem of_object {entries : Entries Value} (same : SameShown tableOf views (.object entries) value) :
    ∃ others, value = .object others ∧ Entries.keys entries = Entries.keys others ∧
      List.Forall₂ (SameShown tableOf views) (Entries.values entries) (Entries.values others) := by
  cases same with
  | same => exact ⟨entries, rfl, rfl, List.forall₂_same.mpr fun value _ => .same value⟩
  | object keys paired => exact ⟨_, rfl, keys, paired⟩

theorem of_record (same : SameShown tableOf views (.record typeName fields) value) :
    ∃ others, value = .record typeName others := by
  cases same with
  | same => exact ⟨fields, rfl⟩
  | untabled => exact ⟨_, rfl⟩
  | record => exact ⟨_, rfl⟩

theorem of_tabled {table : ViewTable}
    (same : SameShown tableOf views (.record typeName fields) (.record typeName others))
    (tabled : tableOf typeName = .ok table) {declared : String} (shows : table.Shows views declared) :
    Option.Rel (SameShown tableOf views) (Entries.find? declared fields) (Entries.find? declared others) := by
  cases same with
  | same =>
    cases Entries.find? declared fields with
    | none => exact .none
    | some value => exact .some (.same value)
  | untabled untabled => exact absurd tabled (untabled table)
  | record tabled' shown =>
    cases tabled.symm.trans tabled'
    exact shown declared shows

theorem of_untabled (same : SameShown tableOf views (.record typeName fields) (.record typeName others))
    (untabled : ∀ table, tableOf typeName ≠ .ok table) :
    Entries.keys fields = Entries.keys others ∧
      List.Forall₂ (SameShown tableOf views) (Entries.values fields) (Entries.values others) := by
  cases same with
  | same => exact ⟨rfl, List.forall₂_same.mpr fun value _ => .same value⟩
  | untabled _ keys paired => exact ⟨keys, paired⟩
  | record tabled => exact absurd tabled (untabled _)

end Inversion

/-- Two such values that the levels are enough for. -/
def Within (tableOf : String → Except SchemaError ViewTable) (views : List String) (levels : Nat)
    (value other : Value) : Prop :=
  SameShown tableOf views value other ∧ value.height ≤ levels ∧ other.height ≤ levels

theorem within_items {items others : List Value} (paired : List.Forall₂ (SameShown tableOf views) items others)
    (low : Value.heightItems items ≤ levels) (low' : Value.heightItems others ≤ levels) :
    List.Forall₂ (Within tableOf views levels) items others := by
  induction paired with
  | nil => exact .nil
  | cons same _ ih =>
    rw [Value.heightItems] at low low'
    exact .cons ⟨same, by omega, by omega⟩ (ih (by omega) (by omega))

theorem within_entries {entries others : Entries Value} (keys : Entries.keys entries = Entries.keys others)
    (paired : List.Forall₂ (SameShown tableOf views) (Entries.values entries) (Entries.values others))
    (low : Value.heightEntries entries ≤ levels) (low' : Value.heightEntries others ≤ levels) :
    List.Forall₂ (Entries.Agree (Within tableOf views levels)) entries others := by
  induction entries generalizing others with
  | nil =>
    cases others with
    | nil => exact .nil
    | cons => cases keys
  | cons entry rest ih =>
    cases others with
    | nil => cases keys
    | cons other others =>
      simp only [Entries.keys, Entries.values, List.map_cons, List.cons.injEq, List.forall₂_cons] at keys paired
      obtain ⟨key, value⟩ := entry
      obtain ⟨key', value'⟩ := other
      rw [Value.heightEntries] at low low'
      have first : Within tableOf views levels value value' := ⟨paired.1, by omega, by omega⟩
      exact .cons ⟨keys.1, first⟩ (ih keys.2 paired.2 (by omega) (by omega))

theorem within_found {declared : String} {fields others : Entries Value}
    (held : Option.Rel (SameShown tableOf views) (Entries.find? declared fields) (Entries.find? declared others))
    (low : Value.heightEntries fields ≤ levels) (low' : Value.heightEntries others ≤ levels) :
    Option.Rel (Within tableOf views levels) (Entries.find? declared fields) (Entries.find? declared others) := by
  generalize found : Entries.find? declared fields = first at held ⊢
  generalize found' : Entries.find? declared others = second at held ⊢
  cases held with
  | none => exact .none
  | some same =>
    have below := Value.height_le_of_mem_entries (Entries.mem_of_find? found)
    have below' := Value.height_le_of_mem_entries (Entries.mem_of_find? found')
    exact .some ⟨same, by omega, by omega⟩

theorem shell {value other : Value} (within : Within tableOf views levels value other) :
    value.shell = other.shell := by
  induction levels generalizing value other with
  | zero =>
    obtain ⟨same, low, _⟩ := within
    cases same <;> first | rfl | (rw [Value.height] at low; omega)
  | succ levels ih =>
    obtain ⟨same, low, low'⟩ := within
    cases same with
    | array paired =>
      rw [Value.height] at low low'
      have within := within_items paired (Nat.le_of_succ_le_succ low) (Nat.le_of_succ_le_succ low')
      rw [Value.shell, Value.shell]
      clear low low' paired
      induction within with
      | nil => rfl
      | cons first _ rest =>
        rw [Value.shellItems, Value.shellItems, ih first, Value.array.inj rest]
    | _ => rfl

/-- Two such records open into offers that agree. -/
def Opens (tableOf : String → Except SchemaError ViewTable) (views : List String) (levels : Nat)
    (inner : String → Entries Value → Projection Id (List Offer)) : Prop :=
  ∀ typeName fields others, SameShown tableOf views (.record typeName fields) (.record typeName others) →
    Value.heightEntries fields ≤ levels → Value.heightEntries others ≤ levels →
      Alike (List.Forall₂ (Offer.Agree (Within tableOf views levels))) (inner typeName fields) (inner typeName others)

theorem Opens.splice {inner : String → Entries Value → Projection Id (List Offer)}
    (opens : Opens tableOf views levels inner) (byView : Bool) {value other : Value}
    (within : Within tableOf views levels value other) :
    Alike (List.Forall₂ (Offer.Agree (Within tableOf views levels))) (Projector.splice inner byView value)
      (Projector.splice inner byView other) := by
  obtain ⟨same, low, low'⟩ := within
  cases value with
  | object entries =>
    obtain ⟨others, rfl, keys, paired⟩ := of_object same
    rw [Value.height] at low low'
    exact .pure (Entries.Agree.offers (within_entries keys paired (by omega) (by omega)) byView)
  | record typeName fields =>
    obtain ⟨others, rfl⟩ := of_record same
    rw [Value.height] at low low'
    refine (opens typeName fields others same (by omega) (by omega)).bind fun offers others agree => .pure ?_
    rw [List.forall₂_map_left_iff, List.forall₂_map_right_iff]
    exact agree.imp fun offer other agree => ⟨agree.name, agree.value, by rw [agree.byView]⟩
  | _ => cases same <;> exact .pure .nil

variable (tables : ∀ typeName, projector.tableOf typeName = tableOf typeName) {view : String} (active : view ∈ views)
  {selectors : List Selector} (named : ∀ selector ∈ selectors, ∀ view ∈ selector.viewNames, view ∈ views)

include tables active named

/-- Only properties of the given views are offered. -/
theorem Opens.offersWith {inner : String → Entries Value → Projection Id (List Offer)}
    (opens : Opens tableOf views levels inner) :
    Opens tableOf views levels (projector.offersWith view selectors inner) := by
  intro typeName fields others same low low'
  refine Projector.offersWith_alike (fun byView value other => opens.splice byView) ?_ ?_
  · intro table tabled external member
    rw [tables] at tabled
    have visible : ∃ view ∈ views, external ∈ table.propertiesIn view := by
      rcases NameSet.mem_union.mp member with inView | inNamed
      · exact ⟨view, active, inView⟩
      · obtain ⟨selector, present, view, own, inside⟩ := ViewTable.mem_propertiesNamed inNamed
        exact ⟨view, named selector present view own, inside⟩
    rw [ViewTable.held?, ViewTable.held?]
    cases declaredAs : table.declaredName? external with
    | none => exact .none
    | some declared =>
      obtain ⟨view, shown, inside⟩ := visible
      exact within_found (of_tabled same tabled ⟨view, shown, external, inside, declaredAs⟩) low low'
  · intro untabled
    obtain ⟨keys, paired⟩ := of_untabled same fun table => tables typeName ▸ untabled table
    exact within_entries keys paired low low'

theorem opens_recordOffers (depth : Nat) :
    Opens tableOf views levels (projector.recordOffers view selectors depth) := by
  induction depth with
  | zero => exact Opens.offersWith tables active named fun _ _ _ _ _ _ => .pure .nil
  | succ depth ih => exact Opens.offersWith tables active named ih

end SameShown

open SameShown

namespace Projector
variable {tableOf : String → Except SchemaError ViewTable} {views : List String} {projector : Projector Id}
  (tables : ∀ typeName, projector.tableOf typeName = tableOf typeName) {view : String}

include tables

theorem wholeWithin_shown (base : baseView ∈ views) (levels : Nat) :
    WholeAgrees projector (Within tableOf views levels) levels levels := by
  rintro value other ⟨same, low, low'⟩
  induction levels generalizing value other with
  | zero => cases same <;> first | rfl | (rw [Value.height] at low; omega)
  | succ levels ih =>
    have agrees : WholeAgrees projector (Within tableOf views levels) levels levels :=
      fun value other within => ih value other within.1 within.2.1 within.2.2
    cases value with
    | array items =>
      obtain ⟨others, rfl, paired⟩ := of_array same
      rw [Value.height] at low low'
      exact whole_array_congr agrees (within_items paired (by omega) (by omega))
    | object entries =>
      obtain ⟨others, rfl, keys, paired⟩ := of_object same
      rw [Value.height] at low low'
      exact whole_object_congr agrees (within_entries keys paired (by omega) (by omega))
    | record typeName fields =>
      obtain ⟨others, rfl⟩ := of_record same
      rw [Value.height] at low low'
      refine whole_record_congr agrees ?_
      exact opens_recordOffers tables base (by simp) levels typeName fields others same (by omega) (by omega)
    | _ => cases same; rfl

theorem projectWithin_shown (active : view ∈ views) (base : baseView ∈ views) {levels : Nat} {value other : Value}
    (within : Within tableOf views levels value other) {frontier : Frontier} (names : frontier.NamesWithin views) :
    projector.projectWithin view levels value frontier = projector.projectWithin view levels other frontier := by
  obtain ⟨same, low, low'⟩ := within
  induction levels generalizing value other frontier with
  | zero => cases same <;> first | rfl | (rw [Value.height] at low; omega)
  | succ levels ih =>
    have levelled : Levelled projector (Within tableOf views levels) levels levels
        (projector.projectWithin view levels) (projector.projectWithin view levels) frontier :=
      ⟨fun _ _ => SameShown.shell, wholeWithin_shown tables base levels,
        fun lower leads _ _ within => ih (leads.namesWithin names) within.1 within.2.1 within.2.2⟩
    cases value with
    | array items =>
      obtain ⟨others, rfl, paired⟩ := of_array same
      rw [Value.height] at low low'
      have within := within_items paired (Nat.le_of_succ_le_succ low) (Nat.le_of_succ_le_succ low')
      rw [projectWithin, projectWithin, mapM_congr within fun _ _ within => ih names within.1 within.2.1 within.2.2]
    | object entries =>
      obtain ⟨others, rfl, keys, paired⟩ := of_object same
      rw [Value.height] at low low'
      exact fields_congr levelled
        (Entries.Agree.offers (within_entries keys paired (by omega) (by omega)) false)
    | record typeName fields =>
      obtain ⟨others, rfl⟩ := of_record same
      rw [Value.height] at low low'
      rw [projectWithin, projectWithin]
      have explicit : ∀ selector ∈ frontier.explicit, ∀ view ∈ selector.viewNames, view ∈ views :=
        fun selector member => names selector (List.mem_append_left _ member)
      have opens : Opens tableOf views levels (projector.recordOffers view frontier.explicit levels) :=
        opens_recordOffers tables active explicit levels
      exact (opens typeName fields others same (by omega) (by omega)).bind_congr fun offers others agree =>
        fields_congr levelled agree
    | _ => cases same; rfl

theorem projectStage_shown {tree : Tree} {value other : Value} {stage : Nat}
    (same : SameShown tableOf (tree.shownViews view) value other) :
    projector.projectStage tree view value stage = projector.projectStage tree view other stage := by
  have active : view ∈ tree.shownViews view := List.mem_cons_self
  have base : baseView ∈ tree.shownViews view := List.mem_cons_of_mem _ List.mem_cons_self
  have names : (Frontier.top (tree.stage stage)).NamesWithin (tree.shownViews view) := by
    intro selector member name named
    have present : selector ∈ tree.selectors := Frontier.mem_of_mem_top member
    exact List.mem_cons_of_mem _ (List.mem_cons_of_mem _ (Selector.mem_allViewNames.mpr ⟨selector, present, named⟩))
  calc projector.projectStage tree view value stage
      = projector.projectWithin view (max value.height other.height) value (.top (tree.stage stage)) :=
        projectWithin_levels (Nat.le_refl _) (Nat.le_max_left ..) _
    _ = projector.projectWithin view (max value.height other.height) other (.top (tree.stage stage)) :=
        projectWithin_shown tables active base ⟨same, Nat.le_max_left .., Nat.le_max_right ..⟩ names
    _ = projector.projectStage tree view other stage :=
        projectWithin_levels (Nat.le_max_right ..) (Nat.le_refl _) _

theorem whole_shown (base : baseView ∈ views) {value other : Value} (same : SameShown tableOf views value other) :
    projector.whole value = projector.whole other := by
  rw [whole_eq_wholeWithin (Nat.le_max_left value.height other.height),
    whole_eq_wholeWithin (Nat.le_max_right value.height other.height)]
  exact wholeWithin_shown tables base _ value other ⟨same, Nat.le_max_left .., Nat.le_max_right ..⟩

/-- The first stage makes two such values the same, and all others start from there. -/
theorem project_shown {tree : Tree} {value other : Value}
    (same : SameShown tableOf (tree.shownViews view) value other) :
    projector.project tree view value = projector.project tree view other := by
  rw [project, project]
  split
  · exact whole_shown tables (List.mem_cons_of_mem _ List.mem_cons_self) same
  · rename_i nonempty
    obtain ⟨count, counted⟩ := Nat.exists_eq_succ_of_ne_zero nonempty
    rw [counted, List.range_succ_eq_map, List.foldlM_cons, List.foldlM_cons, projectStage_shown tables same]

end Projector

namespace Engine

/-- Two values that differ only in hidden fields come out the same, or fail with the same error. -/
theorem project_eq_of_sameShown (engine : Engine) (reachable : engine.catalog.Reachable)
    (bindings : Option Bindings) (tree : Tree) (view : String) {value other : Value}
    (same : SameShown engine.catalog.build (tree.shownViews view) value other) :
    (engine.run ((engine.projector bindings).project tree view value)).1 =
      (engine.run ((engine.projector bindings).project tree view other)).1 := by
  rw [engine.run_project bindings reachable, engine.run_project bindings reachable]
  exact congrArg ExceptT.run (Projector.project_shown (fun _ => rfl) same)

/-- Accounts have a name and a secret that only administrators see. -/
private def accounts : Catalog :=
  (Catalog.ofSettings .standard).register
    ⟨"Account", [⟨"name", none, [], false⟩, ⟨"secret", none, ["admin"], false⟩]⟩

private def accountTable : ViewTable :=
  ⟨"Account", [("admin", ["name", "secret"]), ("base", ["name"])], [], [("name", "name"), ("secret", "secret")]⟩

private def account (secret : Int64) : Value :=
  .record "Account" [("name", .string "a"), ("secret", .integer secret)]

theorem project_eq_of_hidden_secret :
    let engine : Engine := ⟨.standard, .empty, accounts, .ofSpec .standard⟩
    let tree : Tree := ⟨"**", [.named .anyDeep .start]⟩
    accounts.Reachable ∧ SameShown accounts.build (tree.shownViews "user") (account 1) (account 2) ∧
      (engine.run ((engine.projector none).project tree "user" (account 1))).1 =
        (engine.run ((engine.projector none).project tree "user" (account 2))).1 := by
  intro engine tree
  have reachable : accounts.Reachable := .register (.ofSettings _) _
  have tabled : accounts.build "Account" = .ok accountTable := by decide
  have public_ : ∀ view ∈ ["user", "base"], ∀ external ∈ accountTable.propertiesIn view,
      accountTable.declaredName? external = some "name" := by decide
  have same : SameShown accounts.build (tree.shownViews "user") (account 1) (account 2) := by
    refine .record tabled ?_
    rintro declared ⟨view, shown, external, inside, declaredAs⟩
    cases (public_ view shown external inside).symm.trans declaredAs
    exact .some (.same (.string "a"))
  exact ⟨reachable, same, engine.project_eq_of_sameShown reachable none tree "user" same⟩

end Engine
end FieldSelect
