import FieldSelect.Function.Core
import FieldSelect.Proofs.Function.Registration
import FieldSelect.Proofs.Value.Prune
import FieldSelect.Proofs.Yields

/-! Functions that make no records of what holds none. The core functions are such functions. -/
namespace FieldSelect
open Value

/-- Given no record, the function gives none. -/
def Body.FreesRecords (body : Body) : Prop :=
  ∀ input arguments, input.RecordFree → (∀ argument ∈ arguments, argument.RecordFree) →
    Returns RecordFree (body input arguments)

/-- All functions of the registry are such functions. -/
def Registry.FreesRecords (registry : Registry) : Prop :=
  ∀ name set, registry.overloads? name = some set → ∀ overload ∈ set.definitions, overload.invoke.FreesRecords

namespace Registry
variable {registry : Registry}

/-! ### Functions found for a call -/

theorem FreesRecords.resolve (frees : registry.FreesRecords) {call : Call} {input : Value} {arguments : List Value}
    {overload : Overload} (resolved : registry.resolve call input arguments = .ok overload) :
    overload.invoke.FreesRecords := by
  rw [Registry.resolve] at resolved
  split at resolved
  · cases resolved
  · rename_i set found
    split at resolved
    · rename_i best
      cases resolved
      exact frees call.name set found overload (OverloadSet.resolve?_eq_some_iff.mp best).mem
    · cases resolved

/-! ### Functions that are registered -/

theorem freesRecords_empty : Registry.empty.FreesRecords := nofun

theorem FreesRecords.add (frees : registry.FreesRecords) (name : String) {overload : Overload}
    (own : overload.invoke.FreesRecords) : (registry.add name overload).FreesRecords := by
  intro wanted set found other member
  by_cases same : wanted = name
  · subst same
    have all := registry.overloads?_add_self wanted overload
    rw [found, Option.map_some, Option.some.injEq] at all
    rw [all] at member
    rcases List.mem_append.mp member with before | last
    · cases present : registry.overloads? wanted with
      | none => simp [present] at before
      | some existing =>
        rw [present] at before
        exact frees wanted existing present other before
    · rw [List.mem_singleton.mp last]
      exact own
  · rw [overloads?_add_of_ne same] at found
    exact frees wanted set found other member

theorem FreesRecords.addAll (frees : registry.FreesRecords) {writes : List (String × Overload)}
    (all : ∀ write ∈ writes, write.2.invoke.FreesRecords) : (registry.addAll writes).FreesRecords := by
  induction writes generalizing registry with
  | nil => exact frees
  | cons write rest ih =>
    obtain ⟨own, others⟩ := List.forall_mem_cons.mp all
    exact ih (frees.add write.1 own) others

/-- A module of such functions keeps a registry one of such functions, whichever of them are selected. -/
theorem FreesRecords.registerModule (frees : registry.FreesRecords) {candidates : List Candidate}
    (all : ∀ candidate ∈ candidates, candidate.overload.invoke.FreesRecords) (strategy : Strategy) :
    (registry.registerModule candidates strategy).1.FreesRecords := by
  have written : (registry.registerModule candidates strategy).1 =
      registry.addAll (Registration.offers candidates strategy).writes :=
    congrArg Prod.snd (perform_eq registry (.offers candidates strategy))
  rw [written]
  refine frees.addAll fun write member => ?_
  obtain ⟨candidate, selected, member⟩ := List.mem_flatMap.mp member
  obtain ⟨_, _, rfl⟩ := List.mem_map.mp member
  exact all candidate (List.mem_filter.mp selected).1

end Registry

/-! ### Core functions -/

namespace Core

/-- Most functions give a value without parts. -/
theorem freesRecords_of_flat {body : Body}
    (flat : ∀ input arguments, Returns (fun result => result.height = 0) (body input arguments)) :
    body.FreesRecords :=
  fun input arguments _ _ result given => .scalar (flat input arguments result given)

theorem freesRecords_reverseString : Body.FreesRecords reverseString :=
  freesRecords_of_flat fun _ _ => .after _ fun _ => .ok rfl

theorem freesRecords_upper : Body.FreesRecords upper := freesRecords_of_flat fun _ _ => .after _ fun _ => .ok rfl

theorem freesRecords_lower : Body.FreesRecords lower := freesRecords_of_flat fun _ _ => .after _ fun _ => .ok rfl

theorem freesRecords_trim : Body.FreesRecords trim := freesRecords_of_flat fun _ _ => .after _ fun _ => .ok rfl

theorem freesRecords_substring : Body.FreesRecords substring := by
  refine freesRecords_of_flat fun _ _ => .after _ fun _ => .after _ fun _ => .after _ fun _ => ?_
  dsimp only
  split
  · exact .after _ fun _ => .after _ fun _ => .ok rfl
  · exact .after _ fun _ => .ok rfl

theorem freesRecords_replace : Body.FreesRecords replace := by
  refine freesRecords_of_flat fun _ _ => .after _ fun _ => .after _ fun _ => .after _ fun _ => ?_
  refine .after _ fun _ => .after _ fun _ => ?_
  split
  · exact .error _
  · exact .ok rfl

theorem freesRecords_matchesPattern : Body.FreesRecords matchesPattern := by
  refine freesRecords_of_flat fun _ _ => .after _ fun _ => .after _ fun _ => .after _ fun pattern => ?_
  split
  · exact .ok rfl
  · exact .error _

theorem freesRecords_prepend : Body.FreesRecords prepend :=
  freesRecords_of_flat fun _ _ => .after _ fun _ => .after _ fun _ => .ok rfl

theorem freesRecords_append : Body.FreesRecords append :=
  freesRecords_of_flat fun _ _ => .after _ fun _ => .after _ fun _ => .ok rfl

theorem freesRecords_length : Body.FreesRecords length := by
  refine freesRecords_of_flat fun input _ => ?_
  cases input <;> first | exact .ok rfl | exact .error _

theorem freesRecords_join : Body.FreesRecords join :=
  freesRecords_of_flat fun _ _ => .after _ fun _ => .after _ fun _ => .after _ fun _ => .ok rfl

/-! Pieces and keys are strings. -/

theorem recordFree_strings (texts : List String) : (Value.array (texts.map .string)).RecordFree := by
  apply RecordFree.array
  intro item member
  obtain ⟨text, _, rfl⟩ := List.mem_map.mp member
  exact .scalar rfl

theorem freesRecords_split : Body.FreesRecords split := fun _ _ _ _ =>
  .after _ fun _ => .after _ fun _ => .after _ fun _ => .ok (recordFree_strings _)

theorem freesRecords_keys : Body.FreesRecords keys := fun _ _ _ _ => .after _ fun _ => .ok (recordFree_strings _)

/-! Other functions give parts of what they are given. -/

section Parts
variable {input : Value} {arguments : List Value}

theorem returns_argument (free : ∀ argument ∈ arguments, argument.RecordFree) (index : Nat) :
    Returns RecordFree (argument arguments index) := by
  rw [argument]
  split
  · rename_i found
    exact .ok (free _ (List.mem_of_getElem? found))
  · exact .error _

theorem returns_items (free : input.RecordFree) :
    Returns (fun items => ∀ item ∈ items, item.RecordFree) (array input) := by
  rw [array.eq_def]
  split
  · exact .ok free.of_array
  · exact .error _

theorem returns_values (free : input.RecordFree) :
    Returns (fun entries => ∀ entry ∈ entries, entry.2.RecordFree) (entries input) := by
  rw [entries.eq_def]
  split
  · exact .ok free.of_object
  · cases free with
    | scalar flat => simp [height] at flat
  · exact .error _

/-- An array of some of the items. -/
theorem freesRecords_of_items {body : Body} {pick : List Value → List Value}
    (picks : ∀ input arguments, body input arguments = (do return .array (pick (← array input))))
    (free : ∀ items, (∀ item ∈ items, item.RecordFree) → ∀ item ∈ pick items, item.RecordFree) :
    body.FreesRecords := by
  intro input arguments own _
  rw [picks]
  exact (returns_items own).bind fun items all => .ok (.array (free items all))

theorem freesRecords_reverseArray : Body.FreesRecords reverseArray :=
  freesRecords_of_items (fun _ _ => rfl) fun _ all item member => all item (List.mem_reverse.mp member)

theorem mem_of_mem_place {value item : Value} {placed : List Value} (member : item ∈ place placed value) :
    item = value ∨ item ∈ placed := by
  induction placed with
  | nil => exact .inl (List.mem_singleton.mp member)
  | cons last others ih =>
    rw [place] at member
    split at member
    · rcases List.mem_cons.mp member with rfl | later
      · exact .inr List.mem_cons_self
      · exact (ih later).imp_right (List.mem_cons_of_mem _)
    · exact List.mem_cons.mp member

theorem mem_of_mem_sortValues {values : List Value} {item : Value} (member : item ∈ sortValues values) :
    item ∈ values := by
  rw [sortValues, List.mem_reverse] at member
  induction values using List.reverseRecOn with
  | nil => cases member
  | append_singleton values last ih =>
    rw [List.foldl_append, List.foldl_cons, List.foldl_nil] at member
    rcases mem_of_mem_place member with rfl | earlier
    · exact List.mem_append_right _ (List.mem_singleton_self _)
    · exact List.mem_append_left _ (ih earlier)

theorem freesRecords_sort : Body.FreesRecords sort :=
  freesRecords_of_items (fun _ _ => rfl) fun _ all item member => all item (mem_of_mem_sortValues member)

theorem freesRecords_unique : Body.FreesRecords unique := by
  refine freesRecords_of_items (fun _ _ => rfl) fun items all => ?_
  induction items using List.reverseRecOn with
  | nil => nofun
  | append_singleton items last ih =>
    obtain ⟨earlier, own⟩ := List.forall_mem_append.mp all
    rw [List.foldl_append, List.foldl_cons, List.foldl_nil]
    split
    · exact ih earlier
    · exact List.forall_mem_append.mpr ⟨ih earlier, own⟩

theorem freesRecords_flatten : Body.FreesRecords flatten := by
  refine freesRecords_of_items (fun _ _ => rfl) fun items all item member => ?_
  obtain ⟨outer, present, inside⟩ := List.mem_flatMap.mp member
  split at inside
  · exact (all _ present).of_array item inside
  · rw [List.mem_singleton.mp inside]
    exact all _ present

theorem freesRecords_first : Body.FreesRecords first := fun _ _ free _ =>
  (returns_items free).bind fun items all => .ok <| by
    cases items with
    | nil => exact .scalar rfl
    | cons item rest => exact all item List.mem_cons_self

theorem freesRecords_last : Body.FreesRecords last := fun _ _ free _ =>
  (returns_items free).bind fun items all => .ok <| by
    cases found : items.getLast? with
    | none => exact .scalar rfl
    | some item => exact all item (List.mem_of_getLast? found)

theorem freesRecords_values : Body.FreesRecords values := fun _ _ free _ =>
  (returns_values free).bind fun entries all => .ok <| .array fun item member => by
    obtain ⟨entry, present, rfl⟩ := List.mem_map.mp member
    exact all entry present

theorem freesRecords_defaultForNull : Body.FreesRecords defaultForNull := fun _ _ _ free => returns_argument free 0

theorem freesRecords_defaultForOthers : Body.FreesRecords defaultForOthers := fun _ _ free _ => .ok free

end Parts

theorem freesRecords_candidates : ∀ candidate ∈ candidates, candidate.overload.invoke.FreesRecords := by
  simp only [candidates, offer, List.forall_mem_cons, freesRecords_reverseString, freesRecords_upper,
    freesRecords_lower, freesRecords_trim, freesRecords_split, freesRecords_substring, freesRecords_replace,
    freesRecords_matchesPattern, freesRecords_prepend, freesRecords_append, freesRecords_length,
    freesRecords_reverseArray, freesRecords_first, freesRecords_last, freesRecords_sort, freesRecords_unique,
    freesRecords_flatten, freesRecords_join, freesRecords_keys, freesRecords_values, freesRecords_defaultForNull,
    freesRecords_defaultForOthers, List.not_mem_nil, true_and, false_implies, implies_true]

end Core

/-- None of the core functions makes records. -/
theorem Registry.freesRecords_core : Registry.core.FreesRecords :=
  freesRecords_empty.registerModule Core.freesRecords_candidates .auto

end FieldSelect
