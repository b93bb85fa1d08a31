import FieldSelect.Proofs.Entries
import FieldSelect.Proofs.Function.BestFit

/-! What a registry holds is what was registered. Each registration writes functions under names, and the functions
under a name are those that were ever written under it, in the order of the writes. -/
namespace FieldSelect

/-- One use of a registry before it answers calls. -/
inductive Registration where
  | functions (overloads : List Overload)
  | offers (candidates : List Candidate) (strategy : Strategy)

namespace Candidate

/-- It is not ignored, and it is exported where that is asked for. -/
def Qualifies (candidate : Candidate) (strategy : Strategy) : Prop :=
  candidate.ignored = false ∧ (strategy = .explicit → candidate.exported = true)

instance (candidate : Candidate) (strategy : Strategy) : Decidable (candidate.Qualifies strategy) :=
  inferInstanceAs (Decidable (_ ∧ _))

theorem isSelected_eq (strategy : Strategy) :
    (isSelected · strategy) = fun candidate => decide (candidate.Qualifies strategy) := by
  funext candidate
  rw [Bool.eq_iff_iff, decide_eq_true_iff, Qualifies]
  cases strategy with
  | auto => simp [isSelected]
  | explicit => simp [isSelected, and_comm]

/-- Under the other names in their order, and under the own name last. -/
def writes (candidate : Candidate) : List (String × Overload) :=
  (candidate.aliases ++ [candidate.overload.name]).map fun name => (name, candidate.overload)

end Candidate

namespace Registration

/-- Which function is written under which name. -/
def writes : Registration → List (String × Overload)
  | .functions overloads => overloads.map fun overload => (overload.name, overload)
  | .offers candidates strategy => (candidates.filter (·.Qualifies strategy)).flatMap Candidate.writes

/-- For a module, how many of its functions qualify. -/
def answer : Registration → Option Nat
  | .functions _ => none
  | .offers candidates strategy => some (candidates.countP (·.Qualifies strategy))

/-- All that was written under a name, in the order of the writes. -/
def under (log : List (String × Overload)) (name : String) : List Overload :=
  (log.filter (·.1 = name)).map (·.2)

/-- All writes of registrations one after the other. -/
def log (registrations : List Registration) : List (String × Overload) := registrations.flatMap writes

theorem under_concat_self (log : List (String × Overload)) (name : String) (overload : Overload) :
    under (log ++ [(name, overload)]) name = under log name ++ [overload] := by
  simp [under, List.filter_append]

theorem under_concat_of_ne {name wanted : String} (different : wanted ≠ name) (log : List (String × Overload))
    (overload : Overload) : under (log ++ [(name, overload)]) wanted = under log wanted := by
  simp [under, List.filter_append, different.symm]

end Registration
open Registration

namespace OverloadSet

/-- One function is a set of its own kind, and a set is never empty. -/
def ofList? : List Overload → Option OverloadSet
  | [] => none
  | [only] => some (.single only)
  | all => some (.many all)

/-- A further function, whether or not there is one already. -/
theorem ofList?_concat (overloads : List Overload) (overload : Overload) :
    ofList? (overloads ++ [overload]) =
      some (match ofList? overloads with
        | some existing => existing.push overload
        | none => .single overload) := by
  match overloads with
  | [] => rfl
  | [_] => rfl
  | _ :: _ :: _ => rfl

theorem ofList?_eq_none_iff {overloads : List Overload} : ofList? overloads = none ↔ overloads = [] := by
  match overloads with
  | [] => simp [ofList?]
  | [_] => simp [ofList?]
  | _ :: _ :: _ => simp [ofList?]

theorem ofList?_eq_single_iff {overloads : List Overload} {only : Overload} :
    ofList? overloads = some (.single only) ↔ overloads = [only] := by
  match overloads with
  | [] => simp [ofList?]
  | [_] => simp [ofList?]
  | _ :: _ :: _ => simp [ofList?]

theorem ofList?_eq_many_iff {overloads all : List Overload} :
    ofList? overloads = some (.many all) ↔ overloads = all ∧ 2 ≤ all.length := by
  match overloads with
  | [] =>
    refine iff_of_false nofun ?_
    rintro ⟨rfl, long⟩
    exact absurd long (by decide)
  | [_] =>
    refine iff_of_false nofun ?_
    rintro ⟨rfl, long⟩
    exact absurd long (by simp)
  | first :: second :: rest =>
    have same : ofList? (first :: second :: rest) = some (.many (first :: second :: rest)) := rfl
    rw [same, Option.some.injEq, many.injEq]
    refine (and_iff_left_of_imp ?_).symm
    rintro rfl
    exact Nat.le_add_left 2 rest.length

theorem definitions_ofList? (overloads : List Overload) :
    ((ofList? overloads).map definitions).getD [] = overloads := by
  match overloads with
  | [] => rfl
  | [_] => rfl
  | _ :: _ :: _ => rfl

end OverloadSet

namespace Registry
variable {registry : Registry} {log : List (String × Overload)}

/-! ### Registrations as writes -/

def perform (registry : Registry) : Registration → Option Nat × Registry
  | .functions overloads => (none, registry.register overloads)
  | .offers candidates strategy =>
    let (registered, count) := registry.registerModule candidates strategy
    (some count, registered)

/-- The answers to registrations one after the other, and the registry after all of them. -/
def performAll (registry : Registry) : List Registration → List (Option Nat) × Registry
  | [] => ([], registry)
  | registration :: rest =>
    let (answer, registry) := registry.perform registration
    let (answers, registry) := registry.performAll rest
    (answer :: answers, registry)

def addAll (registry : Registry) (writes : List (String × Overload)) : Registry :=
  writes.foldl (fun registry write => registry.add write.1 write.2) registry

theorem addCandidate_eq (registry : Registry) (candidate : Candidate) :
    registry.addCandidate candidate = registry.addAll candidate.writes := by
  rw [addCandidate, addAll, Candidate.writes, List.foldl_map]

theorem perform_eq (registry : Registry) (registration : Registration) :
    registry.perform registration = (registration.answer, registry.addAll registration.writes) := by
  cases registration with
  | functions overloads =>
    rw [perform, register, writes, addAll, List.foldl_map]
    rfl
  | offers candidates strategy =>
    have each : addCandidate = fun registry candidate => registry.addAll candidate.writes :=
      funext₂ addCandidate_eq
    rw [perform, registerModule, answer, writes, addAll, List.foldl_flatMap, List.countP_eq_length_filter, each,
      Candidate.isSelected_eq]
    rfl

theorem performAll_eq (registry : Registry) (registrations : List Registration) :
    registry.performAll registrations =
      (registrations.map Registration.answer, registry.addAll (Registration.log registrations)) := by
  induction registrations generalizing registry with
  | nil => rfl
  | cons registration rest ih =>
    rw [performAll, perform_eq]
    dsimp only
    rw [ih, addAll, addAll, addAll, Registration.log, Registration.log, List.flatMap_cons, List.foldl_append]
    rfl

/-! ### What is written is held -/

/-- Under each name there is what was written under it, and the names are in order. -/
structure Records (registry : Registry) (log : List (String × Overload)) : Prop where
  sets : ∀ name, registry.overloads? name = OverloadSet.ofList? (under log name)
  sorted : registry.functions.Sorted

theorem records_empty : Registry.empty.Records [] := ⟨fun _ => rfl, List.Pairwise.nil⟩

/-- One more write leaves the other names alone, and puts its function behind those of its own name. -/
theorem Records.add (records : registry.Records log) (name : String) (overload : Overload) :
    (registry.add name overload).Records (log ++ [(name, overload)]) := by
  refine ⟨fun wanted => ?_, Entries.sorted_insert records.sorted⟩
  by_cases same : wanted = name
  · subst same
    rw [under_concat_self, OverloadSet.ofList?_concat, ← records.sets]
    exact Entries.find?_insert_self ..
  · rw [under_concat_of_ne same, overloads?_add_of_ne same, records.sets]

theorem Records.addAll (records : registry.Records log) (writes : List (String × Overload)) :
    (registry.addAll writes).Records (log ++ writes) := by
  induction writes generalizing registry log with
  | nil => exact (List.append_nil log).symm ▸ records
  | cons write rest ih =>
    -- The log grows at its end while the writes are taken from their front.
    rw [← List.singleton_append, ← List.append_assoc]
    exact ih (records.add write.1 write.2)

theorem Records.definitions (records : registry.Records log) (name : String) :
    registry.definitions name = under log name := by
  rw [Registry.definitions, records.sets, OverloadSet.definitions_ofList?]

theorem Records.mem_names_iff (records : registry.Records log) {name : String} :
    name ∈ registry.names ↔ under log name ≠ [] := by
  rw [← OverloadSet.ofList?_eq_none_iff.ne, ← records.sets]
  exact Entries.mem_keys_iff

/-- Whatever was registered, a registry holds it and nothing else. Under a name there are the functions that were
written under it, in their order: as one function, as many, or not at all if there are none. The names are those that
something was written under, each once and in order, and a module is answered with how many of its functions
qualified. -/
theorem performAll_records (registrations : List Registration) :
    let log := Registration.log registrations
    let registry := (Registry.empty.performAll registrations).2
    (Registry.empty.performAll registrations).1 = registrations.map Registration.answer ∧
      (∀ name, registry.definitions name = under log name) ∧
      (∀ name only, registry.overloads? name = some (.single only) ↔ under log name = [only]) ∧
      (∀ name all, registry.overloads? name = some (.many all) ↔ under log name = all ∧ 2 ≤ all.length) ∧
      (∀ name, registry.overloads? name = none ↔ under log name = []) ∧
      registry.names.Pairwise (· < ·) ∧
      (∀ name, name ∈ registry.names ↔ under log name ≠ []) ∧
      registry.size = registry.names.length := by
  intro log registry
  have performed := performAll_eq Registry.empty registrations
  have written : registry = Registry.empty.addAll log := congrArg Prod.snd performed
  have records : registry.Records log := written ▸ records_empty.addAll log
  refine ⟨congrArg Prod.fst performed, records.definitions, fun name only => ?_, fun name all => ?_, fun name => ?_,
    records.sorted, fun name => records.mem_names_iff, (List.length_map ..).symm⟩
  · rw [records.sets, OverloadSet.ofList?_eq_single_iff]
  · rw [records.sets, OverloadSet.ofList?_eq_many_iff]
  · rw [records.sets, OverloadSet.ofList?_eq_none_iff]

end Registry
end FieldSelect
