import FieldSelect.Request
import Mathlib.Data.List.DropRight

/-! The filters that a request resolves. From one time that they are forgotten to the next, the source is asked for a
key once at most, and what was found for the key then stands, whatever else is done. -/
namespace FieldSelect

/-- One use of a request. A source is given by what it would answer at that time. -/
inductive RequestUse where
  | resolve (key : String) (source : String → Option String) (fallback : Option String)
  | setVariable (name : String) (value : Value)
  | forgetFilters

/-- What a use gives. -/
inductive RequestReply where
  | resolved (filter : Option String)
  | done

/-- A use that is over, with what it gave and the keys that its source was asked for. -/
structure RequestRecord where
  use : RequestUse
  reply : RequestReply
  asked : List String

namespace Request

/-- The source, with a note of each key that it is asked for. -/
def noting (source : String → Option String) (key : String) : StateM (List String) (Option String) :=
  modifyGet fun asked => (source key, asked ++ [key])

/-- The record of a use, and the request after it. -/
def perform (request : Request) (use : RequestUse) : RequestRecord × Request :=
  match use with
  | .resolve key source fallback =>
    let ((filter, request), asked) := Id.run ((request.resolveFilter key (noting source) fallback).run [])
    (⟨use, .resolved filter, asked⟩, request)
  | .setVariable name value => (⟨use, .done, []⟩, request.setVariable name value)
  | .forgetFilters => (⟨use, .done, []⟩, request.forgetFilters)

/-- The records of uses one after the other, and the request after all of them. -/
def performAll (request : Request) : List RequestUse → List RequestRecord × Request
  | [] => ([], request)
  | use :: rest =>
    let (record, request) := request.perform use
    let (records, request) := request.performAll rest
    (record :: records, request)

end Request

/-! ### What is to be expected of a history -/

namespace RequestUse

def forgets : RequestUse → Bool
  | .forgetFilters => true
  | _ => false

/-- What the use finds for a key, if it has to ask for this one: the answer of its source, or else the fallback. -/
def finds? (key : String) : RequestUse → Option (Option String)
  | .resolve wanted source fallback => if wanted = key then some (source key <|> fallback) else none
  | _ => none

/-- The filter of a key, which is what the first use found that was to resolve it since filters were forgotten last. -/
def standing? (earlier : List RequestUse) (key : String) : Option (Option String) :=
  (earlier.rtakeWhile fun use => !use.forgets).findSome? (·.finds? key)

/-- The record of a use that follows from the uses before it. -/
def expected (earlier : List RequestUse) (use : RequestUse) : RequestRecord :=
  match use with
  | .resolve key source fallback =>
    match standing? earlier key with
    | some filter => ⟨use, .resolved filter, []⟩
    | none => ⟨use, .resolved (source key <|> fallback), [key]⟩
  | _ => ⟨use, .done, []⟩

def expectedAll (earlier : List RequestUse) : List RequestUse → List RequestRecord
  | [] => []
  | use :: rest => expected earlier use :: expectedAll (earlier ++ [use]) rest

/-- It is about the filter of this key. -/
def concerns (key : String) : RequestUse → Bool
  | .resolve wanted _ _ => wanted = key
  | .setVariable _ _ => false
  | .forgetFilters => true

theorem standing?_concat (earlier : List RequestUse) (use : RequestUse) (key : String) :
    standing? (earlier ++ [use]) key =
      if use.forgets then none else (standing? earlier key).or (use.finds? key) := by
  rw [standing?, List.rtakeWhile_concat]
  cases use.forgets with
  | true => rfl
  | false => simp [standing?, List.findSome?_append]

end RequestUse

namespace Request
variable {request other : Request} {key : String} {filter : Option String} {uses : List RequestUse}

/-! ### One use -/

/-- The filter of a key is there from now on. -/
def keeping (request : Request) (key : String) (filter : Option String) : Request :=
  { request with resolved := Entries.insert key filter request.resolved }

theorem perform_resolve_of_found (found : Entries.find? key request.resolved = some filter)
    (source : String → Option String) (fallback : Option String) :
    request.perform (.resolve key source fallback) =
      (⟨.resolve key source fallback, .resolved filter, []⟩, request) := by
  rw [perform, resolveFilter, found]
  rfl

theorem perform_resolve_of_missing (missing : Entries.find? key request.resolved = none)
    (source : String → Option String) (fallback : Option String) :
    request.perform (.resolve key source fallback) =
      (⟨.resolve key source fallback, .resolved (source key <|> fallback), [key]⟩,
        request.keeping key (source key <|> fallback)) := by
  rw [perform, resolveFilter, missing]
  rfl

theorem use_perform (request : Request) (use : RequestUse) : (request.perform use).1.use = use := by
  cases use <;> rfl

/-- What the request holds is what stands after the uses. -/
def Recalls (request : Request) (earlier : List RequestUse) : Prop :=
  ∀ key, Entries.find? key request.resolved = RequestUse.standing? earlier key

theorem Recalls.perform {earlier : List RequestUse} (recalls : request.Recalls earlier) (use : RequestUse) :
    (request.perform use).1 = RequestUse.expected earlier use ∧ (request.perform use).2.Recalls (earlier ++ [use]) := by
  cases use with
  | resolve key source fallback =>
    cases standing : RequestUse.standing? earlier key with
    | some filter =>
      rw [perform_resolve_of_found ((recalls key).trans standing)]
      constructor
      · rw [RequestUse.expected, standing]
      · intro wanted
        rw [RequestUse.standing?_concat, recalls wanted]
        by_cases same : key = wanted
        · simp [← same, standing, RequestUse.forgets]
        · simp [RequestUse.forgets, RequestUse.finds?, same]
    | none =>
      rw [perform_resolve_of_missing ((recalls key).trans standing)]
      constructor
      · rw [RequestUse.expected, standing]
      · intro wanted
        rw [RequestUse.standing?_concat, keeping]
        by_cases same : key = wanted
        · simp [← same, standing, RequestUse.forgets, RequestUse.finds?, Entries.find?_insert_self]
        · rw [Entries.find?_insert_of_ne (Ne.symm same), recalls wanted]
          simp [RequestUse.forgets, RequestUse.finds?, same]
  | setVariable name value =>
    constructor
    · rfl
    · intro wanted
      rw [RequestUse.standing?_concat]
      exact (recalls wanted).trans Option.or_none.symm
  | forgetFilters =>
    constructor
    · rfl
    · intro wanted
      rw [RequestUse.standing?_concat]
      rfl

/-- What is not about a key leaves its filter alone. -/
theorem find?_perform (request : Request) {use : RequestUse} (unconcerned : use.concerns key = false) :
    Entries.find? key (request.perform use).2.resolved = Entries.find? key request.resolved := by
  cases use with
  | resolve wanted source fallback =>
    cases found : Entries.find? wanted request.resolved with
    | some filter => rw [perform_resolve_of_found found]
    | none =>
      rw [perform_resolve_of_missing found]
      exact Entries.find?_insert_of_ne (Ne.symm (of_decide_eq_false unconcerned)) _ _
  | setVariable name value => rfl
  | forgetFilters => cases unconcerned

/-- What is about a key depends on nothing but its filter. -/
theorem perform_congr (same : Entries.find? key request.resolved = Entries.find? key other.resolved)
    {use : RequestUse} (concerned : use.concerns key = true) :
    (request.perform use).1 = (other.perform use).1 ∧
      Entries.find? key (request.perform use).2.resolved = Entries.find? key (other.perform use).2.resolved := by
  cases use with
  | resolve wanted source fallback =>
    obtain rfl : wanted = key := of_decide_eq_true concerned
    cases found : Entries.find? wanted request.resolved with
    | some filter =>
      rw [perform_resolve_of_found found, perform_resolve_of_found (same.symm.trans found)]
      exact ⟨rfl, same⟩
    | none =>
      rw [perform_resolve_of_missing found, perform_resolve_of_missing (same.symm.trans found)]
      exact ⟨rfl, (Entries.find?_insert_self ..).trans (Entries.find?_insert_self ..).symm⟩
  | setVariable name value => cases concerned
  | forgetFilters => exact ⟨rfl, rfl⟩

/-! ### All uses -/

theorem Recalls.performAll {earlier : List RequestUse} (recalls : request.Recalls earlier) (uses : List RequestUse) :
    (request.performAll uses).1 = RequestUse.expectedAll earlier uses := by
  induction uses generalizing request earlier with
  | nil => rfl
  | cons use rest ih =>
    obtain ⟨record, next⟩ := recalls.perform use
    exact congr (congrArg List.cons record) (ih next)

theorem uses_performAll (request : Request) (uses : List RequestUse) :
    (request.performAll uses).1.map (·.use) = uses := by
  induction uses generalizing request with
  | nil => rfl
  | cons use rest ih => exact congr (congrArg List.cons (request.use_perform use)) (ih _)

/-- A part of the records is what a part of the uses left. -/
theorem exists_of_performAll_append {before after : List RequestRecord}
    (split : (request.performAll uses).1 = before ++ after) :
    ∃ first rest, uses = first ++ rest ∧ (request.performAll first).1 = before ∧
      ((request.performAll first).2.performAll rest).1 = after := by
  induction before generalizing request uses with
  | nil => exact ⟨[], uses, rfl, rfl, split⟩
  | cons record before ih =>
    cases uses with
    | nil => cases split
    | cons use uses =>
      obtain ⟨own, others⟩ := List.cons.inj split
      obtain ⟨first, rest, same, front, back⟩ := ih others
      exact ⟨use :: first, rest, congrArg _ same, congr (congrArg List.cons own) front, back⟩

/-- As long as nothing is forgotten, no key is asked for twice, nor one whose filter was there from the start. -/
theorem asked_of_performAll (kept : ∀ use ∈ uses, use.forgets = false) :
    ((request.performAll uses).1.flatMap (·.asked)).Nodup ∧
      ∀ key ∈ (request.performAll uses).1.flatMap (·.asked), Entries.find? key request.resolved = none := by
  induction uses generalizing request with
  | nil => exact ⟨.nil, nofun⟩
  | cons use rest ih =>
    obtain ⟨own, others⟩ := List.forall_mem_cons.mp kept
    rw [performAll]
    cases use with
    | resolve key source fallback =>
      cases found : Entries.find? key request.resolved with
      | some filter =>
        rw [perform_resolve_of_found found]
        exact ih others
      | none =>
        rw [perform_resolve_of_missing found]
        obtain ⟨once, missing⟩ := @ih (request.keeping key (source key <|> fallback)) others
        have different :
            ∀ later ∈ ((request.keeping key (source key <|> fallback)).performAll rest).1.flatMap (·.asked),
              later ≠ key := by
          intro later member same
          have held := missing later member
          rw [same, keeping, Entries.find?_insert_self] at held
          cases held
        constructor
        · exact List.nodup_cons.mpr ⟨fun again => different key again rfl, once⟩
        · refine List.forall_mem_cons.mpr ⟨found, fun later member => ?_⟩
          rw [← Entries.find?_insert_of_ne (different later member)]
          exact missing later member
    | setVariable name value => exact ih others
    | forgetFilters => cases own

/-- What is recorded of a key is the same if nothing else is done, as long as the filter of the key is. -/
theorem filter_performAll (same : Entries.find? key request.resolved = Entries.find? key other.resolved)
    (uses : List RequestUse) :
    (request.performAll uses).1.filter (·.use.concerns key) = (other.performAll (uses.filter (·.concerns key))).1 := by
  induction uses generalizing request other with
  | nil => rfl
  | cons use rest ih =>
    rw [performAll, List.filter_cons, List.filter_cons, use_perform]
    cases concerned : use.concerns key with
    | true =>
      obtain ⟨record, next⟩ := perform_congr same concerned
      rw [if_pos rfl, if_pos rfl, performAll]
      exact congr (congrArg List.cons record) (ih next)
    | false =>
      rw [if_neg Bool.false_ne_true, if_neg Bool.false_ne_true]
      exact ih ((find?_perform request concerned).trans same)

/-- The records of a request are those that its history makes one expect: a filter stands from the first use that was
to resolve its key until filters are forgotten. In between the source is asked for no key twice. What is recorded of a
key is what would be if nothing else were done to the request than to resolve this key and to forget filters. -/
theorem performAll_resolvesOnce (bindings : Bindings) (uses : List RequestUse) :
    let records := (Request.performAll ⟨bindings, []⟩ uses).1
    records = RequestUse.expectedAll [] uses ∧
      (∀ before stretch after, records = before ++ stretch ++ after →
        (∀ record ∈ stretch, record.use.forgets = false) → (stretch.flatMap (·.asked)).Nodup) ∧
      ∀ key, records.filter (·.use.concerns key) = (Request.empty.performAll (uses.filter (·.concerns key))).1 := by
  intro records
  have fresh : Recalls ⟨bindings, []⟩ [] := fun _ => rfl
  apply And.intro (fresh.performAll uses)
  constructor
  · intro before stretch after split kept
    obtain ⟨first, _, _, front, _⟩ := exists_of_performAll_append split
    obtain ⟨earlier, rest, _, _, same⟩ := exists_of_performAll_append front
    have stretched := uses_performAll (performAll ⟨bindings, []⟩ earlier).2 rest
    rw [same] at stretched
    rw [← same]
    apply And.left
    apply asked_of_performAll
    rw [← stretched]
    exact List.forall_mem_map.mpr kept
  · intro key
    have unresolved : Entries.find? key (⟨bindings, []⟩ : Request).resolved = Entries.find? key empty.resolved := rfl
    exact filter_performAll unresolved uses

/-- Two keys are resolved in turns, with other sources and fallbacks, and filters are forgotten once. -/
def interleaved : List RequestUse :=
  [.resolve "User" (fun _ => some "id") none, .resolve "Order" (fun _ => none) (some "total"), .setVariable "f" .null,
    .resolve "User" (fun _ => some "name") (some "*"), .resolve "Order" (fun _ => some "*") none, .forgetFilters,
    .resolve "User" (fun _ => none) none, .resolve "User" (fun _ => some "name") none]

theorem performAll_resolvesOnce_of_interleaved :
    let records := (Request.empty.performAll interleaved).1
    records.map (fun record => (record.reply, record.asked)) =
      [(.resolved (some "id"), ["User"]), (.resolved (some "total"), ["Order"]), (.done, []),
        (.resolved (some "id"), []), (.resolved (some "total"), []), (.done, []),
        (.resolved none, ["User"]), (.resolved none, [])] ∧
      ((records.take 5).flatMap (·.asked)).Nodup ∧
      records.filter (·.use.concerns "User") =
        (Request.empty.performAll (interleaved.filter (·.concerns "User"))).1 := by
  intro records
  obtain ⟨expected, once, alone⟩ := performAll_resolvesOnce [] interleaved
  refine ⟨?_, ?_, alone "User"⟩
  · exact congrArg (List.map fun record => (record.reply, record.asked)) expected
  · apply once [] (records.take 5) (records.drop 5) (List.take_append_drop 5 records).symm
    decide

end Request
end FieldSelect
