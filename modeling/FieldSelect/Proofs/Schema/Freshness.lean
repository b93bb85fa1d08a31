import FieldSelect.Proofs.Schema.Reachable

/-! View tables are never stale. Whatever is registered and looked up, and in whatever order, a look-up gives the table
of the schema that its type was registered with last, and such tables are all that is kept between two uses. -/
namespace FieldSelect

/-! ### Memos between two uses -/

namespace Memo
variable {κ ν ε : Type} [DecidableEq κ] {compute : κ → Except ε ν} {memo : Memo κ ν}

/-- No value is being computed, and no slot is left without one. -/
def AtRest (memo : Memo κ ν) : Prop := ∀ slot ∈ memo.slots, slot.isSettled = true

theorem getOrInsert_of_hit {key : κ} {value : ν} (hit : (memo.start key).1 = .hit value)
    (computing : Unit → Except ε ν) : memo.getOrInsert key computing = (.ok value, (memo.start key).2) := by
  rcases started : memo.start key with ⟨first, after⟩
  rw [started] at hit
  dsimp only at hit
  subst hit
  simp only [getOrInsert, started]

theorem getOrInsert_of_miss {key : κ} {ticket : Ticket κ} (miss : (memo.start key).1 = .miss ticket)
    (computing : Unit → Except ε ν) :
    (memo.getOrInsert key computing).2 =
      match computing () with
      | .ok value => (memo.start key).2.settle ticket value
      | .error _ => (memo.start key).2.abandon ticket := by
  rcases started : memo.start key with ⟨first, after⟩
  rw [started] at miss
  dsimp only at miss
  subst miss
  simp only [getOrInsert, started]
  cases computing () <;> rfl

omit [DecidableEq κ] in
theorem settled_of_isSettled {slot : Slot κ ν} (settled : slot.isSettled = true) :
    ∃ entry, slot.state = .settled entry := by
  cases state : slot.state with
  | settled entry => exact ⟨entry, rfl⟩
  | empty => simp [Slot.isSettled, state] at settled
  | inFlight => simp [Slot.isSettled, state] at settled

/-- Once the value is there, or the computation has failed, no slot is in flight any more. -/
theorem AtRest.getOrInsert (rest : memo.AtRest) (key : κ) (computing : Unit → Except ε ν) :
    (memo.getOrInsert key computing).2.AtRest := by
  have others : ∀ slot ∈ memo.without key, slot.isSettled = true := by
    intro slot member
    exact rest slot (mem_without.mp member).1
  rcases memo.start_cases key with ⟨_, miss, slots, _⟩ | ⟨slot, value, _, live, hit, slots, _⟩ |
    ⟨number, miss, slots, _⟩
  · have same : (memo.getOrInsert key computing).2.slots = memo.slots := by
      rw [getOrInsert_of_miss miss, ← slots]
      cases computing () <;> rfl
    intro slot member
    rw [same] at member
    exact rest slot member
  · rw [getOrInsert_of_hit hit]
    intro other member
    rw [slots] at member
    rcases List.mem_cons.mp member with rfl | inside
    · obtain ⟨_, _, _, used⟩ := refresh_some live
      simp [used, Slot.isSettled]
    · exact others other inside
  · rw [getOrInsert_of_miss miss]
    cases computing () with
    | ok value =>
      intro other member
      rcases mem_fill (((memo.start key).2.settle_slots key number memo.clock value).1.subset member) with
        ⟨_, filled, _⟩ | ⟨different, present⟩
      · simp [Slot.isSettled, filled]
      · rw [slots] at present
        rcases List.mem_cons.mp present with rfl | inside
        · exact absurd rfl different
        · exact others other inside
    | error error =>
      intro other member
      obtain ⟨present, different⟩ := List.mem_filter.mp member
      rw [slots] at present
      rcases List.mem_cons.mp present with rfl | inside
      · simp at different
      · exact others other inside

/-- What cannot be computed is not kept. -/
theorem Faithful.missing (faithful : memo.Faithful compute) (rest : memo.AtRest) {key : κ} {error : ε}
    (fails : compute key = .error error) : memo.find? key = none := by
  apply find?_eq_none.mpr
  rintro slot member rfl
  obtain ⟨entry, state⟩ := settled_of_isSettled (rest slot member)
  have computed := faithful.entries slot member entry state
  rw [fails] at computed
  cases computed

/-- A computation that fails leaves all slots as they were. -/
theorem Faithful.slots_of_failing (faithful : memo.Faithful compute) (rest : memo.AtRest) {key : κ} {error : ε}
    (fails : compute key = .error error) :
    (memo.getOrInsert key fun _ => compute key).2.slots = memo.slots := by
  have missing := faithful.missing rest fails
  rcases memo.start_cases key with ⟨_, miss, slots, _⟩ | ⟨_, _, found, _⟩ |
    ⟨number, miss, slots, ⟨_, found, _⟩ | ⟨_, new, _⟩⟩
  · rw [getOrInsert_of_miss miss, fails]
    exact slots
  · cases missing.symm.trans found
  · cases missing.symm.trans found
  · rw [getOrInsert_of_miss miss, fails]
    dsimp only
    rw [abandon_slots, slots, without_of_missing missing, new]
    simpa using others_of_gone (next_gone faithful.next)

end Memo

/-! ### Uses of a catalog -/

/-- A use of a catalog, or some time between two uses. -/
inductive CatalogUse where
  | register (schema : Schema)
  | table (typeName : String)
  | wait (elapsed : Nat)

/-- What a use gives. -/
inductive CatalogReply where
  | registered
  | tabled (outcome : Except SchemaError ViewTable)
  | waited

namespace Catalog

/-- The reply to a use, and the catalog after it. -/
def perform (catalog : Catalog) : CatalogUse → CatalogReply × Catalog
  | .register schema => (.registered, catalog.register schema)
  | .table typeName => (catalog.table typeName).map .tabled id
  | .wait elapsed => (.waited, catalog.wait elapsed)

/-- The replies to uses one after the other, and the catalog after all of them. -/
def performAll (catalog : Catalog) : List CatalogUse → List CatalogReply × Catalog
  | [] => ([], catalog)
  | use :: rest =>
    let (reply, catalog) := catalog.perform use
    let (replies, catalog) := catalog.performAll rest
    (reply :: replies, catalog)

end Catalog

/-- All schemas registered by then, the latest first. -/
def CatalogUse.registrations (earlier : List Schema) : CatalogUse → List Schema
  | .register schema => schema :: earlier
  | _ => earlier

namespace ViewRules
variable (rules : ViewRules)

/-- The table of a type as the latest schema of the type gives it. -/
def tableAfter (registered : List Schema) (typeName : String) : Except SchemaError ViewTable :=
  match registered.find? (·.typeName = typeName) with
  | some schema => ViewTable.ofSchema rules schema
  | none => .error ⟨typeName, .unknownType⟩

/-- The reply to a use that follows from the registrations before it. -/
def answer (registered : List Schema) : CatalogUse → CatalogReply
  | .register _ => .registered
  | .table typeName => .tabled (rules.tableAfter registered typeName)
  | .wait _ => .waited

def answers (registered : List Schema) : List CatalogUse → List CatalogReply
  | [] => []
  | use :: rest => rules.answer registered use :: answers (use.registrations registered) rest

end ViewRules

/-! ### One use -/

namespace Catalog
variable {catalog : Catalog} {rules : ViewRules} {registered : List Schema}

/-- The schemas are the latest ones that were registered, and each kept table is the one of its type's schema. -/
structure Current (catalog : Catalog) (rules : ViewRules) (registered : List Schema) : Prop where
  rules : catalog.rules = rules
  schemas : ∀ typeName, Entries.find? typeName catalog.schemas = registered.find? (·.typeName = typeName)
  faithful : catalog.tables.Faithful catalog.build
  rest : catalog.tables.AtRest

theorem Current.build (current : catalog.Current rules registered) (typeName : String) :
    catalog.build typeName = rules.tableAfter registered typeName := by
  have held := current.schemas typeName
  cases latest : registered.find? (·.typeName = typeName) with
  | none => simp only [Catalog.build, ViewRules.tableAfter, held, latest]
  | some schema => simp only [Catalog.build, ViewRules.tableAfter, held, latest, current.rules]

theorem current_ofSettings (settings : Settings) :
    (Catalog.ofSettings settings).Current (Catalog.ofSettings settings).rules [] where
  rules := rfl
  schemas _ := rfl
  faithful := .ofSpec settings.viewCache
  rest := nofun

/-- The new schema is found for its type, and the table of its old one is gone. -/
theorem Current.register (current : catalog.Current rules registered) (schema : Schema) :
    (catalog.register schema).Current rules (schema :: registered) where
  rules := current.rules
  schemas typeName := by
    by_cases same : schema.typeName = typeName
    · subst same
      simp [Catalog.register, Entries.find?_insert_self]
    · have different : typeName ≠ schema.typeName := fun equal => same equal.symm
      simp [Catalog.register, Entries.find?_insert_of_ne different, current.schemas, same]
  faithful := faithful_register current.faithful schema
  rest slot member := current.rest slot (Memo.mem_without.mp member).1

theorem Current.table (current : catalog.Current rules registered) (typeName : String) :
    (catalog.table typeName).1 = rules.tableAfter registered typeName ∧
      (catalog.table typeName).2.Current rules registered := by
  obtain ⟨same, faithful⟩ := current.faithful.getOrInsert typeName
  constructor
  · rw [← current.build]
    exact same
  · exact ⟨current.rules, current.schemas, faithful,
      current.rest.getOrInsert typeName fun _ => catalog.build typeName⟩

theorem Current.wait (current : catalog.Current rules registered) (elapsed : Nat) :
    (catalog.wait elapsed).Current rules registered where
  rules := current.rules
  schemas := current.schemas
  faithful := ⟨current.faithful.entries, current.faithful.numbers, current.faithful.next⟩
  rest := current.rest

/-- A use is answered from the registrations before it. -/
theorem Current.perform (current : catalog.Current rules registered) (use : CatalogUse) :
    (catalog.perform use).1 = rules.answer registered use ∧
      (catalog.perform use).2.Current rules (use.registrations registered) := by
  cases use with
  | register schema => exact ⟨rfl, current.register schema⟩
  | table typeName => exact (current.table typeName).imp_left (congrArg CatalogReply.tabled)
  | wait elapsed => exact ⟨rfl, current.wait elapsed⟩

/-! ### All uses -/

theorem Current.performAll (current : catalog.Current rules registered) (uses : List CatalogUse) :
    (catalog.performAll uses).1 = rules.answers registered uses ∧
      (catalog.performAll uses).2.Current rules (uses.foldl CatalogUse.registrations registered) := by
  induction uses generalizing catalog registered with
  | nil => exact ⟨rfl, current⟩
  | cons use rest ih =>
    obtain ⟨reply, next⟩ := current.perform use
    obtain ⟨replies, last⟩ := ih next
    exact ⟨congr (congrArg List.cons reply) replies, last⟩

/-- Whatever its memo may keep, a catalog answers each look-up with the table of the schema that was registered last, or
with its fault. At any time it keeps nothing but such tables, and a look-up that fails leaves them as they are. -/
theorem performAll_eq_latest (settings : Settings) (uses : List CatalogUse) :
    let rules : ViewRules := ⟨settings.includeBaseInViews, settings.addUnviewedToBase⟩
    let registered := uses.foldl CatalogUse.registrations []
    let after := (Catalog.ofSettings settings).performAll uses
    after.1 = rules.answers [] uses ∧
      (∀ slot ∈ after.2.tables.slots, ∃ entry, slot.state = .settled entry ∧
        rules.tableAfter registered slot.key = .ok entry.value) ∧
      ∀ typeName error, rules.tableAfter registered typeName = .error error →
        (∀ slot ∈ after.2.tables.slots, slot.key ≠ typeName) ∧
          (after.2.table typeName).2.tables.slots = after.2.tables.slots := by
  intro rules registered after
  obtain ⟨replies, current⟩ := (current_ofSettings settings).performAll uses
  apply And.intro replies
  constructor
  · intro slot member
    obtain ⟨entry, state⟩ := Memo.settled_of_isSettled (current.rest slot member)
    have computed := current.faithful.entries slot member entry state
    rw [current.build] at computed
    exact ⟨entry, state, computed⟩
  · intro typeName error fails
    have failing : after.2.build typeName = .error error := (current.build typeName).trans fails
    constructor
    · exact Memo.find?_eq_none.mp (current.faithful.missing current.rest failing)
    · exact current.faithful.slots_of_failing current.rest failing

/-- Properties of the base view. -/
private def basic (names : List String) : List Property := names.map (⟨·, none, [], false⟩)

/-- Users get an email, and another type exposes two properties under one name. -/
def replacedUser : List CatalogUse :=
  [.register ⟨"User", basic ["id"]⟩, .table "User", .register ⟨"Pair", basic ["left", "left"]⟩, .table "Pair",
    .wait 10, .table "Order", .register ⟨"User", basic ["id", "mail"]⟩, .table "User"]

theorem performAll_eq_latest_of_replacedUser :
    let after := (Catalog.ofSettings { Settings.standard with viewCache := ⟨some 1, none, none, some 50⟩ }).performAll
      replacedUser
    after.1 =
      [.registered, .tabled (.ok ⟨"User", [("base", ["id"])], [], [("id", "id")]⟩), .registered,
        .tabled (.error ⟨"Pair", .duplicateProperty "left" "left" "left"⟩), .waited,
        .tabled (.error ⟨"Order", .unknownType⟩), .registered,
        .tabled (.ok ⟨"User", [("base", ["id", "mail"])], [], [("id", "id"), ("mail", "mail")]⟩)] ∧
      (∀ slot ∈ after.2.tables.slots, slot.key ≠ "Pair") ∧
      (after.2.table "Pair").2.tables.slots = after.2.tables.slots := by
  obtain ⟨replies, _, failing⟩ := performAll_eq_latest
    { Settings.standard with viewCache := ⟨some 1, none, none, some 50⟩ } replacedUser
  have before : ViewTable.ofSchema ⟨true, true⟩ ⟨"User", basic ["id"]⟩ =
      .ok ⟨"User", [("base", ["id"])], [], [("id", "id")]⟩ := by rfl
  have doubled : ViewTable.ofSchema ⟨true, true⟩ ⟨"Pair", basic ["left", "left"]⟩ =
      .error ⟨"Pair", .duplicateProperty "left" "left" "left"⟩ := by rfl
  have latest : ViewTable.ofSchema ⟨true, true⟩ ⟨"User", basic ["id", "mail"]⟩ =
      .ok ⟨"User", [("base", ["id", "mail"])], [], [("id", "id"), ("mail", "mail")]⟩ := by rfl
  have answers : ViewRules.answers ⟨true, true⟩ [] replacedUser =
      [.registered, .tabled (ViewTable.ofSchema ⟨true, true⟩ ⟨"User", basic ["id"]⟩), .registered,
        .tabled (ViewTable.ofSchema ⟨true, true⟩ ⟨"Pair", basic ["left", "left"]⟩), .waited,
        .tabled (.error ⟨"Order", .unknownType⟩), .registered,
        .tabled (ViewTable.ofSchema ⟨true, true⟩ ⟨"User", basic ["id", "mail"]⟩)] := by rfl
  rw [before, doubled, latest] at answers
  constructor
  · exact replies.trans answers
  · exact failing "Pair" _ doubled

end Catalog
end FieldSelect
