import FieldSelect.Proofs.Projection.Levels
import FieldSelect.Proofs.Projection.Places
import FieldSelect.Proofs.Projection.Pruning

/-! A filter that is a bare `**` keeps a value as it is kept without a filter. -/
namespace FieldSelect

namespace Projection
variable {m : Type → Type} [Monad m] [LawfulMonad m] {α β : Type} {P : α → Prop} {Q : β → Prop}

/-- All that a step gives has the property, so that what follows it need not be known elsewhere. -/
structure Gives (P : α → Prop) (run : Projection m α) : Prop where
  followed : ∀ {γ : Type} (next onward : α → Projection m γ), (∀ x, P x → next x = onward x) →
    run >>= next = run >>= onward

theorem Gives.pure {x : α} (holds : P x) : Gives (m := m) P (pure x) := by
  constructor
  intro _ next onward same
  rw [pure_bind, pure_bind, same x holds]

theorem Gives.bind {run : Projection m α} {next : α → Projection m β} (gives : Gives P run)
    (rest : ∀ x, P x → Gives Q (next x)) : Gives Q (run >>= next) := by
  constructor
  intro _ after onward same
  rw [bind_assoc, bind_assoc]
  refine gives.followed _ _ fun x holds => ?_
  exact (rest x holds).followed after onward same

omit [LawfulMonad m] in
/-- What is given does not matter. -/
theorem Gives.any (run : Projection m α) : Gives (fun _ => True) run := by
  constructor
  intro _ next onward same
  have everywhere : next = onward := funext fun x => same x trivial
  rw [everywhere]

theorem Gives.mapM {step : α → Projection m β} {items : List α} (each : ∀ item ∈ items, Gives Q (step item)) :
    Gives (fun results => ∀ result ∈ results, Q result) (items.mapM step) := by
  induction items with
  | nil => exact .pure nofun
  | cons item rest ih =>
    obtain ⟨own, others⟩ := List.forall_mem_cons.mp each
    rw [List.mapM_cons]
    refine own.bind fun first holds => ?_
    refine (ih others).bind fun more all => ?_
    exact .pure (List.forall_mem_cons.mpr ⟨holds, all⟩)

/-- Each step keeps the key of its entry, and so does the whole traversal. -/
theorem Gives.keys {step : Value → Projection m Value} (entries : Entries Value) :
    Gives (fun results => Entries.keys results = Entries.keys entries)
      (entries.mapM fun (key, field) => return (key, ← step field)) := by
  induction entries with
  | nil => exact .pure rfl
  | cons entry rest ih =>
    obtain ⟨key, field⟩ := entry
    rw [List.mapM_cons]
    have own : Gives (fun result => result.1 = key) (do return (key, ← step field) : Projection m (String × Value)) :=
      (Gives.any _).bind fun value _ => .pure rfl
    refine own.bind fun first same => ?_
    refine ih.bind fun more others => .pure ?_
    rw [Entries.keys, List.map_cons, same]
    exact congrArg (key :: ·) others

theorem mapM_congr_of_mem {step onward : α → Projection m β} {items : List α}
    (same : ∀ item ∈ items, step item = onward item) : items.mapM step = items.mapM onward := by
  induction items with
  | nil => rfl
  | cons item rest ih =>
    obtain ⟨own, others⟩ := List.forall_mem_cons.mp same
    rw [List.mapM_cons, List.mapM_cons, own, ih others]

theorem mapM_map_result {γ : Type} (step : α → Projection m β) (f : β → γ) (items : List α) :
    (items.mapM fun item => return f (← step item)) = (return (← items.mapM step).map f) := by
  induction items with
  | nil => simp
  | cons item rest ih =>
    rw [List.mapM_cons, List.mapM_cons, ih]
    simp

end Projection

open Projection

namespace Projector
variable {m : Type → Type} [Monad m] [LawfulMonad m] (projector : Projector m)

section Offers
variable {inner : String → Entries Value → Projection m (List Offer)}

/-- All offers hold values whose entries are in order. -/
def OrderedOffers (offers : List Offer) : Prop := ∀ offer ∈ offers, offer.value.Ordered

theorem orderedOffers_of_entries {entries : Entries Value} (inside : ∀ entry ∈ entries, entry.2.Ordered)
    (byView : Bool) : OrderedOffers (entries.map fun (name, value) => ⟨name, value, byView⟩) := by
  intro offer member
  obtain ⟨entry, present, rfl⟩ := List.mem_map.mp member
  exact inside entry present

theorem splice_ordered (opened : ∀ typeName fields, (∀ entry ∈ fields, entry.2.Ordered) →
    Gives OrderedOffers (inner typeName fields)) (byView : Bool) {value : Value} (ordered : value.Ordered) :
    Gives OrderedOffers (splice inner byView value) := by
  cases value with
  | record typeName fields =>
    cases ordered with
    | scalar flat => simp [Value.height] at flat
    | record _ inside =>
      refine (opened typeName fields inside).bind fun offers all => .pure ?_
      intro offer member
      obtain ⟨before, present, rfl⟩ := List.mem_map.mp member
      exact all before present
  | object entries =>
    cases ordered with
    | scalar flat => simp [Value.height] at flat
    | object _ inside => exact .pure (orderedOffers_of_entries inside byView)
  | _ => exact .pure (List.forall_mem_nil _)

theorem offersWith_ordered (opened : ∀ typeName fields, (∀ entry ∈ fields, entry.2.Ordered) →
    Gives OrderedOffers (inner typeName fields)) (view : String) (selectors : List Selector) (typeName : String)
    {fields : Entries Value} (inside : ∀ entry ∈ fields, entry.2.Ordered) :
    Gives OrderedOffers (projector.offersWith view selectors inner typeName fields) := by
  rw [offersWith]
  refine (Gives.any _).bind fun found _ => ?_
  cases found with
  | none => exact .pure (orderedOffers_of_entries inside false)
  | some table =>
    refine (Gives.mapM (Q := OrderedOffers) ?_).bind fun offers all => .pure ?_
    · intro external _
      rw [propertyOffers]
      split
      · exact .pure (List.forall_mem_nil _)
      · rename_i value held
        obtain ⟨declared, _, found⟩ := Option.bind_eq_some_iff.mp held
        have ordered : value.Ordered := inside _ (Entries.mem_of_find? found)
        split
        · exact splice_ordered opened _ ordered
        · exact .pure (by simpa [OrderedOffers] using ordered)
    · intro offer member
      obtain ⟨own, present, within⟩ := List.mem_flatten.mp member
      exact all own present offer within

/-- What a record offers is ordered when the record is. -/
theorem recordOffers_ordered (view : String) (selectors : List Selector) (levels : Nat) (typeName : String)
    {fields : Entries Value} (inside : ∀ entry ∈ fields, entry.2.Ordered) :
    Gives OrderedOffers (projector.recordOffers view selectors levels typeName fields) := by
  induction levels generalizing typeName fields with
  | zero => exact projector.offersWith_ordered (fun _ _ _ => .pure (List.forall_mem_nil _)) view selectors typeName inside
  | succ levels ih =>
    exact projector.offersWith_ordered (fun typeName _ inside => ih typeName inside) view selectors typeName inside

end Offers

end Projector

/-- A selector that keeps every field as it is, on its own level and on all levels below it. -/
structure Selector.KeepsAll (selector : Selector) : Prop where
  name : selector.name = .anyDeep
  kept : selector.negated = false
  unnested : selector.nested = false
  unemptied : selector.emptyNested = false
  recursive : selector.recursive = true
  unbounded : selector.minDepth = none ∧ selector.maxDepth = none
  quiet : selector.hasCalls = false

namespace Frontier
variable {selector : Selector} {frontier : Frontier}

/-- One such selector and no other, where it stands or below. -/
inductive KeepsAll : Frontier → Prop where
  | top {selector : Selector} (all : selector.KeepsAll) : KeepsAll ⟨[selector], []⟩
  | below {selector : Selector} (all : selector.KeepsAll) (depth : Nat) : KeepsAll ⟨[], [(selector, depth)]⟩

theorem reaches_of_keepsAll (all : selector.KeepsAll) (depth : Nat) : selector.reaches depth = true := by
  simp [Selector.reaches, all.recursive, all.unbounded]

theorem recursesAt_of_keepsAll (all : selector.KeepsAll) (depth : Nat) : selector.recursesAt depth = true := by
  simp [Selector.recursesAt, all.recursive, all.unbounded]

/-- Whatever the name, the selector is chosen without calls, and goes on in the same way below. -/
theorem KeepsAll.resolve (keeps : KeepsAll frontier) (candidate : String) (bindings : Option Bindings) :
    ∃ selector score inherited lower, frontier.resolve candidate bindings = .included selector score inherited ∧
      selector.hasCalls = false ∧ frontier.next selector = .descend lower ∧ KeepsAll lower := by
  cases keeps with
  | @top selector all =>
    have fits : fit? candidate bindings selector = some Name.deepScore := by
      have takes : takesPart selector = true := by simp [takesPart, recursesAt_of_keepsAll all]
      rw [fit?, if_pos takes, all.name]
      rfl
    have found : best? ⟨[selector], []⟩ candidate bindings = some (selector, Name.deepScore) := by
      rw [best?, List.foldl_cons, List.foldl_nil, fits]
      rfl
    refine ⟨selector, Name.deepScore, false, ⟨[], [(selector, 1)]⟩, ?_, all.quiet, ?_, .below all 1⟩
    · rw [Frontier.resolve, found]
      simp [verdict, all.kept]
    · simp [next, passedDown, all.unemptied, all.unnested, all.recursive, reaches_of_keepsAll all]
  | @below selector all depth =>
    have found : nearest? ⟨[], [(selector, depth)]⟩ candidate bindings = some (selector, Name.deepScore) := by
      simp [nearest?, recursesAt_of_keepsAll all, all.name, Name.score?]
    refine ⟨selector, Name.deepScore, true, ⟨[], [(selector, depth + 1)]⟩, ?_, all.quiet, ?_, .below all (depth + 1)⟩
    · rw [Frontier.resolve, found]
      simp [best?, verdict, all.kept]
    · simp [next, passedDown, all.unemptied, all.unnested, all.recursive, reaches_of_keepsAll all]

/-- The selector names no view. -/
theorem KeepsAll.propertiesNamed (keeps : KeepsAll frontier) (table : ViewTable) :
    table.propertiesNamed frontier.explicit = table.propertiesNamed [] := by
  cases keeps with
  | top all => simp [ViewTable.propertiesNamed, ViewTable.namedView?, all.name]
  | below => rfl

end Frontier

namespace Projector
variable {m : Type → Type} [Monad m] [LawfulMonad m] (projector : Projector m)

section Fields
variable {levels : Nat} {descend : Value → Frontier → Projection m Value} {frontier : Frontier}

/-- Every field is kept under its name. -/
theorem field_of_keepsAll (keeps : frontier.KeepsAll) {offer : Offer}
    (below : ∀ lower, lower.KeepsAll → descend offer.value lower = projector.wholeWithin levels offer.value) :
    projector.field levels descend frontier offer =
      (do return some (offer.name, ← projector.wholeWithin levels offer.value)) := by
  obtain ⟨selector, score, inherited, lower, resolved, quiet, next, onward⟩ :=
    keeps.resolve offer.name projector.bindings
  have chosen : projector.chosen? frontier offer = some (some selector, .descend lower) := by
    rw [chosen?, resolved, ← next]
  rw [field, chosen]
  simp only [keep, below lower onward, projector.applyCalls_of_no_calls quiet]
  exact congrArg (_ >>= ·) (funext fun value => pure_bind (offer.name, value) _)

theorem fields_of_keepsAll (keeps : frontier.KeepsAll) {offers : List Offer}
    (below : ∀ offer ∈ offers, ∀ lower, lower.KeepsAll →
      descend offer.value lower = projector.wholeWithin levels offer.value) :
    projector.fields levels descend frontier offers =
      (do let entries ← offers.mapM fun offer => return (offer.name, ← projector.wholeWithin levels offer.value)
          return .object (Entries.ofPairs entries)) := by
  have each : offers.mapM (projector.field levels descend frontier) =
      offers.mapM fun offer => do return some (← (do return (offer.name, ← projector.wholeWithin levels offer.value))) := by
    refine mapM_congr_of_mem fun offer member => ?_
    rw [projector.field_of_keepsAll keeps (below offer member)]
    simp
  rw [fields, each, mapM_map_result]
  simp

end Fields

/-- Under such a frontier a value is kept as a whole. -/
theorem projectWithin_of_keepsAll (levels : Nat) {value : Value} (ordered : value.Ordered) {frontier : Frontier}
    (keeps : frontier.KeepsAll) :
    projector.projectWithin baseView levels value frontier = projector.wholeWithin levels value := by
  induction levels generalizing value frontier with
  | zero => cases value <;> rfl
  | succ levels ih =>
    cases ordered with
    | scalar flat => cases value <;> first | rfl | simp [Value.height] at flat
    | @array items inside =>
      rw [projectWithin, wholeWithin]
      rw [mapM_congr_of_mem fun item member => ih (inside item member) keeps]
    | @object entries sorted inside =>
      have below : ∀ offer ∈ entries.map fun (name, value) => (⟨name, value, false⟩ : Offer), ∀ lower,
          lower.KeepsAll → projector.projectWithin baseView levels offer.value lower =
            projector.wholeWithin levels offer.value := by
        intro offer member lower onward
        exact ih (orderedOffers_of_entries inside false offer member) onward
      rw [projectWithin, wholeWithin, projector.fields_of_keepsAll keeps below, List.mapM_map]
      refine (Gives.keys entries).followed _ _ fun results same => ?_
      have sorted : Entries.Sorted results := by
        rw [Entries.Sorted, same]
        exact sorted
      rw [Entries.ofPairs_of_sorted sorted]
    | @record typeName fields _ inside =>
      rw [projectWithin, wholeWithin, projector.recordOffers_congr keeps.propertiesNamed]
      refine (projector.recordOffers_ordered baseView [] levels typeName inside).followed _ _ fun offers all => ?_
      exact projector.fields_of_keepsAll keeps fun offer member lower onward => ih (all offer member) onward

end Projector

namespace Tree
variable {tree : Tree}

/-- Of a tree with a single selector nothing but that selector is read. -/
theorem MadeOf.single {blocks : List (List Selector)} (made : tree.MadeOf blocks) (some_ : blocks ≠ [])
    {selector : Selector} (single : tree.selectors = [selector]) :
    ∃ written, blocks = [[written]] ∧ selector = written.withStage 0 := by
  have listed := made.selectors
  rw [single] at listed
  cases blocks with
  | nil => exact absurd rfl some_
  | cons block rest =>
    obtain ⟨own, others⟩ := List.forall_mem_cons.mp made.ne_nil
    cases block with
    | nil => exact absurd rfl own
    | cons written more =>
      simp only [Parser.numbered, Selector.allWithStage, List.cons_append, List.cons.injEq, List.nil_eq,
        List.append_eq_nil_iff] at listed
      obtain ⟨same, noMore, noRest⟩ := listed
      rw [Selector.allWithStage_eq_nil] at noMore
      cases rest with
      | nil => exact ⟨written, by rw [noMore], same⟩
      | cons next rest =>
        rw [Parser.numbered, List.append_eq_nil_iff, Selector.allWithStage_eq_nil] at noRest
        exact absurd noRest.1 (others next List.mem_cons_self)

/-- A compiled tree that includes everything is one stage of one such selector. -/
theorem stage_of_isIncludeAll {text : String} (compiled : compile text = .ok tree) (all : tree.isIncludeAll = true) :
    tree.stageCount = 1 ∧ ∃ selector, tree.stage 0 = [selector] ∧ selector.KeepsAll := by
  obtain ⟨blocks, made, some_, formed⟩ := compile_settled compiled
  rw [isIncludeAll.eq_def] at all
  split at all
  · rename_i selector single
    obtain ⟨written, rfl, same⟩ := made.single some_ single
    have own : selector.WellFormed := by
      rw [same]
      exact ((formed _ List.mem_cons_self).2 written List.mem_cons_self).withStage 0
    simp only [Bool.and_eq_true, Bool.not_eq_true', Option.isNone_iff_eq_none] at all
    obtain ⟨⟨⟨⟨⟨deep, kept⟩, low⟩, high⟩, unnested⟩, quiet⟩ := all
    have name : selector.name = .anyDeep := Selector.isAnyDeep_iff.mp deep
    have recursive : selector.recursive = true := own.consistent.recursive.mpr name
    have unemptied := own.consistent.unemptied unnested
    refine ⟨made.stageCount, selector, ?_, name, kept, unnested, unemptied, recursive, ⟨low, high⟩, quiet⟩
    rw [made.stage Nat.one_pos, same]
    rfl
  · cases all

end Tree

/-- A filter that includes everything keeps the value as a whole. -/
theorem Projector.project_of_isIncludeAll {m : Type → Type} [Monad m] [LawfulMonad m] (projector : Projector m)
    {text : String} {tree : Tree} (compiled : compile text = .ok tree) (all : tree.isIncludeAll = true) {value : Value}
    (ordered : value.Ordered) : projector.project tree baseView value = projector.whole value := by
  obtain ⟨count, selector, stage, keeps⟩ := Tree.stage_of_isIncludeAll compiled all
  have once : projector.project tree baseView value = projector.projectStage tree baseView value 0 := by
    rw [project, count, if_neg Nat.one_ne_zero, List.range_one, List.foldlM_cons]
    exact bind_pure _
  rw [once, projectStage, stage, Frontier.top, projector.projectWithin_of_keepsAll value.height ordered (.top keeps)]
  rfl

namespace Engine

/-- A filter that includes everything gives what no filter gives, and leaves the same engine behind. -/
theorem project_includeAll {text : String} {tree : Tree} (compiled : FieldSelect.compile text = .ok tree)
    (all : tree.isIncludeAll = true) (engine : Engine) (bindings : Option Bindings) {value : Value}
    (ordered : value.Ordered) :
    engine.run ((engine.projector bindings).project tree baseView value) =
      engine.run ((engine.projector bindings).whole value) :=
  congrArg engine.run ((engine.projector bindings).project_of_isIncludeAll compiled all ordered)

theorem project_includeAll_of_record :
    let tree : Tree := ⟨"**", [.named .anyDeep .start]⟩
    let value : Value := .record "User" [("name", .string "Ann"), ("team", .array [.record "Team" [("size", .null)]])]
    FieldSelect.compile "**" = .ok tree ∧ tree.isIncludeAll = true ∧ value.Ordered ∧
      ∀ (engine : Engine) (bindings : Option Bindings),
        engine.run ((engine.projector bindings).project tree baseView value) =
          engine.run ((engine.projector bindings).whole value) := by
  intro tree value
  have compiled : FieldSelect.compile "**" = .ok tree := rfl
  have team : Value.Ordered (.record "Team" [("size", .null)]) :=
    .record (by decide) (List.forall_mem_cons.mpr ⟨.scalar rfl, nofun⟩)
  have ordered : value.Ordered := by
    refine .record (by decide) (List.forall_mem_cons.mpr ⟨.scalar rfl, List.forall_mem_cons.mpr ⟨.array ?_, nofun⟩⟩)
    exact List.forall_mem_cons.mpr ⟨team, nofun⟩
  exact ⟨compiled, rfl, ordered, fun engine bindings => project_includeAll compiled rfl engine bindings ordered⟩

end Engine
end FieldSelect
