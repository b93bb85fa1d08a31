import FieldSelect.Proofs.Entries
import FieldSelect.Proofs.Filter.Reading
import FieldSelect.Proofs.Pairing
import FieldSelect.Proofs.Projection.Parallel
import FieldSelect.Proofs.Projection.Pruning
import Mathlib

/-! What a filter leaves out of a value without records has no part in what it gives, whatever functions it calls:
neither in the result nor in an error. -/
namespace FieldSelect

namespace Value

/-- Values that agree on what the frontier keeps: arrays item by item, and objects on which of the kept fields they
have and on each of these as far as it is kept. All other fields may have any value, or be there on one side alone. -/
inductive SameKept (bindings : Option Bindings) : Frontier → Value → Value → Prop where
  | scalar {frontier : Frontier} {value : Value} (flat : value.height = 0) : SameKept bindings frontier value value
  | array {frontier : Frontier} {items others : List Value} (count : items.length = others.length)
      (each : ∀ index (inside : index < items.length) (inside' : index < others.length),
        SameKept bindings frontier items[index] others[index]) :
      SameKept bindings frontier (.array items) (.array others)
  | object {frontier : Frontier} {entries others : Entries Value}
      (present : ∀ key, (frontier.kept? bindings key).isSome →
        (Entries.find? key entries).isSome = (Entries.find? key others).isSome)
      (stopped : ∀ key value other, frontier.kept? bindings key = some .stop → Entries.find? key entries = some value →
        Entries.find? key others = some other → value.shell = other.shell)
      (whole : ∀ key value other, frontier.kept? bindings key = some .whole → Entries.find? key entries = some value →
        Entries.find? key others = some other → value = other)
      (below : ∀ key lower value other, frontier.kept? bindings key = some (.descend lower) →
        Entries.find? key entries = some value → Entries.find? key others = some other →
          SameKept bindings lower value other) : SameKept bindings frontier (.object entries) (.object others)

/-- Values that agree on what is kept of a field. -/
def SameBelow (bindings : Option Bindings) : Continuation → Value → Value → Prop
  | .stop, value, other => value.shell = other.shell
  | .whole, value, other => value = other
  | .descend lower, value, other => SameKept bindings lower value other

variable {bindings : Option Bindings} {frontier : Frontier}

theorem SameKept.items {items others : List Value} (same : SameKept bindings frontier (.array items) (.array others)) :
    List.Forall₂ (SameKept bindings frontier) items others := by
  cases same with
  | scalar flat => simp [height] at flat
  | array count each => exact List.forall₂_iff_get.mpr ⟨count, each⟩

/-- Values of one field that agree on what is kept of it. -/
def SameField (bindings : Option Bindings) (frontier : Frontier) (key : String) (value other : Value) : Prop :=
  ∃ continuation, frontier.kept? bindings key = some continuation ∧ SameBelow bindings continuation value other

theorem SameKept.find? {entries others : Entries Value}
    (same : SameKept bindings frontier (.object entries) (.object others)) {key : String}
    (kept : (frontier.kept? bindings key).isSome = true) :
    Option.Rel (SameField bindings frontier key) (Entries.find? key entries) (Entries.find? key others) := by
  cases same with
  | scalar flat => simp [height] at flat
  | object present stopped whole below =>
    have both := present key kept
    obtain ⟨continuation, kept⟩ := Option.isSome_iff_exists.mp kept
    cases found : Entries.find? key entries with
    | none =>
      cases found' : Entries.find? key others with
      | none => exact .none
      | some other => simp [found, found'] at both
    | some value =>
      cases found' : Entries.find? key others with
      | none => simp [found, found'] at both
      | some other =>
        refine .some ⟨continuation, kept, ?_⟩
        cases continuation with
        | stop => exact stopped key value other kept found found'
        | whole => exact whole key value other kept found found'
        | descend lower => exact below key lower value other kept found found'

/-- The fields that are kept are paired off. -/
theorem SameKept.fields {entries others : Entries Value}
    (same : SameKept bindings frontier (.object entries) (.object others)) (sorted : Entries.Sorted entries)
    (sorted' : Entries.Sorted others) :
    List.Forall₂ (fun entry other => entry.1 = other.1 ∧ SameField bindings frontier entry.1 entry.2 other.2)
      (entries.filter fun entry => (frontier.kept? bindings entry.1).isSome)
      (others.filter fun entry => (frontier.kept? bindings entry.1).isSome) := by
  have inOrder : ∀ {entries : Entries Value}, Entries.Sorted entries →
      Entries.Sorted (entries.filter fun entry => (frontier.kept? bindings entry.1).isSome) :=
    fun sorted => List.Pairwise.sublist (List.filter_sublist.map _) sorted
  refine Entries.forall₂_of_find? (inOrder sorted) (inOrder sorted') fun key => ?_
  rw [Entries.find?_filter (fun key => (frontier.kept? bindings key).isSome),
    Entries.find?_filter (fun key => (frontier.kept? bindings key).isSome)]
  split
  · rename_i kept
    exact same.find? kept
  · exact .none

end Value

namespace Projector
variable {m : Type → Type} [Monad m] [LawfulMonad m] {α β : Type}

/-- Items that a traversal skips can be left out before it. -/
theorem mapM_of_skips {step : α → Projection m (Option β)} {keeps : α → Bool}
    (skips : ∀ item, keeps item = false → step item = pure none) (items : List α) :
    (do return (← items.mapM step).filterMap id) = (do return (← (items.filter keeps).mapM step).filterMap id) := by
  induction items with
  | nil => rfl
  | cons item rest ih =>
    cases kept : keeps item with
    | false =>
      rw [List.filter_cons_of_neg (by simp [kept]), ← ih, List.mapM_cons, skips item kept]
      simp
    | true =>
      rw [List.filter_cons_of_pos kept, List.mapM_cons, List.mapM_cons]
      have behind : ∀ first : Option β, (do return (first :: (← rest.mapM step)).filterMap id) =
          (do return (first :: (← (rest.filter keeps).mapM step)).filterMap id) := by
        intro first
        have added := congrArg (fun run => do return first.toList ++ (← run)) ih
        cases first <;> simpa using added
      simpa using congrArg (step item >>= ·) (funext behind)

section Fields
variable (projector : Projector m) {levels height : Nat} {descend outcome : Value → Frontier → Projection m Value}
  {frontier : Frontier} {key : String} {value other : Value}

omit [LawfulMonad m] in
theorem field_of_lost (lost : frontier.kept? projector.bindings key = none) :
    projector.field levels descend frontier ⟨key, value, false⟩ = pure none := by
  rw [Frontier.kept?] at lost
  rw [field, chosen?]
  cases resolved : frontier.resolve key projector.bindings with
  | included selector score inherited => simp [resolved] at lost
  | excluded selector => rfl
  | unmatched => rfl

/-- What is kept of a field is the same for values that agree on it. -/
theorem keep_of_sameBelow {continuation : Continuation} (free : value.RecordFree)
    (same : Value.SameBelow projector.bindings continuation value other)
    (below : ∀ lower, Value.SameKept projector.bindings lower value other → descend value lower = outcome other lower) :
    projector.keep levels descend value continuation = projector.keep height outcome other continuation := by
  cases continuation with
  | stop => exact congrArg pure same
  | whole =>
    obtain rfl : value = other := same
    rw [keep, keep, projector.wholeWithin_recordFree free, projector.wholeWithin_recordFree free]
  | descend lower => exact below lower same

/-- Its calls find the same input, and so give the same key and value, or the same error. -/
theorem field_of_sameField (free : value.RecordFree)
    (same : Value.SameField projector.bindings frontier key value other)
    (below : ∀ lower, Value.SameKept projector.bindings lower value other → descend value lower = outcome other lower) :
    projector.field levels descend frontier ⟨key, value, false⟩ =
      projector.field height outcome frontier ⟨key, other, false⟩ := by
  obtain ⟨continuation, kept, same⟩ := same
  rw [Frontier.kept?] at kept
  rw [field, field, chosen?, chosen?]
  cases resolved : frontier.resolve key projector.bindings with
  | included selector score inherited =>
    simp only [resolved, Option.some.injEq] at kept
    have within : projector.keep levels descend value continuation = projector.keep height outcome other continuation :=
      projector.keep_of_sameBelow free same below
    simp only [kept, within]
  | excluded selector => rfl
  | unmatched => rfl

/-- Fields that are left out are passed over. -/
theorem fields_of_entries (entries : Entries Value) :
    projector.fields levels descend frontier (entries.map fun (name, value) => ⟨name, value, false⟩) =
      (do return (← (entries.filter fun entry => (frontier.kept? projector.bindings entry.1).isSome).mapM
        fun entry => projector.field levels descend frontier ⟨entry.1, entry.2, false⟩).filterMap id) >>=
          fun kept => return .object (Entries.ofPairs kept) := by
  rw [fields, List.mapM_map, ← mapM_of_skips]
  · simp only [bind_assoc, pure_bind]
    rfl
  · intro entry lost
    exact projector.field_of_lost (by simpa using lost)

theorem fields_of_sameKept {entries others : Entries Value} (sorted : Entries.Sorted entries)
    (sorted' : Entries.Sorted others) (free : ∀ entry ∈ entries, entry.2.RecordFree)
    (same : Value.SameKept projector.bindings frontier (.object entries) (.object others))
    (below : ∀ entry ∈ entries, ∀ entry' ∈ others, ∀ lower, Value.SameKept projector.bindings lower entry.2 entry'.2 →
      descend entry.2 lower = outcome entry'.2 lower) :
    projector.fields levels descend frontier (entries.map fun (name, value) => ⟨name, value, false⟩) =
      projector.fields height outcome frontier (others.map fun (name, value) => ⟨name, value, false⟩) := by
  rw [fields_of_entries, fields_of_entries]
  refine congrArg (· >>= _) (congrArg (· >>= _) ?_)
  refine Projection.mapM_congr (forall₂_mem (same.fields sorted sorted')) ?_
  rintro ⟨key, value⟩ ⟨_, other⟩ ⟨member, member', rfl, agree⟩
  have present := List.mem_of_mem_filter member
  have present' := List.mem_of_mem_filter member'
  exact projector.field_of_sameField (free _ present) agree (below _ present _ present')

end Fields

variable (projector : Projector m)

/-- One stage gives the same for values that agree on what its frontier keeps. -/
theorem projectWithin_of_sameKept (view : String) {levels height : Nat} {value other : Value} (free : value.RecordFree)
    (ordered : value.Ordered) (ordered' : other.Ordered) (enough : value.height ≤ levels)
    (enough' : other.height ≤ height) {frontier : Frontier}
    (same : Value.SameKept projector.bindings frontier value other) :
    projector.projectWithin view levels value frontier = projector.projectWithin view height other frontier := by
  induction levels generalizing height value other frontier with
  | zero =>
    cases same with
    | scalar flat => cases value <;> cases height <;> first | rfl | simp [Value.height] at flat
    | _ => simp [Value.height] at enough
  | succ levels ih =>
    have agree := same
    cases same with
    | scalar flat => cases value <;> cases height <;> first | rfl | simp [Value.height] at flat
    | @array _ items others =>
      cases height with
      | zero => simp [Value.height] at enough'
      | succ height =>
        rw [Value.height] at enough enough'
        rw [projectWithin, projectWithin]
        refine congrArg (· >>= _) (Projection.mapM_congr (forall₂_mem agree.items) ?_)
        rintro item other ⟨member, member', same⟩
        exact ih (free.of_array item member) (ordered.of_array item member) (ordered'.of_array other member')
          (Nat.le_trans (Value.height_le_of_mem_items member) (Nat.le_of_succ_le_succ enough))
          (Nat.le_trans (Value.height_le_of_mem_items member') (Nat.le_of_succ_le_succ enough')) same
    | @object _ entries others =>
      cases height with
      | zero => simp [Value.height] at enough'
      | succ height =>
        rw [Value.height] at enough enough'
        obtain ⟨sorted, inside⟩ := ordered.of_object
        obtain ⟨sorted', inside'⟩ := ordered'.of_object
        rw [projectWithin, projectWithin]
        refine projector.fields_of_sameKept sorted sorted' free.of_object agree ?_
        intro entry member entry' member' lower same
        exact ih (free.of_object entry member) (inside entry member) (inside' entry' member')
          (Nat.le_trans (Value.height_le_of_mem_entries member) (Nat.le_of_succ_le_succ enough))
          (Nat.le_trans (Value.height_le_of_mem_entries member') (Nat.le_of_succ_le_succ enough')) same

/-- All stages but the first start from what the first one gives. -/
theorem project_of_sameKept {tree : Tree} (staged : 0 < tree.stageCount) (view : String) {value other : Value}
    (free : value.RecordFree) (ordered : value.Ordered) (ordered' : other.Ordered)
    (same : Value.SameKept projector.bindings (.top (tree.stage 0)) value other) :
    projector.project tree view value = projector.project tree view other := by
  obtain ⟨count, counted⟩ := Nat.exists_eq_succ_of_ne_zero (Nat.ne_of_gt staged)
  have first : projector.projectStage tree view value 0 = projector.projectStage tree view other 0 :=
    projector.projectWithin_of_sameKept view free ordered ordered' (Nat.le_refl _) (Nat.le_refl _) same
  have some_ : tree.stageCount ≠ 0 := Nat.ne_of_gt staged
  rw [project, project, if_neg some_, if_neg some_, counted, List.range_succ_eq_map, List.foldlM_cons,
    List.foldlM_cons, first]

end Projector

namespace Engine

/-- Without records, values that agree on what the first stage of a filter keeps come out the same, or fail with the
same error, and leave the same engine behind: whatever functions are called, nothing else of them is seen. -/
theorem project_eq_of_sameKept {text : String} {tree : Tree} (compiled : FieldSelect.compile text = .ok tree)
    (engine : Engine) (bindings : Option Bindings) (view : String) {value other : Value} (free : value.RecordFree)
    (ordered : value.Ordered) (ordered' : other.Ordered)
    (same : Value.SameKept bindings (.top (tree.stage 0)) value other) :
    engine.run ((engine.projector bindings).project tree view value) =
      engine.run ((engine.projector bindings).project tree view other) := by
  have staged : 0 < tree.stageCount := (compile_wellFormed compiled).staged
  rw [(engine.projector bindings).project_of_sameKept staged view free ordered ordered' same]

/-- What is kept inside `c` below. -/
private def named : List Selector :=
  [{ Selector.named (.exact "x") ⟨1, 18⟩ with keyCalls := [⟨"upper", [], ⟨1, 20⟩⟩] }]

/-- A shell, a field that is kept as a whole and called on, and a block with a call on a key. -/
private def reporting : Tree :=
  ⟨"a\x7b\x7d,b.length(),c\x7bx:upper()\x7d",
    [{ Selector.named (.exact "a") ⟨1, 1⟩ with nested := true, emptyNested := true },
      { Selector.named (.exact "b") ⟨1, 5⟩ with valueCalls := [⟨"length", [], ⟨1, 7⟩⟩] },
      { Selector.named (.exact "c") ⟨1, 16⟩ with nested := true, children := named }]⟩

private theorem kept?_reporting {key : String} {continuation : Continuation}
    (kept : (Frontier.top (reporting.stage 0)).kept? none key = some continuation) :
    key = "a" ∧ continuation = .stop ∨ key = "b" ∧ continuation = .whole ∨
      key = "c" ∧ continuation = .descend (.top named) := by
  by_cases a : key = "a"
  · subst a
    exact .inl ⟨rfl, (Option.some.inj kept).symm⟩
  by_cases b : key = "b"
  · subst b
    exact .inr (.inl ⟨rfl, (Option.some.inj kept).symm⟩)
  by_cases c : key = "c"
  · subst c
    exact .inr (.inr ⟨rfl, (Option.some.inj kept).symm⟩)
  simp [Frontier.kept?, Frontier.resolve, Frontier.best?, Frontier.nearest?, Frontier.top, reporting, Tree.stage,
    Frontier.fit?, Frontier.takesPart, Selector.named, Name.score?, Name.isAnyDeep, Ne.symm a, Ne.symm b, Ne.symm c,
    Frontier.better] at kept

private theorem kept?_named {key : String} {continuation : Continuation}
    (kept : (Frontier.top named).kept? none key = some continuation) : key = "x" ∧ continuation = .whole := by
  by_cases x : key = "x"
  · subst x
    exact ⟨rfl, (Option.some.inj kept).symm⟩
  simp [Frontier.kept?, Frontier.resolve, Frontier.best?, Frontier.nearest?, Frontier.top, named, Frontier.fit?,
    Frontier.takesPart, Selector.named, Name.score?, Name.isAnyDeep, Ne.symm x, Frontier.better] at kept

theorem project_eq_of_unreported :
    let value : Value := .object [("a", .object [("s", .null)]), ("b", .string "k"),
      ("c", .object [("x", .null), ("z", .null)]), ("d", .null)]
    let other : Value := .object [("a", .object []), ("b", .string "k"), ("c", .object [("x", .null)])]
    FieldSelect.compile reporting.source = .ok reporting ∧ value.RecordFree ∧ value.Ordered ∧ other.Ordered ∧
      Value.SameKept none (.top (reporting.stage 0)) value other ∧ ∀ (engine : Engine) (view : String),
        engine.run ((engine.projector none).project reporting view value) =
          engine.run ((engine.projector none).project reporting view other) := by
  intro value other
  have compiled : FieldSelect.compile reporting.source = .ok reporting := by cbv
  have free : value.RecordFree := by
    refine .object ?_
    simp only [List.forall_mem_cons]
    exact ⟨.object (by simpa using .scalar rfl), .scalar rfl, .object (by simpa using .scalar rfl), .scalar rfl,
      List.forall_mem_nil _⟩
  have ordered : value.Ordered := by
    refine .object (by decide) ?_
    simp only [List.forall_mem_cons]
    exact ⟨.object (by decide) (by simpa using .scalar rfl), .scalar rfl,
      .object (by decide) (by simpa using .scalar rfl), .scalar rfl, List.forall_mem_nil _⟩
  have ordered' : other.Ordered := by
    refine .object (by decide) ?_
    simp only [List.forall_mem_cons]
    exact ⟨.object .nil (List.forall_mem_nil _), .scalar rfl, .object (by decide) (by simpa using .scalar rfl),
      List.forall_mem_nil _⟩
  have inside : Value.SameKept none (.top named) (.object [("x", .null), ("z", .null)]) (.object [("x", .null)]) := by
    refine .object ?_ ?_ ?_ ?_
    · intro key kept
      obtain ⟨continuation, kept⟩ := Option.isSome_iff_exists.mp kept
      obtain ⟨rfl, rfl⟩ := kept?_named kept
      rfl
    · rintro key value other kept
      cases (kept?_named kept).2
    · rintro key value other kept found found'
      obtain ⟨rfl, _⟩ := kept?_named kept
      exact Option.some.inj (found.symm.trans found')
    · rintro key lower value other kept
      cases (kept?_named kept).2
  have same : Value.SameKept none (.top (reporting.stage 0)) value other := by
    refine .object ?_ ?_ ?_ ?_
    · intro key kept
      obtain ⟨continuation, kept⟩ := Option.isSome_iff_exists.mp kept
      obtain ⟨rfl, _⟩ | ⟨rfl, _⟩ | ⟨rfl, _⟩ := kept?_reporting kept <;> rfl
    · rintro key value other kept found found'
      obtain ⟨rfl, _⟩ | ⟨_, ⟨⟩⟩ | ⟨_, ⟨⟩⟩ := kept?_reporting kept
      cases Option.some.inj found
      cases Option.some.inj found'
      rfl
    · rintro key value other kept found found'
      obtain ⟨_, ⟨⟩⟩ | ⟨rfl, _⟩ | ⟨_, ⟨⟩⟩ := kept?_reporting kept
      exact Option.some.inj (found.symm.trans found')
    · rintro key lower value other kept found found'
      obtain ⟨_, ⟨⟩⟩ | ⟨_, ⟨⟩⟩ | ⟨rfl, ⟨⟩⟩ := kept?_reporting kept
      cases Option.some.inj found
      cases Option.some.inj found'
      exact inside
  exact ⟨compiled, free, ordered, ordered', same, fun engine view =>
    project_eq_of_sameKept compiled engine none view free ordered ordered' same⟩

end Engine
end FieldSelect
