import FieldSelect.Engine
import FieldSelect.Proofs.Filter.Stages
import FieldSelect.Proofs.Value.Prune

/-! On values without records, a filter without calls cuts a value down to the entries on some key paths,
and which ones does not depend on the value. -/
namespace FieldSelect

namespace Frontier
variable {frontier lower : Frontier} {bindings : Option Bindings} {key : String} {path : List String}

/-- What the frontier keeps of a field of that name, if it keeps the field. -/
def kept? (frontier : Frontier) (bindings : Option Bindings) (key : String) : Option Continuation :=
  match frontier.resolve key bindings with
  | .included selector _ _ => some (frontier.next selector)
  | _ => none

/-- The key paths along which entries are kept below a value that the frontier is for. -/
def admits (bindings : Option Bindings) : Frontier → List String → Bool
  | _, [] => true
  | frontier, key :: rest =>
    match frontier.kept? bindings key with
    | none => false
    | some .stop => rest.isEmpty
    | some .whole => true
    | some (.descend lower) => admits bindings lower rest

/-- The key paths kept below a field, from there on. -/
def continued (bindings : Option Bindings) : Continuation → List String → Bool
  | .stop, path => path.isEmpty
  | .whole, _ => true
  | .descend lower, path => lower.admits bindings path

/-- Whatever is kept, all that it stands in is kept too. -/
theorem admits_of_append (front back : List String) (admitted : admits bindings frontier (front ++ back) = true) :
    admits bindings frontier front = true := by
  induction front generalizing frontier with
  | nil => rfl
  | cons key rest ih =>
    rw [List.cons_append, admits] at admitted
    rw [admits]
    split at admitted
    · exact admitted
    · simp at admitted
      simp [admitted.1]
    · rfl
    · exact ih admitted

theorem admits_single {continuation : Continuation} (kept : frontier.kept? bindings key = some continuation) :
    frontier.admits bindings [key] = true := by
  rw [admits, kept]
  cases continuation <;> rfl

theorem admits_below {continuation : Continuation} (kept : frontier.kept? bindings key = some continuation) :
    (fun path => frontier.admits bindings (key :: path)) = continued bindings continuation := by
  funext path
  rw [admits, kept]
  cases continuation <;> rfl

/-- No selector of the frontier has calls. -/
def Quiet (frontier : Frontier) : Prop := ∀ selector ∈ frontier.selectors, selector.isQuiet = true

theorem LeadsTo.quiet (leads : frontier.LeadsTo lower) (quiet : frontier.Quiet) : lower.Quiet := by
  refine leads.forall_mem (fun parent own => ?_) quiet
  rw [Selector.isQuiet_eq, Bool.and_eq_true] at own
  exact Selector.allQuiet_iff.mp own.2

theorem admits_bare (path : List String) (frontier : Frontier) :
    admits bindings frontier.bare path = admits bindings frontier path := by
  induction path generalizing frontier with
  | nil => rfl
  | cons key rest ih =>
    have same : frontier.bare.kept? bindings key = (frontier.kept? bindings key).map Continuation.bare := by
      rw [kept?, kept?, resolve_bare]
      cases frontier.resolve key bindings with
      | included selector score inherited => exact congrArg some (frontier.next_bare selector)
      | excluded selector => rfl
      | unmatched => rfl
    rw [admits, admits, same]
    cases frontier.kept? bindings key with
    | none => rfl
    | some continuation =>
      cases continuation with
      | stop => rfl
      | whole => rfl
      | descend lower => exact ih lower

theorem admits_top_bare (selectors : List Selector) (path : List String) :
    (top (selectors.map Selector.bare)).admits bindings path = (top selectors).admits bindings path :=
  admits_bare path (top selectors)

end Frontier

namespace Projector
variable {m : Type → Type} [Monad m] [LawfulMonad m] {α β : Type}

theorem mapM_eq_pure {step : α → Projection m β} {f : α → β} {items : List α}
    (each : ∀ item ∈ items, step item = pure (f item)) : items.mapM step = pure (items.map f) := by
  induction items with
  | nil => rfl
  | cons item rest ih =>
    rw [List.mapM_cons, each item List.mem_cons_self, pure_bind,
      ih fun item member => each item (List.mem_cons_of_mem _ member), pure_bind, List.map_cons]

variable (projector : Projector m)

/-- Without records there is nothing to choose in a value that is kept as a whole. -/
theorem wholeWithin_recordFree {value : Value} (free : value.RecordFree) (levels : Nat) :
    projector.wholeWithin levels value = pure value := by
  induction levels generalizing value with
  | zero => rfl
  | succ levels ih =>
    cases free with
    | scalar flat => cases value <;> first | rfl | simp [Value.height] at flat
    | @array items inside =>
      have each : ∀ item ∈ items, projector.wholeWithin levels item = pure (id item) :=
        fun item member => ih (inside item member)
      rw [wholeWithin, mapM_eq_pure each, pure_bind, List.map_id]
    | @object entries inside =>
      have each : ∀ entry ∈ entries, (do return (entry.1, ← projector.wholeWithin levels entry.2)) =
          (pure (id entry) : Projection m (String × Value)) := by
        intro entry member
        rw [ih (inside entry member), pure_bind]
        rfl
      rw [wholeWithin, mapM_eq_pure each, pure_bind, List.map_id]

section Fields
variable {levels : Nat} {descend : Value → Frontier → Projection m Value} {frontier : Frontier}

/-- What is kept of a value below a field is what its key paths say. -/
theorem keep_eq_prune {value : Value} (free : value.RecordFree) {continuation : Continuation}
    (below : ∀ lower, continuation = .descend lower →
      descend value lower = pure (value.prune (lower.admits projector.bindings))) :
    projector.keep levels descend value continuation =
      pure (value.prune (Frontier.continued projector.bindings continuation)) := by
  cases continuation with
  | stop => exact congrArg pure free.shell_eq_prune
  | whole =>
    rw [keep, projector.wholeWithin_recordFree free]
    exact congrArg pure value.prune_true.symm
  | descend lower => exact below lower rfl

/-- One field of an object is kept or not as its path says, and pruned below. -/
theorem field_eq_pruneEntry (quiet : frontier.Quiet) {key : String} {value : Value} (free : value.RecordFree)
    (below : ∀ lower, frontier.LeadsTo lower →
      descend value lower = pure (value.prune (lower.admits projector.bindings))) :
    projector.field levels descend frontier ⟨key, value, false⟩ =
      pure (Value.pruneEntry (frontier.admits projector.bindings) (key, value)) := by
  have dropped : frontier.kept? projector.bindings key = none →
      Value.pruneEntry (frontier.admits projector.bindings) (key, value) = none := by
    intro lost
    exact if_neg (by simp [Frontier.admits, lost])
  rw [field, chosen?]
  cases resolved : frontier.resolve key projector.bindings with
  | included selector score inherited =>
    have present := Frontier.mem_of_resolve resolved
    have quiet : selector.hasCalls = false := by
      have within := quiet selector present
      rw [Selector.isQuiet_eq, Bool.and_eq_true, Bool.not_eq_true'] at within
      exact within.1
    have kept : frontier.kept? projector.bindings key = some (frontier.next selector) := by
      rw [Frontier.kept?, resolved]
    have pruned : projector.keep levels descend value (frontier.next selector) =
        pure (value.prune (Frontier.continued projector.bindings (frontier.next selector))) :=
      projector.keep_eq_prune free fun lower next => below lower ⟨selector, present, next⟩
    rw [Value.pruneEntry, Frontier.admits_single kept, if_pos rfl, Frontier.admits_below kept]
    simp only [pruned, pure_bind, projector.applyCalls_of_no_calls quiet]
    exact pure_bind _ _
  | excluded selector => rw [dropped (by rw [Frontier.kept?, resolved])]
  | unmatched =>
    rw [dropped (by rw [Frontier.kept?, resolved])]
    rfl

/-- An object is pruned by its fields. -/
theorem fields_eq_prune (quiet : frontier.Quiet) {entries : Entries Value} (sorted : Entries.Sorted entries)
    (free : ∀ entry ∈ entries, entry.2.RecordFree)
    (below : ∀ entry ∈ entries, ∀ lower, frontier.LeadsTo lower →
      descend entry.2 lower = pure (entry.2.prune (lower.admits projector.bindings))) :
    projector.fields levels descend frontier (entries.map fun (name, value) => ⟨name, value, false⟩) =
      pure (.object (Value.pruneEntries (frontier.admits projector.bindings) entries)) := by
  have each : ∀ entry ∈ entries, projector.field levels descend frontier ⟨entry.1, entry.2, false⟩ =
      pure (Value.pruneEntry (frontier.admits projector.bindings) entry) :=
    fun entry member => projector.field_eq_pruneEntry quiet (free entry member) (below entry member)
  have kept : (entries.map fun (name, value) => (⟨name, value, false⟩ : Offer)).mapM
      (projector.field levels descend frontier) =
        pure (entries.map (Value.pruneEntry (frontier.admits projector.bindings))) := by
    rw [List.mapM_map]
    exact mapM_eq_pure each
  have ordered : Entries.Sorted (Value.pruneEntries (frontier.admits projector.bindings) entries) :=
    List.Pairwise.sublist (Value.keys_pruneEntries_sublist entries) sorted
  rw [fields, kept, pure_bind, List.filterMap_map, Function.id_comp, ← Value.pruneEntries_eq_filterMap,
    Entries.ofPairs_of_sorted ordered]

end Fields

/-- One stage keeps what its frontier admits. -/
theorem projectWithin_eq_prune (view : String) {levels : Nat} {value : Value} (free : value.RecordFree)
    (ordered : value.Ordered) (enough : value.height ≤ levels) {frontier : Frontier} (quiet : frontier.Quiet) :
    projector.projectWithin view levels value frontier = pure (value.prune (frontier.admits projector.bindings)) := by
  induction levels generalizing value frontier with
  | zero => cases value <;> first | rfl | simp [Value.height] at enough
  | succ levels ih =>
    cases free with
    | scalar flat => cases value <;> first | rfl | simp [Value.height] at flat
    | @array items inside =>
      rw [Value.height] at enough
      cases ordered with
      | scalar flat => simp [Value.height] at flat
      | array ordered =>
        have each : ∀ item ∈ items, projector.projectWithin view levels item frontier =
            pure (item.prune (frontier.admits projector.bindings)) := fun item member =>
          ih (inside item member) (ordered item member)
            (Nat.le_trans (Value.height_le_of_mem_items member) (Nat.le_of_succ_le_succ enough)) quiet
        rw [projectWithin, mapM_eq_pure each, pure_bind, Value.prune, Value.pruneItems_eq_map]
    | @object entries inside =>
      rw [Value.height] at enough
      cases ordered with
      | scalar flat => simp [Value.height] at flat
      | object sorted ordered =>
        refine projector.fields_eq_prune quiet sorted inside fun entry member lower leads => ?_
        exact ih (inside entry member) (ordered entry member)
          (Nat.le_trans (Value.height_le_of_mem_entries member) (Nat.le_of_succ_le_succ enough)) (leads.quiet quiet)

end Projector

namespace Tree

/-- The key paths that all stages keep. -/
def keeps (tree : Tree) (bindings : Option Bindings) (path : List String) : Bool :=
  (List.range tree.stageCount).all fun stage => (Frontier.top (tree.stage stage)).admits bindings path

theorem keeps_of_append {tree : Tree} {bindings : Option Bindings} (front back : List String)
    (kept : tree.keeps bindings (front ++ back) = true) : tree.keeps bindings front = true := by
  rw [keeps, List.all_eq_true] at kept ⊢
  exact fun stage member => Frontier.admits_of_append front back (kept stage member)

theorem quiet_top {tree : Tree} (quiet : Selector.allQuiet tree.selectors = true) (stage : Nat) :
    (Frontier.top (tree.stage stage)).Quiet :=
  fun selector member => Selector.allQuiet_iff.mp quiet selector (Frontier.mem_of_mem_top member)

end Tree

namespace Projector
variable {m : Type → Type} [Monad m] [LawfulMonad m] (projector : Projector m) {tree : Tree}

/-- Some stages, one after the other. -/
theorem foldlM_projectStage_eq_prune (quiet : Selector.allQuiet tree.selectors = true) (view : String)
    (stages : List Nat) {value : Value} (free : value.RecordFree) (ordered : value.Ordered) :
    stages.foldlM (projector.projectStage tree view) value =
      pure (value.prune fun path =>
        stages.all fun stage => (Frontier.top (tree.stage stage)).admits projector.bindings path) := by
  induction stages generalizing value with
  | nil => exact congrArg pure value.prune_true.symm
  | cons stage rest ih =>
    have first : projector.projectStage tree view value stage =
        pure (value.prune ((Frontier.top (tree.stage stage)).admits projector.bindings)) :=
      projector.projectWithin_eq_prune view free ordered (Nat.le_refl _) (Tree.quiet_top quiet stage)
    rw [List.foldlM_cons, first, pure_bind, ih free.prune ordered.prune, Value.prune_prune]
    simp only [List.all_cons]

/-- Stage after stage, a filter without calls prunes a value. -/
theorem project_eq_prune (quiet : Selector.allQuiet tree.selectors = true) (view : String) {value : Value}
    (free : value.RecordFree) (ordered : value.Ordered) :
    projector.project tree view value = pure (value.prune (tree.keeps projector.bindings)) := by
  rw [project]
  split
  · rename_i empty
    rw [whole, projector.wholeWithin_recordFree free]
    refine congrArg pure (Eq.trans value.prune_true.symm ?_)
    congr 1
    funext path
    rw [Tree.keeps, empty]
    rfl
  · exact projector.foldlM_projectStage_eq_prune quiet view _ free ordered

end Projector

namespace Tree.MadeOf
variable {tree : Tree} {blocks : List (List Selector)}

/-- Places and numbers do not count for the paths that are kept. -/
theorem keeps_eq (made : tree.MadeOf blocks) (bindings : Option Bindings) (path : List String) :
    tree.keeps bindings path =
      (blocks.map (List.map Selector.bare)).all fun block => (Frontier.top block).admits bindings path := by
  have stages : ∀ {index : Nat} (inside : index < blocks.length),
      (Frontier.top (tree.stage index)).admits bindings path =
        (Frontier.top (blocks[index].map Selector.bare)).admits bindings path := by
    intro index inside
    rw [made.stage inside, ← Frontier.admits_top_bare, ← Selector.bareAll_eq_map, Selector.bareAll_allWithStage,
      Selector.bareAll_eq_map]
  rw [Bool.eq_iff_iff, Tree.keeps, made.stageCount, List.all_map]
  simp only [List.all_eq_true, List.mem_range, Function.comp_apply]
  constructor
  · intro kept block member
    obtain ⟨index, inside, rfl⟩ := List.mem_iff_getElem.mp member
    rw [← stages inside]
    exact kept index inside
  · intro kept index inside
    rw [stages inside]
    exact kept _ (List.getElem_mem inside)

theorem allQuiet_numbered (number : Nat) (blocks : List (List Selector)) :
    Selector.allQuiet (Parser.numbered number blocks) = (blocks.map (List.map Selector.bare)).all Selector.allQuiet := by
  induction blocks generalizing number with
  | nil => rfl
  | cons block rest ih =>
    rw [Parser.numbered, Selector.allQuiet_append, ih, List.map_cons, List.all_cons, ← Selector.bareAll_eq_map,
      Selector.allQuiet_bareAll, ← Selector.allQuiet_bareAll, Selector.bareAll_allWithStage, Selector.allQuiet_bareAll]

/-- What two filters with a bar between them keep is what both keep. -/
theorem bar {text other : String} {tree tree' : Tree} (compiled : compile text = .ok tree)
    (compiled' : compile other = .ok tree') (quiet : Selector.allQuiet tree.selectors = true)
    (quiet' : Selector.allQuiet tree'.selectors = true) :
    ∃ whole : Tree, compile (text ++ "|" ++ other) = .ok whole ∧ Selector.allQuiet whole.selectors = true ∧
      ∀ bindings path, whole.keeps bindings path = (tree.keeps bindings path && tree'.keeps bindings path) := by
  obtain ⟨blocks, blocks', together, made, made', whole, compiled, madeWhole, same⟩ := compile_bar compiled compiled'
  refine ⟨whole, compiled, ?_, fun bindings path => ?_⟩
  · rw [made.selectors, allQuiet_numbered] at quiet
    rw [made'.selectors, allQuiet_numbered] at quiet'
    rw [madeWhole.selectors, allQuiet_numbered, same, List.map_append, List.all_append, quiet, quiet']
    rfl
  · rw [madeWhole.keeps_eq, made.keeps_eq, made'.keeps_eq, same, List.map_append, List.all_append]

end Tree.MadeOf

namespace Engine

/-- Without records and calls, projecting keeps the entries on some key paths, the same ones for every value.
So doing it again changes nothing, and two filters can be put in front of one another either way. -/
theorem project_prunes {text : String} {tree : Tree} (compiled : FieldSelect.compile text = .ok tree)
    (quiet : Selector.allQuiet tree.selectors = true) (bindings : Option Bindings) :
    (∃ keeps : List String → Bool, (∀ front back, keeps (front ++ back) = true → keeps front = true) ∧
      ∀ (engine : Engine) (view : String) (value : Value), value.RecordFree → value.Ordered →
        engine.run ((engine.projector bindings).project tree view value) = (.ok (value.prune keeps), engine) ∧
        engine.run ((engine.projector bindings).project tree view (value.prune keeps)) =
          (.ok (value.prune keeps), engine)) ∧
    ∀ (other : String) (tree' : Tree), FieldSelect.compile other = .ok tree' → Selector.allQuiet tree'.selectors = true →
      ∃ onward back : Tree,
        FieldSelect.compile (text ++ "|" ++ other) = .ok onward ∧
        FieldSelect.compile (other ++ "|" ++ text) = .ok back ∧
        ∀ (engine : Engine) (view : String) (value : Value), value.RecordFree → value.Ordered →
          ∃ result, engine.run ((engine.projector bindings).project onward view value) = (.ok result, engine) ∧
            engine.run ((engine.projector bindings).project back view value) = (.ok result, engine) := by
  have pruned : ∀ {tree : Tree}, Selector.allQuiet tree.selectors = true →
      ∀ (engine : Engine) (view : String) (value : Value), value.RecordFree → value.Ordered →
        engine.run ((engine.projector bindings).project tree view value) =
          (.ok (value.prune (tree.keeps bindings)), engine) := by
    intro tree quiet engine view value free ordered
    rw [Projector.project_eq_prune _ quiet view free ordered]
    rfl
  constructor
  · refine ⟨tree.keeps bindings, Tree.keeps_of_append, fun engine view value free ordered => ⟨?_, ?_⟩⟩
    · exact pruned quiet engine view value free ordered
    · rw [pruned quiet engine view _ free.prune ordered.prune, Value.prune_prune]
      simp only [Bool.and_self]
  · intro other tree' compiled' quiet'
    obtain ⟨onward, compiledOnward, quietOnward, keepsOnward⟩ := Tree.MadeOf.bar compiled compiled' quiet quiet'
    obtain ⟨back, compiledBack, quietBack, keepsBack⟩ := Tree.MadeOf.bar compiled' compiled quiet' quiet
    have same : onward.keeps bindings = back.keeps bindings := by
      funext path
      rw [keepsOnward, keepsBack, Bool.and_comm]
    refine ⟨onward, back, compiledOnward, compiledBack, fun engine view value free ordered => ?_⟩
    refine ⟨value.prune (onward.keeps bindings), pruned quietOnward engine view value free ordered, ?_⟩
    rw [same]
    exact pruned quietBack engine view value free ordered

theorem project_either_way :
    let tree : Tree := ⟨"a", [.named (.exact "a") .start]⟩
    let value : Value := .object [("a", .object []), ("b", .null)]
    FieldSelect.compile "a" = .ok tree ∧ Selector.allQuiet tree.selectors = true ∧
      ∃ onward back : Tree, FieldSelect.compile "a|-b" = .ok onward ∧ FieldSelect.compile "-b|a" = .ok back ∧
        ∀ (engine : Engine) (view : String),
          ∃ result, engine.run ((engine.projector none).project onward view value) = (.ok result, engine) ∧
            engine.run ((engine.projector none).project back view value) = (.ok result, engine) := by
  intro tree value
  have compiled : FieldSelect.compile "a" = .ok tree := rfl
  have compiled' : FieldSelect.compile "-b" =
      .ok ⟨"-b", [{ Selector.named (.exact "b") ⟨1, 2⟩ with negated := true }, .named .anyShallow ⟨1, 2⟩]⟩ := rfl
  have free : value.RecordFree :=
    .object (List.forall_mem_cons.mpr ⟨.object nofun, List.forall_mem_cons.mpr ⟨.scalar rfl, nofun⟩⟩)
  have ordered : value.Ordered := by
    refine .object (by decide) ?_
    exact List.forall_mem_cons.mpr ⟨.object .nil nofun, List.forall_mem_cons.mpr ⟨.scalar rfl, nofun⟩⟩
  obtain ⟨onward, back, onwardCompiled, backCompiled, same⟩ :=
    (project_prunes compiled rfl none).2 "-b" _ compiled' rfl
  exact ⟨compiled, rfl, onward, back, onwardCompiled, backCompiled,
    fun engine view => same engine view value free ordered⟩

end Engine
end FieldSelect
