import FieldSelect.Proofs.Filter.Bounding
import FieldSelect.Proofs.Projection.Pruning

/-! A `**` with depth bounds cuts values off at a depth. Objects count for the depth and arrays do not. -/
namespace FieldSelect

namespace Value

mutual

/-- The value with objects inside one another only up to a depth, and empty ones where the others stood. -/
def truncate : Nat → Value → Value
  | depth, .array items => .array (truncateItems depth items)
  | 0, .object _ => .object []
  | depth + 1, .object entries => .object (truncateEntries depth entries)
  | _, other => other

def truncateItems : Nat → List Value → List Value
  | _, [] => []
  | depth, item :: rest => item.truncate depth :: truncateItems depth rest

def truncateEntries : Nat → List (String × Value) → List (String × Value)
  | _, [] => []
  | depth, (key, value) :: rest => (key, value.truncate depth) :: truncateEntries depth rest

end

mutual

/-- A key path is as long as the objects are deep in which it leads. -/
theorem truncate_eq_prune (depth : Nat) :
    ∀ value : Value, value.truncate depth = value.prune fun path => decide (path.length ≤ depth)
  | .array items => by rw [truncate, prune, truncateItems_eq_pruneItems depth items]
  | .object entries => by
    cases depth with
    | zero =>
      have empty : (fun path : List String => decide (path.length ≤ 0)) = List.isEmpty := by
        funext path
        cases path <;> rfl
      rw [truncate, prune, empty, pruneEntries_none]
    | succ depth => rw [truncate, prune, truncateEntries_eq_pruneEntries depth entries]
  | .null | .boolean _ | .integer _ | .float _ | .string _ | .record _ _ => by cases depth <;> rfl

theorem truncateItems_eq_pruneItems (depth : Nat) : ∀ items : List Value,
    truncateItems depth items = pruneItems (fun path => decide (path.length ≤ depth)) items
  | [] => rfl
  | item :: rest => by
    rw [truncateItems, pruneItems, truncate_eq_prune depth item, truncateItems_eq_pruneItems depth rest]

theorem truncateEntries_eq_pruneEntries (depth : Nat) : ∀ entries : List (String × Value),
    truncateEntries depth entries = pruneEntries (fun path => decide (path.length ≤ depth + 1)) entries
  | [] => rfl
  | (key, value) :: rest => by
    have single : decide ([key].length ≤ depth + 1) = true := by simp
    have below : (fun path : List String => decide ((key :: path).length ≤ depth + 1)) =
        fun path => decide (path.length ≤ depth) := by simp
    rw [truncateEntries, pruneEntries, if_pos single, below, truncate_eq_prune depth value,
      truncateEntries_eq_pruneEntries depth rest]

end

end Value

namespace Selector
variable {position : Position} {depths : Nat × Option Nat}

@[simp] theorem name_deep : (deep position depths).name = .anyDeep := rfl

@[simp] theorem recursive_deep : (deep position depths).recursive = true := rfl

theorem recursesAt_deep {low : Nat} {high : Option Nat} (depth : Nat) :
    (deep position (low, high)).recursesAt depth = (decide (low ≤ depth) && high.all (depth < ·)) := rfl

end Selector

namespace Frontier
variable {position : Position} {depths : Nat × Option Nat} {bindings : Option Bindings} {depth : Nat} {key : String}

/-- What is left of a selector that stands by itself, that many levels below its block. -/
def alone (selector : Selector) : Nat → Frontier
  | 0 => top [selector]
  | depth + 1 => ⟨[], if selector.reaches (depth + 1) then [(selector, depth + 1)] else []⟩

theorem best?_top_deep : (top [.deep position depths]).best? key bindings =
    if (Selector.deep position depths).recursesAt 0 then some (.deep position depths, Name.deepScore) else none := by
  rw [best?, top, List.foldl_cons, List.foldl_nil, fit?, takesPart]
  by_cases recurs : (Selector.deep position depths).recursesAt 0 = true <;> simp [recurs, better, Name.score?]

theorem nearest?_alone : (alone (.deep position depths) (depth + 1)).nearest? key bindings =
    if (Selector.deep position depths).recursesAt (depth + 1) then some (.deep position depths, Name.deepScore)
    else none := by
  rw [nearest?, alone]
  by_cases recurs : (Selector.deep position depths).recursesAt (depth + 1) = true
  · simp [recurs, Selector.recursesAt_reaches recurs, Name.score?]
  · split <;> simp [recurs]

theorem passedDown_alone (reaches : (Selector.deep position depths).reaches depth = true) :
    ⟨[], (alone (.deep position depths) depth).passedDown⟩ = alone (.deep position depths) (depth + 1) := by
  cases depth with
  | zero =>
    have recursive : [Selector.deep position depths].filter (·.recursive) = [.deep position depths] := rfl
    rw [passedDown, alone, top, recursive, alone]
    by_cases further : (Selector.deep position depths).reaches 1 = true <;> simp [further]
  | succ depth =>
    rw [passedDown, alone, if_pos reaches, alone]
    by_cases further : (Selector.deep position depths).reaches (depth + 1 + 1) = true <;> simp [further]

theorem next_alone (recurs : (Selector.deep position depths).recursesAt depth = true) :
    (alone (.deep position depths) depth).next (.deep position depths) =
      .descend (alone (.deep position depths) (depth + 1)) := by
  rw [← passedDown_alone (Selector.recursesAt_reaches recurs)]
  rfl

theorem resolve_alone : (alone (.deep position depths) depth).resolve key bindings =
    if (Selector.deep position depths).recursesAt depth then
      .included (.deep position depths) Name.deepScore (decide (0 < depth))
    else .unmatched := by
  -- On its own level the selector is asked as one of the block, and further down as one from above.
  cases depth with
  | zero =>
    rw [resolve, alone, best?_top_deep]
    by_cases recurs : (Selector.deep position depths).recursesAt 0 = true
    · rw [if_pos recurs, if_pos recurs]
      rfl
    · rw [if_neg recurs, if_neg recurs]
      rfl
  | succ depth =>
    rw [resolve, nearest?_alone]
    by_cases recurs : (Selector.deep position depths).recursesAt (depth + 1) = true
    · rw [if_pos recurs, if_pos recurs]
      rfl
    · rw [if_neg recurs, if_neg recurs]
      rfl

/-- On every level all fields are kept or none. -/
theorem kept?_alone (depth : Nat) (key : String) :
    (alone (.deep position depths) depth).kept? bindings key =
      if (Selector.deep position depths).recursesAt depth then
        some (.descend (alone (.deep position depths) (depth + 1)))
      else none := by
  rw [kept?, resolve_alone]
  by_cases recurs : (Selector.deep position depths).recursesAt depth = true
  · rw [if_pos recurs, if_pos recurs, ← next_alone recurs]
  · rw [if_neg recurs, if_neg recurs]

/-- A field is kept if the selector matches on its level and on all above it. -/
theorem admits_alone (depth : Nat) (path : List String) :
    (alone (.deep position depths) depth).admits bindings path = true ↔
      ∀ above < path.length, (Selector.deep position depths).recursesAt (depth + above) = true := by
  induction path generalizing depth with
  | nil => simp [admits]
  | cons key rest ih =>
    rw [admits, kept?_alone, List.length_cons, Nat.forall_lt_succ_left]
    by_cases recurs : (Selector.deep position depths).recursesAt depth = true
    · rw [if_pos recurs]
      simp only [ih, recurs, true_and, Nat.add_zero, Nat.add_assoc, Nat.add_comm 1]
    · simp [recurs]

end Frontier

namespace DepthBound
variable {bound : DepthBound} {tree : Tree}

/-- The filter that has just these bounds keeps a key path if each level on it is within the bounds. -/
theorem keeps_iff (compiled : compile bound.text = .ok tree) (bindings : Option Bindings) (path : List String) :
    tree.keeps bindings path = true ↔ ∀ above < path.length, bound.low ≤ above ∧ ∀ most ∈ bound.high, above < most := by
  obtain ⟨position, single⟩ := bound.compile_bound.2 tree compiled
  have count : tree.stageCount = 1 := by
    rw [Tree.stageCount, single]
    rfl
  have stage : tree.stage 0 = [.deep position (bound.low, bound.high)] := by
    rw [Tree.stage, single]
    rfl
  rw [Tree.keeps, count, List.range_one, List.all_cons, List.all_nil, Bool.and_true, stage]
  refine (Frontier.admits_alone 0 path).trans (forall₂_congr fun above _ => ?_)
  rw [Selector.recursesAt_deep, Nat.zero_add, Bool.and_eq_true, decide_eq_true_eq]
  cases bound.high <;> simp

theorem allQuiet (compiled : compile bound.text = .ok tree) : Selector.allQuiet tree.selectors = true := by
  obtain ⟨position, single⟩ := bound.compile_bound.2 tree compiled
  rw [single]
  rfl

theorem exists_compile_limited {most : Nat} (positive : 1 ≤ most) :
    (∃ tree, compile (limited 0 most).text = .ok tree) ↔ most < 2 ^ 63 := by
  have rises : 0 < most := positive
  simp [(limited 0 most).compile_bound.1, Narrow, Rises, low, high, rises]

theorem keeps_limited {most : Nat} (compiled : compile (limited 0 most).text = .ok tree) (bindings : Option Bindings) :
    tree.keeps bindings = fun path => decide (path.length ≤ most) := by
  funext path
  rw [Bool.eq_iff_iff, keeps_iff compiled, decide_eq_true_eq]
  constructor
  · intro kept
    by_contra longer
    have last := (kept most (Nat.lt_of_not_le longer)).2 most rfl
    exact Nat.lt_irrefl most last
  · rintro short above inside
    refine ⟨Nat.zero_le above, ?_⟩
    rintro _ ⟨⟩
    exact Nat.lt_of_lt_of_le inside short

theorem keeps_of_low_pos (deep : 0 < bound.low) (compiled : compile bound.text = .ok tree)
    (bindings : Option Bindings) : tree.keeps bindings = fun path => decide (path.length ≤ 0) := by
  funext path
  rw [Bool.eq_iff_iff, keeps_iff compiled, decide_eq_true_eq]
  constructor
  · intro kept
    by_contra longer
    have first := (kept 0 (Nat.lt_of_not_le longer)).1
    exact Nat.not_le_of_lt deep first
  · rintro short above inside
    exact absurd inside (Nat.not_lt_of_le (Nat.le_trans short (Nat.zero_le above)))

end DepthBound

namespace Engine

/-- A filter that has just these bounds keeps everything up to the greatest depth if it begins at depth zero. If it
begins lower down, nothing is kept in any object. -/
theorem project_depthBound (engine : Engine) (bindings : Option Bindings) (view : String) {value : Value}
    (free : value.RecordFree) (ordered : value.Ordered) :
    (∀ most : Nat, 1 ≤ most →
      ((∃ tree, FieldSelect.compile (DepthBound.limited 0 most).text = .ok tree) ↔ most < 2 ^ 63) ∧
        ∀ tree, FieldSelect.compile (DepthBound.limited 0 most).text = .ok tree →
          engine.run ((engine.projector bindings).project tree view value) = (.ok (value.truncate most), engine)) ∧
    ∀ bound : DepthBound, 1 ≤ bound.low →
      ((∃ tree, FieldSelect.compile bound.text = .ok tree) ↔ bound.Narrow ∧ bound.Rises) ∧
        ∀ tree, FieldSelect.compile bound.text = .ok tree →
          engine.run ((engine.projector bindings).project tree view value) = (.ok (value.truncate 0), engine) := by
  have truncated {bound : DepthBound} {tree : Tree} (compiled : FieldSelect.compile bound.text = .ok tree) {depth : Nat}
      (keeps : tree.keeps bindings = fun path => decide (path.length ≤ depth)) :
      engine.run ((engine.projector bindings).project tree view value) = (.ok (value.truncate depth), engine) := by
    rw [Projector.project_eq_prune _ (DepthBound.allQuiet compiled) view free ordered, Value.truncate_eq_prune, ← keeps]
    rfl
  refine ⟨fun most positive => ⟨?_, fun tree compiled => ?_⟩, fun bound deep => ⟨?_, fun tree compiled => ?_⟩⟩
  · exact DepthBound.exists_compile_limited positive
  · exact truncated compiled (DepthBound.keeps_limited compiled bindings)
  · exact bound.compile_bound.1
  · exact truncated compiled (DepthBound.keeps_of_low_pos deep compiled bindings)

theorem project_depthBound_of_array :
    let value : Value := .object [("a", .array [.object [("b", .object [("c", .null)])], .null])]
    (DepthBound.limited 0 2).text = "**\x7b0,2\x7d" ∧ (DepthBound.unlimited 1).text = "**\x7b1,\x7d" ∧
      value.RecordFree ∧ value.Ordered ∧ 1 ≤ 2 ∧ 1 ≤ (DepthBound.unlimited 1).low ∧
      ∃ upper lower : Tree, FieldSelect.compile (DepthBound.limited 0 2).text = .ok upper ∧
        FieldSelect.compile (DepthBound.unlimited 1).text = .ok lower ∧
        ∀ (engine : Engine) (bindings : Option Bindings) (view : String),
          engine.run ((engine.projector bindings).project upper view value) =
            (.ok (.object [("a", .array [.object [("b", .object [])], .null])]), engine) ∧
          engine.run ((engine.projector bindings).project lower view value) = (.ok (.object []), engine) := by
  intro value
  have free : value.RecordFree := by
    have inner : (Value.object [("c", .null)]).RecordFree := .object (List.forall_mem_cons.mpr ⟨.scalar rfl, nofun⟩)
    have item : (Value.object [("b", .object [("c", .null)])]).RecordFree :=
      .object (List.forall_mem_cons.mpr ⟨inner, nofun⟩)
    have items : (Value.array [.object [("b", .object [("c", .null)])], .null]).RecordFree :=
      .array (List.forall_mem_cons.mpr ⟨item, List.forall_mem_cons.mpr ⟨.scalar rfl, nofun⟩⟩)
    exact .object (List.forall_mem_cons.mpr ⟨items, nofun⟩)
  have ordered : value.Ordered := by
    have inner : (Value.object [("c", .null)]).Ordered :=
      .object (by decide) (List.forall_mem_cons.mpr ⟨.scalar rfl, nofun⟩)
    have item : (Value.object [("b", .object [("c", .null)])]).Ordered :=
      .object (by decide) (List.forall_mem_cons.mpr ⟨inner, nofun⟩)
    have items : (Value.array [.object [("b", .object [("c", .null)])], .null]).Ordered :=
      .array (List.forall_mem_cons.mpr ⟨item, List.forall_mem_cons.mpr ⟨.scalar rfl, nofun⟩⟩)
    exact .object (by decide) (List.forall_mem_cons.mpr ⟨items, nofun⟩)
  obtain ⟨upper, above⟩ : ∃ tree, FieldSelect.compile (DepthBound.limited 0 2).text = .ok tree := ⟨_, rfl⟩
  obtain ⟨lower, below⟩ : ∃ tree, FieldSelect.compile (DepthBound.unlimited 1).text = .ok tree := ⟨_, rfl⟩
  refine ⟨rfl, rfl, free, ordered, by decide, by decide, upper, lower, above, below, ?_⟩
  refine fun engine bindings view => ⟨?_, ?_⟩
  · exact ((project_depthBound engine bindings view free ordered).1 2 (by decide)).2 upper above
  · exact ((project_depthBound engine bindings view free ordered).2 (.unlimited 1) (by decide)).2 lower below

end Engine
end FieldSelect
