import FieldSelect.Proofs.Filter.Merging

/-! Blocks made of negated paths: which paths they drop, and where `*` stands in them. Siblings are merged
without a change to either, as long as the blocks below them already have their `*`. -/
namespace FieldSelect
namespace Selector

/-- Drops the field of that name. -/
def drop (key : String) : Selector := { named (.exact key) .start with negated := true }

/-- Keeps all fields for which no other selector stands. -/
def others : Selector := named .anyShallow .start

/-- Keeps the field of that name, with a block for what is below it. -/
def opened (key : String) (children : List Selector) : Selector :=
  { named (.exact key) .start with nested := true, children }

mutual

/-- The key paths that a selector drops. -/
def dropped : Selector → List (List String)
  | ⟨_, .exact key, children, _, _, _, negated, _, _, _, _, _⟩ =>
    if negated then [[key]] else (droppedAll children).map (key :: ·)
  | _ => []

def droppedAll : List Selector → List (List String)
  | [] => []
  | selector :: rest => selector.dropped ++ droppedAll rest

end

/-- What negated paths are made of: each block that is opened drops some path, no two of its selectors open
the same block, and it has a `*` just when it drops one of its own fields. -/
inductive Drops : Selector → Prop where
  | drop (key : String) : Drops (drop key)
  | others : Drops others
  | opened (key : String) {children : List Selector} (inside : ∀ child ∈ children, Drops child)
      (apart : children.Pairwise fun a b => Block.mergeable a b = false) (some_ : droppedAll children ≠ [])
      (rest : Selector.others ∈ children ↔ ∃ key, [key] ∈ droppedAll children) : Drops (opened key children)

section Paths
variable {selector : Selector} {selectors front back : List Selector} {key : String} {path : List String}

theorem dropped_drop (key : String) : (drop key).dropped = [[key]] := by
  rw [drop, named, dropped, if_pos rfl]

theorem dropped_others : others.dropped = [] := by
  rw [others, named, dropped]
  nofun

theorem dropped_opened (key : String) (children : List Selector) :
    (opened key children).dropped = (droppedAll children).map (key :: ·) := by
  rw [opened, named, dropped, if_neg Bool.false_ne_true]

theorem others_ne_opened (key : String) (children : List Selector) : others ≠ opened key children := fun same =>
  Bool.false_ne_true (congrArg Selector.nested same)

theorem mem_droppedAll : path ∈ droppedAll selectors ↔ ∃ selector ∈ selectors, path ∈ selector.dropped := by
  induction selectors with
  | nil => simp [droppedAll]
  | cons selector rest ih => simp [droppedAll, ih]

theorem mem_droppedAll_append :
    path ∈ droppedAll (front ++ back) ↔ path ∈ droppedAll front ∨ path ∈ droppedAll back := by
  simp only [mem_droppedAll, List.mem_append, or_and_right, exists_or]

theorem drops_opened {children : List Selector} :
    (opened key children).Drops ↔ (∀ child ∈ children, child.Drops) ∧
      (children.Pairwise fun a b => Block.mergeable a b = false) ∧ droppedAll children ≠ [] ∧
      (Selector.others ∈ children ↔ ∃ key, [key] ∈ droppedAll children) := by
  constructor
  · intro drops
    cases drops with
    | opened _ inside apart some_ rest => exact ⟨inside, apart, some_, rest⟩
  · rintro ⟨inside, apart, some_, rest⟩
    exact .opened key inside apart some_ rest

theorem Drops.ne_nil (drops : selector.Drops) (member : path ∈ selector.dropped) : path ≠ [] := by
  cases drops with
  | drop key => simp_all [dropped_drop]
  | others => simp [dropped_others] at member
  | opened key =>
    rw [dropped_opened] at member
    obtain ⟨below, _, rfl⟩ := List.mem_map.mp member
    exact List.cons_ne_nil _ _

theorem Drops.position (drops : selector.Drops) : selector.position = .start := by
  cases drops <;> rfl

/-- All but `*` drop something. -/
theorem Drops.exists_dropped (drops : selector.Drops) (chooses : selector ≠ Selector.others) :
    ∃ path, path ∈ selector.dropped := by
  cases drops with
  | drop key => exact ⟨[key], by simp [dropped_drop]⟩
  | others => exact absurd rfl chooses
  | opened key _ _ some_ =>
    obtain ⟨path, within⟩ := List.exists_mem_of_ne_nil _ some_
    exact ⟨key :: path, by simpa [dropped_opened] using within⟩

theorem nil_notMem_droppedAll (drops : ∀ selector ∈ selectors, selector.Drops) : [] ∉ droppedAll selectors := by
  intro member
  obtain ⟨selector, present, member⟩ := mem_droppedAll.mp member
  exact (drops selector present).ne_nil member rfl

/-- A field of the block itself is dropped by a selector for it. -/
theorem single_mem_droppedAll (drops : ∀ selector ∈ selectors, selector.Drops) :
    [key] ∈ droppedAll selectors ↔ drop key ∈ selectors := by
  constructor
  · intro member
    obtain ⟨selector, present, member⟩ := mem_droppedAll.mp member
    cases drops selector present with
    | drop other =>
      simp only [dropped_drop, List.mem_singleton, List.cons.injEq, and_true] at member
      subst member
      exact present
    | others => simp [dropped_others] at member
    | opened other inside =>
      rw [dropped_opened] at member
      obtain ⟨below, within, same⟩ := List.mem_map.mp member
      cases same
      exact absurd within (nil_notMem_droppedAll inside)
  · intro present
    exact mem_droppedAll.mpr ⟨_, present, by simp [dropped_drop]⟩

/-- A path that goes on below a field is dropped by a block for that field. -/
theorem cons_mem_droppedAll (drops : ∀ selector ∈ selectors, selector.Drops) (further : path ≠ []) :
    key :: path ∈ droppedAll selectors ↔ ∃ children, opened key children ∈ selectors ∧ path ∈ droppedAll children := by
  constructor
  · intro member
    obtain ⟨selector, present, member⟩ := mem_droppedAll.mp member
    cases drops selector present with
    | drop other => simp_all [dropped_drop]
    | others => simp [dropped_others] at member
    | @opened other children =>
      rw [dropped_opened] at member
      obtain ⟨below, within, same⟩ := List.mem_map.mp member
      cases same
      exact ⟨children, present, within⟩
  · rintro ⟨children, present, within⟩
    exact mem_droppedAll.mpr ⟨_, present, by simpa [dropped_opened] using within⟩

/-- A block of negated selectors has no `*` and drops nothing but fields of its own. -/
theorem all_negated_iff (drops : ∀ selector ∈ selectors, selector.Drops) :
    selectors.all (·.negated) = true ↔ others ∉ selectors ∧ ∀ path ∈ droppedAll selectors, path.length = 1 := by
  rw [List.all_eq_true]
  constructor
  · intro negated
    constructor
    · intro present
      exact absurd (negated _ present) Bool.false_ne_true
    · intro path member
      obtain ⟨selector, present, member⟩ := mem_droppedAll.mp member
      have own := negated selector present
      cases drops selector present with
      | drop key => simp_all [dropped_drop]
      | others => cases own
      | opened => cases own
  · rintro ⟨absent, single⟩ selector present
    cases drops selector present with
    | drop key => rfl
    | others => exact absurd present absent
    | @opened key children inside _ some_ =>
      obtain ⟨path, within⟩ := List.exists_mem_of_ne_nil _ some_
      have further : path ≠ [] := fun same => nil_notMem_droppedAll inside (same ▸ within)
      have long : (key :: path).length = 1 :=
        single _ ((cons_mem_droppedAll drops further).mpr ⟨children, present, within⟩)
      exact absurd (List.length_eq_zero_iff.mp (Nat.succ.inj long)) further

end Paths

end Selector

namespace Block
open Selector

/-- Siblings that open blocks of their own, and drop the same paths as those before. -/
structure SameDrops (before after : List Selector) : Prop where
  drops : ∀ selector ∈ after, selector.Drops
  apart : after.Pairwise fun a b => mergeable a b = false
  paths : ∀ path, path ∈ droppedAll after ↔ path ∈ droppedAll before

/-- Siblings that have been merged. -/
structure Merged (before after : List Selector) : Prop extends SameDrops before after where
  others : others ∈ after ↔ others ∈ before
  height : heightAll after ≤ heightAll before

/-- Every opened block already keeps its other fields where it drops some of its own. -/
def Closed (selectors : List Selector) : Prop := (∃ key, [key] ∈ droppedAll selectors) → others ∈ selectors

theorem mergeable_drop (key : String) (other : Selector) : mergeable (drop key) other = false := by
  simp [mergeable, drop, named]

theorem mergeable_others (other : Selector) : mergeable Selector.others other = false := by
  simp [mergeable, Selector.others, named]

theorem mergeable_opened {key : String} {children : List Selector} {other : Selector} (drops : other.Drops) :
    mergeable (opened key children) other = true ↔ ∃ more, other = opened key more := by
  cases drops with
  | drop key => simp [mergeable, opened, Selector.drop, named]
  | others => simp [mergeable, opened, Selector.others, named]
  | @opened other more =>
    have names : mergeable (opened key children) (opened other more) = (key == other) := by
      change ((((((((key == other) && _) && _) && _) && _) && _) && _) && _) = _
      simp [opened, named]
    rw [names, beq_iff_eq]
    constructor
    · rintro rfl
      exact ⟨more, rfl⟩
    · rintro ⟨_, same⟩
      have names : Name.exact other = Name.exact key := congrArg Selector.name same
      exact (Name.exact.inj names).symm

theorem mergeable_others_right {selector : Selector} (drops : selector.Drops) :
    mergeable selector Selector.others = false := by
  cases drops with
  | drop key => exact mergeable_drop key _
  | others => exact mergeable_others _
  | opened key =>
    apply Bool.eq_false_iff.mpr
    intro joins
    obtain ⟨more, same⟩ := (mergeable_opened .others).mp joins
    exact others_ne_opened _ _ same

section Siblings
variable {levels : Nat} {finish : List Selector → List Selector}
  (finishes : ∀ selectors : List Selector, heightAll selectors ≤ levels → (∀ selector ∈ selectors, selector.Drops) →
    Closed selectors → Merged selectors (finish selectors))

include finishes

/-- Two blocks for one field are merged into one, which drops what they drop. -/
theorem combine_opened {key : String} {children more : List Selector} (first : (opened key children).Drops)
    (second : (opened key more).Drops) (enough : (opened key children).height ≤ levels + 1)
    (enough' : (opened key more).height ≤ levels + 1) :
    ∃ together, combine finish (opened key children) (opened key more) = opened key together ∧
      (opened key together).Drops ∧ (∀ path, path ∈ droppedAll together ↔ path ∈ droppedAll (children ++ more)) ∧
        heightAll together ≤ heightAll (children ++ more) := by
  obtain ⟨inside, _, some_, rest⟩ := drops_opened.mp first
  obtain ⟨inside', _, _, rest'⟩ := drops_opened.mp second
  have closed : Closed (children ++ more) := by
    rintro ⟨key, member⟩
    rcases mem_droppedAll_append.mp member with own | own
    · exact List.mem_append_left _ (rest.mpr ⟨key, own⟩)
    · exact List.mem_append_right _ (rest'.mpr ⟨key, own⟩)
  have low : heightAll (children ++ more) ≤ levels := by
    rw [height_eq] at enough enough'
    rw [heightAll_append]
    exact Nat.max_le.mpr ⟨Nat.le_of_succ_le_succ enough, Nat.le_of_succ_le_succ enough'⟩
  have drops : ∀ child ∈ children ++ more, child.Drops := by
    intro child member
    exact (List.mem_append.mp member).elim (inside child) (inside' child)
  have merged := finishes _ low drops closed
  refine ⟨finish (children ++ more), rfl, ?_, merged.paths, merged.height⟩
  apply Drops.opened key merged.drops merged.apart
  · obtain ⟨path, member⟩ := List.exists_mem_of_ne_nil _ some_
    exact List.ne_nil_of_mem ((merged.paths path).mpr (mem_droppedAll_append.mpr (.inl member)))
  · rw [merged.others]
    simp only [merged.paths]
    constructor
    · intro present
      rcases List.mem_append.mp present with own | own
      · obtain ⟨key, member⟩ := rest.mp own
        exact ⟨key, mem_droppedAll_append.mpr (.inl member)⟩
      · obtain ⟨key, member⟩ := rest'.mp own
        exact ⟨key, mem_droppedAll_append.mpr (.inr member)⟩
    · exact closed

/-- The last selector joins the first of its siblings. -/
theorem merged_join {key : String} {children more : List Selector} {siblings : List Selector}
    (drops : ∀ sibling ∈ opened key children :: siblings, sibling.Drops)
    (apart : (opened key children :: siblings).Pairwise fun a b => mergeable a b = false)
    (drops' : (opened key more).Drops) (low : (opened key children).height ≤ levels + 1)
    (low' : (opened key more).height ≤ levels + 1) :
    Merged (opened key children :: siblings ++ [opened key more])
      (combine finish (opened key children) (opened key more) :: siblings) := by
  have own := List.forall_mem_cons.mp drops
  have alone := List.pairwise_cons.mp apart
  obtain ⟨together, combined, joined, paths, height⟩ := combine_opened finishes own.1 drops' low low'
  rw [combined]
  refine ⟨⟨List.forall_mem_cons.mpr ⟨joined, own.2⟩, ?_, ?_⟩, ?_, ?_⟩
  · have same : ∀ other, mergeable (opened key together) other = mergeable (opened key children) other := fun _ => rfl
    exact List.pairwise_cons.mpr ⟨fun other member => (same other).trans (alone.1 other member), alone.2⟩
  · intro path
    have below : path ∈ (droppedAll together).map (key :: ·) ↔
        path ∈ (droppedAll children).map (key :: ·) ∨ path ∈ (droppedAll more).map (key :: ·) := by
      simp only [List.mem_map, paths, mem_droppedAll_append, or_and_right, exists_or]
    rw [List.cons_append]
    simp only [droppedAll, dropped_opened, List.mem_append, mem_droppedAll_append, below, List.append_nil]
    rw [or_right_comm, or_assoc]
  · simp [others_ne_opened]
  · have high : (opened key together).height ≤ max (opened key children).height (opened key more).height := by
      rw [heightAll_append] at height
      rw [height_eq, height_eq, height_eq, Nat.add_max_add_right]
      exact Nat.succ_le_succ height
    rw [List.cons_append, heightAll, heightAll, heightAll_append, heightAll, heightAll]
    omega

omit finishes in
/-- The last selector goes past the first of its siblings. -/
theorem merged_past {sibling selector : Selector} {siblings : List Selector} (drops : sibling.Drops)
    (apart : ∀ other ∈ siblings, mergeable sibling other = false) (stands : mergeable sibling selector = false)
    (merged : Merged (siblings ++ [selector]) (merge finish siblings selector)) :
    Merged (sibling :: siblings ++ [selector]) (sibling :: merge finish siblings selector) := by
  refine ⟨⟨List.forall_mem_cons.mpr ⟨drops, merged.drops⟩, ?_, ?_⟩, ?_, ?_⟩
  · refine List.pairwise_cons.mpr ⟨fun other member => ?_, merged.apart⟩
    obtain ⟨before, present, same⟩ := mergeable_of_mem_merge member
    rw [same]
    rcases List.mem_append.mp present with earlier | last
    · exact apart before earlier
    · rw [List.mem_singleton.mp last]
      exact stands
  · intro path
    rw [List.cons_append, droppedAll, droppedAll, List.mem_append, List.mem_append, merged.paths]
  · rw [List.cons_append, List.mem_cons, List.mem_cons, merged.others]
  · rw [List.cons_append, heightAll, heightAll]
    exact Nat.max_le.mpr ⟨Nat.le_max_left _ _, Nat.le_trans merged.height (Nat.le_max_right _ _)⟩

/-- One more selector is merged into siblings that have been merged before. -/
theorem merge_merged {siblings : List Selector} {selector : Selector} (drops : ∀ sibling ∈ siblings, sibling.Drops)
    (apart : siblings.Pairwise fun a b => mergeable a b = false) (drops' : selector.Drops)
    (low : heightAll siblings ≤ levels + 1) (low' : selector.height ≤ levels + 1) :
    Merged (siblings ++ [selector]) (merge finish siblings selector) := by
  induction siblings with
  | nil => exact ⟨⟨by simpa [merge] using drops', by simp [merge], by simp [merge]⟩, by simp [merge], Nat.le_refl _⟩
  | cons sibling siblings ih =>
    have own := List.forall_mem_cons.mp drops
    have alone := List.pairwise_cons.mp apart
    have bounds := List.forall_mem_cons.mp (heightAll_le_iff.mp low)
    rw [merge]
    by_cases joins : mergeable sibling selector = true
    · rw [if_pos joins]
      cases own.1 with
      | drop key => simp [mergeable_drop] at joins
      | others => simp [mergeable_others] at joins
      | opened key =>
        obtain ⟨more, rfl⟩ := (mergeable_opened drops').mp joins
        exact merged_join finishes drops apart drops' bounds.1 low'
    · rw [if_neg joins]
      have merged := ih own.2 alone.2 (heightAll_le_iff.mpr bounds.2)
      exact merged_past own.1 alone.1 (Bool.eq_false_iff.mpr joins) merged

theorem foldl_merged {selectors : List Selector} (drops : ∀ selector ∈ selectors, selector.Drops)
    (low : heightAll selectors ≤ levels + 1) : Merged selectors (selectors.foldl (merge finish) []) := by
  induction selectors using List.reverseRecOn with
  | nil => exact ⟨⟨nofun, .nil, fun _ => .rfl⟩, .rfl, Nat.le_refl _⟩
  | append_singleton selectors last ih =>
    have bounds := heightAll_le_iff.mp low
    have before := ih (fun selector member => drops selector (List.mem_append_left _ member))
      (heightAll_le_iff.mpr fun selector member => bounds selector (List.mem_append_left _ member))
    have joined := merge_merged finishes before.drops before.apart (drops last (by simp))
      (heightAll_le_iff.mpr fun selector member =>
        Nat.le_trans (heightAll_le_iff.mp before.height selector member)
          (heightAll_le_iff.mpr fun selector member => bounds selector (List.mem_append_left _ member)))
      (bounds last (by simp))
    rw [List.foldl_append, List.foldl_cons, List.foldl_nil]
    refine ⟨⟨joined.drops, joined.apart, fun path => ?_⟩, ?_, ?_⟩
    · rw [joined.paths, mem_droppedAll_append, mem_droppedAll_append, before.paths]
    · rw [joined.others, List.mem_append, List.mem_append, before.others]
    · have height := joined.height
      rw [heightAll_append] at height ⊢
      apply Nat.le_trans height
      exact Nat.max_le.mpr ⟨Nat.le_trans before.height (Nat.le_max_left _ _), Nat.le_max_right _ _⟩

end Siblings

theorem complete_of_all {selectors : List Selector} (some_ : selectors ≠ [])
    (drops : ∀ selector ∈ selectors, selector.Drops) (negated : selectors.all (·.negated) = true) :
    complete selectors = selectors ++ [Selector.others] := by
  rw [complete, List.getLast?_eq_some_getLast some_]
  simp only [if_pos negated, (drops _ (List.getLast_mem some_)).position]
  rfl

/-- Inside an opened block nothing is left to complete. -/
theorem finishAt_merged {levels : Nat} {selectors : List Selector} (low : heightAll selectors ≤ levels)
    (drops : ∀ selector ∈ selectors, selector.Drops) (closed : Closed selectors) :
    Merged selectors (finishAt levels selectors) := by
  induction levels generalizing selectors with
  | zero =>
    cases selectors with
    | nil => exact ⟨⟨nofun, .nil, fun _ => .rfl⟩, .rfl, Nat.le_refl _⟩
    | cons selector rest =>
      have high := heightAll_le_iff.mp low selector List.mem_cons_self
      rw [height_eq] at high
      exact absurd high (Nat.not_succ_le_zero _)
  | succ levels ih =>
    have merged := foldl_merged (fun _ => ih) drops low
    have done : complete (selectors.foldl (merge (finishAt levels)) []) =
        selectors.foldl (merge (finishAt levels)) [] := by
      by_cases empty : selectors.foldl (merge (finishAt levels)) [] = []
      · rw [empty]
        rfl
      · apply complete_of_not_all
        intro negated
        obtain ⟨selector, present⟩ := List.exists_mem_of_ne_nil _ empty
        have own := List.all_eq_true.mp negated selector present
        have absent := ((all_negated_iff merged.drops).mp negated).1
        cases merged.drops selector present with
        | drop key =>
          have single := (merged.paths _).mp ((single_mem_droppedAll merged.drops).mpr present)
          exact absent (merged.others.mpr (closed ⟨key, single⟩))
        | others => exact absent present
        | opened => cases own
    rw [finishAt, done]
    exact merged

/-- A block of selectors that drop paths keeps its other fields when it drops nothing but fields of its own. -/
structure Finished (before after : List Selector) : Prop extends SameDrops before after where
  others : others ∈ after ↔ others ∈ before ∨ ∀ path ∈ droppedAll before, path.length = 1

theorem finish_finished {selectors : List Selector} (some_ : selectors ≠ [])
    (drops : ∀ selector ∈ selectors, selector.Drops) : Finished selectors (finish selectors) := by
  obtain ⟨selector, present⟩ := List.exists_mem_of_ne_nil _ some_
  obtain ⟨levels, height⟩ : ∃ levels, heightAll selectors = levels + 1 := by
    have tall := heightAll_le_iff.mp (Nat.le_refl _) selector present
    rw [height_eq] at tall
    exact Nat.exists_eq_succ_of_ne_zero (Nat.ne_of_gt (Nat.lt_of_lt_of_le (Nat.succ_pos _) tall))
  have merged := foldl_merged (fun _ => finishAt_merged) drops (Nat.le_of_eq height)
  rw [finish, height, finishAt]
  generalize selectors.foldl (merge (finishAt levels)) [] = siblings at merged
  have single : (∀ path ∈ droppedAll siblings, path.length = 1) ↔ ∀ path ∈ droppedAll selectors, path.length = 1 := by
    simp only [merged.paths]
  by_cases negated : siblings.all (·.negated) = true
  · have nonempty : siblings ≠ [] := by
      rintro rfl
      have none : ∀ path, path ∉ droppedAll selectors := fun path => mt (merged.paths path).mpr (by simp [droppedAll])
      by_cases star : selector = Selector.others
      · exact absurd (merged.others.mpr (star ▸ present)) (by simp)
      · obtain ⟨path, member⟩ := (drops selector present).exists_dropped star
        exact none path (mem_droppedAll.mpr ⟨selector, present, member⟩)
    rw [complete_of_all nonempty merged.drops negated]
    refine ⟨⟨?_, ?_, ?_⟩, ?_⟩
    · exact List.forall_mem_append.mpr ⟨merged.drops, by simpa using Drops.others⟩
    · refine List.pairwise_append.mpr ⟨merged.apart, List.pairwise_singleton _ _, fun sibling member other last => ?_⟩
      rw [List.mem_singleton.mp last]
      exact mergeable_others_right (merged.drops sibling member)
    · intro path
      rw [mem_droppedAll_append, merged.paths]
      simp [droppedAll, dropped_others]
    · have own := ((all_negated_iff merged.drops).mp negated).2
      simp only [List.mem_append, List.mem_singleton, or_true, true_iff]
      exact .inr (single.mp own)
  · rw [complete_of_not_all negated]
    refine ⟨merged.toSameDrops, ?_⟩
    rw [merged.others]
    constructor
    · exact .inl
    · rintro (star | own)
      · exact star
      · by_contra absent
        exact negated ((all_negated_iff merged.drops).mpr ⟨mt merged.others.mp absent, single.mpr own⟩)

end Block

namespace Selector

/-- A negated path is a nest of blocks around its last name, and only that name is negated. -/
def negatedPath : List String → Selector
  | [] => others
  | [key] => drop key
  | key :: next :: rest => opened key (Block.finish [negatedPath (next :: rest)])

theorem negatedPath_ne_others {path : List String} (nonempty : path ≠ []) : negatedPath path ≠ others := by
  fun_cases negatedPath path with
  | case1 => exact absurd rfl nonempty
  | case2 => exact fun same => Bool.false_ne_true (congrArg Selector.negated same).symm
  | case3 => exact (others_ne_opened _ _).symm

theorem negatedPath_drops {path : List String} (nonempty : path ≠ []) :
    (negatedPath path).Drops ∧ ∀ other, other ∈ (negatedPath path).dropped ↔ other = path := by
  fun_induction negatedPath path with
  | case1 => exact absurd rfl nonempty
  | case2 key => exact ⟨.drop key, fun other => by simp [dropped_drop]⟩
  | case3 key next rest ih =>
    obtain ⟨drops, only⟩ := ih (List.cons_ne_nil _ _)
    have drops : ∀ selector ∈ [negatedPath (next :: rest)], selector.Drops := by simpa using drops
    have single : ∀ other, other ∈ droppedAll [negatedPath (next :: rest)] ↔ other = next :: rest := by
      simpa [droppedAll] using only
    have finished := Block.finish_finished (List.cons_ne_nil _ _) drops
    have starless : others ∉ [negatedPath (next :: rest)] := fun star =>
      negatedPath_ne_others (List.cons_ne_nil _ _) (List.mem_singleton.mp star).symm
    constructor
    · apply Drops.opened key finished.drops finished.apart
      · exact List.ne_nil_of_mem ((finished.paths (next :: rest)).mpr ((single _).mpr rfl))
      · rw [finished.others]
        simp only [starless, false_or, finished.paths, single, forall_eq]
        constructor
        · intro short
          exact ⟨next, by simpa using (List.length_eq_zero_iff.mp (Nat.succ.inj short)).symm⟩
        · rintro ⟨own, same⟩
          rw [← same, List.length_singleton]
    · intro other
      rw [dropped_opened, List.mem_map]
      simp only [finished.paths, single]
      constructor
      · rintro ⟨_, rfl, rfl⟩
        rfl
      · rintro rfl
        exact ⟨_, rfl, rfl⟩

section NegatedPaths
variable {paths : List (List String)} (nonempty : ∀ path ∈ paths, path ≠ [])

include nonempty

theorem drops_negatedPaths : ∀ selector ∈ paths.map negatedPath, selector.Drops := by
  intro selector member
  obtain ⟨path, present, rfl⟩ := List.mem_map.mp member
  exact (negatedPath_drops (nonempty path present)).1

/-- Negated paths drop just themselves. -/
theorem mem_droppedAll_negatedPaths {path : List String} :
    path ∈ droppedAll (paths.map negatedPath) ↔ path ∈ paths := by
  rw [mem_droppedAll]
  constructor
  · rintro ⟨selector, member, within⟩
    obtain ⟨other, present, rfl⟩ := List.mem_map.mp member
    rw [((negatedPath_drops (nonempty other present)).2 path).mp within]
    exact present
  · intro present
    exact ⟨_, List.mem_map_of_mem present, ((negatedPath_drops (nonempty path present)).2 path).mpr rfl⟩

theorem others_notMem_negatedPaths : others ∉ paths.map negatedPath := by
  intro star
  obtain ⟨path, present, same⟩ := List.mem_map.mp star
  exact negatedPath_ne_others (nonempty path present) same

end NegatedPaths
end Selector
end FieldSelect
