import FieldSelect.Proofs.Filter.WellFormed

/-! Blocks that keep something can be put together in any groups: a part may be finished before it joins the
others, and two siblings that open the same block may be joined before they meet a third one. -/
namespace FieldSelect
namespace Block
open Selector
variable {front back selectors siblings : List Selector} {a b s selector : Selector}

section Merge
variable {finish : List Selector → List Selector}

/-- A selector that joins one of the siblings lets another one past that it cannot join. -/
theorem merge_comm {other : Selector} (apart : mergeable selector other = false)
    (joins : ∃ sibling ∈ siblings, mergeable sibling selector = true) :
    merge finish (merge finish siblings selector) other = merge finish (merge finish siblings other) selector := by
  induction siblings with
  | nil =>
    obtain ⟨_, member, _⟩ := joins
    cases member
  | cons sibling rest ih =>
    cases own : mergeable sibling selector with
    | true =>
      have past : mergeable sibling other = false := by
        rw [mergeable_congr own]
        exact apart
      have past' : mergeable (combine finish sibling selector) other = false := past
      rw [merge_of_joins own, merge_of_stands past', merge_of_stands past, merge_of_joins own]
    | false =>
      cases own' : mergeable sibling other with
      | true =>
        have past : mergeable (combine finish sibling other) selector = false := own
        rw [merge_of_stands own, merge_of_joins own', merge_of_joins own', merge_of_stands past]
      | false =>
        have below : ∃ sibling ∈ rest, mergeable sibling selector = true := by
          obtain ⟨found, member, joins⟩ := joins
          rcases List.mem_cons.mp member with rfl | later
          · rw [own] at joins
            cases joins
          · exact ⟨found, later, joins⟩
        rw [merge_of_stands own, merge_of_stands own', merge_of_stands own', merge_of_stands own, ih below]

theorem exists_joins_merge {other : Selector} (joins : ∃ sibling ∈ siblings, mergeable sibling selector = true) :
    ∃ sibling ∈ merge finish siblings other, mergeable sibling selector = true := by
  induction siblings with
  | nil =>
    obtain ⟨_, member, _⟩ := joins
    cases member
  | cons sibling rest ih =>
    obtain ⟨found, member, joins⟩ := joins
    cases own : mergeable sibling other with
    | true =>
      rw [merge_of_joins own]
      rcases List.mem_cons.mp member with rfl | later
      · exact ⟨combine finish found other, List.mem_cons_self, joins⟩
      · exact ⟨found, List.mem_cons_of_mem _ later, joins⟩
    | false =>
      rw [merge_of_stands own]
      rcases List.mem_cons.mp member with rfl | later
      · exact ⟨found, List.mem_cons_self, joins⟩
      · obtain ⟨kept, present, joins⟩ := ih ⟨found, later, joins⟩
        exact ⟨kept, List.mem_cons_of_mem _ present, joins⟩

/-- Wherever a selector goes, another one that it can be joined with finds a sibling to join. -/
theorem exists_joins_merge_self (joins : mergeable s selector = true) :
    ∃ sibling ∈ merge finish siblings s, mergeable sibling selector = true := by
  induction siblings with
  | nil => exact ⟨s, List.mem_singleton_self _, joins⟩
  | cons sibling rest ih =>
    cases own : mergeable sibling s with
    | true =>
      rw [merge_of_joins own]
      exact ⟨combine finish sibling s, List.mem_cons_self, mergeable_trans own joins⟩
    | false =>
      obtain ⟨found, member, joins⟩ := ih
      rw [merge_of_stands own]
      exact ⟨found, List.mem_cons_of_mem _ member, joins⟩

theorem foldl_merge_comm (apart : ∀ other ∈ selectors, mergeable selector other = false)
    (joins : ∃ sibling ∈ siblings, mergeable sibling selector = true) :
    selectors.foldl (merge finish) (merge finish siblings selector) =
      merge finish (selectors.foldl (merge finish) siblings) selector := by
  induction selectors generalizing siblings with
  | nil => rfl
  | cons other rest ih =>
    obtain ⟨own, others⟩ := List.forall_mem_cons.mp apart
    rw [List.foldl_cons, List.foldl_cons, merge_comm own joins, ih others (exists_joins_merge joins)]

/-- The siblings can take in three selectors that open the same block in either grouping. -/
structure Groups (finish : List Selector → List Selector) (a s b : Selector) : Prop where
  regroup : mergeable a s = true → mergeable s b = true →
    combine finish (combine finish a s) b = combine finish a (combine finish s b)

/-- Two selectors may be joined before they join the siblings. -/
theorem merge_combine (joins : mergeable s b = true) (groups : ∀ a ∈ siblings, Groups finish a s b) :
    merge finish siblings (combine finish s b) = merge finish (merge finish siblings s) b := by
  induction siblings with
  | nil => exact (merge_of_joins joins).symm
  | cons a rest ih =>
    obtain ⟨own, others⟩ := List.forall_mem_cons.mp groups
    cases met : mergeable a s with
    | true =>
      have first : mergeable a (combine finish s b) = true := met
      have second : mergeable (combine finish a s) b = true := mergeable_trans met joins
      rw [merge_of_joins first, merge_of_joins met, merge_of_joins second, own.regroup met joins]
    | false =>
      have first : mergeable a (combine finish s b) = false := met
      have second : mergeable a b = false := by
        rw [← mergeable_congr_right joins]
        exact met
      rw [merge_of_stands first, merge_of_stands met, merge_of_stands second, ih others]

end Merge

/-! ### Parts finished ahead -/

theorem joinAll_append (front back : List Selector) :
    joinAll (front ++ back) = back.foldl (merge finish) (joinAll front) := by
  rw [joinAll, List.foldl_append]
  rfl

theorem joinAll_joinAll (selectors : List Selector) : joinAll (joinAll selectors) = joinAll selectors := by
  have apart : Apart ([] ++ joinAll selectors) := apart_joinAll selectors
  exact foldl_merge_of_apart apart

theorem all_negated_merge (siblings : List Selector) (selector : Selector) :
    (merge finish siblings selector).all (·.negated) = (siblings.all (·.negated) && selector.negated) := by
  induction siblings with
  | nil => simp [merge]
  | cons sibling rest ih =>
    cases joins : mergeable sibling selector with
    | true =>
      have same : sibling.negated = selector.negated := (mergeable_iff.mp joins).2.1
      have kept : (combine finish sibling selector).negated = sibling.negated := rfl
      rw [merge_of_joins joins, List.all_cons, List.all_cons, kept, ← same]
      cases sibling.negated <;> simp
    | false => rw [merge_of_stands joins, List.all_cons, List.all_cons, ih, Bool.and_assoc]

/-- Joining siblings neither keeps nor drops more than before. -/
theorem all_negated_joinAll (selectors : List Selector) :
    (joinAll selectors).all (·.negated) = selectors.all (·.negated) := by
  induction selectors using List.reverseRecOn with
  | nil => rfl
  | append_singleton rest selector ih =>
    rw [joinAll_append, List.foldl_cons, List.foldl_nil, all_negated_merge, ih, List.all_append]
    simp

theorem finish_of_keeps (keeps : selectors.all (·.negated) = false) : finish selectors = joinAll selectors := by
  rw [finish_eq]
  refine complete_of_not_all ?_
  rw [all_negated_joinAll, keeps]
  exact Bool.false_ne_true

/-- A first part that keeps something may be finished ahead. -/
theorem finish_finish_append (keeps : front.all (·.negated) = false) (back : List Selector) :
    finish (finish front ++ back) = finish (front ++ back) := by
  rw [finish_of_keeps keeps, finish_eq, finish_eq, joinAll_append, joinAll_append, joinAll_joinAll]

/-- Up to some height, a last part that keeps something may be finished ahead. -/
def Regroups (levels : Nat) : Prop :=
  ∀ front back : List Selector, (∀ selector ∈ front ++ back, selector.WellFormed) → heightAll (front ++ back) ≤ levels →
    back.all (·.negated) = false → finish (front ++ finish back) = finish (front ++ back)

/-- Well-formed and no higher than that. -/
def Below (levels : Nat) (selector : Selector) : Prop := selector.WellFormed ∧ selector.height ≤ levels

theorem Below.combine {levels : Nat} (low : Below levels a) (low' : Below levels b) (joins : mergeable a b = true) :
    Below levels (combine finish a b) := by
  obtain ⟨nonempty, below⟩ := low.1.children_append low'.1 joins
  obtain ⟨settled, all⟩ := finish_wellFormed nonempty below
  exact ⟨low.1.combine joins settled all, flat_finish.combine low.2 low'.2⟩

theorem keeps_children (formed : s.WellFormed) (joins : mergeable s b = true) :
    s.children.all (·.negated) = false := by
  obtain ⟨_, _, ⟨nested, _⟩, ⟨unemptied, _⟩, _⟩ := mergeable_iff.mp joins
  obtain ⟨kept, member, keeps⟩ := (formed.settled (formed.consistent.filled nested unemptied)).keeps
  refine List.all_eq_false.mpr ⟨kept, member, ?_⟩
  simp [keeps]

/-- Three siblings can be joined in either grouping when the parts of the blocks below can be finished ahead. -/
theorem groups_of_regroups {levels : Nat} (regroups : Regroups levels) (low : Below (levels + 1) a)
    (low' : Below (levels + 1) s) (low'' : Below (levels + 1) b) : Groups finish a s b := by
  constructor
  intro met joins
  have keeps : (a.children ++ s.children).all (·.negated) = false := by
    rw [List.all_append, keeps_children low.1 met, Bool.false_and]
  have keeps' : (s.children ++ b.children).all (·.negated) = false := by
    rw [List.all_append, keeps_children low'.1 joins, Bool.false_and]
  have formed : ∀ child ∈ a.children ++ (s.children ++ b.children), child.WellFormed := by
    intro child member
    rcases List.mem_append.mp member with first | others
    · exact low.1.inner child first
    · exact (low'.1.children_append low''.1 joins).2 child others
  have lower : heightAll (a.children ++ (s.children ++ b.children)) ≤ levels := by
    have heights := low.2
    have heights' := low'.2
    have heights'' := low''.2
    rw [height_eq] at heights heights' heights''
    rw [heightAll_append, heightAll_append]
    omega
  have children : finish (finish (a.children ++ s.children) ++ b.children) =
      finish (a.children ++ finish (s.children ++ b.children)) := by
    rw [finish_finish_append keeps, regroups _ _ formed lower keeps', List.append_assoc]
  simp only [combine, children, List.append_assoc]

/-- A last part may be joined ahead when three siblings can be joined in either grouping. -/
theorem foldl_merge_merge {levels : Nat} (regroups : Regroups levels) {merged : List Selector} (apart : Apart siblings)
    (low : ∀ a ∈ merged, Below (levels + 1) a) (low' : ∀ s ∈ siblings, Below (levels + 1) s)
    (own : Below (levels + 1) b) :
    (merge finish siblings b).foldl (merge finish) merged = merge finish (siblings.foldl (merge finish) merged) b := by
  induction siblings generalizing merged with
  | nil => rfl
  | cons s rest ih =>
    obtain ⟨alone, others⟩ := List.pairwise_cons.mp apart
    obtain ⟨first, lower⟩ := List.forall_mem_cons.mp low'
    cases joins : mergeable s b with
    | true =>
      -- The rest of the siblings cannot be joined with the selector, and lets it past.
      have past : ∀ other ∈ rest, mergeable b other = false := by
        intro other member
        rw [← mergeable_congr joins]
        exact alone other member
      have groups : ∀ a ∈ merged, Groups finish a s b := fun a member =>
        groups_of_regroups regroups (low a member) first own
      rw [merge_of_joins joins, List.foldl_cons, List.foldl_cons, merge_combine joins groups,
        foldl_merge_comm past (exists_joins_merge_self joins)]
    | false =>
      have taken : ∀ a ∈ merge finish merged s, Below (levels + 1) a :=
        forall_mem_merge (fun a b low low' joins => low.combine low' joins) low first
      rw [merge_of_stands joins, List.foldl_cons, List.foldl_cons, ih others taken lower]

theorem foldl_merge_foldl_merge {levels : Nat} (regroups : Regroups levels) {merged : List Selector}
    (apart : Apart siblings) (low : ∀ a ∈ merged, Below (levels + 1) a)
    (low' : ∀ s ∈ siblings, Below (levels + 1) s) (more : ∀ b ∈ selectors, Below (levels + 1) b) :
    (selectors.foldl (merge finish) siblings).foldl (merge finish) merged =
      selectors.foldl (merge finish) (siblings.foldl (merge finish) merged) := by
  induction selectors generalizing siblings with
  | nil => rfl
  | cons b rest ih =>
    obtain ⟨own, others⟩ := List.forall_mem_cons.mp more
    have taken : ∀ s ∈ merge finish siblings b, Below (levels + 1) s :=
      forall_mem_merge (fun a b low low' joins => low.combine low' joins) low' own
    rw [List.foldl_cons, List.foldl_cons, ih apart.merge taken others, foldl_merge_merge regroups apart low low' own]

theorem regroups (levels : Nat) : Regroups levels := by
  induction levels with
  | zero =>
    intro front back _ flat keeps
    rw [heightAll_append] at flat
    have empty : back = [] := by
      by_contra nonempty
      have positive := heightAll_pos nonempty
      omega
    rw [empty] at keeps
    cases keeps
  | succ levels ih =>
    intro front back formed flat keeps
    have low : ∀ selector ∈ front ++ back, Below (levels + 1) selector := fun selector member =>
      ⟨formed selector member, heightAll_le_iff.mp flat selector member⟩
    have first : ∀ a ∈ joinAll front, Below (levels + 1) a := by
      refine forall_mem_foldl_merge (fun a b low low' joins => low.combine low' joins) nofun ?_
      exact fun a member => low a (List.mem_append_left _ member)
    have second : ∀ b ∈ back, Below (levels + 1) b := fun b member => low b (List.mem_append_right _ member)
    have joined : joinAll (front ++ joinAll back) = joinAll (front ++ back) := by
      rw [joinAll_append, joinAll_append]
      exact foldl_merge_foldl_merge ih List.Pairwise.nil first nofun second
    rw [finish_of_keeps keeps, finish_eq, finish_eq, joined]

/-- A last part that keeps something may be finished ahead. -/
theorem finish_append_finish (formed : ∀ selector ∈ front ++ back, selector.WellFormed)
    (keeps : back.all (·.negated) = false) : finish (front ++ finish back) = finish (front ++ back) :=
  regroups _ front back formed (Nat.le_refl _) keeps

/-- Siblings that open the same block may be joined ahead. -/
theorem finish_siblings (formed : ∀ selector ∈ front, selector.WellFormed) (own : a.WellFormed) (own' : b.WellFormed)
    (joins : mergeable a b = true) (back : List Selector) :
    finish (front ++ a :: b :: back) = finish (front ++ combine finish a b :: back) := by
  generalize top : max (heightAll front) (max a.height b.height) = levels
  have below : ∀ {selector}, selector.WellFormed → selector.height ≤ levels → Below (levels + 1) selector :=
    fun formed low => ⟨formed, Nat.le_succ_of_le low⟩
  have low : ∀ s ∈ joinAll front, Below (levels + 1) s := by
    refine forall_mem_foldl_merge (fun a b low low' joins => low.combine low' joins) nofun ?_
    intro s member
    have height := heightAll_le_iff.mp (Nat.le_refl (heightAll front)) s member
    exact below (formed s member) (by omega)
  have groups : ∀ s ∈ joinAll front, Groups finish s a b := fun s member =>
    groups_of_regroups (regroups levels) (low s member) (below own (by omega)) (below own' (by omega))
  rw [finish_eq, finish_eq, joinAll_append, joinAll_append, List.foldl_cons, List.foldl_cons, List.foldl_cons,
    merge_combine joins groups]

/-! ### Blocks that only drop fields -/

/-- The lists are finished alike, up to places. -/
def SameBlock (selectors others : List Selector) : Prop := (finish selectors).map bare = (finish others).map bare

/-- What a block is completed with, up to its place. -/
def star : Selector := named .anyShallow .start

/-- The selectors with `*` at their end when all of them drop fields. -/
def completed (selectors : List Selector) : List Selector :=
  if selectors.all (·.negated) then selectors ++ [star] else selectors

theorem completed_keeps (selectors : List Selector) : (completed selectors).all (·.negated) = false := by
  rw [completed]
  split
  · simp [star, named]
  · rename_i keeps
    exact Bool.eq_false_iff.mpr keeps

theorem completed_wellFormed (formed : ∀ selector ∈ selectors, selector.WellFormed) :
    ∀ selector ∈ completed selectors, selector.WellFormed := by
  rw [completed]
  split
  · exact List.forall_mem_append.mpr ⟨formed, List.forall_mem_singleton.mpr (wellFormed_named _ _)⟩
  · exact formed

/-- A list may be completed before it is finished. -/
theorem sameBlock_completed (nonempty : selectors ≠ []) : SameBlock (completed selectors) selectors := by
  rw [completed]
  split
  · rename_i drops
    have unjoined : ∀ sibling ∈ joinAll selectors, mergeable sibling star = false :=
      fun sibling _ => mergeable_of_unnested rfl
    have keeps : (selectors ++ [star]).all (·.negated) = false := by simp [star, named]
    have added : finish (selectors ++ [star]) = joinAll selectors ++ [star] := by
      rw [finish_of_keeps keeps, joinAll_append, List.foldl_cons, List.foldl_nil, merge_of_apart unjoined]
    have last : (joinAll selectors).getLast? = some ((joinAll selectors).getLast (joinAll_ne_nil nonempty)) :=
      List.getLast?_eq_some_getLast (joinAll_ne_nil nonempty)
    rw [SameBlock, added, finish_eq, complete, last]
    simp only [all_negated_joinAll, drops, if_true, List.map_append, List.map_cons, List.map_nil]
    rfl
  · rfl

/-- Blocks that are put together once they are finished are one block of completed lists. -/
theorem sameBlock_finish_append (nonempty : front ≠ []) (nonempty' : back ≠ [])
    (formed : ∀ selector ∈ completed front ++ completed back, selector.WellFormed) :
    SameBlock (finish front ++ finish back) (completed front ++ completed back) := by
  have first : (finish (completed front)).map bare = (finish front).map bare := sameBlock_completed nonempty
  have second : (finish (completed back)).map bare = (finish back).map bare := sameBlock_completed nonempty'
  have parts : (finish front ++ finish back).map bare =
      (finish (completed front) ++ finish (completed back)).map bare := by
    rw [List.map_append, List.map_append, first, second]
  rw [SameBlock, finish_bare, parts, ← finish_bare, finish_finish_append (completed_keeps front),
    finish_append_finish formed (completed_keeps back)]

/-! ### Lists that stand for each other -/

/-- Well-formed lists that can stand for each other among any siblings. -/
def Interchangeable (selectors others : List Selector) : Prop :=
  (∀ selector ∈ selectors, selector.WellFormed) → (∀ selector ∈ others, selector.WellFormed) →
    ∀ front back, (∀ selector ∈ front, selector.WellFormed) → (∀ selector ∈ back, selector.WellFormed) →
      SameBlock (front ++ selectors ++ back) (front ++ others ++ back)

variable {others more more' : List Selector}

theorem Interchangeable.of_bare (same : selectors.map bare = others.map bare) : Interchangeable selectors others := by
  intro _ _ front back _ _
  rw [SameBlock, finish_bare, finish_bare]
  simp only [List.map_append, same]

theorem Interchangeable.symm (alike : Interchangeable selectors others) : Interchangeable others selectors := by
  intro formed formed' front back before behind
  exact (alike formed' formed front back before behind).symm

theorem Interchangeable.append (first : Interchangeable selectors others) (second : Interchangeable more more') :
    Interchangeable (selectors ++ more) (others ++ more') := by
  intro formed formed' front back before behind
  obtain ⟨own, ownMore⟩ := List.forall_mem_append.mp formed
  obtain ⟨own', ownMore'⟩ := List.forall_mem_append.mp formed'
  have one := first own own' front (more ++ back) before (List.forall_mem_append.mpr ⟨ownMore, behind⟩)
  have two := second ownMore ownMore' (front ++ others) back (List.forall_mem_append.mpr ⟨before, own'⟩) behind
  rw [← List.append_assoc] at one
  have both : SameBlock (front ++ selectors ++ more ++ back) (front ++ others ++ more' ++ back) := by
    refine one.trans ?_
    rw [← List.append_assoc]
    exact two
  simpa only [List.append_assoc] using both

theorem Interchangeable.sameBlock (alike : Interchangeable selectors others)
    (formed : ∀ selector ∈ selectors, selector.WellFormed) (formed' : ∀ selector ∈ others, selector.WellFormed) :
    SameBlock selectors others := by
  have alone := alike formed formed' [] [] nofun nofun
  simpa using alone

end Block
end FieldSelect
