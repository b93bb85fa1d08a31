import FieldSelect.Regex.Basic

/-! Places of one text. In a list of them the last place stands first and each of them once, and what is done to such
lists is done to the sets of their places. -/
namespace FieldSelect
namespace Spot
variable {text : List Char} {spot other : Spot} {first second : List Spot}

/-- The place between two parts of a text. -/
def between (passed rest : List Char) : Spot := ⟨passed.length, passed.getLast?, rest⟩

/-- The spot is a place of the text. -/
def IsOf (text : List Char) (spot : Spot) : Prop := ∃ passed rest, passed ++ rest = text ∧ spot = between passed rest

theorem IsOf.index_le (place : IsOf text spot) : spot.index ≤ text.length := by
  obtain ⟨passed, rest, rfl, rfl⟩ := place
  exact List.length_append ▸ Nat.le_add_right passed.length rest.length

theorem IsOf.eq_of_index (place : IsOf text spot) (place' : IsOf text other) (same : spot.index = other.index) :
    spot = other := by
  obtain ⟨passed, rest, rfl, rfl⟩ := place
  obtain ⟨passed', rest', whole, rfl⟩ := place'
  obtain ⟨rfl, rfl⟩ := List.append_inj whole same.symm
  rfl

theorem step?_eq_some_iff {set : CharSet} {passed rest : List Char} : step? set (between passed rest) = some other ↔
    ∃ c behind, rest = c :: behind ∧ set.holds c = true ∧ other = between (passed ++ [c]) behind := by
  cases rest with
  | nil => simp [step?, between]
  | cons c behind =>
    have stepped : step? set (between passed (c :: behind)) =
        if set.holds c then some (between (passed ++ [c]) behind) else none := by
      simp [step?, between]
    rw [stepped, Option.ite_none_right_eq_some, Option.some.injEq]
    constructor
    · rintro ⟨member, rfl⟩
      exact ⟨c, behind, rfl, member, rfl⟩
    · rintro ⟨_, _, same, member, rfl⟩
      cases same
      exact ⟨member, rfl⟩

theorem index_of_step? {set : CharSet} (steps : step? set spot = some other) : other.index = spot.index + 1 := by
  unfold step? at steps
  split at steps
  · obtain ⟨_, same⟩ := Option.ite_none_right_eq_some.mp steps
    cases same
    rfl
  · cases steps

/-! ### Lists of places -/

/-- The places of one text that are in a list come in order, the last of them first. -/
structure Ordered (text : List Char) (spots : List Spot) : Prop where
  places : ∀ spot ∈ spots, IsOf text spot
  descending : spots.Pairwise fun later earlier => earlier.index < later.index

namespace Ordered
variable {spots : List Spot}

theorem nil : Ordered text [] := ⟨nofun, List.Pairwise.nil⟩

theorem cons_iff : Ordered text (spot :: spots) ↔
    IsOf text spot ∧ (∀ other ∈ spots, other.index < spot.index) ∧ Ordered text spots := by
  constructor
  · rintro ⟨places, descending⟩
    obtain ⟨below, rest⟩ := List.pairwise_cons.mp descending
    exact ⟨places spot List.mem_cons_self, below, fun other member => places other (List.mem_cons_of_mem spot member),
      rest⟩
  · rintro ⟨place, below, ordered⟩
    exact ⟨List.forall_mem_cons.mpr ⟨place, ordered.places⟩, List.pairwise_cons.mpr ⟨below, ordered.descending⟩⟩

theorem singleton (place : IsOf text spot) : Ordered text [spot] :=
  cons_iff.mpr ⟨place, fun _ member => absurd member List.not_mem_nil, nil⟩

theorem filter (ordered : Ordered text spots) (keeps : Spot → Bool) : Ordered text (spots.filter keeps) :=
  ⟨fun spot member => ordered.places spot ((List.mem_filter.mp member).1), ordered.descending.filter keeps⟩

/-- Places move by one character each, or are lost. -/
theorem filterMap_step? (ordered : Ordered text spots) (set : CharSet) : Ordered text (spots.filterMap (step? set)) := by
  constructor
  · intro spot member
    obtain ⟨source, mem, steps⟩ := List.mem_filterMap.mp member
    obtain ⟨passed, rest, rfl, rfl⟩ := ordered.places source mem
    obtain ⟨c, behind, rfl, _, rfl⟩ := step?_eq_some_iff.mp steps
    exact ⟨passed ++ [c], behind, List.append_cons .. |>.symm, rfl⟩
  · refine ordered.descending.filterMap (step? set) fun later earlier less next steps next' steps' => ?_
    rw [index_of_step? steps, index_of_step? steps']
    exact Nat.add_lt_add_right less 1

end Ordered

/-- The list holds just the places of a text that a condition holds of. -/
structure Lists (text : List Char) (spots : List Spot) (members : Spot → Prop) : Prop where
  ordered : Ordered text spots
  mem_iff : ∀ spot, spot ∈ spots ↔ members spot

theorem lists_insertThen {more : List Spot → List Spot} {rest others : List Spot}
    (ordered : Ordered text (spot :: rest)) (ordered' : Ordered text others)
    (behind : ∀ others, Ordered text others → Lists text (more others) fun other => other ∈ rest ∨ other ∈ others) :
    Lists text (insertThen spot more others) fun other => other ∈ spot :: rest ∨ other ∈ others := by
  obtain ⟨place, below, _⟩ := Ordered.cons_iff.mp ordered
  -- In front of what lies before it, the place has its turn.
  have turn (others : List Spot) (ordered : Ordered text others) (below' : ∀ other ∈ others, other.index < spot.index) :
      Lists text (spot :: more others) fun other => other ∈ spot :: rest ∨ other ∈ others := by
    obtain ⟨placed, mem_iff⟩ := behind others ordered
    refine ⟨Ordered.cons_iff.mpr ⟨place, fun other member => ?_, placed⟩, fun other => ?_⟩
    · exact ((mem_iff other).mp member).elim (below other) (below' other)
    · rw [List.mem_cons, List.mem_cons, mem_iff, or_assoc]
  induction others with
  | nil => exact turn [] ordered' nofun
  | cons other others ih =>
    obtain ⟨place', below', ordered''⟩ := Ordered.cons_iff.mp ordered'
    rw [insertThen]
    split
    next later =>
      obtain ⟨placed, mem_iff⟩ := ih ordered''
      refine ⟨Ordered.cons_iff.mpr ⟨place', fun next member => ?_, placed⟩, fun next => ?_⟩
      · rcases (mem_iff next).mp member with own | own
        · rcases List.mem_cons.mp own with rfl | own
          · exact later
          · exact Nat.lt_trans (below next own) later
        · exact below' next own
      · rw [List.mem_cons, mem_iff, List.mem_cons (l := others), or_left_comm]
    next early =>
      split
      next same =>
        cases place'.eq_of_index place same
        obtain ⟨placed, mem_iff⟩ := turn others ordered'' below'
        refine ⟨placed, fun next => (mem_iff next).trans ?_⟩
        rw [List.mem_cons (l := others)]
        refine ⟨Or.imp_right .inr, ?_⟩
        rintro (own | rfl | member)
        · exact .inl own
        · exact .inl List.mem_cons_self
        · exact .inr member
      next different =>
        have less : other.index < spot.index := Nat.lt_of_le_of_ne (Nat.le_of_not_lt early) different
        refine turn (other :: others) ordered' (List.forall_mem_cons.mpr ⟨less, fun next member => ?_⟩)
        exact Nat.lt_trans (below' next member) less

theorem lists_union (ordered : Ordered text first) (ordered' : Ordered text second) :
    Lists text (union first second) fun other => other ∈ first ∨ other ∈ second := by
  induction first generalizing second with
  | nil => exact ⟨ordered', fun other => (or_iff_right List.not_mem_nil).symm⟩
  | cons spot rest ih =>
    obtain ⟨_, _, ordered''⟩ := Ordered.cons_iff.mp ordered
    exact lists_insertThen ordered ordered' fun _ => ih ordered''

theorem lists_keepThen {more : List Spot → List Spot} {rest others : List Spot}
    (ordered : Ordered text (spot :: rest)) (ordered' : Ordered text others)
    (behind : ∀ others, Ordered text others → Lists text (more others) fun other => other ∈ rest ∧ other ∉ others) :
    Lists text (keepThen spot more others) fun other => other ∈ spot :: rest ∧ other ∉ others := by
  obtain ⟨place, below, _⟩ := Ordered.cons_iff.mp ordered
  have kept (others : List Spot) (ordered : Ordered text others) (below' : ∀ other ∈ others, other.index < spot.index) :
      Lists text (spot :: more others) fun other => other ∈ spot :: rest ∧ other ∉ others := by
    obtain ⟨placed, mem_iff⟩ := behind others ordered
    refine ⟨Ordered.cons_iff.mpr ⟨place, fun other member => below other ((mem_iff other).mp member).1, placed⟩, ?_⟩
    have missing : spot ∉ others := fun member => Nat.lt_irrefl _ (below' spot member)
    intro other
    rw [List.mem_cons, List.mem_cons, mem_iff, or_and_right]
    refine or_congr_left ⟨?_, And.left⟩
    rintro rfl
    exact ⟨rfl, missing⟩
  induction others with
  | nil => exact kept [] ordered' nofun
  | cons other others ih =>
    obtain ⟨place', below', ordered''⟩ := Ordered.cons_iff.mp ordered'
    rw [keepThen]
    split
    next later =>
      obtain ⟨placed, mem_iff⟩ := ih ordered''
      refine ⟨placed, fun next => (mem_iff next).trans (and_congr_right fun member => ?_)⟩
      have different : next ≠ other := by
        rintro rfl
        rcases List.mem_cons.mp member with rfl | member
        · exact Nat.lt_irrefl _ later
        · exact Nat.lt_asymm later (below next member)
      rw [List.mem_cons, not_or, and_iff_right different]
    next early =>
      split
      next same =>
        cases place'.eq_of_index place same
        obtain ⟨placed, mem_iff⟩ := behind others ordered''
        refine ⟨placed, fun next => (mem_iff next).trans ?_⟩
        rw [List.mem_cons, List.mem_cons, not_or]
        constructor
        · rintro ⟨member, missing⟩
          refine ⟨.inr member, ?_, missing⟩
          rintro rfl
          exact Nat.lt_irrefl _ (below next member)
        · rintro ⟨member, different, missing⟩
          exact ⟨member.resolve_left different, missing⟩
      next different =>
        have less : other.index < spot.index := Nat.lt_of_le_of_ne (Nat.le_of_not_lt early) different
        refine kept (other :: others) ordered' (List.forall_mem_cons.mpr ⟨less, fun next member => ?_⟩)
        exact Nat.lt_trans (below' next member) less

theorem lists_without (ordered : Ordered text first) (ordered' : Ordered text second) :
    Lists text (without first second) fun other => other ∈ first ∧ other ∉ second := by
  induction first generalizing second with
  | nil => exact ⟨.nil, fun other => iff_of_false List.not_mem_nil fun both => List.not_mem_nil both.1⟩
  | cons spot rest ih =>
    obtain ⟨_, _, ordered''⟩ := Ordered.cons_iff.mp ordered
    exact lists_keepThen ordered ordered' fun _ => ih ordered''

/-! ### All places -/

theorem onward_cons (passed : List Char) (c : Char) (rest : List Char) :
    onward passed.length passed.getLast? (c :: rest) =
      between passed (c :: rest) :: onward (passed ++ [c]).length (passed ++ [c]).getLast? rest := by
  rw [onward, List.length_append, List.getLast?_concat]
  rfl

theorem mem_onward_iff {passed rest : List Char} : spot ∈ onward passed.length passed.getLast? rest ↔
    ∃ more behind, more ++ behind = rest ∧ spot = between (passed ++ more) behind := by
  induction rest generalizing passed with
  | nil =>
    simp only [onward, List.mem_singleton, List.append_eq_nil_iff]
    constructor
    · rintro rfl
      exact ⟨[], [], ⟨rfl, rfl⟩, congrArg (between · []) (List.append_nil passed).symm⟩
    · rintro ⟨_, _, ⟨rfl, rfl⟩, rfl⟩
      exact congrArg (between · []) (List.append_nil passed)
  | cons c rest ih =>
    rw [onward_cons, List.mem_cons, ih]
    constructor
    · rintro (rfl | ⟨more, behind, rfl, rfl⟩)
      · exact ⟨[], c :: rest, rfl, congrArg (between · _) (List.append_nil passed).symm⟩
      · exact ⟨c :: more, behind, rfl, congrArg (between · _) (List.append_cons ..).symm⟩
    · rintro ⟨more, behind, whole, rfl⟩
      cases more with
      | nil =>
        cases whole
        exact .inl (congrArg (between · _) (List.append_nil passed))
      | cons d more =>
        cases whole
        exact .inr ⟨more, behind, rfl, congrArg (between · _) (List.append_cons ..)⟩

theorem pairwise_onward (passed rest : List Char) :
    (onward passed.length passed.getLast? rest).Pairwise fun earlier later => earlier.index < later.index := by
  induction rest generalizing passed with
  | nil => exact List.pairwise_singleton _ _
  | cons c rest ih =>
    rw [onward_cons]
    refine List.pairwise_cons.mpr ⟨fun spot member => ?_, ih (passed ++ [c])⟩
    obtain ⟨more, behind, rfl, rfl⟩ := mem_onward_iff.mp member
    simp [between]

theorem lists_all (text : List Char) : Lists text (all text) (IsOf text) := by
  have mem_iff (spot : Spot) : spot ∈ all text ↔ IsOf text spot :=
    List.mem_reverse.trans (@mem_onward_iff spot [] text)
  exact ⟨⟨fun spot => (mem_iff spot).mp, List.pairwise_reverse.mpr (pairwise_onward [] text)⟩, mem_iff⟩

end Spot
end FieldSelect
