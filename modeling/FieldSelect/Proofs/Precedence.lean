import FieldSelect.Proofs.Frontier
import Mathlib.Order.Monotone.Basic

/-! Which selector decides for a field: of the explicit ones that take part the first that fits best, and only where none
of them fits the nearest inherited one. How much a name leaves open goes before how many characters it names. -/
namespace FieldSelect

/-! ### Ranks of names -/

namespace Name
variable {candidate : String} {bindings : Option Bindings}

/-- Names rank by what they leave open. Exact names and bound variables leave nothing open, patterns something, `*` and
unbound variables everything on one level, and `**` everything below it as well. -/
def rank (bindings : Option Bindings) : Name → Nat
  | .exact _ => 3
  | .variable name => if (bindings.bind (Entries.find? name)).isSome then 3 else 1
  | .pattern _ => 2
  | .anyShallow => 1
  | .anyDeep => 0

/-- The lowest score of a rank. -/
def lowest : Nat → Nat
  | 0 => deepScore
  | 1 => shallowScore
  | 2 => patternBase
  | _ => exactScore

theorem rank_le (name : Name) (bindings : Option Bindings) : name.rank bindings ≤ 3 := by
  rw [rank.eq_def]
  split
  · decide
  · split <;> decide
  · decide
  · decide
  · decide

theorem lowest_mono : Monotone lowest := by
  refine monotone_nat_of_le_succ fun rank => ?_
  match rank with
  | 0 | 1 | 2 => decide
  | _ + 3 => exact Nat.le_refl _

/-- A score is one of its rank. -/
theorem score?_mem_rank {name : Name} {score : Nat} (fits : name.score? candidate bindings = some score) :
    lowest (name.rank bindings) ≤ score ∧ (name.rank bindings < 3 → score < lowest (name.rank bindings + 1)) := by
  rw [score?.eq_def] at fits
  split at fits
  · obtain ⟨_, fits⟩ := Option.ite_none_right_eq_some.mp fits
    cases fits
    exact ⟨Nat.le_refl _, fun below => absurd below (Nat.lt_irrefl 3)⟩
  · cases fits
    exact ⟨Nat.le_refl _, fun _ => Nat.lt_succ_self _⟩
  · cases fits
    exact ⟨Nat.le_refl _, fun _ => Nat.lt_succ_self _⟩
  · rw [rank]
    split at fits
    · rename_i bound
      obtain ⟨_, fits⟩ := Option.ite_none_right_eq_some.mp fits
      cases fits
      rw [bound]
      exact ⟨Nat.le_refl _, fun below => absurd below (Nat.lt_irrefl 3)⟩
    · rename_i unbound
      cases fits
      rw [unbound]
      exact ⟨Nat.le_refl _, fun _ => by decide⟩
  · obtain ⟨_, fits⟩ := Option.ite_none_right_eq_some.mp fits
    cases fits
    exact ⟨shallowScore_lt_patternScore _, fun _ => patternScore_lt_exactScore _⟩

/-- Where two names fit, the one of the higher rank scores more, however many characters patterns name. -/
theorem score?_lt_of_rank_lt {name other : Name} {score high : Nat} (fits : name.score? candidate bindings = some score)
    (fits' : other.score? candidate bindings = some high) (lower : name.rank bindings < other.rank bindings) :
    score < high := by
  have below : name.rank bindings < 3 := Nat.lt_of_lt_of_le lower (other.rank_le bindings)
  calc
    score < lowest (name.rank bindings + 1) := (score?_mem_rank fits).2 below
    _ ≤ lowest (other.rank bindings) := lowest_mono lower
    _ ≤ high := (score?_mem_rank fits').1

end Name

/-! ### Deciding -/

namespace Frontier
variable {frontier : Frontier} {candidate : String} {bindings : Option Bindings} {selector : Selector} {score : Nat}

/-- An explicit selector takes part and fits so well. Recursive ones take part where they match on their own level. -/
structure Competes (candidate : String) (bindings : Option Bindings) (selector : Selector) (score : Nat) : Prop where
  takesPart : selector.recursive = false ∨ selector.recursesAt 0 = true
  fits : selector.name.score? candidate bindings = some score

/-- An inherited selector matches at its depth and fits so well. -/
structure Reaches (candidate : String) (bindings : Option Bindings) (inherited : Selector × Nat) (score : Nat) :
    Prop where
  inside : inherited.1.recursesAt inherited.2 = true
  fits : inherited.1.name.score? candidate bindings = some score

/-- The first of the inherited selectors that matches and fits. -/
def Nearest (candidate : String) (bindings : Option Bindings) (inherited : List (Selector × Nat)) (selector : Selector)
    (score : Nat) : Prop :=
  ∃ before depth after, inherited = before ++ (selector, depth) :: after ∧
    Reaches candidate bindings (selector, depth) score ∧ ∀ other ∈ before, ∀ score, ¬ Reaches candidate bindings other score

/-- What becomes of a field by the rules of precedence. -/
inductive Decides (frontier : Frontier) (candidate : String) (bindings : Option Bindings) : Resolution → Prop where
  | kept {selector : Selector} {score : Nat}
      (best : FirstBest (Competes candidate bindings) frontier.explicit selector score)
      (plain : selector.negated = false) : Decides frontier candidate bindings (.included selector score false)
  | dropped {selector : Selector} {score : Nat}
      (best : FirstBest (Competes candidate bindings) frontier.explicit selector score)
      (negated : selector.negated = true) : Decides frontier candidate bindings (.excluded selector)
  | keptFromAbove {selector : Selector} {score : Nat}
      (unfit : ∀ own ∈ frontier.explicit, ∀ score, ¬ Competes candidate bindings own score)
      (nearest : Nearest candidate bindings frontier.inherited selector score)
      (plain : selector.negated = false) : Decides frontier candidate bindings (.included selector score true)
  | droppedFromAbove {selector : Selector} {score : Nat}
      (unfit : ∀ own ∈ frontier.explicit, ∀ score, ¬ Competes candidate bindings own score)
      (nearest : Nearest candidate bindings frontier.inherited selector score)
      (negated : selector.negated = true) : Decides frontier candidate bindings (.excluded selector)
  | unmatched (unfit : ∀ own ∈ frontier.explicit, ∀ score, ¬ Competes candidate bindings own score)
      (unreached : ∀ above ∈ frontier.inherited, ∀ score, ¬ Reaches candidate bindings above score) :
      Decides frontier candidate bindings .unmatched

theorem competes_iff : Competes candidate bindings selector score ↔ fit? candidate bindings selector = some score := by
  rw [fit?, takesPart]
  constructor
  · rintro ⟨part, fits⟩
    rw [if_pos, fits]
    simpa using part
  · intro fits
    split at fits
    · rename_i part
      exact ⟨by simpa using part, fits⟩
    · cases fits

theorem competes_eq : Competes candidate bindings = (fit? candidate bindings · = some ·) := by
  funext selector score
  exact propext competes_iff

theorem best?_eq_some_iff : frontier.best? candidate bindings = some (selector, score) ↔
    FirstBest (Competes candidate bindings) frontier.explicit selector score := by
  rw [competes_eq]
  exact (frontier.findsFirstBest_best? candidate bindings).eq_some_iff

theorem best?_eq_none_iff : frontier.best? candidate bindings = none ↔
    ∀ own ∈ frontier.explicit, ∀ score, ¬ Competes candidate bindings own score := by
  rw [(frontier.findsFirstBest_best? candidate bindings).eq_none_iff]
  simp only [competes_iff, Option.eq_none_iff_forall_ne_some, ne_eq]

/-- The search among the inherited selectors goes from the nearest one on. -/
theorem nearest?_eq_findSome? (frontier : Frontier) (candidate : String) (bindings : Option Bindings) :
    frontier.nearest? candidate bindings =
      frontier.inherited.findSome? fun above =>
        if above.1.recursesAt above.2 then (above.1.name.score? candidate bindings).map (above.1, ·) else none := rfl

theorem reaches_iff {above found : Selector × Nat} :
    (if above.1.recursesAt above.2 then (above.1.name.score? candidate bindings).map (above.1, ·) else none) =
      some found ↔ found.1 = above.1 ∧ Reaches candidate bindings above found.2 := by
  obtain ⟨selector, score⟩ := found
  rw [Option.ite_none_right_eq_some, Option.map_eq_some_iff]
  constructor
  · rintro ⟨inside, score, fits, same⟩
    cases same
    exact ⟨rfl, inside, fits⟩
  · rintro ⟨rfl, inside, fits⟩
    exact ⟨inside, score, fits, rfl⟩

theorem unreached_iff {above : Selector × Nat} :
    (if above.1.recursesAt above.2 then (above.1.name.score? candidate bindings).map (above.1, ·) else none) =
      none ↔ ∀ score, ¬ Reaches candidate bindings above score := by
  rw [Option.eq_none_iff_forall_ne_some]
  constructor
  · intro missing score reaches
    exact missing (above.1, score) (reaches_iff.mpr ⟨rfl, reaches⟩)
  · intro unreached found same
    exact unreached found.2 (reaches_iff.mp same).2

theorem nearest?_eq_some_iff : frontier.nearest? candidate bindings = some (selector, score) ↔
    Nearest candidate bindings frontier.inherited selector score := by
  rw [nearest?_eq_findSome?, List.findSome?_eq_some_iff]
  constructor
  · rintro ⟨before, ⟨_, depth⟩, after, here, found, nearer⟩
    obtain ⟨rfl, reaches⟩ := reaches_iff.mp found
    exact ⟨before, depth, after, here, reaches, fun other member => unreached_iff.mp (nearer other member)⟩
  · rintro ⟨before, depth, after, here, reaches, nearer⟩
    exact ⟨before, (selector, depth), after, here, reaches_iff.mpr ⟨rfl, reaches⟩,
      fun other member => unreached_iff.mpr (nearer other member)⟩

theorem nearest?_eq_none_iff : frontier.nearest? candidate bindings = none ↔
    ∀ above ∈ frontier.inherited, ∀ score, ¬ Reaches candidate bindings above score := by
  rw [nearest?_eq_findSome?, List.findSome?_eq_none_iff]
  exact forall₂_congr fun _ _ => unreached_iff

theorem verdict_of_plain (plain : selector.negated = false) (inherited : Bool) :
    verdict inherited (selector, score) = .included selector score inherited :=
  if_neg (by simp [plain])

theorem verdict_of_negated (negated : selector.negated = true) (inherited : Bool) :
    verdict inherited (selector, score) = .excluded selector :=
  if_pos negated

theorem decides_resolve (frontier : Frontier) (candidate : String) (bindings : Option Bindings) :
    frontier.Decides candidate bindings (frontier.resolve candidate bindings) := by
  rw [resolve]
  split
  · rename_i found best
    obtain ⟨selector, score⟩ := found
    have best := best?_eq_some_iff.mp best
    cases sign : selector.negated with
    | false =>
      rw [verdict_of_plain sign]
      exact .kept best sign
    | true =>
      rw [verdict_of_negated sign]
      exact .dropped best sign
  · rename_i unfit
    have unfit := best?_eq_none_iff.mp unfit
    split
    · rename_i found nearest
      obtain ⟨selector, score⟩ := found
      have nearest := nearest?_eq_some_iff.mp nearest
      cases sign : selector.negated with
      | false =>
        rw [verdict_of_plain sign]
        exact .keptFromAbove unfit nearest sign
      | true =>
        rw [verdict_of_negated sign]
        exact .droppedFromAbove unfit nearest sign
    · rename_i unreached
      exact .unmatched unfit (nearest?_eq_none_iff.mp unreached)

theorem Decides.resolve_eq {resolution : Resolution} (decides : frontier.Decides candidate bindings resolution) :
    frontier.resolve candidate bindings = resolution := by
  rw [resolve]
  cases decides with
  | kept best plain => simp only [best?_eq_some_iff.mpr best, verdict_of_plain plain]
  | dropped best negated => simp only [best?_eq_some_iff.mpr best, verdict_of_negated negated]
  | keptFromAbove unfit nearest plain =>
    simp only [best?_eq_none_iff.mpr unfit, nearest?_eq_some_iff.mpr nearest, verdict_of_plain plain]
  | droppedFromAbove unfit nearest negated =>
    simp only [best?_eq_none_iff.mpr unfit, nearest?_eq_some_iff.mpr nearest, verdict_of_negated negated]
  | unmatched unfit unreached => simp only [best?_eq_none_iff.mpr unfit, nearest?_eq_none_iff.mpr unreached]

/-- None of the selectors that take part ranks higher than the best one. -/
theorem rank_le_of_firstBest (best : FirstBest (Competes candidate bindings) frontier.explicit selector score)
    {other : Selector} (member : other ∈ frontier.explicit) {high : Nat}
    (competes : Competes candidate bindings other high) : other.name.rank bindings ≤ selector.name.rank bindings := by
  refine Nat.le_of_not_lt fun lower => ?_
  have more := Name.score?_lt_of_rank_lt best.scored.fits competes.fits lower
  rw [competes_eq] at best
  exact Nat.not_lt.mpr (best.le member (competes_iff.mp competes)) more

/-- A field is decided for by the rules of precedence, and in no other way than they say. Of two names that fit it, the
one of the higher rank scores more, whatever the lengths of patterns, and so the best of the explicit selectors is of the
highest rank. -/
theorem resolve_eq_iff_decides (frontier : Frontier) (candidate : String) (bindings : Option Bindings) :
    (∀ resolution, frontier.resolve candidate bindings = resolution ↔ frontier.Decides candidate bindings resolution) ∧
      (∀ (name other : Name) (score high : Nat), name.score? candidate bindings = some score →
        other.score? candidate bindings = some high → name.rank bindings < other.rank bindings → score < high) ∧
      ∀ selector score, FirstBest (Competes candidate bindings) frontier.explicit selector score →
        ∀ other ∈ frontier.explicit, ∀ high, Competes candidate bindings other high →
          other.name.rank bindings ≤ selector.name.rank bindings := by
  refine ⟨fun resolution => ⟨?_, Decides.resolve_eq⟩, ?_, ?_⟩
  · rintro rfl
    exact frontier.decides_resolve candidate bindings
  · intro name other score high fits fits' lower
    exact Name.score?_lt_of_rank_lt fits fits' lower
  · intro selector score best other member high competes
    exact rank_le_of_firstBest best member competes

/-- What stands for the text `na*`. -/
private def naStar : Pattern :=
  ⟨"na*", .sequence [.look .textStart, .oneOf ⟨[110, 111]⟩, .oneOf ⟨[97, 98]⟩, .repeated (.oneOf ⟨[0, 10, 11]⟩) 0 none,
    .look .textEnd], 2⟩

private def droppedNa : Selector := { Selector.named (.pattern naStar) ⟨1, 1⟩ with negated := true }

private def field : Selector := .named (.variable "field") ⟨1, 6⟩

private def fromThird : Selector := { Selector.named .anyDeep ⟨1, 13⟩ with minDepth := some 3 }

private def droppedDeep : Selector := { Selector.named .anyDeep ⟨1, 1⟩ with negated := true }

/-- The selectors of `-na*,@field,**{3}`, right below another `**{3}` and two levels below a `-**`. -/
private def mixed : Frontier := ⟨[droppedNa, field, fromThird], [(fromThird, 1), (droppedDeep, 2)]⟩

private def bound : Option Bindings := some [("field", .string "name")]

/-- The variable goes before the pattern, however much that names. Where none of the explicit selectors fits, the nearest
inherited one that is within its bounds decides. -/
theorem resolve_eq_iff_decides_of_mixed :
    mixed.Decides "name" bound (.included field Name.exactScore false) ∧
      mixed.Decides "nature" bound (.excluded droppedNa) ∧ mixed.Decides "x" bound (.excluded droppedDeep) ∧
      droppedNa.name.score? "name" bound = some 5 ∧ 5 < Name.exactScore := by
  have matches_ : naStar.regex.isMatch "name" = true ∧ naStar.regex.isMatch "nature" = true ∧
      naStar.regex.isMatch "x" = false := by decide +kernel
  have literals : Name.patternScore naStar.literals = 5 := by decide
  have shown : (Value.string "name").plainText = "name" := by rfl
  have pattern (candidate : String) : droppedNa.name.score? candidate bound =
      if naStar.regex.isMatch candidate then some 5 else none := by
    simp [droppedNa, Selector.named, Name.score?, literals]
  have variable_ (candidate : String) : field.name.score? candidate bound =
      if "name" = candidate then some Name.exactScore else none := by
    simp [field, Selector.named, Name.score?, bound, Entries.find?, shown]
  have explicit (candidate : String) : mixed.best? candidate bound =
      better (better none droppedNa (droppedNa.name.score? candidate bound)) field
        (field.name.score? candidate bound) := rfl
  have name : mixed.resolve "name" bound = .included field Name.exactScore false := by
    rw [resolve, explicit, pattern, variable_, if_pos matches_.1, if_pos rfl]
    rfl
  have nature : mixed.resolve "nature" bound = .excluded droppedNa := by
    rw [resolve, explicit, pattern, variable_, if_pos matches_.2.1, if_neg (by decide)]
    rfl
  have other : mixed.resolve "x" bound = .excluded droppedDeep := by
    rw [resolve, explicit, pattern, variable_, if_neg (by simp [matches_]), if_neg (by decide)]
    rfl
  obtain ⟨_, higher, _⟩ := resolve_eq_iff_decides mixed "name" bound
  have scored : droppedNa.name.score? "name" bound = some 5 := by simp [pattern, matches_]
  refine ⟨?_, ?_, ?_, scored, higher _ _ _ _ scored (variable_ "name") (by decide)⟩
  · exact ((resolve_eq_iff_decides mixed "name" bound).1 _).mp name
  · exact ((resolve_eq_iff_decides mixed "nature" bound).1 _).mp nature
  · exact ((resolve_eq_iff_decides mixed "x" bound).1 _).mp other

end Frontier
end FieldSelect
