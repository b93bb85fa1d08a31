import FieldSelect.Function.Registry
import FieldSelect.Proofs.FirstBest
import Mathlib.Algebra.GroupWithZero.Nat
import Mathlib.Algebra.Order.BigOperators.Group.List
import Mathlib.Algebra.Order.Group.Nat

/-! Which function answers a call: of those under its name that fit the first one that fits best in all. A further
function under a name is chosen only where it fits better than all before it. -/
namespace FieldSelect

/-! ### How well shapes fit -/

/-- How closely a value fits, or nothing where it does not. -/
def ParamKind.closeness (param : ParamKind) (value : Value) : Nat := (param.specificity? value).getD 0

namespace Shape
variable {shape other : Shape} {input : Value} {arguments : List Value} {score : Nat}

/-- The input goes before the arguments. -/
def positions (shape : Shape) : List ParamKind := shape.input :: shape.arguments

/-- There are as many arguments as the shape takes, and every position fits its value. -/
def Fits (shape : Shape) (input : Value) (arguments : List Value) : Prop :=
  List.Forall₂ (fun param value => (param.specificity? value).isSome) shape.positions (input :: arguments)

instance (shape : Shape) (input : Value) (arguments : List Value) : Decidable (shape.Fits input arguments) :=
  inferInstanceAs (Decidable (List.Forall₂ (fun param value => (param.specificity? value).isSome) shape.positions
    (input :: arguments)))

/-- How closely the value at each position fits. -/
def closenesses (shape : Shape) (input : Value) (arguments : List Value) : List Nat :=
  List.zipWith ParamKind.closeness shape.positions (input :: arguments)

/-- How closely all values fit together. -/
def total (shape : Shape) (input : Value) (arguments : List Value) : Nat := (shape.closenesses input arguments).sum

/-- At least as close as another shape at every position, and closer at one of them. -/
structure Beats (shape other : Shape) (input : Value) (arguments : List Value) : Prop where
  everywhere : List.Forall₂ (· ≤ ·) (other.closenesses input arguments) (shape.closenesses input arguments)
  somewhere : ∃ (place low high : Nat), (other.closenesses input arguments)[place]? = some low ∧
    (shape.closenesses input arguments)[place]? = some high ∧ low < high

theorem argumentsFit?_eq_some_iff {params : List ParamKind} : argumentsFit? params arguments = some score ↔
    List.Forall₂ (fun param value => (param.specificity? value).isSome) params arguments ∧
      score = (List.zipWith ParamKind.closeness params arguments).sum := by
  induction params generalizing arguments score with
  | nil =>
    cases arguments with
    | nil =>
      rw [argumentsFit?, Option.some.injEq, eq_comm]
      exact (and_iff_right .nil).symm
    | cons argument arguments => simp [argumentsFit?]
  | cons param params ih =>
    cases arguments with
    | nil => simp [argumentsFit?]
    | cons argument arguments =>
      simp only [argumentsFit?, Option.bind_eq_bind, Option.bind_eq_some_iff, ih, List.forall₂_cons,
        List.zipWith_cons_cons, List.sum_cons, ParamKind.closeness]
      constructor
      · rintro ⟨own, fits, _, ⟨others, rfl⟩, same⟩
        cases same
        exact ⟨⟨by simp [fits], others⟩, by simp [fits]⟩
      · rintro ⟨⟨fits, others⟩, rfl⟩
        obtain ⟨own, fits⟩ := Option.isSome_iff_exists.mp fits
        exact ⟨own, fits, _, ⟨others, rfl⟩, by simp [fits]⟩

theorem specificity?_eq_some_iff : shape.specificity? input arguments = some score ↔
    shape.Fits input arguments ∧ score = shape.total input arguments := by
  have same : shape.specificity? input arguments = argumentsFit? shape.positions (input :: arguments) := rfl
  rw [same, argumentsFit?_eq_some_iff]
  rfl

theorem sum_lt_of_forall₂ {lows highs : List Nat} (below : List.Forall₂ (· ≤ ·) lows highs) {place low high : Nat}
    (here : lows[place]? = some low) (here' : highs[place]? = some high) (less : low < high) : lows.sum < highs.sum := by
  induction below generalizing place with
  | nil => cases here
  | cons first rest ih =>
    rw [List.sum_cons, List.sum_cons]
    cases place with
    | zero =>
      cases here
      cases here'
      exact Nat.add_lt_add_of_lt_of_le less rest.sum_le_sum
    | succ place => exact Nat.add_lt_add_of_le_of_lt first (ih here here')

theorem Beats.total_lt (beats : shape.Beats other input arguments) :
    other.total input arguments < shape.total input arguments := by
  obtain ⟨place, low, high, here, here', less⟩ := beats.somewhere
  exact sum_lt_of_forall₂ beats.everywhere here here' less

end Shape

/-- The function fits the values, and so closely. -/
def Overload.Scores (input : Value) (arguments : List Value) (overload : Overload) (score : Nat) : Prop :=
  overload.shape.Fits input arguments ∧ score = overload.shape.total input arguments

/-! ### Functions of one name -/

namespace OverloadSet
variable {set : OverloadSet} {input : Value} {arguments : List Value} {overload : Overload}

theorem scores_eq : Overload.Scores input arguments =
    fun overload score => overload.shape.specificity? input arguments = some score := by
  funext overload score
  exact propext Shape.specificity?_eq_some_iff.symm

theorem findsFirstBest_best? (overloads : List Overload) (input : Value) (arguments : List Value) :
    FindsFirstBest (fun overload => overload.shape.specificity? input arguments) overloads
      ((best? overloads input arguments).map Prod.swap) := by
  rw [best?]
  induction overloads using List.reverseRecOn with
  | nil => exact List.forall_mem_nil _
  | append_singleton overloads next ih =>
    rw [List.foldl_append, List.foldl_cons, List.foldl_nil]
    refine cast (congrArg _ ?_) (ih.concat next)
    rw [better.eq_def]
    cases next.shape.specificity? input arguments with
    | none => rfl
    | some high =>
      cases overloads.foldl (fun best next => better best next (next.shape.specificity? input arguments)) none with
      | none => rfl
      | some best =>
        obtain ⟨top, kept⟩ := best
        simp only [Option.map_some, Prod.swap_prod_mk, Option.all_some, decide_eq_true_eq]
        split <;> rfl

theorem resolve?_eq_best? (set : OverloadSet) (input : Value) (arguments : List Value) :
    set.resolve? input arguments = (best? set.definitions input arguments).map (·.2) := by
  cases set with
  | single only => exact resolve?_single only input arguments
  | many all => rfl

theorem resolve?_eq_some_iff : set.resolve? input arguments = some overload ↔
    FirstBest (Overload.Scores input arguments) set.definitions overload (overload.shape.total input arguments) := by
  have finds := findsFirstBest_best? set.definitions input arguments
  rw [resolve?_eq_best?, scores_eq, ← finds.eq_some_iff, Option.map_eq_some_iff]
  constructor
  · rintro ⟨⟨score, _⟩, best, rfl⟩
    have found := (congrArg (Option.map Prod.swap) best).trans (Option.map_some ..)
    have scored := (finds.eq_some_iff.mp found).scored
    rw [found, ← (Shape.specificity?_eq_some_iff.mp scored).2]
    rfl
  · intro found
    obtain ⟨pair, best, same⟩ := Option.map_eq_some_iff.mp found
    exact ⟨pair, best, congrArg Prod.fst same⟩

theorem resolve?_eq_none_iff :
    set.resolve? input arguments = none ↔ ∀ overload ∈ set.definitions, ¬ overload.shape.Fits input arguments := by
  have finds := findsFirstBest_best? set.definitions input arguments
  rw [resolve?_eq_best?, Option.map_eq_none_iff, ← Option.map_eq_none_iff, finds.eq_none_iff]
  refine forall₂_congr fun overload _ => ?_
  simp [Option.eq_none_iff_forall_ne_some, Shape.specificity?_eq_some_iff]

/-- No other function that fits is at least as close everywhere and closer somewhere. -/
theorem not_beats_of_resolve? (resolved : set.resolve? input arguments = some overload) {other : Overload}
    (member : other ∈ set.definitions) (fits : other.shape.Fits input arguments) :
    ¬ other.shape.Beats overload.shape input arguments := by
  intro beats
  have best := resolve?_eq_some_iff.mp resolved
  rw [scores_eq] at best
  have most := best.le member (Shape.specificity?_eq_some_iff.mpr ⟨fits, rfl⟩)
  exact Nat.not_le.mpr beats.total_lt most

end OverloadSet

/-! ### Registered functions -/

namespace Registry
variable {registry : Registry} {name : String} {overload : Overload} {call : Call} {input : Value}
  {arguments : List Value}

/-- All functions under a name, in the order of their registration. -/
def definitions (registry : Registry) (name : String) : List Overload :=
  ((registry.overloads? name).map OverloadSet.definitions).getD []

/-- The function fits, and better than each of those under the name that fit. -/
structure Leads (registry : Registry) (name : String) (overload : Overload) (input : Value) (arguments : List Value) :
    Prop where
  fits : overload.shape.Fits input arguments
  more : ∀ other ∈ registry.definitions name, other.shape.Fits input arguments →
    other.shape.total input arguments < overload.shape.total input arguments

theorem definitions_of_some {set : OverloadSet} (found : registry.overloads? name = some set) :
    registry.definitions name = set.definitions := by
  rw [definitions, found, Option.map_some, Option.getD_some]

theorem definitions_of_none (missing : registry.overloads? name = none) : registry.definitions name = [] := by
  rw [definitions, missing, Option.map_none, Option.getD_none]

theorem definitions_add_self (registry : Registry) (name : String) (overload : Overload) :
    (registry.add name overload).definitions name = registry.definitions name ++ [overload] := by
  rw [definitions, overloads?_add_self, Option.getD_some, definitions]

theorem overloads?_add_of_some {set : OverloadSet} (found : registry.overloads? name = some set) (overload : Overload) :
    (registry.add name overload).overloads? name = some (set.push overload) := by
  rw [add, overloads?, Entries.find?_insert_self]
  rw [overloads?] at found
  simp only [overloads?, found]

theorem overloads?_add_of_none (missing : registry.overloads? name = none) (overload : Overload) :
    (registry.add name overload).overloads? name = some (.single overload) := by
  rw [overloads?] at missing
  simp only [add, overloads?, Entries.find?_insert_self, missing]

theorem resolve_of_none (missing : registry.overloads? call.name = none) :
    registry.resolve call input arguments = .error ⟨.unknownName, call.name, call.position⟩ := by
  simp only [resolve, missing]

theorem resolve_of_unfit {set : OverloadSet} (found : registry.overloads? call.name = some set)
    (unfit : ∀ overload ∈ registry.definitions call.name, ¬ overload.shape.Fits input arguments) :
    registry.resolve call input arguments =
      .error ⟨.noOverload input.kind (arguments.map Value.kind), call.name, call.position⟩ := by
  rw [definitions_of_some found] at unfit
  simp only [resolve, found, OverloadSet.resolve?_eq_none_iff.mpr unfit]

/-- The first best fit among the functions under the name of the call answers it. -/
theorem resolve_eq_ok_iff : registry.resolve call input arguments = .ok overload ↔
    FirstBest (Overload.Scores input arguments) (registry.definitions call.name) overload
      (overload.shape.total input arguments) := by
  cases found : registry.overloads? call.name with
  | none =>
    rw [resolve_of_none found, definitions_of_none found]
    exact iff_of_false nofun fun first => List.not_mem_nil first.mem
  | some set =>
    rw [definitions_of_some found, ← OverloadSet.resolve?_eq_some_iff]
    simp only [resolve, found]
    cases set.resolve? input arguments <;> simp

/-! ### A further function -/

theorem resolve_add_of_ne (different : call.name ≠ name) :
    (registry.add name overload).resolve call input arguments = registry.resolve call input arguments := by
  rw [resolve, resolve, overloads?_add_of_ne different]

/-- Where the further function leads, it answers. -/
theorem resolve_add_of_leads (leads : registry.Leads call.name overload input arguments) :
    (registry.add call.name overload).resolve call input arguments = .ok overload := by
  rw [resolve_eq_ok_iff, definitions_add_self]
  refine ⟨registry.definitions call.name, [], rfl, ⟨leads.fits, rfl⟩, ?_, nofun⟩
  rintro other member _ ⟨fits, rfl⟩
  exact leads.more other member fits

theorem resolve_ne_of_leads (leads : registry.Leads call.name overload input arguments) :
    registry.resolve call input arguments ≠ .ok overload := by
  intro same
  have first := resolve_eq_ok_iff.mp same
  exact Nat.lt_irrefl _ (leads.more overload first.mem leads.fits)

/-- Where it does not, the name answers as before, if it was known. -/
theorem resolve_add_of_not_leads (known : registry.overloads? call.name ≠ none)
    (trails : ¬ registry.Leads call.name overload input arguments) :
    (registry.add call.name overload).resolve call input arguments = registry.resolve call input arguments := by
  obtain ⟨set, found⟩ := Option.ne_none_iff_exists'.mp known
  cases before : set.resolve? input arguments with
  | none =>
    have unfit := OverloadSet.resolve?_eq_none_iff.mp before
    rw [← definitions_of_some found] at unfit
    have own : ¬ overload.shape.Fits input arguments :=
      fun fits => trails ⟨fits, fun other member fits' => absurd fits' (unfit other member)⟩
    rw [resolve_of_unfit found unfit, resolve_of_unfit (overloads?_add_of_some found overload)]
    rw [definitions_add_self]
    exact List.forall_mem_append.mpr ⟨unfit, List.forall_mem_singleton.mpr own⟩
  | some best =>
    have first := OverloadSet.resolve?_eq_some_iff.mp before
    rw [← definitions_of_some found] at first
    have most : ∀ score, Overload.Scores input arguments overload score → score ≤ best.shape.total input arguments := by
      rintro _ ⟨fits, rfl⟩
      refine Nat.le_of_not_lt fun more => trails ⟨fits, fun other member fits' => Nat.lt_of_le_of_lt ?_ more⟩
      rw [OverloadSet.scores_eq] at first
      exact first.le member (Shape.specificity?_eq_some_iff.mpr ⟨fits', rfl⟩)
    rw [resolve_eq_ok_iff.mpr first, resolve_eq_ok_iff, definitions_add_self]
    exact first.concat most

/-- A name without functions becomes known, be it only to no avail. -/
theorem resolve_add_ne_of_none (missing : registry.overloads? call.name = none) :
    (registry.add call.name overload).resolve call input arguments ≠ registry.resolve call input arguments := by
  have known := overloads?_add_of_none missing overload
  rw [resolve_of_none missing]
  simp only [resolve, known]
  cases (OverloadSet.single overload).resolve? input arguments <;> simp

/-- Of the functions of a name, the first one of those that fit best in all is chosen, and none only where none fits; so
no other one that fits is at least as close at every position and closer at one. A single function is chosen as if it
were one of many. A further function changes what becomes of a call only where it has the name of the call and either
leads, and then it is chosen, or is the first of its name without fitting, and then only the error is another one. -/
theorem resolve_firstBest (set : OverloadSet) (only : Overload) (registry : Registry) (name : String)
    (overload : Overload) (call : Call) (input : Value) (arguments : List Value) :
    (∀ chosen, set.resolve? input arguments = some chosen ↔
      FirstBest (Overload.Scores input arguments) set.definitions chosen (chosen.shape.total input arguments)) ∧
    (set.resolve? input arguments = none ↔ ∀ other ∈ set.definitions, ¬ other.shape.Fits input arguments) ∧
    (∀ chosen, set.resolve? input arguments = some chosen → ∀ other ∈ set.definitions,
      other.shape.Fits input arguments → ¬ other.shape.Beats chosen.shape input arguments) ∧
    (OverloadSet.single only).resolve? input arguments = (OverloadSet.many [only]).resolve? input arguments ∧
    ((registry.add name overload).resolve call input arguments ≠ registry.resolve call input arguments ↔
      call.name = name ∧ (registry.Leads name overload input arguments ∨ registry.overloads? name = none)) ∧
    (call.name = name → registry.Leads name overload input arguments →
      (registry.add name overload).resolve call input arguments = .ok overload) ∧
    (call.name = name → registry.overloads? name = none → ¬ overload.shape.Fits input arguments →
      registry.resolve call input arguments = .error ⟨.unknownName, call.name, call.position⟩ ∧
        (registry.add name overload).resolve call input arguments =
          .error ⟨.noOverload input.kind (arguments.map Value.kind), call.name, call.position⟩) := by
  refine ⟨fun _ => OverloadSet.resolve?_eq_some_iff, OverloadSet.resolve?_eq_none_iff, ?_,
    OverloadSet.resolve?_single only input arguments, ?_, ?_, ?_⟩
  · intro chosen resolved other member fits
    exact OverloadSet.not_beats_of_resolve? resolved member fits
  · constructor
    · intro changed
      have same : call.name = name := by
        by_contra different
        exact changed (resolve_add_of_ne different)
      subst same
      refine ⟨rfl, ?_⟩
      by_contra unchanged
      obtain ⟨trails, known⟩ := not_or.mp unchanged
      exact changed (resolve_add_of_not_leads known trails)
    · rintro ⟨rfl, leads | missing⟩
      · rw [resolve_add_of_leads leads]
        exact (resolve_ne_of_leads leads).symm
      · exact resolve_add_ne_of_none missing
  · rintro rfl leads
    exact resolve_add_of_leads leads
  · rintro rfl missing unfit
    refine ⟨resolve_of_none missing, resolve_of_unfit (overloads?_add_of_none missing overload) ?_⟩
    rw [definitions_add_self, definitions_of_none missing, List.nil_append]
    exact List.forall_mem_singleton.mpr unfit

/-- A function that gives its input back. -/
private def identity (input : ParamKind) (arguments : List ParamKind) : Overload :=
  ⟨"f", ⟨input, arguments⟩, fun input _ => .ok input⟩

private def threeWays : OverloadSet :=
  .many [identity .number [.any], identity .any [.string], identity .integer [.any]]

private def callOfF : Call := ⟨"f", [.literal (.string "x")], .start⟩

private def threeKnown : Registry := ⟨[("f", threeWays)]⟩

/-- The second and the third way fit equally well, and the further one better than all three. -/
theorem resolve_firstBest_of_tie :
    threeWays.resolve? (.integer 1) [.string "x"] = some (identity .any [.string]) ∧
      ¬ (identity .integer [.any]).shape.Beats (identity .any [.string]).shape (.integer 1) [.string "x"] ∧
      (threeKnown.add "f" (identity .integer [.string])).resolve callOfF (.integer 1) [.string "x"] =
        .ok (identity .integer [.string]) := by
  obtain ⟨first, _, unbeaten, _, _, leading, _⟩ := resolve_firstBest threeWays (identity .any []) threeKnown "f"
    (identity .integer [.string]) callOfF (.integer 1) [.string "x"]
  have best : FirstBest (Overload.Scores (.integer 1) [.string "x"]) threeWays.definitions (identity .any [.string]) 4 := by
    refine ⟨[identity .number [.any]], [identity .integer [.any]], rfl, ⟨by decide, rfl⟩, ?_, ?_⟩
    · refine List.forall_mem_singleton.mpr ?_
      rintro _ ⟨_, rfl⟩
      decide
    · refine List.forall_mem_singleton.mpr ?_
      rintro _ ⟨_, rfl⟩
      decide
  have chosen := (first (identity .any [.string])).mpr best
  have leads : threeKnown.Leads "f" (identity .integer [.string]) (.integer 1) [.string "x"] := by
    refine ⟨by decide, ?_⟩
    have known : threeKnown.overloads? "f" = some threeWays := rfl
    rw [definitions_of_some known]
    simp only [threeWays, OverloadSet.definitions, List.forall_mem_cons, List.not_mem_nil, false_implies, implies_true,
      and_true]
    refine ⟨fun _ => ?_, fun _ => ?_, fun _ => ?_⟩ <;> decide
  have fits : (identity .integer [.any]).shape.Fits (.integer 1) [.string "x"] := by decide
  exact ⟨chosen, unbeaten _ chosen _ (by simp [threeWays, OverloadSet.definitions]) fits, leading rfl leads⟩

/-- Where a name becomes known with a function that does not fit, the call to it fails in another way. -/
theorem resolve_changes_of_unfit :
    let overload := identity .string []
    let call : Call := ⟨"f", [], .start⟩
    Registry.empty.resolve call (.integer 1) [] = .error ⟨.unknownName, "f", .start⟩ ∧
      (Registry.empty.add "f" overload).resolve call (.integer 1) [] = .error ⟨.noOverload .integer [], "f", .start⟩ ∧
      (Registry.empty.add "f" overload).resolve call (.integer 1) [] ≠ Registry.empty.resolve call (.integer 1) [] ∧
      ¬ Registry.empty.Leads "f" overload (.integer 1) [] := by
  intro overload call
  have before : Registry.empty.resolve call (.integer 1) [] = .error ⟨.unknownName, "f", .start⟩ := rfl
  have after : (Registry.empty.add "f" overload).resolve call (.integer 1) [] =
      .error ⟨.noOverload .integer [], "f", .start⟩ := rfl
  have unfit : ¬ overload.shape.Fits (.integer 1) [] := by decide
  refine ⟨before, after, ?_, fun leads => unfit leads.fits⟩
  rw [before, after]
  simp

end Registry
end FieldSelect
