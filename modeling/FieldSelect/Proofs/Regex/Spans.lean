import FieldSelect.Proofs.Regex.Spots

/-! What a regular expression matches, as a relation between two places of a text, and that matching finds all of it.
Repetitions are searched for so many rounds only as the text has characters, and one more. -/
namespace FieldSelect
open Spot

/-! ### Rounds -/

/-- So many rounds of a relation, one after the other. -/
def Rounds (reaches : Spot → Spot → Prop) : Nat → Spot → Spot → Prop
  | 0, source, target => target = source
  | rounds + 1, source, target => ∃ middle, reaches source middle ∧ Rounds reaches rounds middle target

/-- The relation leads onward or stays where it is. -/
def Onward (reaches : Spot → Spot → Prop) : Prop :=
  ∀ source target, reaches source target → source.index < target.index ∨ target = source

namespace Rounds
variable {reaches : Spot → Spot → Prop} {rounds others : Nat} {source middle target : Spot}

theorem add_iff : Rounds reaches (rounds + others) source target ↔
    ∃ middle, Rounds reaches rounds source middle ∧ Rounds reaches others middle target := by
  induction rounds generalizing source with
  | zero =>
    rw [Nat.zero_add]
    refine ⟨fun run => ⟨source, rfl, run⟩, ?_⟩
    rintro ⟨_, rfl, run⟩
    exact run
  | succ rounds ih =>
    rw [Nat.succ_add]
    constructor
    · rintro ⟨next, first, run⟩
      obtain ⟨middle, run, run'⟩ := ih.mp run
      exact ⟨middle, ⟨next, first, run⟩, run'⟩
    · rintro ⟨middle, ⟨next, first, run⟩, run'⟩
      exact ⟨next, first, ih.mpr ⟨middle, run, run'⟩⟩

theorem index_le (onward : Onward reaches) (run : Rounds reaches rounds source target) :
    source.index < target.index ∨ target = source := by
  induction rounds generalizing source with
  | zero => exact .inr run
  | succ rounds ih =>
    obtain ⟨middle, first, run⟩ := run
    rcases onward source middle first with less | rfl
    · rcases ih run with less' | rfl
      · exact .inl (Nat.lt_trans less less')
      · exact .inl less
    · exact ih run

/-- Rounds that stay where they are come in front as often as one likes. -/
theorem stay (stays : reaches source source) (run : Rounds reaches others source target) (rounds : Nat) :
    Rounds reaches (rounds + others) source target := by
  induction rounds with
  | zero => exact (Nat.zero_add others).symm ▸ run
  | succ rounds ih => exact (Nat.succ_add rounds others).symm ▸ ⟨source, stays, ih⟩

/-- There are no more rounds than places to go on to, or one of them stays where it is; then any number of rounds
will do that is no less than there are places to go on to. -/
theorem le_or_resize (onward : Onward reaches) (run : Rounds reaches rounds source target) :
    rounds ≤ target.index - source.index ∨
      ∀ others, target.index - source.index ≤ others → Rounds reaches others source target := by
  induction rounds generalizing source with
  | zero => exact .inl (Nat.zero_le _)
  | succ rounds ih =>
    obtain ⟨middle, first, run⟩ := run
    have least := index_le onward run
    rcases onward source middle first with less | rfl
    · have further : middle.index ≤ target.index := least.elim Nat.le_of_lt fun same => same ▸ Nat.le_refl _
      rcases ih run with few | resize
      · exact .inl (by omega)
      · refine .inr fun others enough => ?_
        obtain ⟨others, rfl⟩ := Nat.exists_eq_add_one.mpr (show 0 < others by omega)
        exact ⟨middle, first, resize others (by omega)⟩
    · rcases ih run with few | resize
      · by_cases same : rounds + 1 ≤ target.index - middle.index
        · exact .inl same
        · refine .inr fun others enough => ?_
          have exact : rounds = target.index - middle.index := by omega
          obtain ⟨more, rfl⟩ := Nat.exists_eq_add_of_le' (exact ▸ enough)
          exact stay first run more
      · exact .inr resize

end Rounds

namespace Regex
variable {text : List Char} {step : List Spot → List Spot} {reaches : Spot → Spot → Prop} {spots : List Spot}

/-! ### Searching for rounds -/

/-- One step finds all that the relation reaches from some places. -/
def Computes (text : List Char) (step : List Spot → List Spot) (reaches : Spot → Spot → Prop) : Prop :=
  ∀ spots, Ordered text spots → Lists text (step spots) fun target => ∃ source ∈ spots, reaches source target

theorem Computes.isOf (computes : Computes text step reaches) (ordered : Ordered text spots) {source target : Spot}
    (member : source ∈ spots) (first : reaches source target) : IsOf text target := by
  obtain ⟨stepped, mem_iff⟩ := computes spots ordered
  exact stepped.places target ((mem_iff target).mpr ⟨source, member, first⟩)

theorem Computes.iterate (computes : Computes text step reaches) (rounds : Nat) :
    Computes text (Regex.iterate step rounds) (Rounds reaches rounds) := by
  induction rounds with
  | zero => exact fun spots ordered => ⟨ordered, fun target => by simp [Regex.iterate, Rounds]⟩
  | succ rounds ih =>
    intro spots ordered
    obtain ⟨stepped, mem_iff⟩ := computes spots ordered
    obtain ⟨ordered', mem_iff'⟩ := ih (step spots) stepped
    refine ⟨ordered', fun target => (mem_iff' target).trans ?_⟩
    constructor
    · rintro ⟨middle, member, run⟩
      obtain ⟨source, mem, first⟩ := (mem_iff middle).mp member
      exact ⟨source, mem, middle, first, run⟩
    · rintro ⟨source, mem, middle, first, run⟩
      exact ⟨middle, (mem_iff middle).mpr ⟨source, mem, first⟩, run⟩

/-- All that is reached from the places searched before the newest ones has been reached already. -/
def Searched (reaches : Spot → Spot → Prop) (newest reached : List Spot) : Prop :=
  ∀ source ∈ reached, ∀ target, reaches source target → source ∈ newest ∨ target ∈ reached

theorem Searched.of_rounds (searched : Searched reaches [] spots) {rounds : Nat} {source target : Spot}
    (member : source ∈ spots) (run : Rounds reaches rounds source target) : target ∈ spots := by
  induction rounds generalizing source with
  | zero => exact run ▸ member
  | succ rounds ih =>
    obtain ⟨middle, first, run⟩ := run
    exact ih ((searched source member middle first).resolve_left List.not_mem_nil) run

theorem Computes.closure (computes : Computes text step reaches) {newest reached : List Spot}
    (ordered : Ordered text newest) (ordered' : Ordered text reached) (included : newest ⊆ reached)
    (searched : Searched reaches newest reached) (rounds : Nat) :
    Lists text (Regex.closure step rounds newest reached) fun target =>
      ∃ more ≤ rounds, ∃ source ∈ reached, Rounds reaches more source target := by
  induction rounds generalizing newest reached with
  | zero =>
    refine ⟨ordered', fun target => ?_⟩
    constructor
    · exact fun member => ⟨0, Nat.le_refl 0, target, member, rfl⟩
    · rintro ⟨more, least, source, member, run⟩
      cases Nat.le_zero.mp least
      exact run ▸ member
  | succ rounds ih =>
    obtain ⟨stepped, mem_step⟩ := computes newest ordered
    obtain ⟨fresh, mem_fresh⟩ := lists_without stepped ordered'
    obtain ⟨joined, mem_joined⟩ := lists_union fresh ordered'
    -- What is reached from all places reached so far is fresh or was reached already.
    have next : ∀ source ∈ reached, ∀ target, reaches source target →
        target ∈ without (step newest) reached ∨ target ∈ reached := by
      intro source member target first
      by_cases old : target ∈ reached
      · exact .inr old
      · refine .inl ((mem_fresh target).mpr ⟨(mem_step target).mpr ?_, old⟩)
        exact ⟨source, (searched source member target first).resolve_right old, first⟩
    rw [Regex.closure]
    split
    next nothing =>
      rw [nothing] at next
      refine ⟨ordered', fun target => ⟨fun member => ⟨0, Nat.zero_le _, target, member, rfl⟩, ?_⟩⟩
      rintro ⟨more, _, source, member, run⟩
      refine Searched.of_rounds (fun source member target first => ?_) member run
      exact .inr ((next source member target first).resolve_left List.not_mem_nil)
    next =>
      have searched' : Searched reaches (without (step newest) reached) (union (without (step newest) reached) reached) := by
        intro source member target first
        refine ((mem_joined source).mp member).imp_right fun member => (mem_joined target).mpr ?_
        exact next source member target first
      obtain ⟨found, mem_found⟩ := ih fresh joined (fun spot member => (mem_joined spot).mpr (.inl member)) searched'
      refine ⟨found, fun target => (mem_found target).trans ?_⟩
      constructor
      · rintro ⟨more, least, middle, member, run⟩
        rcases (mem_joined middle).mp member with member | member
        · obtain ⟨source, member, first⟩ := (mem_step middle).mp ((mem_fresh middle).mp member).1
          exact ⟨more + 1, Nat.add_le_add_right least 1, source, included member, middle, first, run⟩
        · exact ⟨more, Nat.le_succ_of_le least, middle, member, run⟩
      · rintro ⟨more, least, source, member, run⟩
        cases more with
        | zero => exact ⟨0, Nat.zero_le _, source, (mem_joined source).mpr (.inr member), run⟩
        | succ more =>
          obtain ⟨middle, first, run⟩ := run
          exact ⟨more, Nat.le_of_succ_le_succ least, middle, (mem_joined middle).mpr (next source member middle first), run⟩

/-! ### What an expression matches -/

/-- The expression matches what stands between two places. A repetition has its least number of rounds, and more of
them up to its bound. -/
def Spans : Regex → Spot → Spot → Prop
  | .empty, source, target => target = source
  | .oneOf set, source, target => step? set source = some target
  | .look condition, source, target => condition.holds source = true ∧ target = source
  | .seq first second, source, target => ∃ middle, first.Spans source middle ∧ second.Spans middle target
  | .alt first second, source, target => first.Spans source target ∨ second.Spans source target
  | .grouped _ body, source, target => body.Spans source target
  | .repeated body low high, source, target =>
    ∃ more, (∀ bound ∈ high, more ≤ bound - low) ∧ Rounds body.Spans (low + more) source target

/-- The expression matches a text from its start to its end. -/
def SpansText (regex : Regex) (text : List Char) : Prop := regex.Spans (between [] text) (between text [])

theorem onward_spans (regex : Regex) : Onward regex.Spans := by
  intro source target spans
  induction regex generalizing source target with
  | empty => exact .inr spans
  | oneOf set => exact .inl (index_of_step? spans ▸ Nat.lt_succ_self _)
  | look condition => exact .inr spans.2
  | seq first second ih ih' =>
    obtain ⟨middle, spans, spans'⟩ := spans
    rcases ih source middle spans with less | rfl
    · rcases ih' middle target spans' with less' | rfl
      · exact .inl (Nat.lt_trans less less')
      · exact .inl less
    · exact ih' middle target spans'
  | alt first second ih ih' => exact spans.elim (ih source target) (ih' source target)
  | grouped keeps body ih => exact ih source target spans
  | repeated body low high ih =>
    obtain ⟨more, _, run⟩ := spans
    exact run.index_le ih

/-- More rounds than there are characters, and one, need not be told apart. -/
theorem exists_rounds_iff {length low : Nat} {high : Option Nat} {source target : Spot} (onward : Onward reaches)
    (place : target.index ≤ length) :
    (∃ more ≤ high.elim (length + 1) fun high => min (high - low) (length + 1),
      Rounds reaches (min low (length + 1) + more) source target) ↔
    ∃ more, (∀ bound ∈ high, more ≤ bound - low) ∧ Rounds reaches (low + more) source target := by
  have resize {rounds others : Nat} (run : Rounds reaches rounds source target) (many : length < rounds)
      (enough : length ≤ others) : Rounds reaches others source target := by
    rcases run.le_or_resize onward with few | resize
    · omega
    · exact resize others (by omega)
  constructor
  · rintro ⟨more, least, run⟩
    by_cases few : low ≤ length + 1
    · rw [Nat.min_eq_left few] at run
      refine ⟨more, ?_, run⟩
      rintro bound rfl
      exact Nat.le_trans least (Nat.min_le_left ..)
    · rw [Nat.min_eq_right (by omega)] at run
      exact ⟨0, fun _ _ => Nat.zero_le _, resize run (by omega) (by omega)⟩
  · rintro ⟨more, below, run⟩
    by_cases few : low ≤ length + 1
    · rw [Nat.min_eq_left few]
      by_cases few' : more ≤ length + 1
      · refine ⟨more, ?_, run⟩
        cases high with
        | none => exact few'
        | some bound => exact Nat.le_min.mpr ⟨below bound rfl, few'⟩
      · refine ⟨length + 1, ?_, resize run (by omega) (by omega)⟩
        cases high with
        | none => exact Nat.le_refl _
        | some bound =>
          have many := below bound rfl
          exact Nat.le_min.mpr ⟨by omega, Nat.le_refl _⟩
    · rw [Nat.min_eq_right (by omega)]
      exact ⟨0, Nat.zero_le _, resize run (by omega) (by omega)⟩

/-- Matching finds all places where a match can end. -/
theorem lists_ends {length : Nat} (fits : text.length ≤ length) (regex : Regex) :
    Computes text (regex.ends length) regex.Spans := by
  induction regex with
  | empty => exact fun spots ordered => ⟨ordered, fun target => by simp [ends, Spans]⟩
  | oneOf set => exact fun spots ordered => ⟨ordered.filterMap_step? set, fun target => List.mem_filterMap⟩
  | look condition =>
    refine fun spots ordered => ⟨ordered.filter condition.holds, fun target => List.mem_filter.trans ?_⟩
    constructor
    · rintro ⟨member, holds⟩
      exact ⟨target, member, holds, rfl⟩
    · rintro ⟨_, member, holds, rfl⟩
      exact ⟨member, holds⟩
  | seq first second ih ih' =>
    intro spots ordered
    obtain ⟨ordered', mem_first⟩ := ih spots ordered
    obtain ⟨ordered'', mem_second⟩ := ih' _ ordered'
    refine ⟨ordered'', fun target => (mem_second target).trans ?_⟩
    constructor
    · rintro ⟨middle, member, spans'⟩
      obtain ⟨source, member, spans⟩ := (mem_first middle).mp member
      exact ⟨source, member, middle, spans, spans'⟩
    · rintro ⟨source, member, middle, spans, spans'⟩
      exact ⟨middle, (mem_first middle).mpr ⟨source, member, spans⟩, spans'⟩
  | alt first second ih ih' =>
    intro spots ordered
    obtain ⟨ordered', mem_first⟩ := ih spots ordered
    obtain ⟨ordered'', mem_second⟩ := ih' spots ordered
    obtain ⟨joined, mem_union⟩ := lists_union ordered' ordered''
    refine ⟨joined, fun target => (mem_union target).trans ?_⟩
    rw [mem_first, mem_second, ← exists_or]
    exact exists_congr fun source => and_or_left.symm
  | grouped keeps body ih => exact ih
  | repeated body low high ih =>
    intro spots ordered
    obtain ⟨required, mem_required⟩ := ih.iterate (min low (length + 1)) spots ordered
    obtain ⟨found, mem_found⟩ := ih.closure required required (List.Subset.refl _) (fun _ member _ _ => .inl member)
      (high.elim (length + 1) fun high => min (high - low) (length + 1))
    refine ⟨found, fun target => (mem_found target).trans ?_⟩
    have place {rounds : Nat} {source : Spot} (member : source ∈ spots)
        (run : Rounds body.Spans rounds source target) : target.index ≤ length :=
      Nat.le_trans ((ih.iterate rounds).isOf ordered member run).index_le fits
    constructor
    · rintro ⟨more, least, middle, member, run'⟩
      obtain ⟨source, member, run⟩ := (mem_required middle).mp member
      have run := Rounds.add_iff.mpr ⟨middle, run, run'⟩
      exact ⟨source, member, (exists_rounds_iff (onward_spans body) (place member run)).mp ⟨more, least, run⟩⟩
    · rintro ⟨source, member, more, below, run⟩
      have spans := (exists_rounds_iff (onward_spans body) (place member run)).mpr ⟨more, below, run⟩
      obtain ⟨more, least, run⟩ := spans
      obtain ⟨middle, run, run'⟩ := Rounds.add_iff.mp run
      exact ⟨more, least, middle, (mem_required middle).mpr ⟨source, member, run⟩, run'⟩

/-- A text matches if some part of it does. -/
theorem isMatch_iff {regex : Regex} {text : String} : regex.isMatch text = true ↔
    ∃ source target, IsOf text.toList source ∧ regex.Spans source target := by
  obtain ⟨ordered, mem_all⟩ := lists_all text.toList
  obtain ⟨_, mem_ends⟩ := lists_ends (Nat.le_refl _) regex (Spot.all text.toList) ordered
  rw [isMatch, Bool.not_eq_true', List.isEmpty_eq_false_iff_exists_mem, exists_comm]
  refine exists_congr fun target => (mem_ends target).trans (exists_congr fun source => ?_)
  rw [mem_all]

theorem isOf_of_spans {regex : Regex} {source target : Spot} (place : IsOf text source)
    (spans : regex.Spans source target) : IsOf text target :=
  (lists_ends (Nat.le_refl _) regex).isOf (.singleton place) List.mem_cons_self spans

/-! ### Sequences -/

theorem spans_sequence_cons {part : Regex} {parts : List Regex} {source target : Spot} :
    (sequence (part :: parts)).Spans source target ↔
      ∃ middle, part.Spans source middle ∧ (sequence parts).Spans middle target := by
  cases parts with
  | nil =>
    refine ⟨fun spans => ⟨target, spans, rfl⟩, ?_⟩
    rintro ⟨_, spans, rfl⟩
    exact spans
  | cons next parts => exact Iff.rfl

theorem spans_sequence_append {first second : List Regex} {source target : Spot} :
    (sequence (first ++ second)).Spans source target ↔
      ∃ middle, (sequence first).Spans source middle ∧ (sequence second).Spans middle target := by
  induction first generalizing source with
  | nil =>
    refine ⟨fun spans => ⟨source, rfl, spans⟩, ?_⟩
    rintro ⟨_, rfl, spans⟩
    exact spans
  | cons part first ih =>
    rw [List.cons_append, spans_sequence_cons]
    simp only [ih, spans_sequence_cons]
    constructor
    · rintro ⟨next, spans, middle, spans', spans''⟩
      exact ⟨middle, ⟨next, spans, spans'⟩, spans''⟩
    · rintro ⟨middle, ⟨next, spans, spans'⟩, spans''⟩
      exact ⟨next, spans, middle, spans', spans''⟩

/-- Between the anchors, a whole text has to match. -/
theorem isMatch_anchored_iff {parts : List Regex} {text : String} :
    (sequence (.look .textStart :: (parts ++ [.look .textEnd]))).isMatch text = true ↔
      (sequence parts).SpansText text.toList := by
  rw [isMatch_iff]
  constructor
  · rintro ⟨source, target, place, spans⟩
    obtain ⟨_, ⟨first, rfl⟩, inside⟩ := spans_sequence_cons.mp spans
    obtain ⟨_, spans, last, rfl⟩ := spans_sequence_append.mp inside
    obtain ⟨passed', rest', whole', rfl⟩ := isOf_of_spans place spans
    obtain ⟨passed, rest, whole, rfl⟩ := place
    obtain rfl : passed = [] := by simpa [Look.holds, between] using first
    obtain rfl : rest' = [] := by simpa [Look.holds, between] using last
    rw [List.append_nil] at whole'
    rw [List.nil_append] at whole
    obtain rfl : passed' = rest := whole'.trans whole.symm
    rw [SpansText, ← whole]
    exact spans
  · intro spans
    refine ⟨between [] text.toList, between text.toList [], ⟨[], text.toList, rfl, rfl⟩, ?_⟩
    exact spans_sequence_cons.mpr ⟨_, ⟨rfl, rfl⟩, spans_sequence_append.mpr ⟨_, spans, rfl, rfl⟩⟩

/-- A run of members of a set, of any length. -/
theorem spans_runs_iff {set : CharSet} {passed rest : List Char} {target : Spot} :
    (repeated (.oneOf set) 0 none).Spans (between passed rest) target ↔
      ∃ run behind, rest = run ++ behind ∧ (∀ c ∈ run, set.holds c = true) ∧
        target = between (passed ++ run) behind := by
  constructor
  · rintro ⟨more, below, rounds⟩
    clear below
    rw [Nat.zero_add] at rounds
    induction more generalizing passed rest with
    | zero => exact ⟨[], rest, rfl, nofun, (List.append_nil passed).symm ▸ rounds⟩
    | succ more ih =>
      obtain ⟨_, first, rounds⟩ := rounds
      obtain ⟨c, behind, rfl, member, rfl⟩ := step?_eq_some_iff.mp first
      obtain ⟨run, behind, rfl, members, rfl⟩ := ih rounds
      refine ⟨c :: run, behind, rfl, List.forall_mem_cons.mpr ⟨member, members⟩, ?_⟩
      rw [List.append_cons passed c run]
  · rintro ⟨run, behind, rfl, members, rfl⟩
    refine ⟨run.length, nofun, ?_⟩
    rw [Nat.zero_add]
    induction run generalizing passed with
    | nil => exact congrArg (between · behind) (List.append_nil passed)
    | cons c run ih =>
      obtain ⟨member, members⟩ := List.forall_mem_cons.mp members
      refine ⟨between (passed ++ [c]) (run ++ behind), step?_eq_some_iff.mpr ⟨c, _, rfl, member, rfl⟩, ?_⟩
      rw [List.append_cons passed c run]
      exact ih members

end Regex
end FieldSelect
