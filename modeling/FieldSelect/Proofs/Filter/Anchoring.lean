import FieldSelect.Filter.Name
import FieldSelect.Proofs.Regex.Enclosing.Groups
import FieldSelect.Proofs.Regex.Reading
import FieldSelect.Proofs.Regex.Spans
import FieldSelect.Proofs.Yields

/-! Regular expressions as names. They match whole names if they are regular expressions by themselves; a text that only
becomes one by what is put around it may match less than a whole name. -/
namespace FieldSelect
open Regex

namespace Name

/-- The flags that a pattern is read under. -/
def flagged (ignoresCase : Bool) : Flags := { Flags.initial with ignoresCase := ignoresCase }

/-- What stands for the flag in front of the pattern. -/
def flagText (ignoresCase : Bool) : List Char := if ignoresCase then ['(', '?', 'i', ')'] else []

def flagParts (ignoresCase : Bool) : List Part := if ignoresCase then [⟨.empty, 0, false⟩] else []

def startPart : Part := ⟨.look .textStart, 0, true⟩

theorem readGroup_flag (ignoresCase : Bool) (steps : Nat) (rest : List Char) : ∃ others ≥ steps,
    readGroup (steps + (flagText ignoresCase).length + 1) ⟨.initial, [], [], []⟩ ('^' :: (flagText ignoresCase ++ rest)) =
      readGroup others ⟨flagged ignoresCase, [], [], flagParts ignoresCase ++ [startPart]⟩ rest := by
  cases ignoresCase with
  | false => exact ⟨steps, Nat.le_refl steps, rfl⟩
  | true => exact ⟨steps + 3, Nat.le_add_right steps 3, rfl⟩

/-- A pattern that is read by itself becomes one part in front of the end. -/
theorem parts_of_enclosed {ignoresCase : Bool} {pattern rest : List Char} {inside group : OpenGroup} {parts : List Part}
    {steps : Nat} (own : readGroup (pattern.length + 1) ⟨flagged ignoresCase, [], [], []⟩ pattern = .ok (inside, []))
    (enough : pattern.length + 3 ≤ steps)
    (read : readGroup steps ⟨flagged ignoresCase, [], [], parts⟩ ('(' :: '?' :: ':' :: (pattern ++ closing)) =
      .ok (group, rest)) :
    group.branches = [] ∧ group.parts.map Part.regex =
      .look .textEnd :: .grouped false inside.close.regex :: parts.map Part.regex := by
  obtain ⟨steps, rfl⟩ := Nat.exists_eq_add_of_le' enough
  obtain ⟨⟨_, longer⟩, found, rfl, left⟩ := reread_group ⟨flagged ignoresCase, [], [], []⟩ (.closed pattern)
    (show pattern.length + 1 ≤ steps + pattern.length + 2 by omega) _ own
  rw [← Nat.add_assoc] at read
  change readGroup (steps + pattern.length + 2) ⟨flagged ignoresCase, [], [], []⟩ (pattern ++ closing) >>= _ = _ at read
  rw [found] at read
  obtain rfl | ⟨_, rfl⟩ := left
  · cases read
    exact ⟨rfl, rfl⟩
  · cases read

/-- A pattern that is a regular expression by itself stands between the anchors, behind what stands for the flag. -/
theorem isMatch_of_reads {pattern : String} {ignoresCase : Bool} {own whole : Regex}
    (reads : Regex.Reads (flagged ignoresCase) pattern own)
    (read : Regex.read ("^" ++ (if ignoresCase then "(?i)" else "") ++ "(?:" ++ pattern ++ ")$") = .ok whole)
    (text : String) : whole.isMatch text = true ↔ own.SpansText text.toList := by
  obtain ⟨inside, own', rfl⟩ := reads
  obtain ⟨group, found, rfl⟩ := reads_of_read read
  have spelled : ("^" ++ (if ignoresCase then "(?i)" else "") ++ "(?:" ++ pattern ++ ")$").toList =
      '^' :: (flagText ignoresCase ++ '(' :: '?' :: ':' :: (pattern.toList ++ closing)) := by
    cases ignoresCase <;> simp [flagText, closing]
  rw [spelled] at found
  obtain ⟨others, enough, same⟩ := readGroup_flag ignoresCase (pattern.toList.length + 6)
    ('(' :: '?' :: ':' :: (pattern.toList ++ closing))
  have steps : ('^' :: (flagText ignoresCase ++ '(' :: '?' :: ':' :: (pattern.toList ++ closing))).length + 1 =
      pattern.toList.length + 6 + (flagText ignoresCase).length + 1 := by
    simp [closing]
    omega
  rw [steps, same] at found
  obtain ⟨single, parts⟩ := parts_of_enclosed own' (by omega) found
  rw [close_of_parts single, parts]
  have inOrder : (Regex.look .textEnd :: Regex.grouped false inside.close.regex ::
      (flagParts ignoresCase ++ [startPart]).map Part.regex).reverse =
        .look .textStart :: ((flagParts ignoresCase).map Part.regex ++ [.grouped false inside.close.regex] ++
          [.look .textEnd]) := by
    cases ignoresCase <;> rfl
  rw [inOrder, isMatch_anchored_iff]
  cases ignoresCase with
  | false => exact Iff.rfl
  | true =>
    refine spans_sequence_cons.trans ⟨?_, fun spans => ⟨_, rfl, spans⟩⟩
    rintro ⟨_, rfl, spans⟩
    exact spans

/-- A regular expression as a name fits just the names that the pattern matches as a whole, under the flag. The pattern
has to be a regular expression by itself. -/
theorem scores_regex_iff {pattern : String} {ignoresCase : Bool} {name : Name} {own : Regex}
    (compiled : regex? pattern ignoresCase = .ok name) (reads : Regex.Reads (flagged ignoresCase) pattern own)
    (candidate : String) (bindings : Option Bindings) :
    (name.score? candidate bindings).isSome ↔ own.SpansText candidate.toList := by
  obtain ⟨whole, read, rfl⟩ := exists_of_map_eq_ok compiled
  rw [isSome_score?_pattern, isMatch_of_reads reads read]

/-- One of two branches, each of them as a whole. -/
theorem scores_regex_iff_of_branches : ∃ name, regex? "a|b" false = .ok name ∧
    (name.score? "b" none).isSome ∧ ¬ (name.score? "ab" none).isSome := by
  obtain ⟨name, compiled, _⟩ :=
    exists_of_any_toOption (show (regex? "a|b" false).toOption.any (fun _ => true) = true by decide +kernel)
  have reads : Regex.Reads (flagged false) "a|b" (.alt (.oneOf (.single 'a')) (.oneOf (.single 'b'))) := ⟨_, rfl, rfl⟩
  refine ⟨name, compiled, (scores_regex_iff compiled reads "b" none).mpr (.inr rfl), ?_⟩
  rw [scores_regex_iff compiled reads "ab" none]
  rintro (first | second)
  · exact absurd (congrArg (Option.map Spot.index) first) (by decide)
  · exact absurd (congrArg (Option.map Spot.index) second) (by decide)

/-- The parentheses of this pattern belong to the group around it, and each of its branches has but one anchor. -/
theorem scores_regex_unopened : ∃ name, regex? "a)|(?:b" false = .ok name ∧
    Regex.read "a)|(?:b" = .error .unopenedGroup ∧ (name.score? "ax" none).isSome := by
  obtain ⟨name, compiled, fits⟩ := exists_of_any_toOption
    (show (regex? "a)|(?:b" false).toOption.any (fun name => (name.score? "ax" none).isSome) = true by decide +kernel)
  exact ⟨name, compiled, rfl, fits⟩

end Name
end FieldSelect
