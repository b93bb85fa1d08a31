import FieldSelect.Regex.Reader

/-! What is read from the text of a regular expression. -/
namespace FieldSelect
namespace Regex

/-- The text is a regular expression by itself under some flags, however deep and large it is. -/
def Reads (flags : Flags) (pattern : String) (regex : Regex) : Prop :=
  ∃ group, readGroup (pattern.toList.length + 1) ⟨flags, [], [], []⟩ pattern.toList = .ok (group, []) ∧
    group.close.regex = regex

theorem reads_of_read {pattern : String} {regex : Regex} (read : Regex.read pattern = .ok regex) :
    Reads .initial pattern regex := by
  unfold Regex.read at read
  dsimp only at read
  cases whole : readGroup (pattern.toList.length + 1) ⟨.initial, [], [], []⟩ pattern.toList with
  | error fault =>
    rw [whole] at read
    cases read
  | ok result =>
    obtain ⟨group, rest⟩ := result
    rw [whole] at read
    cases rest with
    | cons c rest => cases read
    | nil =>
      have checked : (if nestingLimit < group.close.depth then Except.error Fault.nestedTooDeep
          else if !group.close.regex.fits then .error .tooLarge else .ok group.close.regex) = .ok regex := read
      refine ⟨group, whole, ?_⟩
      split at checked
      · cases checked
      · split at checked
        · cases checked
        · cases checked
          rfl

/-- A single branch is the sequence of its parts. -/
theorem close_of_parts {group : OpenGroup} (single : group.branches = []) :
    group.close.regex = sequence (group.parts.map Part.regex).reverse := by
  obtain ⟨flags, names, branches, parts⟩ := group
  cases single
  exact congrArg sequence List.map_reverse

end Regex
end FieldSelect
