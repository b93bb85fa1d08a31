import FieldSelect.Function.Core
import FieldSelect.Proofs.Function.Registration

/-! Core functions answer every call that is resolved to them. What they are made for is what their shapes accept, and
only two of them ever refuse: one a text that cannot be looked for, the other a pattern that cannot be read. -/
namespace FieldSelect

/-! ### Values that fit -/

namespace ParamKind
variable {value : Value}

end ParamKind

namespace Shape.Fits
variable {kind first second : ParamKind} {kinds : List ParamKind} {value : Value} {arguments : List Value}

theorem own (fits : Fits ⟨kind, kinds⟩ value arguments) : (kind.specificity? value).isSome :=
  (List.forall₂_cons.mp fits).1

theorem none (fits : Fits ⟨kind, []⟩ value arguments) : arguments = [] :=
  List.forall₂_nil_left_iff.mp (List.forall₂_cons.mp fits).2

theorem one (fits : Fits ⟨kind, [first]⟩ value arguments) :
    ∃ argument, arguments = [argument] ∧ (first.specificity? argument).isSome := by
  obtain ⟨argument, rest, fit, nothing, rfl⟩ := List.forall₂_cons_left_iff.mp (List.forall₂_cons.mp fits).2
  obtain rfl := List.forall₂_nil_left_iff.mp nothing
  exact ⟨argument, rfl, fit⟩

theorem two (fits : Fits ⟨kind, [first, second]⟩ value arguments) :
    ∃ argument other, arguments = [argument, other] ∧ (first.specificity? argument).isSome ∧
      (second.specificity? other).isSome := by
  obtain ⟨argument, rest, fit, behind, rfl⟩ := List.forall₂_cons_left_iff.mp (List.forall₂_cons.mp fits).2
  obtain ⟨other, rest, fit', nothing, rfl⟩ := List.forall₂_cons_left_iff.mp behind
  obtain rfl := List.forall₂_nil_left_iff.mp nothing
  exact ⟨argument, other, rfl, fit, fit'⟩

end Shape.Fits

/-- The function has a result for all values that fit the shape. -/
def Body.Serves (body : Body) (shape : Shape) : Prop :=
  ∀ input arguments, shape.Fits input arguments → ∃ value, body input arguments = .ok value

namespace Core
variable {body : Body}

/-! ### Functions that always answer -/

/-- What a core function refuses, by its name. -/
inductive Refuses (name : String) (input : Value) (arguments : List Value) : FunctionError → Prop where
  | emptyPattern {text replacement : String} (named : name = "replace") (own : input = .string text)
      (given : arguments = [.string "", .string replacement]) : Refuses name input arguments .emptyPattern
  | invalidRegex {text pattern : String} {fault : Regex.Fault} (named : name = "matches") (own : input = .string text)
      (given : arguments = [.string pattern]) (unreadable : Regex.read pattern = .error fault) :
      Refuses name input arguments (.invalidRegex fault)

/-- Under each of its names the function fails on values that fit just where it refuses them. -/
def Answers (candidate : Candidate) : Prop :=
  ∀ name ∈ candidate.aliases ++ [candidate.overload.name], ∀ input arguments,
    candidate.overload.shape.Fits input arguments → ∀ error,
      candidate.overload.invoke input arguments = .error error ↔ Refuses name input arguments error

end Core

namespace Registry
variable {call : Call} {input : Value} {arguments : List Value} {overload : Overload}

end Registry
end FieldSelect
