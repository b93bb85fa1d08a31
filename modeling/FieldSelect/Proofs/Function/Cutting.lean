import FieldSelect.Function.Core
import FieldSelect.Projection.Projector
import Mathlib

/-! Texts that are cut. The pieces of a text joined by what it was cut at are the text, whatever that is, and bounds
far outside of a text, or out of order, cut out a part of it as well. -/
namespace FieldSelect

/-! ### Pieces -/

section Pieces
variable {separator text : List Char} {parts : List (List Char)}

theorem piecesAfter_ne_nil (separator : List Char) (skip : Nat) (text : List Char) :
    piecesAfter separator skip text ≠ [] := by
  induction text generalizing skip with
  | nil => cases skip <;> exact List.cons_ne_nil _ _
  | cons c rest ih =>
    cases skip with
    | succ skip => exact ih skip
    | zero =>
      rw [piecesAfter]
      split
      · exact List.cons_ne_nil _ _
      · cases piecesAfter separator 0 rest <;> exact List.cons_ne_nil _ _

theorem joinPieces_consHead (some_ : parts ≠ []) (c : Char) :
    joinPieces separator (consHead c parts) = c :: joinPieces separator parts := by
  obtain ⟨piece, others, rfl⟩ := List.exists_cons_of_ne_nil some_
  cases others <;> simp [joinPieces, consHead]

/-- What is skipped is the rest of a separator, which stands in front of the pieces to come. -/
theorem joinPieces_piecesAfter (some_ : separator ≠ []) (skip : Nat) (text : List Char) :
    joinPieces separator (piecesAfter separator skip text) = text.drop skip := by
  induction text generalizing skip with
  | nil => cases skip <;> rfl
  | cons c rest ih =>
    cases skip with
    | succ skip => exact ih skip
    | zero =>
      rw [piecesAfter, List.drop_zero]
      split
      · rename_i opens
        obtain ⟨behind, whole⟩ := List.isPrefixOf_iff_prefix.mp opens
        obtain ⟨d, others, rfl⟩ := List.exists_cons_of_ne_nil some_
        obtain ⟨rfl, rfl⟩ := List.cons.inj whole
        have joined := ih ((d :: others).length - 1)
        rw [joinPieces] at joined ⊢
        rw [List.intercalate_cons_of_ne_nil (piecesAfter_ne_nil _ _ _), joined]
        simp
      · rw [joinPieces_consHead (piecesAfter_ne_nil _ _ _), ih, List.drop_zero]

end Pieces

/-- Without a separator, pieces stand right behind one another. -/
theorem joinPieces_characters (text : List Char) : joinPieces [] (text.map fun c => [c]) = text := by
  induction text with
  | nil => rfl
  | cons c rest ih =>
    rw [joinPieces] at ih ⊢
    cases rest with
    | nil => rfl
    | cons d rest =>
      rw [List.map_cons] at ih
      rw [List.map_cons, List.map_cons, List.intercalate_cons_cons, ih]
      rfl

theorem intercalate_splitText {separator : String} (some_ : separator ≠ "") (text : String) :
    separator.intercalate (splitText separator text) = text := by
  have listed : separator.toList ≠ [] := by simpa using some_
  apply String.toList_inj.mp
  rw [String.toList_intercalate, splitText, List.map_map]
  simpa [Function.comp_def, pieces, joinPieces] using joinPieces_piecesAfter listed 0 text.toList

theorem intercalate_characters (text : String) :
    "".intercalate (text.toList.map fun c => String.ofList [c]) = text := by
  apply String.toList_inj.mp
  rw [String.toList_intercalate, List.map_map]
  simpa [Function.comp_def, joinPieces] using joinPieces_characters text.toList

namespace Core

/-- Every text can be put together again from its pieces, those at an empty separator included. -/
theorem intercalate_splitString (separator text : String) :
    separator.intercalate (splitString separator text) = text := by
  rw [splitString]
  split
  · rename_i empty
    rw [String.isEmpty_iff.mp empty]
    exact intercalate_characters text
  · rename_i filled
    exact intercalate_splitText (fun empty => filled (String.isEmpty_iff.mpr empty)) text

/-! ### Parts -/

theorem clampIndex_eq (n : Int64) (length : Nat) : (clampIndex n length : Int) = min (max n.toInt 0) length := by
  rw [clampIndex, Nat.cast_min, Int.toNat_eq_max]

theorem clampIndex_le (n : Int64) (length : Nat) : clampIndex n length ≤ length := Nat.min_le_right _ _

/-- A part stands between what is in front of its lower bound and the rest, also where it is empty since its bounds are
out of order. -/
theorem slice_between (text : List Char) (low high : Nat) :
    text.take low ++ slice text low high ++ text.drop (max low high) = text := by
  rcases Nat.le_total low high with rises | falls
  · rw [slice, Nat.max_eq_right rises]
    conv_rhs => rw [← List.take_append_drop high text, ← List.take_append_drop low (text.take high)]
    rw [List.take_take, Nat.min_eq_left rises]
  · rw [slice, Nat.max_eq_left falls, List.drop_eq_nil_of_le (by simp; omega), List.append_nil,
      List.take_append_drop]

theorem length_slice (text : List Char) (low high : Nat) :
    (slice text low high).length = min high text.length - low := by
  simp [slice]

/-- The front and the rest of a text, cut at one bound. -/
theorem slice_append (text : List Char) (bound : Nat) :
    slice text 0 bound ++ slice text bound text.length = text := by
  simp [slice]

/-- What two bounds cut out of a text, as a text. -/
def part (text : String) (low high : Int64) : String :=
  String.ofList (slice text.toList (clampIndex low text.length) (clampIndex high text.length))

theorem exists_part_between (text : String) (low high : Int64) : ∃ before behind,
    before ++ part text low high ++ behind = text ∧ (before.length : Int) = min (max low.toInt 0) text.length := by
  have inside := clampIndex_le low text.length
  refine ⟨String.ofList (text.toList.take (clampIndex low text.length)),
    String.ofList (text.toList.drop (max (clampIndex low text.length) (clampIndex high text.length))), ?_, ?_⟩
  · rw [part, ← String.ofList_append, ← String.ofList_append, slice_between, String.ofList_toList]
  · rw [String.length_ofList, List.length_take, String.length_toList, Nat.min_eq_left inside, clampIndex_eq]

theorem length_part (text : String) (low high : Int64) : ((part text low high).length : Int) =
    max 0 (min (max high.toInt 0) text.length - min (max low.toInt 0) text.length) := by
  have inside := clampIndex_le high text.length
  have lower := clampIndex_eq low text.length
  have upper := clampIndex_eq high text.length
  rw [part, String.length_ofList, length_slice, String.length_toList, Nat.min_eq_left inside, ← lower, ← upper]
  omega

/-- The characters between two bounds, if these are in order and inside of the text. -/
def range? (text : List Char) (low high : Nat) : Option (List Char) :=
  if low ≤ high ∧ high ≤ text.length then some ((text.drop low).take (high - low)) else none

/-- No character is taken where the bounds are out of order, and else they are bounds inside of the text. -/
theorem part_in_range (text : String) (low high : Int64) :
    clampIndex high text.length ≤ clampIndex low text.length ∧ part text low high = "" ∨
      range? text.toList (clampIndex low text.length) (clampIndex high text.length) =
        some (part text low high).toList := by
  have inside := clampIndex_le high text.length
  rw [part, String.toList_ofList]
  rcases Nat.lt_or_ge (clampIndex low text.length) (clampIndex high text.length) with rises | falls
  · rw [range?, if_pos ⟨Nat.le_of_lt rises, String.length_toList ▸ inside⟩, slice, List.drop_take]
    exact .inr rfl
  · have empty : slice text.toList (clampIndex low text.length) (clampIndex high text.length) = [] := by
      rw [← List.length_eq_zero_iff, length_slice]
      omega
    rw [empty]
    exact .inl ⟨falls, rfl⟩

end Core

/-! ### Calls -/

/-- A call that is written with values. -/
def Call.ofValues (name : String) (values : List Value) (position : Position) : Call :=
  ⟨name, values.map .literal, position⟩

namespace Projector
variable {m : Type → Type}

/-- The same surroundings, with the core functions as the only ones. -/
def withCore (projector : Projector m) : Projector m := { projector with registry := .core }

variable (projector : Projector m) (position : Position) (text : String)

theorem call_split (separator : String) :
    projector.withCore.call (.string text) (.ofValues "split" [.string separator] position) =
      .ok (.array ((Core.splitString separator text).map .string)) := rfl

theorem call_join (separator : String) (parts : List String) :
    projector.withCore.call (.array (parts.map .string)) (.ofValues "join" [.string separator] position) =
      .ok (.string (separator.intercalate parts)) := by
  have plain : (parts.map Value.string).map Value.plainText = parts := by
    simp [Function.comp_def, Value.plainText]
  change Except.ok (Value.string (separator.intercalate ((parts.map Value.string).map Value.plainText))) = _
  rw [plain]

theorem call_substring_from (low : Int64) :
    projector.withCore.call (.string text) (.ofValues "substring" [.integer low] position) =
      .ok (.string (String.ofList (Core.slice text.toList (Core.clampIndex low text.length) text.length))) := rfl

theorem call_substring_between (low high : Int64) :
    projector.withCore.call (.string text) (.ofValues "substring" [.integer low, .integer high] position) =
      .ok (.string (Core.part text low high)) := rfl

/-- Cutting loses nothing. A text that is split at a separator, be it empty, and joined by it again is the same text.
Both sides of any bound make up the text. Any two bounds have a part between them, which stands behind all that is in
front of the lower one, and is as long as the bounds are apart within the text; it is empty without a look at the text,
or taken from a range inside of it. -/
theorem call_cuts :
    (∀ separator, [Call.ofValues "split" [.string separator] position,
        .ofValues "join" [.string separator] position].foldlM projector.withCore.call (.string text) =
          .ok (.string text)) ∧
    (∀ bound, ∃ front back,
      projector.withCore.call (.string text) (.ofValues "substring" [.integer 0, .integer bound] position) =
        .ok (.string front) ∧
      projector.withCore.call (.string text) (.ofValues "substring" [.integer bound] position) = .ok (.string back) ∧
      front ++ back = text) ∧
    ∀ low high, ∃ before part behind,
      projector.withCore.call (.string text) (.ofValues "substring" [.integer low, .integer high] position) =
        .ok (.string part) ∧
      before ++ part ++ behind = text ∧
      (before.length : Int) = min (max low.toInt 0) text.length ∧
      (part.length : Int) = max 0 (min (max high.toInt 0) text.length - min (max low.toInt 0) text.length) ∧
      (Core.clampIndex high text.length ≤ Core.clampIndex low text.length ∧ part = "" ∨
        Core.range? text.toList (Core.clampIndex low text.length) (Core.clampIndex high text.length) =
          some part.toList) := by
  refine ⟨fun separator => ?_, fun bound => ?_, fun low high => ?_⟩
  · have joined := call_join projector position separator (Core.splitString separator text)
    rw [Core.intercalate_splitString] at joined
    simp only [List.foldlM_cons, List.foldlM_nil, call_split, bind, Except.bind, joined]
    rfl
  · refine ⟨_, _, call_substring_between .., call_substring_from .., ?_⟩
    have start : Core.clampIndex 0 text.length = 0 := Nat.zero_min _
    rw [Core.part, start, ← String.ofList_append, ← String.length_toList, Core.slice_append, String.ofList_toList]
  · obtain ⟨before, behind, whole, front⟩ := Core.exists_part_between text low high
    exact ⟨before, _, behind, call_substring_between .., whole, front, Core.length_part text low high,
      Core.part_in_range text low high⟩

end Projector
end FieldSelect
