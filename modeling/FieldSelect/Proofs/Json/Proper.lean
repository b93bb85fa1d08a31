import FieldSelect.Proofs.Decimal.Finite
import FieldSelect.Proofs.Value.Prune
import FieldSelect.Proofs.Yields

/-! Documents as they are read: integers have 64 bits, with or without a sign, floats are finite, and objects are in the
order of their keys. -/
namespace FieldSelect
namespace Json

inductive Proper : Json → Prop where
  | null : Proper .null
  | boolean (truth : Bool) : Proper (.boolean truth)
  | integer {n : Int} (low : -2 ^ 63 ≤ n) (high : n < 2 ^ 64) : Proper (.integer n)
  | float {x : Float} (finite : x.isFinite = true) : Proper (.float x)
  | string (chars : String) : Proper (.string chars)
  | array {items : List Json} (inside : ∀ item ∈ items, Proper item) : Proper (.array items)
  | object {entries : Entries Json} (sorted : Entries.Sorted entries) (inside : ∀ entry ∈ entries, Proper entry.2) :
      Proper (.object entries)

/-! ### Numbers -/

theorem gather_le {significand : Nat} (held : significand ≤ largestSignificand) (digits : List Char) :
    (gather significand digits).1 ≤ largestSignificand := by
  induction digits generalizing significand with
  | nil => exact held
  | cons c rest ih =>
    rw [gather]
    split
    · rename_i next
      exact ih next
    · exact held

theorem isFinite_zero : (0.0 : Float).isFinite = true := by decide +kernel

/-- Where a number is in range, the float it is scaled to is finite. -/
theorem isFinite_scaleSignificand {significand : Nat} {exponent : Int} {x : Float}
    (scaled : scaleSignificand significand exponent = .ok x) : x.isFinite = true := by
  rw [scaleSignificand] at scaled
  dsimp only at scaled
  split at scaled
  · cases scaled
    exact isFinite_shrink ((below_toFloat _).mono (by decide))
  · split at scaled
    · split at scaled
      · rename_i finite
        cases scaled
        exact finite
      · cases scaled
    · split at scaled
      · cases scaled
        exact isFinite_zero
      · cases scaled

theorem yields_scaled (significand : Nat) (exponent : Int) (rest : List Char) :
    Yields (fun x : Float => x.isFinite = true)
      (return (← scaleSignificand significand exponent, rest) : Except ReadError (Float × List Char)) := by
  intro x left read
  obtain ⟨y, scaled, read⟩ := exists_of_bind_eq_ok read
  cases read
  exact isFinite_scaleSignificand scaled

theorem yields_refuse {α : Type} (P : α → Prop) (text : List Char) :
    Yields P (refuse text : Except ReadError (α × List Char)) := by
  cases text <;> exact .error _

/-- An exponent that is out of every range gives zero or nothing. -/
theorem yields_power (significand : Nat) (exponent : Int) (negative : Bool) (digits rest : List Char) :
    Yields (fun x : Float => x.isFinite = true)
      (if digits.isEmpty then refuse rest
      else if digitsValue digits < Nat.pow 2 31 then do
        let x ← scaleSignificand significand
          (if negative then exponent - digitsValue digits else exponent + digitsValue digits)
        pure (x, rest)
      else if significand = 0 || negative then pure (0.0, rest)
      else throw .numberOutOfRange : Except ReadError (Float × List Char)) := by
  split
  · exact yields_refuse _ rest
  · split
    · exact yields_scaled significand _ rest
    · split
      · exact .pure (P := fun x : Float => x.isFinite = true) isFinite_zero rest
      · exact .error _

theorem yields_withExponent (significand : Nat) (exponent : Int) (text : List Char) :
    Yields (fun x => x.isFinite = true) (withExponent significand exponent text) := by
  rw [withExponent.eq_def]
  split
  · split
    · split
      exact yields_power significand exponent _ _ _
    · exact yields_scaled significand exponent _
  · exact yields_scaled significand exponent []

theorem yields_withFraction (significand : Nat) (exponent : Int) (text : List Char) :
    Yields (fun x => x.isFinite = true) (withFraction significand exponent text) := by
  rw [withFraction]
  dsimp only
  split
  · exact yields_refuse _ _
  · exact yields_withExponent _ _ _

theorem proper_signed (negative : Bool) {x : Float} (finite : x.isFinite = true) : (signed negative x).Proper := by
  cases negative with
  | false => exact .float finite
  | true => exact .float (isFinite_neg finite)

theorem proper_wholeNumber (negative : Bool) {significand : Nat} (held : significand ≤ largestSignificand) :
    (wholeNumber negative significand).Proper := by
  have top : significand < 2 ^ 64 := Nat.lt_succ_of_le held
  rw [wholeNumber]
  split
  · exact .integer (by omega) (by exact_mod_cast top)
  · split
    · exact proper_signed true (below_toFloat _).isFinite
    · rename_i inside
      have low : significand ≤ 2 ^ 63 := Nat.le_of_not_lt fun beyond => inside (.inr beyond)
      exact .integer (by omega) (by omega)

theorem yields_readNumber (negative : Bool) (text : List Char) : Yields Proper (readNumber negative text) := by
  rw [readNumber]
  obtain ⟨digits, rest⟩ := spanDigits text
  dsimp only
  cases digits with
  | nil => exact yields_refuse _ _
  | cons first more =>
    have held := gather_le (Nat.zero_le _) (first :: more)
    dsimp only
    split
    · exact .error _
    · split
      · refine (yields_withFraction _ _ _).bind fun x rest finite => ?_
        exact .pure (proper_signed negative finite) rest
      · split
        · exact .pure (proper_wholeNumber negative held) _
        · refine (yields_withExponent _ _ _).bind fun x rest finite => ?_
          exact .pure (proper_signed negative finite) rest

/-! ### Values -/

section Parts
variable {element : Reader Json} (reads : ∀ text, Yields Proper (element text))
include reads

theorem yields_readItems (steps : Nat) (text : List Char) :
    Yields (fun items => ∀ item ∈ items, Proper item) (readItems element steps text) := by
  induction steps generalizing text with
  | zero => exact .error _
  | succ steps ih =>
    rw [readItems]
    refine (reads text).bind fun item rest proper => ?_
    dsimp only
    split
    · refine (ih _).bind fun items rest all => ?_
      exact .pure (List.forall_mem_cons.mpr ⟨proper, all⟩) rest
    · exact .pure (List.forall_mem_singleton.mpr proper) _
    · exact yields_refuse _ _

theorem yields_readEntry (text : List Char) : Yields (fun entry => entry.2.Proper) (readEntry element text) := by
  rw [readEntry]
  split
  · refine (Yields.any (readText _)).bind fun key rest _ => ?_
    dsimp only
    split
    · refine (reads _).bind fun value rest proper => ?_
      exact .pure (P := fun entry : String × Json => entry.2.Proper) proper rest
    · exact yields_refuse _ _
  · exact yields_refuse _ _

theorem yields_readEntries (steps : Nat) (text : List Char) :
    Yields (fun entries => ∀ entry ∈ entries, entry.2.Proper) (readEntries element steps text) := by
  induction steps generalizing text with
  | zero => exact .error _
  | succ steps ih =>
    rw [readEntries]
    refine (yields_readEntry reads text).bind fun entry rest proper => ?_
    dsimp only
    split
    · refine (ih _).bind fun entries rest all => .pure (fun later member => ?_) rest
      rcases List.mem_cons.mp member with rfl | inside
      · exact proper
      · exact all later inside
    · refine .pure (fun later member => ?_) _
      rcases List.mem_singleton.mp member with rfl
      exact proper
    · exact yields_refuse _ _

end Parts

theorem yields_readWith {element : Option (Reader Json)}
    (reads : ∀ reader ∈ element, ∀ text, Yields Proper (reader text)) (text : List Char) : Yields Proper (readWith element text) := by
  rw [readWith.eq_def]
  split
  · exact .error _
  · exact .error _
  · dsimp only
    split
    · exact .pure (.array nofun) _
    · refine (yields_readItems (reads _ rfl) _ _).bind fun items rest all => ?_
      exact .pure (.array all) rest
  · dsimp only
    split
    · exact .pure (.object .nil nofun) _
    · refine (yields_readEntries (reads _ rfl) _ _).bind fun entries rest all => ?_
      refine .pure (.object (Entries.sorted_ofPairs entries) fun entry member => ?_) rest
      exact all entry (Entries.mem_of_mem_ofPairs member)
  · refine (Yields.any (readText _)).bind fun chars rest _ => ?_
    exact .pure (.string chars) rest
  · exact .pure .null _
  · exact .pure (.boolean true) _
  · exact .pure (.boolean false) _
  · exact yields_readNumber true _
  · exact yields_readNumber false _

theorem yields_readValue (levels : Nat) (text : List Char) : Yields Proper (readValue levels text) := by
  induction levels generalizing text with
  | zero => exact yields_readWith (fun reader absent => absurd absent (Option.not_mem_none reader)) text
  | succ levels ih =>
    refine yields_readWith (fun reader own text => ?_) text
    cases own
    exact ih text

theorem proper_of_read {text : String} {document : Json} (accepted : read text = .ok document) : document.Proper := by
  obtain ⟨⟨whole, rest⟩, value, ended⟩ := exists_of_bind_eq_ok accepted
  have proper := yields_readValue nestingLimit text.toList whole rest value
  dsimp only at ended
  split at ended
  · cases ended
    exact proper
  · cases ended

end Json
end FieldSelect
