import FieldSelect.Filter.Name
import FieldSelect.Proofs.Regex.Reading
import FieldSelect.Proofs.Regex.Spans
import FieldSelect.Proofs.Yields

/-! Globs: a star gives way to any run of characters within a line, and all other characters stand for themselves,
whatever they mean in a regular expression. -/
namespace FieldSelect
open Spot

/-! ### Texts that arise from a glob -/

/-- The text arises from the glob where each star gives way to a run of characters that is allowed. -/
inductive Fills (allowed : List Char → Prop) : List Char → List Char → Prop where
  | done : Fills allowed [] []
  | literal {c : Char} {glob text : List Char} (plain : c ≠ '*') (behind : Fills allowed glob text) :
      Fills allowed (c :: glob) (c :: text)
  | star {run glob text : List Char} (fits : allowed run) (behind : Fills allowed glob text) :
      Fills allowed ('*' :: glob) (run ++ text)

namespace Fills
variable {glob text : List Char}

theorem count_le (fills : Fills (fun _ => True) glob text) : glob.count '\n' ≤ text.count '\n' := by
  induction fills with
  | done => exact Nat.le_refl _
  | literal plain behind ih =>
    rw [List.count_cons, List.count_cons]
    exact Nat.add_le_add_right ih _
  | star fits behind ih =>
    rw [List.count_cons_of_ne (by decide), List.count_append]
    exact Nat.le_trans ih (Nat.le_add_left ..)

/-- Runs stay within a line just if the text has no more line feeds than the glob. -/
theorem within_lines_iff : Fills ('\n' ∉ ·) glob text ↔
    Fills (fun _ => True) glob text ∧ text.count '\n' = glob.count '\n' := by
  constructor
  · intro fills
    induction fills with
    | done => exact ⟨.done, rfl⟩
    | literal plain behind ih =>
      refine ⟨.literal plain ih.1, ?_⟩
      rw [List.count_cons, List.count_cons, ih.2]
    | star fits behind ih =>
      refine ⟨.star trivial ih.1, ?_⟩
      rw [List.count_cons_of_ne (by decide), List.count_append, List.count_eq_zero.mpr fits, ih.2, Nat.zero_add]
  · rintro ⟨fills, same⟩
    induction fills with
    | done => exact .done
    | literal plain behind ih =>
      rw [List.count_cons, List.count_cons] at same
      exact .literal plain (ih (Nat.add_right_cancel same))
    | star fits behind ih =>
      rw [List.count_cons_of_ne (by decide), List.count_append] at same
      have least := behind.count_le
      exact .star (List.count_eq_zero.mp (by omega)) (ih (by omega))

end Fills

namespace Regex

/-! ### The expression of a glob -/

/-- Any character but a line feed. -/
def inLine : CharSet := (CharSet.single '\n').compl

def globPart (c : Char) : Regex := if c = '*' then .repeated (.oneOf inLine) 0 none else .oneOf (.single c)

theorem holds_inLine (c : Char) : inLine.holds c = true ↔ c ≠ '\n' := by
  rw [inLine, CharSet.holds_compl, CharSet.holds_single]
  simp

theorem spans_globPart_star_iff {passed rest : List Char} {target : Spot} :
    (globPart '*').Spans (between passed rest) target ↔
      ∃ run behind, rest = run ++ behind ∧ '\n' ∉ run ∧ target = between (passed ++ run) behind := by
  refine spans_runs_iff.trans (exists_congr fun run => exists_congr fun behind => ?_)
  simp only [holds_inLine]
  refine and_congr_right fun _ => and_congr_left fun _ => ⟨fun members member => ?_, fun missing c member => ?_⟩
  · exact members _ member rfl
  · rintro rfl
    exact missing member

theorem spans_globPart_literal_iff {c : Char} (plain : c ≠ '*') {passed rest : List Char} {target : Spot} :
    (globPart c).Spans (between passed rest) target ↔
      ∃ behind, rest = c :: behind ∧ target = between (passed ++ [c]) behind := by
  rw [globPart, if_neg plain]
  refine step?_eq_some_iff.trans ?_
  simp only [CharSet.holds_single, decide_eq_true_eq]
  constructor
  · rintro ⟨_, behind, rfl, rfl, rfl⟩
    exact ⟨behind, rfl, rfl⟩
  · rintro ⟨behind, rfl, rfl⟩
    exact ⟨c, behind, rfl, rfl, rfl⟩

theorem spans_globParts_iff {glob passed rest : List Char} {target : Spot} :
    (sequence (glob.map globPart)).Spans (between passed rest) target ↔
      ∃ text behind, rest = text ++ behind ∧ Fills ('\n' ∉ ·) glob text ∧ target = between (passed ++ text) behind := by
  induction glob generalizing passed rest with
  | nil =>
    constructor
    · rintro rfl
      exact ⟨[], rest, rfl, .done, congrArg (between · rest) (List.append_nil passed).symm⟩
    · rintro ⟨_, behind, rfl, ⟨⟩, rfl⟩
      exact congrArg (between · behind) (List.append_nil passed)
  | cons c glob ih =>
    rw [List.map_cons, spans_sequence_cons]
    by_cases star : c = '*'
    · subst star
      simp only [spans_globPart_star_iff]
      constructor
      · rintro ⟨_, ⟨run, behind, rfl, fits, rfl⟩, spans⟩
        obtain ⟨text, behind, rfl, fills, rfl⟩ := ih.mp spans
        exact ⟨run ++ text, behind, (List.append_assoc ..).symm, .star fits fills, by rw [List.append_assoc]⟩
      · rintro ⟨_, behind, rfl, fills, rfl⟩
        cases fills with
        | literal plain => exact absurd rfl plain
        | @star run _ text fits fills =>
          refine ⟨_, ⟨run, text ++ behind, List.append_assoc .., fits, rfl⟩, ih.mpr ?_⟩
          exact ⟨text, behind, rfl, fills, by rw [List.append_assoc]⟩
    · simp only [spans_globPart_literal_iff star]
      constructor
      · rintro ⟨_, ⟨behind, rfl, rfl⟩, spans⟩
        obtain ⟨text, behind, rfl, fills, rfl⟩ := ih.mp spans
        exact ⟨c :: text, behind, rfl, .literal star fills, by rw [List.append_cons passed c text]⟩
      · rintro ⟨_, behind, rfl, fills, rfl⟩
        cases fills with
        | @literal _ _ text plain fills =>
          refine ⟨_, ⟨text ++ behind, rfl, rfl⟩, ih.mpr ⟨text, behind, rfl, fills, ?_⟩⟩
          rw [List.append_cons passed c text]
        | star => exact absurd rfl star

theorem spansText_globParts_iff {glob text : List Char} :
    (sequence (glob.map globPart)).SpansText text ↔ Fills ('\n' ∉ ·) glob text := by
  refine spans_globParts_iff.trans ⟨?_, fun fills => ⟨text, [], (List.append_nil text).symm, fills, rfl⟩⟩
  rintro ⟨filled, behind, rfl, fills, same⟩
  obtain rfl : [] = behind := congrArg Spot.rest same
  exact (List.append_nil filled).symm ▸ fills

/-! ### Reading it -/

/-- How a character of a glob is written in an expression. -/
def globSpelling (c : Char) : List Char :=
  if c = '*' then ['.', '*'] else if metaChars.contains c then ['\\', c] else [c]

theorem exists_pieces_cons (mark : Char) (text : List Char) : ∃ first others, pieces [mark] text = first :: others := by
  induction text with
  | nil => exact ⟨[], [], rfl⟩
  | cons c text ih =>
    obtain ⟨first, others, same⟩ := ih
    rw [pieces] at same
    rw [pieces, piecesAfter]
    split
    · exact ⟨[], _, rfl⟩
    · exact ⟨c :: first, others, by rw [same, consHead]⟩

/-- The pieces between the stars, escaped and joined again, are the glob spelled out. -/
theorem joinPieces_escape (glob : List Char) :
    joinPieces ['.', '*'] ((pieces ['*'] glob).map escape) = glob.flatMap globSpelling := by
  induction glob with
  | nil => rfl
  | cons c glob ih =>
    obtain ⟨first, others, same⟩ := exists_pieces_cons '*' glob
    rw [List.flatMap_cons, ← ih, same]
    rw [pieces] at same
    by_cases star : c = '*'
    · subst star
      have cut : pieces ['*'] ('*' :: glob) = [] :: first :: others := congrArg ([] :: ·) same
      rw [cut]
      rfl
    · have kept : pieces ['*'] (c :: glob) = (c :: first) :: others := by
        rw [pieces, piecesAfter, if_neg (by simpa [List.isPrefixOf] using Ne.symm star), same, consHead]
      rw [kept, globSpelling, if_neg star]
      cases others <;> simp [joinPieces, escape]

theorem toList_globText (glob : String) :
    (Name.globText glob).toList = '^' :: (glob.toList.flatMap globSpelling ++ ['$']) := by
  simp only [Name.globText, joinPieces_escape, String.toList_append, String.toList_ofList]
  rfl

theorem skipLazy_cons {c : Char} (different : c ≠ '?') (rest : List Char) : skipLazy (c :: rest) = c :: rest := by
  unfold skipLazy
  split
  next same => exact absurd (List.cons.inj same).1 different
  next => rfl

theorem skipLazy_globSpelling (glob : List Char) :
    skipLazy (glob.flatMap globSpelling ++ ['$']) = glob.flatMap globSpelling ++ ['$'] := by
  cases glob with
  | nil => rfl
  | cons c glob =>
    rw [List.flatMap_cons, globSpelling]
    split
    · rfl
    · split
      · rfl
      · rename_i plain
        refine skipLazy_cons ?_ _
        rintro rfl
        exact plain (by decide)

theorem readEscape_metaChar {c : Char} (special : metaChars.contains c = true) (rest : List Char) :
    readEscape .initial (c :: rest) = .ok (.literal c, rest) := by
  have signs : metaChars.all fun c => (classEscape .initial c).isNone && isEscapable c := by decide +kernel
  obtain ⟨noClass, escapable⟩ :=
    Bool.and_eq_true_iff.mp (List.all_eq_true.mp signs c (List.contains_iff_mem.mp special))
  simp [readEscape, Option.isNone_iff_eq_none.mp noClass, escapable]
  rfl

theorem readGroup_literal {steps : Nat} {names : List String} {branches parts : List Part} {c : Char}
    (plain : ¬ metaChars.contains c = true) (rest : List Char) :
    readGroup (steps + 1) ⟨.initial, names, branches, parts⟩ (c :: rest) =
      readGroup steps ⟨.initial, names, branches, ⟨.oneOf (.single c), 0, true⟩ :: parts⟩ rest := by
  rw [readGroup]
  simp only [Flags.skip, Flags.initial]
  simp [metaChars] at plain
  split <;> simp_all
  rfl

/-- What a character of a glob is spelled with is read as its part, in as many steps at most. -/
theorem readGroup_globSpelling {names : List String} {branches parts : List Part} (c : Char) (steps : Nat)
    {rest : List Char} (whole : skipLazy rest = rest) :
    ∃ others ≥ steps, ∃ part : Part, part.regex = globPart c ∧
      readGroup (steps + (globSpelling c).length) ⟨.initial, names, branches, parts⟩ (globSpelling c ++ rest) =
        readGroup others ⟨.initial, names, branches, part :: parts⟩ rest := by
  rw [globPart, globSpelling]
  split
  · refine ⟨steps, Nat.le_refl _, ⟨_, 1, true⟩, rfl, ?_⟩
    conv => rhs; rw [← whole]
    rfl
  · split
    next special =>
      refine ⟨steps + 1, Nat.le_succ _, ⟨_, 0, true⟩, rfl, ?_⟩
      change readEscape .initial (c :: rest) >>= _ = _
      rw [readEscape_metaChar special]
      rfl
    next plain => exact ⟨steps, Nat.le_refl _, ⟨_, 0, true⟩, rfl, readGroup_literal plain rest⟩

theorem readGroup_globSpellings {steps : Nat} {names : List String} {branches parts : List Part} (glob : List Char)
    (enough : (glob.flatMap globSpelling).length + 2 ≤ steps) :
    ∃ group, readGroup steps ⟨.initial, names, branches, parts⟩ (glob.flatMap globSpelling ++ ['$']) = .ok (group, []) ∧
      group.branches = branches ∧
      group.parts.map Part.regex = .look .textEnd :: ((glob.map globPart).reverse ++ parts.map Part.regex) := by
  induction glob generalizing steps parts with
  | nil =>
    obtain ⟨steps, rfl⟩ := Nat.exists_eq_add_of_le' enough
    exact ⟨⟨.initial, names, branches, ⟨.look .textEnd, 0, true⟩ :: parts⟩, rfl, rfl, rfl⟩
  | cons c glob ih =>
    rw [List.flatMap_cons, List.length_append] at enough
    obtain ⟨fewer, rfl⟩ := Nat.exists_eq_add_of_le' (show (globSpelling c).length ≤ steps by omega)
    obtain ⟨others, least, part, own, read⟩ := readGroup_globSpelling c fewer (skipLazy_globSpelling glob)
    obtain ⟨group, behind, same, regexes⟩ := @ih others (part :: parts) (by omega)
    refine ⟨group, ?_, same, regexes.trans ?_⟩
    · rw [List.flatMap_cons, List.append_assoc, read, behind]
    · simp [own]

end Regex

namespace Name
open Regex

/-- The expression of a glob is that of its characters between the anchors. -/
theorem read_globText {glob : String} {regex : Regex} (read : Regex.read (globText glob) = .ok regex) :
    regex = Regex.sequence (.look .textStart :: (glob.toList.map globPart ++ [.look .textEnd])) := by
  have opened : readGroup ((globText glob).toList.length + 1) ⟨.initial, [], [], []⟩ (globText glob).toList =
      readGroup (globText glob).toList.length ⟨.initial, [], [], [⟨.look .textStart, 0, true⟩]⟩
        (glob.toList.flatMap globSpelling ++ ['$']) := by
    rw [toList_globText]
    rfl
  obtain ⟨group, whole, single, regexes⟩ :=
    @readGroup_globSpellings (globText glob).toList.length [] [] [⟨.look .textStart, 0, true⟩] glob.toList
      (by rw [toList_globText]; simp)
  obtain ⟨group', whole', rfl⟩ := reads_of_read read
  obtain rfl : group = group' := by
    rw [opened, whole] at whole'
    cases whole'
    rfl
  rw [close_of_parts single, regexes]
  simp

/-- A glob fits a name just if the name arises from it with any run of characters in the place of each star, and has no
more line feeds than the glob. -/
theorem scores_glob_iff {glob : String} {name : Name} (compiled : glob? glob = .ok name) (candidate : String)
    (bindings : Option Bindings) : (name.score? candidate bindings).isSome ↔
      Fills (fun _ => True) glob.toList candidate.toList ∧ candidate.toList.count '\n' = glob.toList.count '\n' := by
  obtain ⟨regex, read, rfl⟩ := exists_of_map_eq_ok compiled
  rw [isSome_score?_pattern, ← Fills.within_lines_iff, ← spansText_globParts_iff, ← isMatch_anchored_iff,
    read_globText read]

private theorem fills_star (run : List Char) : Fills (fun _ => True) "a*".toList ('a' :: run) :=
  .literal (by decide) (List.append_nil run ▸ .star trivial .done)

/-- A star gives way to two characters. -/
theorem scores_glob_iff_of_star : ∃ name, glob? "a*" = .ok name ∧ (name.score? "abc" none).isSome := by
  obtain ⟨name, compiled, _⟩ :=
    exists_of_any_toOption (show (glob? "a*").toOption.any (fun _ => true) = true by decide +kernel)
  exact ⟨name, compiled, (scores_glob_iff compiled "abc" none).mpr ⟨fills_star ['b', 'c'], rfl⟩⟩

/-- A star does not give way to a run that goes on in the next line. -/
theorem not_scores_glob_across_lines : ∃ name, glob? "a*" = .ok name ∧
    Fills (fun _ => True) "a*".toList "a\nb".toList ∧ ¬ (name.score? "a\nb" none).isSome := by
  obtain ⟨name, compiled, fails⟩ := exists_of_any_toOption
    (show (glob? "a*").toOption.any (fun name => (name.score? "a\nb" none).isNone) = true by decide +kernel)
  exact ⟨name, compiled, fills_star ['\n', 'b'],
    Option.not_isSome_iff_eq_none.mpr (Option.isNone_iff_eq_none.mp fails)⟩

end Name
end FieldSelect
