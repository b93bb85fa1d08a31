import FieldSelect.Proofs.Filter.Lexemes
import FieldSelect.Proofs.Filter.Placing

/-! Where tokens and mistakes are. A scanner keeps count of lines and columns through white space, quotes and escapes,
so that every place that is given with a token or with a mistake is that of a character in the text, or of its end. -/
namespace FieldSelect

/-- The place of the character at an offset: one more than the line feeds before it, and one more than the characters
behind the last of them. -/
def Position.ofOffset (text : List Char) (offset : Nat) : Position :=
  ⟨1 + (text.take offset).count '\n', 1 + ((text.take offset).reverse.takeWhile (· != '\n')).length⟩

namespace Position

theorem after_start (text : List Char) : start.after text =
    ⟨1 + text.count '\n', 1 + (text.reverse.takeWhile (· != '\n')).length⟩ := by
  induction text using List.reverseRecOn with
  | nil => rfl
  | append_singleton text c ih =>
    rw [after_append, ih, after_cons, after_nil, step]
    by_cases feed : c = '\n'
    · subst feed
      simp [Nat.add_assoc]
    · have plain : (c != '\n') = true := by simpa using feed
      simp [feed, Nat.add_assoc]

theorem ofOffset_eq (text : List Char) (offset : Nat) : ofOffset text offset = start.after (text.take offset) :=
  (after_start _).symm

@[simp] theorem ofOffset_zero (text : List Char) : ofOffset text 0 = start := by
  simp [ofOffset_eq]

end Position

/-! ### Spans -/

/-- A token, the offset of its first character and the offset behind its last. -/
structure Span where
  token : Token
  start : Nat
  stop : Nat

/-- The token at the place where the span starts. -/
def Span.spanned (text : List Char) (span : Span) : Spanned := ⟨span.token, .ofOffset text span.start⟩

/-- The spans of all tokens of a text. Each token is read where its span starts and takes its span, the spans stand one
behind the other, and outside them there is white space. The end of the text is the last token, and the only one that is
empty. -/
structure Covers (text : List Char) (spans : List Span) : Prop where
  read : ∀ span ∈ spans, readToken (text.drop span.start) = .ok span.token (span.stop - span.start)
  apart : spans.Pairwise fun span later => span.stop ≤ later.start
  covered : ∀ offset c, text[offset]? = some c → isBlank c = false →
    ∃ span ∈ spans, span.start ≤ offset ∧ offset < span.stop
  ended : ∃ front, spans = front ++ [⟨.finish, text.length, text.length⟩] ∧
    ∀ span ∈ front, span.token ≠ .finish ∧ span.start < span.stop

/-- There is nothing but white space from one offset up to another. -/
def BlankBetween (text : List Char) (offset stop : Nat) : Prop :=
  ∀ place c, offset ≤ place → place < stop → text[place]? = some c → isBlank c = true

/-- The spans of the tokens behind an offset. -/
inductive Tiles (text : List Char) : Nat → List Span → Prop where
  | finish {offset : Nat} (within : offset ≤ text.length) (blank : BlankBetween text offset text.length) :
      Tiles text offset [⟨.finish, text.length, text.length⟩]
  | token {offset : Nat} {span : Span} {spans : List Span} (after : offset ≤ span.start)
      (proper : span.start < span.stop) (blank : BlankBetween text offset span.start) (inner : span.token ≠ .finish)
      (read : readToken (text.drop span.start) = .ok span.token (span.stop - span.start))
      (more : Tiles text span.stop spans) : Tiles text offset (span :: spans)

/-- The scan of the text comes to the offset, by white space and by tokens. -/
inductive Arrives (text : List Char) : Nat → Prop where
  | start : Arrives text 0
  | blank {offset : Nat} {c : Char} (arrives : Arrives text offset) (here : text[offset]? = some c)
      (blank : isBlank c = true) : Arrives text (offset + 1)
  | token {offset length : Nat} {token : Token} (arrives : Arrives text offset)
      (read : readToken (text.drop offset) = .ok token length) : Arrives text (offset + length)

section Tiling
variable {text : List Char} {offset start : Nat} {spans : List Span}

theorem Tiles.le (tiles : Tiles text offset spans) : ∀ span ∈ spans, offset ≤ span.start := by
  induction tiles with
  | finish within => simpa using within
  | token after proper _ _ _ _ ih =>
    refine List.forall_mem_cons.mpr ⟨after, fun later member => ?_⟩
    exact Nat.le_trans (Nat.le_of_lt (Nat.lt_of_le_of_lt after proper)) (ih later member)

theorem Tiles.covers (tiles : Tiles text offset spans) :
    (∀ span ∈ spans, readToken (text.drop span.start) = .ok span.token (span.stop - span.start)) ∧
      spans.Pairwise (fun span later => span.stop ≤ later.start) ∧
        (∀ place c, offset ≤ place → text[place]? = some c → isBlank c = false →
          ∃ span ∈ spans, span.start ≤ place ∧ place < span.stop) ∧
          ∃ front, spans = front ++ [⟨.finish, text.length, text.length⟩] ∧
            ∀ span ∈ front, span.token ≠ .finish ∧ span.start < span.stop := by
  induction tiles with
  | finish within blank =>
    refine ⟨by simp [readToken], List.pairwise_singleton _ _, ?_, [], rfl, by simp⟩
    intro place c after here dark
    have inside : place < text.length := (List.getElem?_eq_some_iff.mp here).1
    simp [blank place c after inside here] at dark
  | @token offset span spans after proper blank inner read more ih =>
    obtain ⟨reads, apart, covered, front, rfl, inners⟩ := ih
    refine ⟨List.forall_mem_cons.mpr ⟨read, reads⟩, List.pairwise_cons.mpr ⟨more.le, apart⟩, ?_, span :: front, rfl,
      List.forall_mem_cons.mpr ⟨⟨inner, proper⟩, inners⟩⟩
    intro place c from_ here dark
    by_cases before : place < span.start
    · simp [blank place c from_ before here] at dark
    · by_cases inside : place < span.stop
      · exact ⟨span, List.mem_cons_self, Nat.le_of_not_lt before, inside⟩
      · obtain ⟨later, member, holds⟩ := covered place c (Nat.le_of_not_lt inside) here dark
        exact ⟨later, List.mem_cons_of_mem _ member, holds⟩

theorem Arrives.skip (arrives : Arrives text offset) (le : offset ≤ start) (within : start ≤ text.length)
    (blank : BlankBetween text offset start) : Arrives text start := by
  induction start, le using Nat.le_induction with
  | base => exact arrives
  | succ start le ih =>
    have own : Arrives text start :=
      ih (Nat.le_of_succ_le within) fun place c after before => blank place c after (Nat.lt_succ_of_lt before)
    have here : text[start]? = some text[start] := List.getElem?_eq_getElem within
    exact .blank own here (blank start _ le (Nat.lt_succ_self start) here)

end Tiling

/-! ### Backslashes -/

section Backslashes
variable {quote c e : Char} {text rest chars : List Char} {length : Nat} {fault : LexFault}

end Backslashes

/-! ### The scan -/

namespace Scanner
variable {text : List Char} {offset steps : Nat} {tokens : List Spanned} {error : LexError}

/-- The scanner at an offset of the text. -/
def standing (text : List Char) (offset : Nat) : Scanner := ⟨text.drop offset, .ofOffset text offset⟩

end Scanner

section Filters
variable {text : String} {tokens : List Spanned}

end Filters

end FieldSelect
