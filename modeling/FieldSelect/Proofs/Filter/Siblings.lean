import FieldSelect.Proofs.Filter.Spelling

/-! Siblings that open the same block, written apart and written as one. A block that only drops fields has been
completed before it meets its sibling, and this is all that can make a difference. -/
namespace FieldSelect
open Selector

/-- The selectors that a text lists, as a block does between its braces. -/
def selectorsOf (text : String) : Except ParseError (List Selector) := do
  let tokens ← (tokenize text).mapError fun error => ⟨.lexical error, error.position⟩
  let (selectors, rest) ← Parser.selectors tokens.length tokens
  let ((), _) ← Parser.expect .finish rest
  return selectors

namespace Parser
open Tokens
variable {name : String} {first second both read : List Token} {xs ys zs selected : List Selector}
  {front tokens rest : Tokens} {inside : Parser (List Selector)} {levels : Nat}

/-! ### Lists of selectors by their tokens -/

/-- Tokens that are read as these selectors, with nothing behind them, as soon as there are levels enough. -/
structure Lists (read : List Token) (selected : List Selector) : Prop where
  inner : ∀ token ∈ read, token ≠ .finish
  alone : ∃ (tokens : Tokens) (levels : Nat) (position : Position), tokens.map (·.token) = read ++ [.finish] ∧
    tokens.length ≤ levels + 1 ∧ Listed (selectors levels) tokens selected [⟨.finish, position⟩]

theorem Lists.wellFormed (lists : Lists read selected) : ∀ selector ∈ selected, selector.WellFormed := by
  obtain ⟨tokens, levels, position, _, _, listed⟩ := lists.alone
  exact listed.wellFormed (yields_selectors levels)

theorem Lists.ne_nil (lists : Lists read selected) : selected ≠ [] := by
  obtain ⟨tokens, levels, position, _, _, listed⟩ := lists.alone
  exact List.ne_nil_of_length_pos listed.length_pos

theorem Lists.spelled (lists : Lists read selected) : ∃ front : Tokens, front.map (·.token) = read := by
  obtain ⟨tokens, _, _, same, _⟩ := lists.alone
  obtain ⟨front, _, _, spells⟩ := of_tokens_concat same
  exact ⟨front, spells⟩

/-- A list can be read wherever it stands, as one that can stand for it. -/
theorem Lists.listed (lists : Lists read selected) (spells : front.map (·.token) = read) (closes : rest.Closes)
    (enough : (front ++ rest).length ≤ levels + 1) :
    ∃ selected', Listed (selectors levels) (front ++ rest) selected' rest ∧ Block.Interchangeable selected selected' ∧
      selected'.length ≤ front.length := by
  obtain ⟨tokens, height, position, same, low, listed⟩ := lists.alone
  have akin : Akin noSwap rest true tokens (front ++ rest) := .of_tokens lists.inner same spells
  have unfollowed : Tokens.head [⟨.finish, position⟩] ≠ .comma := nofun
  obtain ⟨selected', rest', listed', alike, left, _, count⟩ :=
    listed.stands closes (fun akin low low' => carried_enclosed closes swappable_noSwap akin low low') swappable_noSwap
      unfollowed low enough akin
  cases left with
  | cons inner => exact absurd rfl inner
  | finish =>
    rw [List.length_append] at count
    exact ⟨selected', listed', alike, by omega⟩

/-- A list is read up to what closes it. -/
theorem Lists.selectors (lists : Lists read selected) (spells : front.map (·.token) = read) (closes : rest.Closes)
    (single : rest.head ≠ .comma) (enough : (front ++ rest).length ≤ levels) :
    ∃ selected', Parser.selectors levels (front ++ rest) = .ok (selected', rest) ∧
      Block.SameBlock selected selected' := by
  cases levels with
  | zero =>
    obtain ⟨_, _, _, rfl, _⟩ := closes
    rw [List.length_append, List.length_cons] at enough
    omega
  | succ levels =>
    obtain ⟨selected', listed, alike, few⟩ := lists.listed spells closes enough
    have formed := listed.wellFormed (yields_selectors levels)
    have within : selected'.length ≤ (front ++ rest).length := by
      rw [List.length_append]
      omega
    exact ⟨selected', listed.selectorsWith single within, alike.sameBlock lists.wellFormed formed⟩

theorem lists_of_selectors {position : Position} (inner : ∀ token ∈ read, token ≠ .finish)
    (same : tokens.map (·.token) = read ++ [.finish])
    (reads : Parser.selectors tokens.length tokens = .ok (selected, [⟨.finish, position⟩])) : Lists read selected := by
  cases tokens with
  | nil => cases reads
  | cons head tokens =>
    obtain ⟨listed, _⟩ := listed_of_selectorsWith reads
    exact ⟨inner, _, _, position, same, Nat.le_refl _, listed⟩

/-- Lists with a comma between them are one list. -/
theorem Lists.append (lists : Lists first xs) (lists' : Lists second ys) :
    ∃ zs, Lists (first ++ .comma :: second) zs ∧ Block.Interchangeable (xs ++ ys) zs := by
  obtain ⟨front, spells⟩ := lists.spelled
  obtain ⟨back, spells'⟩ := lists'.spelled
  generalize ended : (back ++ [⟨.finish, .start⟩] : Tokens) = behind
  have closes : Closes [⟨.finish, .start⟩] := ⟨.finish, .start, [], rfl, rfl⟩
  have closes' : Closes (⟨.comma, .start⟩ :: behind) := ⟨.comma, .start, behind, rfl, rfl⟩
  generalize whole : (front ++ ⟨.comma, .start⟩ :: behind : Tokens) = tokens
  have low : (front ++ ⟨.comma, .start⟩ :: behind : Tokens).length ≤ tokens.length + 1 := by
    rw [whole]
    exact Nat.le_succ _
  have low' : (back ++ [⟨.finish, .start⟩] : Tokens).length ≤ tokens.length + 1 := by
    rw [ended, ← whole, List.length_append, List.length_cons]
    omega
  obtain ⟨xs', listed, alike, _⟩ := lists.listed spells closes' low
  obtain ⟨ys', listed', alike', _⟩ := lists'.listed spells' closes low'
  rw [whole] at listed
  rw [ended] at listed'
  refine ⟨xs' ++ ys', ⟨?_, tokens, _, .start, ?_, Nat.le_succ _, listed.append listed'⟩, alike.append alike'⟩
  · intro token member
    rcases List.mem_append.mp member with own | behind
    · exact lists.inner token own
    · rcases List.mem_cons.mp behind with rfl | own
      · nofun
      · exact lists'.inner token own
  · rw [← whole, ← ended, List.map_append, spells, List.map_cons, List.map_append, spells', List.append_assoc]
    rfl

/-! ### Blocks -/

/-- A name with a block behind it, up to what ends a selector. -/
theorem selector_block {position opening closing : Position} {children : List Selector}
    (filled : tokens.head ≠ .rightBrace) (reads : inside tokens = .ok (children, ⟨.rightBrace, closing⟩ :: rest))
    (ends : rest.head.endsSelector = true) :
    selector inside (⟨.identifier name, position⟩ :: ⟨.leftBrace, opening⟩ :: tokens) =
      .ok ({ named (.exact name) position with nested := true, children := Block.finish children }, rest) := by
  have segment : segment inside (⟨.identifier name, position⟩ :: ⟨.leftBrace, opening⟩ :: tokens) =
      .ok ({ named (.exact name) position with nested := true, children := Block.finish children }, rest) := by
    change block inside (named (.exact name) position) (⟨.leftBrace, opening⟩ :: tokens) = _
    rw [block_filled inside _ opening filled, enclosed, reads]
    rfl
  have path : path inside (tokens.length + 2) (⟨.identifier name, position⟩ :: ⟨.leftBrace, opening⟩ :: tokens) =
      .ok ([{ named (.exact name) position with nested := true, children := Block.finish children }], rest) := by
    rw [Parser.path, segment]
    rcases rest with _ | ⟨⟨token, place⟩, behind⟩
    · rfl
    · cases token <;> first | rfl | cases ends
  change (Parser.path inside (tokens.length + 2) _ >>= _) = _
  rw [path]
  rfl

/-- No list starts with what ends a selector. -/
theorem Listed.head (listed : Listed inside tokens selected rest) : tokens.head.endsSelector = false := by
  have first : ∃ selector behind, Parser.selector inside tokens = .ok (selector, behind) := by
    cases listed with
    | one read => exact ⟨_, _, read⟩
    | comma read => exact ⟨_, _, read⟩
  obtain ⟨selector, behind, read⟩ := first
  rcases tokens with _ | ⟨⟨token, position⟩, tokens⟩
  · cases read
  · cases token <;> first | rfl | cases read

theorem Lists.head (lists : Lists read selected) (spells : front.map (·.token) = read) (rest : Tokens) :
    (front ++ rest).head.endsSelector = false := by
  obtain ⟨tokens, levels, position, same, _, listed⟩ := lists.alone
  have starts := listed.head
  rw [← spells] at same
  rcases front with _ | ⟨⟨token, place⟩, front⟩
  · obtain ⟨_, _, rfl, _⟩ := of_tokens_cons same
    cases starts
  · obtain ⟨_, _, rfl, _⟩ := of_tokens_cons same
    exact starts

/-- A block is read as its list, wherever it stands. -/
theorem Lists.block (lists : Lists read selected) (spells : front.map (·.token) = read) (name : String)
    (position opening closing : Position) (ends : rest.head.endsSelector = true)
    (enough : (front ++ ⟨.rightBrace, closing⟩ :: rest).length ≤ levels) :
    ∃ holder, selector (Parser.selectors levels)
        (⟨.identifier name, position⟩ :: ⟨.leftBrace, opening⟩ :: (front ++ ⟨.rightBrace, closing⟩ :: rest)) =
          .ok (holder, rest) ∧ holder.bare = (opened name (Block.finish selected)).bare := by
  have closes : Closes (⟨.rightBrace, closing⟩ :: rest) := ⟨.rightBrace, closing, rest, rfl, rfl⟩
  obtain ⟨selected', reads, same⟩ := lists.selectors spells closes nofun enough
  have starts := lists.head spells (⟨.rightBrace, closing⟩ :: rest)
  have filled : (front ++ ⟨.rightBrace, closing⟩ :: rest).head ≠ .rightBrace := by
    intro closed
    rw [closed] at starts
    cases starts
  refine ⟨_, selector_block filled reads ends, ?_⟩
  rw [Block.SameBlock] at same
  simp only [bare_eq, opened, same]
  rfl

/-- A block is a list of one selector. -/
theorem Lists.enclosed (lists : Lists read selected) (name : String) :
    ∃ holder, Lists (.identifier name :: .leftBrace :: (read ++ [.rightBrace])) [holder] := by
  obtain ⟨front, spells⟩ := lists.spelled
  generalize counted : (front ++ [⟨.rightBrace, .start⟩, ⟨.finish, .start⟩] : Tokens) = behind
  have enough : (front ++ [⟨.rightBrace, .start⟩, ⟨.finish, .start⟩] : Tokens).length ≤ behind.length + 1 := by
    rw [counted]
    exact Nat.le_succ _
  have ended : (Tokens.head [⟨.finish, .start⟩]).endsSelector = true := rfl
  obtain ⟨holder, reads, _⟩ := lists.block spells name .start .start .start ended enough
  rw [counted] at reads
  refine ⟨holder, ?_, _, _, .start, ?_, Nat.le_refl _, .one reads⟩
  · have proper := lists.inner
    simp only [List.forall_mem_cons, List.forall_mem_append]
    exact ⟨nofun, nofun, proper, nofun, nofun⟩
  · rw [← counted, List.map_cons, List.map_cons, List.map_append, spells]
    simp

/-- Two siblings that open the same block can stand for one, whose block comes to theirs when these are joined. -/
theorem interchangeable_opened {a b c : Selector} (own : a.bare = (opened name (Block.finish xs)).bare)
    (own' : b.bare = (opened name (Block.finish ys)).bare) (joined : c.bare = (opened name (Block.finish zs)).bare)
    (same : Block.SameBlock (Block.finish xs ++ Block.finish ys) zs) : Block.Interchangeable [a, b] [c] := by
  intro formed _ front back before _
  obtain ⟨formedA, formedB⟩ := List.forall_mem_cons.mp formed
  have joins : Block.mergeable a b = true := by
    rw [← Block.mergeable_bare, own, own', Block.mergeable_bare, Block.mergeable_iff]
    exact ⟨BEq.rfl, rfl, ⟨rfl, rfl⟩, ⟨rfl, rfl⟩, rfl, rfl⟩
  have together : (Block.combine Block.finish a b).bare = c.bare := by
    rw [Block.combine_bare Block.finish_bare, own, own', ← Block.combine_bare Block.finish_bare, joined]
    rw [Block.SameBlock] at same
    simp only [Block.combine, bare_eq, opened, same]
    rfl
  rw [Block.SameBlock, List.append_assoc, List.cons_append, List.singleton_append,
    Block.finish_siblings before formedA (formedB b List.mem_cons_self) joins, Block.finish_bare, Block.finish_bare]
  simp only [List.map_append, List.map_cons, List.map_nil, List.append_assoc, together]
  rfl

/-- What stands behind the first brace of two blocks of one name, and behind the one brace of both together. -/
structure Joins (name : String) (first second both : List Token) (opener : String) (front front' : Tokens) : Prop where
  opener : opener = name
  apart : front.map (·.token) =
    first ++ .rightBrace :: .comma :: .identifier name :: .leftBrace :: (second ++ [.rightBrace])
  together : front'.map (·.token) = both ++ [.rightBrace]

section Joining
variable (lists : Lists first xs) (lists' : Lists second ys) {opener : String} {front' : Tokens}
  (joins : Joins name first second both opener front front') (position opening : Position)
  (ends : tokens.head.endsSelector = true)

include joins ends

include lists lists' in
theorem Joins.listed_apart (enough : (front ++ tokens).length ≤ levels) :
    ∃ a b, Listed (selectors levels)
        (⟨.identifier opener, position⟩ :: ⟨.leftBrace, opening⟩ :: (front ++ tokens)) [a, b] tokens ∧
      a.bare = (opened name (Block.finish xs)).bare ∧ b.bare = (opened name (Block.finish ys)).bare := by
  obtain ⟨rfl, apart, _⟩ := joins
  obtain ⟨part, _, rfl, spells, closed⟩ := List.map_eq_append_iff.mp apart
  obtain ⟨closing, _, rfl, separated⟩ := of_tokens_cons closed
  obtain ⟨comma, _, rfl, named⟩ := of_tokens_cons separated
  obtain ⟨position', _, rfl, unopened⟩ := of_tokens_cons named
  obtain ⟨opening', _, rfl, filled⟩ := of_tokens_cons unopened
  obtain ⟨part', closing', rfl, spells'⟩ := of_tokens_concat filled
  simp only [List.append_assoc, List.cons_append, List.nil_append, List.length_append, List.length_cons] at enough ⊢
  have enough' : (part' ++ ⟨.rightBrace, closing'⟩ :: tokens).length ≤ levels := by
    simp only [List.length_append, List.length_cons]
    omega
  obtain ⟨b, reads', same'⟩ := lists'.block spells' opener position' opening' closing' ends enough'
  generalize onward : (⟨.identifier opener, position'⟩ :: ⟨.leftBrace, opening'⟩ ::
    (part' ++ ⟨.rightBrace, closing'⟩ :: tokens) : Tokens) = behind at reads' ⊢
  have separates : (Tokens.head (⟨.comma, comma⟩ :: behind)).endsSelector = true := rfl
  have enough'' : (part ++ ⟨.rightBrace, closing⟩ :: ⟨.comma, comma⟩ :: behind).length ≤ levels := by
    simp only [← onward, List.length_append, List.length_cons]
    omega
  obtain ⟨a, reads, same⟩ := lists.block spells opener position opening closing separates enough''
  exact ⟨a, b, .comma reads (.one reads'), same, same'⟩

theorem Joins.listed_together (lists : Lists both zs) (enough : (front' ++ tokens).length ≤ levels) :
    ∃ c, Listed (selectors levels)
        (⟨.identifier opener, position⟩ :: ⟨.leftBrace, opening⟩ :: (front' ++ tokens)) [c] tokens ∧
      c.bare = (opened name (Block.finish zs)).bare := by
  obtain ⟨rfl, _, together⟩ := joins
  obtain ⟨part, closing, rfl, spells⟩ := of_tokens_concat together
  rw [List.append_assoc, List.cons_append, List.nil_append] at enough ⊢
  obtain ⟨c, reads, same⟩ := lists.block spells opener position opening closing ends enough
  exact ⟨c, .one reads, same⟩

end Joining

section Swaps
variable (lists : Lists first xs) (lists' : Lists second ys) (lists'' : Lists both zs)
  (same : Block.SameBlock (Block.finish xs ++ Block.finish ys) zs)

include lists lists' lists'' same

/-- Two blocks of one name can be swapped for one block. -/
theorem swappable_joins (name : String) : Swappable (Joins name first second both) := by
  intro opener front front' joins position place opening opening' levels bound tokens others enough enough' ends ends'
  obtain ⟨a, b, listed, own, own'⟩ := joins.listed_apart lists lists' position opening ends enough
  obtain ⟨c, listed', together⟩ := joins.listed_together place opening' ends' lists'' enough'
  refine ⟨[a, b], [c], listed, listed', interchangeable_opened own own' together same, ?_⟩
  have count := congrArg List.length joins.together
  rw [List.length_map, List.length_append, List.length_singleton] at count
  rw [List.length_singleton]
  omega

/-- One block can be swapped for two blocks of one name. -/
theorem swappable_joins_symm (name : String) :
    Swappable fun opener front front' => Joins name first second both opener front' front := by
  intro opener front front' joins position place opening opening' levels bound tokens others enough enough' ends ends'
  obtain ⟨c, listed, together⟩ := joins.listed_together position opening ends lists'' enough
  obtain ⟨a, b, listed', own, own'⟩ := joins.listed_apart lists lists' place opening' ends' enough'
  refine ⟨[c], [a, b], listed, listed', (interchangeable_opened own own' together same).symm, ?_⟩
  have count := congrArg List.length joins.apart
  simp only [List.length_map, List.length_append, List.length_cons] at count
  simp only [List.length_cons, List.length_nil]
  omega

end Swaps

end Parser

/-! ### Lists of selectors as text -/

/-- A text that lists selectors is a run of tokens that do. -/
theorem lists_of_selectorsOf {text : String} {selected : List Selector} (listed : selectorsOf text = .ok selected) :
    ∃ read, Reads text.toList read [] ∧ Parser.Lists read selected := by
  rw [selectorsOf] at listed
  obtain ⟨tokens, tokenized, listed⟩ := exists_of_bind_eq_ok listed
  obtain ⟨⟨selectors, rest⟩, reading, listed⟩ := exists_of_bind_eq_ok listed
  obtain ⟨⟨_, _⟩, ending, listed⟩ := exists_of_bind_eq_ok listed
  cases listed
  cases scanned : tokenize text with
  | error error =>
    rw [scanned] at tokenized
    cases tokenized
  | ok spanned =>
    rw [scanned] at tokenized
    cases tokenized
    obtain ⟨read, reads, same⟩ := tokenize_ok scanned
    have closes : Tokens.Closes [⟨.finish, .start⟩] := ⟨.finish, .start, [], rfl, rfl⟩
    have own : Tokens.Akin Parser.noSwap [⟨.finish, .start⟩] true tokens (tokens.dropLast ++ [⟨.finish, .start⟩]) := by
      refine .of_tokens reads.ne_finish same ?_
      rw [List.map_dropLast, same, List.dropLast_concat]
    obtain ⟨_, _, _, _, akin, _⟩ :=
      Parser.carried_selectors closes Parser.swappable_noSwap nofun own (Nat.le_refl _) (Nat.le_refl _) _ _ reading
    obtain ⟨position, rfl⟩ := Parser.finish_of_expect akin ending
    exact ⟨read, reads, Parser.lists_of_selectors reads.ne_finish same reading⟩

theorem selectorsOf_of_lists {text : String} {read : List Token} {selected : List Selector}
    (reads : Reads text.toList read []) (lists : Parser.Lists read selected) :
    ∃ selected', selectorsOf text = .ok selected' := by
  obtain ⟨spanned, tokenized, same⟩ := reads.tokenize
  obtain ⟨front, place, rfl, spells⟩ := Parser.of_tokens_concat same
  have closes : Tokens.Closes [⟨.finish, place⟩] := ⟨.finish, place, [], rfl, rfl⟩
  obtain ⟨selected', reading, _⟩ := lists.selectors spells closes nofun (Nat.le_refl _)
  refine ⟨selected', ?_⟩
  rw [selectorsOf, tokenized]
  simp only [Except.mapError, bind, Except.bind, reading]
  rfl

/-- A name with a block behind it. -/
def blockText (name inside : String) : String := name ++ "\x7b" ++ inside ++ "\x7d"

/-- The list goes on with `*` when it only drops fields, as the block does that has no other selectors. -/
def completedText (text : String) (selected : List Selector) : String :=
  if selected.all (·.negated) then text ++ ",*" else text

/-- A list of selectors can start behind the text: nothing is written in it, or a sign that opens a list comes last.
White space may follow. -/
inductive OpensList : String → Prop where
  | nothing {blanks : String} (blank : ∀ c ∈ blanks.toList, isBlank c = true) : OpensList blanks
  | sign {front blanks : String} {read : List Token} (reads : Reads front.toList read []) {c : Char} {token : Token}
      (sign : sign? c = some token) (opens : token.opensList = true) (blank : ∀ c ∈ blanks.toList, isBlank c = true) :
      OpensList (front ++ String.singleton c ++ blanks)

/-- A list of selectors can end in front of the text: nothing is written in it, or a sign that ends selectors comes
first. -/
def ClosesList (text : String) : Prop :=
  ∃ read, Reads text.toList read [] ∧ ∀ token ∈ read.head?, token.endsSelector = true

section Texts
variable {name before after X Y : String} {back : List Char} {read : List Token}

theorem Reads.blanks {blanks : List Char} (blank : ∀ c ∈ blanks, isBlank c = true) (back : List Char) :
    Reads (blanks ++ back) [] back := by
  induction blanks with
  | nil => exact .done back
  | cons c blanks ih =>
    obtain ⟨own, others⟩ := List.forall_mem_cons.mp blank
    exact .blank own (ih others)

theorem Reads.sign {c : Char} {token : Token} (sign : sign? c = some token) {text : List Char}
    (dark : isBlank c = false) (reads : Reads text read back) : Reads (c :: text) (token :: read) back := by
  have one : readToken (c :: text) = .ok token 1 := by
    rw [readToken, sign]
  exact .token dark one reads

/-- What opens a list is read up to where the list starts. -/
theorem OpensList.reads (opens : OpensList before) :
    ∃ read, (∀ back, Reads (before.toList ++ back) read back) ∧
      read.foldl (fun _ token => token.opensList) true = true := by
  cases opens with
  | nothing blank => exact ⟨[], Reads.blanks blank, rfl⟩
  | @sign front blanks read reads c token sign opens blank =>
    have dark : isBlank c = false ∧ endsToken c = true := by
      unfold sign? at sign
      split at sign <;> cases sign <;> first | exact ⟨by decide, by decide⟩ | cases opens
    refine ⟨read ++ [token], fun back => ?_, ?_⟩
    · have stop : ∀ d ∈ (c :: (blanks.toList ++ back)).head?, endsToken d = true := by
        rintro _ ⟨⟩
        exact dark.2
      have whole := (reads.before stop).append (.sign sign dark.1 (Reads.blanks blank back))
      simpa using whole
    · rw [List.foldl_append]
      exact opens

theorem Reads.blockText (plain : IsIdentifier name) (reads : Reads X.toList read []) {others : List Token}
    {rest : List Char} (more : Reads back others rest) :
    Reads ((FieldSelect.blockText name X).toList ++ back)
      (.identifier name :: .leftBrace :: (read ++ .rightBrace :: others)) rest := by
  have opening : ∀ c ∈ ('\x7b' :: (X.toList ++ '\x7d' :: back)).head?, isNameChar c = false := by
    rintro _ ⟨⟩
    decide
  have closing : ∀ c ∈ ('\x7d' :: back).head?, endsToken c = true := by
    rintro _ ⟨⟩
    decide
  have behind : Reads ('\x7d' :: back) (.rightBrace :: others) rest := .sign rfl (by decide) more
  have block : Reads ('\x7b' :: (X.toList ++ '\x7d' :: back)) (.leftBrace :: (read ++ .rightBrace :: others)) rest :=
    .sign rfl (by decide) ((reads.before closing).append behind)
  have whole := (Reads.identifier plain opening).append block
  simpa [FieldSelect.blockText] using whole

theorem Reads.comma (reads : Reads X.toList read []) {others : List Token} (reads' : Reads Y.toList others []) :
    Reads (X ++ "," ++ Y).toList (read ++ .comma :: others) [] := by
  have stop : ∀ c ∈ (',' :: Y.toList).head?, endsToken c = true := by
    rintro _ ⟨⟩
    decide
  have whole := (reads.before stop).append (.sign rfl (by decide) reads')
  simpa using whole

theorem selectorsOf_blockText (plain : IsIdentifier name) {xs : List Selector} (list : selectorsOf X = .ok xs) :
    ∃ holder, selectorsOf (blockText name X) = .ok holder := by
  obtain ⟨read, reads, lists⟩ := lists_of_selectorsOf list
  obtain ⟨holder, enclosed⟩ := lists.enclosed name
  have whole := Reads.blockText plain reads (.done [])
  rw [List.append_nil] at whole
  exact selectorsOf_of_lists whole enclosed

theorem selectorsOf_comma {xs ys : List Selector} (list : selectorsOf X = .ok xs) (list' : selectorsOf Y = .ok ys) :
    ∃ zs, selectorsOf (X ++ "," ++ Y) = .ok zs := by
  obtain ⟨read, reads, lists⟩ := lists_of_selectorsOf list
  obtain ⟨read', reads', lists'⟩ := lists_of_selectorsOf list'
  obtain ⟨zs, together, _⟩ := lists.append lists'
  exact selectorsOf_of_lists (reads.comma reads') together

/-- A list of selectors is a filter of one stage. -/
theorem compile_of_selectorsOf {xs : List Selector} (list : selectorsOf X = .ok xs) : ∃ tree, compile X = .ok tree := by
  obtain ⟨read, reads, lists⟩ := lists_of_selectorsOf list
  obtain ⟨spanned, tokenized, same⟩ := reads.tokenize
  obtain ⟨front, place, rfl, spells⟩ := Parser.of_tokens_concat same
  have closes : Tokens.Closes [⟨.finish, place⟩] := ⟨.finish, place, [], rfl, rfl⟩
  obtain ⟨selected, reading, _⟩ := lists.selectors spells closes (by rintro ⟨⟩) (Nat.le_refl _)
  have stage : Parser.stage (front ++ [⟨.finish, place⟩]) = .ok (Block.finish selected, [⟨.finish, place⟩]) := by
    have starts := lists.head spells [⟨.finish, place⟩]
    rw [Parser.stage]
    split
    · rename_i barred
      rw [barred] at starts
      cases starts
    · rename_i ended
      rw [ended] at starts
      cases starts
    · rw [reading]
      rfl
  have staged : Parser.Staged (front ++ [⟨.finish, place⟩]) [Block.finish selected] [⟨.finish, place⟩] :=
    .last stage (by rintro _ _ ⟨⟩)
  obtain ⟨tree, compiled, _⟩ := compile_of_staged tokenized staged (Nat.le_add_left _ _)
  exact ⟨tree, compiled⟩

/-- Completing the text completes the list. -/
theorem lists_completedText {xs : List Selector} (reads : Reads X.toList read []) (lists : Parser.Lists read xs) :
    ∃ read' xs', Reads (completedText X xs).toList read' [] ∧ Parser.Lists read' xs' ∧
      Block.Interchangeable (Block.completed xs) xs' := by
  rw [completedText, Block.completed]
  split
  · have single : selectorsOf "*" = .ok [Block.star] := rfl
    obtain ⟨more, readsStar, listsStar⟩ := lists_of_selectorsOf single
    obtain ⟨xs', together, alike⟩ := lists.append listsStar
    refine ⟨_, xs', ?_, together, alike⟩
    have whole := reads.comma readsStar
    simpa using whole
  · exact ⟨read, xs, reads, lists, .of_bare rfl⟩

section Swapping
variable {swap : String → Tokens → Tokens → Prop} {outer inner inner' tail : List Token}
  (swaps : ∀ part part' : Tokens, part.map (·.token) = inner → part'.map (·.token) = inner' → swap name part part')
  (start : outer.foldl (fun _ token => token.opensList) true = true)
  (ends : ∀ token ∈ tail.head?, token.endsSelector = true)

include swaps start ends

/-- What stands behind the opening brace of a block can be swapped wherever the block stands. -/
theorem Tokens.Akin.around (proper : ∀ token ∈ outer ++ tail, token ≠ .finish) {front front' : Tokens}
    (spells : front.map (·.token) = outer ++ .identifier name :: .leftBrace :: (inner ++ tail))
    (spells' : front'.map (·.token) = outer ++ .identifier name :: .leftBrace :: (inner' ++ tail))
    (position place : Position) :
    Akin swap [⟨.finish, place⟩] true (front ++ [⟨.finish, position⟩]) (front' ++ [⟨.finish, place⟩]) := by
  obtain ⟨properOuter, properTail⟩ := List.forall_mem_append.mp proper
  obtain ⟨own, _, rfl, spellsOuter, named⟩ := List.map_eq_append_iff.mp spells
  obtain ⟨position', _, rfl, opened⟩ := Parser.of_tokens_cons named
  obtain ⟨opening, _, rfl, filled⟩ := Parser.of_tokens_cons opened
  obtain ⟨part, last, rfl, spellsPart, spellsTail⟩ := List.map_eq_append_iff.mp filled
  obtain ⟨own', _, rfl, spellsOuter', named'⟩ := List.map_eq_append_iff.mp spells'
  obtain ⟨place', _, rfl, opened'⟩ := Parser.of_tokens_cons named'
  obtain ⟨opening', _, rfl, filled'⟩ := Parser.of_tokens_cons opened'
  obtain ⟨part', last', rfl, spellsPart', spellsTail'⟩ := List.map_eq_append_iff.mp filled'
  have ended : (Tokens.head (last ++ [⟨.finish, position⟩])).endsSelector = true := by
    rcases last with _ | ⟨spanned, last⟩
    · rfl
    · rw [← spellsTail] at ends
      exact ends spanned.token rfl
  have behind : Akin swap [⟨.finish, place⟩] false (last ++ [⟨.finish, position⟩]) (last' ++ [⟨.finish, place⟩]) := by
    refine .of_tokens properTail ?_ spellsTail'
    rw [List.map_append, spellsTail]
    rfl
  have swapped : Akin swap [⟨.finish, place⟩] true
      (⟨.identifier name, position'⟩ :: ⟨.leftBrace, opening⟩ :: (part ++ (last ++ [⟨.finish, position⟩])))
      (⟨.identifier name, place'⟩ :: ⟨.leftBrace, opening'⟩ :: (part' ++ (last' ++ [⟨.finish, place⟩]))) :=
    .swapped (swaps part part' spellsPart spellsPart') position' place' opening opening' ended behind
  rw [← start] at swapped
  have whole := Akin.behind properOuter spellsOuter spellsOuter' swapped
  simpa using whole

/-- Swapping what stands behind the opening brace of a block makes another filter like it. -/
theorem compile_block_swapped (swappable : Parser.Swappable swap) {text other : String}
    (reads : Reads text.toList (outer ++ .identifier name :: .leftBrace :: (inner ++ tail)) [])
    (reads' : Reads other.toList (outer ++ .identifier name :: .leftBrace :: (inner' ++ tail)) [])
    {tree : Tree} (compiled : compile text = .ok tree) : ∃ tree', compile other = .ok tree' ∧ tree.Alike tree' := by
  have proper : ∀ token ∈ outer ++ tail, token ≠ .finish := by
    intro token member
    refine reads.ne_finish token ?_
    rcases List.mem_append.mp member with own | last
    · exact List.mem_append_left _ own
    · simp [last]
  refine compile_swapped swappable reads reads' (fun front front' position place spells spells' => ?_) compiled
  exact Tokens.Akin.around swaps start ends proper spells spells' position place

end Swapping

/-- Two blocks of one name compile like one block of both lists, once these are completed, and the other way round. -/
theorem compile_siblings {xs ys : List Selector} (plain : IsIdentifier name) (list : selectorsOf X = .ok xs)
    (list' : selectorsOf Y = .ok ys) (opens : OpensList before) (closes : ClosesList after) :
    let apart := before ++ (blockText name X ++ "," ++ blockText name Y) ++ after
    let together := before ++ blockText name (completedText X xs ++ "," ++ completedText Y ys) ++ after
    (∀ tree, compile apart = .ok tree → ∃ tree', compile together = .ok tree' ∧ tree.Alike tree') ∧
      ∀ tree, compile together = .ok tree → ∃ tree', compile apart = .ok tree' ∧ tree.Alike tree' := by
  intro apart together
  obtain ⟨readX, readsX, listsX⟩ := lists_of_selectorsOf list
  obtain ⟨readY, readsY, listsY⟩ := lists_of_selectorsOf list'
  obtain ⟨readX', xs', readsX', listsX', alikeX⟩ := lists_completedText readsX listsX
  obtain ⟨readY', ys', readsY', listsY', alikeY⟩ := lists_completedText readsY listsY
  obtain ⟨zs, listsZ, alikeZ⟩ := listsX'.append listsY'
  obtain ⟨outer, readsBefore, start⟩ := opens.reads
  obtain ⟨tail, readsAfter, ends⟩ := closes
  have formed : ∀ selector ∈ Block.completed xs ++ Block.completed ys, selector.WellFormed :=
    List.forall_mem_append.mpr
      ⟨Block.completed_wellFormed listsX.wellFormed, Block.completed_wellFormed listsY.wellFormed⟩
  have formed' : ∀ selector ∈ xs' ++ ys', selector.WellFormed :=
    List.forall_mem_append.mpr ⟨listsX'.wellFormed, listsY'.wellFormed⟩
  have completed : Block.SameBlock (Block.completed xs ++ Block.completed ys) zs := by
    have parts := (alikeX.append alikeY).sameBlock formed formed'
    exact parts.trans (alikeZ.sameBlock formed' listsZ.wellFormed)
  have same : Block.SameBlock (Block.finish xs ++ Block.finish ys) zs :=
    (Block.sameBlock_finish_append listsX.ne_nil listsY.ne_nil formed).trans completed
  have readsApart : Reads apart.toList (outer ++ .identifier name :: .leftBrace :: ((readX ++ .rightBrace :: .comma ::
      .identifier name :: .leftBrace :: (readY ++ [.rightBrace])) ++ tail)) [] := by
    have second := Reads.blockText plain readsY readsAfter
    have comma : Reads (',' :: ((blockText name Y).toList ++ after.toList)) _ [] := .sign rfl (by decide) second
    have whole := (readsBefore _).append (Reads.blockText plain readsX comma)
    simpa [apart] using whole
  have readsTogether : Reads together.toList (outer ++ .identifier name :: .leftBrace ::
      ((readX' ++ .comma :: readY' ++ [.rightBrace]) ++ tail)) [] := by
    have whole := (readsBefore _).append (Reads.blockText plain (readsX'.comma readsY') readsAfter)
    simpa [together] using whole
  constructor
  · intro tree compiled
    exact compile_block_swapped (fun part part' spells spells' => ⟨rfl, spells, spells'⟩) start ends
      (Parser.swappable_joins listsX listsY listsZ same name) readsApart readsTogether compiled
  · intro tree compiled
    exact compile_block_swapped (fun part part' spells spells' => ⟨rfl, spells', spells⟩) start ends
      (Parser.swappable_joins_symm listsX listsY listsZ same name) readsTogether readsApart compiled

end Texts

end FieldSelect
