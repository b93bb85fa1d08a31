import FieldSelect.Proofs.Filter.Deriving

/-! Every phrase of the grammar is read wherever it can stand, and so a text is a filter just when its words are one. -/
namespace FieldSelect
namespace Grammar

/-! ### What may follow -/

/-- No path, call or block goes on here. -/
def endsSelector : List Token → Bool
  | token :: _ => token.endsSelector
  | [] => false

/-- No call or block goes on here, but a path may. -/
def endsSegment : List Token → Bool
  | .dot :: rest => !opensCall rest
  | words => endsSelector words

/-- No call goes on here, but a block or a path may. -/
def endsCalls : List Token → Bool
  | .leftBrace :: _ => true
  | words => endsSegment words

theorem endsSegment_of_endsSelector {after : List Token} (ends : endsSelector after = true) :
    endsSegment after = true := by
  unfold endsSegment
  split
  · cases ends
  · exact ends

theorem endsCalls_of_endsSegment {after : List Token} (ends : endsSegment after = true) : endsCalls after = true := by
  unfold endsCalls
  split
  · rfl
  · exact ends

/-- What ends a segment is no part of an opening. -/
theorem opensBound_of_append {words after : List Token} (ends : endsSegment after = true)
    (opens : opensBound (words ++ after) = true) : opensBound words = true := by
  unfold opensBound at opens
  split at opens
  · rename_i whole
    rcases List.append_eq_cons_iff.mp whole with ⟨rfl, rfl⟩ | ⟨behind, rfl, number⟩
    · cases ends
    · rcases List.append_eq_cons_iff.mp number.symm with ⟨rfl, rfl⟩ | ⟨_, rfl, _⟩
      · cases ends
      · rfl
  · cases opens

theorem opensCall_of_append {words after : List Token} (ends : endsSelector after = true)
    (opens : opensCall (words ++ after) = true) : opensCall words = true := by
  unfold opensCall at opens
  split at opens
  · rename_i whole
    rcases List.append_eq_cons_iff.mp whole with ⟨rfl, rfl⟩ | ⟨behind, rfl, opening⟩
    · cases ends
    · rcases List.append_eq_cons_iff.mp opening.symm with ⟨rfl, rfl⟩ | ⟨_, rfl, _⟩
      · cases ends
      · rfl
  · cases opens

/-! ### What phrases start with -/

theorem Call.length_pos {words : List Token} (call : Call words) : 0 < words.length := by
  cases call <;> exact Nat.succ_pos _

theorem Call.opensCall {words : List Token} (call : Call words) : opensCall words = true := by
  cases call <;> rfl

/-- Segments and paths start with a name, selectors with a name or a hyphen. -/
def Phrase.Starts : Phrase → Token → Prop
  | .block _, _ => True
  | .segment _, token | .path, token => isPattern token = true
  | .selector, token | .selectors, token => isPattern token = true ∨ token = .minus

theorem Derives.head {phrase : Phrase} {words : List Token} (derives : Derives phrase words)
    (proper : ∀ present, phrase ≠ .block present) : ∃ token behind, words = token :: behind ∧ phrase.Starts token := by
  induction derives with
  | unblocked | emptied | filled => exact absurd rfl (proper _)
  | segment names => exact ⟨_, _, rfl, names⟩
  | last _ ih => exact ih nofun
  | dot _ _ _ ih =>
    obtain ⟨token, behind, rfl, starts⟩ := ih nofun
    exact ⟨token, _, rfl, starts⟩
  | kept _ ih =>
    obtain ⟨token, behind, rfl, starts⟩ := ih nofun
    exact ⟨token, behind, rfl, .inl starts⟩
  | dropped => exact ⟨_, _, rfl, .inr rfl⟩
  | one _ ih => exact ih nofun
  | comma _ _ ih =>
    obtain ⟨token, behind, rfl, starts⟩ := ih nofun
    exact ⟨token, _, rfl, starts⟩

/-- What starts a selector does not end one. -/
theorem Phrase.Starts.endsSelector {token : Token} (starts : Phrase.selectors.Starts token) :
    token.endsSelector = false := by
  rcases starts with names | rfl
  · cases token <;> first | rfl | cases names
  · rfl

end Grammar

/-- A pattern can be compiled. -/
def Token.Compiles : Token → Prop
  | .glob pattern => ∃ name, Name.glob? pattern = .ok name
  | .regex pattern ignoresCase => ∃ name, Name.regex? pattern ignoresCase = .ok name
  | _ => True

structure Token.Proper (token : Token) : Prop where
  inner : token.Inner
  compiles : token.Compiles

theorem Tokens.length_of_words {tokens : Tokens} {words : List Token} (spells : tokens.words = words) :
    tokens.length = words.length :=
  (List.length_map _).symm.trans (congrArg List.length spells)

theorem Tokens.length_le_of_words {tokens : Tokens} {words after : List Token}
    (spells : tokens.words = words ++ after) : words.length ≤ tokens.length := by
  rw [length_of_words spells, List.length_append]
  exact Nat.le_add_right _ _

namespace Parser
open Tokens Grammar
variable {α : Type} {words after : List Token} {tokens rest : Tokens} {position : Position} {steps : Nat}

/-- The words are read up to what is after, and what is read has the property. -/
def Accepts (parser : Parser α) (words after : List Token) (P : α → Prop) : Prop :=
  ∀ tokens : Tokens, tokens.words = words →
    ∃ x rest, parser tokens = .ok (x, rest) ∧ rest.words = after ∧ P x

/-! ### Calls -/

theorem accepts_call (derived : Grammar.Call words) (after : List Token) :
    Accepts call (words ++ after) after fun _ => True := by
  intro tokens spells
  obtain ⟨_, _, written⟩ := derived.exists_written
  obtain ⟨front, rest, rfl, rfl, left⟩ := of_words_append spells
  exact ⟨_, rest, call_of_written written, left, trivial⟩

/-- Calls inside brackets are read with the bracket behind them. -/
theorem accepts_bracketCalls (derived : Chain words) (after : List Token) (enough : words.length ≤ steps) :
    Accepts (bracketCalls steps) (words ++ .rightBracket :: after) after fun _ => True := by
  induction derived generalizing steps with
  | @last first called =>
    obtain ⟨steps, rfl⟩ := Nat.exists_eq_succ_of_ne_zero (Nat.ne_of_gt (Nat.lt_of_lt_of_le called.length_pos enough))
    intro tokens spells
    obtain ⟨value, _, read, closing, _⟩ := accepts_call called _ tokens spells
    obtain ⟨_, rest, rfl, left⟩ := of_words_cons closing
    refine ⟨[value], rest, ?_, left, trivial⟩
    rw [bracketCalls, read]
    rfl
  | @dot first more called _ ih | @comma first more called _ ih =>
    rw [List.length_append, List.length_cons] at enough
    obtain ⟨steps, rfl⟩ := Nat.exists_eq_succ_of_ne_zero (by omega : steps ≠ 0)
    intro tokens spells
    simp only [List.append_assoc, List.cons_append] at spells
    obtain ⟨value, _, read, separated, _⟩ := accepts_call called _ tokens spells
    obtain ⟨_, behind, rfl, others⟩ := of_words_cons separated
    have enough : more.length ≤ steps := by omega
    obtain ⟨values, rest, read', left, _⟩ := ih enough behind others
    refine ⟨value :: values, rest, ?_, left, trivial⟩
    rw [bracketCalls, read]
    change (bracketCalls _ _ >>= _) = _
    rw [read']
    rfl

theorem calls_none (ends : endsCalls tokens.words = true) (steps : Nat) (holder : Selector) :
    calls steps holder tokens = .ok (holder, tokens) := by
  cases steps with
  | zero => rfl
  | succ steps =>
    rw [calls.eq_def]
    dsimp only
    split
    · cases ends
    · rename_i behind
      have uncalled : isCall behind = false := by
        rw [isCall_eq]
        exact (Bool.not_eq_true' _).mp ends
      rw [uncalled]
      rfl
    · cases ends
    · rfl

theorem calls_key {holder : Selector} {value : FieldSelect.Call} {behind : Tokens}
    (read : call behind = .ok (value, rest)) : calls (steps + 1) holder (⟨.colon, position⟩ :: behind) =
      calls steps { holder with keyCalls := holder.keyCalls ++ [value] } rest := by
  change (call behind >>= _) = _
  rw [read]
  rfl

theorem calls_value {holder : Selector} {value : FieldSelect.Call} {behind : Tokens}
    (opens : opensCall behind.words = true) (read : call behind = .ok (value, rest)) :
    calls (steps + 1) holder (⟨.dot, position⟩ :: behind) =
      calls steps { holder with valueCalls := holder.valueCalls ++ [value] } rest := by
  rw [← isCall_eq] at opens
  change (if isCall behind = true then call behind >>= _ else _) = _
  rw [if_pos opens, read]
  rfl

theorem accepts_calls (derived : Grammar.Calls words) {after : List Token} (ends : endsCalls after = true)
    (enough : words.length ≤ steps) (holder : Selector) :
    Accepts (calls steps holder) (words ++ after) after fun _ => True := by
  induction derived generalizing steps holder with
  | none =>
    intro tokens spells
    obtain rfl : tokens.words = after := spells
    exact ⟨holder, tokens, calls_none ends steps holder, rfl, trivial⟩
  | @key first more called _ ih =>
    rw [List.length_cons, List.length_append] at enough
    obtain ⟨steps, rfl⟩ := Nat.exists_eq_succ_of_ne_zero (by omega : steps ≠ 0)
    intro tokens spells
    simp only [List.append_assoc, List.cons_append] at spells
    obtain ⟨_, behind, rfl, front⟩ := of_words_cons spells
    obtain ⟨value, _, read, others, _⟩ := accepts_call called _ behind front
    have enough : more.length ≤ steps := by omega
    obtain ⟨selector, rest, read', left, _⟩ := ih enough _ _ others
    exact ⟨selector, rest, (calls_key read).trans read', left, trivial⟩
  | @value first more called _ ih =>
    rw [List.length_cons, List.length_append] at enough
    obtain ⟨steps, rfl⟩ := Nat.exists_eq_succ_of_ne_zero (by omega : steps ≠ 0)
    intro tokens spells
    simp only [List.append_assoc, List.cons_append] at spells
    obtain ⟨_, behind, rfl, front⟩ := of_words_cons spells
    have opens : opensCall behind.words = true := by
      rw [front]
      exact opensCall_append called.opensCall _
    obtain ⟨value, _, read, others, _⟩ := accepts_call called _ behind front
    have enough : more.length ≤ steps := by omega
    obtain ⟨selector, rest, read', left, _⟩ := ih enough _ _ others
    exact ⟨selector, rest, (calls_value opens read).trans read', left, trivial⟩
  | @chained chain more chained _ ih =>
    rw [List.length_cons, List.length_append, List.length_cons] at enough
    obtain ⟨steps, rfl⟩ := Nat.exists_eq_succ_of_ne_zero (by omega : steps ≠ 0)
    intro tokens spells
    simp only [List.append_assoc, List.cons_append] at spells
    obtain ⟨_, behind, rfl, front⟩ := of_words_cons spells
    have within : chain.length ≤ behind.length := length_le_of_words front
    obtain ⟨added, _, read, others, _⟩ := accepts_bracketCalls chained _ within behind front
    have enough : more.length ≤ steps := by omega
    obtain ⟨selector, rest, read', left, _⟩ :=
      ih enough { holder with valueCalls := holder.valueCalls ++ added } _ others
    refine ⟨selector, rest, ?_, left, trivial⟩
    change (bracketCalls behind.length behind >>= _) = _
    rw [read]
    exact read'

/-! ### Segments -/

theorem accepts_name {token : Token} (names : isPattern token = true) (proper : token.Proper) (after : List Token) :
    Accepts name (token :: after) after fun name => name = .anyDeep ↔ token = .doubleStar := by
  intro tokens spells
  obtain ⟨position, rest, rfl, left⟩ := of_words_cons spells
  have reads : ∃ name, Parser.name (⟨token, position⟩ :: rest) = .ok (name, rest) := by
    cases token with
    | glob pattern | regex pattern =>
      obtain ⟨name, compiled⟩ := proper.compiles
      refine ⟨name, ?_⟩
      rw [Parser.name, compiled]
    | _ => first | exact ⟨_, rfl⟩ | cases names
  obtain ⟨name, read⟩ := reads
  obtain ⟨_, same, _, deep⟩ := words_of_name read
  cases List.cons.inj same |>.1
  exact ⟨name, rest, read, left, deep⟩

theorem bounded_deep {holder : Selector} (deep : holder.name = .anyDeep) {opening place : Position} {n : Int64} :
    bounded holder (⟨.leftBrace, opening⟩ :: ⟨.integer n, place⟩ :: rest) =
      depthBounds (⟨.integer n, place⟩ :: rest) >>= fun read =>
        return ({ holder with minDepth := some read.1.1, maxDepth := read.1.2 }, read.2) := by
  rw [bounded]
  exact deep

theorem depthBounds_limited {low high : Int64} (rises : low.toInt.toNat < high.toInt.toNat) {p q r t : Position} :
    depthBounds (⟨.integer low, p⟩ :: ⟨.comma, q⟩ :: ⟨.integer high, r⟩ :: ⟨.rightBrace, t⟩ :: rest) =
      .ok ((low.toInt.toNat, some high.toInt.toNat), rest) := by
  change (if high.toInt.toNat ≤ low.toInt.toNat then _ else _) = _
  rw [if_neg (Nat.not_le_of_lt rises)]
  rfl

/-- The bounds of a selector that may have some. -/
theorem accepts_bounded {bound : List Token} (bounds : Bound bound) (proper : ∀ token ∈ bound, token.Proper)
    {holder : Selector} (deep : holder.name = .anyDeep) (after : List Token) :
    Accepts (bounded holder) (bound ++ after) after fun _ => True := by
  intro tokens spells
  cases bounds with
  | least low =>
    obtain ⟨_, _, rfl, numbers⟩ := of_words_cons spells
    obtain ⟨_, _, rfl, closing⟩ := of_words_cons numbers
    obtain ⟨_, rest, rfl, left⟩ := of_words_cons closing
    refine ⟨{ holder with minDepth := some low.toInt.toNat, maxDepth := none }, rest, ?_, left, trivial⟩
    rw [bounded_deep deep]
    rfl
  | unlimited low =>
    obtain ⟨_, _, rfl, numbers⟩ := of_words_cons spells
    obtain ⟨_, _, rfl, separated⟩ := of_words_cons numbers
    obtain ⟨_, _, rfl, closing⟩ := of_words_cons separated
    obtain ⟨_, rest, rfl, left⟩ := of_words_cons closing
    refine ⟨{ holder with minDepth := some low.toInt.toNat, maxDepth := none }, rest, ?_, left, trivial⟩
    rw [bounded_deep deep]
    rfl
  | @limited low high rises =>
    obtain ⟨_, _, rfl, numbers⟩ := of_words_cons spells
    obtain ⟨_, _, rfl, separated⟩ := of_words_cons numbers
    obtain ⟨_, _, rfl, number⟩ := of_words_cons separated
    obtain ⟨_, _, rfl, closing⟩ := of_words_cons number
    obtain ⟨_, rest, rfl, left⟩ := of_words_cons closing
    refine ⟨{ holder with minDepth := some low.toInt.toNat, maxDepth := some high.toInt.toNat }, rest, ?_, left,
      trivial⟩
    have positive : 0 ≤ low.toInt := (proper (.integer low) (by simp)).inner
    rw [bounded_deep deep, depthBounds_limited (by omega)]
    rfl

/-- Where no bounds are opened, none are read. -/
theorem bounded_unopened {holder : Selector} (unopened : ¬(holder.name = .anyDeep ∧ opensBound tokens.words = true)) :
    bounded holder tokens = .ok (holder, tokens) := by
  rw [bounded.eq_def]
  split
  · rename_i deep
    exact absurd ⟨deep, rfl⟩ unopened
  · rfl

/-! ### Selectors -/

/-- What has to be read where a phrase stands, by selectors of so many levels. -/
def Accepted (words after : List Token) (levels : Nat) : Phrase → Prop
  | .block present => endsSegment after = true → ∀ holder : Selector, holder.nested = false →
      Accepts (block (selectors levels) holder) (words ++ after) after fun selector => selector.nested = present
  | .segment blocked => endsSegment after = true →
      Accepts (segment (selectors levels)) (words ++ after) after fun selector => selector.nested = blocked
  | .path => endsSelector after = true → ∀ steps, words.length ≤ steps →
      Accepts (path (selectors levels) steps) (words ++ after) after fun segments =>
        segments ≠ [] ∧ ∀ parent ∈ segments.dropLast, parent.nested = false
  | .selector => endsSelector after = true →
      Accepts (selector (selectors levels)) (words ++ after) after fun _ => True
  | .selectors => endsSelector after = true → ∀ tokens : Tokens, tokens.words = words ++ after → ∃ selected rest,
      Listed (selectors levels) tokens selected rest ∧ rest.words = after ∧ selected.length ≤ words.length

section Steps
variable {calls : List Token} {inside : Parser (List Selector)}

/-- A segment is read part by part. -/
theorem segment_of_parts {pattern : Name} {holder holder' selector : Selector} {behind acting last : Tokens}
    (naming : name tokens = .ok (pattern, behind))
    (bounding : bounded (Selector.named pattern tokens.position) behind = .ok (holder, acting))
    (calling : Parser.calls acting.length holder acting = .ok (holder', last))
    (blocking : block inside holder' last = .ok (selector, rest)) : segment inside tokens = .ok (selector, rest) := by
  rw [segment, naming]
  change (bounded _ _ >>= _) = _
  rw [bounding]
  change (Parser.calls _ _ _ >>= _) = _
  rw [calling]
  exact blocking

theorem accepts_segment {pattern : Token} {bound block : List Token} (proper : ∀ token ∈ pattern :: bound, token.Proper)
    (names : isPattern pattern = true)
    (bounded : pattern = .doubleStar ∧ opensBound (bound ++ (calls ++ block)) = true → Bound bound)
    (unbounded : ¬(pattern = .doubleStar ∧ opensBound (bound ++ (calls ++ block)) = true) → bound = [])
    (called : Grammar.Calls calls) (follows : endsCalls (block ++ after) = true) (ends : endsSegment after = true)
    {P : Selector → Prop} (blocks : ∀ holder : Selector, holder.nested = false →
      Accepts (Parser.block inside holder) (block ++ after) after P) :
    Accepts (segment inside) (pattern :: (bound ++ (calls ++ (block ++ after)))) after P := by
  intro tokens spells
  obtain ⟨own, limits⟩ := List.forall_mem_cons.mp proper
  obtain ⟨name, behind, naming, opening, deep⟩ := accepts_name names own _ tokens spells
  have bounds : ∃ selector rest, Parser.bounded (Selector.named name tokens.position) behind = .ok (selector, rest) ∧
      rest.words = calls ++ (block ++ after) := by
    by_cases opens : pattern = .doubleStar ∧ opensBound (bound ++ (calls ++ block)) = true
    · have holds : (Selector.named name tokens.position).name = .anyDeep := deep.mpr opens.1
      obtain ⟨selector, rest, read, left, _⟩ := accepts_bounded (bounded opens) limits holds _ behind opening
      exact ⟨selector, rest, read, left⟩
    · obtain rfl := unbounded opens
      refine ⟨_, behind, bounded_unopened ?_, opening⟩
      rintro ⟨same, opened⟩
      rw [opening, List.nil_append, ← List.append_assoc] at opened
      exact opens ⟨deep.mp same, opensBound_of_append ends opened⟩
  obtain ⟨holder, acting, bounding, act⟩ := bounds
  have enough : calls.length ≤ acting.length := length_le_of_words act
  obtain ⟨holder', last, calling, ending, _⟩ := accepts_calls called follows enough holder acting act
  have unnested : holder'.nested = false := by
    obtain ⟨_, _, _, kept⟩ := words_of_calls calling
    rw [kept, (words_of_bounded bounding).1]
    rfl
  obtain ⟨selector, rest, blocking, left, holds⟩ := blocks holder' unnested last ending
  exact ⟨selector, rest, segment_of_parts naming bounding calling blocking, left, holds⟩

theorem path_last {first : Selector} (read : segment inside tokens = .ok (first, rest))
    (ends : endsSelector rest.words = true) : path inside (steps + 1) tokens = .ok ([first], rest) := by
  rw [path, read]
  simp only [bind, Except.bind]
  split
  · cases ends
  · rfl

theorem path_dot {first : Selector} {behind : Tokens}
    (read : segment inside tokens = .ok (first, ⟨.dot, position⟩ :: behind)) (uncalled : isCall behind = false) :
    path inside (steps + 1) tokens = path inside steps behind >>= fun more => return (first :: more.1, more.2) := by
  rw [path, read]
  change (if isCall behind = true then _ else _) = _
  rw [uncalled]
  rfl

theorem nest_of_unnested (leaf : Selector) {parents : List Selector}
    (unnested : ∀ parent ∈ parents, parent.nested = false) : ∃ nested, nest leaf parents = .ok nested := by
  induction parents with
  | nil => exact ⟨leaf, rfl⟩
  | cons parent rest ih =>
    obtain ⟨own, others⟩ := List.forall_mem_cons.mp unnested
    obtain ⟨child, inner⟩ := ih others
    refine ⟨{ parent with nested := true, children := Block.finish [child] }, ?_⟩
    rw [nest, inner]
    change (if parent.nested = true then _ else _) = _
    rw [own]
    rfl

/-- A path whose segments have no blocks before the last is a selector, whatever its sign. -/
theorem unsignedSelector_of_path {negated : Bool} {segments : List Selector}
    (read : path inside tokens.length tokens = .ok (segments, rest)) (some_ : segments ≠ [])
    (unnested : ∀ parent ∈ segments.dropLast, parent.nested = false) :
    ∃ selector, unsignedSelector inside negated tokens = .ok (selector, rest) := by
  have last := List.getLast?_eq_some_getLast some_
  obtain ⟨nested, nests⟩ := nest_of_unnested { segments.getLast some_ with negated } unnested
  refine ⟨nested, ?_⟩
  rw [unsignedSelector, read]
  simp only [bind, Except.bind, last, nests]
  rfl

theorem selector_unsigned (unsigned : tokens.head ≠ .minus) :
    selector inside tokens = unsignedSelector inside false tokens := by
  rcases tokens with _ | ⟨⟨token, position⟩, tokens⟩
  · rfl
  · cases token <;> first | rfl | exact absurd rfl unsigned

end Steps

section Listing
variable {levels : Nat} {selected : List Selector}

theorem block_of_listed {holder : Selector} {opening closing : Position} (filled : tokens.head ≠ .rightBrace)
    (listed : Listed (selectors levels) tokens selected (⟨.rightBrace, closing⟩ :: rest))
    (enough : selected.length ≤ tokens.length) :
    block (selectors (levels + 1)) holder (⟨.leftBrace, opening⟩ :: tokens) =
      .ok ({ holder with nested := true, children := Block.finish selected }, rest) := by
  rw [block_filled _ _ _ filled, enclosed]
  change (selectorsWith _ _ _ >>= _) >>= _ = _
  rw [listed.selectorsWith (by simp [Tokens.head]) enough]
  rfl

theorem stage_of_listed (starts : tokens.head.endsSelector = false) (deep : tokens.length = levels + 1)
    (listed : Listed (selectors levels) tokens selected rest) (unfollowed : rest.head ≠ .comma)
    (enough : selected.length ≤ tokens.length) : stage tokens = .ok (Block.finish selected, rest) := by
  rw [stage.eq_def]
  split
  · rename_i pipe
    rw [pipe] at starts
    cases starts
  · rename_i finish
    rw [finish] at starts
    cases starts
  · rw [deep]
    change selectorsWith _ _ _ >>= _ = _
    rw [listed.selectorsWith unfollowed enough]
    rfl

end Listing

/-- Blocks go on neither with calls nor behind them. -/
theorem endsCalls_block {present : Bool} {block : List Token} (derived : Derives (.block present) block)
    (ends : endsSegment after = true) : endsCalls (block ++ after) = true := by
  cases derived with
  | unblocked => exact endsCalls_of_endsSegment ends
  | emptied | filled => rfl

theorem accepted_of_derives {phrase : Phrase} (derived : Derives phrase words) (proper : ∀ token ∈ words, token.Proper)
    {levels : Nat} (low : (words ++ after).length ≤ levels + 1) : Accepted words after levels phrase := by
  induction derived generalizing after levels with
  | unblocked =>
    intro ends holder unnested tokens spells
    obtain rfl : tokens.words = after := spells
    refine ⟨holder, tokens, ?_, rfl, unnested⟩
    rw [block.eq_def]
    split
    · cases ends
    · cases ends
    · rfl
  | emptied =>
    intro ends holder unnested tokens spells
    obtain ⟨_, _, rfl, closing⟩ := of_words_cons spells
    obtain ⟨_, rest, rfl, left⟩ := of_words_cons closing
    exact ⟨{ holder with nested := true, emptyNested := true }, rest, rfl, left, rfl⟩
  | @filled words derived ih =>
    intro ends holder unnested tokens spells
    simp only [List.append_assoc, List.cons_append, List.nil_append, List.length_cons, List.length_append] at spells low
    obtain ⟨opening, behind, rfl, filling⟩ := of_words_cons spells
    cases levels with
    | zero => omega
    | succ levels =>
      have inner : ∀ token ∈ words, token.Proper := fun token member => proper token (by simp [member])
      have within : (words ++ .rightBrace :: after).length ≤ levels + 1 := by
        rw [List.length_append, List.length_cons]
        omega
      have enough : words.length ≤ behind.length := length_le_of_words filling
      obtain ⟨children, _, listed, closing, count⟩ := ih inner within rfl behind filling
      obtain ⟨place, rest, rfl, left⟩ := of_words_cons closing
      have filled : behind.head ≠ .rightBrace := by
        obtain ⟨token, _, rfl, starts⟩ := derived.head (by simp)
        obtain ⟨_, _, rfl, _⟩ := of_words_cons filling
        rintro rfl
        cases starts.endsSelector
      exact ⟨_, rest, block_of_listed filled listed (Nat.le_trans count enough), left, rfl⟩
  | @segment pattern bound calls block blocked names bounded unbounded called derived ih =>
    intro ends
    have own : ∀ token ∈ pattern :: bound, token.Proper := by
      intro token member
      refine proper token ?_
      rcases List.mem_cons.mp member with rfl | member <;> simp [*]
    have within : ∀ token ∈ block, token.Proper := fun token member => proper token (by simp [member])
    have short : (block ++ after).length ≤ levels + 1 := by
      simp only [List.length_cons, List.length_append] at low ⊢
      omega
    have follows := endsCalls_block derived ends
    simp only [List.append_assoc, List.cons_append]
    exact accepts_segment own names bounded unbounded called follows ends (ih within short ends)
  | @last words blocked derived ih =>
    intro ends steps enough tokens spells
    obtain ⟨_, _, rfl, _⟩ := derived.head (by simp)
    cases steps with
    | zero => cases enough
    | succ steps =>
      obtain ⟨first, rest, read, left, _⟩ := ih proper low (endsSegment_of_endsSelector ends) tokens spells
      refine ⟨[first], rest, path_last read (left ▸ ends), left, List.cons_ne_nil _ _, List.forall_mem_nil _⟩
  | @dot first more _ uncalled _ ih ih' =>
    intro ends steps enough tokens spells
    obtain ⟨own, others⟩ := List.forall_mem_append.mp proper
    have below : ∀ token ∈ more, token.Proper := (List.forall_mem_cons.mp others).2
    simp only [List.append_assoc, List.cons_append, List.length_append, List.length_cons] at spells low enough
    cases steps with
    | zero => omega
    | succ steps =>
      have width : (first ++ .dot :: (more ++ after)).length ≤ levels + 1 := by
        simp only [List.length_append, List.length_cons]
        omega
      have shorter : (more ++ after).length ≤ levels + 1 := by
        rw [List.length_append]
        omega
      have enough : more.length ≤ steps := by omega
      have shut : opensCall (more ++ after) = false :=
        Bool.eq_false_iff.mpr fun opens => absurd (opensCall_of_append ends opens) (by simp [uncalled])
      obtain ⟨segment, _, read, dotted, unnested⟩ := ih own width ((Bool.not_eq_true' _).mpr shut) tokens spells
      obtain ⟨_, behind, rfl, onward⟩ := of_words_cons dotted
      obtain ⟨segments, rest, read', left, some_, free⟩ := ih' below shorter ends steps enough behind onward
      refine ⟨segment :: segments, rest, ?_, left, List.cons_ne_nil _ _, ?_⟩
      · rw [path_dot read (by rw [isCall_eq, onward, shut]), read']
        rfl
      · rw [List.dropLast_cons_of_ne_nil some_]
        exact List.forall_mem_cons.mpr ⟨unnested, free⟩
  | @kept words derived ih =>
    intro ends tokens spells
    have unsigned : tokens.head ≠ .minus := by
      obtain ⟨token, _, rfl, names⟩ := derived.head (by simp)
      obtain ⟨_, _, rfl, _⟩ := of_words_cons spells
      rintro rfl
      cases names
    have enough : words.length ≤ tokens.length := length_le_of_words spells
    obtain ⟨segments, rest, read, left, some_, free⟩ := ih proper low ends _ enough tokens spells
    obtain ⟨selector, read⟩ := unsignedSelector_of_path read some_ free
    exact ⟨selector, rest, (selector_unsigned unsigned).trans read, left, trivial⟩
  | @dropped words _ ih =>
    intro ends tokens spells
    obtain ⟨_, behind, rfl, onward⟩ := of_words_cons spells
    have below : ∀ token ∈ words, token.Proper := (List.forall_mem_cons.mp proper).2
    have enough : words.length ≤ behind.length := length_le_of_words onward
    obtain ⟨segments, rest, read, left, some_, free⟩ := ih below (Nat.le_of_succ_le low) ends _ enough behind onward
    obtain ⟨selector, read⟩ := unsignedSelector_of_path read some_ free
    exact ⟨selector, rest, read, left, trivial⟩
  | @one words derived ih =>
    intro ends tokens spells
    obtain ⟨_, _, rfl, _⟩ := derived.head (by simp)
    obtain ⟨first, rest, read, left, _⟩ := ih proper low ends tokens spells
    exact ⟨[first], rest, .one read, left, Nat.succ_le_succ (Nat.zero_le _)⟩
  | @comma first more _ _ ih ih' =>
    intro ends tokens spells
    obtain ⟨own, others⟩ := List.forall_mem_append.mp proper
    have below : ∀ token ∈ more, token.Proper := (List.forall_mem_cons.mp others).2
    simp only [List.append_assoc, List.cons_append, List.length_append, List.length_cons] at spells low
    have width : (first ++ .comma :: (more ++ after)).length ≤ levels + 1 := by
      simp only [List.length_append, List.length_cons]
      omega
    have shorter : (more ++ after).length ≤ levels + 1 := by
      rw [List.length_append]
      omega
    obtain ⟨selector, _, read, separated, _⟩ := ih own width rfl tokens spells
    obtain ⟨_, behind, rfl, onward⟩ := of_words_cons separated
    obtain ⟨selected, rest, listed, left, count⟩ := ih' below shorter ends behind onward
    refine ⟨selector :: selected, rest, .comma read listed, left, ?_⟩
    simp only [List.length_append, List.length_cons]
    omega

/-! ### Stages -/

theorem accepts_stage (derived : Stage words) (proper : ∀ token ∈ words, token.Proper) {ender : Token}
    (bars : ender = .pipe ∨ ender = .finish) (beyond : List Token) :
    Accepts stage (words ++ ender :: beyond) (ender :: beyond) fun _ => True := by
  intro tokens spells
  cases derived with
  | empty =>
    obtain ⟨position, rest, rfl, left⟩ := of_words_cons spells
    refine ⟨[Selector.named .anyDeep position], ⟨ender, position⟩ :: rest, ?_, spells, trivial⟩
    rcases bars with rfl | rfl <;> rfl
  | filled derived =>
    have ends : endsSelector (ender :: beyond) = true ∧ ender ≠ .comma := by
      rcases bars with rfl | rfl <;> exact ⟨rfl, nofun⟩
    have starts : tokens.head.endsSelector = false := by
      obtain ⟨token, _, rfl, starts⟩ := derived.head (by simp)
      obtain ⟨_, _, rfl, _⟩ := of_words_cons spells
      exact starts.endsSelector
    have enough := length_le_of_words spells
    obtain ⟨levels, deep⟩ : ∃ levels, tokens.length = levels + 1 := by
      refine Nat.exists_eq_succ_of_ne_zero ?_
      rw [length_of_words spells, List.length_append]
      exact Nat.succ_ne_zero _
    have low : (words ++ ender :: beyond).length ≤ levels + 1 :=
      Nat.le_of_eq ((length_of_words spells).symm.trans deep)
    obtain ⟨selected, rest, listed, left, count⟩ := accepted_of_derives derived proper low ends.1 tokens spells
    have unfollowed : rest.head ≠ .comma := by
      obtain ⟨_, _, rfl, _⟩ := of_words_cons left
      exact ends.2
    exact ⟨_, rest, stage_of_listed starts deep listed unfollowed (Nat.le_trans count enough), left, trivial⟩

theorem staged_of_derives (derived : Stages words) (proper : ∀ token ∈ words, token.Proper)
    (spells : tokens.words = words ++ [.finish]) :
    ∃ blocks position, Staged tokens blocks [⟨.finish, position⟩] ∧ blocks.length ≤ words.length + 1 := by
  induction derived generalizing tokens with
  | last derived =>
    obtain ⟨block, rest, read, ending, _⟩ := accepts_stage derived proper (.inr rfl) [] tokens spells
    obtain ⟨position, rest, rfl, nothing⟩ := of_words_cons ending
    obtain rfl : rest = [] := List.map_eq_nil_iff.mp nothing
    exact ⟨[block], position, .last read nofun, Nat.succ_le_succ (Nat.zero_le _)⟩
  | @bar first more derived _ ih =>
    obtain ⟨own, others⟩ := List.forall_mem_append.mp proper
    rw [List.append_assoc, List.cons_append] at spells
    obtain ⟨block, _, read, barred, _⟩ := accepts_stage derived own (.inl rfl) _ tokens spells
    obtain ⟨_, behind, rfl, onward⟩ := of_words_cons barred
    obtain ⟨blocks, position, staged, count⟩ := ih (List.forall_mem_cons.mp others).2 onward
    refine ⟨block :: blocks, position, .bar read staged, ?_⟩
    simp only [List.length_append, List.length_cons]
    omega

/-- A text is a filter just when its words are one by the grammar, as far as its patterns can be compiled. -/
theorem exists_filter_iff (spells : tokens.words = words ++ [.finish]) (inner : ∀ token ∈ words, token.Inner)
    (compiles : ∀ token ∈ words, token.Compiles) :
    (∃ selected, filter tokens = .ok selected) ↔ Filter tokens.words := by
  constructor
  · rintro ⟨selected, read⟩
    exact derives_of_filter (fun token member => (inner token member).ne_finish) spells read
  · rw [spells]
    intro derived
    have proper : ∀ token ∈ words, token.Proper := fun token member => ⟨inner token member, compiles token member⟩
    generalize whole : words ++ [Token.finish] = all at derived
    cases derived with
    | ended stages =>
      obtain ⟨rfl, _⟩ := List.append_inj' whole rfl
      obtain ⟨blocks, position, staged, count⟩ := staged_of_derives stages proper spells
      have enough : blocks.length ≤ tokens.length + 1 :=
        Nat.le_trans count (Nat.succ_le_succ (length_le_of_words spells))
      exact ⟨_, staged.filter enough⟩

theorem exists_filter_iff_of_bounds : ∃ (tokens : Tokens) (words : List Token),
    tokenize "a.**{2,5}[g(-1,@v,)]{x,-y{}}|" = .ok tokens ∧ tokens.words = words ++ [.finish] ∧
      (∀ token ∈ words, token.Inner) ∧ (∀ token ∈ words, token.Compiles) ∧
        (∃ selected, filter tokens = .ok selected) ∧ Filter tokens.words := by
  have compiles : ∃ tree, compile "a.**{2,5}[g(-1,@v,)]{x,-y{}}|" = .ok tree := ⟨_, rfl⟩
  have tokenizes : ∃ tokens : Tokens, tokenize "a.**{2,5}[g(-1,@v,)]{x,-y{}}|" = .ok tokens ∧ tokens.words =
      [.identifier "a", .dot, .doubleStar, .leftBrace, .integer 2, .comma, .integer 5, .rightBrace, .leftBracket,
        .identifier "g", .leftParen, .minus, .integer 1, .comma, .variable "v", .comma, .rightParen, .rightBracket,
        .leftBrace, .identifier "x", .comma, .minus, .identifier "y", .leftBrace, .rightBrace, .rightBrace, .pipe] ++
          [.finish] := ⟨_, rfl, rfl⟩
  obtain ⟨tokens, tokenized, spells⟩ := tokenizes
  obtain ⟨words, reads, same⟩ := tokenize_ok tokenized
  obtain ⟨rfl, _⟩ := List.append_inj' (same.symm.trans spells) rfl
  have read : ∃ selected, filter tokens = .ok selected := by
    obtain ⟨tree, compiled⟩ := compiles
    rw [compile, tokenized] at compiled
    obtain ⟨_, ⟨⟩, compiled⟩ := exists_of_bind_eq_ok compiled
    obtain ⟨selected, read, _⟩ := exists_of_bind_eq_ok compiled
    exact ⟨selected, read⟩
  refine ⟨tokens, _, tokenized, spells, reads.inner, ?plain, read,
    (exists_filter_iff spells reads.inner ?plain).mp read⟩
  simp [Token.Compiles]

end Parser
end FieldSelect
