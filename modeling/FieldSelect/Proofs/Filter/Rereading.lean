import FieldSelect.Proofs.Filter.Writing

/-! What is written for a well-formed filter is read back as that filter, so that there is a text for each. -/
namespace FieldSelect
namespace Block
open Selector

/-- A settled block is finished as it is. -/
theorem Settled.finish_eq {selectors : List Selector} (settled : Settled selectors) : finish selectors = selectors := by
  have kept : selectors.all (·.negated) ≠ true := by
    obtain ⟨selector, member, keeps⟩ := settled.keeps
    intro all
    have drops := List.all_eq_true.mp all selector member
    rw [keeps] at drops
    cases drops
  have apart : Apart ([] ++ selectors) := settled.apart
  rw [Block.finish_eq, joinAll, foldl_merge_of_apart apart, List.nil_append, complete_of_not_all kept]

theorem Settled.finish_bare {selectors selected : List Selector} (settled : Settled selectors)
    (same : selected.map bare = selectors.map bare) : (finish selected).map bare = selectors.map bare := by
  rw [Block.finish_bare, same, ← Block.finish_bare, settled.finish_eq]

end Block

namespace Parser
open Tokens Grammar Selector
variable {after : List Token} {tokens rest : Tokens} {steps : Nat}

/-! ### Lists -/

theorem length_le_intercalate (separator : Token) (lists : List (List Token)) :
    lists.length ≤ ([separator].intercalate lists).length + 1 := by
  induction lists with
  | nil => exact Nat.zero_le _
  | cons first rest ih =>
    cases rest with
    | nil => exact Nat.succ_le_succ (Nat.zero_le _)
    | cons next rest =>
      rw [List.intercalate_cons_cons, List.length_append, List.length_append, List.length_cons, List.length_singleton]
      omega

/-! ### Names and calls -/

theorem name_word {name : Name} (writable : name.Writable) (position : Position) (rest : Tokens) :
    Parser.name (⟨name.word, position⟩ :: rest) = .ok (name, rest) := by
  cases writable with
  | glob spelled compiled =>
    rw [Name.word_of_glob? spelled compiled, Parser.name, compiled]
  | regex compiled =>
    rw [Name.word_of_regex? compiled, Parser.name, compiled]
  | _ => rfl

theorem spells_words {value : FieldSelect.Argument} (writable : value.Writable) : value.Spells value.words := by
  cases writable with
  | string chars => exact .quoted chars
  | boolean truth =>
    cases truth with
    | true => exact .truth
    | false => exact .falsehood
  | null => exact .null
  | @integer n =>
    rw [FieldSelect.Argument.words]
    split
    · simpa using FieldSelect.Argument.Spells.negativeInteger (-n)
    · exact .integer n
  | _ => exact .variable _

theorem listed_words {values : List FieldSelect.Argument} (writable : ∀ value ∈ values, value.Writable) :
    FieldSelect.Argument.Listed values false
      ([Token.comma].intercalate (values.map FieldSelect.Argument.words)) := by
  induction values with
  | nil => exact .none
  | cons first more ih =>
    obtain ⟨own, others⟩ := List.forall_mem_cons.mp writable
    cases more with
    | nil =>
      rw [List.map_singleton, List.intercalate_singleton]
      exact .last (spells_words own)
    | cons second more =>
      rw [List.map_cons, List.map_cons, List.intercalate_cons_cons, List.append_assoc]
      exact .comma (spells_words own) (ih others)

theorem accepts_callWords {written : FieldSelect.Call} (writable : written.Writable) (after : List Token) :
    Accepts call (written.words ++ after) after fun call => call.bare = written.bare := by
  intro tokens spells
  obtain ⟨front, rest, rfl, whole, left⟩ := of_words_append spells
  have spelled : written.IsWritten false front.words := ⟨_, listed_words writable.arguments, whole⟩
  exact ⟨_, rest, call_of_written spelled, left, rfl⟩

theorem calls_keyWords {keys : List FieldSelect.Call} (writable : ∀ call ∈ keys, call.Writable) (holder : Selector)
    (spells : tokens.words = keys.flatMap (fun call => .colon :: call.words) ++ after) :
    ∃ holder' rest, calls (steps + keys.length) holder tokens = calls steps holder' rest ∧ rest.words = after ∧
      holder'.bare = ({ holder with keyCalls := holder.keyCalls ++ keys } : Selector).bare := by
  induction keys generalizing tokens holder with
  | nil =>
    refine ⟨holder, tokens, rfl, spells, ?_⟩
    cases holder
    rw [List.append_nil]
  | cons first more ih =>
    obtain ⟨own, others⟩ := List.forall_mem_cons.mp writable
    simp only [List.flatMap_cons, List.append_assoc, List.cons_append] at spells
    obtain ⟨_, behind, rfl, front⟩ := of_words_cons spells
    obtain ⟨first', _, read, onward, same⟩ := accepts_callWords own _ behind front
    obtain ⟨holder', rest, reads, left, same'⟩ :=
      ih others { holder with keyCalls := holder.keyCalls ++ [first'] } onward
    refine ⟨holder', rest, (calls_key read).trans reads, left, same'.trans ?_⟩
    simp only [bare_eq, List.map_append, List.map_cons, same, List.append_assoc, List.cons_append,
      List.nil_append]

theorem calls_valueWords {values : List FieldSelect.Call} (writable : ∀ call ∈ values, call.Writable)
    (holder : Selector) (spells : tokens.words = values.flatMap (fun call => .dot :: call.words) ++ after) :
    ∃ holder' rest, calls (steps + values.length) holder tokens = calls steps holder' rest ∧ rest.words = after ∧
      holder'.bare = ({ holder with valueCalls := holder.valueCalls ++ values } : Selector).bare := by
  induction values generalizing tokens holder with
  | nil =>
    refine ⟨holder, tokens, rfl, spells, ?_⟩
    cases holder
    rw [List.append_nil]
  | cons first more ih =>
    obtain ⟨own, others⟩ := List.forall_mem_cons.mp writable
    simp only [List.flatMap_cons, List.append_assoc, List.cons_append] at spells
    obtain ⟨_, behind, rfl, front⟩ := of_words_cons spells
    have opens : opensCall behind.words = true := by
      rw [front]
      rfl
    obtain ⟨first', _, read, onward, same⟩ := accepts_callWords own _ behind front
    obtain ⟨holder', rest, reads, left, same'⟩ :=
      ih others { holder with valueCalls := holder.valueCalls ++ [first'] } onward
    refine ⟨holder', rest, (calls_value opens read).trans reads, left, same'.trans ?_⟩
    simp only [bare_eq, List.map_append, List.map_cons, same, List.append_assoc, List.cons_append,
      List.nil_append]

theorem accepts_callsWords {keys values : List FieldSelect.Call} (writable : ∀ call ∈ keys, call.Writable)
    (writable' : ∀ call ∈ values, call.Writable) (follows : endsCalls after = true) (holder : Selector)
    (enough : keys.length + values.length ≤ steps) :
    Accepts (calls steps holder) (callWords keys values ++ after) after fun selector =>
      selector.bare = ({ holder with
        keyCalls := holder.keyCalls ++ keys, valueCalls := holder.valueCalls ++ values } : Selector).bare := by
  intro tokens spells
  obtain ⟨more, rfl⟩ := Nat.exists_eq_add_of_le' enough
  rw [callWords, List.append_assoc] at spells
  obtain ⟨holder', acting, reads, onward, same⟩ := calls_keyWords writable holder spells
  obtain ⟨selector, rest, reads', left, same'⟩ := calls_valueWords writable' holder' onward
  refine ⟨selector, rest, ?_, left, same'.trans ?_⟩
  · rw [Nat.add_comm keys.length, ← Nat.add_assoc, reads, reads', calls_none (by rw [left, follows])]
  · simp only [bare_eq, Selector.mk.injEq] at same ⊢
    simp only [same, List.map_append, and_self]

/-! ### Depth bounds -/

theorem toInt_ofNat {bound : Nat} (low : bound < 2 ^ 63) : (Int64.ofNat bound).toInt.toNat = bound := by
  rw [Int64.toInt_ofNat_of_lt low]
  rfl

/-- Bounds are read back behind `**`, and nothing is taken for bounds where there are none. -/
theorem accepts_boundWords {holder : Selector} {low high : Option Nat} (plain : holder.minDepth = none)
    (plain' : holder.maxDepth = none) (deep : low ≠ none ∨ high ≠ none → holder.name = .anyDeep)
    (ordered : ∀ bound, high = some bound → ∃ least, low = some least ∧ least < bound)
    (small : ∀ bound, low = some bound → bound < 2 ^ 63) (small' : ∀ bound, high = some bound → bound < 2 ^ 63)
    (unopened : opensBound after = false) :
    Accepts (bounded holder) (boundWords low high ++ after) after
      (· = { holder with minDepth := low, maxDepth := high }) := by
  intro tokens spells
  cases low with
  | none =>
    cases high with
    | some bound => exact absurd (ordered bound rfl) (by simp)
    | none =>
      obtain rfl : tokens.words = after := spells
      refine ⟨_, tokens, bounded_unopened ?_, rfl, ?_⟩
      · rintro ⟨_, opens⟩
        rw [unopened] at opens
        cases opens
      · cases holder
        cases plain
        cases plain'
        rfl
  | some least =>
    have anyDeep := deep (.inl nofun)
    cases high with
    | none =>
      obtain ⟨_, _, rfl, numbers⟩ := of_words_cons spells
      obtain ⟨_, _, rfl, closing⟩ := of_words_cons numbers
      obtain ⟨_, rest, rfl, left⟩ := of_words_cons closing
      refine ⟨_, rest, ?_, left, rfl⟩
      rw [bounded_deep anyDeep]
      change Except.ok
        (({ holder with minDepth := some (Int64.ofNat least).toInt.toNat, maxDepth := none } : Selector), rest) = _
      rw [toInt_ofNat (small least rfl)]
    | some most =>
      obtain ⟨_, ⟨⟩, rises⟩ := ordered most rfl
      obtain ⟨_, _, rfl, numbers⟩ := of_words_cons spells
      obtain ⟨_, _, rfl, separated⟩ := of_words_cons numbers
      obtain ⟨_, _, rfl, number⟩ := of_words_cons separated
      obtain ⟨_, _, rfl, closing⟩ := of_words_cons number
      obtain ⟨_, rest, rfl, left⟩ := of_words_cons closing
      refine ⟨_, rest, ?_, left, rfl⟩
      have bounds := toInt_ofNat (small least rfl)
      have bounds' := toInt_ofNat (small' most rfl)
      rw [bounded_deep anyDeep, depthBounds_limited (by omega), bounds, bounds']
      rfl

/-! ### Segments -/

/-- What the written selectors are read back as, wherever a selector may end behind them. -/
def Reread (selector : Selector) : Prop :=
  ∀ {after : List Token} {levels : Nat}, endsSelector after = true → (selector.words ++ after).length ≤ levels + 1 →
    Accepts (Parser.selector (selectors levels)) (selector.words ++ after) after fun read => read.bare = selector.bare

theorem words_head (selector : Selector) : ∃ token behind, selector.words = token :: behind ∧
    Phrase.selectors.Starts token ∧ ∀ n, token ≠ .integer n := by
  rw [words_eq]
  cases selector.negated with
  | false => exact ⟨_, _, rfl, .inl (Name.isPattern_word _), Name.word_ne_integer _⟩
  | true => exact ⟨_, _, rfl, .inr rfl, nofun⟩

theorem intercalate_words_head {written : List Selector} (some_ : written ≠ []) :
    ∃ token behind, [Token.comma].intercalate (written.map Selector.words) = token :: behind ∧
      Phrase.selectors.Starts token ∧ ∀ n, token ≠ .integer n := by
  obtain ⟨first, rest, rfl⟩ := List.exists_cons_of_ne_nil some_
  obtain ⟨token, behind, spells, starts, other⟩ := words_head first
  cases rest with
  | nil =>
    rw [List.map_singleton, List.intercalate_singleton]
    exact ⟨token, behind, spells, starts, other⟩
  | cons next rest =>
    rw [List.map_cons, List.map_cons, List.intercalate_cons_cons, spells]
    exact ⟨token, _, rfl, starts, other⟩

theorem opensBound_blockWords {nested emptyNested : Bool} {children : List Selector} (ends : endsSegment after = true) :
    opensBound (blockWords nested emptyNested (children.map Selector.words) ++ after) = false := by
  unfold blockWords
  split
  · split
    · rfl
    · by_cases none : children = []
      · subst none
        rfl
      · obtain ⟨token, behind, spells, _, other⟩ := intercalate_words_head none
        rw [spells]
        cases token <;> first | rfl | exact absurd rfl (other _)
  · refine Bool.eq_false_iff.mpr fun opens => ?_
    have empty : opensBound [] = true := opensBound_of_append ends opens
    exact Bool.noConfusion empty

theorem opensBound_callWords {keys values : List FieldSelect.Call} (shut : opensBound after = false) :
    opensBound (callWords keys values ++ after) = false := by
  cases keys with
  | cons => rfl
  | nil =>
    cases values with
    | cons => rfl
    | nil => exact shut

theorem endsCalls_blockWords {nested emptyNested : Bool} {children : List (List Token)}
    (ends : endsSegment after = true) : endsCalls (blockWords nested emptyNested children ++ after) = true := by
  unfold blockWords
  split
  · split <;> rfl
  · exact endsCalls_of_endsSegment ends

theorem length_le_callWords (keys values : List FieldSelect.Call) :
    keys.length + values.length ≤ (callWords keys values).length := by
  have each (mark : Token) (calls : List FieldSelect.Call) :
      calls.length ≤ (calls.flatMap fun call => mark :: call.words).length := by
    induction calls with
    | nil => exact Nat.le_refl _
    | cons call rest ih =>
      rw [List.flatMap_cons, List.length_append, List.length_cons, List.length_cons]
      omega
  have bound := each .colon keys
  have bound' := each .dot values
  rw [callWords, List.length_append]
  omega

/-- Selectors are read back one after the other. -/
theorem listed_of_reread {written : List Selector} (each : ∀ selector ∈ written, Reread selector)
    (some_ : written ≠ []) (ends : endsSelector after = true) {levels : Nat}
    (low : ([Token.comma].intercalate (written.map Selector.words) ++ after).length ≤ levels + 1)
    (spells : tokens.words = [Token.comma].intercalate (written.map Selector.words) ++ after) :
    ∃ selected rest, Listed (selectors levels) tokens selected rest ∧ rest.words = after ∧
      selected.map bare = written.map bare := by
  induction written generalizing tokens with
  | nil => exact absurd rfl some_
  | cons first more ih =>
    obtain ⟨own, others⟩ := List.forall_mem_cons.mp each
    cases more with
    | nil =>
      rw [List.map_singleton, List.intercalate_singleton] at spells low
      obtain ⟨selector, rest, read, left, same⟩ := own ends low tokens spells
      exact ⟨[selector], rest, .one read, left, congrArg ([·]) same⟩
    | cons second more =>
      rw [List.map_cons, List.map_cons, List.intercalate_cons_cons, List.append_assoc, List.append_assoc] at spells low
      obtain ⟨selector, _, read, separated, same⟩ := own (by rfl) low tokens spells
      obtain ⟨_, behind, rfl, onward⟩ := of_words_cons separated
      rw [List.length_append, List.length_append, List.length_singleton] at low
      obtain ⟨selected, rest, listed, left, same'⟩ := ih others (List.cons_ne_nil _ _) (by
        rw [List.map_cons]
        omega) onward
      exact ⟨selector :: selected, rest, .comma read listed, left, congrArg₂ List.cons same same'⟩

theorem length_le_words {selected written : List Selector} (same : selected.map bare = written.map bare) :
    selected.length ≤ ([Token.comma].intercalate (written.map Selector.words)).length + 1 := by
  have count := congrArg List.length same
  have bound := length_le_intercalate .comma (written.map Selector.words)
  rw [List.length_map, List.length_map] at count
  rwa [List.length_map, ← count] at bound

theorem accepts_blockWords {selector : Selector} (own : selector.Consistent)
    (settled : selector.children ≠ [] → Block.Settled selector.children)
    (each : ∀ child ∈ selector.children, Reread child) (ends : endsSegment after = true) {levels : Nat}
    (low : (blockWords selector.nested selector.emptyNested (selector.children.map Selector.words) ++ after).length ≤
      levels + 1)
    {holder : Selector} (unnested : holder.nested = false) (unemptied : holder.emptyNested = false)
    (childless : holder.children = []) :
    Accepts (block (selectors levels) holder)
      (blockWords selector.nested selector.emptyNested (selector.children.map Selector.words) ++ after) after
      fun read => read.bare = ({ holder with
          nested := selector.nested, emptyNested := selector.emptyNested, children := selector.children } :
            Selector).bare := by
  intro tokens spells
  by_cases nested : selector.nested = true
  · by_cases emptied : selector.emptyNested = true
    · rw [nested, emptied] at spells
      obtain ⟨_, _, rfl, closing⟩ := of_words_cons spells
      obtain ⟨_, rest, rfl, left⟩ := of_words_cons closing
      refine ⟨{ holder with nested := true, emptyNested := true }, rest, rfl, left, ?_⟩
      rw [nested, emptied, own.blockless (.inr emptied), ← childless]
    · have emptied : selector.emptyNested = false := by simpa using emptied
      have some_ := own.filled nested emptied
      rw [nested, emptied] at spells low ⊢
      simp only [blockWords, if_true, Bool.false_eq_true, if_false, List.cons_append, List.append_assoc,
        List.nil_append, List.length_cons] at spells low
      obtain ⟨opening, behind, rfl, filling⟩ := of_words_cons spells
      cases levels with
      | zero =>
        rw [List.length_append, List.length_cons] at low
        omega
      | succ levels =>
        obtain ⟨children, _, listed, closing, same⟩ :=
          listed_of_reread each some_ rfl (Nat.le_of_succ_le_succ low) filling
        obtain ⟨place, rest, rfl, left⟩ := of_words_cons closing
        have filled : behind.head ≠ .rightBrace := by
          obtain ⟨token, _, first, starts, _⟩ := intercalate_words_head some_
          rw [first] at filling
          obtain ⟨_, _, rfl, _⟩ := of_words_cons filling
          rintro rfl
          cases starts.endsSelector
        have enough : children.length ≤ behind.length := by
          have bound := length_le_words same
          rw [length_of_words filling, List.length_append, List.length_cons]
          omega
        refine ⟨_, rest, block_of_listed filled listed enough, left, ?_⟩
        simp only [bare_eq, (settled some_).finish_bare same, unemptied]
  · have unnested' : selector.nested = false := by simpa using nested
    rw [unnested'] at spells
    obtain rfl : tokens.words = after := spells
    have emptied := own.unemptied unnested'
    refine ⟨holder, tokens, ?_, rfl, ?_⟩
    · rw [block.eq_def]
      split
      · cases ends
      · cases ends
      · rfl
    · rw [unnested', emptied, own.blockless (.inl unnested')]
      cases holder
      cases unnested
      cases unemptied
      cases childless
      rfl

theorem accepts_segmentWords {selector : Selector} (own : selector.Consistent) (writable : selector.Writable)
    (settled : selector.children ≠ [] → Block.Settled selector.children)
    (each : ∀ child ∈ selector.children, Reread child) (ends : endsSegment after = true) {levels : Nat}
    (low : (selector.segmentWords ++ after).length ≤ levels + 1) :
    Accepts (segment (selectors levels)) (selector.segmentWords ++ after) after fun read =>
      read.bare = ({ selector with negated := false } : Selector).bare := by
  intro tokens spells
  simp only [segmentWords, List.cons_append, List.append_assoc] at spells
  obtain ⟨position, behind, rfl, opening⟩ := of_words_cons spells
  have naming := name_word writable.name position behind
  have low' : (blockWords selector.nested selector.emptyNested (selector.children.map Selector.words) ++ after).length ≤
      levels + 1 := by
    simp only [segmentWords, List.length_cons, List.length_append] at low ⊢
    omega
  have fresh : (named selector.name position).minDepth = none := rfl
  obtain ⟨holder, acting, bounding, act, bounds⟩ := accepts_boundWords fresh rfl own.bounded own.ordered writable.low
    writable.high (opensBound_callWords (opensBound_blockWords ends)) behind opening
  have enough : selector.keyCalls.length + selector.valueCalls.length ≤ acting.length :=
    Nat.le_trans (length_le_callWords _ _) (length_le_of_words act)
  obtain ⟨called, last, calling, ending, same⟩ := accepts_callsWords writable.keyCalls writable.valueCalls
    (endsCalls_blockWords ends) holder enough acting act
  subst bounds
  have parts := same
  simp only [bare_eq, Selector.mk.injEq] at parts
  obtain ⟨_, _, childless, _, _, _, _, unnested, unemptied, _⟩ := parts
  obtain ⟨read, rest, blocking, left, same'⟩ := accepts_blockWords own settled each ends low' unnested unemptied
    (by simpa [named] using childless) last ending
  refine ⟨read, rest, segment_of_parts naming bounding calling blocking, left, same'.trans ?_⟩
  have deep : selector.recursive = selector.name.isAnyDeep :=
    Bool.eq_iff_iff.mpr (own.recursive.trans isAnyDeep_iff.symm)
  simp only [bare_eq, Selector.mk.injEq] at same ⊢
  simp [same, named, deep]


/-! ### Selectors -/

/-- A path of one segment is this segment, whatever its sign. -/
theorem unsignedSelector_of_segment {inside : Parser (List Selector)} {segment : Selector} (negated : Bool)
    (read : Parser.segment inside tokens = .ok (segment, rest)) (some_ : tokens ≠ [])
    (ends : endsSelector rest.words = true) :
    unsignedSelector inside negated tokens = .ok ({ segment with negated }, rest) := by
  obtain ⟨steps, deep⟩ := Nat.exists_eq_succ_of_ne_zero (mt List.length_eq_zero_iff.mp some_)
  rw [unsignedSelector, deep, path_last read ends]
  rfl

theorem accepts_unsignedWords {selector : Selector} (own : selector.Consistent) (writable : selector.Writable)
    (settled : selector.children ≠ [] → Block.Settled selector.children)
    (each : ∀ child ∈ selector.children, Reread child) (ends : endsSelector after = true) {levels : Nat}
    (low : (selector.segmentWords ++ after).length ≤ levels + 1) :
    Accepts (unsignedSelector (selectors levels) selector.negated) (selector.segmentWords ++ after) after fun read =>
      read.bare = selector.bare := by
  intro tokens spells
  obtain ⟨read, rest, reads, left, same⟩ :=
    accepts_segmentWords own writable settled each (endsSegment_of_endsSelector ends) low tokens spells
  have some_ : tokens ≠ [] := by
    obtain ⟨_, _, rfl, _⟩ := of_words_cons spells
    exact List.cons_ne_nil _ _
  refine ⟨_, rest, unsignedSelector_of_segment selector.negated reads some_ (left ▸ ends), left, ?_⟩
  simp only [bare_eq, Selector.mk.injEq] at same ⊢
  simp only [same, and_self]

/-- Whatever is well-formed and can be written is read back from its words. -/
theorem reread_of_writable {selector : Selector} (formed : selector.WellFormed)
    (writable : ∀ below, Within below [selector] → below.Writable) : Reread selector := by
  induction formed with
  | @intro selector own settled _ ih =>
    have parts : selector.Writable := writable selector (.here (List.mem_singleton_self selector))
    have each : ∀ child ∈ selector.children, Reread child :=
      fun child member => ih child member fun below within => writable below (within.onward member)
    intro after levels ends low tokens spells
    rw [words_eq] at low spells
    cases negated : selector.negated with
    | false =>
      rw [negated] at low spells
      have unsigned : tokens.head ≠ .minus := by
        obtain ⟨_, _, rfl, _⟩ := of_words_cons spells
        intro minus
        have names := Name.isPattern_word selector.name
        rw [show selector.name.word = .minus from minus] at names
        cases names
      rw [selector_unsigned unsigned, ← negated]
      exact accepts_unsignedWords own parts settled each ends low tokens spells
    | true =>
      rw [negated] at low spells
      obtain ⟨_, behind, rfl, onward⟩ := of_words_cons spells
      obtain ⟨read, rest, reads, left, same⟩ := accepts_unsignedWords own parts settled each
        ends (Nat.le_of_succ_le low) behind onward
      rw [negated] at reads
      exact ⟨read, rest, reads, left, same⟩

/-! ### Stages -/

theorem accepts_stageWords {block : List Selector} (settled : Block.Settled block)
    (each : ∀ selector ∈ block, Reread selector) {ender : Token} (bars : ender = .pipe ∨ ender = .finish)
    (beyond : List Token) :
    Accepts stage ([Token.comma].intercalate (block.map Selector.words) ++ ender :: beyond) (ender :: beyond)
      fun read => read.map bare = block.map bare := by
  intro tokens spells
  have ends : endsSelector (ender :: beyond) = true ∧ ender ≠ .comma := by
    rcases bars with rfl | rfl <;> exact ⟨rfl, nofun⟩
  have starts : tokens.head.endsSelector = false := by
    obtain ⟨token, _, first, starts, _⟩ := intercalate_words_head settled.ne_nil
    rw [first] at spells
    obtain ⟨_, _, rfl, _⟩ := of_words_cons spells
    exact starts.endsSelector
  have length := length_of_words spells
  rw [List.length_append, List.length_cons] at length
  obtain ⟨levels, deep⟩ := Nat.exists_eq_succ_of_ne_zero (by omega : tokens.length ≠ 0)
  have low : ([Token.comma].intercalate (block.map Selector.words) ++ ender :: beyond).length ≤ levels + 1 := by
    rw [← length_of_words spells, deep]
  obtain ⟨selected, rest, listed, left, same⟩ := listed_of_reread each settled.ne_nil ends.1 low spells
  have unfollowed : rest.head ≠ .comma := by
    obtain ⟨_, _, rfl, _⟩ := of_words_cons left
    exact ends.2
  have enough : selected.length ≤ tokens.length := by
    have bound := length_le_words same
    omega
  exact ⟨_, rest, stage_of_listed starts deep listed unfollowed enough, left, settled.finish_bare same⟩

/-- Blocks are read back as the stages of a filter. -/
theorem staged_of_reread {blocks : List (List Selector)} (settled : ∀ block ∈ blocks, Block.Settled block)
    (each : ∀ block ∈ blocks, ∀ selector ∈ block, Reread selector) (some_ : blocks ≠ [])
    (spells : tokens.words = [Token.pipe].intercalate
      (blocks.map fun block => [Token.comma].intercalate (block.map Selector.words)) ++ [.finish]) :
    ∃ blocks' position, Staged tokens blocks' [⟨.finish, position⟩] ∧
      blocks'.map (List.map bare) = blocks.map (List.map bare) := by
  induction blocks generalizing tokens with
  | nil => exact absurd rfl some_
  | cons block more ih =>
    obtain ⟨own, others⟩ := List.forall_mem_cons.mp settled
    obtain ⟨own', others'⟩ := List.forall_mem_cons.mp each
    cases more with
    | nil =>
      rw [List.map_singleton, List.intercalate_singleton] at spells
      obtain ⟨selected, rest, read, left, same⟩ := accepts_stageWords own own' (.inr rfl) [] tokens spells
      obtain ⟨position, rest, rfl, nothing⟩ := of_words_cons left
      obtain rfl : rest = [] := List.map_eq_nil_iff.mp nothing
      exact ⟨[selected], position, .last read nofun, congrArg ([·]) same⟩
    | cons next more =>
      rw [List.map_cons, List.map_cons, List.intercalate_cons_cons, List.append_assoc, List.append_assoc] at spells
      obtain ⟨selected, _, read, barred, same⟩ := accepts_stageWords own own' (.inl rfl) _ tokens spells
      obtain ⟨_, behind, rfl, onward⟩ := of_words_cons barred
      obtain ⟨blocks', position, staged, same'⟩ := ih others others' (List.cons_ne_nil _ _) onward
      exact ⟨selected :: blocks', position, .bar read staged, congrArg₂ List.cons same same'⟩

end Parser
/-! ### Filters -/

namespace Selector

mutual

/-- The selector without its place, and so for all below it. Its stage stays. -/
def unplaced : Selector → Selector
  | ⟨_, name, children, stage, keyCalls, valueCalls, negated, nested, emptyNested, recursive, low, high⟩ =>
    ⟨.start, name, allUnplaced children, stage, keyCalls.map Call.bare, valueCalls.map Call.bare, negated, nested,
      emptyNested, recursive, low, high⟩

def allUnplaced : List Selector → List Selector
  | [] => []
  | selector :: rest => selector.unplaced :: allUnplaced rest

end

mutual

/-- What a stage carries is all the same but for its places. -/
theorem unplaced_withStage (stage : Nat) :
    ∀ selector : Selector, (selector.withStage stage).unplaced = selector.bare.withStage stage
  | ⟨_, _, children, _, _, _, _, _, _, _, _, _⟩ => by
    rw [withStage, unplaced, bare, withStage, allUnplaced_allWithStage stage children]

theorem allUnplaced_allWithStage (stage : Nat) :
    ∀ selectors : List Selector, allUnplaced (allWithStage stage selectors) = allWithStage stage (bareAll selectors)
  | [] => rfl
  | selector :: rest => by
    rw [allWithStage, allUnplaced, bareAll, allWithStage, unplaced_withStage stage selector,
      allUnplaced_allWithStage stage rest]

end

theorem withStage_of_carried {stage : Nat} {selector : Selector}
    (carried : ∀ below, Within below [selector] → below.stage = stage) : selector.withStage stage = selector := by
  induction selector using of_children with
  | step selector ih =>
    have own : selector.stage = stage := carried selector (.here (List.mem_singleton_self selector))
    have inner : selector.children.map (withStage stage) = selector.children :=
      (List.map_congr_left fun child member => ih child member fun below within =>
        carried below (within.onward member)).trans (List.map_id _)
    rw [withStage_eq, allWithStage_eq_map, inner, ← own]
    cases selector
    rfl

end Selector

namespace Parser
open Selector
variable {selectors : List Selector} {number : Nat}

theorem numbered_unplaced (number : Nat) (blocks : List (List Selector)) :
    (numbered number blocks).map unplaced = numbered number (blocks.map (List.map bare)) := by
  induction blocks generalizing number with
  | nil => rfl
  | cons block rest ih =>
    rw [numbered, List.map_append, ih, List.map_cons, numbered, allWithStage_eq_map, allWithStage_eq_map, List.map_map,
      List.map_map]
    congr 2
    exact funext (unplaced_withStage number)

theorem filter_stage_append (ordered : selectors.Pairwise (·.stage ≤ ·.stage)) (number : Nat) :
    selectors.filter (·.stage == number) ++ selectors.filter (decide <| number + 1 ≤ ·.stage) =
      selectors.filter (decide <| number ≤ ·.stage) := by
  induction selectors with
  | nil => rfl
  | cons selector rest ih =>
    obtain ⟨first, others⟩ := List.pairwise_cons.mp ordered
    rcases Nat.lt_trichotomy selector.stage number with lower | same | higher
    · rw [List.filter_cons_of_neg, List.filter_cons_of_neg, List.filter_cons_of_neg, ih others] <;> simp <;> omega
    · rw [List.filter_cons_of_pos, List.filter_cons_of_neg, List.filter_cons_of_pos, List.cons_append, ih others] <;>
        simp <;> omega
    · have none : rest.filter (·.stage == number) = [] := by
        refine List.filter_eq_nil_iff.mpr fun other member => ?_
        have bound := first other member
        simp only [beq_iff_eq]
        omega
      have all (bound : Nat) (low : bound ≤ selector.stage) : rest.filter (decide <| bound ≤ ·.stage) = rest :=
        List.filter_eq_self.mpr fun other member => by simpa using Nat.le_trans low (first other member)
      rw [List.filter_cons_of_neg, none, List.nil_append, List.filter_cons_of_pos, List.filter_cons_of_pos,
        all _ higher, all _ (Nat.le_of_lt higher)] <;> simp <;> omega

/-- Selectors in the order of their stages are these stages, numbered in turn. -/
theorem numbered_of_ordered (ordered : selectors.Pairwise (·.stage ≤ ·.stage)) (carried : ∀ stage selector,
      Within selector (selectors.filter (·.stage == stage)) → selector.stage = stage) (count : Nat)
    (below : ∀ selector ∈ selectors, selector.stage < number + count) :
    numbered number ((List.range' number count).map fun stage => selectors.filter (·.stage == stage)) =
      selectors.filter (decide <| number ≤ ·.stage) := by
  induction count generalizing number with
  | zero =>
    refine (List.filter_eq_nil_iff.mpr fun selector member => ?_).symm
    simpa using below selector member
  | succ count ih =>
    have own : allWithStage number (selectors.filter (·.stage == number)) = selectors.filter (·.stage == number) := by
      rw [allWithStage_eq_map]
      refine Eq.trans (List.map_congr_left fun selector member => ?_) (List.map_id _)
      refine withStage_of_carried fun below within => ?_
      exact carried number below (within.subset fun _ same => List.mem_singleton.mp same ▸ member)
    have later : numbered (number + 1)
        ((List.range' (number + 1) count).map fun stage => selectors.filter (·.stage == stage)) =
          selectors.filter (decide <| number + 1 ≤ ·.stage) := by
      refine ih fun selector member => ?_
      have bound := below selector member
      omega
    rw [List.range'_succ, List.map_cons, numbered, own, later, filter_stage_append ordered]

end Parser

namespace Tree
open Selector

/-- The words of a filter: stages apart by bars, selectors apart by commas. -/
def words (tree : Tree) : List Token :=
  [Token.pipe].intercalate ((List.range tree.stageCount).map fun stage =>
    [Token.comma].intercalate ((tree.stage stage).map Selector.words))

def text (tree : Tree) : String := String.ofList (Token.text tree.words)

variable {tree : Tree}

theorem mem_stage {stage : Nat} {selector : Selector} : selector ∈ tree.stage stage ↔
    selector ∈ tree.selectors ∧ selector.stage = stage := by
  rw [Tree.stage, List.mem_filter, beq_iff_eq]

theorem within_of_stage {stage : Nat} {selector below : Selector} (member : selector ∈ tree.stage stage)
    (within : Within below [selector]) : Within below tree.selectors :=
  within.subset fun _ same => List.mem_singleton.mp same ▸ (mem_stage.mp member).1

theorem stage_lt_stageCount {selector : Selector} (member : selector ∈ tree.selectors) :
    selector.stage < tree.stageCount := by
  have above (selectors : List Selector) (count : Nat) :
      count ≤ selectors.foldl (fun count selector => max count (selector.stage + 1)) count := by
    induction selectors generalizing count with
    | nil => exact Nat.le_refl _
    | cons first rest ih => exact Nat.le_trans (Nat.le_max_left _ _) (ih _)
  obtain ⟨front, back, split⟩ := List.append_of_mem member
  rw [stageCount, split, List.foldl_append, List.foldl_cons]
  exact Nat.lt_of_lt_of_le (Nat.le_max_right _ _) (above back _)

theorem reads_text (writable : ∀ selector, Within selector tree.selectors → selector.Writable) :
    Reads tree.text.toList tree.words [] := by
  have legible : ∀ token ∈ tree.words, token.Legible := by
    refine legible_of_mem_intercalate .pipe ⟨rfl, nofun⟩ (List.forall_mem_map.mpr fun stage _ => ?_)
    refine legible_of_mem_intercalate .comma ⟨rfl, nofun⟩ (List.forall_mem_map.mpr fun selector member => ?_)
    exact Selector.legible fun below within => writable below (within_of_stage member within)
  rw [text, String.toList_ofList]
  exact FieldSelect.reads_text (fun token member => (legible token member).spelled)
    fun token member => (legible token member).inner

/-- Every well-formed filter whose parts can be written has a text, which is compiled to this filter but for its
places. -/
theorem compile_text (formed : tree.WellFormed) (ordered : tree.selectors.Pairwise (·.stage ≤ ·.stage))
    (writable : ∀ selector, Within selector tree.selectors → selector.Writable) :
    ∃ other, compile tree.text = .ok other ∧ other.selectors.map unplaced = tree.selectors.map unplaced := by
  obtain ⟨tokens, tokenized, spells⟩ := (reads_text writable).tokenize
  have settled : ∀ block ∈ (List.range tree.stageCount).map tree.stage, Block.Settled block :=
    List.forall_mem_map.mpr fun stage inside => (formed.stages stage (List.mem_range.mp inside)).2
  have each : ∀ block ∈ (List.range tree.stageCount).map tree.stage, ∀ selector ∈ block, Parser.Reread selector := by
    refine List.forall_mem_map.mpr fun stage _ selector member => ?_
    exact Parser.reread_of_writable (wellFormed_of_within
      (fun below within => formed.consistent below (within_of_stage member within))
      fun below within => formed.settled below (within_of_stage member within))
      fun below within => writable below (within_of_stage member within)
  have some_ : (List.range tree.stageCount).map tree.stage ≠ [] := by
    have staged := formed.staged
    simp
    omega
  have spells : Tokens.words tokens = [Token.pipe].intercalate (((List.range tree.stageCount).map tree.stage).map
      fun block => [Token.comma].intercalate (block.map Selector.words)) ++ [.finish] := by
    rw [List.map_map]
    exact spells
  obtain ⟨blocks, position, staged, same⟩ := Parser.staged_of_reread settled each some_ spells
  have enough : blocks.length ≤ tokens.length + 1 := by
    have count := congrArg List.length same
    have bound := Parser.length_le_intercalate .pipe (((List.range tree.stageCount).map tree.stage).map
      fun block => [Token.comma].intercalate (block.map Selector.words))
    rw [Tokens.length_of_words spells, List.length_append]
    simp only [List.length_map] at count bound ⊢
    omega
  obtain ⟨other, compiled, made⟩ := compile_of_staged tokenized staged enough
  refine ⟨other, compiled, ?_⟩
  have whole : Parser.numbered 0 ((List.range tree.stageCount).map tree.stage) = tree.selectors := by
    rw [List.range_eq_range']
    refine (Parser.numbered_of_ordered ordered formed.carried tree.stageCount fun selector member => ?_).trans
      (List.filter_eq_self.mpr fun _ _ => rfl)
    rw [Nat.zero_add]
    exact stage_lt_stageCount member
  rw [made.selectors, Parser.numbered_unplaced, same, ← Parser.numbered_unplaced, whole]

theorem compile_text_of_quotes :
    let dropped : Selector := { named (.exact "c") .start with negated := true }
    let deep : Selector := { named .anyDeep .start with minDepth := some 1, maxDepth := some 4 }
    let parent : Selector := { named (.exact "a\"b\\") .start with
      nested := true, children := [dropped, deep], valueCalls := [⟨"v", [.variable "x"], .start⟩],
      keyCalls := [⟨"k", [.literal .null, .literal (.integer (-3))], .start⟩] }
    let tree : Tree := ⟨"", [parent, (named (.exact "d") .start).withStage 1]⟩
    tree.WellFormed ∧ tree.selectors.Pairwise (·.stage ≤ ·.stage) ∧
      (∀ selector, Within selector tree.selectors → selector.Writable) ∧
        ∃ other, compile tree.text = .ok other ∧ other.selectors.map unplaced = tree.selectors.map unplaced := by
  intro dropped deep parent tree
  have alone {selector : Selector} (kept : selector.negated = false) : Block.Settled [selector] :=
    ⟨⟨selector, List.mem_singleton_self selector, kept⟩, List.pairwise_singleton _ _⟩
  have block : Block.Settled [dropped, deep] :=
    ⟨⟨deep, List.mem_cons_of_mem _ List.mem_cons_self, rfl⟩, by simp [Block.Apart, Block.mergeable, named, dropped]⟩
  have dropping : dropped.WellFormed := (wellFormed_named (.exact "c") .start).acting [] [] true
  have deepening : deep.WellFormed := (wellFormed_named .anyDeep .start).withBounds rfl (by simp)
  have holding : parent.WellFormed := ((wellFormed_named (.exact "a\"b\\") .start).withBlock rfl block
    (List.forall_mem_cons.mpr ⟨dropping, List.forall_mem_singleton.mpr deepening⟩)).acting _ _ false
  have made : tree.MadeOf [[parent], [named (.exact "d") .start]] := ⟨rfl, by simp⟩
  have formed : tree.WellFormed := made.wellFormed (List.cons_ne_nil _ _) (List.forall_mem_cons.mpr
    ⟨⟨alone rfl, List.forall_mem_singleton.mpr holding⟩,
      List.forall_mem_singleton.mpr ⟨alone rfl, List.forall_mem_singleton.mpr (wellFormed_named _ _)⟩⟩)
  have ordered : tree.selectors.Pairwise (·.stage ≤ ·.stage) := by simp [tree, parent, named]
  have low : (-3 : Int64) ≠ Int64.minValue := by decide
  have keyed : ∀ call ∈ parent.keyCalls, call.Writable :=
    List.forall_mem_singleton.mpr ⟨rfl, List.forall_mem_cons.mpr ⟨.null, List.forall_mem_singleton.mpr (.integer low)⟩⟩
  have valued : ∀ call ∈ parent.valueCalls, call.Writable :=
    List.forall_mem_singleton.mpr ⟨rfl, List.forall_mem_singleton.mpr (.variable ⟨by decide, List.all_eq_true.mp rfl⟩)⟩
  have writable : ∀ selector, Within selector tree.selectors → selector.Writable := by
    refine forall_within_cons (writable_of_unbounded (.exact _) rfl rfl keyed valued) ?_ ?_
    · refine forall_within_cons ?_ (forall_within_nil _)
        (forall_within_cons ?_ (forall_within_nil _) (forall_within_nil _))
      · exact writable_of_unbounded (.exact "c") rfl rfl (List.forall_mem_nil _) (List.forall_mem_nil _)
      · exact ⟨.anyDeep, by simp [deep], by simp [deep], List.forall_mem_nil _, List.forall_mem_nil _⟩
    · refine forall_within_cons ?_ (forall_within_nil _) (forall_within_nil _)
      exact writable_of_unbounded (.exact "d") rfl rfl (List.forall_mem_nil _) (List.forall_mem_nil _)
  exact ⟨formed, ordered, writable, compile_text formed ordered writable⟩

end Tree

end FieldSelect
