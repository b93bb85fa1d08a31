import FieldSelect.Proofs.Filter.Rereading
import FieldSelect.Proofs.Filter.Runs
import FieldSelect.Proofs.Filter.Siblings

/-! Dotted paths and nests of blocks. Both are the same filter as long as every dot is one of the path. Between digits a
dot is the point of a decimal number, which names no field. -/
namespace FieldSelect

/-- A segment as it is written, without calls and without a block. Digits may be too many for a number. -/
inductive IsSegment (text : String) : Prop where
  | identifier {name : String} (spells : (Token.identifier name).Spells text.toList)
  | quoted {chars : String} (spells : (Token.quoted chars).Spells text.toList)
  | digits (some_ : text.toList ≠ []) (digit : ∀ c ∈ text.toList, c.isDigit = true)

/-- The text of a nested path: every name but the last has the others in a block. -/
def nestedText : List String → String
  | [] => ""
  | [last] => last
  | name :: next :: names => blockText name (nestedText (next :: names))

/-- A dot between both would be the point of a decimal number. -/
def meetAtPoint (first second : String) : Bool := first.toList.all Char.isDigit && startsWithDigit second.toList

/-- The token is a segment, and this is its text. -/
structure Token.IsSegmentOf (token : Token) (text : String) : Prop where
  plain : ∃ key, token.plainName? = some key
  spells : token.Spells text.toList

def nestedWords : List Token → List Token
  | [] => []
  | [last] => [last]
  | name :: next :: names => name :: .leftBrace :: (nestedWords (next :: names) ++ [.rightBrace])

/-! ### Floats -/

/-- A float stands outside parentheses. -/
def exposesFloat : List Token → Bool
  | .float _ :: _ => true
  | .leftParen :: _ => false
  | _ :: rest => exposesFloat rest
  | [] => false

section Floats
variable {token : Token} {front back words : List Token}

theorem exposesFloat_cons (noFloat : ∀ x, token ≠ .float x) (hidden : exposesFloat words = false) :
    exposesFloat (token :: words) = false := by
  cases token with
  | float x => exact absurd rfl (noFloat x)
  | leftParen => rfl
  | _ => exact hidden

theorem exposesFloat_of_cons (noParen : token ≠ .leftParen) (hidden : exposesFloat (token :: words) = false) :
    exposesFloat words = false := by
  cases token with
  | float x => cases hidden
  | leftParen => exact absurd rfl noParen
  | _ => exact hidden

theorem exposesFloat_append (hidden : exposesFloat front = false) (hidden' : exposesFloat back = false) :
    exposesFloat (front ++ back) = false := by
  induction front with
  | nil => exact hidden'
  | cons token front ih =>
    cases token with
    | float x => cases hidden
    | leftParen => rfl
    | _ => exact ih hidden

namespace Grammar

theorem Call.exposesFloat (call : Call words) : exposesFloat (words ++ back) = false := by
  cases call <;> rfl

theorem Chain.exposesFloat (chain : Chain words) : exposesFloat (words ++ back) = false := by
  induction chain <;> simp [*, Call.exposesFloat]

theorem Calls.exposesFloat (calls : Calls words) : FieldSelect.exposesFloat words = false := by
  cases calls with
  | none => rfl
  | key call => exact exposesFloat_cons nofun call.exposesFloat
  | value call => exact exposesFloat_cons nofun call.exposesFloat
  | chained chain => exact exposesFloat_cons nofun chain.exposesFloat

theorem Bound.exposesFloat (bound : Bound words) : FieldSelect.exposesFloat words = false := by
  cases bound <;> rfl

/-- Only arguments of functions can be floats. -/
theorem Derives.exposesFloat {phrase : Phrase} (derived : Derives phrase words) :
    FieldSelect.exposesFloat words = false := by
  induction derived with
  | unblocked | emptied => rfl
  | filled _ ih => exact exposesFloat_cons nofun (exposesFloat_append ih rfl)
  | @segment pattern bound calls block _ names bounded unbounded called _ ih =>
    have noFloat : ∀ x, pattern ≠ .float x := by
      rintro x rfl
      cases names
    have bounds : FieldSelect.exposesFloat bound = false := by
      by_cases opens : pattern = .doubleStar ∧ opensBound (bound ++ (calls ++ block)) = true
      · exact (bounded opens).exposesFloat
      · rw [unbounded opens]
        rfl
    exact exposesFloat_cons noFloat (exposesFloat_append bounds (exposesFloat_append called.exposesFloat ih))
  | last _ ih | kept _ ih | one _ ih => exact ih
  | dropped _ ih => exact exposesFloat_cons nofun ih
  | dot _ _ _ ih ih' | comma _ _ ih ih' => exact exposesFloat_append ih (exposesFloat_cons nofun ih')

theorem Stage.exposesFloat (stage : Stage words) : FieldSelect.exposesFloat words = false := by
  cases stage with
  | empty => rfl
  | filled derived => exact derived.exposesFloat

theorem Stages.exposesFloat (stages : Stages words) : FieldSelect.exposesFloat words = false := by
  induction stages with
  | last stage => exact stage.exposesFloat
  | bar stage _ ih => exact exposesFloat_append stage.exposesFloat (exposesFloat_cons nofun ih)

end Grammar
end Floats

/-- The tokens of a filter have floats in parentheses only. -/
theorem exposesFloat_of_compile {text : String} {tree : Tree} {words : List Token} (compiled : compile text = .ok tree)
    (reads : Reads text.toList words []) : exposesFloat words = false := by
  obtain ⟨read, tokens, blocks, position, reads', spells, staged, _⟩ := compile_ok compiled
  obtain rfl := reads.unique reads'
  obtain ⟨front, whole, stages⟩ := Parser.words_of_staged staged
  obtain ⟨rfl, _⟩ := List.append_inj' (spells.symm.trans whole) rfl
  exact stages.exposesFloat

/-! ### Tokens of segments -/

section Segments
variable {text : String} {segments : List String} {front back rest : List Char} {token : Token} {words : List Token}

theorem digits_of_spells {n : Int64} (spells : (Token.integer n).Spells front) : ∀ c ∈ front, c.isDigit = true := by
  generalize same : Token.integer n = token at spells
  cases spells with
  | sign sign =>
    rw [← same] at sign
    unfold sign? at sign
    split at sign <;> cases sign
  | word => cases isClassOf_iff.mpr same
  | integer _ digit => exact digit
  | _ => cases same

/-- What is behind the text goes on with no token, or it is a dot that is no point. -/
def Breaks (text : String) (back : List Char) : Prop :=
  (∀ c ∈ back.head?, endsToken c = true) ∨
    ∃ after, back = '.' :: after ∧ (text.toList.all Char.isDigit = true → startsWithDigit after = false)

/-- A segment stops at a break. -/
theorem Breaks.stops (breaks : Breaks text back) (plain : ∃ key, token.plainName? = some key)
    (digits : ∀ n, token = .integer n → text.toList.all Char.isDigit = true) : token.stops back = true := by
  rcases breaks with ends | ⟨after, rfl, noPoint⟩
  · cases back with
    | nil => exact stops_nil token
    | cons c back => exact stops_of_endsToken (ends c rfl)
  · obtain ⟨key, plain⟩ := plain
    cases token with
    | identifier => rfl
    | quoted => rfl
    | integer n =>
      have own := noPoint (digits n rfl)
      rw [startsWithDigit, Option.any_eq_false] at own
      simpa [Token.stops, Option.all_eq_true] using own
    | _ => cases plain

theorem Token.IsSegmentOf.stops (own : token.IsSegmentOf text) (breaks : Breaks text back) :
    token.stops back = true := by
  refine breaks.stops own.plain ?_
  rintro n rfl
  exact List.all_eq_true.mpr (digits_of_spells own.spells)

theorem Token.IsSegmentOf.isSegment (own : token.IsSegmentOf text) : IsSegment text := by
  obtain ⟨⟨key, plain⟩, spells⟩ := own
  cases token with
  | identifier => exact .identifier spells
  | quoted => exact .quoted spells
  | integer => exact .digits spells.ne_nil (digits_of_spells spells)
  | _ => cases plain

theorem isSegment_of_spelled (spelled : List.Forall₂ Token.IsSegmentOf words segments) :
    ∀ text ∈ segments, IsSegment text := by
  induction spelled with
  | nil => nofun
  | cons own _ ih => exact List.forall_mem_cons.mpr ⟨own.isSegment, ih⟩

theorem IsSegment.ne_nil (segment : IsSegment text) : text.toList ≠ [] := by
  cases segment with
  | identifier spells => exact spells.ne_nil
  | quoted spells => exact spells.ne_nil
  | digits some_ => exact some_

/-- Where a segment is read it is one token. -/
theorem IsSegment.of_reads (segment : IsSegment text) (breaks : Breaks text back)
    (reads : Reads (text.toList ++ back) words []) :
    ∃ token more, token.IsSegmentOf text ∧ words = token :: more ∧ Reads back more [] := by
  have one {token : Token} (own : token.IsSegmentOf text) :
      ∃ token more, token.IsSegmentOf text ∧ words = token :: more ∧ Reads back more [] := by
    obtain ⟨more, same, behind⟩ := own.spells.of_reads (own.stops breaks) reads
    exact ⟨token, more, own, same, behind⟩
  cases segment with
  | identifier spells => exact one ⟨⟨_, rfl⟩, spells⟩
  | quoted spells => exact one ⟨⟨_, rfl⟩, spells⟩
  | digits some_ digit =>
    have stops : (Token.integer 0).stops back = true := breaks.stops ⟨_, rfl⟩ fun _ _ => List.all_eq_true.mpr digit
    obtain ⟨n, narrowed⟩ := exists_narrow_of_reads some_ digit stops reads
    exact one ⟨⟨_, rfl⟩, .integer some_ digit narrowed⟩

/-- Digits behind a dot are a fraction of the digits before it. -/
theorem float_of_reads (some_ : front ≠ []) (digit : ∀ c ∈ front, c.isDigit = true)
    (point : startsWithDigit back = true) (reads : Reads (front ++ '.' :: back) words []) :
    ∃ x more, words = .float x :: more := by
  obtain ⟨fraction, behind, rfl, digit', ends⟩ := exists_run Char.isDigit back
  have some' : fraction ≠ [] := by
    rintro rfl
    cases behind with
    | nil => cases point
    | cons c behind =>
      have own : c.isDigit = true := point
      simp [ends c rfl] at own
  have spells := Token.Spells.float some_ digit some' digit'
  have stops : (Token.float (fractionFloat front fraction 0)).stops behind = true := by
    simpa [Token.stops, Option.all_eq_true] using ends
  rw [← List.cons_append, ← List.append_assoc] at reads
  obtain ⟨more, same, _⟩ := spells.of_reads stops reads
  exact ⟨_, more, same⟩

/-! ### Texts of paths -/

theorem dottedText_cons (name next : String) (names : List String) :
    (dottedText (name :: next :: names)).toList = name.toList ++ '.' :: (dottedText (next :: names)).toList := by
  simp [dottedText, String.intercalate_cons_cons]

theorem nestedText_cons (name next : String) (names : List String) :
    (nestedText (name :: next :: names)).toList =
      name.toList ++ '\x7b' :: ((nestedText (next :: names)).toList ++ ['\x7d']) := by
  simp [nestedText, blockText]

/-- A dotted path starts like its first segment. -/
theorem startsWithDigit_dottedText (some_ : text.toList ≠ []) (names : List String) :
    startsWithDigit (dottedText (text :: names)).toList = startsWithDigit text.toList := by
  obtain ⟨c, rest, whole⟩ := List.exists_cons_of_ne_nil some_
  cases names with
  | nil => rw [dottedText, String.intercalate_singleton]
  | cons next names =>
    rw [dottedText_cons, whole]
    rfl

theorem breaks_dot {first second : String} (some_ : second.toList ≠ []) (apart : meetAtPoint first second = false)
    (names : List String) : Breaks first ('.' :: (dottedText (second :: names)).toList) := by
  refine .inr ⟨_, rfl, fun digits => ?_⟩
  rw [startsWithDigit_dottedText some_]
  simpa [meetAtPoint, digits] using apart

theorem breaks_leftBrace : Breaks text ('\x7b' :: back) := by
  have ends : endsToken '\x7b' = true := by decide
  exact .inl (by simpa using ends)

theorem ends_rightBrace : ∀ c ∈ ('\x7d' :: back).head?, endsToken c = true := by
  have ends : endsToken '\x7d' = true := by decide
  simpa using ends

/-- The tokens of a dotted path, where no dot is a point. -/
theorem reads_dottedText (spelled : List.Forall₂ Token.IsSegmentOf words segments) (some_ : segments ≠ [])
    (apart : segments.IsChain fun first second => meetAtPoint first second = false) :
    Reads (dottedText segments).toList (words.intersperse .dot) [] := by
  induction spelled with
  | nil => exact absurd rfl some_
  | @cons word text words segments own others ih =>
    cases others with
    | nil =>
      have single := own.spells.reads (stops_nil word) (.done [])
      rw [List.append_nil] at single
      rwa [dottedText, String.intercalate_singleton]
    | @cons next second _ _ own' =>
      rw [List.isChain_cons_cons] at apart
      have breaks := breaks_dot own'.spells.ne_nil apart.1
      rw [dottedText_cons]
      exact own.spells.reads (own.stops (breaks _)) (.sign rfl (by decide) (ih (List.cons_ne_nil _ _) apart.2))

/-- The tokens of a nested path, in front of what goes on with none of them. -/
theorem reads_nestedText (spelled : List.Forall₂ Token.IsSegmentOf words segments) (some_ : segments ≠ [])
    (ends : ∀ c ∈ back.head?, endsToken c = true) {others : List Token} (more : Reads back others rest) :
    Reads ((nestedText segments).toList ++ back) (nestedWords words ++ others) rest := by
  induction spelled generalizing back others with
  | nil => exact absurd rfl some_
  | @cons word text words segments own others_ ih =>
    cases others_ with
    | nil => exact own.spells.reads (own.stops (.inl ends)) more
    | @cons next second =>
      have inner := ih (List.cons_ne_nil _ _) ends_rightBrace (.sign rfl (by decide) more)
      have block := own.spells.reads (own.stops (breaks_leftBrace)) (.sign rfl (by decide) inner)
      simpa [nestedText_cons, nestedWords] using block

/-- Whatever the dotted path of segments is read as, each of them is a token, or a float comes of two. -/
theorem apart_of_reads (each : ∀ text ∈ segments, IsSegment text) (hidden : exposesFloat words = false)
    (reads : Reads (dottedText segments).toList words []) :
    (segments.IsChain fun first second => meetAtPoint first second = false) ∧
      ∃ read, List.Forall₂ Token.IsSegmentOf read segments := by
  induction segments generalizing words with
  | nil => exact ⟨.nil, [], .nil⟩
  | cons text segments ih =>
    obtain ⟨own, others⟩ := List.forall_mem_cons.mp each
    cases segments with
    | nil =>
      rw [dottedText, String.intercalate_singleton, ← List.append_nil text.toList] at reads
      obtain ⟨token, _, named, _, _⟩ := own.of_reads (.inl (by simp)) reads
      exact ⟨.singleton text, [token], .cons named .nil⟩
    | cons next segments =>
      have nonempty := (others next List.mem_cons_self).ne_nil
      rw [dottedText_cons] at reads
      by_cases point : meetAtPoint text next = true
      · rw [meetAtPoint, Bool.and_eq_true, ← startsWithDigit_dottedText nonempty segments] at point
        obtain ⟨x, more, rfl⟩ := float_of_reads own.ne_nil (List.all_eq_true.mp point.1) point.2 reads
        cases hidden
      · have apart : meetAtPoint text next = false := by simpa using point
        obtain ⟨token, more, named, rfl, behind⟩ := own.of_reads (breaks_dot nonempty apart segments) reads
        obtain ⟨more, rfl, after⟩ := of_reads_sign (rfl : sign? '.' = some .dot) behind
        have noParen : token ≠ .leftParen := by
          rintro rfl
          obtain ⟨_, ⟨⟩⟩ := named.plain
        have behind_ : exposesFloat (.dot :: more) = false := exposesFloat_of_cons noParen hidden
        have onward : exposesFloat more = false := behind_
        obtain ⟨chain, read, rest⟩ := ih others onward after
        exact ⟨List.isChain_cons_cons.mpr ⟨apart, chain⟩, token :: read, .cons named rest⟩

/-- Whatever the nested path of segments is read as, each of them is a token. -/
theorem segments_of_reads (each : ∀ text ∈ segments, IsSegment text) (ends : ∀ c ∈ back.head?, endsToken c = true)
    (reads : Reads ((nestedText segments).toList ++ back) words []) :
    (∃ read, List.Forall₂ Token.IsSegmentOf read segments) ∧ ∃ more, Reads back more [] := by
  induction segments generalizing words back with
  | nil => exact ⟨⟨[], .nil⟩, words, reads⟩
  | cons text segments ih =>
    obtain ⟨own, others⟩ := List.forall_mem_cons.mp each
    cases segments with
    | nil =>
      obtain ⟨token, more, named, _, behind⟩ := own.of_reads (.inl ends) reads
      exact ⟨⟨[token], .cons named .nil⟩, more, behind⟩
    | cons next segments =>
      rw [nestedText_cons, List.append_assoc, List.cons_append, List.append_assoc, List.singleton_append] at reads
      obtain ⟨token, more, named, _, behind⟩ := own.of_reads (breaks_leftBrace) reads
      obtain ⟨more, _, behind⟩ := of_reads_sign (rfl : sign? '\x7b' = some .leftBrace) behind
      obtain ⟨⟨read, rest⟩, more, behind⟩ := ih others ends_rightBrace behind
      obtain ⟨more, _, behind⟩ := of_reads_sign (rfl : sign? '\x7d' = some .rightBrace) behind
      exact ⟨⟨token :: read, .cons named rest⟩, more, behind⟩

end Segments

/-! ### Filters of paths -/

namespace Parser
open Tokens Grammar Selector
variable {tokens rest : Tokens} {words after : List Token} {names : List String} {last : String}

theorem closes_of_words (ends : endsSelector tokens.words = true) : tokens.Closes := by
  rcases tokens with _ | ⟨⟨token, position⟩, tokens⟩
  · cases ends
  · exact ⟨token, position, tokens, rfl, ends⟩

/-- A name with a block of one selector. -/
theorem segment_opened {token : Token} {key : String} (plain : token.plainName? = some key) {levels : Nat}
    {child : Selector} {position opening closing : Position} (filled : tokens.head ≠ .rightBrace)
    (read : selector (selectors levels) tokens = .ok (child, ⟨.rightBrace, closing⟩ :: rest))
    (some_ : tokens ≠ []) :
    segment (selectors (levels + 1)) (⟨token, position⟩ :: ⟨.leftBrace, opening⟩ :: tokens) =
      .ok ({ named (.exact key) position with nested := true, children := Block.finish [child] }, rest) := by
  rw [segment_of_plainName? plain]
  exact block_of_listed filled (.one read) (List.length_pos_of_ne_nil some_)

/-- A selector of one segment that starts with a plain name. -/
theorem selector_of_plainName? {inside : Parser (List Selector)} {token : Token} {key : String} {position : Position}
    {read : Selector} (plain : token.plainName? = some key)
    (reads : segment inside (⟨token, position⟩ :: tokens) = .ok (read, rest)) (kept : read.negated = false)
    (ends : endsSelector rest.words = true) : selector inside (⟨token, position⟩ :: tokens) = .ok (read, rest) := by
  have unsigned : head (⟨token, position⟩ :: tokens) ≠ .minus := by
    rintro rfl
    cases plain
  have same : ({ read with negated := false } : Selector) = read := by
    cases read
    cases kept
    rfl
  rw [selector_unsigned unsigned, unsignedSelector_of_segment false reads (List.cons_ne_nil _ _) ends, same]

/-- A nested path is read as its nest of blocks. -/
theorem accepts_nested (plain : words.map Token.plainName? = (names ++ [last]).map some)
    (ends : endsSelector after = true) {levels : Nat} (low : (nestedWords words ++ after).length ≤ levels + 1) :
    Accepts (selector (selectors levels)) (nestedWords words ++ after) after fun read =>
      read.bare = (nestedIn names (named (.exact last) .start)).bare := by
  induction names generalizing words after levels with
  | nil =>
    obtain ⟨word, words, rfl, own, others⟩ := List.map_eq_cons_iff.mp plain
    cases List.map_eq_nil_iff.mp others
    intro tokens spells
    obtain ⟨position, rest, rfl, left⟩ := of_words_cons spells
    have left : rest.words = after := left
    have reads : segment (selectors levels) (⟨word, position⟩ :: rest) = .ok (named (.exact last) position, rest) :=
      segment_last own (closes_of_words (left ▸ ends))
    exact ⟨_, rest, selector_of_plainName? own reads rfl (left ▸ ends), left, bare_named (.exact last) position⟩
  | cons name names ih =>
    obtain ⟨word, words, rfl, own, others⟩ := List.map_eq_cons_iff.mp plain
    obtain ⟨next, words, rfl⟩ : ∃ next more, words = next :: more := by
      cases words with
      | nil => cases names <;> cases others
      | cons next more => exact ⟨next, more, rfl⟩
    intro tokens spells
    simp only [nestedWords, List.cons_append, List.append_assoc, List.nil_append, List.length_cons, List.length_append]
      at spells low
    obtain ⟨position, _, rfl, opened_⟩ := of_words_cons spells
    obtain ⟨opening, behind, rfl, inner⟩ := of_words_cons opened_
    cases levels with
    | zero => omega
    | succ levels =>
      have low : (nestedWords (next :: words) ++ .rightBrace :: after).length ≤ levels + 1 := by
        simp only [List.length_append, List.length_cons]
        omega
      obtain ⟨child, _, read, closing, same⟩ := ih others rfl low behind inner
      obtain ⟨place, rest, rfl, left⟩ := of_words_cons closing
      have starts := Listed.head (.one read)
      have filled : behind.head ≠ .rightBrace := by
        intro brace
        rw [brace] at starts
        cases starts
      have some_ : behind ≠ [] := by
        rintro rfl
        cases starts
      have reads : segment (selectors (levels + 1)) (⟨word, position⟩ :: ⟨.leftBrace, opening⟩ :: behind) =
          .ok ({ named (.exact name) position with nested := true, children := Block.finish [child] }, rest) :=
        segment_opened own filled read some_
      refine ⟨_, rest, selector_of_plainName? own reads rfl (left ▸ ends), left, ?_⟩
      have finished : (Block.finish [child]).map bare =
          (Block.finish [nestedIn names (named (.exact last) .start)]).map bare := by
        rw [Block.finish_bare, Block.finish_bare, List.map_singleton, List.map_singleton, same]
      have unplaced : (named (.exact name) position).bare = (named (.exact name) .start).bare := by simp
      exact bare_withBlock unplaced finished

/-- A dotted path is read as its nest of blocks. -/
theorem accepts_dotted (plain : words.map Token.plainName? = (names ++ [last]).map some)
    (ends : endsSelector after = true) (inside : Parser (List Selector)) :
    Accepts (selector inside) (words.intersperse .dot ++ after) after fun read =>
      read.bare = (nestedIn names (named (.exact last) .start)).bare := by
  intro tokens spells
  obtain ⟨front, rest, rfl, listed, left⟩ := List.map_eq_append_iff.mp spells
  obtain rfl : Tokens.words rest = after := left
  obtain ⟨read, reads, same⟩ := unsignedSelector_names inside false plain listed (closes_of_words ends)
  have unsigned : head (front ++ rest) ≠ .minus := by
    cases words with
    | nil =>
      have count := congrArg List.length plain
      simp at count
    | cons word words =>
      have member : word.plainName? ∈ (names ++ [last]).map some := plain ▸ List.mem_cons_self
      obtain ⟨key, _, own⟩ := List.mem_map.mp member
      obtain ⟨more, first⟩ : ∃ more, (word :: words).intersperse .dot = word :: more := by
        cases words <;> exact ⟨_, rfl⟩
      obtain ⟨_, _, rfl, _⟩ := of_tokens_cons (listed.trans first)
      rintro rfl
      cases own
  exact ⟨read, rest, (selector_unsigned unsigned).trans reads, rfl, same⟩

end Parser

/-- A text whose words are read as one selector is the filter with just this selector. -/
theorem compile_of_accepts {text : String} {words : List Token} {target : Selector} (reads : Reads text.toList words [])
    (accepts : ∀ levels, (words ++ [Token.finish]).length ≤ levels + 1 →
      Parser.Accepts (Parser.selector (Parser.selectors levels)) (words ++ [.finish]) [.finish] fun read =>
        read.bare = target.bare) :
    ∃ tree, compile text = .ok tree ∧
      tree.selectors.map Selector.unplaced = Parser.numbered 0 [(Block.finish [target]).map Selector.bare] := by
  obtain ⟨tokens, tokenized, spells⟩ := reads.tokenize
  have spells : Tokens.words tokens = words ++ [.finish] := spells
  have deep : tokens.length = words.length + 1 := by
    rw [Tokens.length_of_words spells, List.length_append, List.length_singleton]
  obtain ⟨read, rest, selected, left, same⟩ := accepts words.length (by simp) tokens spells
  obtain ⟨position, rest, rfl, nothing⟩ := Tokens.of_words_cons left
  obtain rfl : rest = [] := List.map_eq_nil_iff.mp nothing
  have listed : Parser.Listed (Parser.selectors words.length) tokens [read] [⟨.finish, position⟩] := .one selected
  have stage := Parser.stage_of_listed listed.head deep listed nofun (by simp [deep])
  obtain ⟨tree, compiled, made⟩ := compile_of_staged tokenized (.last stage nofun) (by simp [deep])
  refine ⟨tree, compiled, ?_⟩
  rw [made.selectors, Parser.numbered_unplaced, List.map_singleton, Block.finish_bare, Block.finish_bare,
    List.map_singleton, List.map_singleton, same]

/-- The keys of the segments, the last one apart. -/
theorem exists_names {segments : List String} {words : List Token}
    (spelled : List.Forall₂ Token.IsSegmentOf words segments) (some_ : segments ≠ []) :
    ∃ names last, words.map Token.plainName? = (names ++ [last]).map some := by
  induction spelled with
  | nil => exact absurd rfl some_
  | @cons word text words segments own others ih =>
    obtain ⟨key, plain⟩ := own.plain
    cases others with
    | nil => exact ⟨[], key, by simp [plain]⟩
    | cons =>
      obtain ⟨names, last, same⟩ := ih (List.cons_ne_nil _ _)
      exact ⟨key :: names, last, by rw [List.map_cons, same, plain]; rfl⟩

section Paths
variable {segments : List String}

/-- With a token for each segment the nest of blocks is a filter, and the dotted path is the same one. -/
theorem compile_of_segments {words : List Token} (some_ : segments ≠ [])
    (spelled : List.Forall₂ Token.IsSegmentOf words segments) :
    ∃ selectors, (∃ tree, compile (nestedText segments) = .ok tree ∧ tree.selectors.map Selector.unplaced = selectors) ∧
      ((segments.IsChain fun first second => meetAtPoint first second = false) →
        ∃ tree, compile (dottedText segments) = .ok tree ∧ tree.selectors.map Selector.unplaced = selectors) := by
  obtain ⟨names, last, plain⟩ := exists_names spelled some_
  have nested : Reads (nestedText segments).toList (nestedWords words) [] := by
    have ends : ∀ c ∈ ([] : List Char).head?, endsToken c = true := by simp
    simpa using reads_nestedText spelled some_ ends (.done [])
  refine ⟨_, compile_of_accepts nested fun levels low => Parser.accepts_nested plain rfl low, fun apart => ?_⟩
  exact compile_of_accepts (reads_dottedText spelled some_ apart) fun levels _ => Parser.accepts_dotted plain rfl _

variable (each : ∀ text ∈ segments, IsSegment text)
include each

theorem apart_of_compile {tree : Tree} (compiled : compile (dottedText segments) = .ok tree) :
    (segments.IsChain fun first second => meetAtPoint first second = false) ∧
      ∃ words, List.Forall₂ Token.IsSegmentOf words segments := by
  obtain ⟨words, _, _, _, reads, _⟩ := compile_ok compiled
  exact apart_of_reads each (exposesFloat_of_compile compiled reads) reads

theorem segments_of_compile {tree : Tree} (compiled : compile (nestedText segments) = .ok tree) :
    ∃ words, List.Forall₂ Token.IsSegmentOf words segments := by
  obtain ⟨words, _, _, _, reads, _⟩ := compile_ok compiled
  rw [← List.append_nil (nestedText segments).toList] at reads
  exact (segments_of_reads each (by simp) reads).1

/-- A dotted path of segments is a filter just when the nest of blocks is one and no dot is a point, and both are the
same filter then. -/
theorem compile_dottedText (some_ : segments ≠ []) :
    ((∃ tree, compile (dottedText segments) = .ok tree) ↔ (∃ tree, compile (nestedText segments) = .ok tree) ∧
        segments.IsChain fun first second => meetAtPoint first second = false) ∧
      ∀ tree tree', compile (dottedText segments) = .ok tree → compile (nestedText segments) = .ok tree' →
        tree.selectors.map Selector.unplaced = tree'.selectors.map Selector.unplaced := by
  refine ⟨⟨?_, ?_⟩, ?_⟩
  · rintro ⟨tree, compiled⟩
    obtain ⟨chain, words, spelled⟩ := apart_of_compile each compiled
    obtain ⟨_, ⟨nested, compiled, _⟩, _⟩ := compile_of_segments some_ spelled
    exact ⟨⟨nested, compiled⟩, chain⟩
  · rintro ⟨⟨tree, compiled⟩, chain⟩
    obtain ⟨words, spelled⟩ := segments_of_compile each compiled
    obtain ⟨_, _, dotted⟩ := compile_of_segments some_ spelled
    obtain ⟨tree, compiled, _⟩ := dotted chain
    exact ⟨tree, compiled⟩
  · intro tree tree' compiled compiled'
    obtain ⟨chain, words, spelled⟩ := apart_of_compile each compiled
    obtain ⟨selectors, ⟨nested, same, own⟩, dotted⟩ := compile_of_segments some_ spelled
    obtain ⟨other, same', own'⟩ := dotted chain
    cases compiled.symm.trans same'
    cases compiled'.symm.trans same
    rw [own, own']

end Paths

theorem compile_dottedText_of_quoted :
    (∀ text ∈ ["2", "'b c'", "a"], IsSegment text) ∧ ∃ tree, compile (dottedText ["2", "'b c'", "a"]) = .ok tree := by
  have number : (Token.integer 2).Spells ['2'] := .integer (by simp) (by simp) (by decide)
  have quoted : (Token.quoted "b c").Spells ['\'', 'b', ' ', 'c', '\''] := .quoted (.inr rfl) rfl
  have word : (Token.ofWord ['a']).Spells ['a'] := .word rfl (List.forall_mem_singleton.mpr rfl)
  have spelled : List.Forall₂ Token.IsSegmentOf [.integer 2, .quoted "b c", .identifier "a"] ["2", "'b c'", "a"] :=
    .cons ⟨⟨_, rfl⟩, number⟩ (.cons ⟨⟨_, rfl⟩, quoted⟩ (.cons ⟨⟨_, rfl⟩, word⟩ .nil))
  have each := isSegment_of_spelled spelled
  obtain ⟨_, ⟨tree, nested, _⟩, _⟩ := compile_of_segments (List.cons_ne_nil _ _) spelled
  have apart : ["2", "'b c'", "a"].IsChain fun first second => meetAtPoint first second = false := by
    decide +kernel
  exact ⟨each, (compile_dottedText each (List.cons_ne_nil _ _)).1.mpr ⟨⟨tree, nested⟩, apart⟩⟩

/-- The dot of a path becomes the point of a number. -/
theorem compile_point : (∀ text ∈ ["1", "2"], IsSegment text) ∧
    (∃ tree, compile (nestedText ["1", "2"]) = .ok tree) ∧ ∀ tree, compile (dottedText ["1", "2"]) ≠ .ok tree := by
  have one : (Token.integer 1).Spells ['1'] := .integer (by simp) (by simp) (by decide)
  have two : (Token.integer 2).Spells ['2'] := .integer (by simp) (by simp) (by decide)
  have spelled : List.Forall₂ Token.IsSegmentOf [.integer 1, .integer 2] ["1", "2"] :=
    .cons ⟨⟨_, rfl⟩, one⟩ (.cons ⟨⟨_, rfl⟩, two⟩ .nil)
  have each := isSegment_of_spelled spelled
  obtain ⟨_, ⟨tree, nested, _⟩, _⟩ := compile_of_segments (List.cons_ne_nil _ _) spelled
  refine ⟨each, ⟨tree, nested⟩, fun tree compiled => ?_⟩
  have point : meetAtPoint "1" "2" = true := by decide +kernel
  have apart := (List.isChain_cons_cons.mp (apart_of_compile each compiled).1).1
  rw [point] at apart
  cases apart

end FieldSelect
