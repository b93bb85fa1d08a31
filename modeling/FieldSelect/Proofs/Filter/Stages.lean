import FieldSelect.Proofs.Filter.Listing
import FieldSelect.Proofs.Filter.Scanning

/-! The stages of a filter text, and two filters with a bar between them. -/
namespace FieldSelect
open Selector

namespace Parser
variable {front : Tokens} {token : Token} {read : List Token}

theorem of_tokens_cons (listed : front.map (·.token) = token :: read) :
    ∃ position after, front = ⟨token, position⟩ :: after ∧ after.map (·.token) = read := by
  obtain ⟨⟨_, position⟩, after, rfl, rfl, rest⟩ := List.map_eq_cons_iff.mp listed
  exact ⟨position, after, rfl, rest⟩

theorem of_tokens_concat (listed : front.map (·.token) = read ++ [token]) :
    ∃ before position, front = before ++ [⟨token, position⟩] ∧ before.map (·.token) = read := by
  obtain ⟨before, last, rfl, spells, ended⟩ := List.map_eq_append_iff.mp listed
  obtain ⟨position, after, rfl, nothing⟩ := of_tokens_cons ended
  cases List.map_eq_nil_iff.mp nothing
  exact ⟨before, position, rfl, spells⟩

end Parser

section Spelled
variable {swap : String → Tokens → Tokens → Prop} {back tokens others front front' : Tokens} {read : List Token}
  (inner : ∀ token ∈ read, token ≠ .finish)

include inner

/-- The same tokens may stand in front of kindred ones. -/
theorem Tokens.Akin.behind (first : front.map (·.token) = read) (second : front'.map (·.token) = read) {opens : Bool}
    (akin : Akin swap back (read.foldl (fun _ token => token.opensList) opens) tokens others) :
    Akin swap back opens (front ++ tokens) (front' ++ others) := by
  induction read generalizing front front' opens with
  | nil =>
    cases List.map_eq_nil_iff.mp first
    cases List.map_eq_nil_iff.mp second
    exact akin
  | cons token read ih =>
    obtain ⟨own, others⟩ := List.forall_mem_cons.mp inner
    obtain ⟨position, _, rfl, left⟩ := Parser.of_tokens_cons first
    obtain ⟨place, _, rfl, right⟩ := Parser.of_tokens_cons second
    exact .cons own position place (ih others left right akin)

theorem Tokens.Akin.of_tokens (first : tokens.map (·.token) = read ++ [.finish]) (second : front.map (·.token) = read)
    {opens : Bool} : Akin swap back opens tokens (front ++ back) := by
  obtain ⟨before, position, rfl, same⟩ := Parser.of_tokens_concat first
  exact .behind inner same second (.finish position)

end Spelled

namespace Parser
open Tokens
variable {swap : String → Tokens → Tokens → Prop} {back tokens others rest : Tokens} {block : List Selector}
  {blocks more : List (List Selector)} {number : Nat}

theorem stage_ne_nil (read : stage tokens = .ok (block, rest)) : block ≠ [] := (yields_stage _ _ _ read).1.ne_nil

/-- Tokens read as stages, one block of selectors each, up to what no bar follows. -/
inductive Staged : Tokens → List (List Selector) → Tokens → Prop where
  | last {tokens : Tokens} {block : List Selector} {rest : Tokens} (read : stage tokens = .ok (block, rest))
      (unbarred : ∀ position behind, rest ≠ ⟨.pipe, position⟩ :: behind) : Staged tokens [block] rest
  | bar {tokens : Tokens} {block : List Selector} {position : Position} {behind : Tokens}
      {blocks : List (List Selector)} {rest : Tokens} (read : stage tokens = .ok (block, ⟨.pipe, position⟩ :: behind))
      (others : Staged behind blocks rest) : Staged tokens (block :: blocks) rest

/-- The selectors of several stages, numbered in turn. -/
def numbered : Nat → List (List Selector) → List Selector
  | _, [] => []
  | number, block :: rest => allWithStage number block ++ numbered (number + 1) rest

/-- What holds of all selectors, and of each of them in whatever stage, holds of them when they are numbered. -/
theorem forall_mem_numbered {P : Selector → Prop} (moved : ∀ selector stage, P selector → P (withStage stage selector))
    (all : ∀ block ∈ blocks, ∀ selector ∈ block, P selector) : ∀ selector ∈ numbered number blocks, P selector := by
  induction blocks generalizing number with
  | nil => nofun
  | cons block rest ih =>
    obtain ⟨own, others⟩ := List.forall_mem_cons.mp all
    intro selector member
    rcases List.mem_append.mp member with first | later
    · rw [allWithStage_eq_map] at first
      obtain ⟨before, present, rfl⟩ := List.mem_map.mp first
      exact moved before number (own before present)
    · exact ih others selector later

theorem staged_of_stages {steps : Nat} {selected : List Selector}
    (read : stages steps number tokens = .ok (selected, rest)) :
    ∃ blocks, Staged tokens blocks rest ∧ selected = numbered number blocks := by
  induction steps generalizing number tokens selected with
  | zero => cases read
  | succ steps ih =>
    rw [stages] at read
    obtain ⟨⟨block, behind⟩, first, read⟩ := exists_of_bind_eq_ok read
    dsimp only at read
    split at read
    · obtain ⟨⟨more, left⟩, others, read⟩ := exists_of_bind_eq_ok read
      cases read
      obtain ⟨blocks, staged, rfl⟩ := ih others
      exact ⟨block :: blocks, .bar first staged, rfl⟩
    · rename_i unbarred
      cases read
      exact ⟨[block], .last first unbarred, by simp [numbered]⟩

theorem Staged.stages {steps : Nat} (staged : Staged tokens blocks rest) (enough : blocks.length ≤ steps)
    (number : Nat) : Parser.stages steps number tokens = .ok (numbered number blocks, rest) := by
  induction staged generalizing steps number with
  | @last tokens block rest read unbarred =>
    cases steps with
    | zero => cases enough
    | succ steps =>
      rw [Parser.stages, read]
      simp only [bind, Except.bind]
      simp [numbered, pure, Except.pure]
  | bar read _ ih =>
    cases steps with
    | zero => cases enough
    | succ steps =>
      rw [Parser.stages, read]
      simp only [bind, Except.bind, ih (Nat.le_of_succ_le_succ enough) (number + 1)]
      rfl

theorem Staged.ne_nil (staged : Staged tokens blocks rest) : ∀ block ∈ blocks, block ≠ [] := by
  induction staged with
  | last read _ => simpa using stage_ne_nil read
  | bar read _ ih => exact List.forall_mem_cons.mpr ⟨stage_ne_nil read, ih⟩

theorem carried_stage (closes : back.Closes) (outer : back.head = .pipe ∨ back.head = .finish)
    (swappable : Swappable swap) (akin : Akin swap back true tokens others) :
    Carried swap back (fun selectors others => selectors.map bare = others.map bare) (tokens.length + 1)
      (others.length + 1) (stage tokens) (stage others) := by
  have ended : ∀ position place {rest others : Tokens}, Akin swap back true rest others →
      Carried swap back (fun selectors others => selectors.map bare = others.map bare) (rest.length + 1)
        (others.length + 1) (return ([named .anyDeep position], rest)) (return ([named .anyDeep place], others)) := by
    intro position place rest others akin
    exact .pure (by simp) akin (Nat.lt_succ_self _) (Nat.lt_succ_self _)
  have single : back.head ≠ .comma := by
    rcases outer with same | same <;> rw [same] <;> nofun
  have selecting : Carried swap back (fun selectors others => selectors.map bare = others.map bare) (tokens.length + 1)
      (others.length + 1) (selectors tokens.length tokens >>= fun read => return (Block.finish read.1, read.2))
      (selectors others.length others >>= fun read => return (Block.finish read.1, read.2)) := by
    refine (carried_selectors closes swappable single akin (Nat.le_refl _) (Nat.le_refl _)).bind
      fun selected selected' rest others finished akin short short' => ?_
    exact .pure finished akin (Nat.lt_succ_of_lt short) (Nat.lt_succ_of_lt short')
  have whole := akin
  cases akin with
  | finish position =>
    have empty := ended position back.position whole
    obtain ⟨ender, place, beyond, rfl, _⟩ := closes
    rcases outer with barred | finished
    · cases barred
      exact empty
    · cases finished
      exact empty
  | swapped => exact selecting
  | @cons _ token inner position place rest others akin =>
    cases token with
    | pipe => exact ended position place whole
    | finish => exact absurd rfl inner
    | _ => exact selecting

/-- What stands behind a filter: its end, or a bar and further stages. -/
inductive Continues : Tokens → List (List Selector) → Tokens → Prop where
  | ended (place : Position) : Continues [⟨.finish, place⟩] [] [⟨.finish, place⟩]
  | barred (place : Position) {behind : Tokens} {blocks : List (List Selector)} {rest : Tokens}
      (staged : Staged behind blocks rest) : Continues (⟨.pipe, place⟩ :: behind) blocks rest

/-- The stages of a filter are read the same wherever it stands, with parts swapped, and those behind it follow. -/
theorem Staged.continues {position : Position} (staged : Staged tokens blocks [⟨.finish, position⟩])
    (swappable : Swappable swap) (akin : Akin swap back true tokens others) (continues : Continues back more rest) :
    ∃ blocks', Staged others (blocks' ++ more) rest ∧
      blocks.map (List.map bare) = blocks'.map (List.map bare) ∧ blocks'.length + back.length ≤ others.length + 1 := by
  have closes : back.Closes := by
    cases continues <;> exact ⟨_, _, _, rfl, rfl⟩
  have outer : back.head = .pipe ∨ back.head = .finish := by
    cases continues
    · exact .inr rfl
    · exact .inl rfl
  generalize finished : [(⟨.finish, position⟩ : Spanned)] = left at staged
  induction staged generalizing others with
  | @last tokens block left read unbarred =>
    subst finished
    obtain ⟨block', others', read', same, akin', _, short⟩ := carried_stage closes outer swappable akin block _ read
    have single : [block].map (List.map bare) = [block'].map (List.map bare) :=
      congrArg (fun block => [block]) same
    cases akin' with
    | cons inner => exact absurd rfl inner
    | finish =>
      refine ⟨[block'], ?_, single, by rw [List.length_singleton]; omega⟩
      cases continues with
      | ended place => exact .last read' nofun
      | barred place staged => exact .bar read' staged
  | @bar tokens block position' behind blocks left read _ ih =>
    obtain ⟨block', others', read', same, akin', _, short⟩ := carried_stage closes outer swappable akin block _ read
    cases akin' with
    | @cons _ _ _ _ place _ others' akin' =>
      obtain ⟨blocks', staged', same', bound⟩ := ih akin' finished
      refine ⟨block' :: blocks', .bar read' staged', ?_, ?_⟩
      · rw [List.map_cons, List.map_cons, same, same']
      · simp only [List.length_cons] at short ⊢
        omega

theorem Staged.left (staged : Staged tokens blocks rest) (akin : Akin noSwap back true tokens others)
    (closes : back.Closes) (outer : back.head = .pipe ∨ back.head = .finish) :
    ∃ left, Akin noSwap back true rest left := by
  induction staged generalizing others with
  | last read _ =>
    obtain ⟨_, left, _, _, akin', _⟩ := carried_stage closes outer swappable_noSwap akin _ _ read
    exact ⟨left, akin'⟩
  | bar read _ ih =>
    obtain ⟨_, _, _, _, akin', _⟩ := carried_stage closes outer swappable_noSwap akin _ _ read
    cases akin' with
    | cons _ _ _ akin' => exact ih akin'

/-- Only the end can stand where the end is expected. -/
theorem finish_of_expect {opens : Bool} (akin : Akin swap back opens tokens others) {read : Unit}
    (ending : expect .finish tokens = .ok (read, rest)) : ∃ position, tokens = [⟨.finish, position⟩] := by
  cases akin with
  | finish position => exact ⟨position, rfl⟩
  | swapped => cases ending
  | @cons _ token inner =>
    rw [expect] at ending
    split at ending
    · rename_i sign
      cases token <;> first | exact absurd rfl inner | cases sign
    · cases ending

/-- A filter is read as stages that use up its tokens. -/
theorem staged_of_filter {read : List Token} (inner : ∀ token ∈ read, token ≠ .finish)
    (listed : tokens.map (·.token) = read ++ [.finish]) {selected : List Selector}
    (filtered : filter tokens = .ok selected) :
    ∃ blocks position, Staged tokens blocks [⟨.finish, position⟩] ∧ selected = numbered 0 blocks := by
  rw [filter] at filtered
  obtain ⟨⟨staged, rest⟩, reading, filtered⟩ := exists_of_bind_eq_ok filtered
  obtain ⟨⟨_, _⟩, ending, filtered⟩ := exists_of_bind_eq_ok filtered
  cases filtered
  obtain ⟨blocks, staged, rfl⟩ := staged_of_stages reading
  have own : Akin noSwap [⟨.finish, .start⟩] true tokens (tokens.dropLast ++ [⟨.finish, .start⟩]) := by
    refine .of_tokens inner listed ?_
    rw [List.map_dropLast, listed, List.dropLast_concat]
  obtain ⟨left, akin⟩ := staged.left own ⟨.finish, .start, [], rfl, rfl⟩ (.inr rfl)
  obtain ⟨position, rfl⟩ := finish_of_expect akin ending
  exact ⟨blocks, position, staged, rfl⟩

theorem Staged.filter {place : Position} (staged : Staged tokens blocks [⟨.finish, place⟩])
    (enough : blocks.length ≤ tokens.length + 1) : Parser.filter tokens = .ok (numbered 0 blocks) := by
  rw [Parser.filter, staged.stages enough 0]
  rfl

end Parser

/-- The tree has these blocks as its stages, and none of them is empty. -/
structure Tree.MadeOf (tree : Tree) (blocks : List (List Selector)) : Prop where
  selectors : tree.selectors = Parser.numbered 0 blocks
  ne_nil : ∀ block ∈ blocks, block ≠ []

namespace Parser
variable {number : Nat} {blocks : List (List Selector)}

theorem stage_allWithStage {stage : Nat} {selectors : List Selector} {selector : Selector}
    (member : selector ∈ allWithStage stage selectors) : selector.stage = stage := by
  rw [allWithStage_eq_map] at member
  obtain ⟨before, _, rfl⟩ := List.mem_map.mp member
  cases before
  rfl

theorem stage_numbered {selector : Selector} (member : selector ∈ numbered number blocks) :
    number ≤ selector.stage ∧ selector.stage < number + blocks.length := by
  induction blocks generalizing number with
  | nil => cases member
  | cons block rest ih =>
    rw [List.length_cons]
    rcases List.mem_append.mp member with own | later
    · have stage := stage_allWithStage own
      omega
    · have bounds := ih later
      omega

/-- A stage is found by its number. -/
theorem filter_numbered {index : Nat} (inside : index < blocks.length) :
    (numbered number blocks).filter (fun selector => selector.stage == number + index) =
      allWithStage (number + index) blocks[index] := by
  induction blocks generalizing number index with
  | nil => cases inside
  | cons block rest ih =>
    rw [numbered, List.filter_append]
    cases index with
    | zero =>
      have own : (allWithStage number block).filter (fun selector => selector.stage == number + 0) =
          allWithStage number block :=
        List.filter_eq_self.mpr fun selector member => by simp [stage_allWithStage member]
      have later : (numbered (number + 1) rest).filter (fun selector => selector.stage == number + 0) = [] := by
        refine List.filter_eq_nil_iff.mpr fun selector member => ?_
        have bounds := stage_numbered member
        simp only [Nat.add_zero, beq_iff_eq]
        omega
      rw [own, later, List.append_nil]
      rfl
    | succ index =>
      have own : (allWithStage number block).filter (fun selector => selector.stage == number + (index + 1)) = [] := by
        refine List.filter_eq_nil_iff.mpr fun selector member => ?_
        simp only [stage_allWithStage member, beq_iff_eq]
        omega
      have inside : index < rest.length := Nat.lt_of_succ_lt_succ inside
      have later : (numbered (number + 1) rest).filter (fun selector => selector.stage == number + 1 + index) =
          allWithStage (number + 1 + index) rest[index] := ih inside
      rw [own, List.nil_append, List.getElem_cons_succ, show number + (index + 1) = number + 1 + index by omega]
      exact later

theorem foldl_max_stage {stage : Nat} {selectors : List Selector} (nonempty : selectors ≠ [])
    (same : ∀ selector ∈ selectors, selector.stage = stage) (count : Nat) (le : count ≤ stage + 1) :
    selectors.foldl (fun count selector => max count (selector.stage + 1)) count = stage + 1 := by
  induction selectors generalizing count with
  | nil => exact absurd rfl nonempty
  | cons selector rest ih =>
    have own : max count (selector.stage + 1) = stage + 1 := by
      rw [same selector List.mem_cons_self]
      omega
    rw [List.foldl_cons, own]
    by_cases last : rest = []
    · rw [last, List.foldl_nil]
    · exact ih last (fun selector member => same selector (List.mem_cons_of_mem _ member)) _ (Nat.le_refl _)

theorem foldl_max_numbered (nonempty : ∀ block ∈ blocks, block ≠ []) (some_ : blocks ≠ []) (count : Nat)
    (le : count ≤ number + 1) :
    (numbered number blocks).foldl (fun count selector => max count (selector.stage + 1)) count =
      number + blocks.length := by
  induction blocks generalizing number count with
  | nil => exact absurd rfl some_
  | cons block rest ih =>
    have own : (allWithStage number block).foldl (fun count selector => max count (selector.stage + 1)) count =
        number + 1 := by
      refine foldl_max_stage ?_ (fun _ => stage_allWithStage) count le
      rw [allWithStage_eq_map, ne_eq, List.map_eq_nil_iff]
      exact nonempty block List.mem_cons_self
    rw [numbered, List.foldl_append, own]
    by_cases last : rest = []
    · rw [last]
      rfl
    · rw [ih (fun block member => nonempty block (List.mem_cons_of_mem _ member)) last _ (by omega), List.length_cons]
      omega

end Parser

namespace Tree.MadeOf
variable {tree : Tree} {blocks : List (List Selector)}

theorem stageCount (made : tree.MadeOf blocks) : tree.stageCount = blocks.length := by
  rw [Tree.stageCount, made.selectors]
  by_cases empty : blocks = []
  · rw [empty]
    rfl
  · rw [Parser.foldl_max_numbered made.ne_nil empty 0 (by omega), Nat.zero_add]

theorem stage (made : tree.MadeOf blocks) {index : Nat} (inside : index < blocks.length) :
    tree.stage index = allWithStage index blocks[index] := by
  have found : (Parser.numbered 0 blocks).filter (fun selector => selector.stage == 0 + index) =
      allWithStage (0 + index) blocks[index] := Parser.filter_numbered inside
  rw [Nat.zero_add] at found
  rw [Tree.stage, made.selectors, found]

theorem stage_of_le (made : tree.MadeOf blocks) {index : Nat} (beyond : blocks.length ≤ index) :
    tree.stage index = [] := by
  rw [Tree.stage, made.selectors]
  refine List.filter_eq_nil_iff.mpr fun selector member => ?_
  have bounds := Parser.stage_numbered member
  simp only [beq_iff_eq]
  omega

end Tree.MadeOf

/-- What a text is that compiles: a run of tokens, and stages that use them up. -/
theorem compile_ok {text : String} {tree : Tree} (compiled : compile text = .ok tree) :
    ∃ (read : List Token) (tokens : Tokens) (blocks : List (List Selector)) (position : Position),
      Reads text.toList read [] ∧ tokens.map (·.token) = read ++ [.finish] ∧
        Parser.Staged tokens blocks [⟨.finish, position⟩] ∧ tree.MadeOf blocks := by
  rw [compile] at compiled
  obtain ⟨tokens, tokenized, compiled⟩ := exists_of_bind_eq_ok compiled
  obtain ⟨selectors, filtered, compiled⟩ := exists_of_bind_eq_ok compiled
  cases compiled
  cases scanned : tokenize text with
  | error error =>
    rw [scanned] at tokenized
    cases tokenized
  | ok spanned =>
    rw [scanned] at tokenized
    cases tokenized
    obtain ⟨read, reads, listed⟩ := tokenize_ok scanned
    obtain ⟨blocks, position, staged, rfl⟩ := Parser.staged_of_filter reads.ne_finish listed filtered
    exact ⟨read, tokens, blocks, position, reads, listed, staged, rfl, staged.ne_nil⟩

theorem Reads.unique {text : String} {read read' : List Token} (reads : Reads text.toList read [])
    (reads' : Reads text.toList read' []) : read = read' := by
  obtain ⟨spanned, tokenized, same⟩ := reads.tokenize
  obtain ⟨spanned', tokenized', same'⟩ := reads'.tokenize
  cases tokenized.symm.trans tokenized'
  exact List.append_cancel_right (same.symm.trans same')

/-- Stages that use up the tokens of a text make it a filter. -/
theorem compile_of_staged {text : String} {tokens : Tokens} (tokenized : tokenize text = .ok tokens)
    {blocks : List (List Selector)} {position : Position} (staged : Parser.Staged tokens blocks [⟨.finish, position⟩])
    (enough : blocks.length ≤ tokens.length + 1) : ∃ tree, compile text = .ok tree ∧ tree.MadeOf blocks := by
  refine ⟨⟨text, Parser.numbered 0 blocks⟩, ?_, rfl, staged.ne_nil⟩
  rw [compile, tokenized]
  simp only [Except.mapError, bind, Except.bind, staged.filter enough]
  rfl

/-- The trees have the same stages, up to places. -/
def Tree.Alike (tree other : Tree) : Prop :=
  ∃ blocks blocks', tree.MadeOf blocks ∧ other.MadeOf blocks' ∧ blocks.map (List.map bare) = blocks'.map (List.map bare)

/-- Where parts of a filter are swapped, another filter comes out that is like it. -/
theorem compile_swapped {swap : String → Tokens → Tokens → Prop} (swappable : Parser.Swappable swap)
    {text other : String} {read read' : List Token} (reads : Reads text.toList read [])
    (reads' : Reads other.toList read' []) (akin : ∀ (front front' : Tokens) (position place : Position),
      front.map (·.token) = read → front'.map (·.token) = read' → Tokens.Akin swap [⟨.finish, place⟩] true
        (front ++ [⟨.finish, position⟩]) (front' ++ [⟨.finish, place⟩]))
    {tree : Tree} (compiled : compile text = .ok tree) : ∃ tree', compile other = .ok tree' ∧ tree.Alike tree' := by
  obtain ⟨read, tokens, blocks, position, again, listed, staged, made⟩ := compile_ok compiled
  cases again.unique reads
  obtain ⟨spanned, tokenized, listed'⟩ := reads'.tokenize
  obtain ⟨front, position, rfl, spells⟩ := Parser.of_tokens_concat listed
  obtain ⟨front', place, rfl, spells'⟩ := Parser.of_tokens_concat listed'
  obtain ⟨blocks', staged', same, count⟩ :=
    staged.continues swappable (akin front front' position place spells spells') (.ended place)
  rw [List.append_nil] at staged'
  rw [List.length_singleton] at count
  obtain ⟨tree', compiled', made'⟩ := compile_of_staged tokenized staged' (by omega)
  exact ⟨tree', compiled', blocks, blocks', made, made', same⟩

/-- Two filters that compile make one with a bar between them, whose stages are theirs in turn, up to places
and numbers. -/
theorem compile_bar {text other : String} {tree tree' : Tree} (compiled : compile text = .ok tree)
    (compiled' : compile other = .ok tree') :
    ∃ blocks blocks' together, tree.MadeOf blocks ∧ tree'.MadeOf blocks' ∧
      ∃ whole : Tree, compile (text ++ "|" ++ other) = .ok whole ∧ whole.MadeOf together ∧
        together.map (List.map bare) = (blocks ++ blocks').map (List.map bare) := by
  obtain ⟨read, tokens, blocks, position, reads, listed, staged, made⟩ := compile_ok compiled
  obtain ⟨read', tokens', blocks', position', reads', listed', staged', made'⟩ := compile_ok compiled'
  have bar : Reads ('|' :: other.toList) (.pipe :: read') [] := .token (by decide) rfl reads'
  have all : Reads (text ++ "|" ++ other).toList (read ++ .pipe :: read') [] := by
    have stop : ∀ c ∈ ('|' :: other.toList).head?, endsToken c = true := by
      rintro _ ⟨⟩
      decide
    simpa using (reads.before stop).append bar
  obtain ⟨spanned, tokenized, same⟩ := all.tokenize
  rw [List.append_assoc, List.cons_append] at same
  obtain ⟨front, behind, rfl, sameFront, sameBehind⟩ := List.map_eq_append_iff.mp same
  obtain ⟨place, after, rfl, sameAfter⟩ := Parser.of_tokens_cons sameBehind
  obtain ⟨second, place', rfl, sameSecond⟩ := Parser.of_tokens_concat sameAfter
  -- The second filter is read up to the end, and the first one up to the bar in front of it.
  have akin' : Tokens.Akin Parser.noSwap [⟨.finish, place'⟩] true tokens' (second ++ [⟨.finish, place'⟩]) :=
    .of_tokens reads'.ne_finish listed' sameSecond
  obtain ⟨parts', last, bare', bound'⟩ := staged'.continues Parser.swappable_noSwap akin' (.ended place')
  rw [List.append_nil] at last
  have akin : Tokens.Akin Parser.noSwap (⟨.pipe, place⟩ :: (second ++ [⟨.finish, place'⟩])) true tokens
      (front ++ ⟨.pipe, place⟩ :: (second ++ [⟨.finish, place'⟩])) :=
    .of_tokens reads.ne_finish listed sameFront
  obtain ⟨parts, whole, bare_, bound⟩ := staged.continues Parser.swappable_noSwap akin (.barred place last)
  simp only [List.length_append, List.length_cons, List.length_nil] at bound bound'
  have enough : (parts ++ parts').length ≤
      (front ++ ⟨.pipe, place⟩ :: (second ++ [⟨.finish, place'⟩]) : Tokens).length + 1 := by
    simp only [List.length_append, List.length_cons, List.length_nil]
    omega
  obtain ⟨tree, compiledBoth, madeBoth⟩ := compile_of_staged tokenized whole enough
  refine ⟨blocks, blocks', parts ++ parts', made, made', tree, compiledBoth, madeBoth, ?_⟩
  rw [List.map_append, List.map_append, bare_, bare']

end FieldSelect
