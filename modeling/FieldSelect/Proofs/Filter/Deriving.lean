import FieldSelect.Proofs.Filter.Arguments

/-! Whatever is read of a filter is a phrase of its grammar. -/
namespace FieldSelect

namespace Parser
open Tokens Grammar
variable {tokens rest : Tokens}

theorem isCall_eq (tokens : Tokens) : isCall tokens = opensCall tokens.words := by
  unfold isCall
  split
  · rfl
  · rename_i other
    rcases tokens with _ | ⟨⟨token, position⟩, _ | ⟨⟨token', position'⟩, tokens⟩⟩
    · rfl
    · cases token <;> rfl
    · cases token <;> try rfl
      cases token' <;> first | rfl | exact absurd rfl (other _ _ _ _)

/-! ### Calls -/

theorem words_of_call {read_ : FieldSelect.Call} (read : call tokens = .ok (read_, rest)) :
    ∃ front, tokens.words = front ++ rest.words ∧ Grammar.Call front := by
  obtain ⟨front, spare, rfl, _, written⟩ := written_of_call read
  exact ⟨front.words, words_append front rest, written.derives⟩

/-- Calls inside brackets are read with the bracket behind them. -/
theorem words_of_bracketCalls {steps : Nat} {added : List FieldSelect.Call}
    (read : bracketCalls steps tokens = .ok (added, rest)) :
    ∃ front, tokens.words = front ++ .rightBracket :: rest.words ∧ Chain front := by
  induction steps generalizing tokens added with
  | zero => cases read
  | succ steps ih =>
    rw [bracketCalls] at read
    obtain ⟨⟨first, behind⟩, reading, read⟩ := exists_of_bind_eq_ok read
    obtain ⟨front, spells, called⟩ := words_of_call reading
    dsimp only at read
    split at read
    · obtain ⟨⟨more, left⟩, others, read⟩ := exists_of_bind_eq_ok read
      cases read
      obtain ⟨back, spells', chain⟩ := ih others
      refine ⟨front ++ .dot :: back, ?_, .dot called chain⟩
      rw [spells, words_cons, spells']
      simp
    · obtain ⟨⟨more, left⟩, others, read⟩ := exists_of_bind_eq_ok read
      cases read
      obtain ⟨back, spells', chain⟩ := ih others
      refine ⟨front ++ .comma :: back, ?_, .comma called chain⟩
      rw [spells, words_cons, spells']
      simp
    · obtain ⟨⟨⟨⟩, _⟩, closed, read⟩ := exists_of_bind_eq_ok read
      cases read
      obtain ⟨position, rfl⟩ := cons_of_expect closed (by simp)
      exact ⟨front, spells, .last called⟩

theorem words_of_calls {steps : Nat} {holder selector : Selector}
    (read : calls steps holder tokens = .ok (selector, rest)) :
    ∃ front, tokens.words = front ++ rest.words ∧ Grammar.Calls front ∧ selector.nested = holder.nested := by
  induction steps generalizing tokens holder with
  | zero =>
    cases read
    exact ⟨[], rfl, .none, rfl⟩
  | succ steps ih =>
    rw [calls.eq_def] at read
    dsimp only at read
    split at read
    · obtain ⟨⟨first, behind⟩, reading, read⟩ := exists_of_bind_eq_ok read
      obtain ⟨front, spells, called⟩ := words_of_call reading
      obtain ⟨back, spells', others, same⟩ := ih read
      refine ⟨.colon :: (front ++ back), ?_, .key called others, same⟩
      rw [words_cons, spells, spells']
      simp
    · split at read
      · obtain ⟨⟨first, behind⟩, reading, read⟩ := exists_of_bind_eq_ok read
        obtain ⟨front, spells, called⟩ := words_of_call reading
        obtain ⟨back, spells', others, same⟩ := ih read
        refine ⟨.dot :: (front ++ back), ?_, .value called others, same⟩
        rw [words_cons, spells, spells']
        simp
      · cases read
        exact ⟨[], rfl, .none, rfl⟩
    · obtain ⟨⟨added, behind⟩, reading, read⟩ := exists_of_bind_eq_ok read
      obtain ⟨front, spells, chain⟩ := words_of_bracketCalls reading
      obtain ⟨back, spells', others, same⟩ := ih read
      refine ⟨.leftBracket :: (front ++ .rightBracket :: back), ?_, .chained chain others, same⟩
      rw [words_cons, spells, spells']
      simp
    · cases read
      exact ⟨[], rfl, .none, rfl⟩

/-! ### Segments -/

theorem pattern_of_glob? {glob : String} {name : Name} (read : Name.glob? glob = .ok name) :
    ∃ pattern, name = .pattern pattern := by
  unfold Name.glob? at read
  cases regex : Regex.read (Name.globText glob) with
  | error fault =>
    rw [regex] at read
    cases read
  | ok regex' =>
    rw [regex] at read
    cases read
    exact ⟨_, rfl⟩

theorem pattern_of_regex? {text : String} {ignoresCase : Bool} {name : Name}
    (read : Name.regex? text ignoresCase = .ok name) : ∃ pattern, name = .pattern pattern := by
  unfold Name.regex? at read
  dsimp only at read
  generalize Regex.read _ = regex at read
  cases regex <;> cases read
  exact ⟨_, rfl⟩

/-- Only `**` is read as such. -/
theorem words_of_name {read_ : Name} (read : name tokens = .ok (read_, rest)) :
    ∃ token, tokens.words = token :: rest.words ∧ isPattern token = true ∧
      (read_ = .anyDeep ↔ token = .doubleStar) := by
  rw [name.eq_def] at read
  split at read
  · cases read
    exact ⟨_, rfl, rfl, nofun, nofun⟩
  · cases read
    exact ⟨_, rfl, rfl, nofun, nofun⟩
  · cases read
    exact ⟨_, rfl, rfl, nofun, nofun⟩
  · cases read
    exact ⟨_, rfl, rfl, nofun, nofun⟩
  · cases read
    exact ⟨_, rfl, rfl, fun _ => rfl, fun _ => rfl⟩
  · cases read
    exact ⟨_, rfl, rfl, nofun, nofun⟩
  · split at read
    · rename_i glob
      cases read
      obtain ⟨pattern, rfl⟩ := pattern_of_glob? glob
      exact ⟨_, rfl, rfl, nofun, nofun⟩
    · cases read
  · split at read
    · rename_i regex
      cases read
      obtain ⟨pattern, rfl⟩ := pattern_of_regex? regex
      exact ⟨_, rfl, rfl, nofun, nofun⟩
    · cases read
  · cases read

theorem words_of_depth {low : Nat} (read : depth tokens = .ok (low, rest)) :
    ∃ n, tokens.words = .integer n :: rest.words ∧ low = n.toInt.toNat := by
  rw [depth.eq_def] at read
  split at read
  · cases read
    exact ⟨_, rfl, rfl⟩
  · cases read

theorem words_of_depthBounds {bounds : Nat × Option Nat} (read : depthBounds tokens = .ok (bounds, rest)) :
    ∃ front, tokens.words = front ++ rest.words ∧ Bound (.leftBrace :: front) := by
  rw [depthBounds] at read
  obtain ⟨⟨low, behind⟩, reading, read⟩ := exists_of_bind_eq_ok read
  obtain ⟨n, spells, rfl⟩ := words_of_depth reading
  dsimp only at read
  split at read
  · cases read
    exact ⟨[.integer n, .comma, .rightBrace], spells, .unlimited n⟩
  · obtain ⟨⟨high, after⟩, reading', read⟩ := exists_of_bind_eq_ok read
    obtain ⟨m, spells', rfl⟩ := words_of_depth reading'
    dsimp only at read
    split at read
    · cases read
    · rename_i rises
      obtain ⟨⟨⟨⟩, _⟩, closed, read⟩ := exists_of_bind_eq_ok read
      cases read
      obtain ⟨position, rfl⟩ := cons_of_expect closed (by simp)
      refine ⟨[.integer n, .comma, .integer m, .rightBrace], ?_, .limited (by omega)⟩
      rw [spells, words_cons, spells']
      rfl
  · obtain ⟨⟨⟨⟩, _⟩, closed, read⟩ := exists_of_bind_eq_ok read
    cases read
    obtain ⟨position, rfl⟩ := cons_of_expect closed (by simp)
    exact ⟨[.integer n, .rightBrace], spells, .least n⟩

theorem of_opensBound (opens : opensBound tokens.words = true) :
    ∃ position n place behind, tokens = ⟨.leftBrace, position⟩ :: ⟨.integer n, place⟩ :: behind := by
  rcases tokens with _ | ⟨⟨token, position⟩, _ | ⟨⟨token', place⟩, tokens⟩⟩
  · cases opens
  · cases token <;> cases opens
  · cases token <;> try cases opens
    cases token' <;> try cases opens
    exact ⟨_, _, _, _, rfl⟩

/-- Bounds are read behind `**` where they are opened, and nowhere else. -/
theorem words_of_bounded {holder selector : Selector} (read : bounded holder tokens = .ok (selector, rest)) :
    selector.nested = holder.nested ∧ ∃ front, tokens.words = front ++ rest.words ∧
      (holder.name = .anyDeep ∧ opensBound tokens.words = true → Bound front) ∧
      (¬(holder.name = .anyDeep ∧ opensBound tokens.words = true) → front = []) := by
  rw [bounded.eq_def] at read
  split at read
  · rename_i deep
    obtain ⟨⟨⟨low, high⟩, behind⟩, reading, read⟩ := exists_of_bind_eq_ok read
    cases read
    obtain ⟨front, spells, bound⟩ := words_of_depthBounds reading
    refine ⟨rfl, .leftBrace :: front, ?_, fun _ => bound, fun unopened => absurd ⟨deep, rfl⟩ unopened⟩
    rw [words_cons, spells]
    rfl
  · rename_i unopened
    cases read
    refine ⟨rfl, [], rfl, ?_, fun _ => rfl⟩
    rintro ⟨deep, opens⟩
    obtain ⟨position, n, place, behind, rfl⟩ := of_opensBound opens
    exact absurd rfl (unopened position n place behind deep)

section Inside
variable {inside : Parser (List Selector)} (derives : ∀ {tokens rest : Tokens} {selected : List Selector},
  inside tokens = .ok (selected, rest) → ∃ front, tokens.words = front ++ rest.words ∧ Derives .selectors front)

include derives

theorem words_of_block {holder selector : Selector} (unnested : holder.nested = false)
    (read : block inside holder tokens = .ok (selector, rest)) :
    ∃ front, tokens.words = front ++ rest.words ∧ Derives (.block selector.nested) front := by
  rw [block.eq_def] at read
  split at read
  · cases read
    exact ⟨[_, _], rfl, .emptied⟩
  · obtain ⟨⟨children, behind⟩, reading, read⟩ := exists_of_bind_eq_ok read
    obtain ⟨front, spells, selectors⟩ := derives reading
    obtain ⟨⟨_, after⟩, closed, read⟩ := exists_of_bind_eq_ok read
    cases read
    obtain ⟨position, rfl⟩ := cons_of_expect closed (by simp)
    refine ⟨.leftBrace :: (front ++ [.rightBrace]), ?_, .filled selectors⟩
    rw [words_cons, spells]
    simp
  · cases read
    rw [unnested]
    exact ⟨[], rfl, .unblocked⟩

/-- A segment is read as one with a block just when it has one. -/
theorem words_of_segment {read_ : Selector} (read : segment inside tokens = .ok (read_, rest)) :
    ∃ front, tokens.words = front ++ rest.words ∧ Derives (.segment read_.nested) front := by
  rw [segment] at read
  obtain ⟨⟨name, left⟩, naming, read⟩ := exists_of_bind_eq_ok read
  obtain ⟨⟨deep, within⟩, bounding, read⟩ := exists_of_bind_eq_ok read
  obtain ⟨⟨acting, last⟩, calling, blocking⟩ := exists_of_bind_eq_ok read
  obtain ⟨pattern, named, names, same⟩ := words_of_name naming
  obtain ⟨unnested, bound, opening, bounded, unbounded⟩ := words_of_bounded bounding
  obtain ⟨calls, act, called, kept⟩ := words_of_calls calling
  obtain ⟨block, ended, ends⟩ := words_of_block derives (kept.trans unnested) blocking
  have behind : left.words = bound ++ (calls ++ block) ++ rest.words := by
    rw [opening, act, ended]
    simp
  refine ⟨pattern :: (bound ++ (calls ++ block)), ?_, .segment names ?_ ?_ called ends⟩
  · rw [named, behind]
    rfl
  · rintro ⟨deep, opens⟩
    refine bounded ⟨same.mpr deep, ?_⟩
    rw [behind]
    exact opensBound_append opens rest.words
  · intro shut
    refine unbounded ?_
    rintro ⟨deep, opens⟩
    exact shut ⟨same.mp deep, (bounded ⟨deep, opens⟩).opensBound _⟩

theorem words_of_path {steps : Nat} {segments : List Selector} (read : path inside steps tokens = .ok (segments, rest))
    (unnested : ∀ parent ∈ segments.dropLast, parent.nested = false) :
    segments ≠ [] ∧ ∃ front, tokens.words = front ++ rest.words ∧ Derives .path front := by
  induction steps generalizing tokens segments with
  | zero => cases read
  | succ steps ih =>
    rw [path] at read
    obtain ⟨⟨first, behind⟩, reading, read⟩ := exists_of_bind_eq_ok read
    obtain ⟨front, spells, segment⟩ := words_of_segment derives reading
    dsimp only at read
    split at read
    · rename_i position onward
      split at read
      · cases read
        exact ⟨List.cons_ne_nil _ _, front, spells, .last segment⟩
      · rename_i uncalled
        obtain ⟨⟨more, left⟩, others, read⟩ := exists_of_bind_eq_ok read
        cases read
        have some_ : more ≠ [] := by
          rintro rfl
          exact (ih others (List.forall_mem_nil _)).1 rfl
        rw [List.dropLast_cons_of_ne_nil some_] at unnested
        obtain ⟨own, below⟩ := List.forall_mem_cons.mp unnested
        obtain ⟨_, back, spells', path⟩ := ih others below
        rw [own] at segment
        refine ⟨List.cons_ne_nil _ _, front ++ .dot :: back, ?_, .dot segment ?_ path⟩
        · rw [spells, words_cons, spells']
          simp
        · rw [isCall_eq, spells'] at uncalled
          exact Bool.eq_false_iff.mpr fun opens => uncalled (opensCall_append opens _)
    · cases read
      exact ⟨List.cons_ne_nil _ _, front, spells, .last segment⟩

omit derives in
theorem unnested_of_nest {leaf nested : Selector} {parents : List Selector} (nests : nest leaf parents = .ok nested) :
    ∀ parent ∈ parents, parent.nested = false := by
  induction parents generalizing nested with
  | nil => nofun
  | cons parent rest ih =>
    rw [nest] at nests
    obtain ⟨child, inner, nests⟩ := exists_of_bind_eq_ok nests
    refine List.forall_mem_cons.mpr ⟨?_, ih inner⟩
    cases closed : parent.nested with
    | false => rfl
    | true =>
      rw [closed] at nests
      cases nests

theorem words_of_selector {read_ : Selector} (read : selector inside tokens = .ok (read_, rest)) :
    ∃ front, tokens.words = front ++ rest.words ∧ Derives .selector front := by
  have unsigned : ∀ {negated : Bool} {tokens : Tokens}, unsignedSelector inside negated tokens = .ok (read_, rest) →
      ∃ front, tokens.words = front ++ rest.words ∧ Derives .path front := by
    intro negated tokens read
    rw [unsignedSelector] at read
    obtain ⟨⟨segments, behind⟩, reading, read⟩ := exists_of_bind_eq_ok read
    dsimp only at read
    split at read
    · obtain ⟨nested, nests, read⟩ := exists_of_bind_eq_ok read
      cases read
      exact (words_of_path derives reading (unnested_of_nest nests)).2
    · cases read
  rw [selector.eq_def] at read
  dsimp only at read
  split at read
  · obtain ⟨front, spells, path⟩ := unsigned read
    exact ⟨.minus :: front, congrArg (Token.minus :: ·) spells, .dropped path⟩
  · obtain ⟨front, spells, path⟩ := unsigned read
    exact ⟨front, spells, .kept path⟩

theorem words_of_listed {selected : List Selector} (listed : Listed inside tokens selected rest) :
    ∃ front, tokens.words = front ++ rest.words ∧ Derives .selectors front := by
  induction listed with
  | one read =>
    obtain ⟨front, spells, selector⟩ := words_of_selector derives read
    exact ⟨front, spells, .one selector⟩
  | comma read _ ih =>
    obtain ⟨front, spells, selector⟩ := words_of_selector derives read
    obtain ⟨back, spells', others⟩ := ih
    refine ⟨front ++ .comma :: back, ?_, .comma selector others⟩
    rw [spells, words_cons, spells']
    simp

end Inside

theorem words_of_selectors {levels : Nat} {selected : List Selector}
    (read : selectors levels tokens = .ok (selected, rest)) :
    ∃ front, tokens.words = front ++ rest.words ∧ Derives .selectors front := by
  induction levels generalizing tokens rest selected with
  | zero => cases read
  | succ levels ih => exact words_of_listed ih (listed_of_selectorsWith read).1

/-! ### Stages -/

theorem words_of_stage {selected : List Selector} (read : stage tokens = .ok (selected, rest)) :
    ∃ front, tokens.words = front ++ rest.words ∧ Stage front := by
  rw [stage] at read
  split at read
  · cases read
    exact ⟨[], rfl, .empty⟩
  · cases read
    exact ⟨[], rfl, .empty⟩
  · obtain ⟨⟨selected, behind⟩, reading, read⟩ := exists_of_bind_eq_ok read
    cases read
    obtain ⟨front, spells, selectors⟩ := words_of_selectors reading
    exact ⟨front, spells, .filled selectors⟩

theorem words_of_staged {blocks : List (List Selector)} (staged : Staged tokens blocks rest) :
    ∃ front, tokens.words = front ++ rest.words ∧ Stages front := by
  induction staged with
  | last read _ =>
    obtain ⟨front, spells, stage⟩ := words_of_stage read
    exact ⟨front, spells, .last stage⟩
  | bar read _ ih =>
    obtain ⟨front, spells, stage⟩ := words_of_stage read
    obtain ⟨back, spells', others⟩ := ih
    refine ⟨front ++ .pipe :: back, ?_, .bar stage others⟩
    rw [spells, words_cons, spells']
    simp

/-- Whatever is read as a filter is one by the grammar. -/
theorem derives_of_filter {words : List Token} (inner : ∀ token ∈ words, token ≠ .finish)
    (listed : tokens.words = words ++ [.finish]) {selected : List Selector} (read : filter tokens = .ok selected) :
    Filter tokens.words := by
  obtain ⟨blocks, position, staged, _⟩ := staged_of_filter inner listed read
  obtain ⟨front, spells, stages⟩ := words_of_staged staged
  rw [spells]
  exact .ended stages

end Parser
end FieldSelect
