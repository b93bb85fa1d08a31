import FieldSelect.Filter.Reader
import FieldSelect.Proofs.Filter.WellFormed
import FieldSelect.Proofs.Yields

/-! All selectors that are read are well-formed, and so are their blocks. -/
namespace FieldSelect
open Selector

namespace Parser
open Tokens
variable {α β : Type} {P : α → Prop} {Q : β → Prop} {tokens rest : Tokens} {holder : Selector}

theorem eq_of_isSign {wanted token : Token} (sign : isSign wanted token = true) : token = wanted := by
  unfold isSign at sign
  split at sign <;> first | rfl | cases sign

/-- Only the wanted sign is taken; the end may be missing where it is wanted. -/
theorem cons_of_expect {wanted : Token} {read : Unit} (expected : expect wanted tokens = .ok (read, rest))
    (inner : wanted ≠ .finish) : ∃ position, tokens = ⟨wanted, position⟩ :: rest := by
  rcases tokens with _ | ⟨⟨token, position⟩, tokens⟩
  · rw [expect] at expected
    split at expected
    · rename_i sign
      exact absurd (eq_of_isSign sign).symm inner
    · cases expected
  · rw [expect] at expected
    split at expected
    · rename_i sign
      cases expected
      cases eq_of_isSign sign
      exact ⟨position, rfl⟩
    · cases expected

theorem yields_depthBounds (tokens : Tokens) :
    Yields (fun bounds : Nat × Option Nat => ∀ high, bounds.2 = some high → bounds.1 < high) (depthBounds tokens) := by
  rw [depthBounds]
  refine (Yields.any _).bind fun low rest _ => ?_
  dsimp only
  split
  · exact .pure nofun _
  · refine (Yields.any _).bind fun high after _ => ?_
    dsimp only
    split
    · exact .error _
    · rename_i rises
      refine (Yields.any _).bind fun _ _ _ => .pure ?_ _
      rintro _ ⟨⟩
      exact Nat.lt_of_not_le rises
  · exact (Yields.any _).bind fun _ _ _ => .pure nofun _

/-- A property of selectors that reading keeps: `opened` holds of one that may still take a block, `closed` of one that
is done, and `calling` of the calls. -/
structure Growth (opened closed : Selector → Prop) (calling : Call → Prop) : Prop where
  named : ∀ name position, opened (.named name position)
  bounds : ∀ holder low high, opened holder → holder.name = .anyDeep → (∀ bound, high = some bound → low < bound) →
    opened { holder with minDepth := some low, maxDepth := high }
  called : ∀ tokens, Yields calling (call tokens)
  keyCall : ∀ holder call, opened holder → calling call → opened { holder with keyCalls := holder.keyCalls ++ [call] }
  valueCalls : ∀ holder added, opened holder → (∀ call ∈ added, calling call) →
    opened { holder with valueCalls := holder.valueCalls ++ added }
  unblocked : ∀ holder, opened holder → closed holder
  emptied : ∀ holder, opened holder → closed { holder with nested := true, emptyNested := true }
  filled : ∀ holder children, opened holder → children ≠ [] → (∀ child ∈ children, closed child) →
    closed { holder with nested := true, children := Block.finish children }
  nested : ∀ parent child, closed parent → parent.nested = false → closed child →
    closed { parent with nested := true, children := Block.finish [child] }
  negated : ∀ leaf negated, closed leaf → closed { leaf with negated }

namespace Growth
variable {opened closed : Selector → Prop} {calling : Call → Prop} (growth : Growth opened closed calling)
include growth

theorem yields_bounded (own : opened holder) (tokens : Tokens) : Yields opened (bounded holder tokens) := by
  rw [bounded.eq_def]
  split
  · rename_i _ deep
    refine (yields_depthBounds _).bind ?_
    rintro ⟨low, high⟩ rest rises
    exact .pure (growth.bounds _ _ _ own deep rises) _
  · exact .pure own _

theorem yields_bracketCalls (steps : Nat) (tokens : Tokens) :
    Yields (fun added => ∀ call ∈ added, calling call) (bracketCalls steps tokens) := by
  induction steps generalizing tokens with
  | zero => exact .error _
  | succ steps ih =>
    rw [Parser.bracketCalls]
    refine (growth.called _).bind fun first rest own => ?_
    dsimp only
    split
    · exact (ih _).bind fun more rest others => .pure (List.forall_mem_cons.mpr ⟨own, others⟩) _
    · exact (ih _).bind fun more rest others => .pure (List.forall_mem_cons.mpr ⟨own, others⟩) _
    · exact (Yields.any _).bind fun _ rest _ => .pure (by simpa using own) _

theorem yields_calls (own : opened holder) (steps : Nat) (tokens : Tokens) :
    Yields opened (calls steps holder tokens) := by
  induction steps generalizing holder tokens with
  | zero => exact .pure own _
  | succ steps ih =>
    rw [calls.eq_def]
    dsimp only
    split
    · exact (growth.called _).bind fun call rest called => ih (growth.keyCall _ _ own called) rest
    · split
      · refine (growth.called _).bind fun call rest called => ih (growth.valueCalls _ _ own ?_) rest
        simpa using called
      · exact .pure own _
    · exact (growth.yields_bracketCalls _ _).bind fun added rest called => ih (growth.valueCalls _ _ own called) rest
    · exact .pure own _

section Inside
variable {inside : Parser (List Selector)}
  (yields : ∀ tokens,
    Yields (fun selectors => selectors ≠ [] ∧ ∀ selector ∈ selectors, closed selector) (inside tokens))

include yields

theorem yields_block (own : opened holder) (tokens : Tokens) : Yields closed (Parser.block inside holder tokens) := by
  rw [block.eq_def]
  split
  · exact .pure (growth.emptied _ own) _
  · refine (yields _).bind fun children rest inner => ?_
    exact (Yields.any _).bind fun _ rest _ => .pure (growth.filled _ _ own inner.1 inner.2) _
  · exact .pure (growth.unblocked _ own) _

theorem yields_segment (tokens : Tokens) : Yields closed (segment inside tokens) := by
  rw [Parser.segment]
  refine (Yields.any _).bind fun name rest _ => ?_
  refine (growth.yields_bounded (growth.named _ _) _).bind fun selector rest own => ?_
  refine (growth.yields_calls own _ _).bind fun selector rest own => ?_
  exact growth.yields_block yields own _

theorem yields_path (steps : Nat) (tokens : Tokens) :
    Yields (fun segments => ∀ segment ∈ segments, closed segment) (path inside steps tokens) := by
  induction steps generalizing tokens with
  | zero => exact .error _
  | succ steps ih =>
    rw [Parser.path]
    refine (growth.yields_segment yields _).bind fun first rest own => ?_
    have single : ∀ segment ∈ [first], closed segment := by simpa using own
    dsimp only
    split
    · split
      · exact .pure single _
      · exact (ih _).bind fun more rest others => .pure (List.forall_mem_cons.mpr ⟨own, others⟩) _
    · exact .pure single _

omit yields in
theorem closed_of_nest {leaf nested : Selector} (own : closed leaf) {parents : List Selector}
    (all : ∀ parent ∈ parents, closed parent) (nests : Parser.nest leaf parents = .ok nested) : closed nested := by
  induction parents generalizing nested with
  | nil =>
    cases nests
    exact own
  | cons parent rest ih =>
    obtain ⟨outer, others⟩ := List.forall_mem_cons.mp all
    rw [Parser.nest] at nests
    obtain ⟨child, inner, nests⟩ := exists_of_bind_eq_ok nests
    cases unnested : parent.nested with
    | true =>
      rw [unnested] at nests
      cases nests
    | false =>
      rw [unnested] at nests
      cases nests
      exact growth.nested _ _ outer unnested (ih others inner)

theorem yields_selector (tokens : Tokens) : Yields closed (selector inside tokens) := by
  rw [selector.eq_def]
  dsimp only
  refine (growth.yields_path yields _ _).bind fun segments rest all => ?_
  dsimp only
  split
  · rename_i leaf last
    intro nested behind read
    obtain ⟨_, nests, read⟩ := exists_of_bind_eq_ok read
    cases read
    have member : leaf ∈ segments := List.mem_of_getLast? last
    refine growth.closed_of_nest (growth.negated _ _ (all leaf member)) ?_ nests
    intro parent front
    exact all parent (List.dropLast_subset _ front)
  · exact .error _

theorem yields_selectorsWith (steps : Nat) (tokens : Tokens) :
    Yields (fun selectors => selectors ≠ [] ∧ ∀ selector ∈ selectors, closed selector)
      (selectorsWith inside steps tokens) := by
  induction steps generalizing tokens with
  | zero => exact .error _
  | succ steps ih =>
    rw [Parser.selectorsWith]
    refine (growth.yields_selector yields _).bind fun first rest own => ?_
    dsimp only
    split
    · refine (ih _).bind fun more rest others => .pure ?_ _
      exact ⟨List.cons_ne_nil _ _, List.forall_mem_cons.mpr ⟨own, others.2⟩⟩
    · exact .pure ⟨List.cons_ne_nil _ _, by simpa using own⟩ _

end Inside

theorem yields_selectors (levels : Nat) (tokens : Tokens) :
    Yields (fun selectors => selectors ≠ [] ∧ ∀ selector ∈ selectors, closed selector) (selectors levels tokens) := by
  induction levels generalizing tokens with
  | zero => exact .error _
  | succ levels ih => exact growth.yields_selectorsWith ih _ _

/-- A stage is everything, or a finished block of what was read. -/
theorem yields_stage (tokens : Tokens) :
    Yields (fun block => (∃ position, block = [.named .anyDeep position]) ∨
        ∃ selected, selected ≠ [] ∧ (∀ selector ∈ selected, closed selector) ∧ block = Block.finish selected)
      (stage tokens) := by
  rw [Parser.stage]
  split
  · exact .pure (.inl ⟨_, rfl⟩) _
  · exact .pure (.inl ⟨_, rfl⟩) _
  · exact (growth.yields_selectors _ _).bind fun selected rest all => .pure (.inr ⟨selected, all.1, all.2, rfl⟩) _

end Growth

/-! ### Well-formed selectors -/

/-- A well-formed selector that may still take a block. -/
structure Open (selector : Selector) : Prop where
  formed : selector.WellFormed
  unnested : selector.nested = false

theorem growth_wellFormed : Growth Open WellFormed fun _ => True where
  named name position := ⟨wellFormed_named name position, rfl⟩
  bounds _ _ _ own deep rises := ⟨own.formed.withBounds deep rises, own.unnested⟩
  called _ := Yields.any _
  keyCall _ _ own _ := ⟨own.formed.acting _ _ _, own.unnested⟩
  valueCalls _ _ own _ := ⟨own.formed.acting _ _ _, own.unnested⟩
  unblocked _ own := own.formed
  emptied _ own := own.formed.withEmptyBlock own.unnested
  filled _ _ own nonempty all := by
    obtain ⟨settled, inner⟩ := Block.finish_wellFormed nonempty all
    exact own.formed.withBlock (own.formed.consistent.unemptied own.unnested) settled inner
  nested _ child own unnested below := by
    obtain ⟨settled, inner⟩ := Block.finish_wellFormed (List.cons_ne_nil child []) (by simpa using below)
    exact own.withBlock (own.consistent.unemptied unnested) settled inner
  negated _ _ own := own.acting _ _ _

theorem yields_selector {inside : Parser (List Selector)}
    (yields : ∀ tokens,
      Yields (fun selectors => selectors ≠ [] ∧ ∀ selector ∈ selectors, selector.WellFormed) (inside tokens))
    (tokens : Tokens) : Yields WellFormed (selector inside tokens) :=
  growth_wellFormed.yields_selector yields tokens

theorem yields_selectors (levels : Nat) (tokens : Tokens) :
    Yields (fun selectors => selectors ≠ [] ∧ ∀ selector ∈ selectors, selector.WellFormed)
      (selectors levels tokens) :=
  growth_wellFormed.yields_selectors levels tokens

theorem yields_stage (tokens : Tokens) :
    Yields (fun block => Block.Settled block ∧ ∀ selector ∈ block, selector.WellFormed) (stage tokens) := by
  intro block rest read
  rcases growth_wellFormed.yields_stage tokens block rest read with ⟨position, rfl⟩ | ⟨selected, nonempty, all, rfl⟩
  · refine ⟨⟨⟨_, List.mem_singleton_self _, rfl⟩, List.pairwise_singleton _ _⟩, ?_⟩
    intro selector member
    rw [List.mem_singleton.mp member]
    exact wellFormed_named _ _
  · exact Block.finish_wellFormed nonempty all

end Parser
end FieldSelect
