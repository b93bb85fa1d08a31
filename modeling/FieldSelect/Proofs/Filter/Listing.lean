import FieldSelect.Proofs.Filter.Carrying

/-! Lists of selectors, as blocks and stages hold them. A part of a list can be swapped for another one that stands for
it among any siblings. -/
namespace FieldSelect
namespace Parser
open Tokens Selector
variable {swap : String → Tokens → Tokens → Prop} {back tokens others : Tokens} {opens : Bool}

/-- Selectors apart by commas, up to what stands behind the last one of them; a further comma may be next. -/
inductive Listed (inside : Parser (List Selector)) : Tokens → List Selector → Tokens → Prop where
  | one {tokens rest : Tokens} {first : Selector} (read : selector inside tokens = .ok (first, rest)) :
      Listed inside tokens [first] rest
  | comma {tokens behind rest : Tokens} {first : Selector} {position : Position} {more : List Selector}
      (read : selector inside tokens = .ok (first, ⟨.comma, position⟩ :: behind))
      (others : Listed inside behind more rest) : Listed inside tokens (first :: more) rest

section Listing
variable {inside : Parser (List Selector)} {middle rest : Tokens} {selected front more : List Selector}

theorem listed_of_selectorsWith {steps : Nat} (read : selectorsWith inside steps tokens = .ok (selected, rest)) :
    Listed inside tokens selected rest ∧ rest.head ≠ .comma := by
  induction steps generalizing tokens selected with
  | zero => cases read
  | succ steps ih =>
    rw [selectorsWith] at read
    obtain ⟨⟨first, behind⟩, reading, read⟩ := exists_of_bind_eq_ok read
    dsimp only at read
    split at read
    · obtain ⟨⟨more, left⟩, others, read⟩ := exists_of_bind_eq_ok read
      cases read
      obtain ⟨listed, unfollowed⟩ := ih others
      exact ⟨.comma reading listed, unfollowed⟩
    · rename_i unfollowed
      cases read
      refine ⟨.one reading, ?_⟩
      rcases rest with _ | ⟨⟨token, position⟩, rest⟩
      · rintro ⟨⟩
      · rintro rfl
        exact unfollowed position rest rfl

theorem Listed.selectorsWith {steps : Nat} (listed : Listed inside tokens selected rest)
    (unfollowed : rest.head ≠ .comma) (enough : selected.length ≤ steps) :
    Parser.selectorsWith inside steps tokens = .ok (selected, rest) := by
  induction listed generalizing steps with
  | @one tokens rest first read =>
    cases steps with
    | zero => cases enough
    | succ steps =>
      rw [Parser.selectorsWith, read]
      simp only [bind, Except.bind]
      split
      · exact absurd rfl unfollowed
      · rfl
  | comma read _ ih =>
    cases steps with
    | zero => cases enough
    | succ steps =>
      rw [Parser.selectorsWith, read]
      simp only [bind, Except.bind, ih unfollowed (Nat.le_of_succ_le_succ enough)]
      rfl

theorem Listed.length_pos (listed : Listed inside tokens selected rest) : 0 < selected.length := by
  cases listed <;> exact Nat.succ_pos _

/-- Lists with a comma between them are one list. -/
theorem Listed.append {position : Position} (listed : Listed inside tokens front (⟨.comma, position⟩ :: middle))
    (others : Listed inside middle more rest) : Listed inside tokens (front ++ more) rest := by
  generalize ended : (⟨.comma, position⟩ :: middle : Tokens) = left at listed
  induction listed with
  | one read =>
    subst ended
    exact .comma read others
  | comma read _ ih => exact .comma read (ih ended)

/-- Whatever a list starts with, the rest of it follows. -/
theorem Listed.split (part : Listed inside tokens front middle) (whole : Listed inside tokens selected rest)
    (unfollowed : rest.head ≠ .comma) :
    selected = front ∧ rest = middle ∨ ∃ position behind more, middle = ⟨.comma, position⟩ :: behind ∧
      selected = front ++ more ∧ Listed inside behind more rest := by
  induction part generalizing selected with
  | @one tokens middle first read =>
    cases whole with
    | one read' =>
      rw [read] at read'
      cases read'
      exact .inl ⟨rfl, rfl⟩
    | comma read' others =>
      rw [read] at read'
      cases read'
      exact .inr ⟨_, _, _, rfl, rfl, others⟩
  | comma read _ ih =>
    cases whole with
    | one read' =>
      rw [read] at read'
      cases read'
      exact absurd rfl unfollowed
    | comma read' others =>
      rw [read] at read'
      cases read'
      rcases ih others with ⟨rfl, rfl⟩ | ⟨position, behind, more, rfl, rfl, follows⟩
      · exact .inl ⟨rfl, rfl⟩
      · exact .inr ⟨position, behind, more, rfl, rfl, follows⟩

theorem Listed.wellFormed (listed : Listed inside tokens selected rest) (yields : ∀ tokens,
    Yields (fun selectors => selectors ≠ [] ∧ ∀ selector ∈ selectors, selector.WellFormed) (inside tokens)) :
    ∀ selector ∈ selected, selector.WellFormed := by
  induction listed with
  | one read => simpa using yields_selector yields _ _ _ read
  | comma read _ ih => exact List.forall_mem_cons.mpr ⟨yields_selector yields _ _ _ read, ih⟩

end Listing

/-- Whatever may be swapped is read on both sides as lists that can stand for each other, as long as there are levels
enough, and in front of what ends a selector. -/
def Swappable (swap : String → Tokens → Tokens → Prop) : Prop :=
  ∀ (name : String) (front front' : Tokens), swap name front front' → ∀ (position place opening opening' : Position)
    (levels bound : Nat) (tokens others : Tokens), (front ++ tokens).length ≤ levels →
      (front' ++ others).length ≤ bound → tokens.head.endsSelector = true → others.head.endsSelector = true →
        ∃ part part',
          Listed (selectors levels)
            (⟨.identifier name, position⟩ :: ⟨.leftBrace, opening⟩ :: (front ++ tokens)) part tokens ∧
          Listed (selectors bound)
            (⟨.identifier name, place⟩ :: ⟨.leftBrace, opening'⟩ :: (front' ++ others)) part' others ∧
          Block.Interchangeable part part' ∧ part'.length ≤ front'.length

section Lists
variable (closes : back.Closes) {levels bound : Nat}

include closes

theorem Akin.endsSelector (akin : Akin swap back opens tokens others) (ends : tokens.head.endsSelector = true) :
    others.head.endsSelector = true := by
  cases akin with
  | finish position =>
    obtain ⟨ender, place, beyond, rfl, ends⟩ := closes
    exact ends
  | cons => exact ends
  | swapped => cases ends

section Step
variable (carried : ∀ {tokens others : Tokens}, Akin swap back true tokens others → tokens.length ≤ levels →
    others.length ≤ bound → Carried swap back Block.SameBlock tokens.length others.length
      (enclosed (selectors levels) tokens) (enclosed (selectors bound) others))

include carried

/-- A list is read on the right as one that can stand for the one on the left. -/
theorem Listed.stands (swappable : Swappable swap) {selected : List Selector} {rest : Tokens}
    (listed : Listed (selectors levels) tokens selected rest) (unfollowed : rest.head ≠ .comma)
    (low : tokens.length ≤ levels + 1) (low' : others.length ≤ bound + 1) (akin : Akin swap back true tokens others) :
    ∃ selected' rest', Listed (selectors bound) others selected' rest' ∧ Block.Interchangeable selected selected' ∧
      Akin swap back true rest rest' ∧ rest.length < tokens.length ∧
        selected'.length + rest'.length ≤ others.length := by
  generalize count : tokens.length = length
  induction length using Nat.strongRecOn generalizing tokens others selected with
  | ind length ih =>
    -- Where nothing is swapped, the first selector is read alike, and the others follow it.
    have plain : Akin swap back false tokens others →
        ∃ selected' rest', Listed (selectors bound) others selected' rest' ∧ Block.Interchangeable selected selected' ∧
          Akin swap back true rest rest' ∧ rest.length < length ∧ selected'.length + rest'.length ≤ others.length := by
      intro start
      cases listed with
      | @one _ _ first read =>
        obtain ⟨second, left, read', same, akin', short, short'⟩ :=
          carried_selector closes carried low low' start _ _ read
        refine ⟨[second], left, .one read', .of_bare ?_, akin', by omega, ?_⟩
        · rw [List.map_singleton, List.map_singleton, same]
        · rw [List.length_singleton]
          omega
      | @comma _ behind _ first position more read others' =>
        obtain ⟨second, left, read', same, akin', short, short'⟩ :=
          carried_selector closes carried low low' start _ _ read
        cases akin' with
        | @cons _ _ _ _ place _ left akin' =>
          rw [List.length_cons] at short short'
          obtain ⟨more', rest', listed', alike, akin', shorter, consumed⟩ :=
            ih behind.length (by omega) others' (by omega) (by omega) akin' rfl
          have first' : Block.Interchangeable [first] [second] :=
            .of_bare (by rw [List.map_singleton, List.map_singleton, same])
          refine ⟨second :: more', rest', .comma read' listed', first'.append alike, akin', by omega, ?_⟩
          rw [List.length_cons]
          omega
    cases akin with
    | finish position => exact plain (.finish position)
    | cons inner position place akin => exact plain (.cons inner position place akin)
    | @swapped name front front' swaps position place opening opening' tokens others ends akin =>
      simp only [List.length_cons, List.length_append] at low low' count
      have ends' := Akin.endsSelector closes akin ends
      have enough : (front ++ tokens).length ≤ levels := by
        rw [List.length_append]
        omega
      have enough' : (front' ++ others).length ≤ bound := by
        rw [List.length_append]
        omega
      obtain ⟨part, part', listedPart, listedPart', alike, few⟩ :=
        swappable name front front' swaps position place opening opening' _ _ _ _ enough enough' ends ends'
      rcases listedPart.split listed unfollowed with ⟨rfl, rfl⟩ | ⟨_, behind, more, rfl, rfl, follows⟩
      · refine ⟨part', others, listedPart', alike, akin.widen, by omega, ?_⟩
        simp only [List.length_cons, List.length_append]
        omega
      · cases akin with
        | @cons _ _ _ _ place _ left akin' =>
          simp only [List.length_cons] at low low' count
          obtain ⟨more', rest', listed', alike', akin', shorter, consumed⟩ :=
            ih behind.length (by omega) follows (by omega) (by omega) akin' rfl
          refine ⟨part' ++ more', rest', listedPart'.append listed', alike.append alike', akin', by omega, ?_⟩
          simp only [List.length_cons, List.length_append]
          omega

end Step

/-- The selectors of a block are read alike, up to the brace that closes it. -/
theorem carried_enclosed (swappable : Swappable swap) (akin : Akin swap back true tokens others)
    (low : tokens.length ≤ levels) (low' : others.length ≤ bound) :
    Carried swap back Block.SameBlock tokens.length others.length (enclosed (selectors levels) tokens)
      (enclosed (selectors bound) others) := by
  induction levels generalizing bound tokens others with
  | zero => exact .error _ _
  | succ levels ih =>
    cases bound with
    | zero =>
      obtain ⟨ender, place, beyond, rfl, ends⟩ := closes
      cases akin <;> cases low'
    | succ bound =>
      intro selected after read
      obtain ⟨⟨selected, rest⟩, reading, read⟩ := exists_of_bind_eq_ok read
      obtain ⟨⟨_, after⟩, closing, read⟩ := exists_of_bind_eq_ok read
      cases read
      obtain ⟨listed, unfollowed⟩ := listed_of_selectorsWith reading
      obtain ⟨selected', rest', listed', alike, akin', short, consumed⟩ :=
        listed.stands closes (fun akin low low' => ih akin low low') swappable unfollowed low low' akin
      obtain ⟨_, after', closing', _, akin'', shorter, shorter'⟩ := carried_expect rfl akin' _ _ closing
      have unfollowed' : rest'.head ≠ .comma := by
        obtain ⟨_, rfl⟩ := cons_of_expect closing' nofun
        nofun
      have formed := listed.wellFormed (yields_selectors levels)
      have formed' := listed'.wellFormed (yields_selectors bound)
      refine ⟨selected', after', ?_, alike.sameBlock formed formed', akin'', by omega, by omega⟩
      rw [enclosed, selectors, listed'.selectorsWith unfollowed' (by omega)]
      simp only [bind, Except.bind, closing']
      rfl

/-- The selectors of a stage are read alike. -/
theorem carried_selectors (swappable : Swappable swap) (outer : back.head ≠ .comma)
    (akin : Akin swap back true tokens others) (low : tokens.length ≤ levels) (low' : others.length ≤ bound) :
    Carried swap back Block.SameBlock tokens.length others.length (selectors levels tokens)
      (selectors bound others) := by
  cases levels with
  | zero => exact .error _ _
  | succ levels =>
    cases bound with
    | zero =>
      obtain ⟨ender, place, beyond, rfl, ends⟩ := closes
      cases akin <;> cases low'
    | succ bound =>
      intro selected rest read
      obtain ⟨listed, unfollowed⟩ := listed_of_selectorsWith read
      obtain ⟨selected', rest', listed', alike, akin', short, consumed⟩ :=
        listed.stands closes (fun akin low low' => carried_enclosed closes swappable akin low low') swappable unfollowed
          low low' akin
      have unfollowed' : rest'.head ≠ .comma := by
        cases akin' with
        | finish position => exact outer
        | cons => exact unfollowed
        | swapped => nofun
      have formed := listed.wellFormed (yields_selectors levels)
      have formed' := listed'.wellFormed (yields_selectors bound)
      have some_ := listed'.length_pos
      exact ⟨selected', rest', listed'.selectorsWith unfollowed' (by omega), alike.sameBlock formed formed', akin',
        short, by omega⟩

end Lists

/-- Nothing is swapped. -/
def noSwap (_ : String) (_ _ : Tokens) : Prop := False

theorem swappable_noSwap : Swappable noSwap := nofun

end Parser
end FieldSelect
