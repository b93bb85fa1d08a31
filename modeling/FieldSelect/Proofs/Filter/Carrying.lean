import FieldSelect.Proofs.Filter.Regrouping
import FieldSelect.Proofs.Filter.Yielding

/-! What is read of a filter stays the same in front of other text, and wherever it stands. Only places
change, and a filter that was at its end goes on with what follows. Where a list can start, parts may be swapped. -/
namespace FieldSelect

/-- A list of selectors can start behind the token, as it can at the start of the text. -/
def Token.opensList : Token → Bool
  | .comma | .pipe | .leftBrace => true
  | _ => false

/-- No path, call or block goes on with the token, just as none goes on with the end of the text. -/
def Token.endsSelector : Token → Bool
  | .comma | .pipe | .rightBrace | .finish => true
  | _ => false

/-- The same tokens, except for their places, and with `back` for the end of the text. Wherever a list of selectors
can start, a part that opens a block may be another one, as far as `swap` allows. -/
inductive Tokens.Akin (swap : String → Tokens → Tokens → Prop) (back : Tokens) : Bool → Tokens → Tokens → Prop where
  | finish {opens : Bool} (position : Position) : Akin swap back opens [⟨.finish, position⟩] back
  | cons {opens : Bool} {token : Token} (inner : token ≠ .finish) (position place : Position) {tokens others : Tokens}
      (akin : Akin swap back token.opensList tokens others) :
      Akin swap back opens (⟨token, position⟩ :: tokens) (⟨token, place⟩ :: others)
  | swapped {name : String} {front front' : Tokens} (swaps : swap name front front')
      (position place opening opening' : Position) {tokens others : Tokens} (ends : tokens.head.endsSelector = true)
      (akin : Akin swap back false tokens others) :
      Akin swap back true (⟨.identifier name, position⟩ :: ⟨.leftBrace, opening⟩ :: (front ++ tokens))
        (⟨.identifier name, place⟩ :: ⟨.leftBrace, opening'⟩ :: (front' ++ others))

/-- A selector ends in front of these tokens, as it does at the end of the text. -/
def Tokens.Closes (back : Tokens) : Prop :=
  ∃ ender place beyond, back = ⟨ender, place⟩ :: beyond ∧ ender.endsSelector = true

/-- A list can start here as well. -/
theorem Tokens.Akin.widen {swap : String → Tokens → Tokens → Prop} {back tokens others : Tokens} {opens : Bool}
    (akin : Akin swap back opens tokens others) : Akin swap back true tokens others := by
  cases akin with
  | finish position => exact .finish position
  | cons inner position place akin => exact .cons inner position place akin
  | swapped swaps position place opening opening' ends akin =>
    exact .swapped swaps position place opening opening' ends akin

namespace Parser
open Tokens Selector
variable {α β : Type} {swap : String → Tokens → Tokens → Prop} {back tokens others : Tokens} {opens : Bool}
  {R : α → α → Prop} {S : β → β → Prop} {width limit : Nat}

/-- What is read on the left is read on the right as well, up to `R`, with kindred tokens left over: fewer than `width`
on the left, and fewer than `limit` on the right. -/
def Carried (swap : String → Tokens → Tokens → Prop) (back : Tokens) (R : α → α → Prop) (width limit : Nat)
    (first second : Except ParseError (α × Tokens)) : Prop :=
  ∀ x rest, first = .ok (x, rest) → ∃ y others, second = .ok (y, others) ∧ R x y ∧ Akin swap back true rest others ∧
    rest.length < width ∧ others.length < limit

theorem Carried.pure {x y : α} (related : R x y) (akin : Akin swap back opens tokens others)
    (short : tokens.length < width) (short' : others.length < limit) :
    Carried swap back R width limit (pure (x, tokens)) (pure (y, others)) := by
  rintro _ _ ⟨⟩
  exact ⟨y, others, rfl, related, akin.widen, short, short'⟩

theorem Carried.error (error : ParseError) (second : Except ParseError (α × Tokens)) :
    Carried swap back R width limit (.error error) second := by
  rintro _ _ ⟨⟩

theorem Carried.bind {first second : Except ParseError (α × Tokens)} {width' limit' : Nat}
    {next onward : α × Tokens → Except ParseError (β × Tokens)} (carried : Carried swap back R width limit first second)
    (rest : ∀ x y rest others, R x y → Akin swap back true rest others → rest.length < width → others.length < limit →
      Carried swap back S width' limit' (next (x, rest)) (onward (y, others))) :
    Carried swap back S width' limit' (first >>= next) (second >>= onward) := by
  intro z left read
  obtain ⟨⟨x, tokens⟩, result, read⟩ := exists_of_bind_eq_ok read
  obtain ⟨y, others, same, related, akin, short, short'⟩ := carried x tokens result
  rw [same]
  exact rest x y tokens others related akin short short' z left read

theorem Carried.mono {width' limit' : Nat} {first second : Except ParseError (α × Tokens)}
    (carried : Carried swap back R width limit first second) (le : width ≤ width') (le' : limit ≤ limit') :
    Carried swap back R width' limit' first second := by
  intro x rest read
  obtain ⟨y, others, same, related, akin, short, short'⟩ := carried x rest read
  exact ⟨y, others, same, related, akin, Nat.lt_of_lt_of_le short le, Nat.lt_of_lt_of_le short' le'⟩

theorem isSign_identifier (wanted : Token) (name : String) : isSign wanted (.identifier name) = false := by
  cases wanted <;> rfl

theorem carried_expect {wanted : Token} (sign : isSign wanted .finish = false)
    (akin : Akin swap back opens tokens others) :
    Carried swap back Eq tokens.length others.length (expect wanted tokens) (expect wanted others) := by
  cases akin with
  | finish position =>
    rw [expect, sign]
    exact .error _ _
  | @cons _ token inner position place rest others akin =>
    rw [expect, expect]
    split
    · exact .pure rfl akin (Nat.lt_succ_self _) (Nat.lt_succ_self _)
    · exact .error _ _
  | swapped =>
    rw [expect, isSign_identifier]
    exact .error _ _

/-! ### Calls -/

theorem carried_argument (akin : Akin swap back false tokens others) :
    Carried swap back Eq tokens.length others.length (argument tokens) (argument others) := by
  cases akin with
  | finish position => exact .error _ _
  | @cons _ token inner position place rest others akin =>
    cases token with
    | identifier word =>
      rw [argument, argument]
      cases wordValue? word with
      | some value => exact .pure rfl akin (Nat.lt_succ_self _) (Nat.lt_succ_self _)
      | none => exact .error _ _
    | minus =>
      cases akin with
      | finish position => exact .error _ _
      | @cons _ token inner position place rest others akin =>
        cases token <;>
          first
          | exact .pure rfl akin (Nat.lt_succ_of_lt (Nat.lt_succ_self _)) (Nat.lt_succ_of_lt (Nat.lt_succ_self _))
          | exact .error _ _
    | _ => first | exact .pure rfl akin (Nat.lt_succ_self _) (Nat.lt_succ_self _) | exact .error _ _

/-- A word with a block behind it is no argument. -/
theorem arguments_block (steps : Nat) (name : String) (position opening : Position) (tokens : Tokens) :
    ∃ error, arguments steps (⟨.identifier name, position⟩ :: ⟨.leftBrace, opening⟩ :: tokens) = .error error := by
  cases steps with
  | zero => exact ⟨_, rfl⟩
  | succ steps =>
    rw [arguments, argument]
    · cases wordValue? name with
      | some value => exact ⟨_, rfl⟩
      | none => exact ⟨_, rfl⟩
    · nofun

theorem carried_arguments {steps bound : Nat} (enough : others.length ≤ bound)
    (akin : Akin swap back opens tokens others) :
    Carried swap back Eq tokens.length others.length (arguments steps tokens) (arguments bound others) := by
  induction steps generalizing bound tokens others opens with
  | zero =>
    cases akin with
    | finish position => exact .error _ _
    | @cons _ token inner position place rest others akin =>
      cases token with
      | rightParen => cases bound <;> exact .pure rfl akin (Nat.lt_succ_self _) (Nat.lt_succ_self _)
      | _ => exact .error _ _
    | swapped => exact .error _ _
  | succ steps ih =>
    cases akin with
    | finish position => exact .error _ _
    | swapped =>
      obtain ⟨error, fails⟩ := arguments_block (steps + 1) _ _ _ _
      rw [fails]
      exact .error _ _
    | @cons _ token inner position place rest others akin =>
      cases bound with
      | zero => cases enough
      | succ bound =>
        by_cases closing : token = .rightParen
        · subst closing
          exact .pure rfl akin (Nat.lt_succ_self _) (Nat.lt_succ_self _)
        · rw [arguments, arguments]
          · refine (carried_argument (.cons inner position place akin)).bind
              fun first _ rest others same akin short short' => ?_
            subst same
            simp only [List.length_cons] at enough short short' ⊢
            cases akin with
            | finish position => exact .error _ _
            | swapped => exact .error _ _
            | @cons _ token inner position place after others akin =>
              simp only [List.length_cons] at short short'
              cases token with
              | rightParen => exact .pure rfl akin (by omega) (by omega)
              | _ =>
                have whole : Akin swap back true (_ :: after) (_ :: others) := .cons inner position place akin
                refine (carried_expect rfl whole).bind fun _ _ rest others _ akin shorter shorter' => ?_
                simp only [List.length_cons] at shorter shorter'
                refine (ih (by omega) akin).bind fun more _ rest others same akin least least' => ?_
                subst same
                dsimp only
                exact .pure rfl akin (by omega) (by omega)
          · rintro _ _ ⟨⟩
            exact closing rfl
          · rintro _ _ ⟨⟩
            exact closing rfl

theorem carried_call (akin : Akin swap back opens tokens others) :
    Carried swap back (fun call other => call.bare = other.bare) tokens.length others.length (call tokens)
      (call others) := by
  cases akin with
  | finish position => exact .error _ _
  | swapped => exact .error _ _
  | @cons _ token inner position place rest others akin =>
    cases token with
    | identifier name =>
      rw [call, call]
      refine (carried_expect rfl akin).bind fun _ _ rest others _ akin short short' => ?_
      refine (carried_arguments (Nat.le_refl _) akin).bind fun arguments _ rest others same akin shorter shorter' => ?_
      subst same
      exact .pure rfl akin (by simp only [List.length_cons]; omega) (by simp only [List.length_cons]; omega)
    | _ => exact .error _ _

theorem carried_bracketCalls {steps bound : Nat} (enough : others.length ≤ bound)
    (akin : Akin swap back opens tokens others) :
    Carried swap back (fun calls others => calls.map Call.bare = others.map Call.bare) tokens.length others.length
      (bracketCalls steps tokens) (bracketCalls bound others) := by
  induction steps generalizing bound tokens others opens with
  | zero => exact .error _ _
  | succ steps ih =>
    cases bound with
    | zero =>
      -- Without tokens on the right there are none but the end on the left, where no call stands.
      cases akin <;> first | exact .error _ _ | cases enough
    | succ bound =>
      rw [bracketCalls, bracketCalls]
      refine (carried_call akin).bind fun first second rest others' same akin short short' => ?_
      cases akin with
      | finish position => exact .error _ _
      | swapped => exact .error _ _
      | @cons _ token inner position place rest others' akin =>
        simp only [List.length_cons] at short short'
        have more : Carried swap back (fun calls others => calls.map Call.bare = others.map Call.bare) tokens.length
            others.length (bracketCalls steps rest >>= fun read => return (first :: read.1, read.2))
            (bracketCalls bound others' >>= fun read => return (second :: read.1, read.2)) := by
          refine (ih (by omega) akin).bind fun more more' rest others same' akin shorter shorter' => ?_
          dsimp only
          refine .pure ?_ akin (by omega) (by omega)
          rw [List.map_cons, List.map_cons, same, same']
        cases token with
        | dot => exact more
        | comma => exact more
        | _ =>
          have whole : Akin swap back true (_ :: rest) (_ :: others') := .cons inner position place akin
          refine (carried_expect rfl whole).bind fun _ _ rest others _ akin shorter shorter' => ?_
          simp only [List.length_cons] at shorter shorter'
          exact .pure (by rw [List.map_cons, List.map_cons, same]) akin (by omega) (by omega)

theorem bare_addKeyCalls {selector other : Selector} (same : selector.bare = other.bare) {calls others : List Call}
    (same' : calls.map Call.bare = others.map Call.bare) :
    ({ selector with keyCalls := selector.keyCalls ++ calls } : Selector).bare =
      ({ other with keyCalls := other.keyCalls ++ others } : Selector).bare := by
  simp only [bare_eq, Selector.mk.injEq, List.map_append] at same ⊢
  simp only [same, same', and_self]

theorem bare_addValueCalls {selector other : Selector} (same : selector.bare = other.bare) {calls others : List Call}
    (same' : calls.map Call.bare = others.map Call.bare) :
    ({ selector with valueCalls := selector.valueCalls ++ calls } : Selector).bare =
      ({ other with valueCalls := other.valueCalls ++ others } : Selector).bare := by
  simp only [bare_eq, Selector.mk.injEq, List.map_append] at same ⊢
  simp only [same, same', and_self]

section Closing
variable (closes : back.Closes)

include closes

theorem isCall_akin (akin : Akin swap back false tokens others) : isCall tokens = isCall others := by
  obtain ⟨ender, place, beyond, rfl, ends⟩ := closes
  cases akin with
  | finish position => cases ender <;> first | rfl | cases ends
  | @cons _ token inner position place rest others akin =>
    cases token with
    | identifier name =>
      cases akin with
      | finish position => cases ender <;> first | rfl | cases ends
      | @cons _ second inner position place rest others akin => cases second <;> rfl
    | _ => rfl

theorem carried_calls {steps bound : Nat} (enough : tokens.length ≤ steps) (enough' : others.length ≤ bound)
    {selector other : Selector} (same : selector.bare = other.bare) (akin : Akin swap back opens tokens others) :
    Carried swap back (fun selector other => selector.bare = other.bare) (tokens.length + 1) (others.length + 1)
      (calls steps selector tokens) (calls bound other others) := by
  induction steps generalizing bound selector other tokens others opens with
  | zero => cases akin <;> cases enough
  | succ steps ih =>
    cases bound with
    | zero =>
      obtain ⟨ender, place, beyond, rfl, ends⟩ := closes
      cases akin <;> cases enough'
    | succ bound =>
      have whole := akin.widen
      cases akin with
      | finish position =>
        have stops : calls (bound + 1) other back = .ok (other, back) := by
          obtain ⟨ender, place, beyond, rfl, ends⟩ := closes
          cases ender <;> first | rfl | cases ends
        rw [stops]
        exact .pure same whole (Nat.lt_succ_self _) (Nat.lt_succ_self _)
      | swapped =>
        exact .pure same whole (Nat.lt_succ_self _) (Nat.lt_succ_self _)
      | @cons _ token inner position place rest others akin =>
        simp only [List.length_cons] at enough enough' ⊢
        cases token with
        | colon =>
          refine (carried_call akin).bind fun first second rest others same' akin short short' => ?_
          have single : [first].map Call.bare = [second].map Call.bare := congrArg (fun call => [call]) same'
          exact (ih (by omega) (by omega) (bare_addKeyCalls same single) akin).mono (by omega) (by omega)
        | dot =>
          rw [calls, calls, ← isCall_akin closes akin]
          split
          · refine (carried_call akin).bind fun first second rest others same' akin short short' => ?_
            have single : [first].map Call.bare = [second].map Call.bare := congrArg (fun call => [call]) same'
            exact (ih (by omega) (by omega) (bare_addValueCalls same single) akin).mono (by omega) (by omega)
          · exact .pure same whole (Nat.lt_succ_self _) (Nat.lt_succ_self _)
        | leftBracket =>
          rw [calls, calls]
          refine (carried_bracketCalls (Nat.le_refl _) akin).bind
            fun added more rest others same' akin short short' => ?_
          exact (ih (by omega) (by omega) (bare_addValueCalls same same') akin).mono (by omega) (by omega)
        | _ => exact .pure same whole (Nat.lt_succ_self _) (Nat.lt_succ_self _)

/-! ### Segments -/

omit closes in
theorem carried_name (akin : Akin swap back false tokens others) :
    Carried swap back Eq tokens.length others.length (name tokens) (name others) := by
  cases akin with
  | finish position => exact .error _ _
  | @cons _ token inner position place rest others akin =>
    cases token with
    | glob glob =>
      rw [name, name]
      cases Name.glob? glob with
      | ok name => exact .pure rfl akin (Nat.lt_succ_self _) (Nat.lt_succ_self _)
      | error fault => exact .error _ _
    | regex pattern ignoresCase =>
      rw [name, name]
      cases Name.regex? pattern ignoresCase with
      | ok name => exact .pure rfl akin (Nat.lt_succ_self _) (Nat.lt_succ_self _)
      | error fault => exact .error _ _
    | _ => first | exact .pure rfl akin (Nat.lt_succ_self _) (Nat.lt_succ_self _) | exact .error _ _

omit closes in
theorem carried_depth (akin : Akin swap back opens tokens others) :
    Carried swap back Eq tokens.length others.length (depth tokens) (depth others) := by
  cases akin with
  | finish position => exact .error _ _
  | swapped => exact .error _ _
  | @cons _ token inner position place rest others akin =>
    cases token <;> first | exact .pure rfl akin (Nat.lt_succ_self _) (Nat.lt_succ_self _) | exact .error _ _

omit closes in
theorem carried_depthBounds (akin : Akin swap back opens tokens others) :
    Carried swap back Eq tokens.length others.length (depthBounds tokens) (depthBounds others) := by
  rw [depthBounds, depthBounds]
  refine (carried_depth akin).bind fun low _ rest others' same akin short short' => ?_
  subst same
  cases akin with
  | finish position => exact .error _ _
  | swapped => exact .error _ _
  | @cons _ token inner position place rest others' akin =>
    simp only [List.length_cons] at short short'
    cases token with
    | comma =>
      cases akin with
      | finish position => exact .error _ _
      | swapped => exact .error _ _
      | @cons _ token inner' position' place' rest others akin =>
        simp only [List.length_cons] at short short'
        cases token with
        | rightBrace => exact .pure rfl akin (by omega) (by omega)
        | _ =>
          have whole : Akin swap back true (_ :: rest) (_ :: others) := .cons inner' position' place' akin
          refine (carried_depth whole).bind fun high _ left left' same akin shorter shorter' => ?_
          subst same
          simp only [List.length_cons] at shorter shorter'
          dsimp only
          split
          · exact .error _ _
          · refine (carried_expect rfl akin).bind fun _ _ rest others _ akin least least' => ?_
            dsimp only
            exact .pure rfl akin (by omega) (by omega)
    | _ =>
      have whole : Akin swap back true (_ :: rest) (_ :: others') := .cons inner position place akin
      refine (carried_expect rfl whole).bind fun _ _ rest others _ akin shorter shorter' => ?_
      simp only [List.length_cons] at shorter shorter'
      exact .pure rfl akin (by omega) (by omega)

theorem carried_bounded {selector other : Selector} (same : selector.bare = other.bare)
    (akin : Akin swap back opens tokens others) :
    Carried swap back (fun selector other => selector.bare = other.bare) (tokens.length + 1) (others.length + 1)
      (bounded selector tokens) (bounded other others) := by
  have name : selector.name = other.name := by rw [← bare_name, same, bare_name]
  have unbounded : Carried swap back (fun selector other => selector.bare = other.bare) (tokens.length + 1)
      (others.length + 1) (return (selector, tokens)) (return (other, others)) :=
    .pure same akin (Nat.lt_succ_self _) (Nat.lt_succ_self _)
  unfold bounded
  rw [← name]
  cases selector.name with
  | anyDeep =>
    cases akin with
    | finish position =>
      obtain ⟨ender, place, beyond, rfl, ends⟩ := closes
      cases ender <;> first | exact unbounded | cases ends
    | swapped => exact unbounded
    | @cons _ token inner position place rest others akin =>
      cases token with
      | leftBrace =>
        cases akin with
        | finish position =>
          obtain ⟨ender, place, beyond, rfl, ends⟩ := closes
          cases ender <;> first | exact unbounded | cases ends
        | swapped => exact unbounded
        | @cons _ token inner' position' place' rest others akin =>
          cases token with
          | integer n =>
            have whole : Akin swap back true (⟨.integer n, position'⟩ :: rest) (⟨.integer n, place'⟩ :: others) :=
              .cons inner' position' place' akin
            refine (carried_depthBounds whole).bind fun bounds _ rest others same' akin short short' => ?_
            subst same'
            simp only [List.length_cons] at short short' ⊢
            refine .pure ?_ akin (by omega) (by omega)
            simp only [bare_eq, Selector.mk.injEq] at same ⊢
            simp only [same, and_self]
          | _ => exact unbounded
      | _ => exact unbounded
  | _ => exact unbounded

/-- The selectors of a block up to the brace that closes it. -/
def enclosed (inside : Parser (List Selector)) : Parser (List Selector) := fun tokens => do
  let (children, rest) ← inside tokens
  let ((), rest) ← expect .rightBrace rest
  return (children, rest)

omit closes in
theorem block_filled (inside : Parser (List Selector)) (selector : Selector) (opening : Position) {tokens : Tokens}
    (filled : tokens.head ≠ .rightBrace) :
    block inside selector (⟨.leftBrace, opening⟩ :: tokens) = enclosed inside tokens >>= fun read =>
      return ({ selector with nested := true, children := Block.finish read.1 }, read.2) := by
  have opened : block inside selector (⟨.leftBrace, opening⟩ :: tokens) = inside tokens >>= fun read =>
      expect .rightBrace read.2 >>= fun closed =>
        return ({ selector with nested := true, children := Block.finish read.1 }, closed.2) := by
    rw [block]
    rintro position rest rfl
    exact filled rfl
  rw [opened, enclosed, bind_assoc]
  refine congrArg (_ >>= ·) (funext fun read => ?_)
  rw [bind_assoc]
  rfl

section Inside
variable {levels bound : Nat} {inside within : Parser (List Selector)}
  (carried : ∀ {tokens others : Tokens}, Akin swap back true tokens others → tokens.length ≤ levels →
    others.length ≤ bound → Carried swap back Block.SameBlock tokens.length others.length (enclosed inside tokens)
      (enclosed within others))

include carried

theorem carried_block {selector other : Selector} (same : selector.bare = other.bare)
    (low : tokens.length ≤ levels + 1) (low' : others.length ≤ bound + 1) (akin : Akin swap back opens tokens others) :
    Carried swap back (fun selector other => selector.bare = other.bare) (tokens.length + 1) (others.length + 1)
      (block inside selector tokens) (block within other others) := by
  have none : Carried swap back (fun selector other => selector.bare = other.bare) (tokens.length + 1)
      (others.length + 1) (return (selector, tokens)) (return (other, others)) :=
    .pure same akin (Nat.lt_succ_self _) (Nat.lt_succ_self _)
  cases akin with
  | finish position =>
    obtain ⟨ender, place, beyond, rfl, ends⟩ := closes
    cases ender <;> first | exact none | cases ends
  | swapped => exact none
  | @cons _ token inner position place rest others akin =>
    cases token with
    | leftBrace =>
      simp only [List.length_cons] at low low' ⊢
      have filled : rest.head ≠ .rightBrace → others.head ≠ .rightBrace →
          Carried swap back (fun selector other => selector.bare = other.bare) (rest.length + 1 + 1)
            (others.length + 1 + 1) (block inside selector (⟨.leftBrace, position⟩ :: rest))
            (block within other (⟨.leftBrace, place⟩ :: others)) := by
        intro left right
        rw [block_filled inside selector position left, block_filled within other place right]
        refine (carried akin (by omega) (by omega)).bind
          fun children others' rest others finished akin short short' => ?_
        dsimp only
        exact .pure (bare_withBlock same finished) akin (by omega) (by omega)
      cases akin with
      | finish position' =>
        -- Nothing can be read at the end, so that a brace behind the filter cannot close this block.
        have ended : Tokens.head [⟨.finish, position'⟩] ≠ .rightBrace := by rintro ⟨⟩
        rw [block_filled inside selector position ended]
        intro x left read
        obtain ⟨⟨children, behind⟩, reading, _⟩ := exists_of_bind_eq_ok read
        obtain ⟨_, _, _, _, akin, short, _⟩ := carried (.finish position') (by simpa using low) (by omega) _ _ reading
        cases akin <;> simp at short
      | swapped => exact filled (by rintro ⟨⟩) (by rintro ⟨⟩)
      | @cons _ token inner' position' place' rest others akin =>
        cases token with
        | rightBrace =>
          refine .pure (bare_withEmptyBlock same) akin ?_ ?_ <;>
            · simp only [List.length_cons]
              omega
        | _ => exact filled (by rintro ⟨⟩) (by rintro ⟨⟩)
    | _ => exact none

theorem carried_segment (low : tokens.length ≤ levels + 1) (low' : others.length ≤ bound + 1)
    (akin : Akin swap back false tokens others) :
    Carried swap back (fun selector other => selector.bare = other.bare) tokens.length others.length
      (segment inside tokens) (segment within others) := by
  rw [segment, segment]
  refine (carried_name akin).bind fun name _ rest others' same akin' short short' => ?_
  subst same
  have named : (named name tokens.position).bare = (named name others.position).bare := by
    rw [bare_named, bare_named]
  refine (carried_bounded closes named akin').bind fun selector other left left' same akin shorter shorter' => ?_
  refine (carried_calls closes (Nat.le_refl _) (Nat.le_refl _) same akin).bind
    fun selector other last last' same akin least least' => ?_
  exact (carried_block closes carried same (by omega) (by omega) akin).mono (by omega) (by omega)

/-! ### Selectors -/

theorem carried_path {steps limit : Nat} (enough : others.length ≤ limit) (low : tokens.length ≤ levels + 1)
    (low' : others.length ≤ bound + 1) (akin : Akin swap back false tokens others) :
    Carried swap back (fun selectors others => selectors.map bare = others.map bare) tokens.length others.length
      (path inside steps tokens) (path within limit others) := by
  induction steps generalizing limit tokens others with
  | zero => exact .error _ _
  | succ steps ih =>
    cases limit with
    | zero =>
      obtain ⟨ender, place, beyond, rfl, ends⟩ := closes
      cases akin <;> cases enough
    | succ limit =>
      rw [path, path]
      refine (carried_segment closes carried low low' akin).bind
        fun first second rest others' same akin short short' => ?_
      have single : [first].map bare = [second].map bare := congrArg (fun selector => [selector]) same
      have ended : Carried swap back (fun selectors others => selectors.map bare = others.map bare) tokens.length
          others.length (return ([first], rest)) (return ([second], others')) := .pure single akin short short'
      cases akin with
      | finish position =>
        obtain ⟨ender, place, beyond, rfl, ends⟩ := closes
        cases ender <;> first | exact ended | cases ends
      | swapped => exact ended
      | @cons _ token inner position place rest others' akin =>
        simp only [List.length_cons] at short short'
        cases token with
        | dot =>
          have called := isCall_akin closes akin
          simp only [← called]
          split
          · exact ended
          · refine (ih (by omega) (by omega) (by omega) akin).bind
              fun more more' rest others same' akin shorter shorter' => ?_
            dsimp only
            refine .pure ?_ akin (by omega) (by omega)
            rw [List.map_cons, List.map_cons, same, same']
        | _ => exact ended

omit closes carried in
theorem nest_bare {leaf leaf' : Selector} (same : leaf.bare = leaf'.bare) {parents parents' : List Selector}
    (same' : parents.map bare = parents'.map bare) {nested : Selector} (nests : nest leaf parents = .ok nested) :
    ∃ nested', nest leaf' parents' = .ok nested' ∧ nested.bare = nested'.bare := by
  induction parents generalizing parents' nested with
  | nil =>
    cases parents' with
    | cons => cases same'
    | nil =>
      cases nests
      exact ⟨leaf', rfl, same⟩
  | cons parent rest ih =>
    cases parents' with
    | nil => cases same'
    | cons parent' rest' =>
      rw [List.map_cons, List.map_cons, List.cons.injEq] at same'
      obtain ⟨same, same'⟩ := same'
      rw [nest] at nests ⊢
      cases inner : nest leaf rest with
      | error error =>
        rw [inner] at nests
        cases nests
      | ok child =>
        obtain ⟨child', inner', below⟩ := ih same' inner
        have together : parent.nested = parent'.nested := by rw [← bare_nested, same, bare_nested]
        rw [inner] at nests
        rw [inner']
        change (if parent.nested then _ else _) = _ at nests
        change ∃ nested', (if parent'.nested then _ else _) = _ ∧ _
        rw [← together]
        cases closed : parent.nested with
        | true =>
          rw [closed] at nests
          cases nests
        | false =>
          rw [closed] at nests
          cases nests
          refine ⟨_, rfl, ?_⟩
          have finished : (Block.finish [child]).map bare = (Block.finish [child']).map bare := by
            rw [Block.finish_bare, Block.finish_bare, List.map_singleton, List.map_singleton, below]
          exact bare_withBlock same finished

/-- A selector behind its sign. -/
def unsignedSelector (inside : Parser (List Selector)) (negated : Bool) : Parser Selector := fun tokens => do
  let (segments, rest) ← path inside tokens.length tokens
  match segments.getLast? with
  | some leaf => return (← nest { leaf with negated } segments.dropLast, rest)
  | none => Tokens.fail rest (.expectedName (Tokens.head rest))

theorem carried_unsignedSelector (negated : Bool) (low : tokens.length ≤ levels + 1) (low' : others.length ≤ bound + 1)
    (akin : Akin swap back false tokens others) :
    Carried swap back (fun selector other => selector.bare = other.bare) tokens.length others.length
      (unsignedSelector inside negated tokens) (unsignedSelector within negated others) := by
  rw [unsignedSelector, unsignedSelector]
  refine (carried_path closes carried (Nat.le_refl _) low low' akin).bind
    fun segments segments' left others same akin short short' => ?_
  have last : segments.getLast?.map bare = segments'.getLast?.map bare := by
    rw [← List.getLast?_map, ← List.getLast?_map, same]
  have front : segments.dropLast.map bare = segments'.dropLast.map bare := by
    rw [List.map_dropLast, List.map_dropLast, same]
  dsimp only
  cases leaf : segments.getLast? with
  | none => exact .error _ _
  | some selector =>
    cases leaf' : segments'.getLast? with
    | none => simp [leaf, leaf'] at last
    | some other =>
      rw [leaf, leaf', Option.map_some, Option.map_some, Option.some.injEq] at last
      have signed : ({ selector with negated } : Selector).bare = ({ other with negated } : Selector).bare :=
        bare_withSign last negated
      intro x behind read
      cases nests : nest { selector with negated } segments.dropLast with
      | error error =>
        simp only [nests] at read
        cases read
      | ok nested =>
        obtain ⟨nested', nests', below⟩ := nest_bare signed front nests
        simp only [nests] at read
        cases read
        exact ⟨nested', others, by simp only [nests']; rfl, below, akin, short, short'⟩

theorem carried_selector (low : tokens.length ≤ levels + 1) (low' : others.length ≤ bound + 1)
    (akin : Akin swap back false tokens others) :
    Carried swap back (fun selector other => selector.bare = other.bare) tokens.length others.length
      (selector inside tokens) (selector within others) := by
  have unsigned := carried_unsignedSelector closes carried false low low' akin
  cases akin with
  | finish position =>
    obtain ⟨ender, place, beyond, rfl, ends⟩ := closes
    cases ender <;> first | exact unsigned | cases ends
  | @cons _ token inner position place rest others akin =>
    simp only [List.length_cons] at low low'
    cases token with
    | minus =>
      have signed := carried_unsignedSelector closes carried true (by omega) (by omega) akin
      exact signed.mono (Nat.le_succ _) (Nat.le_succ _)
    | _ => exact unsigned

end Inside

end Closing

end Parser
end FieldSelect
