import FieldSelect.Proofs.Filter.Rereading

/-! The places of tokens decide nothing but places. The same tokens elsewhere are read as the same selectors, or refused
for the same reason, and the reason is reported at the same token. -/
namespace FieldSelect

/-- The same tokens up to the end, with related places. -/
inductive Tokens.Alike (Q : Position → Position → Prop) : Tokens → Tokens → Prop where
  | finish {p q : Position} (placed : Q p q) : Alike Q [⟨.finish, p⟩] [⟨.finish, q⟩]
  | cons {token : Token} (inner : token ≠ .finish) {p q : Position} (placed : Q p q) {tokens others : Tokens}
      (alike : Alike Q tokens others) : Alike Q (⟨token, p⟩ :: tokens) (⟨token, q⟩ :: others)

/-- Two results that are related, or the same fault at related places. -/
inductive Agree {α : Type} (Q : Position → Position → Prop) (R : α → α → Prop) :
    Except ParseError α → Except ParseError α → Prop where
  | ok {x y : α} (related : R x y) : Agree Q R (.ok x) (.ok y)
  | error (fault : ParseFault) {p q : Position} (placed : Q p q) : Agree Q R (.error ⟨fault, p⟩) (.error ⟨fault, q⟩)

section Results
variable {α β : Type} {Q : Position → Position → Prop} {R : α → α → Prop} {S : β → β → Prop}
  {first second : Except ParseError α}

theorem Agree.bind {next onward : α → Except ParseError β} (agree : Agree Q R first second)
    (rest : ∀ x y, R x y → Agree Q S (next x) (onward y)) : Agree Q S (first >>= next) (second >>= onward) := by
  cases agree with
  | ok related => exact rest _ _ related
  | error fault placed => exact .error fault placed

end Results

namespace Tokens.Alike
variable {Q : Position → Position → Prop} {tokens others : Tokens}

theorem words (alike : Alike Q tokens others) : tokens.words = others.words := by
  induction alike with
  | finish => rfl
  | cons _ _ _ ih => simp [ih]

theorem length (alike : Alike Q tokens others) : tokens.length = others.length := by
  have same := congrArg List.length alike.words
  simpa only [Tokens.words, List.length_map] using same

theorem head (alike : Alike Q tokens others) : tokens.head = others.head := by
  cases alike <;> rfl

theorem position (alike : Alike Q tokens others) : Q tokens.position others.position := by
  cases alike with
  | finish placed => exact placed
  | cons _ placed => exact placed

theorem isCall (alike : Alike Q tokens others) : Parser.isCall tokens = Parser.isCall others := by
  rw [Parser.isCall_eq, Parser.isCall_eq, alike.words]

/-- Tokens with the same words are alike in whatever holds of their places in turn. -/
theorem of_words {read : List Token} (inner : ∀ token ∈ read, token ≠ .finish) (own : tokens.words = read ++ [.finish])
    (own' : others.words = read ++ [.finish])
    (placed : ∀ pair ∈ tokens.zip others, Q pair.1.position pair.2.position) : Alike Q tokens others := by
  induction read generalizing tokens others with
  | nil =>
    obtain ⟨p, _, rfl, none⟩ := of_words_cons own
    obtain ⟨q, _, rfl, none'⟩ := of_words_cons own'
    cases List.map_eq_nil_iff.mp none
    cases List.map_eq_nil_iff.mp none'
    exact .finish (placed _ List.mem_cons_self)
  | cons token read ih =>
    obtain ⟨proper, others_⟩ := List.forall_mem_cons.mp inner
    obtain ⟨p, rest, rfl, behind⟩ := of_words_cons own
    obtain ⟨q, rest', rfl, behind'⟩ := of_words_cons own'
    rw [List.zip_cons_cons] at placed
    obtain ⟨first, onward⟩ := List.forall_mem_cons.mp placed
    exact .cons proper first (ih others_ behind behind' onward)

end Tokens.Alike

/-- Selectors that are the same but for their places, with related places of their own. -/
structure Selector.Placed (Q : Position → Position → Prop) (selector other : Selector) : Prop where
  bare : selector.bare = other.bare
  place : Q selector.position other.position

namespace Parser
open Tokens Selector
variable {α β : Type} {Q : Position → Position → Prop} {R : α → α → Prop} {S : β → β → Prop} {tokens others : Tokens}

/-- Both read the same up to `R`, with tokens left over that are alike, or both fail alike. -/
def ReadAlike (Q : Position → Position → Prop) (R : α → α → Prop) : Except ParseError (α × Tokens) →
    Except ParseError (α × Tokens) → Prop :=
  Agree Q fun read read' => R read.1 read'.1 ∧ Alike Q read.2 read'.2

theorem ReadAlike.ok {x y : α} (related : R x y) (alike : Alike Q tokens others) :
    ReadAlike Q R (.ok (x, tokens)) (.ok (y, others)) :=
  Agree.ok ⟨related, alike⟩

theorem ReadAlike.fail (fault : ParseFault) (alike : Alike Q tokens others) :
    ReadAlike Q R (tokens.fail fault) (others.fail fault) :=
  Agree.error fault alike.position

theorem ReadAlike.bind {first second : Except ParseError (α × Tokens)}
    {next onward : α × Tokens → Except ParseError (β × Tokens)} (read : ReadAlike Q R first second)
    (rest : ∀ x y tokens others, R x y → Alike Q tokens others →
      ReadAlike Q S (next (x, tokens)) (onward (y, others))) :
    ReadAlike Q S (first >>= next) (second >>= onward) := by
  apply Agree.bind read
  rintro ⟨x, tokens⟩ ⟨y, others⟩ ⟨related, alike⟩
  exact rest x y tokens others related alike

theorem alike_expect {wanted : Token} (sign : isSign wanted .finish = false) (alike : Alike Q tokens others) :
    ReadAlike Q Eq (expect wanted tokens) (expect wanted others) := by
  have whole := alike
  cases alike with
  | finish placed =>
    rw [expect, expect, sign]
    exact .fail _ whole
  | @cons token inner p q placed rest others alike =>
    rw [expect, expect]
    by_cases found : isSign wanted token = true
    · simp only [found, if_true]
      exact .ok rfl alike
    · simp only [found]
      exact .fail _ whole

/-! ### Calls -/

theorem alike_argument (alike : Alike Q tokens others) : ReadAlike Q Eq (argument tokens) (argument others) := by
  have whole := alike
  cases alike with
  | finish placed => exact .fail _ whole
  | @cons token inner p q placed rest others alike =>
    cases token with
    | identifier word =>
      rw [argument, argument]
      cases wordValue? word with
      | some value => exact .ok rfl alike
      | none => exact .fail _ whole
    | minus =>
      have behind := alike
      cases alike with
      | finish placed => exact .fail _ behind
      | @cons token inner p q placed rest others alike =>
        cases token <;> first | exact .ok rfl alike | exact .fail _ behind
    | _ => first | exact .ok rfl alike | exact .fail _ whole

theorem alike_arguments (steps : Nat) (alike : Alike Q tokens others) :
    ReadAlike Q Eq (arguments steps tokens) (arguments steps others) := by
  induction steps generalizing tokens others with
  | zero =>
    have whole := alike
    cases alike with
    | finish placed => exact .fail _ whole
    | @cons token inner p q placed rest others alike =>
      cases token <;> first | exact .ok rfl alike | exact .fail _ whole
  | succ steps ih =>
    have whole := alike
    cases alike with
    | finish placed => exact .fail _ whole
    | @cons token inner p q placed rest others alike =>
      by_cases closing : token = .rightParen
      · subst closing
        exact .ok rfl alike
      · rw [arguments, arguments]
        · refine (alike_argument whole).bind fun first second rest others same alike => ?_
          subst same
          have behind := alike
          have more : ReadAlike Q Eq
              (expect .comma rest >>= fun read =>
                arguments steps read.2 >>= fun more => return (first :: more.1, more.2))
              (expect .comma others >>= fun read =>
                arguments steps read.2 >>= fun more => return (first :: more.1, more.2)) := by
            refine (alike_expect rfl behind).bind fun _ _ rest others _ alike => ?_
            refine (ih alike).bind fun more _ rest others same alike => ?_
            exact .ok (congrArg (first :: ·) same) alike
          cases alike with
          | finish placed => exact more
          | @cons token inner p q placed rest others alike =>
            cases token with
            | rightParen => exact .ok rfl alike
            | _ => exact more
        all_goals
          rintro _ _ ⟨⟩
          exact closing rfl

theorem alike_call (alike : Alike Q tokens others) :
    ReadAlike Q (fun call other => call.bare = other.bare) (call tokens) (call others) := by
  have whole := alike
  cases alike with
  | finish placed => exact .fail _ whole
  | @cons token inner p q placed rest others alike =>
    cases token with
    | identifier name =>
      rw [call, call]
      refine (alike_expect rfl alike).bind fun _ _ rest others _ alike => ?_
      dsimp only
      rw [alike.length]
      refine (alike_arguments _ alike).bind fun arguments _ rest others same alike => ?_
      subst same
      exact .ok rfl alike
    | _ => exact .fail _ whole

theorem alike_bracketCalls (steps : Nat) (alike : Alike Q tokens others) :
    ReadAlike Q (fun calls others => calls.map Call.bare = others.map Call.bare) (bracketCalls steps tokens)
      (bracketCalls steps others) := by
  induction steps generalizing tokens others with
  | zero =>
    rw [bracketCalls, bracketCalls, alike.head]
    exact .fail _ alike
  | succ steps ih =>
    rw [bracketCalls, bracketCalls]
    refine (alike_call alike).bind fun first second rest others same alike => ?_
    have last : ReadAlike Q (fun calls others => calls.map Call.bare = others.map Call.bare)
        (expect .rightBracket rest >>= fun read => return ([first], read.2))
        (expect .rightBracket others >>= fun read => return ([second], read.2)) := by
      refine (alike_expect rfl alike).bind fun _ _ rest others _ alike => ?_
      exact .ok (by simp [same]) alike
    cases alike with
    | finish placed => exact last
    | @cons token inner p q placed rest others alike =>
      have more : ReadAlike Q (fun calls others => calls.map Call.bare = others.map Call.bare)
          (bracketCalls steps rest >>= fun read => return (first :: read.1, read.2))
          (bracketCalls steps others >>= fun read => return (second :: read.1, read.2)) := by
        refine (ih alike).bind fun more more' rest others same' alike => ?_
        exact .ok (by simp [same, same']) alike
      cases token with
      | dot | comma => exact more
      | _ => exact last

theorem alike_calls (steps : Nat) {selector other : Selector} (same : selector.Placed Q other)
    (alike : Alike Q tokens others) :
    ReadAlike Q (Placed Q) (calls steps selector tokens) (calls steps other others) := by
  induction steps generalizing selector other tokens others with
  | zero => exact .ok same alike
  | succ steps ih =>
    have whole := alike
    cases alike with
    | finish placed => exact .ok same whole
    | @cons token inner p q placed rest others alike =>
      cases token with
      | colon =>
        refine (alike_call alike).bind fun first second rest others same' alike => ?_
        have single : [first].map Call.bare = [second].map Call.bare := by simp [same']
        exact ih ⟨bare_addKeyCalls same.bare single, same.place⟩ alike
      | dot =>
        rw [calls, calls, alike.isCall]
        split
        · refine (alike_call alike).bind fun first second rest others same' alike => ?_
          have single : [first].map Call.bare = [second].map Call.bare := by simp [same']
          exact ih ⟨bare_addValueCalls same.bare single, same.place⟩ alike
        · exact .ok same whole
      | leftBracket =>
        rw [calls, calls, alike.length]
        refine (alike_bracketCalls _ alike).bind fun added added' rest others same' alike => ?_
        exact ih ⟨bare_addValueCalls same.bare same', same.place⟩ alike
      | _ => exact .ok same whole

/-! ### Segments -/

theorem alike_name (alike : Alike Q tokens others) : ReadAlike Q Eq (name tokens) (name others) := by
  have whole := alike
  cases alike with
  | finish placed => exact .fail _ whole
  | @cons token inner p q placed rest others alike =>
    cases token with
    | glob glob =>
      rw [name, name]
      cases Name.glob? glob with
      | ok name => exact .ok rfl alike
      | error fault => exact .fail _ whole
    | regex pattern ignoresCase =>
      rw [name, name]
      cases Name.regex? pattern ignoresCase with
      | ok name => exact .ok rfl alike
      | error fault => exact .fail _ whole
    | _ => first | exact .ok rfl alike | exact .fail _ whole

theorem alike_depth (alike : Alike Q tokens others) : ReadAlike Q Eq (depth tokens) (depth others) := by
  have whole := alike
  cases alike with
  | finish placed => exact .fail _ whole
  | @cons token inner p q placed rest others alike =>
    cases token <;> first | exact .ok rfl alike | exact .fail _ whole

theorem alike_depthBounds (alike : Alike Q tokens others) :
    ReadAlike Q Eq (depthBounds tokens) (depthBounds others) := by
  rw [depthBounds, depthBounds]
  refine (alike_depth alike).bind fun low _ rest others same alike => ?_
  subst same
  have ended : ReadAlike Q Eq
      (expect .rightBrace rest >>= fun read => return ((low, (none : Option Nat)), read.2))
      (expect .rightBrace others >>= fun read => return ((low, none), read.2)) :=
    (alike_expect rfl alike).bind fun _ _ rest others _ alike => .ok rfl alike
  cases alike with
  | finish placed => exact ended
  | @cons token inner p q placed rest others alike =>
    cases token with
    | comma =>
      have whole := alike
      cases alike with
      | finish placed => exact .fail _ whole
      | @cons token inner p q placed rest others alike =>
        cases token with
        | rightBrace => exact .ok rfl alike
        | _ =>
          refine (alike_depth whole).bind fun high _ rest others same alike => ?_
          subst same
          dsimp only
          split
          · exact .fail _ whole
          · exact (alike_expect rfl alike).bind fun _ _ rest others _ alike => .ok rfl alike
    | _ => exact ended

theorem alike_bounded {selector other : Selector} (same : selector.Placed Q other) (alike : Alike Q tokens others) :
    ReadAlike Q (Placed Q) (bounded selector tokens) (bounded other others) := by
  have unbounded : ReadAlike Q (Placed Q) (return (selector, tokens)) (return (other, others)) := .ok same alike
  have name : selector.name = other.name := by rw [← bare_name, same.bare, bare_name]
  unfold bounded
  rw [← name]
  cases selector.name with
  | anyDeep =>
    cases alike with
    | finish placed => exact unbounded
    | @cons token inner p q placed rest others alike =>
      cases token with
      | leftBrace =>
        have behind := alike
        cases alike with
        | finish placed => exact unbounded
        | @cons token inner p q placed rest others alike =>
          cases token with
          | integer n =>
            refine (alike_depthBounds behind).bind fun bounds _ rest others same' alike => ?_
            subst same'
            refine .ok ⟨?_, same.place⟩ alike
            have own := same.bare
            simp only [bare_eq, Selector.mk.injEq] at own ⊢
            simp only [own, and_self]
          | _ => exact unbounded
      | _ => exact unbounded
  | _ => exact unbounded

section Inside
variable {inside : Parser (List Selector)} (within : ∀ {tokens others : Tokens}, Alike Q tokens others →
  ReadAlike Q (fun selectors others => selectors.map bare = others.map bare) (inside tokens) (inside others))

include within

theorem alike_block {selector other : Selector} (same : selector.Placed Q other) (alike : Alike Q tokens others) :
    ReadAlike Q (Placed Q) (block inside selector tokens) (block inside other others) := by
  have whole := alike
  cases alike with
  | finish placed => exact .ok same whole
  | @cons token inner p q placed rest others alike =>
    cases token with
    | leftBrace =>
      by_cases empty : rest.head = .rightBrace
      · cases alike with
        | finish => cases empty
        | cons inner placed alike =>
          obtain rfl := empty
          exact .ok ⟨bare_withEmptyBlock same.bare, same.place⟩ alike
      · rw [block_filled inside selector p empty, block_filled inside other q (alike.head ▸ empty), enclosed, enclosed,
          bind_assoc, bind_assoc]
        refine (within alike).bind fun children children' rest others same' alike => ?_
        refine ReadAlike.bind (R := fun selectors others => selectors.map bare = others.map bare)
          ((alike_expect rfl alike).bind fun _ _ rest others _ alike => .ok same' alike)
          fun children children' rest others same' alike => ?_
        have finished : (Block.finish children).map bare = (Block.finish children').map bare := by
          rw [Block.finish_bare, Block.finish_bare, same']
        exact .ok ⟨bare_withBlock same.bare finished, same.place⟩ alike
    | _ => exact .ok same whole

theorem alike_segment (alike : Alike Q tokens others) :
    ReadAlike Q (Placed Q) (segment inside tokens) (segment inside others) := by
  have place := alike.position
  rw [segment, segment]
  refine (alike_name alike).bind fun name _ rest others same alike => ?_
  subst same
  refine (alike_bounded ⟨by simp, place⟩ alike).bind fun selector other rest others same alike => ?_
  dsimp only
  rw [alike.length]
  refine (alike_calls _ same alike).bind fun selector other rest others same alike => ?_
  exact alike_block within same alike

/-! ### Selectors -/

theorem alike_path (steps : Nat) (alike : Alike Q tokens others) :
    ReadAlike Q (List.Forall₂ (Placed Q)) (path inside steps tokens) (path inside steps others) := by
  induction steps generalizing tokens others with
  | zero =>
    rw [path, path, alike.head]
    exact .fail _ alike
  | succ steps ih =>
    rw [path, path]
    refine (alike_segment within alike).bind fun first second rest others same alike => ?_
    have last : ReadAlike Q (List.Forall₂ (Placed Q)) (return ([first], rest)) (return ([second], others)) :=
      .ok (.cons same .nil) alike
    cases alike with
    | finish placed => exact last
    | @cons token inner p q placed rest others alike =>
      cases token with
      | dot =>
        dsimp only
        rw [alike.isCall]
        split
        · exact last
        · refine (ih alike).bind fun more more' rest others same' alike => ?_
          exact .ok (.cons same same') alike
      | _ => exact last

omit within in
theorem alike_nest {leaf leaf' : Selector} (same : leaf.bare = leaf'.bare) {parents parents' : List Selector}
    (same' : List.Forall₂ (Placed Q) parents parents') :
    Agree Q (fun selector other => selector.bare = other.bare) (nest leaf parents) (nest leaf' parents') := by
  induction same' with
  | nil => exact .ok same
  | @cons parent parent' parents parents' own others ih =>
    rw [nest, nest]
    refine ih.bind fun child child' below => ?_
    have together : parent.nested = parent'.nested := by rw [← bare_nested, own.bare, bare_nested]
    have named : parent.name = parent'.name := by rw [← bare_name, own.bare, bare_name]
    rw [← together]
    cases parent.nested with
    | true =>
      rw [← named]
      exact .error _ own.place
    | false =>
      have finished : (Block.finish [child]).map bare = (Block.finish [child']).map bare := by
        rw [Block.finish_bare, Block.finish_bare, List.map_singleton, List.map_singleton, below]
      exact .ok (bare_withBlock own.bare finished)

omit within in
/-- The last segments are of one kind, and so are those before. -/
theorem forall₂_getLast? {segments segments' : List Selector} (same : List.Forall₂ (Placed Q) segments segments') :
    List.Forall₂ (Placed Q) segments.dropLast segments'.dropLast ∧
      Option.Rel (Placed Q) segments.getLast? segments'.getLast? := by
  induction same with
  | nil => exact ⟨.nil, .none⟩
  | cons first others ih =>
    cases others with
    | nil => exact ⟨.nil, .some first⟩
    | cons next others => exact ⟨.cons first ih.1, by simpa using ih.2⟩

theorem alike_unsignedSelector (negated : Bool) (alike : Alike Q tokens others) :
    ReadAlike Q (fun selector other => selector.bare = other.bare) (unsignedSelector inside negated tokens)
      (unsignedSelector inside negated others) := by
  rw [unsignedSelector, unsignedSelector, alike.length]
  refine (alike_path within _ alike).bind fun segments segments' rest others same alike => ?_
  obtain ⟨parents, leaf⟩ := forall₂_getLast? same
  dsimp only
  generalize segments.getLast? = last at leaf
  generalize segments'.getLast? = last' at leaf
  cases leaf with
  | none => exact alike.head ▸ .fail _ alike
  | @some leaf leaf' same =>
    exact (alike_nest (bare_withSign same.bare negated) parents).bind fun selector other same => .ok ⟨same, alike⟩

theorem alike_selector (alike : Alike Q tokens others) :
    ReadAlike Q (fun selector other => selector.bare = other.bare) (selector inside tokens)
      (selector inside others) := by
  by_cases signed : tokens.head = .minus
  · cases alike with
    | finish => cases signed
    | cons inner placed alike =>
      obtain rfl := signed
      exact alike_unsignedSelector within true alike
  · rw [selector_unsigned signed, selector_unsigned (alike.head ▸ signed)]
    exact alike_unsignedSelector within false alike

theorem alike_selectorsWith (steps : Nat) (alike : Alike Q tokens others) :
    ReadAlike Q (fun selectors others => selectors.map bare = others.map bare) (selectorsWith inside steps tokens)
      (selectorsWith inside steps others) := by
  induction steps generalizing tokens others with
  | zero =>
    rw [selectorsWith, selectorsWith, alike.head]
    exact .fail _ alike
  | succ steps ih =>
    rw [selectorsWith, selectorsWith]
    refine (alike_selector within alike).bind fun first second rest others same alike => ?_
    have last : ReadAlike Q (fun selectors others => selectors.map bare = others.map bare) (return ([first], rest))
        (return ([second], others)) := .ok (by simp [same]) alike
    cases alike with
    | finish placed => exact last
    | @cons token inner p q placed rest others alike =>
      cases token with
      | comma =>
        refine (ih alike).bind fun more more' rest others same' alike => ?_
        exact .ok (by simp [same, same']) alike
      | _ => exact last

end Inside

theorem alike_selectors (levels : Nat) (alike : Alike Q tokens others) :
    ReadAlike Q (fun selectors others => selectors.map bare = others.map bare) (selectors levels tokens)
      (selectors levels others) := by
  induction levels generalizing tokens others with
  | zero =>
    rw [selectors, selectors, alike.head]
    exact .fail _ alike
  | succ levels ih =>
    rw [selectors, selectors, alike.length]
    exact alike_selectorsWith ih _ alike

/-! ### Stages -/

theorem alike_stage (alike : Alike Q tokens others) :
    ReadAlike Q (fun selectors others => selectors.map bare = others.map bare) (stage tokens) (stage others) := by
  rw [stage, stage, alike.head, alike.length]
  have everything : ReadAlike Q (fun selectors others => selectors.map bare = others.map bare)
      (return ([Selector.named .anyDeep tokens.position], tokens))
      (return ([Selector.named .anyDeep others.position], others)) := .ok (by simp) alike
  split
  · exact everything
  · exact everything
  · refine (alike_selectors _ alike).bind fun selectors selectors' rest others same alike => ?_
    exact .ok (by simp [Block.finish_bare, same]) alike

theorem alike_stages (steps number : Nat) (alike : Alike Q tokens others) :
    ReadAlike Q (fun selectors others => selectors.map unplaced = others.map unplaced) (stages steps number tokens)
      (stages steps number others) := by
  induction steps generalizing number tokens others with
  | zero =>
    rw [stages, stages, alike.head]
    exact .fail _ alike
  | succ steps ih =>
    rw [stages, stages]
    refine (alike_stage alike).bind fun selectors selectors' rest others same alike => ?_
    have staged : (allWithStage number selectors).map unplaced = (allWithStage number selectors').map unplaced := by
      simp only [allWithStage_eq_map, List.map_map, Function.comp_def, unplaced_withStage]
      simpa only [List.map_map, Function.comp_def] using congrArg (List.map (withStage number)) same
    have last : ReadAlike Q (fun selectors others => selectors.map unplaced = others.map unplaced)
        (return (allWithStage number selectors, rest)) (return (allWithStage number selectors', others)) :=
      .ok staged alike
    cases alike with
    | finish placed => exact last
    | @cons token inner p q placed rest others alike =>
      cases token with
      | pipe =>
        refine (ih (number + 1) alike).bind fun more more' rest others same' alike => ?_
        exact .ok (by simp [staged, same']) alike
      | _ => exact last

/-- The same tokens elsewhere are the same filter, or fail at the same token. -/
theorem alike_filter (alike : Alike Q tokens others) :
    Agree Q (fun selectors others => selectors.map unplaced = others.map unplaced) (filter tokens) (filter others) := by
  rw [filter, filter, alike.length]
  apply Agree.bind (alike_stages _ 0 alike)
  rintro ⟨selectors, rest⟩ ⟨selectors', others⟩ ⟨same, alike⟩
  cases alike with
  | finish placed => exact .ok same
  | @cons token inner p q placed rest others alike =>
    have open_ : isSign .finish token = false := by
      cases token <;> first | rfl | exact absurd rfl inner
    simp only [expect, open_]
    exact .error _ placed

end Parser
end FieldSelect
