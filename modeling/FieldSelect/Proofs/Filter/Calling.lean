import FieldSelect.Proofs.Filter.Reading

/-! The calls of a filter. What is written between their parentheses are variables and values without parts. -/
namespace FieldSelect

/-- The values that a call is written with hold no others. -/
def Call.Plain (call : Call) : Prop := ∀ value, Argument.literal value ∈ call.arguments → value.height = 0

namespace Selector
variable {calling : Call → Prop} {selector : Selector}

/-- All calls of the selector, and of the selectors below it, are such calls. -/
inductive CallsOnly (calling : Call → Prop) : Selector → Prop where
  | intro {selector : Selector} (keys : ∀ call ∈ selector.keyCalls, calling call)
      (values : ∀ call ∈ selector.valueCalls, calling call)
      (inner : ∀ child ∈ selector.children, CallsOnly calling child) : CallsOnly calling selector

theorem CallsOnly.keys (only : selector.CallsOnly calling) : ∀ call ∈ selector.keyCalls, calling call := by
  cases only with
  | intro keys _ _ => exact keys

theorem CallsOnly.values (only : selector.CallsOnly calling) : ∀ call ∈ selector.valueCalls, calling call := by
  cases only with
  | intro _ values _ => exact values

theorem CallsOnly.inner (only : selector.CallsOnly calling) :
    ∀ child ∈ selector.children, child.CallsOnly calling := by
  cases only with
  | intro _ _ inner => exact inner

theorem callsOnly_named (name : Name) (position : Position) : (named name position).CallsOnly calling :=
  .intro nofun nofun nofun

theorem callsOnly_combine {finish : List Selector → List Selector} {a b : Selector} (only : a.CallsOnly calling)
    (only' : b.CallsOnly calling)
    (inner : ∀ child ∈ finish (a.children ++ b.children), child.CallsOnly calling) :
    (Block.combine finish a b).CallsOnly calling := by
  refine .intro ?_ ?_ inner
  · intro call member
    rcases List.mem_append.mp member with own | other
    · exact only.keys call own
    · exact only'.keys call other
  · intro call member
    rcases List.mem_append.mp member with own | other
    · exact only.values call own
    · exact only'.values call other

theorem callsOnly_finish {selectors : List Selector} (all : ∀ selector ∈ selectors, selector.CallsOnly calling) :
    ∀ selector ∈ Block.finish selectors, selector.CallsOnly calling :=
  Block.forall_mem_finish (callsOnly_named _) (fun _ only => only.inner)
    (fun _ _ only only' _ inner => callsOnly_combine only only' inner) all

theorem CallsOnly.withStage (only : selector.CallsOnly calling) (stage : Nat) :
    (selector.withStage stage).CallsOnly calling := by
  induction only with
  | @intro selector keys values _ ih =>
    rw [withStage_eq]
    refine .intro keys values ?_
    intro child member
    change child ∈ allWithStage stage selector.children at member
    rw [allWithStage_eq_map] at member
    obtain ⟨before, present, rfl⟩ := List.mem_map.mp member
    exact ih before present

end Selector

namespace Parser
open Tokens Selector
variable {calling : Call → Prop} {tokens rest : Tokens} {blocks : List (List Selector)}

theorem growth_callsOnly (called : ∀ tokens, Yields calling (call tokens)) :
    Growth (CallsOnly calling) (CallsOnly calling) calling where
  named name position := callsOnly_named name position
  bounds _ _ _ own _ _ := .intro own.keys own.values own.inner
  called := called
  keyCall _ _ own call := .intro (List.forall_mem_append.mpr ⟨own.keys, by simpa using call⟩) own.values own.inner
  valueCalls _ _ own calls := .intro own.keys (List.forall_mem_append.mpr ⟨own.values, calls⟩) own.inner
  unblocked _ own := own
  emptied _ own := .intro own.keys own.values own.inner
  filled _ _ own _ all := .intro own.keys own.values (callsOnly_finish all)
  nested _ _ own _ below := .intro own.keys own.values (callsOnly_finish (by simpa using below))
  negated _ _ own := .intro own.keys own.values own.inner

theorem height_of_wordValue? {word : String} {value : Value} (word_ : wordValue? word = some value) :
    value.height = 0 := by
  rw [wordValue?.eq_def] at word_
  split at word_ <;> cases word_ <;> rfl

/-- What an argument is written with, if it is not a variable. -/
def PlainArgument (argument : Argument) : Prop := ∀ value, argument = .literal value → value.height = 0

theorem yields_argument (tokens : Tokens) : Yields PlainArgument (argument tokens) := by
  have flat : ∀ value : Value, value.height = 0 → PlainArgument (.literal value) := by
    rintro value flat _ ⟨⟩
    exact flat
  rw [argument.eq_def]
  split
  · exact .pure (flat _ rfl) _
  · exact .pure (flat _ rfl) _
  · exact .pure (flat _ rfl) _
  · exact .pure nofun _
  · split
    · rename_i named
      exact .pure (flat _ (height_of_wordValue? named)) _
    · exact .error _
  · exact .pure (flat _ rfl) _
  · exact .pure (flat _ rfl) _
  · exact .error _
  · exact .error _

theorem yields_arguments (steps : Nat) (tokens : Tokens) :
    Yields (fun arguments => ∀ argument ∈ arguments, PlainArgument argument) (arguments steps tokens) := by
  induction steps generalizing tokens with
  | zero =>
    rw [arguments.eq_def]
    split
    · exact .pure nofun _
    · exact .error _
    · contradiction
  | succ steps ih =>
    rw [arguments.eq_def]
    split
    · exact .pure nofun _
    · contradiction
    · rename_i same _
      cases same
      refine (yields_argument _).bind fun first rest own => ?_
      dsimp only
      split
      · exact .pure (by simpa using own) _
      · refine (Yields.any _).bind fun _ rest _ => ?_
        exact (ih _).bind fun more rest others => .pure (List.forall_mem_cons.mpr ⟨own, others⟩) _

theorem yields_call (tokens : Tokens) : Yields Call.Plain (call tokens) := by
  rw [call.eq_def]
  split
  · refine (Yields.any _).bind fun _ rest _ => ?_
    refine (yields_arguments _ _).bind fun arguments rest plain => .pure ?_ _
    intro value member
    exact plain _ member value rfl
  · exact .error _

theorem Staged.callsOnly (called : ∀ tokens, Yields calling (call tokens)) (staged : Staged tokens blocks rest) :
    ∀ block ∈ blocks, ∀ selector ∈ block, selector.CallsOnly calling := by
  have stage : ∀ tokens, Yields (fun block => ∀ selector ∈ block, selector.CallsOnly calling) (stage tokens) := by
    intro tokens block rest read
    rcases (growth_callsOnly called).yields_stage tokens block rest read with ⟨position, rfl⟩ | ⟨selected, _, all, rfl⟩
    · intro selector member
      rw [List.mem_singleton.mp member]
      exact callsOnly_named _ _
    · exact callsOnly_finish all
  induction staged with
  | last read _ => simpa using stage _ _ _ read
  | bar read _ ih => exact List.forall_mem_cons.mpr ⟨stage _ _ _ read, ih⟩

theorem callsOnly_numbered {number : Nat}
    (all : ∀ block ∈ blocks, ∀ selector ∈ block, selector.CallsOnly calling) :
    ∀ selector ∈ numbered number blocks, selector.CallsOnly calling :=
  forall_mem_numbered (fun _ stage only => only.withStage stage) all

end Parser

/-- The calls of a compiled filter are plain, wherever they stand. -/
theorem compile_plain {text : String} {tree : Tree} (compiled : compile text = .ok tree) :
    ∀ selector ∈ tree.selectors, selector.CallsOnly Call.Plain := by
  obtain ⟨_, tokens, blocks, position, _, _, staged, made⟩ := compile_ok compiled
  rw [made.selectors]
  exact Parser.callsOnly_numbered (staged.callsOnly Parser.yields_call)

end FieldSelect
