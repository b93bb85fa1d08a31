import FieldSelect.Proofs.Filter.Interchanging
import FieldSelect.Proofs.Filter.Reading

/-! Where the names of a filter come from. Each of them is read from a token, but for the wildcards that stand for what
is not written: a block that only drops fields is completed by one, and a stage without selectors is one. -/
namespace FieldSelect
open Selector

namespace Selector
variable {naming : Name → Prop} {selector : Selector} {selectors : List Selector}

/-- The name of the selector, and those of the selectors below it, are such names. -/
inductive NamesOnly (naming : Name → Prop) : Selector → Prop where
  | intro {selector : Selector} (own : naming selector.name)
      (inner : ∀ child ∈ selector.children, NamesOnly naming child) : NamesOnly naming selector

theorem NamesOnly.own (only : selector.NamesOnly naming) : naming selector.name := by
  cases only with
  | intro own _ => exact own

theorem NamesOnly.inner (only : selector.NamesOnly naming) :
    ∀ child ∈ selector.children, child.NamesOnly naming := by
  cases only with
  | intro _ inner => exact inner

theorem NamesOnly.of_within (within : Within selector selectors)
    (all : ∀ selector ∈ selectors, selector.NamesOnly naming) : selector.NamesOnly naming := by
  induction within with
  | here member => exact all selector member
  | deeper member _ ih => exact ih (all _ member).inner

theorem namesOnly_finish (star : naming .anyShallow) (all : ∀ selector ∈ selectors, selector.NamesOnly naming) :
    ∀ selector ∈ Block.finish selectors, selector.NamesOnly naming :=
  Block.forall_mem_finish (fun _ => .intro star nofun) (fun _ only => only.inner)
    (fun _ _ only _ _ inner => .intro only.own inner) all

theorem NamesOnly.withStage (only : selector.NamesOnly naming) (stage : Nat) :
    (selector.withStage stage).NamesOnly naming := by
  induction only with
  | @intro selector own _ ih =>
    rw [withStage_eq]
    refine .intro own ?_
    intro child member
    change child ∈ allWithStage stage selector.children at member
    rw [allWithStage_eq_map] at member
    obtain ⟨before, present, rfl⟩ := List.mem_map.mp member
    exact ih before present

end Selector

namespace Parser
open Tokens Grammar
variable {naming : Name → Prop} {tokens rest : Tokens} {holder selector : Selector}

/-- Whatever name is read from one of the tokens is such a name. -/
def Sources (naming : Name → Prop) (tokens : Tokens) : Prop :=
  ∀ token ∈ tokens.words, ∀ name, token.Names name → naming name

theorem Sources.behind {front : List Token} (sources : Sources naming tokens)
    (spells : tokens.words = front ++ rest.words) : Sources naming rest := by
  intro token member
  exact sources token (spells ▸ List.mem_append_right front member)

theorem Sources.tail {spanned : Spanned} (sources : Sources naming (spanned :: rest)) : Sources naming rest := by
  have spells : words (spanned :: rest) = [spanned.token] ++ rest.words := rfl
  exact sources.behind spells

theorem Sources.own {read_ : Name} (sources : Sources naming tokens) (read : name tokens = .ok (read_, rest)) :
    naming read_ := by
  obtain ⟨token, spells, names⟩ := names_of_name read
  exact sources token (spells ▸ List.mem_cons_self) read_ names

/-! ### Segments -/

theorem bounded_keeps (read : bounded holder tokens = .ok (selector, rest)) :
    selector.name = holder.name ∧ selector.children = holder.children := by
  rw [bounded.eq_def] at read
  split at read
  · obtain ⟨_, _, read⟩ := exists_of_bind_eq_ok read
    cases read
    exact ⟨rfl, rfl⟩
  · cases read
    exact ⟨rfl, rfl⟩

theorem calls_keeps {steps : Nat} (read : calls steps holder tokens = .ok (selector, rest)) :
    selector.name = holder.name ∧ selector.children = holder.children := by
  induction steps generalizing tokens holder with
  | zero =>
    cases read
    exact ⟨rfl, rfl⟩
  | succ steps ih =>
    rw [calls.eq_def] at read
    dsimp only at read
    split at read
    · obtain ⟨_, _, read⟩ := exists_of_bind_eq_ok read
      obtain ⟨same, below⟩ := ih read
      exact ⟨same, below⟩
    · split at read
      · obtain ⟨_, _, read⟩ := exists_of_bind_eq_ok read
        obtain ⟨same, below⟩ := ih read
        exact ⟨same, below⟩
      · cases read
        exact ⟨rfl, rfl⟩
    · obtain ⟨_, _, read⟩ := exists_of_bind_eq_ok read
      obtain ⟨same, below⟩ := ih read
      exact ⟨same, below⟩
    · cases read
      exact ⟨rfl, rfl⟩

/-- What the selectors of a block take from the tokens, and which names they have. -/
structure Sourced (naming : Name → Prop) (inside : Parser (List Selector)) : Prop where
  derives : ∀ {tokens rest : Tokens} {selected : List Selector}, inside tokens = .ok (selected, rest) →
    ∃ front, tokens.words = front ++ rest.words ∧ Derives .selectors front
  names : ∀ {tokens rest : Tokens} {selected : List Selector}, inside tokens = .ok (selected, rest) →
    Sources naming tokens → ∀ selector ∈ selected, selector.NamesOnly naming

section Inside
variable {inside : Parser (List Selector)} (sourced : Sourced naming inside) (star : naming .anyShallow)
include sourced star

theorem namesOnly_of_block (own : naming holder.name) (childless : holder.children = [])
    (sources : Sources naming tokens) (read : block inside holder tokens = .ok (selector, rest)) :
    selector.NamesOnly naming := by
  rw [block.eq_def] at read
  split at read
  · cases read
    exact .intro own fun child member => by simp [childless] at member
  · obtain ⟨⟨children, behind⟩, reading, read⟩ := exists_of_bind_eq_ok read
    obtain ⟨_, _, read⟩ := exists_of_bind_eq_ok read
    cases read
    exact .intro own (namesOnly_finish star (sourced.names reading sources.tail))
  · cases read
    exact .intro own fun child member => by simp [childless] at member

theorem namesOnly_of_segment (sources : Sources naming tokens)
    (read : segment inside tokens = .ok (selector, rest)) : selector.NamesOnly naming := by
  rw [segment] at read
  obtain ⟨⟨name, left⟩, reading, read⟩ := exists_of_bind_eq_ok read
  obtain ⟨⟨deep, within⟩, bounding, read⟩ := exists_of_bind_eq_ok read
  obtain ⟨⟨acting, last⟩, calling, blocking⟩ := exists_of_bind_eq_ok read
  obtain ⟨pattern, named, _⟩ := words_of_name reading
  obtain ⟨_, _, opening, _⟩ := words_of_bounded bounding
  obtain ⟨_, act, _⟩ := words_of_calls calling
  have named' := bounded_keeps bounding
  have acted := calls_keeps calling
  have whole : tokens.words = [pattern] ++ left.words := named
  have behind : Sources naming last := ((sources.behind whole).behind opening).behind act
  refine namesOnly_of_block sourced star ?_ (acted.2.trans named'.2) behind blocking
  rw [acted.1, named'.1]
  exact sources.own reading

theorem namesOnly_of_path {steps : Nat} {segments : List Selector} (sources : Sources naming tokens)
    (read : path inside steps tokens = .ok (segments, rest)) : ∀ segment ∈ segments, segment.NamesOnly naming := by
  induction steps generalizing tokens segments with
  | zero => cases read
  | succ steps ih =>
    rw [path] at read
    obtain ⟨⟨first, behind⟩, reading, read⟩ := exists_of_bind_eq_ok read
    have own := namesOnly_of_segment sourced star sources reading
    obtain ⟨front, spells, _⟩ := words_of_segment sourced.derives reading
    have single : ∀ segment ∈ [first], segment.NamesOnly naming := by simpa using own
    dsimp only at read
    split at read
    · split at read
      · cases read
        exact single
      · obtain ⟨⟨more, left⟩, others, read⟩ := exists_of_bind_eq_ok read
        cases read
        exact List.forall_mem_cons.mpr ⟨own, ih (sources.behind spells).tail others⟩
    · cases read
      exact single

omit sourced in
theorem namesOnly_of_nest {leaf nested : Selector} {parents : List Selector} (own : leaf.NamesOnly naming)
    (all : ∀ parent ∈ parents, parent.NamesOnly naming) (nests : nest leaf parents = .ok nested) :
    nested.NamesOnly naming := by
  induction parents generalizing nested with
  | nil =>
    cases nests
    exact own
  | cons parent rest ih =>
    obtain ⟨outer, others⟩ := List.forall_mem_cons.mp all
    rw [nest] at nests
    obtain ⟨child, inner, nests⟩ := exists_of_bind_eq_ok nests
    cases unnested : parent.nested with
    | true =>
      rw [unnested] at nests
      cases nests
    | false =>
      rw [unnested] at nests
      cases nests
      exact .intro outer.own (namesOnly_finish star (by simpa using ih others inner))

theorem namesOnly_of_selector (sources : Sources naming tokens)
    (read : Parser.selector inside tokens = .ok (selector, rest)) : selector.NamesOnly naming := by
  have unsigned : ∀ {negated : Bool} {tokens : Tokens}, Sources naming tokens →
      unsignedSelector inside negated tokens = .ok (selector, rest) → selector.NamesOnly naming := by
    intro negated tokens sources read
    rw [unsignedSelector] at read
    obtain ⟨⟨segments, behind⟩, reading, read⟩ := exists_of_bind_eq_ok read
    have all := namesOnly_of_path sourced star sources reading
    dsimp only at read
    split at read
    · rename_i leaf last
      obtain ⟨nested, nests, read⟩ := exists_of_bind_eq_ok read
      cases read
      obtain ⟨own, inner⟩ := all leaf (List.mem_of_getLast? last)
      have signed : ({ leaf with negated } : Selector).NamesOnly naming := .intro own inner
      exact namesOnly_of_nest star signed (fun parent front => all parent (List.dropLast_subset _ front)) nests
    · cases read
  rw [Parser.selector.eq_def] at read
  dsimp only at read
  split at read
  · exact unsigned sources.tail read
  · exact unsigned sources read

theorem namesOnly_of_listed {selected : List Selector} (sources : Sources naming tokens)
    (listed : Listed inside tokens selected rest) : ∀ selector ∈ selected, selector.NamesOnly naming := by
  induction listed with
  | one read => simpa using namesOnly_of_selector sourced star sources read
  | comma read _ ih =>
    obtain ⟨front, spells, _⟩ := words_of_selector sourced.derives read
    exact List.forall_mem_cons.mpr ⟨namesOnly_of_selector sourced star sources read, ih (sources.behind spells).tail⟩

end Inside

theorem sourced_selectors (star : naming .anyShallow) (levels : Nat) : Sourced naming (selectors levels) := by
  induction levels with
  | zero => exact ⟨nofun, nofun⟩
  | succ levels ih =>
    exact ⟨words_of_selectors, fun read sources =>
      namesOnly_of_listed ih star sources (listed_of_selectorsWith read).1⟩

/-! ### Stages -/

theorem namesOnly_of_stage {block : List Selector} (star : naming .anyShallow) (stars : naming .anyDeep)
    (sources : Sources naming tokens) (read : stage tokens = .ok (block, rest)) :
    ∀ selector ∈ block, selector.NamesOnly naming := by
  have all : ∀ selector ∈ [Selector.named .anyDeep tokens.position], selector.NamesOnly naming := by
    intro selector member
    rw [List.mem_singleton.mp member]
    exact .intro stars nofun
  rw [stage] at read
  split at read
  · cases read
    exact all
  · cases read
    exact all
  · obtain ⟨⟨selected, behind⟩, reading, read⟩ := exists_of_bind_eq_ok read
    cases read
    exact namesOnly_finish star ((sourced_selectors star _).names reading sources)

theorem Staged.namesOnly {blocks : List (List Selector)} (staged : Staged tokens blocks rest)
    (star : naming .anyShallow) (stars : naming .anyDeep) (sources : Sources naming tokens) :
    ∀ block ∈ blocks, ∀ selector ∈ block, selector.NamesOnly naming := by
  induction staged with
  | last read _ => simpa using namesOnly_of_stage star stars sources read
  | bar read _ ih =>
    obtain ⟨front, spells, _⟩ := words_of_stage read
    exact List.forall_mem_cons.mpr
      ⟨namesOnly_of_stage star stars sources read, ih (sources.behind spells).tail⟩

end Parser

/-! ### Names that are read -/

theorem Name.isRead_anyShallow : Name.anyShallow.IsRead :=
  ⟨"*", [⟨.star, .start⟩, ⟨.finish, ⟨1, 2⟩⟩], rfl, _, List.mem_cons_self, fun _ _ => rfl⟩

theorem Name.isRead_anyDeep : Name.anyDeep.IsRead :=
  ⟨"**", [⟨.doubleStar, .start⟩, ⟨.finish, ⟨1, 3⟩⟩], rfl, _, List.mem_cons_self, fun _ _ => rfl⟩

/-- The tokens of a text are sources of names that are read, and so is every part of them. -/
theorem sources_of_tokenize {text : String} {spanned : List Spanned} (scanned : tokenize text = .ok spanned)
    {tokens : Tokens} (part : tokens ⊆ spanned) : Parser.Sources Name.IsRead tokens := by
  intro token member name names
  obtain ⟨own, present, rfl⟩ := List.mem_map.mp member
  exact ⟨text, spanned, scanned, own, part present, names⟩

/-- All names of a compiled filter are names that are read. -/
theorem compile_namesOnly {text : String} {tree : Tree} (compiled : compile text = .ok tree) :
    ∀ selector ∈ tree.selectors, selector.NamesOnly Name.IsRead := by
  rw [compile] at compiled
  obtain ⟨tokens, tokenized, compiled⟩ := exists_of_bind_eq_ok compiled
  obtain ⟨selectors, filtered, compiled⟩ := exists_of_bind_eq_ok compiled
  cases compiled
  cases scanned : tokenize text with
  | error error =>
    rw [scanned] at tokenized
    cases tokenized
  | ok spanned =>
    rw [scanned] at tokenized
    cases tokenized
    rw [Parser.filter] at filtered
    obtain ⟨⟨_, rest⟩, read, filtered⟩ := exists_of_bind_eq_ok filtered
    obtain ⟨_, _, filtered⟩ := exists_of_bind_eq_ok filtered
    cases filtered
    obtain ⟨blocks, staged, rfl⟩ := Parser.staged_of_stages read
    refine Parser.forall_mem_numbered (fun _ stage only => only.withStage stage) ?_
    exact staged.namesOnly Name.isRead_anyShallow Name.isRead_anyDeep
      (sources_of_tokenize scanned (List.Subset.refl _))

end FieldSelect
