import FieldSelect.Proofs.Filter.Sourcing

/-! The ways down through a block, told by what fields each selector on them matches. Siblings that are merged match the
same fields, so a block has the same ways down when it is finished, but for the wildcard that completes it. -/
namespace FieldSelect
open Selector

/-- What fields a selector matches, and whether it drops them. -/
structure Heading where
  name : Name
  negated : Bool
  recursive : Bool
  minDepth : Option Nat
  maxDepth : Option Nat

/-- The wildcard that keeps what a block does not drop. -/
def Heading.others : Heading := ⟨.anyShallow, false, false, none, none⟩

namespace Selector
variable {selector a b : Selector} {headings : List Heading}

def heading (selector : Selector) : Heading :=
  ⟨selector.name, selector.negated, selector.recursive, selector.minDepth, selector.maxDepth⟩

/-- The selector is well-formed, and all its names are such as are read. -/
structure Sound (selector : Selector) : Prop where
  formed : selector.WellFormed
  names : selector.NamesOnly Name.IsRead

/-- The headings of the selector, of one of its children, and so on down to any depth. -/
inductive Course : Selector → List Heading → Prop where
  | here (selector : Selector) : Course selector [selector.heading]
  | deeper {selector child : Selector} {headings : List Heading} (member : child ∈ selector.children)
      (course : Course child headings) : Course selector (selector.heading :: headings)

theorem course_iff : selector.Course headings ↔ headings = [selector.heading] ∨
    ∃ below, headings = selector.heading :: below ∧ ∃ child ∈ selector.children, child.Course below := by
  constructor
  · rintro (_ | ⟨member, course⟩)
    · exact .inl rfl
    · exact .inr ⟨_, rfl, _, member, course⟩
  · rintro (rfl | ⟨below, rfl, child, member, course⟩)
    · exact .here selector
    · exact .deeper member course

theorem course_singleton {own : Heading} : selector.Course [own] ↔ selector.heading = own := by
  constructor
  · rintro (_ | ⟨_, _ | _⟩)
    rfl
  · rintro rfl
    exact .here selector

end Selector

namespace Block
variable {finish : List Selector → List Selector} {a b selector : Selector} {siblings selectors : List Selector}
  {headings : List Heading}

/-- A way down that starts at one of the selectors. -/
def Course (selectors : List Selector) (headings : List Heading) : Prop :=
  ∃ selector ∈ selectors, selector.Course headings

theorem course_append {front back : List Selector} :
    Course (front ++ back) headings ↔ Course front headings ∨ Course back headings := by
  simp only [Course, List.mem_append, or_and_right, exists_or]

theorem course_cons : Course (selector :: siblings) headings ↔ selector.Course headings ∨ Course siblings headings :=
  List.exists_mem_cons_iff ..

/-- Two siblings that match the same fields have their ways down in common when they are joined. -/
theorem course_combine (own : a.heading = b.heading)
    (below : ∀ headings, Course (finish (a.children ++ b.children)) headings ↔
      Course (a.children ++ b.children) headings) :
    (combine finish a b).Course headings ↔ a.Course headings ∨ b.Course headings := by
  have joined : (combine finish a b).Course headings ↔ headings = [a.heading] ∨
      ∃ below, headings = a.heading :: below ∧ Course (finish (a.children ++ b.children)) below := course_iff
  rw [joined, course_iff, course_iff, ← own]
  constructor
  · rintro (rfl | ⟨lower, rfl, course⟩)
    · exact .inl (.inl rfl)
    · rcases course_append.mp ((below lower).mp course) with first | second
      · exact .inl (.inr ⟨lower, rfl, first⟩)
      · exact .inr (.inr ⟨lower, rfl, second⟩)
  · rintro ((rfl | ⟨lower, rfl, first⟩) | rfl | ⟨lower, rfl, second⟩)
    · exact .inl rfl
    · exact .inr ⟨lower, rfl, (below lower).mpr (course_append.mpr (.inl first))⟩
    · exact .inl rfl
    · exact .inr ⟨lower, rfl, (below lower).mpr (course_append.mpr (.inr second))⟩

/-- A selector that joins a sibling brings its ways down with it. -/
theorem course_merge (joins : ∀ sibling ∈ siblings, mergeable sibling selector = true →
      ((combine finish sibling selector).Course headings ↔ sibling.Course headings ∨ selector.Course headings)) :
    Course (merge finish siblings selector) headings ↔ Course siblings headings ∨ selector.Course headings := by
  induction siblings with
  | nil => simp [merge, Course]
  | cons sibling rest ih =>
    obtain ⟨own, others⟩ := List.forall_mem_cons.mp joins
    cases joint : mergeable sibling selector with
    | true => rw [merge_of_joins joint, course_cons, own joint, course_cons, or_right_comm]
    | false => rw [merge_of_stands joint, course_cons, ih others, course_cons, or_assoc]

theorem course_foldl_merge {P : Selector → Prop}
    (joined : ∀ a b, P a → P b → mergeable a b = true → P (combine finish a b))
    (joins : ∀ a b, P a → P b → mergeable a b = true →
      ((combine finish a b).Course headings ↔ a.Course headings ∨ b.Course headings))
    (all : ∀ sibling ∈ siblings, P sibling) (more : ∀ selector ∈ selectors, P selector) :
    Course (selectors.foldl (merge finish) siblings) headings ↔
      Course siblings headings ∨ Course selectors headings := by
  induction selectors generalizing siblings with
  | nil => simp [Course]
  | cons selector rest ih =>
    obtain ⟨own, others⟩ := List.forall_mem_cons.mp more
    have merged : Course (merge finish siblings selector) headings ↔
        Course siblings headings ∨ selector.Course headings :=
      course_merge fun sibling member => joins sibling selector (all sibling member) own
    rw [List.foldl_cons, ih (forall_mem_merge joined all own) others, merged, course_cons, or_assoc]

/-- There are selectors, and all of them drop fields. -/
def OnlyDrops (selectors : List Selector) : Prop :=
  selectors ≠ [] ∧ ∀ selector ∈ selectors, selector.negated = true

theorem OnlyDrops.congr (drops : OnlyDrops siblings)
    (same : ∀ headings, Course siblings headings ↔ Course selectors headings) : OnlyDrops selectors := by
  obtain ⟨some_, negated⟩ := drops
  constructor
  · obtain ⟨sibling, rest, rfl⟩ := List.exists_cons_of_ne_nil some_
    obtain ⟨selector, member, _⟩ := (same [sibling.heading]).mp ⟨sibling, List.mem_cons_self, .here sibling⟩
    exact List.ne_nil_of_mem member
  · intro selector member
    obtain ⟨sibling, present, course⟩ := (same [selector.heading]).mpr ⟨selector, member, .here selector⟩
    have alike : sibling.negated = selector.negated := congrArg Heading.negated (course_singleton.mp course)
    exact alike.symm.trans (negated sibling present)

theorem course_complete : Course (complete selectors) headings ↔
    Course selectors headings ∨ OnlyDrops selectors ∧ headings = [Heading.others] := by
  have star : ∀ position, Course [named .anyShallow position] headings ↔ headings = [Heading.others] := by
    intro position
    simp only [Course, List.mem_singleton, exists_eq_left]
    rw [course_iff]
    constructor
    · rintro (same | ⟨_, _, _, member, _⟩)
      · exact same
      · cases member
    · exact .inl
  by_cases drops : OnlyDrops selectors
  · have completed : complete selectors =
        selectors ++ [named .anyShallow (selectors.getLast drops.1).position] := by
      rw [complete, List.getLast?_eq_some_getLast drops.1]
      exact if_pos (List.all_eq_true.mpr drops.2)
    rw [completed, course_append, star]
    simp [drops]
  · have same : complete selectors = selectors := by
      by_cases empty : selectors = []
      · rw [empty]
        rfl
      · exact complete_of_not_all fun dropping => drops ⟨empty, List.all_eq_true.mp dropping⟩
    rw [same]
    simp [drops]

/-- Siblings that open the same block match the same fields. -/
theorem heading_eq_of_mergeable (sound : a.Sound) (sound' : b.Sound) (joins : mergeable a b = true) :
    a.heading = b.heading := by
  obtain ⟨same, negated, _, _, low, high⟩ := mergeable_iff.mp joins
  have name := sound.names.own.eq_of_same sound'.names.own same
  have recursive : a.recursive = b.recursive := by
    rw [Bool.eq_iff_iff, sound.formed.consistent.recursive, sound'.formed.consistent.recursive, name]
  rw [heading, heading, name, negated, recursive, low, high]

/-- A block that is joined with another one keeps something already. -/
theorem not_onlyDrops_of_mergeable (formed : a.WellFormed) (joins : mergeable a b = true) :
    ¬ OnlyDrops (a.children ++ b.children) := by
  obtain ⟨_, _, ⟨nested, _⟩, ⟨unemptied, _⟩, _⟩ := mergeable_iff.mp joins
  obtain ⟨child, member, keeps⟩ := (formed.settled (formed.consistent.filled nested unemptied)).keeps
  rintro ⟨_, drops⟩
  exact Bool.false_ne_true (keeps.symm.trans (drops child (List.mem_append_left _ member)))

/-- Siblings that are joined are sound, and so are the selectors whose blocks are put together. -/
theorem sound_combine (sound : a.Sound) (sound' : b.Sound) (joins : mergeable a b = true) :
    (combine Block.finish a b).Sound ∧ ∀ child ∈ a.children ++ b.children, child.Sound := by
  obtain ⟨nonempty, formed⟩ := sound.formed.children_append sound'.formed joins
  have names : ∀ child ∈ a.children ++ b.children, child.NamesOnly Name.IsRead :=
    List.forall_mem_append.mpr ⟨sound.names.inner, sound'.names.inner⟩
  obtain ⟨settled, all⟩ := finish_wellFormed nonempty formed
  refine ⟨⟨sound.formed.combine joins settled all, ?_⟩, fun child member => ⟨formed child member, names child member⟩⟩
  exact .intro sound.names.own (namesOnly_finish Name.isRead_anyShallow names)

/-- A finished block has the ways down of what is written in it, and the wildcard where that only drops fields. -/
theorem course_finish (all : ∀ selector ∈ selectors, selector.Sound) : Course (Block.finish selectors) headings ↔
    Course selectors headings ∨ OnlyDrops selectors ∧ headings = [Heading.others] := by
  -- The blocks that are put together below are lower than this one.
  generalize height : heightAll selectors = levels
  induction levels using Nat.strongRecOn generalizing selectors headings with
  | ind levels ih =>
    have joined : ∀ a b : Selector, a.Sound ∧ a.height ≤ levels → b.Sound ∧ b.height ≤ levels →
        mergeable a b = true → (combine Block.finish a b).Sound ∧ (combine Block.finish a b).height ≤ levels := by
      rintro a b ⟨sound, low⟩ ⟨sound', low'⟩ joins
      exact ⟨(sound_combine sound sound' joins).1, flat_finish.combine low low'⟩
    have joins : ∀ headings (a b : Selector), a.Sound ∧ a.height ≤ levels → b.Sound ∧ b.height ≤ levels →
        mergeable a b = true →
          ((combine Block.finish a b).Course headings ↔ a.Course headings ∨ b.Course headings) := by
      rintro headings a b ⟨sound, low⟩ ⟨sound', low'⟩ joins
      have lower : heightAll (a.children ++ b.children) < levels := by
        rw [heightAll_append]
        rw [height_eq] at low low'
        omega
      refine course_combine (heading_eq_of_mergeable sound sound' joins) fun headings => ?_
      rw [ih _ lower (sound_combine sound sound' joins).2 rfl]
      simp [not_onlyDrops_of_mergeable sound.formed joins]
    have together : ∀ headings, Course (joinAll selectors) headings ↔ Course selectors headings := by
      intro headings
      have low : ∀ selector ∈ selectors, selector.Sound ∧ selector.height ≤ levels := fun selector member =>
        ⟨all selector member, heightAll_le_iff.mp (Nat.le_of_eq height) selector member⟩
      rw [joinAll, course_foldl_merge joined (joins headings) (List.forall_mem_nil _) low]
      simp [Course]
    have drops : OnlyDrops (joinAll selectors) ↔ OnlyDrops selectors :=
      ⟨fun drops => drops.congr together, fun drops => drops.congr fun headings => (together headings).symm⟩
    rw [finish_eq, course_complete, together, drops]

end Block

/-- Names that are read and compared as equal fit every field name as closely as each other, whatever is bound. The
names of compiled filters are such names. So wherever selectors are read from a text, and those of one name are merged
with all below them, the ways down are the same as before, but for the wildcard that completes what only drops fields:
no selector comes to match other fields. -/
theorem names_interchangeable :
    (∀ a b : Name, a.IsRead → b.IsRead → (a == b) = true →
      ∀ candidate bindings, a.score? candidate bindings = b.score? candidate bindings) ∧
    (∀ text tree, compile text = .ok tree → ∀ selector, Within selector tree.selectors → selector.name.IsRead) ∧
    ∀ text spanned tokens levels selected rest, tokenize text = .ok spanned → tokens ⊆ spanned →
      Parser.selectors levels tokens = .ok (selected, rest) → ∀ headings,
        Block.Course (Block.finish selected) headings ↔
          Block.Course selected headings ∨ Block.OnlyDrops selected ∧ headings = [Heading.others] := by
  refine ⟨?_, ?_, ?_⟩
  · intro a b read read' same candidate bindings
    rw [read.eq_of_same read' same]
  · intro text tree compiled selector within
    exact (NamesOnly.of_within within (compile_namesOnly compiled)).own
  · intro text spanned tokens levels selected rest scanned part read headings
    have names := (Parser.sourced_selectors Name.isRead_anyShallow levels).names read (sources_of_tokenize scanned part)
    have formed := (Parser.yields_selectors _ _ _ _ read).2
    exact Block.course_finish fun selector member => ⟨formed selector member, names selector member⟩

theorem names_interchangeable_of_siblings :
    (∃ name : Name, name.IsRead ∧ (name == name) = true ∧ name.score? "a~i" none = name.score? "a~i" none) ∧
    (∃ tree : Tree, compile "a{b},a{c}" = .ok tree ∧
      ∀ selector, Within selector tree.selectors → selector.name.IsRead) ∧
    ∃ (tokens rest : Tokens) (first second : Selector), tokenize "a{b},a{c}" = .ok tokens ∧
      Parser.selectors 2 tokens = .ok ([first, second], rest) ∧ Block.mergeable first second = true ∧
        Block.Course (Block.finish [first, second]) [second.heading, ⟨.exact "c", false, false, none, none⟩] := by
  obtain ⟨interchange, produced, merged⟩ := names_interchangeable
  refine ⟨?_, ?_, ?_⟩
  · obtain ⟨name, regex, _⟩ :=
      exists_of_any_toOption (show (Name.regex? "a~i" false).toOption.any (fun _ => true) = true by decide +kernel)
    have names : (Token.regex "a~i" false).Names name := fun _ _ => by rw [Parser.name, regex]
    have read : name.IsRead := ⟨"~a\\~i~", _, rfl, ⟨.regex "a~i" false, .start⟩, List.mem_cons_self, names⟩
    exact ⟨name, read, BEq.rfl, interchange name name read read BEq.rfl "a~i" none⟩
  · have compiles : ∃ tree, compile "a{b},a{c}" = .ok tree := ⟨_, rfl⟩
    obtain ⟨tree, compiled⟩ := compiles
    exact ⟨tree, compiled, produced _ tree compiled⟩
  · have scanned : tokenize "a{b},a{c}" = .ok [⟨.identifier "a", ⟨1, 1⟩⟩, ⟨.leftBrace, ⟨1, 2⟩⟩,
        ⟨.identifier "b", ⟨1, 3⟩⟩, ⟨.rightBrace, ⟨1, 4⟩⟩, ⟨.comma, ⟨1, 5⟩⟩, ⟨.identifier "a", ⟨1, 6⟩⟩,
        ⟨.leftBrace, ⟨1, 7⟩⟩, ⟨.identifier "c", ⟨1, 8⟩⟩, ⟨.rightBrace, ⟨1, 9⟩⟩, ⟨.finish, ⟨1, 10⟩⟩] := rfl
    have same := merged _ _ _ 2 _ _ scanned (List.Subset.refl _) rfl
    refine ⟨_, _, _, _, scanned, rfl, rfl, (same _).mpr (.inl ?_)⟩
    exact ⟨_, List.mem_cons_of_mem _ List.mem_cons_self, .deeper List.mem_cons_self (.here _)⟩

end FieldSelect
