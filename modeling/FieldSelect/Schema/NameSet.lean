/-! Sets of names, kept in order. -/
namespace FieldSelect

abbrev NameSet := List String

namespace NameSet

def insert (name : String) : NameSet → NameSet
  | [] => [name]
  | other :: rest =>
    if name < other then name :: other :: rest
    else if name = other then other :: rest
    else other :: insert name rest

def union (names others : NameSet) : NameSet := names.foldr insert others

theorem mem_insert {name wanted : String} {names : NameSet} :
    wanted ∈ insert name names ↔ wanted = name ∨ wanted ∈ names := by
  induction names with
  | nil => simp [insert]
  | cons other rest ih =>
    rw [insert]
    split
    · simp
    · split
      · rename_i same
        subst same
        simp
      · simp only [List.mem_cons, ih]
        constructor
        · rintro (h | h | h) <;> simp [h]
        · rintro (h | h | h) <;> simp [h]

theorem mem_union {names others : NameSet} {wanted : String} :
    wanted ∈ union names others ↔ wanted ∈ names ∨ wanted ∈ others := by
  induction names with
  | nil => simp [union]
  | cons name rest ih =>
    simp only [union, List.foldr_cons, mem_insert, List.mem_cons] at ih ⊢
    rw [ih]
    constructor
    · rintro (h | h | h) <;> simp [h]
    · rintro ((h | h) | h) <;> simp [h]

end NameSet
end FieldSelect
