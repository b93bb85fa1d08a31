/-! Cutting a text at a separator and joining the pieces again. -/
namespace FieldSelect

def consHead (c : Char) : List (List Char) → List (List Char)
  | [] => [[c]]
  | piece :: rest => (c :: piece) :: rest

/-- Pieces of a text whose first `skip` characters belong to a separator already found. -/
def piecesAfter (separator : List Char) : Nat → List Char → List (List Char)
  | _, [] => [[]]
  | skip + 1, _ :: rest => piecesAfter separator skip rest
  | 0, c :: rest =>
    if separator.isPrefixOf (c :: rest) then [] :: piecesAfter separator (separator.length - 1) rest
    else consHead c (piecesAfter separator 0 rest)

/-- The text is cut at every separator found from the left; separators do not overlap. -/
def pieces (separator text : List Char) : List (List Char) := piecesAfter separator 0 text

/-- The separator stands between neighbouring pieces. -/
def joinPieces (separator : List Char) (parts : List (List Char)) : List Char :=
  List.intercalate separator parts

def splitText (separator text : String) : List String :=
  (pieces separator.toList text.toList).map String.ofList

/-- Every occurrence found from the left gives way to the replacement. -/
def replaceText (target replacement text : String) : String :=
  String.intercalate replacement (splitText target text)

/-- What stands before and after the first `mark`, if there is one. -/
def splitOnce? (mark : Char) : List Char → Option (List Char × List Char)
  | [] => none
  | c :: rest =>
    if c == mark then some ([], rest)
    else (splitOnce? mark rest).map fun (before, after) => (c :: before, after)

theorem splitOnce?_append {mark : Char} {text before after : List Char}
    (found : splitOnce? mark text = some (before, after)) : text = before ++ mark :: after := by
  induction text generalizing before with
  | nil => simp [splitOnce?] at found
  | cons c rest ih =>
    simp only [splitOnce?] at found
    split at found
    · rename_i same
      simp_all
    · obtain ⟨⟨front, back⟩, inner, shape⟩ := Option.map_eq_some_iff.1 found
      simp only [Prod.mk.injEq] at shape
      obtain ⟨rfl, rfl⟩ := shape
      simp [ih inner]

end FieldSelect
