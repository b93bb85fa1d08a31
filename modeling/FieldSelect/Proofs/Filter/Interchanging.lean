import FieldSelect.Proofs.Filter.Deriving
import FieldSelect.Proofs.Filter.Runs

/-! Names that are compared as equal. Patterns are compared by their texts alone, but those of names that are read tell
globs from regular expressions, with their pattern and their flag: such names are one name. -/
namespace FieldSelect

/-- The token is this name wherever a name is read. -/
def Token.Names (token : Token) (name : Name) : Prop :=
  ∀ position rest, Parser.name (⟨token, position⟩ :: rest) = .ok (name, rest)

/-- The name is read from a token of some text. -/
def Name.IsRead (name : Name) : Prop :=
  ∃ (text : String) (tokens : List Spanned), tokenize text = .ok tokens ∧
    ∃ spanned ∈ tokens, spanned.token.Names name

/-! ### Texts of patterns -/

namespace Name
variable {pattern : Pattern}

theorem raw_of_glob? {glob : String} (read : glob? glob = .ok (.pattern pattern)) : pattern.raw = glob := by
  obtain ⟨_, _, same⟩ := exists_of_map_eq_ok read
  cases same
  rfl

theorem raw_of_regex? {text : String} {ignoresCase : Bool} (read : regex? text ignoresCase = .ok (.pattern pattern)) :
    pattern.raw.toList = '~' :: text.toList ++ if ignoresCase then ['~', 'i'] else ['~'] := by
  obtain ⟨_, _, same⟩ := exists_of_map_eq_ok read
  cases same
  cases ignoresCase <;> simp

/-- The last character is the flag or the closing tilde, whatever the pattern ends with. -/
theorem regexText_inj {text text' : List Char} {ignoresCase ignoresCase' : Bool}
    (same : '~' :: text ++ (if ignoresCase then ['~', 'i'] else ['~']) =
      '~' :: text' ++ if ignoresCase' then ['~', 'i'] else ['~']) : text = text' ∧ ignoresCase = ignoresCase' := by
  have last := congrArg List.getLast? same
  rw [List.getLast?_append, List.getLast?_append] at last
  cases ignoresCase <;> cases ignoresCase'
  · exact ⟨by simpa using same, rfl⟩
  · simp at last
  · simp at last
  · exact ⟨by simpa using same, rfl⟩

end Name

/-! ### Tokens of names -/

theorem sign?_ne_glob {c : Char} {glob : String} : sign? c ≠ some (.glob glob) := by
  unfold sign?
  split <;> nofun

/-- A glob starts as names do, and so not with a tilde. -/
theorem Token.Spells.glob_start {glob : String} {front : List Char} (spells : (Token.glob glob).Spells front) :
    ∃ c ∈ glob.toList.head?, isNameStart c = true := by
  generalize same : Token.glob glob = token at spells
  cases spells with
  | sign sign =>
    rw [← same] at sign
    exact absurd sign sign?_ne_glob
  | @word c rest start =>
    have class_ : (Token.glob glob).IsClassOf (c :: rest) := isClassOf_iff.mpr same
    obtain ⟨rfl, _⟩ := class_
    rw [String.toList_ofList]
    exact ⟨c, rfl, start⟩
  | _ => cases same

theorem Parser.names_of_name {tokens rest : Tokens} {read_ : Name} (read : Parser.name tokens = .ok (read_, rest)) :
    ∃ token, tokens.words = token :: rest.words ∧ token.Names read_ := by
  rw [Parser.name.eq_def] at read
  split at read
  · cases read
    exact ⟨_, rfl, fun _ _ => rfl⟩
  · cases read
    exact ⟨_, rfl, fun _ _ => rfl⟩
  · cases read
    exact ⟨_, rfl, fun _ _ => rfl⟩
  · cases read
    exact ⟨_, rfl, fun _ _ => rfl⟩
  · cases read
    exact ⟨_, rfl, fun _ _ => rfl⟩
  · cases read
    exact ⟨_, rfl, fun _ _ => rfl⟩
  · split at read
    · rename_i glob
      cases read
      refine ⟨_, rfl, fun position rest => ?_⟩
      rw [Parser.name, glob]
    · cases read
  · split at read
    · rename_i regex
      cases read
      refine ⟨_, rfl, fun position rest => ?_⟩
      rw [Parser.name, regex]
    · cases read
  · cases read

/-- Only globs and regular expressions are patterns. -/
theorem Token.Names.pattern {token : Token} {pattern : Pattern} (names : token.Names (.pattern pattern)) :
    (∃ glob, token = .glob glob ∧ Name.glob? glob = .ok (.pattern pattern)) ∨
      ∃ text ignoresCase, token = .regex text ignoresCase ∧ Name.regex? text ignoresCase = .ok (.pattern pattern) := by
  have read := names .start []
  cases token with
  | glob glob =>
    rw [Parser.name] at read
    split at read
    · rename_i found
      cases read
      exact .inl ⟨glob, rfl, found⟩
    · cases read
  | regex text ignoresCase =>
    rw [Parser.name] at read
    split at read
    · rename_i found
      cases read
      exact .inr ⟨text, ignoresCase, rfl, found⟩
    · cases read
  | _ => cases read

namespace Name
variable {a b : Name} {pattern : Pattern}

/-- A pattern that is read has the text of a glob, which starts as names do, or that of a regular expression. -/
theorem IsRead.pattern_cases (read : (Name.pattern pattern).IsRead) :
    (∃ c ∈ pattern.raw.toList.head?, isNameStart c = true) ∧ glob? pattern.raw = .ok (.pattern pattern) ∨
      ∃ text ignoresCase, regex? text ignoresCase = .ok (.pattern pattern) := by
  obtain ⟨text, tokens, scanned, spanned, member, names⟩ := read
  rcases names.pattern with ⟨glob, same, found⟩ | ⟨regex, ignoresCase, _, found⟩
  · left
    obtain ⟨reached, behind, _, next⟩ := Scanner.exists_next_of_mem scanned member
    rw [raw_of_glob? found]
    refine ⟨?_, found⟩
    rcases Scanner.cases_of_next next with ⟨_, rfl, _⟩ | ⟨front, _, spells, _⟩
    · cases same
    · rw [same] at spells
      exact spells.glob_start
  · exact .inr ⟨regex, ignoresCase, found⟩

theorem not_isNameStart_of_regex? {text : String} {ignoresCase : Bool}
    (read : regex? text ignoresCase = .ok (.pattern pattern)) :
    ¬∃ c ∈ pattern.raw.toList.head?, isNameStart c = true := by
  rw [raw_of_regex? read]
  rintro ⟨c, first, start⟩
  cases first
  cases start

theorem IsRead.pattern_inj {pattern' : Pattern} (read : (Name.pattern pattern).IsRead)
    (read' : (Name.pattern pattern').IsRead) (same : pattern.raw = pattern'.raw) :
    Name.pattern pattern = .pattern pattern' := by
  rcases read.pattern_cases with ⟨start, glob⟩ | ⟨text, ignoresCase, regex⟩
  · rcases read'.pattern_cases with ⟨_, glob'⟩ | ⟨text', ignoresCase', regex'⟩
    · rw [same] at glob
      exact Except.ok.inj (glob.symm.trans glob')
    · -- A tilde starts no name, so no glob has the text of a regular expression.
      rw [same] at start
      exact absurd start (not_isNameStart_of_regex? regex')
  · rcases read'.pattern_cases with ⟨start', _⟩ | ⟨text', ignoresCase', regex'⟩
    · rw [← same] at start'
      exact absurd start' (not_isNameStart_of_regex? regex)
    · have texts := raw_of_regex? regex
      rw [same, raw_of_regex? regex'] at texts
      obtain ⟨text_eq, rfl⟩ := regexText_inj texts
      rw [String.toList_inj.mp text_eq] at regex'
      exact Except.ok.inj (regex.symm.trans regex')

/-- Of the names that are read, those that are compared as equal are one. -/
theorem IsRead.eq_of_same (read : a.IsRead) (read' : b.IsRead) (same : (a == b) = true) : a = b := by
  change a.same b = true at same
  cases a <;> cases b <;> try cases same
  case exact.exact => exact congrArg Name.exact (beq_iff_eq.mp same)
  case anyShallow.anyShallow => rfl
  case anyDeep.anyDeep => rfl
  case variable.variable => exact congrArg Name.variable (beq_iff_eq.mp same)
  case pattern.pattern => exact read.pattern_inj read' (beq_iff_eq.mp same)

end Name
end FieldSelect
