import FieldSelect.Proofs.Filter.Grammar

/-! Calls and the words that they are written with. What is read of a call is its name and one argument after another,
up to its closing parenthesis; where there are arguments, one comma too many may stand in front of that. -/
namespace FieldSelect

/-- Tokens without their places. -/
def Tokens.words (tokens : Tokens) : List Token := tokens.map (·.token)

@[simp] theorem Tokens.words_nil : words [] = [] := rfl

@[simp] theorem Tokens.words_cons (spanned : Spanned) (tokens : Tokens) :
    words (spanned :: tokens) = spanned.token :: words tokens := rfl

theorem Tokens.words_append (front back : Tokens) : words (front ++ back) = words front ++ words back :=
  List.map_append

theorem Tokens.of_words_cons {tokens : Tokens} {token : Token} {words : List Token}
    (spells : tokens.words = token :: words) :
    ∃ (position : Position) (rest : Tokens), tokens = ⟨token, position⟩ :: rest ∧ rest.words = words :=
  Parser.of_tokens_cons spells

theorem Tokens.of_words_append {tokens : Tokens} {front back : List Token} (spells : tokens.words = front ++ back) :
    ∃ before behind : Tokens, tokens = before ++ behind ∧ before.words = front ∧ behind.words = back :=
  List.map_eq_append_iff.mp spells

/-! ### How calls are written -/

/-- How an argument is written. A hyphen in front of a number is its sign. -/
inductive Argument.Spells : Argument → List Token → Prop where
  | quoted (chars : String) : Spells (.literal (.string chars)) [.quoted chars]
  | integer (n : Int64) : Spells (.literal (.integer n)) [.integer n]
  | float (x : Float) : Spells (.literal (.float x)) [.float x]
  | negativeInteger (n : Int64) : Spells (.literal (.integer (-n))) [.minus, .integer n]
  | negativeFloat (x : Float) : Spells (.literal (.float (-x))) [.minus, .float x]
  | truth : Spells (.literal (.boolean true)) [.identifier "true"]
  | falsehood : Spells (.literal (.boolean false)) [.identifier "false"]
  | null : Spells (.literal .null) [.identifier "null"]
  | variable (name : String) : Spells (.variable name) [.variable name]

/-- The arguments are written one by one with commas between, and with a spare comma behind the last if so said. -/
inductive Argument.Listed : List Argument → Bool → List Token → Prop where
  | none : Listed [] false []
  | last {first : Argument} {front : List Token} (own : first.Spells front) : Listed [first] false front
  | spare {first : Argument} {front : List Token} (own : first.Spells front) :
      Listed [first] true (front ++ [.comma])
  | comma {first second : Argument} {more : List Argument} {spare : Bool} {front back : List Token}
      (own : first.Spells front) (others : Listed (second :: more) spare back) :
      Listed (first :: second :: more) spare (front ++ .comma :: back)

/-- The call is written so: its name, and its arguments in parentheses. -/
def Call.IsWritten (call : Call) (spare : Bool) (words : List Token) : Prop :=
  ∃ inside, Argument.Listed call.arguments spare inside ∧
    words = .identifier call.name :: .leftParen :: (inside ++ [.rightParen])

section Words
variable {value : Argument} {values : List Argument} {call : Call} {spare : Bool} {words : List Token}

theorem Argument.Spells.exists_concat (spells : value.Spells words) :
    ∃ front last, words = front ++ [last] ∧ last ≠ .comma := by
  cases spells with
  | negativeInteger | negativeFloat => exact ⟨[_], _, rfl, nofun⟩
  | _ => exact ⟨[], _, rfl, nofun⟩

theorem Argument.Listed.length_le (listed : Listed values spare words) : values.length ≤ words.length := by
  induction listed with
  | none => exact Nat.zero_le _
  | last own =>
    obtain ⟨front, last, rfl, _⟩ := own.exists_concat
    simp
  | spare => simp
  | comma _ _ ih =>
    simp only [List.length_append, List.length_cons] at ih ⊢
    omega

/-- Only a spare comma is a comma at the end. -/
theorem Argument.Listed.getLast?_eq_comma_iff (listed : Listed values spare words) :
    words.getLast? = some .comma ↔ spare = true := by
  induction listed with
  | none => simp
  | last own =>
    obtain ⟨front, last, rfl, inner⟩ := own.exists_concat
    simpa using inner
  | spare => simp
  | @comma _ _ _ _ _ back _ others ih =>
    have some_ : back ≠ [] := List.ne_nil_of_length_pos (Nat.lt_of_lt_of_le (Nat.succ_pos _) others.length_le)
    obtain ⟨behind, last, rfl⟩ := (List.eq_nil_or_concat back).resolve_left some_
    rw [List.concat_eq_append] at ih ⊢
    rw [← List.cons_append, ← List.append_assoc, List.getLast?_concat]
    rwa [List.getLast?_concat] at ih

/-- A call is written with a comma in front of its closing parenthesis just when this one is spare. -/
theorem Call.IsWritten.suffix_iff (written : call.IsWritten spare words) :
    [.comma, .rightParen] <:+ words ↔ spare = true := by
  obtain ⟨inside, listed, rfl⟩ := written
  rw [← listed.getLast?_eq_comma_iff]
  constructor
  · rintro ⟨front, whole⟩
    have opened : front ++ [.comma] = .identifier call.name :: .leftParen :: inside := by
      refine List.append_cancel_right (?_ : _ ++ [Token.rightParen] = _ ++ [Token.rightParen])
      simpa using whole
    have last := congrArg List.getLast? opened
    rw [List.getLast?_concat] at last
    cases inside with
    | nil => cases last
    | cons first inside => simpa using last.symm
  · intro last
    obtain ⟨front, rfl⟩ := List.getLast?_eq_some_iff.mp last
    exact ⟨.identifier call.name :: .leftParen :: front, by simp⟩

/-! ### The grammar of calls -/

theorem Argument.Spells.derives (spells : value.Spells words) : Grammar.Argument words := by
  cases spells with
  | quoted chars => exact .quoted chars
  | integer n => exact .integer n
  | float x => exact .float x
  | negativeInteger n => exact .negativeInteger n
  | negativeFloat x => exact .negativeFloat x
  | truth => exact .word (.inl rfl)
  | falsehood => exact .word (.inr (.inl rfl))
  | null => exact .word (.inr (.inr rfl))
  | _ => exact .variable _

theorem Argument.Listed.derives (listed : Listed values spare words) :
    values = [] ∧ words = [] ∨ Grammar.Arguments words := by
  induction listed with
  | none => exact .inl ⟨rfl, rfl⟩
  | last own => exact .inr (.last own.derives)
  | spare own => exact .inr (.trailing own.derives)
  | comma own _ ih =>
    obtain ⟨none, _⟩ | others := ih
    · cases none
    · exact .inr (.comma own.derives others)

theorem Call.IsWritten.derives (written : call.IsWritten spare words) : Grammar.Call words := by
  obtain ⟨inside, listed, rfl⟩ := written
  obtain ⟨_, rfl⟩ | arguments := listed.derives
  · exact .bare call.name
  · exact .applied call.name arguments

end Words

namespace Grammar
variable {words : List Token}

theorem Argument.exists_spells (derived : Argument words) :
    ∃ value : FieldSelect.Argument, value.Spells words := by
  cases derived with
  | quoted chars => exact ⟨_, .quoted chars⟩
  | integer n => exact ⟨_, .integer n⟩
  | float x => exact ⟨_, .float x⟩
  | negativeInteger n => exact ⟨_, .negativeInteger n⟩
  | negativeFloat x => exact ⟨_, .negativeFloat x⟩
  | word valued =>
    rcases valued with rfl | rfl | rfl
    · exact ⟨_, .truth⟩
    · exact ⟨_, .falsehood⟩
    · exact ⟨_, .null⟩
  | _ => exact ⟨_, .variable _⟩

theorem Arguments.exists_listed (derived : Arguments words) :
    ∃ (first : FieldSelect.Argument) (more : List FieldSelect.Argument) (spare : Bool),
      FieldSelect.Argument.Listed (first :: more) spare words := by
  induction derived with
  | last argument =>
    obtain ⟨first, own⟩ := argument.exists_spells
    exact ⟨first, [], false, .last own⟩
  | trailing argument =>
    obtain ⟨first, own⟩ := argument.exists_spells
    exact ⟨first, [], true, .spare own⟩
  | comma argument _ ih =>
    obtain ⟨first, own⟩ := argument.exists_spells
    obtain ⟨second, more, spare, others⟩ := ih
    exact ⟨first, second :: more, spare, .comma own others⟩

theorem Call.exists_written (derived : Call words) :
    ∃ (call : FieldSelect.Call) (spare : Bool), call.IsWritten spare words := by
  cases derived with
  | bare name => exact ⟨⟨name, [], .start⟩, false, [], .none, rfl⟩
  | applied name arguments =>
    obtain ⟨first, more, spare, listed⟩ := arguments.exists_listed
    exact ⟨⟨name, first :: more, .start⟩, spare, _, listed, rfl⟩

end Grammar

namespace Parser
open Tokens
variable {value : Argument} {values : List Argument} {read : Call} {spare : Bool} {words : List Token}
variable {tokens front rest : Tokens} {position : Position} {steps : Nat}

/-! ### What is read was written so -/

theorem spells_of_argument (read : argument tokens = .ok (value, rest)) :
    ∃ front : Tokens, tokens = front ++ rest ∧ value.Spells front.words := by
  rw [argument.eq_def] at read
  split at read
  · cases read
    exact ⟨[_], rfl, .quoted _⟩
  · cases read
    exact ⟨[_], rfl, .integer _⟩
  · cases read
    exact ⟨[_], rfl, .float _⟩
  · cases read
    exact ⟨[_], rfl, .variable _⟩
  · split at read
    · rename_i valued
      cases read
      refine ⟨[_], rfl, ?_⟩
      unfold wordValue? at valued
      split at valued <;> cases valued
      · exact .truth
      · exact .falsehood
      · exact .null
    · cases read
  · cases read
    exact ⟨[_, _], rfl, .negativeInteger _⟩
  · cases read
    exact ⟨[_, _], rfl, .negativeFloat _⟩
  · cases read
  · cases read

/-- Arguments are read with the parenthesis behind them. -/
theorem listed_of_arguments (read : arguments steps tokens = .ok (values, rest)) :
    ∃ (front : Tokens) (place : Position) (spare : Bool),
      tokens = front ++ ⟨.rightParen, place⟩ :: rest ∧ Argument.Listed values spare front.words := by
  induction steps generalizing tokens values with
  | zero =>
    rw [arguments.eq_def] at read
    split at read
    · cases read
      exact ⟨[], _, false, rfl, .none⟩
    · cases read
    · contradiction
  | succ steps ih =>
    rw [arguments.eq_def] at read
    split at read
    · cases read
      exact ⟨[], _, false, rfl, .none⟩
    · contradiction
    · rename_i same _
      cases same
      obtain ⟨⟨first, behind⟩, reading, onward⟩ := exists_of_bind_eq_ok read
      obtain ⟨front, rfl, own⟩ := spells_of_argument reading
      dsimp only at onward
      split at onward
      · cases onward
        exact ⟨front, _, false, rfl, .last own⟩
      · obtain ⟨⟨_, behind⟩, separated, further⟩ := exists_of_bind_eq_ok onward
        obtain ⟨position, rfl⟩ := cons_of_expect separated (by simp)
        obtain ⟨⟨more, left⟩, others, done⟩ := exists_of_bind_eq_ok further
        cases done
        obtain ⟨back, place, spare, rfl, listed⟩ := ih others
        refine ⟨front ++ ⟨.comma, position⟩ :: back, place, ?_⟩
        rw [words_append, words_cons]
        cases more with
        | nil =>
          generalize back.words = inside at listed
          cases listed
          exact ⟨true, by simp, .spare own⟩
        | cons second more => exact ⟨spare, by simp, .comma own listed⟩

theorem written_of_call (called : call tokens = .ok (read, rest)) :
    ∃ (front : Tokens) (spare : Bool), tokens = front ++ rest ∧ read.position = tokens.position ∧
      read.IsWritten spare front.words := by
  rw [call.eq_def] at called
  split at called
  · rename_i name position behind
    obtain ⟨⟨_, behind⟩, opened, onward⟩ := exists_of_bind_eq_ok called
    obtain ⟨place, rfl⟩ := cons_of_expect opened (by simp)
    obtain ⟨⟨values, left⟩, others, onward⟩ := exists_of_bind_eq_ok onward
    cases onward
    obtain ⟨front, closing, spare, rfl, listed⟩ := listed_of_arguments others
    refine ⟨⟨.identifier name, position⟩ :: ⟨.leftParen, place⟩ :: (front ++ [⟨.rightParen, closing⟩]), spare, by simp,
      rfl, front.words, listed, ?_⟩
    rw [words_cons, words_cons, words_append]
    rfl
  · cases called

/-! ### What is written is read so -/

theorem argument_of_spells (spells : value.Spells front.words) : argument (front ++ rest) = .ok (value, rest) := by
  generalize written : front.words = words at spells
  cases spells with
  | negativeInteger | negativeFloat =>
    obtain ⟨_, _, rfl, number⟩ := of_words_cons written
    obtain ⟨_, behind, rfl, ended⟩ := of_words_cons number
    cases List.map_eq_nil_iff.mp ended
    rfl
  | _ =>
    obtain ⟨_, behind, rfl, ended⟩ := of_words_cons written
    cases List.map_eq_nil_iff.mp ended
    rfl

theorem arguments_none : arguments steps (⟨.rightParen, position⟩ :: rest) = .ok ([], rest) := by
  cases steps <;> rfl

theorem arguments_closed (read : argument tokens = .ok (value, ⟨.rightParen, position⟩ :: rest)) :
    arguments (steps + 1) tokens = .ok ([value], rest) := by
  rw [arguments, read]
  · rfl
  · rintro _ _ rfl
    cases read

theorem arguments_comma (read : argument tokens = .ok (value, ⟨.comma, position⟩ :: rest)) :
    arguments (steps + 1) tokens = arguments steps rest >>= fun more => return (value :: more.1, more.2) := by
  rw [arguments, read]
  · rfl
  · rintro _ _ rfl
    cases read

theorem arguments_of_listed (listed : Argument.Listed values spare words) (written : front.words = words)
    (enough : values.length ≤ steps) :
    arguments steps (front ++ ⟨.rightParen, position⟩ :: rest) = .ok (values, rest) := by
  induction listed generalizing front steps with
  | none =>
    cases List.map_eq_nil_iff.mp written
    exact arguments_none
  | last own =>
    obtain ⟨steps, rfl⟩ := Nat.exists_eq_add_of_le' enough
    exact arguments_closed (argument_of_spells (written ▸ own))
  | spare own =>
    obtain ⟨steps, rfl⟩ := Nat.exists_eq_add_of_le' enough
    obtain ⟨before, behind, rfl, rfl, separated⟩ := of_words_append written
    obtain ⟨_, ended, rfl, none⟩ := of_words_cons separated
    cases List.map_eq_nil_iff.mp none
    rw [List.append_assoc, List.cons_append, List.nil_append, List.length_singleton,
      arguments_comma (argument_of_spells own), arguments_none]
    rfl
  | comma own _ ih =>
    obtain ⟨steps, rfl⟩ := Nat.exists_eq_add_of_le' (Nat.le_of_add_left_le enough)
    obtain ⟨before, behind, rfl, rfl, separated⟩ := of_words_append written
    obtain ⟨_, behind, rfl, onward⟩ := of_words_cons separated
    rw [List.append_assoc, List.cons_append, arguments_comma (argument_of_spells own),
      ih onward (by simpa using enough)]
    rfl

theorem call_opened {name : String} {place : Position} :
    call (⟨.identifier name, position⟩ :: ⟨.leftParen, place⟩ :: tokens) =
      arguments tokens.length tokens >>= fun read => return (⟨name, read.1, position⟩, read.2) := rfl

theorem call_of_written (written : read.IsWritten spare front.words) :
    call (front ++ rest) = .ok ({ read with position := front.position }, rest) := by
  obtain ⟨inside, listed, whole⟩ := written
  obtain ⟨position, _, rfl, opening⟩ := of_words_cons whole
  obtain ⟨place, _, rfl, filled⟩ := of_words_cons opening
  obtain ⟨before, behind, rfl, rfl, closing⟩ := of_words_append filled
  obtain ⟨ending, _, rfl, none⟩ := of_words_cons closing
  cases List.map_eq_nil_iff.mp none
  have enough : read.arguments.length ≤ (before ++ ⟨.rightParen, ending⟩ :: rest).length := by
    have within := listed.length_le
    simp only [Tokens.words, List.length_map, List.length_append] at within ⊢
    omega
  rw [List.cons_append, List.cons_append, List.append_assoc, List.cons_append, List.nil_append, call_opened,
    arguments_of_listed listed rfl enough]
  rfl

/-- A call is read just from the words of one, up to its closing parenthesis, and with one argument for each that is
written there. Without the calls that have a comma in front of this parenthesis, the words of a call are those with
commas between arguments only. -/
theorem call_eq_ok_iff (tokens rest : Tokens) (read : Call) :
    (call tokens = .ok (read, rest) ↔ ∃ (front : Tokens) (spare : Bool), tokens = front ++ rest ∧
      read.position = tokens.position ∧ read.IsWritten spare front.words) ∧
    ((∃ front : Tokens, tokens = front ++ rest ∧ read.position = tokens.position ∧ read.IsWritten false front.words) ↔
      call tokens = .ok (read, rest) ∧
        ∀ front : Tokens, tokens = front ++ rest → ¬[.comma, .rightParen] <:+ front.words) := by
  have called {front : Tokens} {spare : Bool} (written : read.IsWritten spare front.words)
      (placed : read.position = (front ++ rest).position) : call (front ++ rest) = .ok (read, rest) := by
    have same : (front ++ rest).position = front.position := by
      obtain ⟨_, _, whole⟩ := written
      obtain ⟨_, _, rfl, _⟩ := of_words_cons whole
      rfl
    rw [call_of_written written, ← same, ← placed]
  constructor
  · constructor
    · exact written_of_call
    · rintro ⟨front, spare, rfl, placed, written⟩
      exact called written placed
  · constructor
    · rintro ⟨front, rfl, placed, written⟩
      refine ⟨called written placed, fun front' same => ?_⟩
      rw [← List.append_cancel_right same, written.suffix_iff]
      exact Bool.false_ne_true
    · rintro ⟨read', unspared⟩
      obtain ⟨front, spare, rfl, placed, written⟩ := written_of_call read'
      cases spare with
      | false => exact ⟨front, rfl, placed, written⟩
      | true => exact absurd (written.suffix_iff.mpr rfl) (unspared front rfl)

/-- The words `f(1,)` are read as a call with one argument, though none has a comma only between arguments. -/
theorem call_spared_of_one :
    let tokens : Tokens := [⟨.identifier "f", ⟨1, 3⟩⟩, ⟨.leftParen, ⟨1, 4⟩⟩, ⟨.integer 1, ⟨1, 5⟩⟩, ⟨.comma, ⟨1, 6⟩⟩,
      ⟨.rightParen, ⟨1, 7⟩⟩]
    call tokens = .ok (⟨"f", [.literal (.integer 1)], ⟨1, 3⟩⟩, []) ∧
      ¬∃ (read : Call) (front rest : Tokens), tokens = front ++ rest ∧ read.IsWritten false front.words := by
  intro tokens
  have read : call tokens = .ok (⟨"f", [.literal (.integer 1)], ⟨1, 3⟩⟩, []) := rfl
  refine ⟨read, ?_⟩
  rintro ⟨other, front, rest, whole, written⟩
  have all := read.symm.trans (congrArg call whole |>.trans (call_of_written written))
  obtain rfl : [] = rest := congrArg Prod.snd (Except.ok.inj all)
  rw [List.append_nil] at whole
  have spare : [.comma, .rightParen] <:+ front.words := whole ▸ ⟨[.identifier "f", .leftParen, .integer 1], rfl⟩
  cases written.suffix_iff.mp spare

end Parser

end FieldSelect
