/-! The words of a command line, told apart into options and operands. -/
namespace FieldSelect

/-- An option that a command knows; one with a value name takes a value. -/
structure Flag (α : Type) where
  mark : α
  short : Option Char
  long : String
  valueName : Option String
  about : String

def Flag.takesValue {α : Type} (flag : Flag α) : Bool := flag.valueName.isSome

/-- A piece of a command line; what comes after an invalid one does not matter. -/
inductive Item (α : Type) where
  | option (mark : α) (value : Option String)
  | operand (text : String)
  | invalid

namespace Item
variable {α : Type}

/-- The items of letters behind one dash, and the option that still waits for a value. The rest of the word
behind a letter is its value if it takes one; an equals sign may stand between them. -/
def ofLetters (flags : List (Flag α)) : List Char → List (Item α) × Option (Flag α)
  | [] => ([], none)
  | c :: rest =>
    match flags.find? (·.short == some c) with
    | none => ([.invalid], none)
    | some flag =>
      if flag.takesValue then
        match rest with
        | [] => ([], some flag)
        | '=' :: value => ([.option flag.mark (some (String.ofList value))], none)
        | value => ([.option flag.mark (some (String.ofList value))], none)
      else
        let (items, waiting) := ofLetters flags rest
        (.option flag.mark none :: items, waiting)

/-- A name and the text behind its first equals sign. -/
def splitValue (text : List Char) : String × Option String :=
  let name := String.ofList (text.takeWhile (· != '='))
  match text.dropWhile (· != '=') with
  | [] => (name, none)
  | _ :: value => (name, some (String.ofList value))

/-- A long option must carry a value in its word, or leave it to the next word, exactly if it takes one. -/
def ofLong (flags : List (Flag α)) (text : List Char) : List (Item α) × Option (Flag α) :=
  let (name, value) := splitValue text
  match flags.find? (·.long == name), value with
  | some flag, some value => if flag.takesValue then ([.option flag.mark (some value)], none) else ([.invalid], none)
  | some flag, none => if flag.takesValue then ([], some flag) else ([.option flag.mark none], none)
  | none, _ => ([.invalid], none)

/-- Words behind a bare double dash are operands. A word with a dash in front is no value of the option
before it, but a single dash is an ordinary word. -/
def ofWords (flags : List (Flag α)) (waiting : Option (Flag α)) : List String → List (Item α)
  | [] => if waiting.isSome then [.invalid] else []
  | word :: rest =>
    match word.toList, waiting with
    | ['-', '-'], none => rest.map .operand
    | '-' :: '-' :: text, none =>
      let (items, waiting) := ofLong flags text
      items ++ ofWords flags waiting rest
    | '-' :: c :: text, none =>
      let (items, waiting) := ofLetters flags (c :: text)
      items ++ ofWords flags waiting rest
    | '-' :: _ :: _, some _ => [.invalid]
    | _, some flag => .option flag.mark (some word) :: ofWords flags none rest
    | _, none => .operand word :: ofWords flags none rest

end Item
end FieldSelect
