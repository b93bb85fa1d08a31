import FieldSelect.Command.Outcome

open FieldSelect

/-- The bytes piped in, as far as the command wants any. Terminals are not read from. -/
def pipedBytes (words : List String) : IO (Option ByteArray) := do
  let input ← IO.getStdin
  if Outcome.readsInput words && !(← input.isTty) then
    return some (← input.readBinToEnd)
  return none

/-- Prints what the run leaves behind. -/
def main (words : List String) : IO UInt32 := do
  let outcome := Outcome.ofBytes words (← pipedBytes words)
  IO.print outcome.output
  IO.eprint outcome.errors
  return outcome.code.toUInt32
