import FieldSelect.Cache.Memo

/-! Sequences of uses of a memo, where a computation can use the memo itself. -/
namespace FieldSelect

/-- One use of a memo, or some time between two uses; a computation takes the steps inside it before it
has an outcome. -/
inductive MemoStep (κ ν ε : Type) where
  | get (key : κ)
  | compute (key : κ) (during : List (MemoStep κ ν ε)) (outcome : Except ε ν)
  | invalidate (key : κ)
  | invalidateAll
  | size
  | wait (elapsed : Nat)

/-- What a step answers. -/
inductive MemoReply (ν ε : Type) where
  | found (value : Option ν)
  | computed (outcome : Except ε ν) (ran : Bool)
  | done
  | size (count : Nat)

/-- A step that is over, with its answer and the counters right after it. -/
structure MemoRecord (κ ν ε : Type) where
  key : Option κ
  reply : MemoReply ν ε
  stats : MemoStats

namespace Memo
variable {κ ν ε : Type} [DecidableEq κ]

def record (key : Option κ) (reply : MemoReply ν ε) (memo : Memo κ ν) : MemoRecord κ ν ε :=
  ⟨key, reply, memo.stats⟩

mutual

/-- The records of a step, those of the steps inside it first. Waiting leaves none. -/
def perform (memo : Memo κ ν) : MemoStep κ ν ε → List (MemoRecord κ ν ε) × Memo κ ν
  | .get key =>
    let (value, memo) := memo.get key
    ([record (some key) (.found value) memo], memo)
  | .compute key during outcome =>
    match memo.start key with
    | (.hit value, memo) => ([record (some key) (.computed (.ok value) false) memo], memo)
    | (.miss ticket, memo) =>
      let (inner, memo) := performAll memo during
      let memo :=
        match outcome with
        | .ok value => memo.settle ticket value
        | .error _ => memo.abandon ticket
      (inner ++ [record (some key) (.computed outcome true) memo], memo)
  | .invalidate key =>
    let memo := memo.invalidate key
    ([record (some key) .done memo], memo)
  | .invalidateAll =>
    let memo := memo.invalidateAll
    ([record none .done memo], memo)
  | .size => ([record none (.size memo.size) memo], memo)
  | .wait elapsed => ([], memo.advance elapsed)

def performAll (memo : Memo κ ν) : List (MemoStep κ ν ε) → List (MemoRecord κ ν ε) × Memo κ ν
  | [] => ([], memo)
  | step :: rest =>
    let (records, memo) := perform memo step
    let (more, memo) := performAll memo rest
    (records ++ more, memo)

end

end Memo
end FieldSelect
