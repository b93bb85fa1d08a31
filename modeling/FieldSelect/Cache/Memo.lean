import FieldSelect.Cache.Spec

/-! A memo keeps computed values under their keys, the most recently used first. While a value is being
computed its slot is in flight: it counts as kept but is never evicted. -/
namespace FieldSelect

/-- A kept value with the times at which it was written and last used. -/
structure Entry (ν : Type) where
  value : ν
  written : Nat
  accessed : Nat

inductive SlotState (ν : Type) where
  | empty
  | inFlight
  | settled (entry : Entry ν)

/-- The number of a slot tells it from any other slot that its key had or will have. -/
structure Slot (κ ν : Type) where
  key : κ
  number : Nat
  state : SlotState ν

structure MemoStats where
  hits : Nat
  misses : Nat
  evictions : Nat
  size : Nat
  deriving DecidableEq

/-- Slots stand in the order of their last use, the latest first. -/
structure Memo (κ ν : Type) where
  spec : CacheSpec
  clock : Nat
  slots : List (Slot κ ν)
  nextNumber : Nat
  hits : Nat
  misses : Nat
  evictions : Nat

/-- A computation that is under way: the slot that waits for it, if its value is to be kept at all. -/
structure Ticket (κ : Type) where
  key : κ
  slot : Option Nat
  started : Nat

inductive Start (κ ν : Type) where
  | hit (value : ν)
  | miss (ticket : Ticket κ)

namespace Memo
variable {κ ν ε : Type} [DecidableEq κ]

def ofSpec (spec : CacheSpec) : Memo κ ν := ⟨spec, 0, [], 0, 0, 0, 0⟩

def size (memo : Memo κ ν) : Nat := memo.slots.length

def stats (memo : Memo κ ν) : MemoStats := ⟨memo.hits, memo.misses, memo.evictions, memo.size⟩

/-- Time goes by. -/
def advance (memo : Memo κ ν) (elapsed : Nat) : Memo κ ν := { memo with clock := memo.clock + elapsed }

def countHit (memo : Memo κ ν) : Memo κ ν := { memo with hits := memo.hits + 1 }

def countMiss (memo : Memo κ ν) : Memo κ ν := { memo with misses := memo.misses + 1 }

def find? (memo : Memo κ ν) (key : κ) : Option (Slot κ ν) := memo.slots.find? (·.key = key)

def without (memo : Memo κ ν) (key : κ) : List (Slot κ ν) := memo.slots.filter (·.key ≠ key)

/-- The slot becomes the latest one, in the place of any other one of its key. -/
def putFirst (memo : Memo κ ν) (slot : Slot κ ν) : Memo κ ν :=
  { memo with slots := slot :: memo.without slot.key }

/-- An entry is too old when it was written, or used, as long ago as the spec says or longer. -/
def isExpired (memo : Memo κ ν) (entry : Entry ν) : Bool :=
  memo.spec.expireAfterWrite.any (· ≤ memo.clock - entry.written) ||
    memo.spec.expireAfterAccess.any (· ≤ memo.clock - entry.accessed)

/-- What a slot holds after its entry was asked for: a live entry was used now, an expired one is gone. -/
def refresh (memo : Memo κ ν) (slot : Slot κ ν) : Option ν × Slot κ ν :=
  match slot.state with
  | .settled entry =>
    if memo.isExpired entry then (none, { slot with state := .empty })
    else (some entry.value, { slot with state := .settled { entry with accessed := memo.clock } })
  | _ => (none, slot)

/-- The kept value, if there is one that has not expired. The slot is used by that in any case. -/
def get (memo : Memo κ ν) (key : κ) : Option ν × Memo κ ν :=
  match memo.find? key with
  | none => (none, memo.countMiss)
  | some slot =>
    match memo.refresh slot with
    | (some value, slot) => (some value, (memo.putFirst slot).countHit)
    | (none, slot) => (none, (memo.putFirst slot).countMiss)

/-- Either the kept value, or a ticket to compute one. A memo of size zero keeps nothing. -/
def start (memo : Memo κ ν) (key : κ) : Start κ ν × Memo κ ν :=
  if memo.spec.maximumSize = some 0 then (.miss ⟨key, none, memo.clock⟩, memo.countMiss)
  else
    match memo.find? key with
    | none =>
      let memo := { memo with nextNumber := memo.nextNumber + 1 }
      let slot : Slot κ ν := ⟨key, memo.nextNumber, .inFlight⟩
      (.miss ⟨key, some slot.number, memo.clock⟩, (memo.putFirst slot).countMiss)
    | some slot =>
      match memo.refresh slot with
      | (some value, slot) => (.hit value, (memo.putFirst slot).countHit)
      | (none, slot) =>
        (.miss ⟨key, some slot.number, memo.clock⟩,
          (memo.putFirst { slot with state := .inFlight }).countMiss)

/-- A settled slot of another key. -/
def isVictim (keep : κ) (slot : Slot κ ν) : Bool :=
  match slot.state with
  | .settled _ => slot.key ≠ keep
  | _ => false

/-- The slots without the last one that may go. -/
def dropVictim (keep : κ) (slots : List (Slot κ ν)) : Option (List (Slot κ ν)) :=
  match slots with
  | [] => none
  | slot :: rest =>
    match dropVictim keep rest with
    | some shorter => some (slot :: shorter)
    | none => if isVictim keep slot then some rest else none

/-- The least recently used settled slots go until the bound is met or none is left to go. -/
def evict (keep : κ) (bound : Nat) : Nat → Memo κ ν → Memo κ ν
  | 0, memo => memo
  | rounds + 1, memo =>
    if memo.size ≤ bound then memo
    else
      match dropVictim keep memo.slots with
      | some slots => evict keep bound rounds { memo with slots, evictions := memo.evictions + 1 }
      | none => memo

def evictOver (memo : Memo κ ν) (keep : κ) : Memo κ ν :=
  match memo.spec.maximumSize with
  | some bound => evict keep bound memo.size memo
  | none => memo

/-- The computation succeeded. Its slot may be gone by now, and then nothing is kept. -/
def settle (memo : Memo κ ν) (ticket : Ticket κ) (value : ν) : Memo κ ν :=
  match ticket.slot with
  | none => memo
  | some number =>
    let entry : Entry ν := ⟨value, ticket.started, ticket.started⟩
    let slots := memo.slots.map fun slot =>
      if slot.number = number then { slot with state := .settled entry } else slot
    evictOver { memo with slots } ticket.key

/-- The computation failed, and its own slot goes. -/
def abandon (memo : Memo κ ν) (ticket : Ticket κ) : Memo κ ν :=
  match ticket.slot with
  | none => memo
  | some number => { memo with slots := memo.slots.filter (·.number ≠ number) }

/-- The kept value, or else the computed one, which is kept from then on. -/
def getOrInsert (memo : Memo κ ν) (key : κ) (compute : Unit → Except ε ν) : Except ε ν × Memo κ ν :=
  match memo.start key with
  | (.hit value, memo) => (.ok value, memo)
  | (.miss ticket, memo) =>
    match compute () with
    | .ok value => (.ok value, memo.settle ticket value)
    | .error error => (.error error, memo.abandon ticket)

def invalidate (memo : Memo κ ν) (key : κ) : Memo κ ν := { memo with slots := memo.without key }

def invalidateAll (memo : Memo κ ν) : Memo κ ν := { memo with slots := [] }

end Memo
end FieldSelect
