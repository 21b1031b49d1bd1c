/-! # Debouncing

A debouncer runs a callback once, a quiet time after the last trigger. It stands on a clock that
moves only while something is waited for; times are in milliseconds.

A request to cancel takes effect when the clock is next waited for: until then the call counts as
pending, and a flush still makes it.

* **`Debouncer.trigger`**, **`Debouncer.cancel`**, **`Debouncer.flush`**, **`Debouncer.dispose`** —
  what a caller does.
* **`Debouncer.advance`** — waiting, with the calls that fall due. -/

namespace SchemaDiagram

/-- What a debouncer has under way. -/
inductive PendingCall where
  /-- Nothing. -/
  | none
  /-- A call that falls due at a time. -/
  | scheduled (due : Nat)
  /-- A callback that runs until a time. -/
  | running (stop : Nat)
deriving DecidableEq, Repr

/-- What happens to the callback. -/
inductive CallEvent where
  /-- It is called at a time. -/
  | called (at_ : Nat)
  /-- It has run to its end. -/
  | finished
deriving DecidableEq, Repr

/-- A debouncer with its clock. -/
structure Debouncer where
  /-- The quiet time. -/
  delay : Nat
  /-- How long the callback runs; none where it returns at once. -/
  duration : Option Nat
  /-- The time. -/
  now : Nat
  /-- What is under way. -/
  call : PendingCall
  /-- Whether what is under way is to be cancelled. -/
  cancelling : Bool
  /-- Whether the debouncer has been disposed of. -/
  disposed : Bool
  /-- How often the callback has been called. -/
  calls : Nat
deriving DecidableEq, Repr

namespace Debouncer

/-- A debouncer with nothing under way. -/
def start (delay : Nat) (duration : Option Nat) : Debouncer :=
  ⟨delay, duration, 0, .none, false, false, 0⟩

/-- Whether something is under way. -/
def isPending (d : Debouncer) : Bool := d.call != .none

/-- Nothing is under way any more. -/
def clear (d : Debouncer) : Debouncer := { d with call := .none, cancelling := false }

/-- Schedules the callback in place of what is under way. -/
def trigger (d : Debouncer) : Debouncer :=
  if d.disposed then d
  else { d with call := .scheduled (d.now + d.delay), cancelling := false }

/-- Asks for what is under way to be cancelled. -/
def cancel (d : Debouncer) : Debouncer := if d.isPending then { d with cancelling := true } else d

/-- Ends the debouncer with what it has under way. -/
def dispose (d : Debouncer) : Debouncer := { d.clear with disposed := true }

/-- Makes a pending call now and waits until it has run. -/
def flush (d : Debouncer) : Debouncer × List CallEvent :=
  if !d.isPending || d.disposed then (d, [])
  else
    -- The wait is over, so a callback that is made now is no longer pending.
    let made := { d.clear with calls := d.calls + 1 }
    match d.duration with
    | none => (made, [.called d.now])
    | some run => ({ made with now := d.now + run }, [.called d.now, .finished])

/-- The debouncer at a later time, with a callback that runs until `stop`. -/
def runUntil (d : Debouncer) (time stop : Nat) : Debouncer × List CallEvent :=
  if stop ≤ time then ({ d.clear with now := time }, [.finished])
  else ({ d with now := time, call := .running stop }, [])

/-- The debouncer at a later time, with a call that falls due. -/
def fire (d : Debouncer) (time due : Nat) : Debouncer × List CallEvent :=
  let made := { d with calls := d.calls + 1 }
  match d.duration with
  | none => ({ made.clear with now := time }, [.called due])
  | some run =>
    let (later, events) := made.runUntil time (due + run)
    (later, .called due :: events)

/-- Waits. A cancellation takes effect before anything falls due. -/
def advance (d : Debouncer) (time : Nat) : Debouncer × List CallEvent :=
  let later := d.now + time
  -- The request to cancel is heard first, even where the call is due.
  if d.cancelling then ({ d.clear with now := later }, [])
  else match d.call with
    | .none => ({ d with now := later }, [])
    | .scheduled due => if due ≤ later then d.fire later due else ({ d with now := later }, [])
    | .running stop => d.runUntil later stop

end Debouncer

end SchemaDiagram
