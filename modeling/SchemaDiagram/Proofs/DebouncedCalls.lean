import Mathlib.Algebra.Order.Ring.Nat
import SchemaDiagram.Preview.Debouncer

/-! # When a debouncer calls

A debouncer is triggered, cancelled, flushed and disposed of, and time passes between these steps.
What a trigger comes to depends on the steps behind it alone: its call is made when the quiet time
is over, if nothing else is asked of the debouncer before that, or at a flush that comes before
that, and else never.

* **`DebouncerStep`** — the steps, and **`Debouncer.follow`** — what becomes of a debouncer that
  takes them.
* **`callBehind`** — the moment of the call that a trigger comes to, and **`expectedCalls`** — those
  of all triggers.
* **`Debouncer.IsInstant`** — a debouncer whose callback returns at once; **`Debouncer.callAhead`**
  — what becomes of the call that it has under way.
* **`follow_start`** — the callback is called at exactly the expected moments.
* **`follow_cancel`** — what has been cancelled is called only by a flush that comes at once. -/

namespace SchemaDiagram

/-- **What is done to a debouncer.** -/
inductive DebouncerStep where
  /-- The callback is to be called after the quiet time. -/
  | trigger
  /-- What is under way is to be cancelled. -/
  | cancel
  /-- What is under way is to be called now. -/
  | flush
  /-- The debouncer is disposed of. -/
  | dispose
  /-- Some time passes. -/
  | wait (time : Nat)
deriving DecidableEq, Repr

namespace DebouncerStep

/-- Whether the step is the passing of time. -/
def isWait : DebouncerStep → Bool
  | wait _ => true
  | _ => false

/-- The time that passes in a step. -/
def elapsed : DebouncerStep → Nat
  | wait time => time
  | _ => 0

end DebouncerStep

/-! ## What a trigger comes to -/

/-- The time that passes before a debouncer is asked for anything. -/
def quietTime (steps : List DebouncerStep) : Nat :=
  ((steps.takeWhile (·.isWait)).map (·.elapsed)).sum

/-- What a debouncer is asked for first, a request to cancel apart: nobody hears of it before time
passes again. -/
def firstDemand? (steps : List DebouncerStep) : Option DebouncerStep :=
  ((steps.dropWhile (·.isWait)).dropWhile (· = .cancel)).head?

/-- **The quiet time is over** before the debouncer is asked for anything: time passes, and as much
as the delay. -/
def WaitsOut (delay : Nat) (steps : List DebouncerStep) : Prop :=
  steps.head?.any (·.isWait) = true ∧ delay ≤ quietTime steps

instance (delay : Nat) (steps : List DebouncerStep) : Decidable (WaitsOut delay steps) :=
  inferInstanceAs (Decidable (_ ∧ _))

/-- **The moment of the call that a trigger comes to**, with the steps behind it: when the quiet
time is over, or at a flush before that. -/
def callBehind (delay now : Nat) (behind : List DebouncerStep) : Option Nat :=
  if WaitsOut delay behind then some (now + delay)
  else if firstDemand? behind = some .flush then some (now + quietTime behind)
  else none

/-- **The moments of the calls that some steps come to**, the first of which is taken at `now`: at
most one for each trigger, and none for what comes behind the disposal. -/
def expectedCalls (delay : Nat) : (now : Nat) → List DebouncerStep → List Nat
  | _, [] => []
  | now, .trigger :: behind =>
    (callBehind delay now behind).toList ++ expectedCalls delay now behind
  | now, .wait time :: behind => expectedCalls delay (now + time) behind
  | _, .dispose :: _ => []
  | now, .cancel :: behind | now, .flush :: behind => expectedCalls delay now behind

/-- **A trigger still waits** at the end of the steps behind it: the quiet time is not over, and
nothing else has been asked for. -/
def StillWaits (delay : Nat) (behind : List DebouncerStep) : Prop :=
  ¬ WaitsOut delay behind ∧ firstDemand? behind = none

/-- Whether some trigger still waits in the end, and the debouncer has not been disposed of before
it. -/
def TriggerWaits (delay : Nat) (steps : List DebouncerStep) : Prop :=
  ∃ before behind, steps = before ++ .trigger :: behind ∧ .dispose ∉ before ∧
    StillWaits delay behind

/-- **A flush comes before anything else is asked for**, requests to cancel apart, and before time
passes. -/
def FlushesAtOnce (steps : List DebouncerStep) : Prop :=
  (steps.dropWhile (· = .cancel)).head? = some .flush

instance (steps : List DebouncerStep) : Decidable (FlushesAtOnce steps) :=
  inferInstanceAs (Decidable (_ = _))

section

variable {delay now time : Nat} {step : DebouncerStep} {behind : List DebouncerStep}

/-- Time that passes first adds to the quiet time. -/
@[simp] theorem quietTime_wait : quietTime (.wait time :: behind) = time + quietTime behind := rfl

/-- Time that passes first is not asked for anything. -/
@[simp] theorem firstDemand?_wait : firstDemand? (.wait time :: behind) = firstDemand? behind := rfl

/-- Only waits take time. -/
theorem quietTime_of_head (h : behind.head?.any (·.isWait) = false) : quietTime behind = 0 := by
  cases behind with
  | nil => rfl
  | cons step behind =>
    have hstep : step.isWait = false := h
    simp [quietTime, hstep]

/-- A wait that is shorter than the delay takes its time off it. -/
theorem waitsOut_wait (h : time < delay) :
    WaitsOut delay (.wait time :: behind) ↔ WaitsOut (delay - time) behind := by
  have hwait : WaitsOut delay (.wait time :: behind) ↔ delay - time ≤ quietTime behind := by
    rw [WaitsOut, quietTime_wait, Nat.sub_le_iff_le_add']
    exact and_iff_right rfl
  rw [hwait]
  cases hhead : behind.head?.any (·.isWait) with
  | true => exact (and_iff_right hhead).symm
  | false =>
    -- Nothing passes behind the wait, and it was too short.
    rw [quietTime_of_head hhead, WaitsOut, hhead]
    simp only [Nat.le_zero, Nat.sub_eq_zero_iff_le, Nat.not_le.2 h, Bool.false_eq_true, false_and]

/-- The quiet time is over when as much time passes at once. -/
theorem waitsOut_wait_of_le (h : delay ≤ time) : WaitsOut delay (.wait time :: behind) :=
  ⟨rfl, Nat.le_add_right_of_le h⟩

/-- A call behind some time is the one with the rest of the delay. -/
theorem callBehind_wait (h : time < delay) :
    callBehind delay now (.wait time :: behind) = callBehind (delay - time)
      (now + time) behind := by
  simp only [callBehind, waitsOut_wait h, firstDemand?_wait, quietTime_wait, ← Nat.add_assoc]
  rw [show now + time + (delay - time) = now + delay by omega]

/-- A delay that passes at once ends in a call. -/
theorem callBehind_wait_of_le (h : delay ≤ time) :
    callBehind delay now (.wait time :: behind) = some (now + delay) :=
  if_pos (waitsOut_wait_of_le h)

/-- A trigger waits through some time with the rest of the delay. -/
theorem stillWaits_wait (h : time < delay) :
    StillWaits delay (.wait time :: behind) ↔ StillWaits (delay - time) behind := by
  rw [StillWaits, waitsOut_wait h, firstDemand?_wait, StillWaits]

/-- No time passes before a demand. -/
theorem quietTime_of_demand (h : step.isWait = false) : quietTime (step :: behind) = 0 :=
  quietTime_of_head (by simpa using h)

/-- The quiet time is not over where something is asked for at once. -/
theorem not_waitsOut_of_demand (h : step.isWait = false) : ¬ WaitsOut delay (step :: behind) :=
  fun hover => by
  have hhead : step.isWait = true := hover.1
  rw [h] at hhead
  cases hhead

/-- **A trigger with a demand right behind it** comes to a call if that is a flush, requests to
cancel apart. -/
theorem callBehind_of_demand (h : step.isWait = false) : callBehind delay now (step :: behind) =
    if ((step :: behind).dropWhile (· = .cancel)).head? = some .flush then some now else none := by
  rw [callBehind, if_neg (not_waitsOut_of_demand h), firstDemand?, quietTime_of_demand h,
    Nat.add_zero, List.dropWhile_cons_of_neg (by simp [h])]

/-- It still waits if there is no other demand. -/
theorem stillWaits_of_demand (h : step.isWait = false) :
    StillWaits delay (step :: behind) ↔ (step :: behind).dropWhile (· = .cancel) = [] := by
  rw [StillWaits, firstDemand?, List.dropWhile_cons_of_neg (by simp [h]), List.head?_eq_none_iff]
  exact and_iff_right (not_waitsOut_of_demand h)

/-- Only triggers come to calls. -/
theorem expectedCalls_of_not_mem (h : .trigger ∉ behind) : expectedCalls delay now behind = [] := by
  induction behind generalizing now with
  | nil => rfl
  | cons step behind ih =>
    rw [List.mem_cons, not_or] at h
    cases step with
    | trigger => exact absurd rfl h.1
    | dispose => rfl
    | cancel | flush | wait time => exact ih h.2

/-- Without steps no trigger waits. -/
theorem not_triggerWaits_nil : ¬ TriggerWaits delay [] := by simp [TriggerWaits]

/-- A trigger that waits is the first step or a later one. -/
theorem triggerWaits_cons : TriggerWaits delay (step :: behind) ↔
    step = .trigger ∧ StillWaits delay behind ∨ step ≠ .dispose ∧ TriggerWaits delay behind := by
  constructor
  · rintro ⟨_ | ⟨first, before⟩, rest, heq, hbefore, hwaits⟩
    · obtain ⟨rfl, rfl⟩ := List.cons.inj heq
      exact .inl ⟨rfl, hwaits⟩
    · obtain ⟨rfl, rfl⟩ := List.cons.inj heq
      rw [List.mem_cons, not_or] at hbefore
      exact .inr ⟨Ne.symm hbefore.1, before, rest, rfl, hbefore.2, hwaits⟩
  · rintro (⟨rfl, hwaits⟩ | ⟨hstep, before, rest, rfl, hbefore, hwaits⟩)
    · exact ⟨[], behind, rfl, List.not_mem_nil, hwaits⟩
    · exact ⟨step :: before, rest, rfl, by simp [hbefore, Ne.symm hstep], hwaits⟩

end

/-! ## Runs of a debouncer -/

namespace Debouncer

variable {d : Debouncer}

/-- The debouncer after a step, with what happens to the callback. -/
def perform (d : Debouncer) : DebouncerStep → Debouncer × List CallEvent
  | .trigger => (d.trigger, [])
  | .cancel => (d.cancel, [])
  | .flush => d.flush
  | .dispose => (d.dispose, [])
  | .wait time => d.advance time

/-- **The debouncer after some steps**, with what happens to the callback, in order. -/
def follow (d : Debouncer) : List DebouncerStep → Debouncer × List CallEvent
  | [] => (d, [])
  | step :: steps =>
    let next := d.perform step
    let last := next.1.follow steps
    (last.1, next.2 ++ last.2)

/-- **A debouncer whose callback returns at once**: what it has under way is a call that falls due,
now or later, and nothing once it has been disposed of. -/
structure IsInstant (d : Debouncer) : Prop where
  /-- The callback returns at once. -/
  duration : d.duration = none
  /-- The callback does not run. -/
  call : ∀ stop, d.call ≠ .running stop
  /-- A call falls due when the clock gets there. -/
  due : ∀ due, d.call = .scheduled due → d.now ≤ due
  /-- A debouncer that has been disposed of has nothing under way. -/
  disposed : d.disposed = true → d.call = .none

/-- **The moment of the call that is under way**, with the steps ahead; one that is to be cancelled
is made by a flush that comes before time passes. -/
def callAhead (d : Debouncer) (ahead : List DebouncerStep) : Option Nat :=
  match d.call with
  | .scheduled due =>
    if d.cancelling then if (ahead.dropWhile (· = .cancel)).head? = some .flush then some d.now
      else none
    else callBehind (due - d.now) d.now ahead
  | _ => none

/-- Whether the call that is under way still waits behind the steps ahead. -/
def WaitsBehind (d : Debouncer) (ahead : List DebouncerStep) : Prop :=
  ∃ due, d.call = .scheduled due ∧
    if d.cancelling then ahead.dropWhile (· = .cancel) = [] else StillWaits (due - d.now) ahead

/-- The calls of a debouncer with the steps ahead: the one that is under way, and those of the
triggers to come. -/
def callsAhead (d : Debouncer) (ahead : List DebouncerStep) : List Nat :=
  (d.callAhead ahead).toList ++ if d.disposed then [] else expectedCalls d.delay d.now ahead

/-- Whether a call waits behind the steps ahead: the one that is under way, or that of a trigger to
come. -/
def WillWait (d : Debouncer) (ahead : List DebouncerStep) : Prop :=
  d.WaitsBehind ahead ∨ d.disposed = false ∧ TriggerWaits d.delay ahead

/-- **What a step does is what is expected of it**: the calls that it makes are the first ones of
those ahead. -/
structure Takes (d : Debouncer) (step : DebouncerStep) (result : Debouncer × List CallEvent) :
    Prop where
  /-- The debouncer goes on. -/
  instant : result.1.IsInstant
  /-- The calls are counted. -/
  calls : result.1.calls = d.calls + result.2.length
  /-- The calls that were expected are those that are made, and those that are expected from now
  on. -/
  made : ∀ ahead, (d.callsAhead (step :: ahead)).map .called
    = result.2 ++ (result.1.callsAhead ahead).map .called
  /-- What is expected to wait in the end stays the same. -/
  waits : ∀ ahead, d.WillWait (step :: ahead) ↔ result.1.WillWait ahead

/-- **What is under way and a demand ahead of it**: the call is made if that is a flush, requests to
cancel apart. -/
theorem callAhead_of_demand {step : DebouncerStep} (hstep : step.isWait = false)
    (ahead : List DebouncerStep) :
    d.callAhead (step :: ahead) = match d.call with
      | .scheduled _ =>
        if ((step :: ahead).dropWhile (· = .cancel)).head? = some .flush then some d.now else none
      | _ => none := by
  unfold callAhead
  split
  next => rw [callBehind_of_demand hstep, ite_self]
  next => rfl

/-- The call still waits if there is no other demand. -/
theorem waitsBehind_of_demand {step : DebouncerStep} (hstep : step.isWait = false)
    (ahead : List DebouncerStep) :
    d.WaitsBehind (step :: ahead) ↔
      (∃ due, d.call = .scheduled due) ∧ (step :: ahead).dropWhile (· = .cancel) = [] := by
  simp only [WaitsBehind, stillWaits_of_demand hstep, ite_self, exists_and_right]

section

variable {ahead : List DebouncerStep}

/-- Nothing is called where no call is wanted. -/
theorem callAhead_of_none (h : d.call = .none) : d.callAhead ahead = none := by rw [callAhead, h]

/-- Nothing waits where no call is wanted. -/
theorem not_waitsBehind_of_none (h : d.call = .none) : ¬ d.WaitsBehind ahead := by
  simp [WaitsBehind, h]

/-- A scheduled call comes as if its trigger had the rest of the delay before it. -/
theorem callAhead_of_scheduled {due : Nat} (h : d.call = .scheduled due)
    (hcancelling : d.cancelling = false) :
    d.callAhead ahead = callBehind (due - d.now) d.now ahead := by
  simp only [callAhead, h, hcancelling, Bool.false_eq_true, if_false]

/-- A scheduled call waits as if its trigger had the rest of the delay before it. -/
theorem waitsBehind_of_scheduled {due : Nat} (h : d.call = .scheduled due)
    (hcancelling : d.cancelling = false) :
    d.WaitsBehind ahead ↔ StillWaits (due - d.now) ahead := by
  simp [WaitsBehind, h, hcancelling]

end

/-- A trigger makes the calls that were expected of it. -/
theorem IsInstant.trigger (h : d.IsInstant) : d.Takes .trigger (d.perform .trigger) := by
  cases hdisposed : d.disposed with
  -- Behind the disposal nothing is scheduled and nothing is expected.
  | true =>
    have hcall := h.disposed hdisposed
    have hsame : d.perform .trigger = (d, []) := by simp [perform, Debouncer.trigger, hdisposed]
    rw [hsame]
    refine ⟨h, rfl, fun ahead => ?_, fun ahead => ?_⟩
    · simp [callsAhead, callAhead_of_none hcall, hdisposed]
    · simp [WillWait, not_waitsBehind_of_none hcall, hdisposed]
  | false =>
    -- The call under way is put off: it is now that of this trigger, with the whole delay.
    have hnext : d.perform .trigger
        = ({ d with call := .scheduled (d.now + d.delay), cancelling := false }, []) := by
      simp [perform, Debouncer.trigger, hdisposed]
    rw [hnext]
    refine ⟨⟨h.duration, by simp, by simp, by simp [hdisposed]⟩, rfl, fun ahead => ?_,
      fun ahead => ?_⟩
    · -- No call ahead of the trigger: it is the first demand, and it is no flush.
      have hnone : d.callAhead (.trigger :: ahead) = none := by
        rw [callAhead_of_demand rfl]
        split <;> simp
      rw [callsAhead, hnone, callsAhead, callAhead_of_scheduled rfl rfl]
      simp [hdisposed, expectedCalls]
    · have hnone : ¬ d.WaitsBehind (.trigger :: ahead) := by rw [waitsBehind_of_demand rfl]; simp
      rw [WillWait, WillWait,
        waitsBehind_of_scheduled (d := { d with call := _, cancelling := _ }) rfl rfl]
      simp [hnone, hdisposed, triggerWaits_cons]

/-- A request to cancel makes the calls that were expected of it. -/
theorem IsInstant.cancel (h : d.IsInstant) : d.Takes .cancel (d.perform .cancel) := by
  cases hcall : d.call with
  | none =>
    have hsame : d.perform .cancel = (d, []) := by
      simp [perform, Debouncer.cancel, isPending, hcall]
    rw [hsame]
    refine ⟨h, rfl, fun ahead => ?_, fun ahead => ?_⟩
    · simp [callsAhead, callAhead_of_none hcall, expectedCalls]
    · simp [WillWait, not_waitsBehind_of_none hcall, triggerWaits_cons]
  -- What is under way stays there, with a request to cancel that nobody has heard of yet.
  | scheduled due =>
    have hnext : d.perform .cancel = ({ d with cancelling := true }, []) := by
      simp [perform, Debouncer.cancel, isPending, hcall]
    rw [hnext]
    refine ⟨⟨h.duration, h.call, h.due, h.disposed⟩, rfl, fun ahead => ?_, fun ahead => ?_⟩
    · rw [callsAhead, callAhead_of_demand rfl, callsAhead]
      simp [callAhead, hcall, expectedCalls]
    · rw [WillWait, waitsBehind_of_demand rfl]
      simp [WillWait, WaitsBehind, hcall, triggerWaits_cons]
  -- The callback returns at once, so it is never found running.
  | running stop => exact absurd hcall (h.call stop)

/-- A flush makes the calls that were expected of it. -/
theorem IsInstant.flush (h : d.IsInstant) : d.Takes .flush (d.perform .flush) := by
  cases hcall : d.call with
  | none =>
    have hsame : d.perform .flush = (d, []) := by simp [perform, Debouncer.flush, isPending, hcall]
    rw [hsame]
    refine ⟨h, rfl, fun ahead => ?_, fun ahead => ?_⟩
    · simp [callsAhead, callAhead_of_none hcall, expectedCalls]
    · simp [WillWait, not_waitsBehind_of_none hcall, triggerWaits_cons]
  | scheduled due =>
    -- Nothing is under way once the debouncer has been disposed of.
    have hdisposed : d.disposed = false :=
      Bool.eq_false_iff.2 fun hd => by simp [h.disposed hd] at hcall
    have hnext : d.perform .flush = ({ d.clear with calls := d.calls + 1 }, [.called d.now]) := by
      simp [perform, Debouncer.flush, isPending, hcall, hdisposed, h.duration]
    rw [hnext]
    refine ⟨⟨h.duration, by simp [clear], by simp [clear], fun _ => rfl⟩, rfl, fun ahead => ?_,
      fun ahead => ?_⟩
    · rw [callsAhead, callAhead_of_demand rfl, callsAhead, callAhead_of_none rfl]
      simp [hcall, hdisposed, clear, expectedCalls]
    · rw [WillWait, waitsBehind_of_demand rfl, WillWait, or_iff_right (not_waitsBehind_of_none rfl)]
      simp [clear, triggerWaits_cons]
  | running stop => exact absurd hcall (h.call stop)

/-- The disposal makes no call, and none is expected behind it. -/
theorem IsInstant.dispose (h : d.IsInstant) : d.Takes .dispose (d.perform .dispose) := by
  have hnext : d.perform .dispose = ({ d.clear with disposed := true }, []) := rfl
  rw [hnext]
  refine ⟨⟨h.duration, by simp [clear], by simp [clear], fun _ => rfl⟩, rfl, fun ahead => ?_,
    fun ahead => ?_⟩
  · -- The call under way is cleared, and no trigger behind the disposal counts.
    have hnone : d.callAhead (.dispose :: ahead) = none := by
      rw [callAhead_of_demand rfl]
      split <;> simp
    rw [callsAhead, hnone, callsAhead, callAhead_of_none rfl]
    simp [expectedCalls]
  · have hnone : ¬ d.WaitsBehind (.dispose :: ahead) := by rw [waitsBehind_of_demand rfl]; simp
    have hafter : ¬ ({ d.clear with disposed := true } : Debouncer).WaitsBehind ahead :=
      not_waitsBehind_of_none rfl
    simp [WillWait, hnone, hafter, triggerWaits_cons]

/-- Time that passes makes the calls that fall due in it. -/
theorem IsInstant.wait (h : d.IsInstant) (time : Nat) :
    d.Takes (.wait time) (d.perform (.wait time)) := by
  -- Nothing is under way any more.
  let gone : Debouncer := { d.clear with now := d.now + time }
  have hgone : gone.IsInstant := ⟨h.duration, nofun, nofun, fun _ => rfl⟩
  -- The same is under way as before.
  let later : Debouncer := { d with now := d.now + time }
  cases hcancelling : d.cancelling with
  | true =>
    have hnext : d.perform (.wait time) = (gone, []) := by
      simp [perform, Debouncer.advance, hcancelling, gone]
    rw [hnext]
    refine ⟨hgone, rfl, fun ahead => ?_, fun ahead => ?_⟩
    · have hnone : d.callAhead (.wait time :: ahead) = none := by
        unfold callAhead
        split <;> simp [hcancelling]
      rw [callsAhead, hnone, callsAhead, callAhead_of_none rfl]
      rfl
    · have hnone : ¬ d.WaitsBehind (.wait time :: ahead) := by simp [WaitsBehind, hcancelling]
      rw [WillWait, or_iff_right hnone, WillWait, or_iff_right (not_waitsBehind_of_none rfl)]
      simp [gone, clear, triggerWaits_cons]
  | false =>
    cases hcall : d.call with
    | none =>
      have hnext : d.perform (.wait time) = (later, []) := by
        simp [perform, Debouncer.advance, hcancelling, hcall, later]
      have hlater : later.call = .none := hcall
      rw [hnext]
      refine ⟨⟨h.duration, h.call, by simp [hlater], h.disposed⟩, rfl, fun ahead => ?_,
        fun ahead => ?_⟩
      · rw [callsAhead, callAhead_of_none hcall, callsAhead, callAhead_of_none hlater]
        rfl
      · rw [WillWait, or_iff_right (not_waitsBehind_of_none hcall), WillWait,
          or_iff_right (not_waitsBehind_of_none hlater)]
        simp [later, triggerWaits_cons]
    | scheduled due =>
      have hnow : d.now ≤ due := h.due due hcall
      by_cases hdue : due ≤ d.now + time
      · have hnext : d.perform (.wait time)
            = ({ gone with calls := d.calls + 1 }, [.called due]) := by
          simp [perform, Debouncer.advance, fire, hcancelling, hcall, hdue, h.duration, clear, gone]
        rw [hnext]
        refine ⟨⟨hgone.duration, hgone.call, hgone.due, hgone.disposed⟩, rfl, fun ahead => ?_,
          fun ahead => ?_⟩
        · rw [callsAhead, callAhead_of_scheduled hcall hcancelling,
            callBehind_wait_of_le (by omega), callsAhead, callAhead_of_none rfl,
            Nat.add_sub_cancel' hnow]
          rfl
        · have hnone : ¬ d.WaitsBehind (.wait time :: ahead) := by
            rw [waitsBehind_of_scheduled hcall hcancelling]
            exact fun hwaits => hwaits.1 (waitsOut_wait_of_le (by omega))
          rw [WillWait, or_iff_right hnone, WillWait, or_iff_right (not_waitsBehind_of_none rfl)]
          simp [gone, clear, triggerWaits_cons]
      · have hnext : d.perform (.wait time) = (later, []) := by
          simp [perform, Debouncer.advance, hcancelling, hcall, hdue, later]
        have hlater : later.call = .scheduled due := hcall
        have hless : time < due - d.now := by omega
        have hrest : due - d.now - time = due - later.now := Nat.sub_sub _ _ _
        rw [hnext]
        refine ⟨⟨h.duration, h.call, fun other hother => ?_, h.disposed⟩, rfl, fun ahead => ?_,
          fun ahead => ?_⟩
        · obtain rfl : due = other := PendingCall.scheduled.inj (hlater.symm.trans hother)
          exact Nat.le_of_not_le hdue
        · rw [callsAhead, callAhead_of_scheduled hcall hcancelling, callBehind_wait hless, hrest,
            callsAhead, callAhead_of_scheduled hlater hcancelling]
          rfl
        · rw [WillWait, waitsBehind_of_scheduled hcall hcancelling, stillWaits_wait hless, hrest,
            WillWait, waitsBehind_of_scheduled hlater hcancelling]
          simp [later, triggerWaits_cons]
    | running stop => exact absurd hcall (h.call stop)

/-- Nothing is called when there are no steps. -/
theorem callAhead_nil : d.callAhead [] = none := by
  unfold callAhead
  split
  next => simp [callBehind, WaitsOut, firstDemand?]
  next => rfl

/-- What is under way waits when there are no steps. -/
theorem IsInstant.waitsBehind_nil (h : d.IsInstant) : d.WaitsBehind [] ↔ d.isPending = true := by
  cases hcall : d.call with
  | none => simp [WaitsBehind, isPending, hcall]
  | scheduled due => simp [WaitsBehind, isPending, hcall, StillWaits, WaitsOut, firstDemand?]
  | running stop => exact absurd hcall (h.call stop)

/-- **One step of a debouncer.** -/
theorem IsInstant.perform (h : d.IsInstant) (step : DebouncerStep) :
    d.Takes step (d.perform step) := by
  cases step with
  | trigger => exact h.trigger
  | cancel => exact h.cancel
  | flush => exact h.flush
  | dispose => exact h.dispose
  | wait time => exact h.wait time

/-- **Any steps of a debouncer.** -/
theorem IsInstant.follow (h : d.IsInstant) (steps : List DebouncerStep) :
    (d.follow steps).2 = (d.callsAhead steps).map .called ∧
      (d.follow steps).1.calls = d.calls + (d.follow steps).2.length ∧
      ((d.follow steps).1.isPending = true ↔ d.WillWait steps) := by
  -- The calls of the run are those of its first step and those expected behind it.
  induction steps generalizing d with
  | nil =>
    refine ⟨?_, rfl, ?_⟩
    · rw [callsAhead, callAhead_nil, expectedCalls, ite_self]
      rfl
    · rw [WillWait, or_iff_left (fun hwaits => not_triggerWaits_nil hwaits.2)]
      exact h.waitsBehind_nil.symm
  | cons step steps ih =>
    have htakes := h.perform step
    obtain ⟨hevents, hcalls, hpending⟩ := ih htakes.instant
    refine ⟨?_, ?_, ?_⟩
    · rw [htakes.made steps, ← hevents]
      rfl
    · rw [Debouncer.follow]
      simp only [hcalls, htakes.calls, List.length_append, Nat.add_assoc]
    · rw [htakes.waits steps, ← hpending]
      rfl

/-- **The callback is called at exactly the expected moments**, each time once: a trigger comes to
its call when the quiet time is over before anything else is asked for, or at a flush before that.
The calls are counted, and one is pending exactly while a trigger still waits. -/
theorem follow_start (delay : Nat) (steps : List DebouncerStep) :
    let after := (start delay none).follow steps
    after.2 = (expectedCalls delay 0 steps).map .called ∧ after.1.calls = after.2.length ∧
      (after.1.isPending = true ↔ TriggerWaits delay steps) := by
  have hstart : (start delay none).IsInstant :=
    ⟨rfl, by simp [start], by simp [start], fun _ => rfl⟩
  obtain ⟨hevents, hcalls, hpending⟩ := hstart.follow steps
  -- Nothing is under way at the start, so all calls are those of triggers to come.
  have hnone : ¬ (start delay none).WaitsBehind steps := not_waitsBehind_of_none rfl
  refine ⟨?_, ?_, ?_⟩
  · rw [hevents, callsAhead, callAhead_of_none rfl]
    rfl
  · rw [hcalls]
    exact Nat.zero_add _
  · rw [hpending, WillWait, or_iff_right hnone]
    exact and_iff_right rfl

/-- A second trigger puts the call off, a flush makes it early, and the disposal ends everything. -/
example : ((start 300 none).follow [.trigger, .wait 200, .trigger, .wait 400, .trigger, .wait 100,
    .flush, .trigger, .dispose, .trigger, .wait 500]).2 = [.called 500, .called 700] := by decide

/-! ## Cancelled calls -/

/-- A new debouncer has nothing under way. -/
theorem isInstant_start (delay : Nat) : (start delay none).IsInstant :=
  ⟨rfl, nofun, nofun, fun _ => rfl⟩

/-- The callback returns at once behind every step as well. -/
theorem IsInstant.after (h : d.IsInstant) (steps : List DebouncerStep) :
    (d.follow steps).1.IsInstant := by
  induction steps generalizing d with
  | nil => exact h
  | cons step steps ih => exact ih (h.perform step).instant

/-- Steps are taken one after another. -/
theorem follow_append (d : Debouncer) (before behind : List DebouncerStep) :
    d.follow (before ++ behind) = (((d.follow before).1.follow behind).1,
      (d.follow before).2 ++ ((d.follow before).1.follow behind).2) := by
  induction before generalizing d with
  | nil => rfl
  | cons step before ih => simp only [List.cons_append, follow, ih, List.append_assoc]

/-- **What is under way when it is cancelled** is called at most once more, by a flush that comes at
once. -/
theorem IsInstant.callAhead_cancel (h : d.IsInstant) (behind : List DebouncerStep) :
    d.callAhead (.cancel :: behind) = if d.isPending ∧ FlushesAtOnce behind then some d.now
      else none := by
  rw [callAhead_of_demand rfl, List.dropWhile_cons_of_pos (by simp)]
  cases hcall : d.call with
  | none => simp [isPending, hcall]
  | scheduled due => simp [isPending, hcall, FlushesAtOnce]
  | running stop => exact absurd hcall (h.call stop)

/-- **A call that has been cancelled is made by no timer.** From a request to cancel to the next
trigger the callback is called only where a flush follows upon the request before time passes: that
one still finds the call that was under way and makes it, once. -/
theorem follow_cancel (delay : Nat) (before behind : List DebouncerStep) (h : .trigger ∉ behind) :
    let d := ((start delay none).follow before).1
    ((start delay none).follow (before ++ .cancel :: behind)).2
      = ((start delay none).follow before).2 ++
      if d.isPending ∧ FlushesAtOnce behind then [.called d.now] else [] := by
  intro d
  have hd : d.IsInstant := (isInstant_start delay).after before
  -- Nothing is triggered any more, so whatever is called now was under way before.
  have hexpected : expectedCalls d.delay d.now (.cancel :: behind) = [] :=
    expectedCalls_of_not_mem (by simpa using h)
  rw [follow_append, (hd.follow (.cancel :: behind)).1, callsAhead, hd.callAhead_cancel, hexpected,
    ite_self, List.append_nil]
  split <;> rfl

/-- A second request to cancel does not come before the flush, and the call that was due later is
gone. -/
theorem follow_cancel_flushed : .trigger ∉ [DebouncerStep.cancel, .flush, .wait 500, .flush] ∧
    ((start 300 none).follow ([.trigger, .wait 100]
      ++ .cancel :: [.cancel, .flush, .wait 500, .flush])).2
      = [.called 100] := by
  have hno : .trigger ∉ [DebouncerStep.cancel, .flush, .wait 500, .flush] := by decide
  exact ⟨hno,
    (follow_cancel 300 [.trigger, .wait 100] [.cancel, .flush, .wait 500,
    .flush] hno).trans (by decide)⟩

/-- **A call that has been cancelled is not gone at once**: a flush right behind the request makes
it. -/
theorem exists_call_behind_cancel :
    ¬ ∀ (delay : Nat) (before behind : List DebouncerStep), .trigger ∉ behind →
    ((start delay none).follow (before ++ .cancel :: behind)).2
      = ((start delay none).follow before).2 := fun h => by
  have hnone := h 300 [.trigger] [.flush] (by decide)
  revert hnone
  decide

end Debouncer

end SchemaDiagram
