import Mathlib.Data.List.Count
import Mathlib.Data.List.Nodup
import SchemaDiagram.Proofs.SessionCalls

/-! # Subscriptions and their handles

Whoever subscribes to a store is handed a handle that ends the subscription. A handle knows the
listener and not the subscription: it takes the first subscription of that listener away, if there
is one. So a handle that is called again ends another subscription of the same listener, one whose
own handle may not have been called yet. How the values of an update are converted makes no
difference to this.

* **`SubscriptionStep`**, **`SubscribedStore.run`** — the runs of a store whose handles may be
  called at any time.
* **`SubscribedStore.openCount`** — how many subscriptions of a listener are open, and
  **`SubscribedStore.IsFair`** — a store in which every listener stands once for each of them.
* **`SubscribedStore.Oversteps`** — a step that ends the subscription of another handle.
* **`fair_run`** — no listener ever hears more than it has open subscriptions, and all hear just as
  much in exactly the runs without such a step. -/

namespace SchemaDiagram

/-- **What is asked of a store with handles.** -/
inductive SubscriptionStep (L : Type) where
  /-- A listener comes; it is handed the next handle. -/
  | subscribe (listener : L)
  /-- A handle is called. Handles are numbered in the order in which they are handed out. -/
  | callHandle (handle : Nat)
  /-- Some settings are to be changed. -/
  | update (changes : OrderedMap Json)
  /-- The settings are to be restored. -/
  | reset

namespace SubscriptionStep

variable {L : Type}

/-- The listener that comes. -/
def newcomer? : SubscriptionStep L → Option L
  | subscribe listener => some listener
  | _ => none

/-- The handle that is called. -/
def handle? : SubscriptionStep L → Option Nat
  | callHandle handle => some handle
  | _ => none

end SubscriptionStep

/-- A store with the handles that it has handed out. -/
structure SubscribedStore (L : Type) where
  /-- The store. -/
  store : SettingsStore L
  /-- The listener of each handle. -/
  handles : List L
  /-- The handles that have been called, some of them several times. -/
  called : List Nat

namespace SubscribedStore

open DisplaySettings (Conversions)

variable {L : Type}

/-- A store that nobody listens to. -/
def start (initial : DisplaySettings) : SubscribedStore L := ⟨.ofSettings initial, [], []⟩

/-- What comes of the answer to an update. -/
def answered (s : SubscribedStore L) : Except Failure (SettingsStore.Update L) → SubscribedStore L
  | .error _ => s
  | .ok update => { s with store := update.store }

/-- The handles that have been handed out and not been called. -/
def openHandles (s : SubscribedStore L) : List Nat :=
  (List.range s.handles.length).filter (· ∉ s.called)

variable [DecidableEq L] (c : Conversions)

/-- The store after a step. A handle that has not been handed out cannot be called. -/
def perform (s : SubscribedStore L) : SubscriptionStep L → SubscribedStore L
  | .subscribe listener =>
    { s with store := s.store.subscribe listener, handles := s.handles ++ [listener] }
  | .callHandle handle =>
    match s.handles[handle]? with
    | some listener =>
      { s with store := s.store.unsubscribe listener, called := handle :: s.called }
    | none => s
  | .update changes => s.answered (s.store.updateWith c changes)
  | .reset => s.answered (s.store.resetWith c)

/-- The store after some steps. -/
def run (s : SubscribedStore L) (steps : List (SubscriptionStep L)) : SubscribedStore L :=
  steps.foldl (perform c) s

/-- **How many subscriptions of a listener are open**: their own handles have not been called. -/
def openCount (s : SubscribedStore L) (listener : L) : Nat :=
  s.openHandles.countP (s.handles[·]? = some listener)

/-- **Every listener stands once for each of its open subscriptions.** -/
def IsFair (s : SubscribedStore L) : Prop :=
  ∀ listener, s.store.listeners.count listener = s.openCount listener

/-- **A step ends the subscription of another handle**: a handle is called again, and its listener
is still there. -/
def Oversteps (s : SubscribedStore L) (step : SubscriptionStep L) : Prop :=
  ∃ handle ∈ s.called, step = .callHandle handle ∧
    ∃ listener ∈ s.store.listeners, s.handles[handle]? = some listener

/-- **No step ends the subscription of another handle.** -/
def IsOrderly (s : SubscribedStore L) : List (SubscriptionStep L) → Prop
  | [] => True
  | step :: steps => ¬ s.Oversteps step ∧ (s.perform c step).IsOrderly steps

/-! ## One step -/

/-- **What every step keeps.** -/
structure IsKept (s : SubscribedStore L) : Prop where
  /-- Only handles that have been handed out are called. -/
  issued : ∀ handle ∈ s.called, handle < s.handles.length
  /-- No listener stands more often than it has open subscriptions. -/
  bounded : ∀ listener, s.store.listeners.count listener ≤ s.openCount listener

variable {c} {s : SubscribedStore L} {listener : L} {handle : Nat}

/-- Nothing has happened yet. -/
theorem isKept_start (initial : DisplaySettings) : (start initial : SubscribedStore L).IsKept :=
  ⟨nofun, fun _ => Nat.le_refl 0⟩

omit [DecidableEq L] in
/-- A handle is open while it has been handed out and not been called. -/
theorem mem_openHandles :
    handle ∈ s.openHandles ↔ handle < s.handles.length ∧ handle ∉ s.called := by
  simp [openHandles]

/-- A subscription is open until its handle is called. -/
theorem openCount_subscribe (h : s.IsKept) (newcomer : L) :
    (s.perform c (.subscribe newcomer)).openCount listener
      = s.openCount listener + if newcomer = listener then 1 else 0 := by
  -- The handle of the newcomer has never been called.
  have hnew : s.handles.length ∉ s.called := fun hcalled => Nat.lt_irrefl _ (h.issued _ hcalled)
  have hopen : (s.perform c (.subscribe newcomer)).openHandles
      = s.openHandles ++ [s.handles.length] := by
    show (List.range (s.handles ++ [newcomer]).length).filter (· ∉ s.called)
      = s.openHandles ++ [s.handles.length]
    rw [List.length_append, List.length_singleton, List.range_succ, List.filter_append,
      List.filter_cons_of_pos (by simpa using hnew), List.filter_nil, openHandles]
  rw [openCount, hopen, List.countP_append, openCount]
  congr 1
  · refine List.countP_congr fun i hi => ?_
    rw [show (s.perform c (.subscribe newcomer)).handles = s.handles ++ [newcomer] from rfl,
      List.getElem?_append_left (mem_openHandles.1 hi).1]
  · simp [perform, List.countP_singleton]

/-- **A handle ends its own subscription** when it is called for the first time. -/
theorem openCount_callHandle {owner : L} (howner : s.handles[handle]? = some owner) :
    (s.perform c (.callHandle handle)).openCount listener
      = s.openCount listener - if handle ∉ s.called ∧ owner = listener then 1 else 0 := by
  -- Calling a handle takes it off those that are open.
  have hopen : (s.perform c (.callHandle handle)).openHandles = s.openHandles.erase handle := by
    rw [openHandles, openHandles, List.Nodup.erase_eq_filter (List.nodup_range.filter _),
      List.filter_filter]
    simp only [perform, howner]
    refine List.filter_congr fun i _ => ?_
    rw [bne, beq_eq_decide, ← decide_not, ← Bool.decide_and]
    simp only [List.mem_cons, not_or]
  -- A handle that was issued is open until it is called.
  have hmem : handle ∈ s.openHandles ↔ handle ∉ s.called :=
    mem_openHandles.trans (and_iff_right (List.getElem?_eq_some_iff.1 howner).1)
  have hhandles : (s.perform c (.callHandle handle)).handles = s.handles := by
    simp only [perform, howner]
  rw [openCount, hopen, hhandles, List.countP_erase, openCount]
  simp only [hmem, howner, decide_eq_true_eq, Option.some.injEq]

/-- Whoever listens after a handle has been called: one subscription of its listener less. -/
theorem count_callHandle {owner : L} (howner : s.handles[handle]? = some owner) :
    (s.perform c (.callHandle handle)).store.listeners.count listener
      = s.store.listeners.count listener - if owner = listener then 1 else 0 := by
  simp only [perform, howner, SettingsStore.unsubscribe, List.count_erase, beq_iff_eq]

/-- Whoever listens after a listener has come: one subscription of it more. -/
theorem count_subscribe (newcomer : L) :
    (s.perform c (.subscribe newcomer)).store.listeners.count listener
      = s.store.listeners.count listener + if newcomer = listener then 1 else 0 := by
  simp only [perform, SettingsStore.subscribe, List.count_append, List.count_singleton, beq_iff_eq]

omit [DecidableEq L] in
/-- Updates leave the listeners as they are. -/
theorem exists_answered (c : Conversions) (s : SubscribedStore L) (changes : OrderedMap Json) :
    ∃ store : SettingsStore L, s.answered (s.store.updateWith c changes) = { s with store } ∧
      store.listeners = s.store.listeners := by
  cases hupdate : s.store.updateWith c changes with
  | error f => exact ⟨s.store, rfl, rfl⟩
  | ok update =>
    obtain ⟨hsame, -⟩ | ⟨hlisteners, -⟩ := SettingsStore.updateWith_cases hupdate
    · exact ⟨update.store, rfl, congrArg _ hsame⟩
    · exact ⟨update.store, rfl, hlisteners⟩

/-- **What a step does**: it changes no listener, or a listener comes, or the handle of one is
called. -/
theorem perform_cases (c : Conversions) (s : SubscribedStore L) (step : SubscriptionStep L) :
    (∃ store : SettingsStore L, s.perform c step = { s with store } ∧
      store.listeners = s.store.listeners ∧ ¬ s.Oversteps step) ∨
    (∃ newcomer, step = .subscribe newcomer) ∨
    ∃ handle owner, step = .callHandle handle ∧ s.handles[handle]? = some owner := by
  cases step with
  | subscribe newcomer => exact .inr (.inl ⟨newcomer, rfl⟩)
  | callHandle handle =>
    -- A handle that was never issued is ignored.
    cases howner : s.handles[handle]? with
    | some owner => exact .inr (.inr ⟨handle, owner, rfl, howner⟩)
    | none =>
      refine .inl ⟨s.store, by simp only [perform, howner], rfl, ?_⟩
      rintro ⟨_, -, ⟨⟩, owner, -, hsome⟩
      rw [howner] at hsome
      cases hsome
  | update changes =>
    obtain ⟨store, hanswered, hlisteners⟩ := s.exists_answered c changes
    exact .inl ⟨store, hanswered, hlisteners, by rintro ⟨_, -, ⟨⟩, -⟩⟩
  | reset =>
    obtain ⟨store, hanswered, hlisteners⟩ := s.exists_answered c DisplaySettings.default.members
    exact .inl ⟨store, hanswered, hlisteners, by rintro ⟨_, -, ⟨⟩, -⟩⟩

/-- Every step keeps to the rules. -/
theorem IsKept.perform (c : Conversions) (h : s.IsKept) (step : SubscriptionStep L) :
    (s.perform c step).IsKept := by
  obtain ⟨store, hnext, hlisteners, -⟩ | ⟨newcomer, rfl⟩ | ⟨handle, owner, rfl, howner⟩ :=
    s.perform_cases c step
  · rw [hnext]
    refine ⟨h.issued, fun listener => ?_⟩
    show store.listeners.count listener ≤ s.openCount listener
    rw [hlisteners]
    exact h.bounded listener
  · -- The newcomer stands once more among the listeners, with one more open handle.
    refine ⟨fun i hi => ?_, fun listener => ?_⟩
    · rw [SubscribedStore.perform, List.length_append]
      exact Nat.lt_add_right 1 (h.issued i hi)
    · rw [count_subscribe, openCount_subscribe h]
      exact Nat.add_le_add_right (h.bounded listener) _
  · -- A call removes a listener at most where it closes a subscription.
    refine ⟨fun i hi => ?_, fun listener => ?_⟩
    · simp only [SubscribedStore.perform, howner, List.mem_cons] at hi ⊢
      obtain rfl | hi := hi
      · exact (List.getElem?_eq_some_iff.1 howner).1
      · exact h.issued i hi
    · have hbounded := h.bounded listener
      rw [count_callHandle howner, openCount_callHandle howner]
      -- The owner of the handle loses one listener, if there is one.
      by_cases heq : owner = listener
      · simp only [heq, and_true, if_true]
        split <;> omega
      · simpa [heq] using hbounded

/-- **A fair store stays fair** with exactly the steps that do not end the subscription of another
handle. -/
theorem IsFair.perform_iff (hfair : s.IsFair) (hkept : s.IsKept) (step : SubscriptionStep L) :
    (s.perform c step).IsFair ↔ ¬ s.Oversteps step := by
  obtain ⟨store, hnext, hlisteners, hno⟩ | ⟨newcomer, rfl⟩ | ⟨handle, owner, rfl, howner⟩ :=
    s.perform_cases c step
  · rw [hnext]
    exact iff_of_true (fun listener => (congrArg _ hlisteners).trans (hfair listener)) hno
  · refine iff_of_true (fun listener => ?_) (by rintro ⟨_, -, ⟨⟩, -⟩)
    rw [count_subscribe, openCount_subscribe hkept, hfair]
  · have hover : s.Oversteps (.callHandle handle) ↔
        handle ∈ s.called ∧ owner ∈ s.store.listeners := by
      simp [Oversteps, howner]
    rw [hover]
    by_cases hcalled : handle ∈ s.called
    · -- The open subscriptions stay the same,
      -- and one of the listener is taken away if there is one.
      simp only [IsFair, count_callHandle howner, openCount_callHandle howner, hcalled,
        not_true_eq_false, false_and, if_false, Nat.sub_zero, true_and]
      constructor
      · intro hnext hlistens
        have hcount := hnext owner
        have hpos := List.count_pos_iff.2 hlistens
        rw [hfair owner] at hcount hpos
        simp only [if_true] at hcount
        omega
      · intro hgone listener
        rw [hfair listener]
        split
        next heq =>
          rw [← hfair listener, ← heq, List.count_eq_zero.2 hgone]
        next => rfl
    · refine iff_of_true (fun listener => ?_) (fun h => hcalled h.1)
      rw [count_callHandle howner, openCount_callHandle howner, hfair listener]
      simp only [hcalled, not_false_eq_true, true_and]

/-! ## Runs -/

/-- **From a fair store** every run without a step that ends the subscription of another handle
leads through fair stores only, and no other run does. -/
theorem IsFair.isOrderly_iff (hfair : s.IsFair) (hkept : s.IsKept)
    (steps : List (SubscriptionStep L)) :
    (∀ before, before <+: steps → (s.run c before).IsFair) ↔ s.IsOrderly c steps := by
  -- By induction on the steps: one that oversteps breaks the fairness behind itself, any other one
  -- hands it on.
  induction steps generalizing s with
  | nil =>
    refine iff_of_true (fun before hbefore => ?_) trivial
    obtain rfl := List.prefix_nil.1 hbefore
    exact hfair
  | cons step steps ih =>
    have hkeeps := hkept.perform c step
    constructor
    · intro hall
      have hnext : (s.perform c step).IsFair := hall [step] ⟨steps, rfl⟩
      refine ⟨(hfair.perform_iff hkept step).1 hnext, (ih hnext hkeeps).1 fun before hbefore => ?_⟩
      exact hall (step :: before) (List.cons_prefix_cons.2 ⟨rfl, hbefore⟩)
    · rintro ⟨hno, hrest⟩ before hbefore
      have hnext := (hfair.perform_iff (c := c) hkept step).2 hno
      obtain rfl | ⟨later, rfl, hlater⟩ := List.prefix_cons_iff.1 hbefore
      · exact hfair
      · exact (ih hnext hkeeps).2 hrest later hlater

/-- Every run keeps to the rules. -/
theorem IsKept.run (c : Conversions) (h : s.IsKept) (steps : List (SubscriptionStep L)) :
    (s.run c steps).IsKept := by
  induction steps generalizing s with
  | nil => exact h
  | cons step steps ih => exact ih (h.perform c step)

/-- A handle is called in the step if it has not been called before. -/
theorem mem_called_perform {step : SubscriptionStep L} (h : handle ∈ (s.perform c step).called) :
    handle ∈ s.called ∨ step = .callHandle handle := by
  obtain ⟨store, hnext, -⟩ | ⟨newcomer, rfl⟩ | ⟨other, owner, rfl, howner⟩ := s.perform_cases c step
  · rw [hnext] at h
    exact .inl h
  · exact .inl h
  · simp only [perform, howner, List.mem_cons] at h
    obtain rfl | h := h
    · exact .inr rfl
    · exact .inl h

/-- **A run in which no handle is called twice** ends no subscription of another handle. -/
theorem isOrderly_of_handles (steps : List (SubscriptionStep L))
    (hnodup : (steps.filterMap (·.handle?)).Nodup)
    (hnew : ∀ handle ∈ s.called, handle ∉ steps.filterMap (·.handle?)) : s.IsOrderly c steps := by
  induction steps generalizing s with
  | nil => trivial
  | cons step steps ih =>
    have hsub : (steps.filterMap (·.handle?)).Sublist ((step :: steps).filterMap (·.handle?)) :=
      (List.sublist_cons_self step steps).filterMap _
    refine ⟨?_, ih (hnodup.sublist hsub) fun handle hcalled hlater => ?_⟩
    · -- A handle among those to come has not been called before.
      rintro ⟨handle, hcalled, rfl, -⟩
      exact hnew handle hcalled List.mem_cons_self
    · -- A handle that this step calls is not called again.
      obtain hbefore | rfl := mem_called_perform hcalled
      · exact hnew handle hbefore (hsub.subset hlater)
      · exact (List.nodup_cons.1 hnodup).1 hlater

/-- A listener with one handle has no open subscription once that has been called. -/
theorem openCount_eq_zero (hnodup : s.handles.Nodup) (hcalled : handle ∈ s.called)
    (howner : s.handles[handle]? = some listener) : s.openCount listener = 0 := by
  refine List.countP_eq_zero.2 fun i hi hother => (mem_openHandles.1 hi).2 ?_
  obtain ⟨hlt, heq⟩ := List.getElem?_eq_some_iff.1 howner
  obtain ⟨hlt', heq'⟩ := List.getElem?_eq_some_iff.1 (of_decide_eq_true hother)
  rwa [(hnodup.getElem_inj_iff).1 (heq'.trans heq.symm)]

/-- **A run in which no listener subscribes twice** ends no subscription of another handle. -/
theorem isOrderly_of_newcomers (hkept : s.IsKept) (steps : List (SubscriptionStep L))
    (hnodup : (s.handles ++ steps.filterMap (·.newcomer?)).Nodup) : s.IsOrderly c steps := by
  induction steps generalizing s with
  | nil => trivial
  | cons step steps ih =>
    refine ⟨?_, ih (hkept.perform c step) ?_⟩
    · -- Once its only handle has been called,
      -- a listener has no open subscription and so stands nowhere.
      rintro ⟨handle, hcalled, rfl, listener, hlistens, howner⟩
      have hnone := openCount_eq_zero (List.Nodup.of_append_left hnodup) hcalled howner
      have hcount := hkept.bounded listener
      rw [hnone] at hcount
      exact Nat.not_lt.2 hcount (List.count_pos_iff.2 hlistens)
    · obtain ⟨store, hnext, -⟩ | ⟨newcomer, rfl⟩ | ⟨handle, owner, rfl, howner⟩ :=
        s.perform_cases c step
      · rw [hnext]
        refine hnodup.sublist (List.Sublist.append_left ?_ _)
        exact (List.sublist_cons_self step steps).filterMap _
      · rw [show (s.perform c (.subscribe newcomer)).handles = s.handles ++ [newcomer] from rfl,
          List.append_assoc]
        exact hnodup
      · rw [show (s.perform c (.callHandle handle)).handles
          = s.handles by simp only [perform, howner]]
        exact hnodup

/-- **Whom an update calls**: all listeners of the store. No listener stands there more often than
it has open subscriptions. In the whole course of a run every listener stands there just as often
exactly if no handle is called again while its listener is still there; and that is so where no
handle is called twice or no listener subscribes twice. -/
theorem fair_run (c : Conversions) (initial : DisplaySettings) (steps : List (SubscriptionStep L)) :
    let after := (start initial).run c steps
    (∀ changes update, after.store.updateWith c changes = .ok update → update.change ≠ none →
      update.notified = after.store.listeners) ∧
    (∀ listener, after.store.listeners.count listener ≤ after.openCount listener) ∧
    ((∀ before, before <+: steps → ((start initial).run c before).IsFair) ↔
      (start initial).IsOrderly c steps) ∧
    ((steps.filterMap (·.handle?)).Nodup ∨ (steps.filterMap (·.newcomer?)).Nodup →
      (start initial).IsOrderly c steps) := by
  intro after
  have hstart : (start initial : SubscribedStore L).IsKept := isKept_start initial
  have hfair : (start initial : SubscribedStore L).IsFair := fun _ => rfl
  refine ⟨fun changes update hupdate hchange => ?_, (hstart.run c steps).bounded,
    hfair.isOrderly_iff hstart steps, ?_⟩
  · obtain ⟨-, -, hnone⟩ | ⟨-, htold⟩ := SettingsStore.updateWith_cases hupdate
    · exact absurd hnone hchange
    · exact htold
  · -- Without a handle called twice, or a listener subscribed twice, no call goes too far.
    rintro (hhandles | hnewcomers)
    · exact isOrderly_of_handles steps hhandles nofun
    · exact isOrderly_of_newcomers hstart steps hnewcomers

/-- The handle of a subscription that has ended long ago takes away one that came later. -/
example :
    let after := (start .default).run .standard
      [.subscribe 1, .callHandle 0, .subscribe 1, .callHandle (L := Nat) 0]
    after.store.listeners = [] ∧ after.openHandles = [1] := by decide

/-- **A handle that is called twice ends two subscriptions** of its listener, and an update does not
call the listener where the other one is still open. -/
theorem exists_silent_subscription :
    ¬ ∀ (initial : DisplaySettings) (steps : List (SubscriptionStep Nat))
      (changes : OrderedMap Json)
      (update : SettingsStore.Update Nat),
      ((start initial).run .standard steps).store.update changes = .ok update →
        update.change ≠ none → ∀ listener, update.notified.count listener
          = ((start initial).run .standard steps).openCount listener := by
  intro h
  let steps : List (SubscriptionStep Nat) :=
    [.subscribe 1, .subscribe 1, .callHandle 0, .callHandle 0]
  let changes : OrderedMap Json := [("theme".toList, .text "dark")]
  -- After the second call of the first handle nobody is told.
  have hanswer : (((start .default).run .standard steps).store.update changes).toOption.map
      (fun update => (update.change.isSome, update.notified)) = some (true, []) := by decide +kernel
  -- Yet one handle is still open.
  have hopen : ((start .default).run .standard steps).openCount 1 = 1 := by decide
  cases hupdate : ((start .default).run .standard steps).store.update changes with
  | error f =>
    rw [hupdate] at hanswer
    cases hanswer
  | ok update =>
    rw [hupdate] at hanswer
    obtain ⟨hchange, hnotified⟩ := Prod.mk.inj (Option.some.inj hanswer)
    have hcount := h .default steps changes update hupdate (Option.isSome_iff_ne_none.1 hchange) 1
    rw [hnotified, hopen] at hcount
    cases hcount

end SubscribedStore

end SchemaDiagram
