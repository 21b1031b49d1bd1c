import SchemaDiagram.Preview.Session

/-! # Calls of a preview session

All that a host does to a session is a call, and so is the passing of time; a run is a sequence of
calls. A session that has been disposed of may still be called: it neither draws nor writes any
more.

A host tells a session of every change of the text. Then at every moment either a drawing is
pending, or the scene is that of the document as it is, with the display settings as they are: a
change of the text makes a drawing pending, what is pending is drawn after the quiet time or by a
flush, and a change of the settings is drawn at once.

* **`SessionCall`** — the calls, and **`PreviewSession.perform`** — what a call does.
* **`PreviewSession.run`** — a sequence of calls.
* **`PreviewSession.IsIdle`** — what a call of a session that has been disposed of leaves alone.
* **`dispose_run`** — the drawings and the document after the disposal.
* **`Debouncer.Prompt`** — a debouncer whose callback returns at once; **`Debouncer.Settles`** —
  what becomes of the call that it has under way.
* **`HostStep`** — a host that tells of every change, and **`PreviewSession.hosted`** — its runs.
* **`PreviewSession.Follows`** — a session that goes on from its start, and
  **`PreviewSession.IsCurrent`**.
* **`hosted_isCurrent`** — the scene is that of the document. -/

namespace SchemaDiagram

/-- **What is done to a session.** -/
inductive SessionCall where
  /-- The host says that the text has changed. -/
  | textChanged
  /-- The host asks for a drawing. -/
  | renderNow
  /-- The host asks for the drawing that is pending. -/
  | flush
  /-- Some time passes. -/
  | wait (time : Nat)
  /-- A change is to be written. -/
  | commit (change : Change)
  /-- A gesture begins. -/
  | beginGesture (mode : GestureMode) (kind : EntityKind) (name : Text) (rect : Rect Mixed)
    (pointer : Point Mixed)
  /-- The pointer moves. -/
  | movePointer (pointer : Point Mixed)
  /-- The canvas is scaled. -/
  | setScale (scale : Mixed)
  /-- The gesture under way is given up. -/
  | cancelGesture
  /-- The gesture under way ends and is to be written. -/
  | release
  /-- The shared settings are updated. -/
  | updateSettings (changes : OrderedMap Json)
  /-- The session is disposed of. -/
  | dispose

/-- Whether a call may write into the document. -/
def SessionCall.writes : SessionCall → Bool
  | commit _ | release => true
  | _ => false

namespace PreviewSession

variable {D : Type} [Document D] {s : PreviewSession D}

/-- **The session after a call.** A call that is refused leaves it as it was. -/
def perform (s : PreviewSession D) : SessionCall → PreviewSession D
  | .textChanged => s.textChanged
  | .renderNow => s.renderNow
  | .flush => s.flush
  | .wait time => s.advance time
  | .commit change => (s.commitChange change).1
  | .beginGesture mode kind name rect pointer =>
    { s with gestures :=
      (s.gestures.beginGesture mode kind name rect pointer).toOption.getD s.gestures }
  | .movePointer pointer =>
    { s with gestures := (s.gestures.move pointer).toOption.getD s.gestures }
  | .setScale scale => { s with gestures := (s.gestures.setScale scale).getD s.gestures }
  | .cancelGesture => { s with gestures := s.gestures.idle }
  | .release => s.release.1
  | .updateSettings changes => ((s.updateSettings changes).toOption.map (·.1)).getD s
  | .dispose => s.dispose

/-- The session after some calls. -/
def run (s : PreviewSession D) (calls : List SessionCall) : PreviewSession D :=
  calls.foldl perform s

/-! ## After the disposal -/

/-- **Nothing has been drawn, shown or written between two states of a session** that has been
disposed of. -/
structure IsIdle (s s' : PreviewSession D) : Prop where
  /-- It stays disposed of. -/
  disposed : s'.disposed = true
  /-- No scene is drawn. -/
  renders : s'.renders = s.renders
  /-- The scene that was drawn last stays. -/
  scene : s'.scene = s.scene
  /-- The host is handed no scene. -/
  shown : s'.shown = s.shown
  /-- The document stays as it is. -/
  document : s'.document = s.document

/-- A session that has been disposed of draws nothing. -/
theorem renderNow_of_disposed (h : s.disposed = true) : s.renderNow = s := if_pos h

/-- Calls of the debouncer draw nothing. -/
theorem afterCalls_of_disposed (h : s.disposed = true) (debouncer : Debouncer)
    (events : List CallEvent) :
    s.afterCalls debouncer events = { s with debouncer } := by
  unfold afterCalls
  induction events with
  | nil => rfl
  | cons event events ih =>
    cases event with
    -- A call that falls due would draw, and the session draws no more.
    | called time =>
      rw [List.foldl_cons]
      have hsame : ({ s with debouncer } : PreviewSession D).renderNow = { s with debouncer } :=
        renderNow_of_disposed h
      dsimp only
      rw [hsame]
      exact ih
    | finished => exact ih

/-- A session that has been disposed of takes no change. -/
theorem commitChange_of_disposed (h : s.disposed = true) (change : Change) :
    (s.commitChange change).1 = s := by
  rw [commitChange, if_pos h]

/-- The end of a gesture ends it, and that is all. -/
theorem release_of_disposed (h : s.disposed = true) :
    s.release.1 = { s with gestures := s.gestures.idle } := by
  have hgestures : s.gestures.release.1 = s.gestures.idle := rfl
  unfold release
  dsimp only
  rw [hgestures]
  split
  next => rfl
  next => rfl
  next change _ =>
    exact commitChange_of_disposed (s := { s with gestures := s.gestures.idle }) h change

/-- An update of the settings draws nothing. -/
theorem updateSettings_of_disposed (h : s.disposed = true) {changes : OrderedMap Json}
    {after : PreviewSession D × Bool} (hupdate : s.updateSettings changes = .ok after) :
    ∃ store, after.1 = { s with store } := by
  unfold updateSettings at hupdate
  cases hstore : s.store.update changes with
  | error f =>
    rw [hstore] at hupdate
    cases hupdate
  | ok update =>
    rw [hstore] at hupdate
    obtain rfl := Except.ok.inj hupdate
    refine ⟨update.store, ?_⟩
    dsimp only
    induction update.notified with
    | nil => rfl
    | cons listener notified ih =>
      -- A listener that is still told asks for a drawing in vain.
      have hsame : ({ s with store := update.store } : PreviewSession D).renderNow
          = { s with store := update.store } := renderNow_of_disposed h
      rw [List.foldl_cons, hsame]
      exact ih

/-- **A call of a session that has been disposed of** changes its debouncer, its gesture and the
store at most. -/
theorem exists_perform_of_disposed (h : s.disposed = true) (call : SessionCall) :
    ∃ debouncer gestures store, s.perform call = { s with debouncer, gestures, store } := by
  cases call with
  | textChanged => exact ⟨s.debouncer, s.gestures, s.store, if_pos h⟩
  | renderNow => exact ⟨s.debouncer, s.gestures, s.store, renderNow_of_disposed h⟩
  | flush => exact ⟨_, s.gestures, s.store, afterCalls_of_disposed h _ _⟩
  | wait time => exact ⟨_, s.gestures, s.store, afterCalls_of_disposed h _ _⟩
  | commit change => exact ⟨s.debouncer, s.gestures, s.store, commitChange_of_disposed h change⟩
  | beginGesture mode kind name rect pointer => exact ⟨s.debouncer, _, s.store, rfl⟩
  | movePointer pointer => exact ⟨s.debouncer, _, s.store, rfl⟩
  | setScale scale => exact ⟨s.debouncer, _, s.store, rfl⟩
  | cancelGesture => exact ⟨s.debouncer, _, s.store, rfl⟩
  | release => exact ⟨s.debouncer, _, s.store, release_of_disposed h⟩
  | updateSettings changes =>
    rw [perform]
    -- The store may change, but nothing is drawn for it.
    cases hupdate : s.updateSettings changes with
    | ok after =>
      obtain ⟨store, hstore⟩ := updateSettings_of_disposed h hupdate
      exact ⟨s.debouncer, s.gestures, store, hstore⟩
    | error f => exact ⟨s.debouncer, s.gestures, s.store, rfl⟩
  | dispose => exact ⟨s.debouncer, s.gestures, s.store, if_pos h⟩

/-- One call. -/
theorem isIdle_perform (h : s.disposed = true) (call : SessionCall) :
    IsIdle s (s.perform call) := by
  obtain ⟨debouncer, gestures, store, hcall⟩ := exists_perform_of_disposed h call
  rw [hcall]
  exact ⟨h, rfl, rfl, rfl, rfl⟩

/-- Any calls. -/
theorem isIdle_run (h : s.disposed = true) (calls : List SessionCall) : IsIdle s (s.run calls) := by
  induction calls generalizing s with
  | nil => exact ⟨h, rfl, rfl, rfl, rfl⟩
  | cons call calls ih =>
    have hfirst := isIdle_perform h call
    have hrest := ih hfirst.disposed
    exact ⟨hrest.disposed, hrest.renders.trans hfirst.renders, hrest.scene.trans hfirst.scene,
      hrest.shown.trans hfirst.shown, hrest.document.trans hfirst.document⟩

/-- **A session that has been disposed of is idle.** Whatever it has been through, and whatever is
asked of it afterwards, no scene is drawn any more, the host is handed none, and the document stays
as it is. -/
theorem dispose_run (s : PreviewSession D) (calls : List SessionCall) :
    let ended := s.dispose
    let later := ended.run calls
    ended.disposed = true ∧ later.disposed = true ∧ later.renders = ended.renders ∧
    later.scene = ended.scene ∧
      later.shown = ended.shown ∧ later.document = ended.document ∧
      ended.document = s.document := by
  intro ended later
  have hended : ended.disposed = true ∧ ended.document = s.document := by
    change s.dispose.disposed = true ∧ s.dispose.document = s.document
    rw [dispose]
    split
    next h => exact ⟨h, rfl⟩
    next => exact ⟨rfl, rfl⟩
  obtain ⟨hdisposed, hrenders, hscene, hshown, hdocument⟩ := isIdle_run hended.1 calls
  exact ⟨hended.1, hdisposed, hrenders, hscene, hshown, hdocument, hended.2⟩

end PreviewSession

/-! ## Calls of the debouncer -/

namespace Debouncer

variable {d : Debouncer}

/-- **A debouncer in use whose callback returns at once**: what it has under way is a call that
falls due. -/
structure Prompt (d : Debouncer) : Prop where
  /-- The callback returns at once. -/
  duration : d.duration = none
  /-- Nobody has asked for what is under way to be cancelled. -/
  cancelling : d.cancelling = false
  /-- The callback does not run. -/
  call : ∀ stop, d.call ≠ .running stop
  /-- It has not been disposed of. -/
  disposed : d.disposed = false

/-- **What becomes of the call under way**: it stays as it is, or it is made. -/
structure Settles (d : Debouncer) (result : Debouncer × List CallEvent) : Prop where
  /-- The debouncer goes on. -/
  prompt : result.1.Prompt
  /-- Nothing is called and the same is pending, or there is one call. -/
  events : result.2 = [] ∧ result.1.isPending = d.isPending ∨ ∃ time, result.2 = [.called time]

/-- A new debouncer is prompt. -/
theorem prompt_start (delay : Nat) : (start delay none).Prompt := ⟨rfl, rfl, fun _ => nofun, rfl⟩

namespace Prompt

/-- A trigger makes a call pending. -/
theorem trigger (h : d.Prompt) : d.trigger.Prompt ∧ d.trigger.isPending = true := by
  have htrigger : d.trigger
      = { d with call := .scheduled (d.now + d.delay), cancelling := false } :=
    if_neg (by rw [h.disposed]; exact Bool.false_ne_true)
  rw [htrigger]
  exact ⟨⟨h.duration, rfl, fun _ => nofun, h.disposed⟩, rfl⟩

/-- A flush makes the call under way, if there is one. -/
theorem flush (h : d.Prompt) : d.Settles d.flush := by
  unfold Debouncer.flush
  rw [h.disposed, h.duration]
  cases hpending : d.isPending with
  | false => exact ⟨h, .inl ⟨rfl, rfl⟩⟩
  | true => exact ⟨⟨h.duration, rfl, fun _ => nofun, h.disposed⟩, .inr ⟨d.now, rfl⟩⟩

/-- Time that passes makes the call under way once it falls due. -/
theorem advance (h : d.Prompt) (time : Nat) : d.Settles (d.advance time) := by
  have hlater : ({ d with now := d.now + time } : Debouncer).Prompt :=
    ⟨h.duration, h.cancelling, h.call, h.disposed⟩
  unfold Debouncer.advance
  dsimp only
  rw [if_neg (by rw [h.cancelling]; exact Bool.false_ne_true)]
  split
  next => exact ⟨hlater, .inl ⟨rfl, rfl⟩⟩
  next due _ =>
    -- The call under way falls due within the time, or it waits on.
    by_cases hdue : due ≤ d.now + time
    · rw [if_pos hdue, fire, h.duration]
      exact ⟨⟨rfl, rfl, fun _ => nofun, h.disposed⟩, .inr ⟨due, rfl⟩⟩
    · rw [if_neg hdue]
      exact ⟨hlater, .inl ⟨rfl, rfl⟩⟩
  -- A call that was stopped is still under way only without cancelling.
  next stop hcall => exact absurd hcall (h.call stop)

end Prompt

end Debouncer

/-! ## Updates of the settings -/

/-- An update of the store changes nothing and tells nobody, or it tells all listeners. -/
theorem SettingsStore.updateWith_cases {L : Type} {c : DisplaySettings.Conversions}
    {store : SettingsStore L} {changes : OrderedMap Json} {update : Update L}
    (h : store.updateWith c changes = .ok update) :
    update.store = store ∧ update.notified = [] ∧ update.change = none ∨
      update.store.listeners = store.listeners ∧ update.notified = store.listeners := by
  unfold SettingsStore.updateWith at h
  dsimp only at h
  split at h
  next => cases h
  next =>
    split at h
    next updated _ =>
      split at h
      -- The settings come out as they were, and nobody is told.
      next =>
        obtain rfl := Except.ok.inj h
        exact .inl ⟨rfl, rfl, rfl⟩
      -- They come out changed, and every listener is told.
      next =>
        obtain rfl := Except.ok.inj h
        exact .inr ⟨rfl, rfl⟩
    next => cases h
    next =>
      obtain rfl := Except.ok.inj h
      exact .inl ⟨rfl, rfl, rfl⟩

/-! ## Hosts that tell of changes -/

/-- **What a host does.** It changes the document itself, or it calls the session. -/
inductive HostStep (D : Type) where
  /-- The document is changed, and the session is told. -/
  | edit (document : D)
  /-- The session is called, and told of the change if the call may write. -/
  | call (call : SessionCall)

/-- Whether the session is told that the text has changed. -/
def HostStep.tells {D : Type} : HostStep D → Bool
  | edit _ | call .textChanged => true
  | call c => c.writes

namespace PreviewSession

variable {D : Type} [Document D] {origin s : PreviewSession D}

/-- The session after a step of the host. -/
def follow (s : PreviewSession D) : HostStep D → PreviewSession D
  | .edit document => textChanged { s with document }
  | .call call => if call.writes then (s.perform call).textChanged else s.perform call

/-- The session after some steps of the host. -/
def hosted (s : PreviewSession D) (steps : List (HostStep D)) : PreviewSession D :=
  steps.foldl follow s

/-- A session that has not drawn yet, with boxes of its own, which listens to a store with the given
settings. -/
def opened (document : D) (format : Text) (config : DiagramConfig) (rects : Option RectProvider)
    (display : DisplaySettings) : PreviewSession D :=
  { start document format config with
    rects
    store := (SettingsStore.ofSettings display).subscribe () }

/-- **A session that goes on from its start**: it has not been disposed of, it listens to its
debouncer and its store, and it draws the way it was told to. -/
structure Follows (origin s : PreviewSession D) : Prop where
  /-- It has not been disposed of. -/
  disposed : s.disposed = false
  /-- Its debouncer is in use. -/
  prompt : s.debouncer.Prompt
  /-- It hears of the settings once. -/
  listeners : s.store.listeners = [()]
  /-- The format is that of the start. -/
  format : s.format = origin.format
  /-- The configuration is that of the start. -/
  config : s.config = origin.config
  /-- The boxes are those of the start. -/
  rects : s.rects = origin.rects

/-- **A drawing is pending, or the scene is that of the document.** -/
def IsCurrent (s : PreviewSession D) : Prop :=
  s.debouncer.isPending = true ∨ s.scene = some s.currentScene

/-- **Nothing that a drawing depends on has changed** between two states, and nothing has been
drawn. -/
structure Keeps (s s' : PreviewSession D) : Prop where
  /-- The scene stays. -/
  scene : s'.scene = s.scene
  /-- It would be drawn in the same way. -/
  currentScene : s'.currentScene = s.currentScene
  /-- The same is pending. -/
  pending : s'.debouncer.isPending = s.debouncer.isPending
  /-- No scene is drawn. -/
  renders : s'.renders = s.renders

/-- Where nothing has changed, the scene stays that of the document. -/
theorem Keeps.isCurrent {s' : PreviewSession D} (h : Keeps s s') (hs : s.IsCurrent) :
    s'.IsCurrent := by
  rw [IsCurrent, h.pending, h.scene, h.currentScene]
  exact hs

/-- **What a step may lead to**: the session goes on, and its scene is that of the document, or
nothing has changed. -/
def Refreshes (origin s s' : PreviewSession D) : Prop :=
  Follows origin s' ∧ (Keeps s s' ∨ s'.IsCurrent)

/-! ## What the calls do -/

omit [Document D] in
/-- A session that has been opened goes on from there. -/
theorem follows_opened (document : D) (format : Text) (config : DiagramConfig)
    (rects : Option RectProvider) (display : DisplaySettings) :
    Follows (opened document format config rects display)
      (opened document format config rects display) :=
  ⟨rfl, Debouncer.prompt_start _, rfl, rfl, rfl, rfl⟩

namespace Follows

omit [Document D] in
/-- The text of the document does not matter to a session that goes on, nor does a gesture. -/
theorem withDocument (h : Follows origin s) (document : D) : Follows origin { s with document } :=
  ⟨h.disposed, h.prompt, h.listeners, h.format, h.config, h.rects⟩

omit [Document D] in
/-- A session goes on with any gesture under way. -/
theorem withGestures (h : Follows origin s) (gestures : GestureController Mixed) :
    Follows origin { s with gestures } :=
  ⟨h.disposed, h.prompt, h.listeners, h.format, h.config, h.rects⟩

/-- A change that the session is told of makes a drawing pending. -/
theorem textChanged (h : Follows origin s) :
    Follows origin s.textChanged ∧ s.textChanged.IsCurrent := by
  have htold : s.textChanged = { s with debouncer := s.debouncer.trigger } :=
    if_neg (by rw [h.disposed]; exact Bool.false_ne_true)
  obtain ⟨hprompt, hpending⟩ := h.prompt.trigger
  rw [htold]
  exact ⟨⟨h.disposed, hprompt, h.listeners, h.format, h.config, h.rects⟩, .inl hpending⟩

/-- A drawing is one of the document. -/
theorem renderNow (h : Follows origin s) : Follows origin s.renderNow ∧ s.renderNow.IsCurrent := by
  have hdrawn : s.renderNow
      = { s with
          scene := some s.currentScene
          renders := s.renders + 1
          shown := s.shown ++ [s.currentScene] } :=
    if_neg (by rw [h.disposed]; exact Bool.false_ne_true)
  rw [hdrawn]
  exact ⟨⟨h.disposed, h.prompt, h.listeners, h.format, h.config, h.rects⟩, .inr rfl⟩

/-- What the debouncer calls is drawn. -/
theorem afterCalls (h : Follows origin s) {result : Debouncer × List CallEvent}
    (hresult : s.debouncer.Settles result) :
      Refreshes origin s (s.afterCalls result.1 result.2) := by
  have hlater : Follows origin { s with debouncer := result.1 } :=
    ⟨h.disposed, hresult.prompt, h.listeners, h.format, h.config, h.rects⟩
  obtain ⟨hnone, hpending⟩ | ⟨time, hcalled⟩ := hresult.events
  · rw [hnone]
    exact ⟨hlater, .inl ⟨rfl, rfl, hpending, rfl⟩⟩
  · rw [hcalled]
    exact ⟨hlater.renderNow.1, .inr hlater.renderNow.2⟩

/-- A commit changes the document at most. -/
theorem commitChange (h : Follows origin s) (change : Change) :
    Follows origin (s.commitChange change).1 := by
  rw [PreviewSession.commitChange]
  split
  · exact h
  · exact h.withDocument _

/-- A session goes on behind a release. -/
theorem release (h : Follows origin s) : Follows origin s.release.1 := by
  have hidle := h.withGestures s.gestures.release.1
  unfold PreviewSession.release
  dsimp only
  split
  next => exact hidle
  next => exact hidle
  next change _ => exact hidle.commitChange change

/-- A change of the settings is drawn. -/
theorem updateSettings (h : Follows origin s) {changes : OrderedMap Json}
    {after : PreviewSession D × Bool}
    (hupdate : s.updateSettings changes = .ok after) : Refreshes origin s after.1 := by
  unfold PreviewSession.updateSettings at hupdate
  cases hstore : s.store.update changes with
  | error f =>
    rw [hstore] at hupdate
    cases hupdate
  | ok update =>
    rw [hstore] at hupdate
    obtain rfl := Except.ok.inj hupdate
    dsimp only
    -- Either nobody is told, or the session is, which draws.
    obtain ⟨hsame, hnone, -⟩ | ⟨hlisteners, htold⟩ := SettingsStore.updateWith_cases hstore
    · rw [hsame, hnone]
      exact ⟨h, .inl ⟨rfl, rfl, rfl, rfl⟩⟩
    · rw [htold, h.listeners]
      have hlater : Follows origin { s with store := update.store } :=
        ⟨h.disposed, h.prompt, hlisteners.trans h.listeners, h.format, h.config, h.rects⟩
      exact ⟨hlater.renderNow.1, .inr hlater.renderNow.2⟩

/-- A gesture changes nothing that a drawing depends on. -/
theorem gesture (h : Follows origin s) (gestures : GestureController Mixed) :
    Refreshes origin s { s with gestures } := ⟨h.withGestures gestures, .inl ⟨rfl, rfl, rfl, rfl⟩⟩

/-- **A call that writes nothing** draws, or changes nothing that a drawing depends on. -/
theorem perform (h : Follows origin s) {call : SessionCall} (hwrites : call.writes = false)
    (hdispose : call ≠ .dispose) : Refreshes origin s (s.perform call) := by
  cases call with
  | textChanged => exact ⟨h.textChanged.1, .inr h.textChanged.2⟩
  | renderNow => exact ⟨h.renderNow.1, .inr h.renderNow.2⟩
  | flush => exact h.afterCalls h.prompt.flush
  | wait time => exact h.afterCalls (h.prompt.advance time)
  | commit change => nomatch hwrites
  | release => nomatch hwrites
  | beginGesture mode kind name rect pointer => exact h.gesture _
  | movePointer pointer => exact h.gesture _
  | setScale scale => exact h.gesture _
  | cancelGesture => exact h.gesture _
  | updateSettings changes =>
    rw [PreviewSession.perform]
    -- The settings are accepted and drawn, or refused and left.
    cases hupdate : s.updateSettings changes with
    | ok after => exact h.updateSettings hupdate
    | error f => exact ⟨h, .inl ⟨rfl, rfl, rfl, rfl⟩⟩
  | dispose => exact absurd rfl hdispose

/-- A call that may write goes on. -/
theorem perform_of_writes (h : Follows origin s) {call : SessionCall}
    (hwrites : call.writes = true) :
    Follows origin (s.perform call) := by
  cases call with
  | commit change => exact h.commitChange change
  | release => exact h.release
  | _ => cases hwrites

end Follows

/-! ## Runs -/

/-- Once the session has drawn or been told of a change, the scene is that of the document. -/
structure Tracks (origin : PreviewSession D) (told : Bool) (s : PreviewSession D) : Prop where
  /-- The session goes on. -/
  follows : Follows origin s
  /-- Its scene is that of the document. -/
  current : told = true ∨ 0 < s.renders → s.IsCurrent

/-- **One step of the host**: the scene stays that of the document, or the session is disposed
of. -/
theorem Tracks.follow {told : Bool} (h : Tracks origin told s) (step : HostStep D) :
    (s.follow step).disposed = true ∨ Tracks origin (told || step.tells) (s.follow step) := by
  have hcurrent : ∀ {s' : PreviewSession D}, Follows origin s' ∧ s'.IsCurrent →
      Tracks origin (told || step.tells) s' := fun hs' => ⟨hs'.1, fun _ => hs'.2⟩
  cases step with
  | edit document => exact .inr (hcurrent (h.follows.withDocument document).textChanged)
  | call call =>
    cases hwrites : call.writes with
    | true =>
      have hstep : s.follow (.call call) = (s.perform call).textChanged := if_pos hwrites
      rw [hstep]
      exact .inr (hcurrent (h.follows.perform_of_writes hwrites).textChanged)
    | false =>
      have hstep : s.follow (.call call) = s.perform call :=
        if_neg (by rw [hwrites]; exact Bool.false_ne_true)
      rw [hstep]
      by_cases hdispose : call = .dispose
      -- A session that ends here is not watched any more.
      · left
        rw [hdispose, PreviewSession.perform, dispose,
          if_neg (by rw [h.follows.disposed]; exact Bool.false_ne_true)]
      · obtain ⟨hfollows, hkeeps | hdrawn⟩ := h.follows.perform hwrites hdispose
        -- The call has changed nothing that is drawn, so the scene is as good as before it.
        · refine .inr ⟨hfollows, fun hbegun => ?_⟩
          by_cases htext : call = .textChanged
          · rw [htext]
            exact h.follows.textChanged.2
          · have htells : (HostStep.call call : HostStep D).tells = false := by
              cases call with
              | textChanged => exact absurd rfl htext
              | _ => exact hwrites
            rw [htells, Bool.or_false, hkeeps.renders] at hbegun
            exact hkeeps.isCurrent (h.current hbegun)
        · exact .inr (hcurrent ⟨hfollows, hdrawn⟩)

/-- A session that has been disposed of stays so, whatever the host does. -/
theorem disposed_hosted (h : s.disposed = true) (steps : List (HostStep D)) :
    (s.hosted steps).disposed = true := by
  induction steps generalizing s with
  | nil => exact h
  | cons step steps ih =>
    -- Telling of a change of the text does not open the session again.
    have htext : ∀ {s' : PreviewSession D}, s'.disposed = true → s'.textChanged.disposed = true :=
      fun h' => by
      rw [PreviewSession.textChanged, if_pos h']
      exact h'
    refine ih ?_
    cases step with
    -- The host edits the document and tells of it.
    | edit document =>
      have hedited : ({ s with document } : PreviewSession D).disposed = true := h
      exact htext hedited
    -- The session is called, and tells of a change it has written.
    | call call =>
      have hcall := (isIdle_perform h call).disposed
      rw [follow]
      split
      · exact htext hcall
      · exact hcall

/-- **Any steps of the host.** -/
theorem Tracks.hosted {told : Bool} (h : Tracks origin told s) (steps : List (HostStep D)) :
    (s.hosted steps).disposed = true ∨
    Tracks origin (told || steps.any (·.tells)) (s.hosted steps) := by
  induction steps generalizing s told with
  | nil =>
    rw [List.any_nil, Bool.or_false]
    exact .inr h
  | cons step steps ih =>
    rw [List.any_cons, ← Bool.or_assoc]
    obtain hended | hnext := h.follow step
    · exact .inl (disposed_hosted hended steps)
    · exact ih hnext

/-- **The preview is never stale.** After any steps of a host that tells of every change of the
text, as soon as the session has drawn or been told of a change and until it is disposed of, a
drawing is pending, or the scene is that of the document as it is, with the settings of the store as
they are. -/
theorem hosted_isCurrent (document : D) (format : Text) (config : DiagramConfig)
    (rects : Option RectProvider) (display : DisplaySettings) (steps : List (HostStep D))
    (hopen : ((opened document format config rects display).hosted steps).disposed = false)
    (hbegun : 0 < ((opened document format config rects display).hosted steps).renders ∨
      ∃ step ∈ steps, step.tells = true) :
    let s := (opened document format config rects display).hosted steps
    s.debouncer.isPending = true ∨
      s.scene = some (documentScene config s.store.current rects format s.document) := by
  intro s
  -- At the start nothing has been drawn, so nothing is claimed of the scene.
  have hstart : Tracks (opened document format config rects display) false
      (opened document format config rects display) :=
    ⟨follows_opened .., fun hbegun => absurd hbegun (by simp [opened, start])⟩
  -- The run has ended the session or tracked the text.
  obtain hended | htracks := hstart.hosted steps
  · rw [hopen] at hended
    cases hended
  · have hcurrent : s.IsCurrent := htracks.current (by
      rw [Bool.false_or, List.any_eq_true]
      exact hbegun.symm)
    have hscene : s.currentScene
        = documentScene config s.store.current rects format s.document := by
      rw [currentScene, htracks.follows.config, htracks.follows.rects, htracks.follows.format]
      rfl
    rw [← hscene]
    exact hcurrent

/-- The steps of a host that types, paints the diagram dark, drags the table and waits. -/
def typing : List (HostStep TextDocument) :=
  [.edit ⟨"Table t \x7b\x7d".toList, true, 1, none⟩, .call (.wait 100),
    .call (.updateSettings [("theme".toList, .text "dark".toList)]),
    .call (.beginGesture .drag .table "t".toList ⟨.whole 0, .whole 0, .whole 200,
      .whole 36⟩ ⟨.whole 0, .whole 0⟩),
    .call (.movePointer ⟨.whole 30, .whole 20⟩), .call .release, .call (.wait 299), .call (.wait 2)]

/-- The steps go through, and the last wait is over. -/
theorem hosted_typing :
    let s :=
  (opened (⟨[], true, 0, none⟩ : TextDocument) "dbml" .default none .default).hosted typing
    s.disposed = false ∧ s.debouncer.isPending = false ∧ s.store.current.theme = .dark ∧
      s.document.text = "Table t [x: 30, y: 20, width: 200] \x7b\x7d".toList := by
  decide +kernel

/-- After the wait the dragged table is drawn where the document has it, in the dark. -/
theorem hosted_isCurrent_typing :
    let s :=
  (opened (⟨[], true, 0, none⟩ : TextDocument) "dbml" .default none .default).hosted typing
    s.debouncer.isPending = false ∧ s.store.current.theme = .dark ∧
      s.document.text = "Table t [x: 30, y: 20, width: 200] \x7b\x7d".toList ∧
      s.scene = some (documentScene .default s.store.current none "dbml" s.document) := by
  obtain ⟨hopen, hdone, htheme, htext⟩ := hosted_typing
  have htold : ∃ step ∈ typing, step.tells = true := ⟨_, List.mem_cons_self, rfl⟩
  have hcurrent :=
    hosted_isCurrent ⟨[], true, 0, none⟩ "dbml" .default none .default typing hopen (.inr htold)
  exact ⟨hdone, htheme, htext, hcurrent.resolve_left (Bool.eq_false_iff.1 hdone)⟩

end PreviewSession

end SchemaDiagram
