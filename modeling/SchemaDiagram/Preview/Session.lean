import SchemaDiagram.Config.Store
import SchemaDiagram.Edit.Commit
import SchemaDiagram.Preview.Debouncer
import SchemaDiagram.Preview.Gesture
import SchemaDiagram.Render.Scene

/-! # Preview sessions

A session keeps the drawing of one document up to date. A change of the text is drawn after a quiet
time, a change of the shared settings at once; a gesture ends in one change of the document. After
its disposal a session neither draws nor writes.

* **`documentScene`** — the scene of a document as it is.
* **`PreviewSession.renderNow`**, **`PreviewSession.textChanged`**, **`PreviewSession.advance`** —
  when it is drawn.
* **`PreviewSession.commitChange`**, **`PreviewSession.release`** — what is written. -/

namespace SchemaDiagram

/-- The scene of a document that cannot be read. -/
def unreadableScene (display : DisplaySettings) (fault : DocumentFault) : Scene :=
  .failed display
    (Failure.renderFailed (concat ["cannot read source (", fault.message, ")"]) []).message

/-- The scene of a document as it is. -/
def documentScene {D : Type} [Document D] (config : DiagramConfig) (display : DisplaySettings)
    (rects : Option RectProvider) (format : Text) (document : D) : Scene :=
  match Document.read document with
  | .ok text => (renderText config display rects format text).scene
  | .error fault => unreadableScene display fault

/-- The quiet time in whole milliseconds, rounded up; an endless one is longer than any wait, and
one that is no number is over at once. -/
def PreviewConfig.debounceTime (c : PreviewConfig) : Nat :=
  if c.debounceSeconds.isNaN then 0
  else ((floorOfFloat? (-(c.debounceSeconds * 1000))).map fun n => (-n).toNat).getD (Nat.pow 2 64)

/-- A preview of a document. -/
structure PreviewSession (D : Type) where
  /-- The document. -/
  document : D
  /-- The format of the document. -/
  format : Text
  /-- The configuration. -/
  config : DiagramConfig
  /-- The shared settings, to which the session listens until its disposal. -/
  store : SettingsStore Unit
  /-- Boxes in place of the estimated ones. -/
  rects : Option RectProvider
  /-- The scene that was drawn last. -/
  scene : Option Scene
  /-- How many scenes have been drawn. -/
  renders : Nat
  /-- The scenes that the host has been handed, in order. -/
  shown : List Scene
  /-- Whether the session has been disposed of. -/
  disposed : Bool
  /-- Draws after the quiet time. -/
  debouncer : Debouncer
  /-- Follows gestures. -/
  gestures : GestureController Mixed

namespace PreviewSession

variable {D : Type} [Document D]

/-- A session that has not drawn yet. -/
def start (document : D) (format : Text) (config : DiagramConfig) : PreviewSession D :=
  { document
    format
    config
    store := (SettingsStore.ofSettings config.display).subscribe ()
    rects := none
    scene := none
    renders := 0
    shown := []
    disposed := false
    debouncer := .start config.preview.debounceTime none
    gestures := ⟨.real config.preview.minSize, .real 1, none⟩ }

/-- The scene of the document as it is now. -/
def currentScene (s : PreviewSession D) : Scene :=
  documentScene s.config s.store.current s.rects s.format s.document

/-- Draws the document and hands the scene to the host. -/
def renderNow (s : PreviewSession D) : PreviewSession D :=
  if s.disposed then s
  else
    let drawn := s.currentScene
    { s with scene := some drawn, renders := s.renders + 1, shown := s.shown ++ [drawn] }

/-- Draws once for each call of the debouncer. -/
def afterCalls (s : PreviewSession D) (debouncer : Debouncer) (events : List CallEvent) :
    PreviewSession D :=
  events.foldl (fun s event => match event with
    | .called _ => s.renderNow
    | .finished => s) { s with debouncer }

/-- Notes that the text has changed. -/
def textChanged (s : PreviewSession D) : PreviewSession D :=
  if s.disposed then s else { s with debouncer := s.debouncer.trigger }

/-- Waits. -/
def advance (s : PreviewSession D) (time : Nat) : PreviewSession D :=
  let (debouncer, events) := s.debouncer.advance time
  s.afterCalls debouncer events

/-- Draws now what would be drawn after the quiet time. -/
def flush (s : PreviewSession D) : PreviewSession D :=
  let (debouncer, events) := s.debouncer.flush
  s.afterCalls debouncer events

/-- Writes a change into the document. -/
def commitChange (s : PreviewSession D) (change : Change) :
    PreviewSession D × Except CommitFault Bool :=
  if s.disposed then (s, .ok false)
  else
    let result := commit s.document change
    ({ s with document := result.document }, result.outcome)

/-- Why the end of a gesture has no answer. -/
inductive ReleaseFault where
  /-- The rectangle has no whole numbers. -/
  | number (f : NumberFault)
  /-- The change could not be committed or refused. -/
  | commit (f : CommitFault)

/-- Ends the gesture under way and writes its change. -/
def release (s : PreviewSession D) : PreviewSession D × Except ReleaseFault Bool :=
  let (gestures, change) := s.gestures.release
  let s := { s with gestures }
  match change with
  | .error f => (s, .error (.number f))
  | .ok none => (s, .ok false)
  | .ok (some change) =>
    let (after, outcome) := s.commitChange change
    (after, outcome.mapError .commit)

/-- Updates the shared settings and draws if the session hears of it. -/
def updateSettings (s : PreviewSession D) (changes : OrderedMap Json) :
    Except Failure (PreviewSession D × Bool) := do
  let update ← s.store.update changes
  let s := { s with store := update.store }
  -- The session draws once for each of its subscriptions, which is at most one.
  return (update.notified.foldl (fun s _ => s.renderNow) s, update.change.isSome)

/-- Ends the session. -/
def dispose (s : PreviewSession D) : PreviewSession D :=
  if s.disposed then s
  else
    { s with
      disposed := true
      store := s.store.unsubscribe ()
      gestures := s.gestures.idle
      debouncer := s.debouncer.dispose }

end PreviewSession

end SchemaDiagram
