import Mathlib.Data.Rat.Floor
import Mathlib.Data.List.Induction
import SchemaDiagram.Preview.Gesture
import SchemaDiagram.Proofs.Outcomes
import SchemaDiagram.Proofs.Retracing

/-! # Where gestures end

A controller of gestures is told when a gesture begins, where the pointer moves, how the canvas is
scaled, and when the gesture is given up or ends. The change that a gesture ends in depends on how
it began and on the last move behind that: moves before it have left no trace, and what is refused
changes nothing.

* **`GestureStep`** — what a controller is told; **`GestureController.run`** — its runs, in exact
  arithmetic.
* **`BeginsIn`** — the gesture under way after some steps, with the step that began it.
* **`lastMove?`**, **`scaleAfter`** — what is left of the steps behind that; **`Gesture.endRect`** —
  where they lead.
* **`Mixed.HasHalfUp`** — the numbers that can be rounded.
* **`release_run`** — the change that a run ends in. -/

namespace SchemaDiagram

/-- **What a controller of gestures is told.** -/
inductive GestureStep (K : Type) where
  /-- A gesture begins. -/
  | beginGesture (mode : GestureMode) (kind : EntityKind) (name : Text) (rect : Rect K)
    (pointer : Point K)
  /-- The pointer moves. -/
  | move (pointer : Point K)
  /-- The canvas is scaled. -/
  | setScale (scale : K)
  /-- The gesture under way is given up. -/
  | cancel
  /-- The gesture under way ends. -/
  | release

namespace GestureStep

variable {K : Type}

/-- The gesture that begins in a step. A project has no place to drag. -/
def begun? : GestureStep K → Option (Gesture K)
  | beginGesture mode kind name rect pointer =>
    if kind = .project then none else some ⟨mode, kind, name, rect, pointer, rect⟩
  | _ => none

/-- Whether the gesture under way goes on in a step. -/
def goesOn : GestureStep K → Bool
  | beginGesture _ kind _ _ _ => kind = .project
  | move _ | setScale _ => true
  | cancel | release => false

/-- Where the pointer moves in a step. -/
def target? : GestureStep K → Option (Point K)
  | move pointer => some pointer
  | _ => none

/-- The scale that a step sets. -/
def newScale? [NatCast K] [LE K] [DecidableLE K] : GestureStep K → Option K
  | setScale scale => if isScale scale then some scale else none
  | _ => none

end GestureStep

/-! ## What is left of a run -/

section Traces

variable {K : Type}

/-- **The gesture under way after some steps**: it begins in one of them, and goes on in all that
are behind. -/
def BeginsIn (steps before : List (GestureStep K)) (start : Gesture K)
    (behind : List (GestureStep K)) : Prop :=
  ∃ step, steps = before ++ step :: behind ∧ step.begun? = some start ∧
    ∀ s ∈ behind, s.goesOn = true

/-- The last move of some steps, with the steps before it. -/
def lastMove? : List (GestureStep K) → Option (List (GestureStep K) × Point K)
  | [] => none
  | step :: steps =>
    match lastMove? steps with
    | some (before, pointer) => some (step :: before, pointer)
    | none => step.target?.map fun pointer => ([], pointer)

/-- The scale of the canvas after some steps: the one that was set last. -/
def scaleAfter [NatCast K] [LE K] [DecidableLE K] (scale : K) (steps : List (GestureStep K)) : K :=
  (steps.filterMap (·.newScale?)).getLastD scale

/-- The scale behind a step is the one that the step sets, if it sets one. -/
theorem scaleAfter_cons [NatCast K] [LE K] [DecidableLE K] (scale : K) (step : GestureStep K)
    (steps : List (GestureStep K)) :
    scaleAfter scale (step :: steps) = scaleAfter (step.newScale?.getD scale) steps := by
  unfold scaleAfter
  cases hscale : step.newScale? with
  | none => rw [List.filterMap_cons_none hscale, Option.getD_none]
  | some new => rw [List.filterMap_cons_some hscale, List.getLastD_cons, Option.getD_some]

/-- **The rectangle to which the steps behind its beginning lead a gesture**: that of the last move,
at the scale that the canvas had then. -/
def Gesture.endRect [Add K] [Sub K] [Div K] [NatCast K] [LT K] [LE K] [DecidableLT K]
    [DecidableLE K]
    (start : Gesture K) (minSize scale : K) (behind : List (GestureStep K)) : Rect K :=
  match lastMove? behind with
  | some (before, pointer) => start.rectAt minSize (scaleAfter scale before) pointer
  | none => start.initial

/-- Where a gesture begins it stands at its start. -/
theorem current_of_begun? {step : GestureStep K} {start : Gesture K}
    (h : step.begun? = some start) :
    start.current = start.initial := by
  cases step with
  | beginGesture mode kind name rect pointer =>
    rw [GestureStep.begun?, Option.ite_none_left_eq_some] at h
    rw [← Option.some_inj.1 h.2]
  | _ => cases h

/-- A step that begins a gesture sets no scale. -/
theorem newScale?_of_begun? [NatCast K] [LE K] [DecidableLE K] {step : GestureStep K}
    {start : Gesture K} (h : step.begun? = some start) : step.newScale? = none := by
  cases step with
  | beginGesture mode kind name rect pointer => rfl
  | _ => cases h

end Traces

namespace GestureController

variable {K : Type} [DivisionRing K] [LinearOrder K]

/-- **The controller after a step**, in exact arithmetic. A step that is refused leaves it as it
was. -/
def perform (c : GestureController K) : GestureStep K → GestureController K
  | .beginGesture mode kind name rect pointer =>
    (c.beginGesture mode kind name rect pointer).toOption.getD c
  | .move pointer => c.moved pointer
  | .setScale scale => (c.setScale scale).getD c
  | .cancel => c.idle
  | .release => c.idle

/-- The controller after some steps. -/
def run (c : GestureController K) (steps : List (GestureStep K)) : GestureController K :=
  steps.foldl perform c

/-- A controller without a gesture. -/
def created (minSize scale : K) : GestureController K := ⟨minSize, scale, none⟩

variable {c : GestureController K} {step : GestureStep K} {steps : List (GestureStep K)}

/-! ## One step -/

/-- The least size stays as it is. -/
theorem minSize_perform : (c.perform step).minSize = c.minSize := by
  cases step with
  | beginGesture mode kind name rect pointer =>
    simp only [perform, beginGesture]
    split <;> rfl
  | setScale scale =>
    simp only [perform, setScale]
    split <;> rfl
  | _ => rfl

/-- The scale is the one that the step sets, if it sets one. -/
theorem scale_perform : (c.perform step).scale = step.newScale?.getD c.scale := by
  cases step with
  | beginGesture mode kind name rect pointer =>
    simp only [perform, beginGesture, GestureStep.newScale?]
    split <;> rfl
  | setScale scale =>
    simp only [perform, setScale, GestureStep.newScale?]
    split <;> rfl
  | _ => rfl

/-- A gesture that begins takes the place of the one under way. -/
theorem active_perform_of_begun? {start : Gesture K} (h : step.begun? = some start) :
    (c.perform step).active = some start := by
  cases step with
  | beginGesture mode kind name rect pointer =>
    rw [GestureStep.begun?, Option.ite_none_left_eq_some] at h
    rw [perform, beginGesture, if_neg h.1]
    exact h.2
  | _ => cases h

/-- A gesture that goes on follows the pointer. -/
theorem active_perform_of_goesOn (h : step.goesOn = true) :
    (c.perform step).active = match step.target? with
    | some pointer => c.active.map fun g => { g with current := g.rectAt c.minSize c.scale pointer }
    | none => c.active := by
  -- The steps that go on are moves, scales, and attempts at a gesture on the project.
  cases step with
  | beginGesture mode kind name rect pointer =>
    have hkind : kind = .project := of_decide_eq_true h
    rw [perform, beginGesture, if_pos hkind]
    rfl
  | move pointer => rfl
  | setScale scale =>
    simp only [perform, setScale]
    split <;> rfl
  | cancel => cases h
  | release => cases h

/-- A step in which no gesture begins and none goes on leaves none under way. -/
theorem active_perform_of_not_goesOn (hgoesOn : step.goesOn = false) (hbegun : step.begun? = none) :
    (c.perform step).active = none := by
  cases step with
  | beginGesture mode kind name rect pointer =>
    have hkind : kind ≠ .project := of_decide_eq_false hgoesOn
    rw [GestureStep.begun?, if_neg hkind] at hbegun
    cases hbegun
  | move pointer => cases hgoesOn
  | setScale scale => cases hgoesOn
  | cancel => rfl
  | release => rfl

/-! ## Runs -/

/-- A run goes on with the steps behind. -/
theorem run_append (c : GestureController K) (before behind : List (GestureStep K)) :
    c.run (before ++ behind) = (c.run before).run behind := List.foldl_append

/-- The least size stays as it is through a run. -/
theorem minSize_run : (c.run steps).minSize = c.minSize := by
  induction steps generalizing c with
  | nil => rfl
  | cons step steps ih => exact ih.trans minSize_perform

/-- **The scale is the one that was set last.** -/
theorem scale_run : (c.run steps).scale = scaleAfter c.scale steps := by
  induction steps generalizing c with
  | nil => rfl
  | cons step steps ih =>
    rw [scaleAfter_cons, ← scale_perform]
    exact ih

/-- **A gesture that goes on stands where the last move leads it**: every move measures from its
beginning. -/
theorem active_run_of_goesOn (h : ∀ step ∈ steps, step.goesOn = true) :
    (c.run steps).active = match lastMove? steps with
      | some (before, pointer) => c.active.map fun g =>
          { g with current := g.rectAt c.minSize (scaleAfter c.scale before) pointer }
      | none => c.active := by
  induction steps generalizing c with
  | nil => rfl
  | cons step steps ih =>
    have hfirst := active_perform_of_goesOn (c := c) (h step List.mem_cons_self)
    have hrest := ih (c := c.perform step) fun s hs => h s (List.mem_cons_of_mem _ hs)
    rw [minSize_perform] at hrest
    cases hlast : lastMove? steps with
    | none =>
      rw [hlast] at hrest
      have hstep : lastMove? (step :: steps) = step.target?.map fun pointer => ([], pointer) := by
        rw [lastMove?, hlast]
      rw [hstep]
      refine hrest.trans (hfirst.trans ?_)
      cases step.target? <;> rfl
    | some last =>
      rw [hlast] at hrest
      have hstep : lastMove? (step :: steps) = some (step :: last.1, last.2) := by
        rw [lastMove?, hlast]
      rw [hstep]
      -- The first step has no part in where the last move leads, its scale apart.
      refine hrest.trans ?_
      dsimp only
      rw [scaleAfter_cons, ← scale_perform, hfirst]
      cases step.target? with
      | none => rfl
      | some pointer => rw [Option.map_map]; rfl

/-- **The gesture that is under way** has come to its end rectangle, whatever the controller has
been through. -/
theorem active_run_of_beginsIn {before behind : List (GestureStep K)} {start : Gesture K}
    (h : BeginsIn steps before start behind) : (c.run steps).active
      = some
        { start with current := start.endRect c.minSize (scaleAfter c.scale before) behind } := by
  obtain ⟨step, rfl, hbegun, hgoesOn⟩ := h
  -- The step that begins the gesture finds the scale and the least size of the steps before it.
  have hactive : ((c.run before).perform step).active = some start :=
    active_perform_of_begun? hbegun
  have hscale : ((c.run before).perform step).scale = scaleAfter c.scale before := by
    rw [scale_perform, newScale?_of_begun? hbegun, Option.getD_none, scale_run]
  have hsize : ((c.run before).perform step).minSize = c.minSize :=
    minSize_perform.trans minSize_run
  rw [run_append]
  refine (active_run_of_goesOn hgoesOn).trans ?_
  rw [hactive, hscale, hsize, Gesture.endRect]
  -- Without a move the rectangle is the one that the gesture began with.
  cases lastMove? behind with
  | none =>
    obtain ⟨mode, kind, name, initial, pointer, current⟩ := start
    obtain rfl : current = initial := current_of_begun? hbegun
    rfl
  | some last => rfl

/-- **A gesture is under way** only if it begins in a step of the run, and goes on behind that. -/
theorem exists_beginsIn {minSize scale : K}
    (h : ((created minSize scale).run steps).active.isSome) :
    ∃ before start behind, BeginsIn steps before start behind := by
  induction steps using List.reverseRecOn with
  | nil => cases h
  | append_singleton steps step ih =>
    rw [run_append] at h
    change (((created minSize scale).run steps).perform step).active.isSome = true at h
    -- The last step begins the gesture, or it goes on with one that was under way.
    cases hbegun : step.begun? with
    | some start => exact ⟨steps, start, [], step, rfl, hbegun, by simp⟩
    | none =>
      cases hgoesOn : step.goesOn with
      | false =>
        -- Any other step leaves none under way.
        rw [active_perform_of_not_goesOn hgoesOn hbegun] at h
        cases h
      | true =>
        have hsome : ((created minSize scale).run steps).active.isSome := by
          rw [active_perform_of_goesOn hgoesOn] at h
          cases htarget : step.target? <;> simpa [htarget] using h
        obtain ⟨before, start, behind, first, rfl, hfirst, hbehind⟩ := ih hsome
        refine ⟨before, start, behind ++ [step], first, by simp, hfirst, fun s hs => ?_⟩
        rcases List.mem_append.1 hs with hs | hs
        · exact hbehind s hs
        · rw [List.mem_singleton.1 hs]
          exact hgoesOn

/-- The scale of a controller stays above zero. -/
theorem scale_perform_pos (h : 0 < c.scale) : 0 < (c.perform step).scale := by
  rw [scale_perform]
  cases step with
  | setScale scale =>
    by_cases hscale : 0 < scale
    · simp [GestureStep.newScale?, isScale, hscale]
    · simp [GestureStep.newScale?, isScale, hscale, h]
  | _ => exact h

/-- The scale stays positive through a run. -/
theorem scale_run_pos (h : 0 < c.scale) : 0 < (c.run steps).scale := by
  induction steps generalizing c with
  | nil => exact h
  | cons step steps ih => exact ih (scale_perform_pos h)

end GestureController

/-! ## Rectangles of a gesture -/

namespace Gesture

variable {K : Type} [DivisionRing K] [LinearOrder K] {g : Gesture K} {minSize scale : K}
    {pointer : Point K}

/-- A drag keeps the size. -/
theorem size_rectAt_of_drag (h : g.mode = .drag) :
    (g.rectAt minSize scale pointer).width = g.initial.width ∧
      (g.rectAt minSize scale pointer).height = g.initial.height := by
  simp [rectAt, h]

/-- A resize keeps the corner. -/
theorem corner_rectAt_of_resize (h : g.mode = .resize) :
    (g.rectAt minSize scale pointer).x = g.initial.x ∧
    (g.rectAt minSize scale pointer).y = g.initial.y := by
  rw [rectAt, h]
  cases g.kind <;> exact ⟨rfl, rfl⟩

/-- A resize stops at the least size. -/
theorem le_rectAt_of_resize (h : g.mode = .resize) :
    minSize ≤ (g.rectAt minSize scale pointer).width ∧
      (g.kind = .note → minSize ≤ (g.rectAt minSize scale pointer).height) := by
  have hle : ∀ a : K, minSize ≤ larger minSize a := fun a => by
    rw [larger_eq_max]
    exact le_max_left _ _
  rw [rectAt, h]
  cases g.kind with
  | table => exact ⟨hle _, nofun⟩
  | note => exact ⟨hle _, fun _ => hle _⟩
  | project => exact ⟨hle _, nofun⟩

variable {behind : List (GestureStep K)}

/-- A dragged rectangle keeps its size. -/
theorem size_endRect_of_drag (h : g.mode = .drag) :
    (g.endRect minSize scale behind).width = g.initial.width ∧
    (g.endRect minSize scale behind).height = g.initial.height := by
  unfold endRect
  split
  next => exact size_rectAt_of_drag h
  next => exact ⟨rfl, rfl⟩

/-- A resized rectangle keeps its corner. -/
theorem corner_endRect_of_resize (h : g.mode = .resize) :
    (g.endRect minSize scale behind).x = g.initial.x ∧
    (g.endRect minSize scale behind).y = g.initial.y := by
  unfold endRect
  split
  next => exact corner_rectAt_of_resize h
  next => exact ⟨rfl, rfl⟩

/-- A resized rectangle that has been moved keeps the least size. -/
theorem le_endRect_of_resize (h : g.mode = .resize) (hmoved : lastMove? behind ≠ none) :
    minSize ≤ (g.endRect minSize scale behind).width ∧
      (g.kind = .note → minSize ≤ (g.endRect minSize scale behind).height) := by
  unfold endRect
  split
  next => exact le_rectAt_of_resize h
  next hnone => exact absurd hnone hmoved

end Gesture

/-! ## Ends of gestures -/

section Ends

variable {K ε : Type} {round : K → Except ε Int}

/-- The change of a gesture has the rounded numbers of its rectangle. -/
theorem Gesture.change_eq_ok_iff {g : Gesture K} {change : Change} : g.change round = .ok change ↔
    ∃ x y width height, round g.current.x = .ok x ∧ round g.current.y = .ok y ∧
    round g.current.width = .ok width ∧
      round g.current.height = .ok height ∧
      change = changeOfRect g.kind g.name x y width height := by
  unfold Gesture.change
  -- The four numbers are rounded one after the other, and a fault in any of them is the result.
  constructor
  · intro h
    obtain ⟨x, hx, h⟩ := bind_eq_ok_iff.1 h
    obtain ⟨y, hy, h⟩ := bind_eq_ok_iff.1 h
    obtain ⟨width, hwidth, h⟩ := bind_eq_ok_iff.1 h
    obtain ⟨height, hheight, h⟩ := bind_eq_ok_iff.1 h
    exact ⟨x, y, width, height, hx, hy, hwidth, hheight, (Except.ok.inj h).symm⟩
  · rintro ⟨x, y, width, height, hx, hy, hwidth, hheight, rfl⟩
    rw [hx, hy, hwidth, hheight]
    rfl

namespace GestureController

variable {c : GestureController K}

/-- The end of the gesture under way has its change. -/
theorem releaseWith_eq_some_iff {change : Change} : (c.releaseWith round).2 = .ok (some change) ↔
    ∃ g, c.active = some g ∧ g.change round = .ok change := by
  rw [releaseWith]
  cases hactive : c.active with
  | none => simp
  | some g => cases hchange : g.change round <;> simp [hchange, Except.map]

/-- **The end of a gesture has no change** if none is under way. -/
theorem releaseWith_eq_none_iff : (c.releaseWith round).2 = .ok none ↔ c.active = none := by
  rw [releaseWith]
  cases hactive : c.active with
  | none => simp
  | some g => cases hchange : g.change round <;> simp [hchange, Except.map]

/-- **The end of a gesture has a change** if one is under way whose rectangle can be rounded. -/
theorem exists_releaseWith_iff : (∃ change, (c.releaseWith round).2 = .ok (some change)) ↔
    ∃ g, c.active = some g ∧
      ∀ a ∈ [g.current.x, g.current.y, g.current.width, g.current.height], ∃ n,
      round a = .ok n := by
  constructor
  · rintro ⟨change, h⟩
    obtain ⟨g, hactive, hchange⟩ := releaseWith_eq_some_iff.1 h
    obtain ⟨x, y, width, height, hx, hy, hwidth, hheight, -⟩ := Gesture.change_eq_ok_iff.1 hchange
    refine ⟨g, hactive, ?_⟩
    simp [hx, hy, hwidth, hheight]
  · -- Each of the numbers has been rounded, so the change can be told.
    rintro ⟨g, hactive, h⟩
    obtain ⟨x, hx⟩ := h g.current.x (by simp)
    obtain ⟨y, hy⟩ := h g.current.y (by simp)
    obtain ⟨width, hwidth⟩ := h g.current.width (by simp)
    obtain ⟨height, hheight⟩ := h g.current.height (by simp)
    refine ⟨changeOfRect g.kind g.name x y width height, releaseWith_eq_some_iff.2 ⟨g, hactive, ?_⟩⟩
    exact Gesture.change_eq_ok_iff.2 ⟨x, y, width, height, hx, hy, hwidth, hheight, rfl⟩

end GestureController

end Ends

section Rounding

variable {K : Type} [DivisionRing K] [LinearOrder K] [FloorRing K]

/-- The whole number nearest to an exact number, the upper one of two. -/
def halfUp (a : K) : Int := ⌊a + 1 / (2 : ℕ)⌋

/-- The end of a gesture in exact arithmetic, where every number can be rounded. -/
def GestureController.releaseExact (c : GestureController K) :
    GestureController K × Except NumberFault (Option Change) :=
  c.releaseWith fun a => .ok (halfUp a)

/-- The change of an entity to the whole numbers nearest to a rectangle. -/
def changeToRect (kind : EntityKind) (name : Text) (rect : Rect K) : Change :=
  changeOfRect kind name (halfUp rect.x) (halfUp rect.y) (halfUp rect.width) (halfUp rect.height)

namespace GestureController

variable {c : GestureController K}

/-- The release of an open gesture tells where its rectangle is. -/
theorem releaseExact_of_active {g : Gesture K} (h : c.active = some g) :
    c.releaseExact.2 = .ok (some (changeToRect g.kind g.name g.current)) :=
  releaseWith_eq_some_iff.2 ⟨g, h, rfl⟩

/-- A release tells a change just when a gesture is open. -/
theorem exists_releaseExact_iff :
    (∃ change, c.releaseExact.2 = .ok (some change)) ↔ c.active.isSome := by
  rw [Option.isSome_iff_exists]
  constructor
  · rintro ⟨change, h⟩
    obtain ⟨g, hactive, -⟩ := releaseWith_eq_some_iff.1 h
    exact ⟨g, hactive⟩
  · rintro ⟨g, hactive⟩
    exact ⟨_, releaseExact_of_active hactive⟩

end GestureController

end Rounding

/-- **A number can be rounded**: half a unit above it there is a finite double. -/
def Mixed.HasHalfUp (a : Mixed) : Prop :=
  ∃ x negative m e, (a + .real 0.5).toFloat = .ok x ∧ Binary.ofFloat x = .finite negative m e

/-- A number is rounded without a fault just when half a unit above it there is a finite double.
-/
theorem Mixed.exists_roundHalfUp_iff {a : Mixed} : (∃ n, a.roundHalfUp = .ok n) ↔ a.HasHalfUp := by
  unfold Mixed.roundHalfUp HasHalfUp
  cases hfloat : (a + .real 0.5).toFloat with
  | error f => simp [bind, Except.bind]
  | ok x =>
    cases hx : Binary.ofFloat x with
    | nan => simp [bind, Except.bind, floorOfFloat?, hx, throw, throwThe, MonadExceptOf.throw]
    | infinite negative =>
      simp [bind, Except.bind, floorOfFloat?, hx, throw, throwThe, MonadExceptOf.throw]
    | finite negative m e => simp [bind, Except.bind, floorOfFloat?, hx, pure, Except.pure]

/-! ## Ends of runs -/

namespace GestureController

variable {K : Type} [DivisionRing K] [LinearOrder K]

/-- A gesture is under way after a run just if it begins in a step of it, and goes on behind
that. -/
theorem isSome_active_run_iff {minSize scale : K} {steps : List (GestureStep K)} :
    ((created minSize scale).run steps).active.isSome ↔
    ∃ before start behind, BeginsIn steps before start behind := by
  constructor
  · exact exists_beginsIn
  · rintro ⟨before, start, behind, h⟩
    rw [active_run_of_beginsIn h]
    rfl

/-- **What the end of a gesture keeps to**: it began as `start`, the steps `behind` followed, and it
ended at the rectangle. -/
structure KeepsTo (minSize : K) (start : Gesture K) (behind : List (GestureStep K))
    (rect : Rect K) :
    Prop where
  /-- A drag keeps the size. -/
  drag : start.mode = .drag → rect.width = start.initial.width ∧ rect.height = start.initial.height
  /-- A resize keeps the corner. -/
  corner : start.mode = .resize → rect.x = start.initial.x ∧ rect.y = start.initial.y
  /-- A resize that was led anywhere keeps to the least size; the height of a table is not asked. -/
  size : start.mode = .resize → lastMove? behind ≠ none →
    minSize ≤ rect.width ∧ (start.kind = .note → minSize ≤ rect.height)

/-- Wherever a gesture is led, it keeps to what it should. -/
theorem keepsTo_endRect {minSize scale : K} {start : Gesture K} {behind : List (GestureStep K)} :
    KeepsTo minSize start behind (start.endRect minSize scale behind) where
  drag := Gesture.size_endRect_of_drag
  corner hmode := Gesture.corner_endRect_of_resize hmode
  size hmode := Gesture.le_endRect_of_resize hmode

/-- **How a run ends in exact arithmetic**, and what its controller refuses. -/
structure EndsOnce [FloorRing K] (minSize scale : K) (steps : List (GestureStep K))
    (after : GestureController K) : Prop where
  /-- The scale is positive. -/
  scale_pos : 0 < after.scale
  /-- The controller is idle once the gesture has ended. -/
  idle : after.releaseExact.1.active = none
  /-- Nothing is changed just if no gesture is under way. -/
  unchanged : after.releaseExact.2 = .ok none ↔ after.active = none
  /-- There is a change just if one is. -/
  changed : (∃ change, after.releaseExact.2 = .ok (some change)) ↔ after.active.isSome
  /-- A gesture is under way just if it has begun in a step and goes on behind that. -/
  begun : after.active.isSome ↔ ∃ before start behind, BeginsIn steps before start behind
  /-- The change is to the rectangle to which it was led, its numbers rounded half up. -/
  change : ∀ before start behind, BeginsIn steps before start behind →
    after.releaseExact.2 = .ok (some (changeToRect start.kind start.name
      (start.endRect minSize (scaleAfter scale before) behind)))
  /-- That rectangle keeps to what it should. -/
  keeps : ∀ before start behind, BeginsIn steps before start behind →
    KeepsTo minSize start behind (start.endRect minSize (scaleAfter scale before) behind)
  /-- A project cannot be dragged, and trying to changes nothing. -/
  project : ∀ mode name rect pointer,
    (∃ f, after.beginGesture mode .project name rect pointer = .error f) ∧
      after.perform (.beginGesture mode .project name rect pointer) = after
  /-- A scale that is not positive is refused, and changes nothing. -/
  scale : ∀ s ≤ 0, after.setScale s = none ∧ after.perform (.setScale s) = after

/-- **How a gesture ends with doubles.** -/
structure EndsInDoubles (c : GestureController Mixed) : Prop where
  /-- The controller is idle once the gesture has ended. -/
  idle : c.release.1.active = none
  /-- Nothing is changed just if no gesture is under way. -/
  unchanged : c.release.2 = .ok none ↔ c.active = none
  /-- There is a change just if every number of the rectangle of a gesture can be rounded. -/
  changed : (∃ change, c.release.2 = .ok (some change)) ↔ ∃ g, c.active = some g ∧
    ∀ a ∈ [g.current.x, g.current.y, g.current.width, g.current.height], a.HasHalfUp

/-- **A run ends in one change, and that depends only on where it ends.** A gesture under way ends
in the change to the rectangle to which it was led, its numbers rounded half up, and the controller
is idle. What is refused changes nothing.

With doubles the controller is idle too. The end of a gesture has a change if every number of its
rectangle is finite half a unit above it. -/
theorem release_run [FloorRing K] (minSize scale : K) (steps : List (GestureStep K))
    (hscale : 0 < scale) :
    EndsOnce minSize scale steps ((created minSize scale).run steps) ∧
      ∀ c : GestureController Mixed, EndsInDoubles c := by
  constructor
  · -- Where the numbers are exact, a release is told by the gesture and the steps behind its
    -- beginning.
    refine {
      scale_pos := scale_run_pos hscale
      idle := rfl
      unchanged := releaseWith_eq_none_iff
      changed := exists_releaseExact_iff
      begun := isSome_active_run_iff
      change := fun before start behind h => ?_
      keeps := fun before start behind _ => keepsTo_endRect
      project := fun mode name rect pointer => ⟨⟨_, rfl⟩, rfl⟩
      scale := fun s hs => ?_ }
    · exact releaseExact_of_active (active_run_of_beginsIn h)
    · -- A scale that is not positive is refused.
      have hrefused : ((created minSize scale).run steps).setScale s = none := by
        simp [setScale, isScale, not_lt.2 hs]
      refine ⟨hrefused, ?_⟩
      rw [perform, hrefused, Option.getD_none]
  · -- With doubles a release fails where a number of the rectangle cannot be rounded.
    intro c
    refine ⟨rfl, releaseWith_eq_none_iff, ?_⟩
    simp only [release, exists_releaseWith_iff, Mixed.exists_roundHalfUp_iff]

/-- A table is dragged, the canvas is scaled while it is under way, and it ends where the last move
leads it. -/
theorem release_run_scaled : (0 : ℚ) < 1 ∧
    ((created (100 : ℚ) 1).run [.beginGesture .drag .table "t" ⟨10, 20, 200, 150⟩ ⟨0, 0⟩,
      .move ⟨900, 900⟩, .setScale 2, .setScale 0, .move ⟨5, 3⟩]).releaseExact.2
      = .ok (some (.moveTable "t" (.int 13) (.int 22) (some (.int 200)))) := by
  -- The two moves behind the beginning come to the last one, at the scale that is set before it.
  let start : Gesture ℚ := ⟨.drag, .table, "t", ⟨10, 20, 200, 150⟩, ⟨0, 0⟩, ⟨10, 20, 200, 150⟩⟩
  let behind : List (GestureStep ℚ) := [.move ⟨900, 900⟩, .setScale 2, .setScale 0, .move ⟨5, 3⟩]
  have hbegins : BeginsIn (.beginGesture .drag .table "t" ⟨10, 20, 200, 150⟩ ⟨0, 0⟩ :: behind) []
      start behind :=
    ⟨_, rfl, rfl, by decide⟩
  have hends := (release_run (100 : ℚ) 1
    (.beginGesture .drag .table "t" ⟨10, 20, 200, 150⟩ ⟨0, 0⟩ :: behind) one_pos).1
  have hx : halfUp (start.endRect 100 (scaleAfter 1 []) behind).x = 13 := by decide +kernel
  have hy : halfUp (start.endRect 100 (scaleAfter 1 []) behind).y = 22 := by decide +kernel
  have hwidth : halfUp (start.endRect 100 (scaleAfter 1 []) behind).width = 200 := by decide +kernel
  refine ⟨one_pos, (hends.change [] start behind hbegins).trans ?_⟩
  rw [changeToRect, hx, hy, hwidth]
  rfl

/-- **The end of a gesture can fail with doubles**: a table that is far out is dragged as far
again. -/
theorem exists_release_without_change : ∃ c c' : GestureController Mixed,
    (⟨.real 100, .real 1, none⟩ : GestureController Mixed).beginGesture .drag .table "t"
      ⟨.real 1e308, .real 0, .real 200, .real 150⟩ ⟨.real 0, .real 0⟩ = .ok c ∧
    c.move ⟨.real 1e308, .real 30⟩ = .ok c' ∧ c'.active.isSome ∧
    ¬ ∃ change, c'.release.2 = .ok (some change) := by
  let rect : Rect Mixed := ⟨.real 1e308, .real 0, .real 200, .real 150⟩
  let c : GestureController Mixed :=
    ⟨.real 100, .real 1, some ⟨.drag, .table, "t", rect, ⟨.real 0, .real 0⟩, rect⟩⟩
  refine ⟨c, c.moved ⟨.real 1e308, .real 30⟩, rfl, ?_, rfl, ?_⟩
  · have hmove : ∀ c : GestureController Mixed, ∀ pointer,
        firstFault (((c.moved pointer).rect?.map (·.numbers)).getD []) = none →
        c.move pointer = .ok (c.moved pointer) := by
      intro c pointer h
      show unlessFault _ _ = _
      rw [unlessFault, h]
      rfl
    exact hmove _ _ (by decide +kernel)
  · -- The left edge is past the doubles, so no change comes out.
    rintro ⟨change, h⟩
    exact Bool.false_ne_true (Eq.trans (by decide +kernel) (congrArg Except.isOk h))

end GestureController

end SchemaDiagram
