import FramePacing.Simulation.Application

/-!
# Histories of a simulated application

What can happen to an application between its creation and a frame: other frames, which may end in
a fault, time that passes, and switches to other displays. Frames leave the display alone, whether
or not a fault ends them (`KeepsDisplay`), so the display in force is always one that was built, and
such a display refreshes (`Refreshes.perform`).
-/

namespace FramePacing

/-! ### Parts of a frame and the display -/

namespace FrameM

variable {α β : Type}

/-- A part of a frame that leaves the display alone. -/
def KeepsDisplay (x : FrameM α) : Prop := ∀ p, (x.run p).2.app.display = p.app.display

theorem KeepsDisplay.bind {x : FrameM α} {f : α → FrameM β} (first : KeepsDisplay x)
    (rest : ∀ a, KeepsDisplay (f a)) : KeepsDisplay (x >>= f) := by
  intro p
  have kept := first p
  show (ExceptT.bindCont f (x.run p).1 (x.run p).2).2.app.display = _
  cases (x.run p).1 with
  | error e => exact kept
  | ok a => exact (rest a _).trans kept

theorem KeepsDisplay.ite {c : Prop} [Decidable c] {x y : FrameM α} (yes : KeepsDisplay x)
    (no : KeepsDisplay y) : KeepsDisplay (if c then x else y) := by
  split
  · exact yes
  · exact no

/-! A part that is no sequence of others keeps the display by its definition. -/

theorem keepsDisplay_trace (t : Tracer) (e : Event) : KeepsDisplay (trace t e) :=
  .ite (fun _ => rfl) (fun _ => rfl)

theorem keepsDisplay_mark (t : Tracer) (id : FrameId) (milestone : Milestone) :
    KeepsDisplay (mark t id milestone) :=
  .bind (fun _ => rfl) fun _ => .bind (fun _ => rfl) fun _ => keepsDisplay_trace _ _

theorem keepsDisplay_start (t : Tracer) (w : Workload) : KeepsDisplay (start t w) := by
  refine .bind (fun _ => rfl) fun now => .bind (fun _ => rfl) fun display =>
    .bind (fun _ => rfl) fun sample => .bind (fun _ => rfl) fun _ => ?_
  refine .bind (keepsDisplay_trace _ _) fun _ => .bind (fun _ => rfl) fun prediction =>
    .bind (keepsDisplay_trace _ _) fun _ => .bind (fun _ => rfl) fun _ => ?_
  exact .bind (fun _ => rfl) fun _ => .bind (keepsDisplay_mark _ _ _) fun _ =>
    .bind (fun _ => rfl) fun _ => .bind (keepsDisplay_mark _ _ _) fun _ => fun _ => rfl

theorem keepsDisplay_deliver (t : Tracer) (w : Workload) : KeepsDisplay (deliver t w) := by
  refine .bind (keepsDisplay_start t w) fun prediction => .bind (fun _ => rfl) fun _ =>
    .bind (fun _ => rfl) fun report => .bind (keepsDisplay_trace _ _) fun _ => ?_
  refine .bind (fun _ => rfl) fun display => .bind (fun _ => rfl) fun shown => .ite ?_ ?_
  · exact .bind (fun _ => rfl) fun late => .bind (fun _ => rfl) fun _ => fun _ => rfl
  · exact fun _ => rfl

theorem keepsDisplay_discard (t : Tracer) (w : Workload) : KeepsDisplay (discard t w) :=
  .bind (keepsDisplay_start t w) fun _ => .bind (fun _ => rfl) fun _ =>
    .bind (keepsDisplay_trace _ _) fun _ => fun _ => rfl

end FrameM

/-! ### Histories -/

/-- Something that happens to an application. -/
inductive Action where
  /-- A frame is run to its delivery. -/
  | deliver (t : Tracer) (w : Workload)
  /-- A frame is run and dropped. -/
  | discard (t : Tracer) (w : Workload)
  /-- Time passes. -/
  | elapse (d : Span)
  /-- Another display is built and switched to. -/
  | switch (origin : Instant) (refreshPeriod extra : Span)

/-- A frame of a history. -/
structure PlayedFrame where
  /-- The application that it was run on. -/
  before : Application
  /-- What became of it. -/
  run : FrameRun

namespace Application

/-- The application after something has happened to it. A fault leaves it as far as it came, and a
display that could not be built is not switched to. -/
def act (a : Application) : Action → Application
  | .deliver t w => (a.deliverNext t w).app
  | .discard t w => (a.discardNext t w).app
  | .elapse d => a.elapse d
  | .switch origin refreshPeriod extra =>
    match Display.create origin refreshPeriod extra with
    | .ok display => a.withDisplay display
    | .error _ => a

/-- The application after a history. -/
def perform (a : Application) (actions : List Action) : Application := actions.foldl act a

/-- The frames of a history, in order. -/
def frames (a : Application) : List Action → List PlayedFrame
  | [] => []
  | .deliver t w :: rest => ⟨a, a.deliverNext t w⟩ :: (a.act (.deliver t w)).frames rest
  | .discard t w :: rest => ⟨a, a.discardNext t w⟩ :: (a.act (.discard t w)).frames rest
  | action :: rest => (a.act action).frames rest

/-- Whether the display in force refreshes at all. -/
def Refreshes (a : Application) : Prop := a.display.refreshPeriod ≠ .zero

end Application

theorem Display.refreshPeriod_ne_zero_of_create {origin : Instant} {refreshPeriod extra : Span}
    {d : Display} (built : Display.create origin refreshPeriod extra = .ok d) :
    d.refreshPeriod ≠ .zero := by
  unfold create at built
  split at built
  · cases built
  · rename_i nonzero
    cases built
    exact nonzero

namespace Application

theorem refreshes_create {c : Config} {d : Display} {start : Instant} {a : Application}
    (refreshes : d.refreshPeriod ≠ .zero) (created : create c d start = .ok a) : a.Refreshes := by
  obtain ⟨s, -, same⟩ := bind_eq_ok_iff.mp created
  cases same
  exact refreshes

theorem Refreshes.of_display_eq {a a' : Application} (h : a.Refreshes)
    (same : a'.display = a.display) : a'.Refreshes := by
  unfold Refreshes
  rw [same]
  exact h

theorem Refreshes.act {a : Application} (h : a.Refreshes) (action : Action) :
    (a.act action).Refreshes := by
  cases action with
  | deliver t w => exact h.of_display_eq (FrameM.keepsDisplay_deliver t w ⟨a, []⟩)
  | discard t w => exact h.of_display_eq (FrameM.keepsDisplay_discard t w ⟨a, []⟩)
  | elapse d => exact h
  | switch origin refreshPeriod extra =>
    show (match Display.create origin refreshPeriod extra with
      | .ok display => a.withDisplay display
      | .error _ => a).Refreshes
    split
    · rename_i d built
      exact Display.refreshPeriod_ne_zero_of_create built
    · exact h

/-- The display in force refreshes, whatever has happened. -/
theorem Refreshes.perform {a : Application} (h : a.Refreshes) (actions : List Action) :
    (a.perform actions).Refreshes := by
  induction actions generalizing a with
  | nil => exact h
  | cons action rest ih => exact ih (h.act action)

end Application

end FramePacing
