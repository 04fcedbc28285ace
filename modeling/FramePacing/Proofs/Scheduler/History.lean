import FramePacing.Proofs.Scheduler.Consistent

/-!
# Histories

The history of a run lists its calls with the scheduler each was made to, the clock's reading and
the result, refused calls included. What holds of a new scheduler with an empty history, and is
kept by every call, holds after every run (`run_induction`).
-/

namespace FramePacing

/-- A call that was made. -/
structure Entry (n : Nat) where
  /-- The scheduler that it was made to. -/
  before : Scheduler n
  /-- What the clock read. -/
  now : Instant
  /-- The call. -/
  call : Call
  /-- The result, or why it was refused. -/
  result : Except Fault Reply

/-- The prediction that a call returned. -/
def Entry.prediction? {n : Nat} (e : Entry n) : Option Prediction :=
  match e.result with
  | .ok (.predicted p) => some p
  | _ => none

/-- The predictions that were returned, in order. -/
def predictions {n : Nat} (h : List (Entry n)) : List Prediction := h.filterMap Entry.prediction?

namespace Scheduler

variable {n : Nat}

/-- The history of a run. -/
def history (s : Scheduler n) : List (Instant × Call) → List (Entry n)
  | [] => []
  | (now, c) :: rest => ⟨s, now, c, (s.call now c).result⟩ :: (s.call now c).next.history rest

theorem run_append (s : Scheduler n) (calls calls' : List (Instant × Call)) :
    s.run (calls ++ calls') = (s.run calls).run calls' := List.foldl_append

/-- The parts of a history are the histories of the parts of the run. -/
theorem exists_of_history_eq_append {s : Scheduler n} {calls : List (Instant × Call)}
    {h h' : List (Entry n)} (split : s.history calls = h ++ h') :
    ∃ calls₁ calls₂, calls = calls₁ ++ calls₂ ∧ s.history calls₁ = h ∧
      (s.run calls₁).history calls₂ = h' := by
  induction h generalizing s calls with
  | nil => exact ⟨[], calls, rfl, rfl, split⟩
  | cons e h ih =>
    cases calls with
    | nil => cases split
    | cons c rest =>
      obtain ⟨rfl, tail⟩ := List.cons.inj split
      obtain ⟨calls₁, calls₂, rfl, rfl, rfl⟩ := ih tail
      exact ⟨c :: calls₁, calls₂, rfl, rfl, rfl⟩

/-- An entry of a history is a call of the run, made to what the run had led to. -/
theorem exists_of_history_eq_append_cons {s : Scheduler n} {calls : List (Instant × Call)}
    {h h' : List (Entry n)} {e : Entry n} (split : s.history calls = h ++ e :: h') :
    ∃ calls₁ calls₂, calls = calls₁ ++ (e.now, e.call) :: calls₂ ∧ s.history calls₁ = h ∧
      e.before = s.run calls₁ ∧ e.result = (e.before.call e.now e.call).result ∧
      (e.before.call e.now e.call).next.history calls₂ = h' := by
  obtain ⟨calls₁, rest, rfl, rfl, tail⟩ := exists_of_history_eq_append split
  cases rest with
  | nil => cases tail
  | cons c calls₂ =>
    obtain ⟨rfl, rfl⟩ := List.cons.inj tail
    exact ⟨calls₁, calls₂, rfl, rfl, rfl, rfl, rfl⟩

/-- What every call keeps of a scheduler and its history, a run keeps. -/
theorem run_induction_from {P : Scheduler n → List (Entry n) → Prop}
    (step : ∀ {s h now c s' r}, Consistent s → P s h → Effect s now c s' r →
      P s' (h ++ [⟨s, now, c, r⟩]))
    (calls : List (Instant × Call)) {s : Scheduler n} {h : List (Entry n)}
    (consistent : Consistent s) (holds : P s h) :
    P (s.run calls) (h ++ s.history calls) := by
  induction calls generalizing s h with
  | nil =>
    show P s (h ++ [])
    rw [List.append_nil]
    exact holds
  | cons c rest ih =>
    have effect := call_effect s c.1 c.2
    have rest := ih (effect.consistent consistent) (step consistent holds effect)
    rw [List.append_assoc] at rest
    exact rest

/-- **Runs**: what holds of a new scheduler without a history, and is kept by every call, holds
after every run. -/
theorem run_induction {c : Config} {s₀ : Scheduler n} (created : create n c = .ok s₀)
    {P : Scheduler n → List (Entry n) → Prop} (start : ∀ pos, P (initial c pos) [])
    (step : ∀ {s h now c s' r}, Consistent s → P s h → Effect s now c s' r →
      P s' (h ++ [⟨s, now, c, r⟩]))
    (calls : List (Instant × Call)) : P (s₀.run calls) (s₀.history calls) := by
  obtain ⟨_, pos, rfl⟩ := create_eq_ok_iff.mp created
  exact run_induction_from step calls (consistent_initial c pos) (start pos)

theorem consistent_run {c : Config} {s₀ : Scheduler n} (created : create n c = .ok s₀)
    (calls : List (Instant × Call)) : Consistent (s₀.run calls) :=
  run_induction (P := fun s _ => Consistent s) created (consistent_initial c)
    (fun consistent _ effect => effect.consistent consistent) calls

/-- A scheduler keeps the settings that it was made with, and they pass their check. -/
theorem config_run {c : Config} {s₀ : Scheduler n} (created : create n c = .ok s₀)
    (calls : List (Instant × Call)) :
    (s₀.run calls).config = c ∧ c.check = .ok () := by
  have valid := (create_eq_ok_iff.mp created).1
  have kept := run_induction (P := fun s _ => s.config = c) created (fun _ => rfl)
    (fun _ same effect => effect.config_eq.trans same) calls
  exact ⟨kept, valid⟩

/-- A run of two slots in which the clock goes back, a prediction finds its slot taken, a frame is
dropped and its slot used again, and a frame begins too early. -/
def unevenRun : List (Instant × Call) :=
  [(⟨10000000⟩, .ingest .owner ⟨⟨100000000⟩, ⟨11111111⟩, ⟨1000000⟩⟩),
    (⟨50000000⟩, .predict), (⟨40000000⟩, .predict), (⟨60000000⟩, .predict),
    (⟨60000000⟩, .mark ⟨2⟩ .wakeUp ⟨61000000⟩), (⟨65000000⟩, .discard ⟨2⟩),
    (⟨70000000⟩, .predict), (⟨75000000⟩, .mark ⟨4⟩ .wakeUp ⟨74000000⟩),
    (⟨76000000⟩, .mark ⟨4⟩ .begin ⟨0⟩), (⟨77000000⟩, .mark ⟨1⟩ .begin ⟨0⟩),
    (⟨78000000⟩, .mark ⟨1⟩ .wakeUp ⟨77000000⟩)]

/-- Its history. -/
def unevenHistory : List (Entry 2) := (initial .conservative Nat.two_pos).history unevenRun

end Scheduler

end FramePacing
