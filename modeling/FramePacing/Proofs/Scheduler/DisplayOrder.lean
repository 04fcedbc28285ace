import FramePacing.Proofs.Planning
import FramePacing.Proofs.Scheduler.History

/-!
# The order of display times

Over a whole run, whatever the clock reads and the display reports, each display time handed out is
later than all before it, or is the horizon (`predictions_never_regress`). The frames in flight are
ordered in the same way.

The invariant `Ordered` also bounds all display times by the last one handed out. It is kept
because a plan below the horizon is later than that one (`plan_later`); every other call hands out
no display time, and leaves or drops those of the frames in flight.
-/

namespace FramePacing.Scheduler

variable {n : Nat}

/-- The order of the display times handed out so far. -/
structure Ordered (s : Scheduler n) (h : List (Entry n)) : Prop where
  /-- The scheduler knows the latest one. -/
  last_eq : s.lastDisplay = ((predictions h).getLast?.map Prediction.displayTime).getD .zero
  /-- None lies after it. -/
  returned_le : ∀ q ∈ predictions h, q.displayTime ≤ s.lastDisplay
  /-- Below the horizon, each is later than all before it. -/
  increasing : (predictions h).Pairwise fun q p =>
    p.displayTime.toNat < horizon → q.displayTime < p.displayTime
  /-- Below the horizon, each wake-up lies in the future. -/
  awaited : ∀ e ∈ h, ∀ p, e.prediction? = some p → p.displayTime.toNat < horizon →
    e.now < p.wakeUpTime
  /-- No frame in flight is to be shown after the latest one. -/
  held_le : ∀ id slot, s.frame? id = some slot → slot.displayTime ≤ s.lastDisplay
  /-- Below the horizon, a later frame in flight is to be shown later. -/
  held_increasing : ∀ a b slotA slotB, s.frame? a = some slotA → s.frame? b = some slotB →
    a.toInt < b.toInt → slotB.displayTime.toNat = horizon ∨ slotA.displayTime < slotB.displayTime

theorem ordered_initial (c : Config) (pos : 0 < n) : Ordered (initial c pos) [] := by
  refine ⟨rfl, ?_, .nil, ?_, ?_, ?_⟩
  · intro q hq
    cases hq
  · intro e he
    cases he
  · intro id slot held
    cases (frame?_initial c pos id).symm.trans held
  · intro a b slotA slotB heldA
    cases (frame?_initial c pos a).symm.trans heldA

/-- A call that hands out no display time, and at most drops those of the frames in flight. -/
theorem Ordered.of_no_prediction {s s' : Scheduler n} {h : List (Entry n)} {e : Entry n}
    (ordered : Ordered s h) (nothing : e.prediction? = none) (last : s'.lastDisplay = s.lastDisplay)
    (frames : ∀ id slot, s'.frame? id = some slot →
      ∃ old, s.frame? id = some old ∧ slot.displayTime = old.displayTime) :
    Ordered s' (h ++ [e]) := by
  have same : predictions (h ++ [e]) = predictions h := by simp [predictions, nothing]
  refine ⟨?_, ?_, ?_, ?_, ?_, ?_⟩
  · rw [same, last]
    exact ordered.last_eq
  · rw [same, last]
    exact ordered.returned_le
  · rw [same]
    exact ordered.increasing
  · intro e' he' p hp
    rcases List.mem_append.mp he' with old | new
    · exact ordered.awaited e' old p hp
    · obtain rfl := List.mem_singleton.mp new
      cases nothing.symm.trans hp
  · intro id slot held
    obtain ⟨old, before, display⟩ := frames id slot held
    rw [display, last]
    exact ordered.held_le id old before
  · intro a b slotA slotB heldA heldB lt
    obtain ⟨oldA, beforeA, displayA⟩ := frames a slotA heldA
    obtain ⟨oldB, beforeB, displayB⟩ := frames b slotB heldB
    rw [displayA, displayB]
    exact ordered.held_increasing a b oldA oldB beforeA beforeB lt

/-- A prediction hands out a display time that is later than all before it, or the horizon. -/
theorem Ordered.predicted {s : Scheduler n} {h : List (Entry n)} {now : Instant} {id : FrameId}
    {b : Booking} (ordered : Ordered s h) (consistent : Consistent s)
    (next : s.counter.next? = some id) (plan : s.plan now = .ok b)
    (free : (s.ring.slot id).isFree) :
    Ordered (s.afterPredict id b now)
      (h ++ [⟨s, now, .predict, .ok (.predicted (b.prediction id))⟩]) := by
  have later := plan_later plan
  have count := FrameId.toInt_of_next? next
  have bound : ∀ t : Instant, t ≤ s.lastDisplay → t ≤ b.displayTime := by
    intro t ht
    rw [Instant.le_iff] at ht ⊢
    have := t.toNat_le
    rcases later with top | ⟨after, -⟩
    · omega
    · have := Instant.lt_iff.mp after
      omega
  have above : ∀ t : Instant, t ≤ s.lastDisplay →
      b.displayTime.toNat = horizon ∨ t < b.displayTime := by
    intro t ht
    refine later.imp_right fun after => ?_
    have := Instant.le_iff.mp ht
    have := Instant.lt_iff.mp after.1
    exact Instant.lt_iff.mpr (by omega)
  have list : predictions (h ++ [⟨s, now, .predict, .ok (.predicted (b.prediction id))⟩]) =
      predictions h ++ [b.prediction id] := List.filterMap_append
  refine ⟨?_, ?_, ?_, ?_, ?_, ?_⟩
  · rw [list, List.getLast?_append]
    rfl
  · rw [list]
    intro q hq
    rcases List.mem_append.mp hq with old | new
    · exact bound _ (ordered.returned_le q old)
    · obtain rfl := List.mem_singleton.mp new
      exact Instant.le_iff.mpr (Nat.le_refl _)
  · rw [list, List.pairwise_append]
    refine ⟨ordered.increasing, List.pairwise_singleton _ _, ?_⟩
    intro q hq p hp below
    obtain rfl := List.mem_singleton.mp hp
    rcases above _ (ordered.returned_le q hq) with top | after
    · exact absurd top (Nat.ne_of_lt below)
    · exact after
  · intro e he p hp below
    rcases List.mem_append.mp he with old | new
    · exact ordered.awaited e old p hp below
    · obtain rfl := List.mem_singleton.mp new
      obtain rfl := Option.some.inj hp
      rcases later with top | ⟨-, future⟩
      · exact absurd top (Nat.ne_of_lt below)
      · exact future
  · intro a slot held
    rw [frame?_afterPredict free] at held
    split at held
    · obtain rfl := Option.some.inj held
      exact Instant.le_iff.mpr (Nat.le_refl _)
    · exact bound _ (ordered.held_le a slot held)
  · intro a a' slot slot' held held' lt
    rw [frame?_afterPredict free] at held held'
    split at held'
    · obtain rfl := Option.some.inj held'
      split at held
      · -- the new frame is not before itself
        rename_i e' e
        subst e e'
        exact absurd lt (Int.lt_irrefl _)
      · exact above _ (ordered.held_le a slot held)
    · -- no old frame comes after the new one
      have := (consistent.counted_of_frame? held').2
      split at held
      · rename_i e
        subst e
        omega
      · exact ordered.held_increasing a a' slot slot' held held' lt

/-- Every call keeps the order. -/
theorem Ordered.call {s s' : Scheduler n} {h : List (Entry n)} {now : Instant} {c : Call}
    {r : Except Fault Reply} (consistent : Consistent s) (ordered : Ordered s h)
    (effect : Effect s now c s' r) : Ordered s' (h ++ [⟨s, now, c, r⟩]) := by
  have changed {id : FrameId} {old : Slot} {new : Option Slot} {s' : Scheduler n}
      (held : s.frame? id = some old)
      (frames : ∀ a, s'.frame? a = if a = id then new else s.frame? a)
      (display : ∀ slot, new = some slot → slot.displayTime = old.displayTime) :
      ∀ a slot, s'.frame? a = some slot →
        ∃ old, s.frame? a = some old ∧ slot.displayTime = old.displayTime := by
    intro a slot held'
    rw [frames] at held'
    split at held'
    · rename_i e
      exact ⟨old, e ▸ held, display slot held'⟩
    · exact ⟨slot, held', rfl⟩
  have untouched : ∀ a slot, s.frame? a = some slot →
      ∃ old, s.frame? a = some old ∧ slot.displayTime = old.displayTime :=
    fun _ slot held => ⟨slot, held, rfl⟩
  cases effect with
  | predicted next plan free => exact ordered.predicted consistent next plan free
  | unbooked _ _ => exact ordered.of_no_prediction rfl rfl untouched
  | exhausted _ => exact ordered.of_no_prediction rfl rfl untouched
  | woke held _ =>
    refine ordered.of_no_prediction rfl rfl
      (changed held (frame?_withFrame held rfl) fun slot e => ?_)
    obtain rfl := Option.some.inj e
    rfl
  | began held _ =>
    refine ordered.of_no_prediction rfl rfl
      (changed held (frame?_withFrame held rfl) fun slot e => ?_)
    obtain rfl := Option.some.inj e
    rfl
  | discarded held _ =>
    exact ordered.of_no_prediction rfl rfl
      (changed held (frame?_freed held _) fun slot e => by cases e)
  | delivered held _ =>
    exact ordered.of_no_prediction rfl rfl
      (changed held (frame?_freed held _) fun slot e => by cases e)
  | ingested => exact ordered.of_no_prediction rfl rfl untouched
  | refused _ => exact ordered.of_no_prediction rfl rfl untouched

/-- The order holds after every run. -/
theorem ordered_run {c : Config} {s₀ : Scheduler n} (created : create n c = .ok s₀)
    (calls : List (Instant × Call)) : Ordered (s₀.run calls) (s₀.history calls) :=
  run_induction created (ordered_initial c) Ordered.call calls

/-- **Predictions never regress**: below the horizon, every display time that is returned is later
than all returned before it, and the application wakes up after the call. The latest display time
is the one the scheduler remembers, no frame in flight is to be shown after it, and the frames in
flight are to be shown in their order. -/
theorem predictions_never_regress {c : Config} {s₀ : Scheduler n} (created : create n c = .ok s₀)
    (calls : List (Instant × Call)) :
    ((predictions (s₀.history calls)).Pairwise fun q p =>
      p.displayTime.toNat < horizon → q.displayTime < p.displayTime) ∧
    (∀ e ∈ s₀.history calls, ∀ p, e.prediction? = some p → p.displayTime.toNat < horizon →
      e.now < p.wakeUpTime) ∧
    (s₀.run calls).lastDisplay =
      ((predictions (s₀.history calls)).getLast?.map Prediction.displayTime).getD .zero ∧
    (∀ id slot, (s₀.run calls).frame? id = some slot →
      slot.displayTime ≤ (s₀.run calls).lastDisplay) ∧
    (∀ a b slotA slotB, (s₀.run calls).frame? a = some slotA →
      (s₀.run calls).frame? b = some slotB → a.toInt < b.toInt →
      slotB.displayTime.toNat = horizon ∨ slotA.displayTime < slotB.displayTime) := by
  have ordered := ordered_run created calls
  exact ⟨ordered.increasing, ordered.awaited, ordered.last_eq, ordered.held_le,
    ordered.held_increasing⟩

theorem predictions_never_regress_uneven :
    (predictions unevenHistory).map Prediction.displayTime =
        [⟨100000000⟩, ⟨111111111⟩, ⟨122222222⟩] ∧
      (predictions unevenHistory).Pairwise
        fun q p => p.displayTime.toNat < horizon → q.displayTime < p.displayTime :=
  ⟨rfl, (predictions_never_regress (create_conservative Nat.two_pos) unevenRun).1⟩

end FramePacing.Scheduler
