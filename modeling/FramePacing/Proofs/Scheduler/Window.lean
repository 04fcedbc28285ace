import FramePacing.Proofs.Scheduler.Occupancy
import Mathlib.Data.Finset.Max
import Mathlib.Data.Int.ConditionallyCompleteOrder
import Mathlib.Data.Int.Interval

/-!
# The window of the frames in flight

As long as frames are completed oldest first and no call is refused, the ids in flight are the
latest ones without a gap, so their number says which they are: `k` frames in flight are
`counter - k + 1, …, counter`. The slot of the next frame is then ready exactly if a slot is ready
at all (`in_order_run_fills_ring`), and an application that keeps the order gets all `n` slots.

`Unbroken` says that no id is missing between one in flight and the counter. A set of numbers like
this is an interval, and its size gives the lower end (`eq_Icc_of_closed_upwards`).
-/

namespace FramePacing

variable {n : Nat}

/-- A finite set of integers up to `top` which has, with a number, all that follow up to `top`, is
an interval. -/
theorem eq_Icc_of_closed_upwards {ids : Finset ℤ} {top : ℤ} (le : ∀ x ∈ ids, x ≤ top)
    (up : ∀ x ∈ ids, ∀ y, x ≤ y → y ≤ top → y ∈ ids) :
    ids = Finset.Icc (top - ids.card + 1) top := by
  rcases ids.eq_empty_or_nonempty with rfl | nonempty
  · simp
  · -- the interval starts at the least number
    have least := ids.min'_mem nonempty
    have interval : ids = Finset.Icc (ids.min' nonempty) top := by
      ext x
      rw [Finset.mem_Icc]
      constructor
      · intro hx
        exact ⟨ids.min'_le x hx, le x hx⟩
      · rintro ⟨lower, upper⟩
        exact up _ least x lower upper
    have card : ids.card = (top + 1 - ids.min' nonempty).toNat := by
      conv_lhs => rw [interval]
      exact Int.card_Icc _ _
    have below := le _ least
    have start : top - ids.card + 1 = ids.min' nonempty := by omega
    rw [start]
    exact interval

namespace Scheduler

/-- The numbers of the frames in the slots. -/
def heldNumbers (s : Scheduler n) : Finset ℤ := (s.heldIds.map FrameId.toInt).toFinset

theorem Consistent.card_heldNumbers {s : Scheduler n} (h : Consistent s) :
    s.heldNumbers.card = s.liveCount := by
  have distinct : (s.heldIds.map FrameId.toInt).Nodup :=
    h.nodup_heldIds.map fun _ _ => FrameId.toInt_inj.mp
  rw [heldNumbers, List.toFinset_card_of_nodup distinct, List.length_map, h.length_heldIds]

theorem mem_heldNumbers_iff {s : Scheduler n} {h : List (Entry n)} (consistent : Consistent s)
    (accounted : Accounted s h) {x : ℤ} :
    x ∈ s.heldNumbers ↔ ∃ id : FrameId, InFlight h id ∧ id.toInt = x := by
  simp [heldNumbers, consistent.mem_heldIds_iff, accounted.isSome_frame?_iff]

/-- Without a gap, the number of the frames in flight says which they are. -/
theorem Unbroken.window {s : Scheduler n} {h : List (Entry n)} (unbroken : Unbroken s h)
    (consistent : Consistent s) (accounted : Accounted s h) :
    s.heldNumbers = Finset.Icc (s.counter.toInt - s.liveCount + 1) s.counter.toInt := by
  rw [← consistent.card_heldNumbers]
  refine eq_Icc_of_closed_upwards ?_ ?_
  · intro x hx
    obtain ⟨id, alive, rfl⟩ := (mem_heldNumbers_iff consistent accounted).mp hx
    obtain ⟨slot, held⟩ := accounted.exists_frame? alive
    exact (consistent.counted_of_frame? held).2
  · intro x hx y lower upper
    obtain ⟨id, alive, rfl⟩ := (mem_heldNumbers_iff consistent accounted).mp hx
    obtain ⟨slot, held⟩ := accounted.exists_frame? alive
    have positive := (consistent.counted_of_frame? held).1
    obtain ⟨later, rfl⟩ := s.counter.exists_toInt_eq (x := y) (by omega) upper
    have alive := unbroken id later alive lower upper
    exact (mem_heldNumbers_iff consistent accounted).mpr ⟨later, alive, rfl⟩

/-- **In-order callers**: in a run in which no call was refused and each completion was of the
oldest frame in flight, the `k` frames in flight are the latest `k` ids, at most `n`, and the slot
of the next id is ready exactly if `k < n`. -/
theorem in_order_run_fills_ring {c : Config} {s₀ : Scheduler n} (created : create n c = .ok s₀)
    (calls : List (Instant × Call)) (unrefused : Unrefused (s₀.history calls))
    (oldest : OldestFirst (s₀.history calls)) :
    FrameId.toInt '' {id | InFlight (s₀.history calls) id} =
      Set.Icc ((s₀.run calls).counter.toInt - (s₀.run calls).liveCount + 1)
        (s₀.run calls).counter.toInt ∧
    (s₀.run calls).liveCount ≤ n ∧
    ∀ id : FrameId, id.toInt = (s₀.run calls).counter.toInt + 1 →
      (((s₀.run calls).ring.slot id).stage = .ready ↔ (s₀.run calls).liveCount < n) := by
  have consistent := consistent_run created calls
  have accounted := accounted_run created calls
  have recent := recent_run created calls unrefused
  have window := (unbroken_run created calls unrefused oldest).window consistent accounted
  have count := liveCount_le (s₀.run calls)
  refine ⟨?_, count, ?_⟩
  · ext x
    have member := mem_heldNumbers_iff consistent accounted (x := x)
    rw [window] at member
    simpa using member.symm
  · intro id next
    -- the frame `n` ids before the next one is the first of a full window
    have first := mem_heldNumbers_iff consistent accounted (x := id.toInt - n)
    rw [window, Finset.mem_Icc] at first
    have taken := taken_iff consistent accounted recent next
    have old : (∃ old : FrameId, old.toInt + n = id.toInt ∧ InFlight (s₀.history calls) old) ↔
        ∃ old : FrameId, InFlight (s₀.history calls) old ∧ old.toInt = id.toInt - n := by
      refine exists_congr fun old => ?_
      rw [and_comm, eq_sub_iff_add_eq]
    rw [old, ← first, consistent.isFree_iff_ready] at taken
    have pos := s₀.ring.nonempty
    rw [← not_iff_not, taken]
    omega

/-- Three frames are predicted, and the first is dropped while the second is in flight. -/
def inOrderRun : List (Instant × Call) :=
  [(.zero, .predict), (.zero, .predict), (.zero, .mark ⟨1⟩ .wakeUp .zero), (.zero, .discard ⟨1⟩),
    (.zero, .predict)]

theorem oldestFirst_inOrderRun :
    OldestFirst ((initial .conservative (Nat.succ_pos 2) : Scheduler 3).history inOrderRun) := by
  intro e he id older completion lt
  have dropped : id ∈ completed ((initial .conservative (Nat.succ_pos 2) : Scheduler 3).history
      inOrderRun) := List.mem_filterMap.mpr ⟨e, he, completion⟩
  obtain rfl : id = ⟨1⟩ := List.mem_singleton.mp dropped
  -- no frame is older than the first
  by_contra found
  obtain ⟨slot, held⟩ := Option.ne_none_iff_exists'.mp found
  obtain ⟨before, after, split⟩ := List.append_of_mem he
  obtain ⟨calls, -, -, -, made, -⟩ := exists_of_history_eq_append_cons split
  rw [made] at held
  have consistent := consistent_run (create_conservative (Nat.succ_pos 2)) calls
  exact Int.not_lt.mpr (consistent.counted_of_frame? held).1 lt

theorem in_order_run_fills_ring_of_three :
    FrameId.toInt '' {id | InFlight ((initial .conservative (Nat.succ_pos 2) : Scheduler 3).history
        inOrderRun) id} = Set.Icc 2 3 ∧
      (((initial .conservative (Nat.succ_pos 2) : Scheduler 3).run
        inOrderRun).ring.slot ⟨4⟩).stage = .ready := by
  obtain ⟨ids, -, room⟩ := in_order_run_fills_ring (create_conservative (Nat.succ_pos 2)) inOrderRun
    (List.all_eq_true.mp rfl) oldestFirst_inOrderRun
  exact ⟨ids, (room ⟨4⟩ rfl).mpr (Nat.lt_succ_self 2)⟩

end Scheduler

end FramePacing
