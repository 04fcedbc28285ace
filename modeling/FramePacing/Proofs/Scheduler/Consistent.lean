import FramePacing.Proofs.Scheduler.Effect

/-!
# The invariant of the slots

`Consistent` ties a slot's position, its frame, its stage and the counter together. A new scheduler
is consistent (`consistent_initial`) and every call keeps it so, refused ones included
(`Effect.consistent`).

The ring is then a finite map from ids to records, and a call changes it for one id at most: the
`frame?_` lemmas give the map after each kind of change.
-/

namespace FramePacing

namespace Scheduler

variable {n : Nat}

/-- What holds between a scheduler's slots and its counter. -/
structure Consistent (s : Scheduler n) : Prop where
  /-- Ids are counted from zero. -/
  counter_nonneg : 0 ≤ s.counter.toInt
  /-- A slot is ready exactly if it holds no frame. -/
  holder_eq_none_iff : ∀ i : Fin n, (s.ring.get i).holder = none ↔ (s.ring.get i).stage = .ready
  /-- A frame is in its own slot. -/
  home : ∀ (i : Fin n) (id : FrameId), (s.ring.get i).holder = some id → s.ring.index id = i
  /-- The frames in the slots have been counted. -/
  counted : ∀ (i : Fin n) (id : FrameId), (s.ring.get i).holder = some id →
    0 < id.toInt ∧ id.toInt ≤ s.counter.toInt

/-! ### Frames in flight -/

theorem slot_of_frame? {s : Scheduler n} {id : FrameId} {slot : Slot}
    (h : s.frame? id = some slot) : s.ring.slot id = slot ∧ slot.holder = some id :=
  Ring.find?_eq_some_iff.mp h

theorem Consistent.counted_of_frame? {s : Scheduler n} (h : Consistent s) {id : FrameId}
    {slot : Slot} (held : s.frame? id = some slot) :
    0 < id.toInt ∧ id.toInt ≤ s.counter.toInt := by
  obtain ⟨rfl, holder⟩ := slot_of_frame? held
  exact h.counted (s.ring.index id) id holder

/-- What a slot holds is in flight. -/
theorem Consistent.frame?_of_holder {s : Scheduler n} (h : Consistent s) {i : Fin n}
    {id : FrameId} (holder : (s.ring.get i).holder = some id) :
    s.frame? id = some (s.ring.get i) := by
  have here : s.ring.slot id = s.ring.get i := congrArg s.ring.get (h.home i id holder)
  exact Ring.find?_eq_some_iff.mpr ⟨here, holder⟩

theorem frame?_initial (c : Config) (pos : 0 < n) (id : FrameId) :
    (initial c pos).frame? id = none := by
  have free : (initial c pos).ring.slot id = {} := Vector.getElem_replicate _
  refine Ring.find?_eq_none_iff.mpr ?_
  rw [free]
  intro e
  cases e

/-! ### The frames after a change -/

theorem holder_of_isFree {slot : Slot} (free : slot.isFree) : slot.holder = none := by
  simp only [Slot.isFree, Bool.and_eq_true, Option.isNone_iff_eq_none] at free
  exact free.1

theorem Consistent.isFree_iff_ready {s : Scheduler n} (h : Consistent s) (id : FrameId) :
    (s.ring.slot id).isFree ↔ (s.ring.slot id).stage = .ready := by
  have free := h.holder_eq_none_iff (s.ring.index id)
  constructor
  · intro isFree
    exact free.mp (holder_of_isFree isFree)
  · intro ready
    have none : (s.ring.slot id).holder = none := free.mpr ready
    simp [Slot.isFree, none, ready]

theorem frame?_afterPredict {s : Scheduler n} {id : FrameId} (free : (s.ring.slot id).isFree)
    (b : Booking) (now : Instant) (id' : FrameId) :
    (s.afterPredict id b now).frame? id' =
      if id' = id then some (b.slot id now) else s.frame? id' := by
  by_cases h : id' = id
  · subst h
    rw [if_pos rfl]
    exact Ring.find?_put_self s.ring rfl
  · rw [if_neg h]
    refine Ring.find?_put_of_ne s.ring h ?_ ?_
    · intro a ha
      cases (holder_of_isFree free).symm.trans ha
    · intro a ha
      exact (Option.some.inj ha).symm

theorem frame?_withFrame {s : Scheduler n} {id : FrameId} {old slot : Slot}
    (held : s.frame? id = some old) (same : slot.holder = old.holder) (id' : FrameId) :
    (s.withFrame id slot).frame? id' = if id' = id then some slot else s.frame? id' := by
  obtain ⟨rfl, holder⟩ := slot_of_frame? held
  by_cases h : id' = id
  · subst h
    rw [if_pos rfl]
    exact Ring.find?_put_self s.ring (same.trans holder)
  · rw [if_neg h]
    refine Ring.find?_put_of_ne s.ring h ?_ ?_
    · intro a ha
      exact Option.some.inj (ha.symm.trans holder)
    · intro a ha
      exact Option.some.inj (ha.symm.trans (same.trans holder))

theorem frame?_withFrame_self (s : Scheduler n) {id : FrameId} {slot : Slot}
    (holder : slot.holder = some id) : (s.withFrame id slot).frame? id = some slot :=
  Ring.find?_put_self s.ring holder

theorem frame?_freed {s : Scheduler n} {id : FrameId} {old : Slot}
    (held : s.frame? id = some old) (slot : Slot) (id' : FrameId) :
    (s.withFrame id slot.freed).frame? id' = if id' = id then none else s.frame? id' := by
  obtain ⟨rfl, holder⟩ := slot_of_frame? held
  by_cases h : id' = id
  · subst h
    rw [if_pos rfl]
    exact Ring.find?_put_free s.ring rfl
  · rw [if_neg h]
    refine Ring.find?_put_of_ne s.ring h ?_ ?_
    · intro a ha
      exact Option.some.inj (ha.symm.trans holder)
    · intro a ha
      cases ha

/-! ### The invariant is kept -/

theorem consistent_initial (c : Config) (pos : 0 < n) : Consistent (initial c pos) := by
  have free : ∀ i : Fin n, (initial c pos).ring.get i = {} := fun i =>
    Vector.getElem_replicate i.isLt
  refine ⟨Int.le_refl 0, ?_, ?_, ?_⟩
  · intro i
    rw [free]
    exact ⟨fun _ => rfl, fun _ => rfl⟩
  · intro i id holder
    rw [free] at holder
    cases holder
  · intro i id holder
    rw [free] at holder
    cases holder

/-- A change of anything but the ring. -/
theorem Consistent.of_ring_eq {s s' : Scheduler n} (h : Consistent s) (ring : s'.ring = s.ring)
    (counter : s.counter.toInt ≤ s'.counter.toInt) : Consistent s' := by
  refine ⟨Int.le_trans h.counter_nonneg counter, ?_, ?_, ?_⟩
  · rw [ring]
    exact h.holder_eq_none_iff
  · rw [ring]
    exact h.home
  · intro i id holder
    rw [ring] at holder
    have := h.counted i id holder
    omega

/-- A write of one slot, with a frame that belongs there or with none. -/
theorem Consistent.of_put {s s' : Scheduler n} (h : Consistent s) {id : FrameId} {slot : Slot}
    (ring : s'.ring = s.ring.put id slot) (counter : s.counter.toInt ≤ s'.counter.toInt)
    (free : slot.holder = none ↔ slot.stage = .ready)
    (own : ∀ a, slot.holder = some a → a = id ∧ 0 < id.toInt ∧ id.toInt ≤ s'.counter.toInt) :
    Consistent s' := by
  refine ⟨Int.le_trans h.counter_nonneg counter, ?_, ?_, ?_⟩
  · intro i
    rw [ring, Ring.get_put]
    split
    · exact free
    · exact h.holder_eq_none_iff i
  · intro i a holder
    rw [ring, Ring.get_put] at holder
    rw [ring]
    split at holder
    · rename_i here
      rw [(own a holder).1]
      exact here.symm
    · exact h.home i a holder
  · intro i a holder
    rw [ring, Ring.get_put] at holder
    split at holder
    · obtain ⟨rfl, range⟩ := own a holder
      exact range
    · have := h.counted i a holder
      omega

/-- Every call keeps the invariant. -/
theorem Effect.consistent {s s' : Scheduler n} {now : Instant} {c : Call}
    {r : Except Fault Reply} (effect : Effect s now c s' r) (h : Consistent s) :
    Consistent s' := by
  have nonneg := h.counter_nonneg
  have up := effect.counter_le
  have keep {id : FrameId} {old slot : Slot} (held : s.frame? id = some old)
      (same : slot.holder = old.holder) (busy : slot.stage ≠ .ready) :
      Consistent (s.withFrame id slot) := by
    have holder := (slot_of_frame? held).2
    refine h.of_put rfl (Int.le_refl _) ⟨fun e => ?_, fun e => absurd e busy⟩ fun a ha => ?_
    · cases e.symm.trans (same.trans holder)
    · obtain rfl := Option.some.inj (ha.symm.trans (same.trans holder))
      exact ⟨rfl, h.counted_of_frame? held⟩
  have drop {id : FrameId} (slot : Slot) : Consistent (s.withFrame id slot.freed) :=
    h.of_put rfl (Int.le_refl _) ⟨fun _ => rfl, fun _ => rfl⟩ fun a ha => by cases ha
  cases effect with
  | @predicted id b next plan free =>
    have count := FrameId.toInt_of_next? next
    refine h.of_put rfl up ⟨fun e => (by cases e), fun e => (by cases e)⟩ fun a ha => ?_
    refine ⟨(Option.some.inj ha).symm, ?_, Int.le_refl _⟩
    omega
  | unbooked _ _ => exact h.of_ring_eq rfl up
  | exhausted next => exact h
  | woke held stage => exact keep held rfl (by intro e; cases e)
  | began held stage => exact keep held rfl (by intro e; cases e)
  | discarded held stage => exact drop _
  | delivered held stage => exact (drop _).of_ring_eq rfl (Int.le_refl _)
  | ingested => exact h.of_ring_eq rfl (Int.le_refl _)
  | refused _ => exact h

end Scheduler

end FramePacing
