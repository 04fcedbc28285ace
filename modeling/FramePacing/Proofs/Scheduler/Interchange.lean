import FramePacing.Proofs.Scheduler.History
import FramePacing.Proofs.Scheduler.Transitions

/-!
# Calls on different frames

A mark, a drop and a delivery name a frame. While the clock stands still, two of them that name
different frames may change places: each gives the same result in either order, or is refused in
either order, and the scheduler is the same afterwards
(`calls_on_different_frames_interchange`). Two deliveries are left out, because both teach the
estimates, and the filter does not forget the order.

Three things carry this. A call leaves the records of all other frames alone (`Effect.frame?_of_ne`).
So a call that was refused is refused after the other one as well, and a call that was accepted finds
the same record after the other one and does the same to it (`Effect.anywhere`,
`Effect.delivery_anywhere`). And two frames in flight are in two slots (`index_ne_of_held`), the
writes to which may change places.

A refused call may name another cause: a slot that the first call has freed is empty for the second.
-/

namespace FramePacing

namespace Scheduler

variable {n : Nat}

/-- Made in either order while the clock reads `now`, two calls leave the same scheduler, and each
of them gives the same result or is refused. -/
structure Interchange (s : Scheduler n) (now : Instant) (c d : Call) : Prop where
  /-- The scheduler afterwards is the same. -/
  next_eq : ((s.call now c).next.call now d).next = ((s.call now d).next.call now c).next
  /-- The one call gives the same after the other, -/
  left_eq : ((s.call now d).next.call now c).result.toOption = (s.call now c).result.toOption
  /-- and the other after the one. -/
  right_eq : ((s.call now c).next.call now d).result.toOption = (s.call now d).result.toOption

variable {s s' : Scheduler n} {now : Instant} {c d : Call} {a b : FrameId}

theorem Interchange.symm (h : Interchange s now c d) : Interchange s now d c :=
  ⟨h.next_eq.symm, h.right_eq, h.left_eq⟩

/-! ### What a call has to do with other frames -/

/-- A call that names a frame leaves the records of all others alone. -/
theorem Effect.frame?_of_ne {r : Except Fault Reply} (effect : Effect s now c s' r)
    (names : c.subject? = some a) (ne : b ≠ a) : s'.frame? b = s.frame? b := by
  cases effect with
  | predicted _ _ _ => cases names
  | unbooked _ _ => cases names
  | exhausted _ => cases names
  | ingested => cases names
  | refused _ => rfl
  | @woke id reported slot held _ =>
    obtain rfl := Option.some.inj names
    have same : (slot.woken reported).holder = slot.holder := rfl
    rw [frame?_withFrame held same, if_neg ne]
  | @began id reported slot held _ =>
    obtain rfl := Option.some.inj names
    have same : (slot.started now).holder = slot.holder := rfl
    rw [frame?_withFrame held same, if_neg ne]
  | discarded held _ =>
    obtain rfl := Option.some.inj names
    exact (frame?_freed held _ b).trans (if_neg ne)
  | delivered held _ =>
    obtain rfl := Option.some.inj names
    exact (frame?_freed held _ b).trans (if_neg ne)

/-- A call other than a delivery that is accepted writes the frame's record. It does the same, with
the same result, wherever the frame has the same record. -/
theorem Effect.anywhere {r : Reply} (effect : Effect s now c s' (.ok r))
    (names : c.subject? = some a) (other : c ≠ .deliver a) :
    ∃ slot, s' = s.withFrame a slot ∧ ∀ t : Scheduler n, t.frame? a = s.frame? a →
      (t.call now c).next = t.withFrame a slot ∧ (t.call now c).result = .ok r := by
  cases effect with
  | predicted _ _ _ => cases names
  | ingested => cases names
  | @woke id reported slot held stage =>
    obtain rfl := Option.some.inj names
    refine ⟨slot.woken reported, rfl, fun t same => ?_⟩
    simp [call, Step.map, wakeUp_eq (same.trans held) stage, Except.map]
  | @began id reported slot held stage =>
    obtain rfl := Option.some.inj names
    refine ⟨slot.started now, rfl, fun t same => ?_⟩
    simp [call, Step.map, begin_eq (same.trans held) stage, Except.map]
  | @discarded id slot held stage =>
    obtain rfl := Option.some.inj names
    refine ⟨(slot.stamped now).freed, rfl, fun t same => ?_⟩
    simp [call, Step.map, discard_eq (same.trans held) stage, Except.map]
  | delivered _ _ =>
    obtain rfl := Option.some.inj names
    exact absurd rfl other

/-- A delivery that is accepted writes the frame's record and the estimates. It does the same, with
the same result, wherever the frame has the same record and the estimates start from the same. -/
theorem Effect.delivery_anywhere {r : Reply} (effect : Effect s now (.deliver a) s' (.ok r)) :
    ∃ slot, s' = { s.withFrame a slot with latency := s'.latency } ∧
      ∀ t : Scheduler n, t.frame? a = s.frame? a → t.config = s.config → t.latency = s.latency →
        (t.call now (.deliver a)).next = { t.withFrame a slot with latency := s'.latency } ∧
        (t.call now (.deliver a)).result = .ok r := by
  cases effect with
  | @delivered id slot held stage =>
    refine ⟨(slot.stamped now).freed, rfl, fun t same config latency => ?_⟩
    have report : t.deliveryReport a (slot.stamped now) =
        s.deliveryReport a (slot.stamped now) := by
      simp only [deliveryReport, config, latency]
    simp [call, Step.map, deliver_eq (same.trans held) stage, Except.map, report]

/-! ### Two frames in flight -/

/-- Two frames in flight are in two slots. -/
theorem index_ne_of_held {x y : Slot} (heldA : s.frame? a = some x) (heldB : s.frame? b = some y)
    (ne : a ≠ b) : s.ring.index a ≠ s.ring.index b := by
  obtain ⟨rfl, holderA⟩ := slot_of_frame? heldA
  obtain ⟨rfl, holderB⟩ := slot_of_frame? heldB
  intro here
  have shared : s.ring.slot a = s.ring.slot b := congrArg s.ring.get here
  rw [shared] at holderA
  exact ne (Option.some.inj (holderA.symm.trans holderB))

/-- Their records may be written in either order. -/
theorem withFrame_comm {x y : Slot} (heldA : s.frame? a = some x) (heldB : s.frame? b = some y)
    (ne : a ≠ b) (x' y' : Slot) :
    (s.withFrame a x').withFrame b y' = (s.withFrame b y').withFrame a x' := by
  have rings := s.ring.put_comm (index_ne_of_held heldA heldB ne) x' y'
  simp only [withFrame, rings]

/-! ### Changing places -/

/-- What it means that a call which names a frame is refused. -/
theorem call_of_not_returns (names : c.subject? = some a) (refusal : ¬ (s.call now c).Returns) :
    (s.call now c).next = s ∧ (s.call now c).result.toOption = none := by
  have effect := call_effect s now c
  cases h : (s.call now c).result with
  | ok r => exact absurd ⟨r, h⟩ refusal
  | error f =>
    rw [h] at effect
    exact ⟨effect.unchanged names, rfl⟩

/-- A call that is refused is refused after a call on another frame as well. -/
theorem interchange_of_refused (names : c.subject? = some a) (names' : d.subject? = some b)
    (ne : a ≠ b) (refusal : ¬ (s.call now c).Returns) : Interchange s now c d := by
  have same : (s.call now d).next.frame? a = s.frame? a :=
    (call_effect s now d).frame?_of_ne names' ne
  have later : ¬ ((s.call now d).next.call now c).Returns := by
    rw [call_returns_iff _ now names, stage?, same]
    rwa [call_returns_iff s now names] at refusal
  obtain ⟨still, nothing⟩ := call_of_not_returns names refusal
  obtain ⟨still', nothing'⟩ := call_of_not_returns names later
  exact ⟨by rw [still, still'], by rw [nothing, nothing'], by rw [still]⟩

/-- Two calls that are accepted, the first of which is no delivery. -/
theorem interchange_of_accepted {r q : Reply} (names : c.subject? = some a)
    (names' : d.subject? = some b) (ne : a ≠ b) (other : c ≠ .deliver a)
    (accepted : (s.call now c).result = .ok r) (accepted' : (s.call now d).result = .ok q) :
    Interchange s now c d := by
  have effect := call_effect s now c
  have effect' := call_effect s now d
  have sameA : (s.call now d).next.frame? a = s.frame? a := effect'.frame?_of_ne names' ne
  have sameB : (s.call now c).next.frame? b = s.frame? b := effect.frame?_of_ne names ne.symm
  rw [accepted] at effect
  rw [accepted'] at effect'
  -- both frames are in flight
  obtain ⟨⟨stageA, -, standsA, -⟩, -⟩ := effect.moved names
  obtain ⟨⟨stageB, -, standsB, -⟩, -⟩ := effect'.moved names'
  obtain ⟨x, heldA, -⟩ := stage?_eq_some_iff.mp standsA
  obtain ⟨y, heldB, -⟩ := stage?_eq_some_iff.mp standsB
  obtain ⟨x', next, again⟩ := effect.anywhere names other
  obtain ⟨nextA, resultA⟩ := again _ sameA
  by_cases delivery : d = .deliver b
  · subst delivery
    obtain ⟨y', next', again'⟩ := effect'.delivery_anywhere
    obtain ⟨nextB, resultB⟩ := again' _ sameB (by rw [next]; rfl) (by rw [next]; rfl)
    refine ⟨?_, by rw [resultA, accepted], by rw [resultB, accepted']⟩
    have records := withFrame_comm heldA heldB ne x' y'
    rw [nextA, nextB, next, records, next']
    rfl
  · obtain ⟨y', next', again'⟩ := effect'.anywhere names' delivery
    obtain ⟨nextB, resultB⟩ := again' _ sameB
    refine ⟨?_, by rw [resultA, accepted], by rw [resultB, accepted']⟩
    rw [nextA, nextB, next, next']
    exact withFrame_comm heldA heldB ne x' y'

/-- **Calls on different frames**: in every scheduler and while the clock stands still, two marks,
drops or deliveries that name different ids, whether these are in flight or not, may change places,
unless both are deliveries. -/
theorem calls_on_different_frames_interchange (s : Scheduler n) (now : Instant) {c d : Call}
    {a b : FrameId} (names : c.subject? = some a) (names' : d.subject? = some b) (ne : a ≠ b)
    (one : c ≠ .deliver a ∨ d ≠ .deliver b) : Interchange s now c d := by
  cases hc : (s.call now c).result with
  | error f =>
    refine interchange_of_refused names names' ne ?_
    rintro ⟨r, accepted⟩
    cases hc.symm.trans accepted
  | ok r =>
    cases hd : (s.call now d).result with
    | error f =>
      refine (interchange_of_refused names' names ne.symm ?_).symm
      rintro ⟨q, accepted⟩
      cases hd.symm.trans accepted
    | ok q =>
      rcases one with other | other
      · exact interchange_of_accepted names names' ne other hc hd
      · exact (interchange_of_accepted names' names ne.symm other hd hc).symm

/-- At the end of the uneven run frame 4 may be delivered before or after frame 1 is dropped, and
before or after a drop of frame 2, which has left its slot to it. -/
theorem calls_on_different_frames_interchange_uneven :
    Interchange ((initial .conservative Nat.two_pos : Scheduler 2).run unevenRun) ⟨80000000⟩
        (.deliver ⟨4⟩) (.discard ⟨1⟩) ∧
      Interchange ((initial .conservative Nat.two_pos : Scheduler 2).run unevenRun) ⟨80000000⟩
        (.deliver ⟨4⟩) (.discard ⟨2⟩) :=
  ⟨calls_on_different_frames_interchange _ _ rfl rfl (by decide) (Or.inr (by decide)),
    calls_on_different_frames_interchange _ _ rfl rfl (by decide) (Or.inr (by decide))⟩

end Scheduler

end FramePacing
