import FramePacing.Proofs.Overflow
import FramePacing.Proofs.Scheduler.LiveFrames

/-!
# When a prediction finds its slot taken

Slots are not searched for a free one: the next frame has to go where its id says. In a run in which
no call was refused, that slot is taken exactly if the frame `n` ids before the next one is still in
flight (`blocked_iff_frame_n_before_in_flight`). So a full ring always blocks the next prediction,
but a ring with room may block it too, when a frame was completed before an older one
(`blocked_with_room`). As long as frames are completed oldest first, the frames in flight are the
latest ones without a gap, and a prediction is blocked exactly if the ring is full.

Two invariants carry this: the frames in flight are among the last `n` (`Recent`), and, for frames
completed oldest first, no frame is missing after the first (`Unbroken`). Both speak of the history
only, and what one more call does to the frames in flight is `inFlight_concat`.
-/

namespace FramePacing

variable {n : Nat}

/-- No call was refused. -/
def Unrefused (h : List (Entry n)) : Prop := ∀ e ∈ h, e.result.isOk

theorem Unrefused.of_concat {h : List (Entry n)} {e : Entry n} (unrefused : Unrefused (h ++ [e])) :
    Unrefused h ∧ ∃ r, e.result = .ok r := by
  refine ⟨fun e' he' => unrefused e' (List.mem_append_left _ he'), ?_⟩
  have last := unrefused e (List.mem_append_right _ (List.mem_singleton_self e))
  cases hr : e.result with
  | ok r => exact ⟨r, rfl⟩
  | error f =>
    rw [hr] at last
    cases last

/-- No frame was completed while an older one was in flight. -/
def OldestFirst (h : List (Entry n)) : Prop :=
  ∀ e ∈ h, ∀ id older : FrameId, e.completed? = some id → older.toInt < id.toInt →
    e.before.frame? older = none

/-- Frames share a slot if their ids are equal modulo the number of slots. -/
theorem Ring.index_eq_iff (r : Ring n) {a b : FrameId} (ha : 0 ≤ a.toInt) (hb : 0 ≤ b.toInt) :
    r.index a = r.index b ↔ a.toInt % n = b.toInt % n := by
  rw [← FrameId.slotIn_of_nonneg ha, ← FrameId.slotIn_of_nonneg hb, Fin.ext_iff, Nat.cast_inj]
  rfl

/-- The remainder of an id is the position of its slot. -/
theorem Ring.index_eq_of_emod (r : Ring n) {id : FrameId} (nonneg : 0 ≤ id.toInt) {i : Fin n}
    (home : id.toInt % n = i) : r.index id = i := by
  have position : ((r.index id : Nat) : Int) = id.toInt % n := FrameId.slotIn_of_nonneg nonneg n
  exact Fin.ext (by exact_mod_cast position.trans home)

/-- Every number up to that of an id is the number of an id. -/
theorem FrameId.exists_toInt_eq (id : FrameId) {x : Int} (nonneg : 0 ≤ x) (le : x ≤ id.toInt) :
    ∃ a : FrameId, a.toInt = x := by
  have := id.value.toInt_lt
  unfold FrameId.toInt at le
  exact ⟨⟨.ofInt x⟩, Int64.toInt_ofInt_of_le (by omega) (by omega)⟩

namespace Scheduler

/-! ### The frames in flight of an unrefused run -/

/-- The frames in flight are among the last `n` that were predicted. -/
def Recent (s : Scheduler n) (h : List (Entry n)) : Prop :=
  ∀ id, InFlight h id → s.counter.toInt < id.toInt + n

/-- With a frame in flight all later ones are. -/
def Unbroken (s : Scheduler n) (h : List (Entry n)) : Prop :=
  ∀ a b : FrameId, InFlight h a → a.toInt ≤ b.toInt → b.toInt ≤ s.counter.toInt → InFlight h b

/-- A call that is not refused either issues the next id, whose slot is free, or leaves the counter
where it is. -/
theorem Effect.issues {s s' : Scheduler n} {now : Instant} {c : Call} {r : Reply}
    (effect : Effect s now c s' (.ok r)) :
    (∃ id, (⟨s, now, c, .ok r⟩ : Entry n).issued? = some id ∧
      (⟨s, now, c, .ok r⟩ : Entry n).completed? = none ∧ s'.counter = id ∧
      id.toInt = s.counter.toInt + 1 ∧ (s.ring.slot id).isFree) ∨
    ((⟨s, now, c, .ok r⟩ : Entry n).issued? = none ∧ s'.counter = s.counter) := by
  cases effect with
  | @predicted id _ next _ free =>
    exact Or.inl ⟨id, rfl, rfl, rfl, FrameId.toInt_of_next? next, free⟩
  | _ => exact Or.inr ⟨rfl, rfl⟩

theorem Accounted.exists_frame? {s : Scheduler n} {h : List (Entry n)} {id : FrameId}
    (accounted : Accounted s h) (alive : InFlight h id) : ∃ slot, s.frame? id = some slot :=
  Option.isSome_iff_exists.mp ((accounted.isSome_frame?_iff id).mpr alive)

/-- A taken slot holds a frame in flight whose id is the same modulo the number of slots. -/
theorem Consistent.exists_of_taken {s : Scheduler n} {h : List (Entry n)} {id : FrameId}
    (consistent : Consistent s) (accounted : Accounted s h) (nonneg : 0 ≤ id.toInt)
    (taken : ¬ (s.ring.slot id).isFree) :
    ∃ old, InFlight h old ∧ old.toInt ≤ s.counter.toInt ∧ old.toInt % n = id.toInt % n := by
  have free := consistent.holder_eq_none_iff (s.ring.index id)
  cases holder : (s.ring.slot id).holder with
  | none =>
    have ready : (s.ring.slot id).stage = .ready := free.mp holder
    simp [Slot.isFree, holder, ready] at taken
  | some old =>
    have held := consistent.frame?_of_holder (i := s.ring.index id) holder
    have counted := consistent.counted_of_frame? held
    have alive := (accounted.isSome_frame?_iff old).mp (Option.isSome_of_eq_some held)
    refine ⟨old, alive, counted.2, ?_⟩
    exact (s.ring.index_eq_iff (by omega) nonneg).mp (consistent.home _ old holder)

/-- A frame in flight takes the slot of every id that is the same modulo the number of slots. -/
theorem Accounted.taken {s : Scheduler n} {h : List (Entry n)} {id old : FrameId}
    (consistent : Consistent s) (accounted : Accounted s h) (nonneg : 0 ≤ id.toInt)
    (alive : InFlight h old) (same : old.toInt % n = id.toInt % n) :
    ¬ (s.ring.slot id).isFree := by
  obtain ⟨slot, held⟩ := accounted.exists_frame? alive
  have counted := consistent.counted_of_frame? held
  have here : s.ring.slot id = slot := by
    rw [← (slot_of_frame? held).1]
    exact congrArg s.ring.get ((s.ring.index_eq_iff (by omega) nonneg).mpr same).symm
  intro free
  rw [here] at free
  cases (holder_of_isFree free).symm.trans (slot_of_frame? held).2

/-- Every call that is not refused keeps the frames in flight recent. -/
theorem Recent.call {s s' : Scheduler n} {h : List (Entry n)} {now : Instant} {c : Call} {r : Reply}
    (consistent : Consistent s) (accounted : Accounted s h) (recent : Recent s h)
    (effect : Effect s now c s' (.ok r)) : Recent s' (h ++ [⟨s, now, c, .ok r⟩]) := by
  have pos : (0 : Int) < n := Int.natCast_pos.mpr s.ring.nonempty
  intro a alive
  rcases effect.issues with ⟨id, issue, -, counter, count, free⟩ | ⟨issue, counter⟩
  · rw [inFlight_concat, issue] at alive
    rw [counter]
    rcases alive with new | ⟨old, -⟩
    · obtain rfl := Option.some.inj new
      omega
    · have := recent a old
      have nonneg := consistent.counter_nonneg
      by_contra late
      -- the frame `n` ids before the new one would be in its slot
      have same : a.toInt + n = id.toInt := by omega
      refine accounted.taken consistent (by omega) old ?_ free
      rw [← same, Int.add_emod_right]
  · rw [inFlight_concat, issue] at alive
    rw [counter]
    rcases alive with new | ⟨old, -⟩
    · cases new
    · exact recent a old

/-- A call that is not refused, and completes no frame before an older one, leaves no gap. -/
theorem Unbroken.call {s s' : Scheduler n} {h : List (Entry n)} {now : Instant} {c : Call}
    {r : Reply} (accounted : Accounted s h) (unbroken : Unbroken s h)
    (oldest : ∀ id older : FrameId, (⟨s, now, c, .ok r⟩ : Entry n).completed? = some id →
      older.toInt < id.toInt → s.frame? older = none)
    (effect : Effect s now c s' (.ok r)) : Unbroken s' (h ++ [⟨s, now, c, .ok r⟩]) := by
  intro a b alive le last
  rw [inFlight_concat] at alive ⊢
  rcases effect.issues with ⟨id, issue, completion, counter, count, -⟩ | ⟨issue, counter⟩
  · rw [issue, completion] at alive ⊢
    rw [counter] at last
    by_cases new : b = id
    · exact Or.inl (congrArg some new.symm)
    · have before : b.toInt ≠ id.toInt := mt FrameId.toInt_inj.mp new
      rcases alive with here | ⟨old, -⟩
      · obtain rfl := Option.some.inj here
        omega
      · exact Or.inr ⟨unbroken a b old le (by omega), by simp⟩
  · rw [issue] at alive ⊢
    rw [counter] at last
    rcases alive with new | ⟨old, stays⟩
    · cases new
    · refine Or.inr ⟨unbroken a b old le last, fun completion => ?_⟩
      -- a frame that is completed has no older one in flight
      have gone : a = b ∨ s.frame? a = none := by
        rcases Int.lt_or_eq_of_le le with lt | eq
        · exact Or.inr (oldest b a completion lt)
        · exact Or.inl (FrameId.toInt_inj.mp eq)
      rcases gone with rfl | gone
      · exact stays completion
      · obtain ⟨slot, held⟩ := accounted.exists_frame? old
        cases held.symm.trans gone

/-- What holds of a new scheduler, and is kept by every call that is not refused, holds after every
run without a refusal. -/
theorem unrefused_run_induction {c : Config} {s₀ : Scheduler n} (created : create n c = .ok s₀)
    {P : Scheduler n → List (Entry n) → Prop} (start : ∀ s, P s [])
    (step : ∀ {s h now c s' r}, Consistent s → Accounted s h → P s h → Effect s now c s' (.ok r) →
      P s' (h ++ [⟨s, now, c, .ok r⟩]))
    (calls : List (Instant × Call)) (unrefused : Unrefused (s₀.history calls)) :
    P (s₀.run calls) (s₀.history calls) := by
  have both := run_induction (P := fun s h => Accounted s h ∧ (Unrefused h → P s h)) created
    (fun pos => ⟨accounted_initial c pos, fun _ => start _⟩) ?_ calls
  · exact both.2 unrefused
  intro s h now call s' r consistent ⟨accounted, holds⟩ effect
  refine ⟨accounted.call consistent effect, fun unrefused => ?_⟩
  obtain ⟨before, reply, rfl⟩ := unrefused.of_concat
  exact step consistent accounted (holds before) effect

theorem recent_run {c : Config} {s₀ : Scheduler n} (created : create n c = .ok s₀)
    (calls : List (Instant × Call)) (unrefused : Unrefused (s₀.history calls)) :
    Recent (s₀.run calls) (s₀.history calls) :=
  unrefused_run_induction created (fun _ id alive => absurd alive (not_inFlight_nil id))
    (fun consistent accounted recent effect => recent.call consistent accounted effect) calls
    unrefused

theorem unbroken_run {c : Config} {s₀ : Scheduler n} (created : create n c = .ok s₀)
    (calls : List (Instant × Call)) (unrefused : Unrefused (s₀.history calls)) :
    OldestFirst (s₀.history calls) → Unbroken (s₀.run calls) (s₀.history calls) := by
  refine unrefused_run_induction (P := fun s h => OldestFirst h → Unbroken s h) created
    (fun _ _ a _ alive => absurd alive (not_inFlight_nil a)) ?_ calls unrefused
  intro s h now call s' r _ accounted unbroken effect oldest
  have earlier : OldestFirst h := fun e he => oldest e (List.mem_append_left _ he)
  have last := oldest _ (List.mem_append_right _ (List.mem_singleton_self _))
  exact (unbroken earlier).call accounted last effect

/-- The slot of the next frame is taken by the frame `n` ids before it, if by any. -/
theorem taken_iff {s : Scheduler n} {h : List (Entry n)} {id : FrameId}
    (consistent : Consistent s) (accounted : Accounted s h) (recent : Recent s h)
    (next : id.toInt = s.counter.toInt + 1) :
    ¬ (s.ring.slot id).isFree ↔ ∃ old : FrameId, old.toInt + n = id.toInt ∧ InFlight h old := by
  have nonneg := consistent.counter_nonneg
  constructor
  · intro taken
    obtain ⟨old, alive, counted, same⟩ := consistent.exists_of_taken accounted (by omega) taken
    have lower := recent old alive
    -- two ids in one slot that are `n` apart at most are `n` apart
    have multiple : (n : Int) ∣ id.toInt - old.toInt :=
      Int.dvd_of_emod_eq_zero (Int.emod_eq_emod_iff_emod_sub_eq_zero.mp same.symm)
    have apart := Int.le_of_dvd (by omega) multiple
    exact ⟨old, by omega, alive⟩
  · rintro ⟨old, apart, alive⟩
    refine accounted.taken consistent (by omega) alive ?_
    rw [← apart, Int.add_emod_right]

/-! ### Blocked predictions -/

/-- A prediction made now is refused because the slot of the new frame is taken. -/
def Blocked (s : Scheduler n) (now : Instant) : Prop :=
  ∃ id holder stage, (s.predict now).result = .error (.slotTaken id holder stage)

theorem blocked_iff_taken {s : Scheduler n} {now : Instant} {id : FrameId} {b : Booking}
    (next : s.counter.next? = some id) (plan : s.plan now = .ok b) :
    s.Blocked now ↔ ¬ (s.ring.slot id).isFree := by
  constructor
  · rintro ⟨id', holder, stage, refused⟩ free
    cases refused.symm.trans (predict_result_of_plan next plan free)
  · intro taken
    have book : s.book id now =
        .error (.slotTaken id (s.ring.slot id).holder (s.ring.slot id).stage) := by
      refine bind_eq_error_iff.mpr (Or.inr ⟨b, plan, bind_eq_error_iff.mpr (Or.inl ?_)⟩)
      simp [Slot.reserve, taken]
    refine ⟨id, (s.ring.slot id).holder, (s.ring.slot id).stage, ?_⟩
    simp [predict, next, book]

/-- All slots are busy exactly if the ring holds `n` frames. -/
theorem liveCount_eq_iff {s : Scheduler n} :
    s.liveCount = n ↔ ∀ i : Fin n, (s.ring.get i).stage ≠ .ready := by
  have length : s.ring.slots.toList.length = n := Vector.length_toList
  unfold liveCount Ring.liveCount
  conv_lhs => rhs; rw [← length]
  rw [List.countP_eq_length]
  constructor
  · intro all i
    exact bne_iff_ne.mp (all _ (Vector.mem_toList_iff.mpr (Vector.getElem_mem i.isLt)))
  · intro all slot mem
    obtain ⟨i, lt, rfl⟩ := Vector.mem_iff_getElem.mp (Vector.mem_toList_iff.mp mem)
    exact bne_iff_ne.mpr (all ⟨i, lt⟩)

/-- If all of the last `n` frames are in flight, all slots are busy. -/
theorem liveCount_eq_of_all_recent {s : Scheduler n} {h : List (Entry n)}
    (consistent : Consistent s) (accounted : Accounted s h) (full : (n : Int) ≤ s.counter.toInt)
    (alive : ∀ id : FrameId, s.counter.toInt < id.toInt + n → id.toInt ≤ s.counter.toInt →
      InFlight h id) : s.liveCount = n := by
  have pos : (0 : Int) < n := Int.natCast_pos.mpr s.ring.nonempty
  rw [liveCount_eq_iff]
  intro i
  -- the latest id that belongs into slot `i`
  have low := Int.emod_nonneg (s.counter.toInt - i) (Int.ne_of_gt pos)
  have high := Int.emod_lt_of_pos (s.counter.toInt - i) pos
  obtain ⟨id, hid⟩ := FrameId.exists_toInt_eq s.counter
    (x := s.counter.toInt - (s.counter.toInt - i) % n) (by omega) (by omega)
  have residue : id.toInt % n = i := by
    rw [hid, Int.sub_emod, Int.emod_emod, ← Int.sub_emod, sub_sub_cancel]
    exact Int.emod_eq_of_lt (by omega) (by exact_mod_cast i.isLt)
  have home : s.ring.index id = i := s.ring.index_eq_of_emod (by omega) residue
  obtain ⟨slot, held⟩ := accounted.exists_frame? (alive id (by omega) (by omega))
  obtain ⟨rfl, holder⟩ := slot_of_frame? held
  have busy := mt (consistent.holder_eq_none_iff (s.ring.index id)).mpr
  rw [← home]
  exact busy (fun none => by cases none.symm.trans holder)

/-- **Blocked predictions**: in a run in which no call was refused, and as long as an id is left and
the plan does not overflow, a prediction finds its slot taken exactly if the frame `n` ids before
the new one is in flight. A full ring is always such a case. The converse holds if the frames were
completed oldest first. -/
theorem blocked_iff_frame_n_before_in_flight {c : Config} {s₀ : Scheduler n}
    (created : create n c = .ok s₀) (calls : List (Instant × Call))
    (unrefused : Unrefused (s₀.history calls)) (now : Instant) (id : FrameId)
    (next : id.toInt = (s₀.run calls).counter.toInt + 1) (fits : ¬ (s₀.run calls).Overflows now) :
    ((s₀.run calls).Blocked now ↔
      ∃ old : FrameId, old.toInt + n = id.toInt ∧ InFlight (s₀.history calls) old) ∧
    ((s₀.run calls).liveCount = n → (s₀.run calls).Blocked now) ∧
    (OldestFirst (s₀.history calls) →
      ((s₀.run calls).Blocked now ↔ (s₀.run calls).liveCount = n)) := by
  have consistent := consistent_run created calls
  have accounted := accounted_run created calls
  have recent := recent_run created calls unrefused
  obtain ⟨b, plan⟩ := exists_plan created calls fits
  have taken := blocked_iff_taken (FrameId.next?_eq_some_iff.mpr next) plan
  have before := taken.trans (taken_iff consistent accounted recent next)
  have full : (s₀.run calls).liveCount = n → (s₀.run calls).Blocked now := by
    intro full
    rw [taken]
    intro free
    refine liveCount_eq_iff.mp full ((s₀.run calls).ring.index id) ?_
    exact (consistent.holder_eq_none_iff _).mp (holder_of_isFree free)
  refine ⟨before, full, fun oldest => ⟨fun blocked => ?_, full⟩⟩
  obtain ⟨old, apart, alive⟩ := before.mp blocked
  have unbroken := unbroken_run created calls unrefused oldest
  have positive : 0 < old.toInt := by
    obtain ⟨slot, held⟩ := accounted.exists_frame? alive
    exact (consistent.counted_of_frame? held).1
  refine liveCount_eq_of_all_recent consistent accounted (by omega) fun a lower upper => ?_
  exact unbroken old a alive (by omega) upper

/-- Two frames are predicted, and the second is dropped before the first. -/
def outOfOrderRun : List (Instant × Call) :=
  [(.zero, .predict), (.zero, .predict), (.zero, .mark ⟨2⟩ .wakeUp .zero), (.zero, .discard ⟨2⟩)]

theorem unrefused_outOfOrderRun :
    Unrefused ((initial .conservative Nat.two_pos : Scheduler 2).history outOfOrderRun) :=
  List.all_eq_true.mp rfl

/-- It is not so that predictions are blocked by a full ring only: the first of two frames is in
flight alone, and its slot is the next one. -/
theorem blocked_with_room :
    ¬ ∀ (n : Nat) (c : Config) (s₀ : Scheduler n), create n c = .ok s₀ →
      ∀ calls : List (Instant × Call), Unrefused (s₀.history calls) → ∀ now : Instant,
        ((s₀.run calls).Blocked now ↔ (s₀.run calls).liveCount = n) := by
  intro all
  have blocked : ((initial .conservative Nat.two_pos : Scheduler 2).run outOfOrderRun).Blocked
      .zero := ⟨⟨3⟩, some ⟨1⟩, .predicted, rfl⟩
  have full := (all 2 .conservative _ (create_conservative Nat.two_pos) outOfOrderRun
    unrefused_outOfOrderRun .zero).mp blocked
  have one : ((initial .conservative Nat.two_pos : Scheduler 2).run outOfOrderRun).liveCount = 1 :=
    rfl
  omega

/-- There, the first of the two frames is the one in the way. -/
theorem blocked_by_first_of_two_frames :
    ∃ old : FrameId, old.toInt + (2 : Nat) = 3 ∧
      InFlight ((initial .conservative Nat.two_pos : Scheduler 2).history outOfOrderRun) old := by
  refine (blocked_iff_frame_n_before_in_flight (create_conservative Nat.two_pos) outOfOrderRun
    unrefused_outOfOrderRun .zero ⟨3⟩ rfl fun beyond => ?_).1.mp ⟨⟨3⟩, some ⟨1⟩, .predicted, rfl⟩
  cases beyond.base

end Scheduler

end FramePacing
