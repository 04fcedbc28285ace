import FramePacing.Proofs.Scheduler.History
import Mathlib.Data.Set.Card

/-!
# The set of live frames

By a history, a frame is in flight if a prediction returned it and no call has completed it since
(`InFlight`). The slots implement that set (`ring_holds_live_frames`): a look-up finds a frame
exactly if it is in flight, each in its own slot, and the slots that are not ready are as many as
the frames in flight.

The invariant `Accounted` relates the look-ups to the history. Ids are never used twice because
each prediction takes one above the counter; a completed frame is not found any more, and stays so
because its id is not above the counter.
-/

namespace FramePacing

variable {n : Nat}

/-! ### Histories as accounts of frames -/

/-- The frame that a call completed. -/
def Entry.completed? (e : Entry n) : Option FrameId :=
  match e.call, e.result with
  | .discard id, .ok _ => some id
  | .deliver id, .ok _ => some id
  | _, _ => none

/-- The frame that a call issued. -/
def Entry.issued? (e : Entry n) : Option FrameId := e.prediction?.map Prediction.id

/-- The ids that were issued, in order. -/
def issued (h : List (Entry n)) : List FrameId := h.filterMap Entry.issued?

/-- The ids whose frames were completed, in order. -/
def completed (h : List (Entry n)) : List FrameId := h.filterMap Entry.completed?

/-- A prediction returned the frame, and no call has completed it since. -/
def InFlight (h : List (Entry n)) (id : FrameId) : Prop :=
  ∃ before e after, h = before ++ e :: after ∧ e.issued? = some id ∧
    ∀ e' ∈ after, e'.completed? ≠ some id

theorem not_inFlight_nil (id : FrameId) : ¬ InFlight ([] : List (Entry n)) id := by
  rintro ⟨before, e, after, eq, -⟩
  cases before <;> cases eq

/-- What one more call means for a frame. -/
theorem inFlight_concat {h : List (Entry n)} {e : Entry n} {id : FrameId} :
    InFlight (h ++ [e]) id ↔
      e.issued? = some id ∨ (InFlight h id ∧ e.completed? ≠ some id) := by
  constructor
  · rintro ⟨before, x, after, eq, issue, alive⟩
    -- the last call is the one that issued the frame, or comes after it
    rcases List.eq_nil_or_concat after with rfl | ⟨after, last, rfl⟩
    · obtain ⟨-, tail⟩ := List.append_inj' eq rfl
      obtain rfl := List.singleton_inj.mp tail
      exact Or.inl issue
    · rw [List.concat_eq_append, ← List.cons_append, ← List.append_assoc] at eq
      obtain ⟨rfl, tail⟩ := List.append_inj' eq rfl
      obtain rfl := List.singleton_inj.mp tail
      rw [List.concat_eq_append] at alive
      refine Or.inr ⟨⟨before, x, after, rfl, issue, fun e' he' => ?_⟩, ?_⟩
      · exact alive e' (List.mem_append_left _ he')
      · exact alive _ (List.mem_append_right _ (List.mem_singleton_self _))
  · rintro (issue | ⟨⟨before, x, after, rfl, issue, alive⟩, last⟩)
    · exact ⟨h, e, [], rfl, issue, fun e' he' => by cases he'⟩
    · refine ⟨before, x, after ++ [e], by simp, issue, fun e' he' => ?_⟩
      rcases List.mem_append.mp he' with old | new
      · exact alive e' old
      · obtain rfl := List.mem_singleton.mp new
        exact last

namespace Scheduler

/-! ### The number of frames in flight -/

/-- The ids in the slots. -/
def heldIds (s : Scheduler n) : List FrameId := s.ring.slots.toList.filterMap Slot.holder

theorem Consistent.mem_heldIds_iff {s : Scheduler n} (h : Consistent s) {id : FrameId} :
    id ∈ s.heldIds ↔ (s.frame? id).isSome := by
  unfold heldIds
  rw [List.mem_filterMap, Option.isSome_iff_exists]
  constructor
  · rintro ⟨slot, mem, holder⟩
    obtain ⟨i, lt, rfl⟩ := Vector.mem_iff_getElem.mp (Vector.mem_toList_iff.mp mem)
    exact ⟨_, h.frame?_of_holder (i := ⟨i, lt⟩) holder⟩
  · rintro ⟨slot, held⟩
    obtain ⟨rfl, holder⟩ := slot_of_frame? held
    exact ⟨_, Vector.mem_toList_iff.mpr (Vector.getElem_mem _), holder⟩

theorem Consistent.nodup_heldIds {s : Scheduler n} (h : Consistent s) : s.heldIds.Nodup := by
  unfold heldIds List.Nodup
  rw [List.pairwise_filterMap, List.pairwise_iff_getElem]
  intro i j hi hj lt a ha b hb
  rw [Vector.getElem_toList] at ha hb
  rintro rfl
  -- one frame in two slots would be at home in both
  rw [Vector.length_toList] at hi hj
  have home := (h.home ⟨i, hi⟩ a ha).symm.trans (h.home ⟨j, hj⟩ a hb)
  exact Nat.ne_of_lt lt (congrArg Fin.val home)

theorem Consistent.length_heldIds {s : Scheduler n} (h : Consistent s) :
    s.heldIds.length = s.liveCount := by
  unfold heldIds liveCount Ring.liveCount
  rw [List.length_filterMap_eq_countP]
  refine List.countP_congr fun slot mem => ?_
  obtain ⟨i, lt, rfl⟩ := Vector.mem_iff_getElem.mp (Vector.mem_toList_iff.mp mem)
  have free := h.holder_eq_none_iff ⟨i, lt⟩
  rw [bne_iff_ne, Option.isSome_iff_ne_none]
  exact not_congr free

theorem liveCount_le (s : Scheduler n) : s.liveCount ≤ n := by
  unfold liveCount Ring.liveCount
  exact List.countP_le_length.trans_eq Vector.length_toList

/-- The slots that are not ready are as many as the frames that are found. -/
theorem Consistent.encard_live {s : Scheduler n} (h : Consistent s) :
    {id | (s.frame? id).isSome}.encard = s.liveCount := by
  have ids : {id | (s.frame? id).isSome} = (s.heldIds.toFinset : Set FrameId) := by
    ext id
    rw [Set.mem_ofPred_eq, Finset.mem_coe, List.mem_toFinset, h.mem_heldIds_iff]
  rw [ids, Set.encard_coe_eq_coe_finsetCard, List.toFinset_card_of_nodup h.nodup_heldIds,
    h.length_heldIds]

/-! ### Look-ups and the history -/

/-- What the look-ups, the counter and the history have to do with each other. -/
structure Accounted (s : Scheduler n) (h : List (Entry n)) : Prop where
  /-- A look-up finds the frames in flight. -/
  isSome_frame?_iff : ∀ id, (s.frame? id).isSome ↔ InFlight h id
  /-- Issued ids have been counted. -/
  issued_le : ∀ id ∈ issued h, id.toInt ≤ s.counter.toInt
  /-- They grow. -/
  issued_increasing : (issued h).Pairwise fun a b => a.toInt < b.toInt
  /-- Completed ids have been counted, and their frames are gone. -/
  completed_gone : ∀ id ∈ completed h, id.toInt ≤ s.counter.toInt ∧ s.frame? id = none
  /-- No frame is completed twice. -/
  completed_nodup : (completed h).Nodup

theorem accounted_initial (c : Config) (pos : 0 < n) : Accounted (initial c pos) [] := by
  refine ⟨fun id => ?_, ?_, .nil, ?_, .nil⟩
  · rw [frame?_initial]
    exact ⟨fun e => (by cases e), fun e => absurd e (not_inFlight_nil id)⟩
  · intro id hid
    cases hid
  · intro id hid
    cases hid

/-- A call that neither issues nor completes a frame. -/
theorem Accounted.of_neither {s s' : Scheduler n} {h : List (Entry n)} {e : Entry n}
    (accounted : Accounted s h) (issue : e.issued? = none) (completion : e.completed? = none)
    (counter : s.counter.toInt ≤ s'.counter.toInt)
    (frames : ∀ id, (s'.frame? id).isSome = (s.frame? id).isSome) :
    Accounted s' (h ++ [e]) := by
  have same : issued (h ++ [e]) = issued h := by simp [issued, issue]
  have same' : completed (h ++ [e]) = completed h := by simp [completed, completion]
  refine ⟨?_, ?_, ?_, ?_, ?_⟩
  · intro id
    rw [frames, inFlight_concat, issue, completion, accounted.isSome_frame?_iff]
    simp
  · rw [same]
    exact fun id hid => Int.le_trans (accounted.issued_le id hid) counter
  · rw [same]
    exact accounted.issued_increasing
  · rw [same']
    intro id hid
    obtain ⟨le, gone⟩ := accounted.completed_gone id hid
    refine ⟨Int.le_trans le counter, Option.not_isSome_iff_eq_none.mp ?_⟩
    rw [frames, gone]
    exact Bool.false_ne_true
  · rw [same']
    exact accounted.completed_nodup

/-- A prediction issues an id above the counter. -/
theorem Accounted.predicted {s : Scheduler n} {h : List (Entry n)} {now : Instant} {id : FrameId}
    {b : Booking} (accounted : Accounted s h) (next : s.counter.next? = some id)
    (free : (s.ring.slot id).isFree) :
    Accounted (s.afterPredict id b now)
      (h ++ [⟨s, now, .predict, .ok (.predicted (b.prediction id))⟩]) := by
  have count := FrameId.toInt_of_next? next
  have counter : (s.afterPredict id b now).counter.toInt = s.counter.toInt + 1 := count
  have same : completed (h ++ [⟨s, now, .predict, .ok (.predicted (b.prediction id))⟩]) =
      completed h := by simp [completed, Entry.completed?]
  have list : issued (h ++ [⟨s, now, .predict, .ok (.predicted (b.prediction id))⟩]) =
      issued h ++ [id] := List.filterMap_append
  refine ⟨?_, ?_, ?_, ?_, ?_⟩
  · intro a
    rw [frame?_afterPredict free, inFlight_concat, ← accounted.isSome_frame?_iff]
    by_cases here : a = id
    · subst here
      rw [if_pos rfl]
      exact ⟨fun _ => Or.inl rfl, fun _ => rfl⟩
    · rw [if_neg here]
      refine ⟨fun found => Or.inr ⟨found, fun e => by cases e⟩, ?_⟩
      rintro (issue | ⟨found, -⟩)
      · exact absurd (Option.some.inj issue).symm here
      · exact found
  · rw [list, counter]
    intro a ha
    rcases List.mem_append.mp ha with old | new
    · have := accounted.issued_le a old
      omega
    · obtain rfl := List.mem_singleton.mp new
      omega
  · rw [list, List.pairwise_append]
    refine ⟨accounted.issued_increasing, List.pairwise_singleton _ _, ?_⟩
    intro a ha a' ha'
    obtain rfl := List.mem_singleton.mp ha'
    have := accounted.issued_le a ha
    omega
  · rw [same, counter]
    intro a ha
    obtain ⟨le, gone⟩ := accounted.completed_gone a ha
    refine ⟨by omega, ?_⟩
    rw [frame?_afterPredict free, if_neg, gone]
    rintro rfl
    omega
  · rw [same]
    exact accounted.completed_nodup

/-- A completed frame was in flight, and is gone afterwards. -/
theorem Accounted.completes {s s' : Scheduler n} {h : List (Entry n)} {e : Entry n} {id : FrameId}
    {slot : Slot} (accounted : Accounted s h) (consistent : Consistent s)
    (held : s.frame? id = some slot) (issue : e.issued? = none)
    (completion : e.completed? = some id) (counter : s'.counter = s.counter)
    (frames : ∀ a, s'.frame? a = if a = id then none else s.frame? a) :
    Accounted s' (h ++ [e]) := by
  have same : issued (h ++ [e]) = issued h := by simp [issued, issue]
  have list : completed (h ++ [e]) = completed h ++ [id] := by simp [completed, completion]
  refine ⟨?_, ?_, ?_, ?_, ?_⟩
  · intro a
    rw [frames, inFlight_concat, issue, completion, ← accounted.isSome_frame?_iff]
    by_cases here : a = id
    · subst here
      simp
    · simp [here, Ne.symm here]
  · rw [same, counter]
    exact accounted.issued_le
  · rw [same]
    exact accounted.issued_increasing
  · rw [list, counter]
    intro a ha
    rcases List.mem_append.mp ha with old | new
    · obtain ⟨le, gone⟩ := accounted.completed_gone a old
      exact ⟨le, by rw [frames, gone, ite_self]⟩
    · obtain rfl := List.mem_singleton.mp new
      exact ⟨(consistent.counted_of_frame? held).2, by rw [frames, if_pos rfl]⟩
  · rw [list, List.nodup_append]
    refine ⟨accounted.completed_nodup, List.nodup_singleton _, ?_⟩
    rintro a ha b hb rfl
    obtain rfl := List.mem_singleton.mp hb
    cases held.symm.trans (accounted.completed_gone a ha).2

/-- Every call keeps the account. -/
theorem Accounted.call {s s' : Scheduler n} {h : List (Entry n)} {now : Instant} {c : Call}
    {r : Except Fault Reply} (consistent : Consistent s) (accounted : Accounted s h)
    (effect : Effect s now c s' r) : Accounted s' (h ++ [⟨s, now, c, r⟩]) := by
  have up := effect.counter_le
  have kept {id : FrameId} {old slot : Slot} (held : s.frame? id = some old)
      (holder : slot.holder = old.holder) (a : FrameId) :
      ((s.withFrame id slot).frame? a).isSome = (s.frame? a).isSome := by
    rw [frame?_withFrame held holder]
    split
    · rename_i e
      rw [e, held]
      rfl
    · rfl
  cases effect with
  | predicted next plan free => exact accounted.predicted next free
  | unbooked _ _ => exact accounted.of_neither rfl rfl up fun _ => rfl
  | exhausted _ => exact accounted.of_neither rfl rfl up fun _ => rfl
  | woke held _ => exact accounted.of_neither rfl rfl up (kept held rfl)
  | began held _ => exact accounted.of_neither rfl rfl up (kept held rfl)
  | discarded held _ => exact accounted.completes consistent held rfl rfl rfl (frame?_freed held _)
  | delivered held _ => exact accounted.completes consistent held rfl rfl rfl (frame?_freed held _)
  | ingested => exact accounted.of_neither rfl rfl up fun _ => rfl
  | @refused c f not =>
    have refusal : (⟨s, now, c, .error f⟩ : Entry n).completed? = none := by cases c <;> rfl
    exact accounted.of_neither rfl refusal up fun _ => rfl

theorem accounted_run {c : Config} {s₀ : Scheduler n} (created : create n c = .ok s₀)
    (calls : List (Instant × Call)) : Accounted (s₀.run calls) (s₀.history calls) :=
  run_induction created (accounted_initial c) Accounted.call calls

/-- **The ring as a set of frames**: at every moment of a run, a look-up finds exactly the frames
that were issued and not completed since. A slot is ready exactly if it holds no frame, and holds
else a counted frame that belongs there. Ids grow, no frame is completed twice, and the slots that
are not ready are as many as the frames in flight, `n` at most. -/
theorem ring_holds_live_frames {c : Config} {s₀ : Scheduler n} (created : create n c = .ok s₀)
    (calls : List (Instant × Call)) :
    (∀ id, ((s₀.run calls).frame? id).isSome ↔ InFlight (s₀.history calls) id) ∧
    (∀ i : Fin n, ((s₀.run calls).ring.get i).holder = none ↔
      ((s₀.run calls).ring.get i).stage = .ready) ∧
    (∀ i : Fin n, ((s₀.run calls).ring.get i).stage ≠ .ready →
      ∃ id, ((s₀.run calls).ring.get i).holder = some id ∧ 1 ≤ id.toInt ∧
        id.toInt ≤ (s₀.run calls).counter.toInt ∧ id.toInt % n = i) ∧
    ((issued (s₀.history calls)).Pairwise fun a b => a.toInt < b.toInt) ∧
    (completed (s₀.history calls)).Nodup ∧
    {id | InFlight (s₀.history calls) id}.encard = (s₀.run calls).liveCount ∧
    (s₀.run calls).liveCount ≤ n := by
  have consistent := consistent_run created calls
  have accounted := accounted_run created calls
  refine ⟨accounted.isSome_frame?_iff, consistent.holder_eq_none_iff, ?_,
    accounted.issued_increasing, accounted.completed_nodup, ?_, liveCount_le _⟩
  · intro i busy
    obtain ⟨id, holder⟩ :=
      Option.ne_none_iff_exists'.mp (mt (consistent.holder_eq_none_iff i).mp busy)
    obtain ⟨pos, le⟩ := consistent.counted i id holder
    have home : id.slotIn n = i := congrArg Fin.val (consistent.home i id holder)
    refine ⟨id, holder, pos, le, ?_⟩
    rw [← FrameId.slotIn_of_nonneg (Int.le_of_lt pos), home]
  · have live : {id | InFlight (s₀.history calls) id} =
        {id | ((s₀.run calls).frame? id).isSome} := by
      ext id
      exact (accounted.isSome_frame?_iff id).symm
    rw [live]
    exact consistent.encard_live

theorem ring_holds_live_frames_uneven :
    InFlight unevenHistory ⟨4⟩ ∧
      ¬ InFlight unevenHistory ⟨2⟩ ∧
      {id | InFlight unevenHistory id}.encard = 2 := by
  obtain ⟨live, -, -, -, -, count, -⟩ :=
    ring_holds_live_frames (create_conservative Nat.two_pos) unevenRun
  exact ⟨(live _).mp rfl, mt (live _).mpr Bool.false_ne_true, count⟩

end Scheduler

end FramePacing
