import FramePacing.Proofs.Scheduler.Occupancy

/-!
# What a refused prediction costs

A prediction counts the new frame before anything else. If it is refused, because the slot is taken
or the plan overflows, the id stays used up; the ring, the estimates, the display's report and the
latest display time are what they were (`CostsOneId`). The only other thing that can have changed is
that the scheduler has now said that it falls back on the configured period.

So refusals for a taken slot do not go on while there is room. Each refused prediction moves on to
the next slot, and of `n` ids in a row one belongs into a slot that is ready, unless an earlier one
of them was accepted (`refused_prediction_costs_one_id`). Whatever other calls are made meanwhile, no
ready slot is lost to them (`Effect.ready`).
-/

namespace FramePacing

theorem FrameId.next?_eq_none_iff {id : FrameId} :
    id.next? = none ↔ id.value = Int64.maxValue := by
  simp [next?]

theorem FrameId.ne_max_of_next? {id next : FrameId} (h : id.next? = some next) :
    id.value ≠ Int64.maxValue := by
  intro last
  cases h.symm.trans (next?_eq_none_iff.mpr last)

/-- Of `n` numbers in a row, one has a given remainder modulo `n`. -/
theorem exists_emod_eq {n : Nat} (i : Fin n) (start : Int) :
    ∃ x, start < x ∧ x ≤ start + n ∧ x % n = i := by
  have pos : (0 : Int) < n := Int.natCast_pos.mpr (Nat.zero_lt_of_lt i.isLt)
  have low := Int.emod_nonneg (i - (start + 1)) (Int.ne_of_gt pos)
  have high := Int.emod_lt_of_pos (i - (start + 1)) pos
  refine ⟨start + 1 + (i - (start + 1)) % n, by omega, by omega, ?_⟩
  rw [Int.add_emod_emod, add_sub_cancel]
  exact Int.emod_eq_of_lt (by omega) (by exact_mod_cast i.isLt)

namespace Scheduler

variable {n : Nat}

/-- `t` is `s` after one more id was used up, if there was one left, and nothing else happened. -/
structure CostsOneId (s t : Scheduler n) : Prop where
  /-- The id is used up. -/
  counter : t.counter.toInt =
    if s.counter.value = Int64.maxValue then s.counter.toInt else s.counter.toInt + 1
  /-- All slots are the same. -/
  ring : t.ring = s.ring
  /-- So are the latest display time, -/
  lastDisplay : t.lastDisplay = s.lastDisplay
  /-- the estimates, -/
  latency : t.latency = s.latency
  /-- the display's report, -/
  sample : t.sample = s.sample
  /-- and the settings. -/
  config : t.config = s.config
  /-- What was said of the fallback is not taken back, and is said only without a period. -/
  warned : t.warned = s.warned ∨ (t.warned ∧ s.sample.period = .zero)

theorem CostsOneId.counter_eq {s t : Scheduler n} (cost : CostsOneId s t) {id : FrameId}
    (next : s.counter.next? = some id) : t.counter.toInt = s.counter.toInt + 1 := by
  rw [cost.counter, if_neg (FrameId.ne_max_of_next? next)]

/-- A refused prediction costs one id. -/
theorem Effect.costsOneId {s t : Scheduler n} {now : Instant} {f : Fault}
    (effect : Effect s now .predict t (.error f)) : CostsOneId s t := by
  cases effect with
  | @unbooked id f next refused =>
    refine ⟨?_, rfl, rfl, rfl, rfl, rfl, ?_⟩
    · rw [if_neg (FrameId.ne_max_of_next? next)]
      exact FrameId.toInt_of_next? next
    · show (s.warned || s.fallsBack) = s.warned ∨ _
      by_cases falls : s.fallsBack
      · have period : s.sample.period = .zero := by
          simp only [fallsBack, Bool.and_eq_true, decide_eq_true_eq] at falls
          exact falls.1
        exact Or.inr ⟨by simp [afterRefusal, falls], period⟩
      · exact Or.inl (by simp [falls])
  | exhausted next =>
    refine ⟨?_, rfl, rfl, rfl, rfl, rfl, Or.inl rfl⟩
    rw [if_pos (FrameId.next?_eq_none_iff.mp next)]
  | refused not => exact absurd trivial not

/-! ### Slots that stay ready -/

/-- A call that is no prediction leaves the counter alone, and a ready slot ready. -/
theorem Effect.ready {s t : Scheduler n} {now : Instant} {c : Call} {r : Except Fault Reply}
    (effect : Effect s now c t r) (other : c ≠ .predict) {i : Fin n}
    (ready : (s.ring.get i).stage = .ready) :
    t.counter = s.counter ∧ (t.ring.get i).stage = .ready := by
  have elsewhere {id : FrameId} {old : Slot} (held : s.frame? id = some old)
      (busy : old.stage ≠ .ready) (slot : Slot) : ((s.ring.put id slot).get i).stage = .ready := by
    have apart : i ≠ s.ring.index id := by
      rintro rfl
      obtain ⟨rfl, -⟩ := slot_of_frame? held
      exact busy ready
    rw [Ring.get_put, if_neg apart]
    exact ready
  have freed {id : FrameId} (slot : Slot) : ((s.ring.put id slot.freed).get i).stage = .ready := by
    rw [Ring.get_put]
    split
    · rfl
    · exact ready
  cases effect with
  | predicted _ _ _ => exact absurd rfl other
  | unbooked _ _ => exact absurd rfl other
  | exhausted _ => exact absurd rfl other
  | ingested => exact ⟨rfl, ready⟩
  | refused _ => exact ⟨rfl, ready⟩
  | woke held stage => exact ⟨rfl, elsewhere held (by rw [stage]; intro e; cases e) _⟩
  | began held stage => exact ⟨rfl, elsewhere held (by rw [stage]; intro e; cases e) _⟩
  | discarded _ _ => exact ⟨rfl, freed _⟩
  | delivered _ _ => exact ⟨rfl, freed _⟩

/-- A frame that belongs into a ready slot finds it free. -/
theorem Consistent.isFree_of_ready {s : Scheduler n} (consistent : Consistent s) {i : Fin n}
    (ready : (s.ring.get i).stage = .ready) {id : FrameId} (nonneg : 0 ≤ id.toInt)
    (home : id.toInt % n = i) : (s.ring.slot id).isFree := by
  have here : s.ring.slot id = s.ring.get i :=
    congrArg s.ring.get (s.ring.index_eq_of_emod nonneg home)
  rw [consistent.isFree_iff_ready, here]
  exact ready

/-- A prediction whose slot is free is not refused for a taken slot: it returns, or its plan
overflows. -/
theorem predict_of_isFree {s : Scheduler n} (valid : s.config.check = .ok ()) {id : FrameId}
    (next : s.counter.next? = some id) (now : Instant) (free : (s.ring.slot id).isFree) :
    ¬ s.Blocked now ∧ ((∃ p, (s.predict now).result = .ok p) ∨ s.Overflows now) := by
  cases hp : s.plan now with
  | ok b =>
    have returned := predict_result_of_plan next hp free
    refine ⟨?_, Or.inl ⟨_, returned⟩⟩
    rintro ⟨id', holder, stage, refused⟩
    cases refused.symm.trans returned
  | error f =>
    obtain ⟨rfl, beyond⟩ := (planFrame_eq_error_iff valid).mp hp
    refine ⟨?_, Or.inr beyond⟩
    rintro ⟨id', holder, stage, refused⟩
    cases refused.symm.trans (predict_result_of_plan_error next hp)

/-- A prediction whose slot is taken is refused. -/
theorem costsOneId_of_taken {s : Scheduler n} {id : FrameId} (next : s.counter.next? = some id)
    (taken : ¬ (s.ring.slot id).isFree) (now : Instant) :
    CostsOneId s (s.call now .predict).next := by
  have effect := call_effect s now .predict
  cases h : (s.call now .predict).result with
  | ok r =>
    rw [h] at effect
    generalize (s.call now .predict).next = t at effect
    cases effect with
    | predicted next' _ free =>
      obtain rfl := Option.some.inj (next.symm.trans next')
      exact absurd free taken
  | error f =>
    rw [h] at effect
    exact effect.costsOneId

/-! ### Predictions in a row -/

/-- The call is a prediction that is not refused for a taken slot. It returns, or the plan
overflows. -/
def GetsThrough (e : Entry n) : Prop :=
  e.call = .predict ∧ ¬ e.before.Blocked e.now ∧ (e.result.isOk ∨ e.before.Overflows e.now)

/-- If slot `i` is ready and the number `x` of a frame that belongs there comes up, then a
prediction gets through, that of frame `x` at the latest. -/
theorem exists_getsThrough {s : Scheduler n} (consistent : Consistent s)
    (valid : s.config.check = .ok ()) {i : Fin n} (ready : (s.ring.get i).stage = .ready) {x : Int}
    (home : x % n = i) (later : s.counter.toInt < x) (fits : x ≤ Int64.maxValue.toInt)
    {calls : List (Instant × Call)}
    (many : x ≤ s.counter.toInt + (calls.countP fun c => c.2 = .predict)) :
    ∃ e ∈ s.history calls, GetsThrough e := by
  induction calls generalizing s with
  | nil =>
    rw [List.countP_nil] at many
    omega
  | cons c rest ih =>
    obtain ⟨now, call⟩ := c
    have effect := call_effect s now call
    have consistent' := effect.consistent consistent
    have valid' : (s.call now call).next.config.check = .ok () := effect.config_eq ▸ valid
    by_cases prediction : call = .predict
    · subst prediction
      rw [List.countP_cons_of_pos (by simp)] at many
      obtain ⟨id, next⟩ : ∃ id, s.counter.next? = some id := by
        refine Option.ne_none_iff_exists'.mp fun none => ?_
        have last := congrArg Int64.toInt (FrameId.next?_eq_none_iff.mp none)
        unfold FrameId.toInt at later
        omega
      have count := FrameId.toInt_of_next? next
      by_cases free : (s.ring.slot id).isFree
      · obtain ⟨unblocked, outcome⟩ := predict_of_isFree valid next now free
        refine ⟨_, List.mem_cons_self, rfl, unblocked, outcome.imp_left ?_⟩
        rintro ⟨p, returned⟩
        simp [call, Step.map, returned, Except.map, Except.isOk, Except.toBool]
      · -- the slot is not slot `i`, and the prediction moves on to the next one
        have before : id.toInt ≠ x := by
          rintro rfl
          have nonneg := consistent.counter_nonneg
          exact free (consistent.isFree_of_ready ready (by omega) home)
        have cost := costsOneId_of_taken next free now
        have counter := cost.counter_eq next
        obtain ⟨e, mem, through⟩ :=
          ih consistent' valid' (cost.ring ▸ ready) (by omega) (by push_cast at many; omega)
        exact ⟨e, List.mem_cons_of_mem _ mem, through⟩
    · rw [List.countP_cons_of_neg (by simpa using prediction)] at many
      obtain ⟨counter, ready'⟩ := effect.ready prediction ready
      obtain ⟨e, mem, through⟩ :=
        ih consistent' valid' ready' (by rwa [counter]) (by rwa [counter])
      exact ⟨e, List.mem_cons_of_mem _ mem, through⟩

/-- **Refused predictions**: in every state that a scheduler can come into, a refused prediction
costs one id, if there is one left, and nothing else: the slots, the latest display time, the
estimates and the display's report are what they were. Therefore, if some slot is ready and there
are `n` ids left, then of the next `n` predictions one is not refused for a taken slot, whatever was
refused before and whatever other calls come between them. -/
theorem refused_prediction_costs_one_id {c : Config} {s₀ : Scheduler n}
    (created : create n c = .ok s₀) (calls : List (Instant × Call)) :
    (∀ (now : Instant) (f : Fault), ((s₀.run calls).predict now).result = .error f →
      CostsOneId (s₀.run calls) ((s₀.run calls).predict now).next) ∧
    ∀ i : Fin n, ((s₀.run calls).ring.get i).stage = .ready →
      (s₀.run calls).counter.toInt + n ≤ Int64.maxValue.toInt →
      ∀ more : List (Instant × Call), (more.countP fun call => call.2 = .predict) = n →
        ∃ e ∈ (s₀.run calls).history more, GetsThrough e := by
  constructor
  · intro now f refused
    have effect := predict_effect (s₀.run calls) now
    rw [refused] at effect
    exact effect.costsOneId
  · intro i ready room more count
    obtain ⟨same, valid⟩ := config_run created calls
    have valid : (s₀.run calls).config.check = .ok () := same ▸ valid
    obtain ⟨x, later, near, home⟩ := exists_emod_eq i (s₀.run calls).counter.toInt
    exact exists_getsThrough (consistent_run created calls) valid ready home later (by omega)
      (by omega)

/-- With the first of two frames in flight alone, the next prediction is refused and costs the id 3.
The one after it gets through, or that one would. -/
theorem refused_prediction_costs_one_id_of_two_slots :
    CostsOneId ((initial .conservative Nat.two_pos : Scheduler 2).run outOfOrderRun)
      (((initial .conservative Nat.two_pos : Scheduler 2).run outOfOrderRun).predict .zero).next ∧
    ∃ e ∈ ((initial .conservative Nat.two_pos : Scheduler 2).run outOfOrderRun).history
      [(.zero, .predict), (.zero, .predict)], GetsThrough e := by
  obtain ⟨costs, through⟩ :=
    refused_prediction_costs_one_id (create_conservative Nat.two_pos) outOfOrderRun
  exact ⟨costs .zero (.slotTaken ⟨3⟩ (some ⟨1⟩) .predicted) rfl,
    through 0 rfl (by decide) _ rfl⟩

end Scheduler

end FramePacing
