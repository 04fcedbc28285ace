import FramePacing.Proofs.Scheduler.DisplayOrder
import Mathlib.Tactic.ByContra

/-!
# When the lateness of a frame is told

A frame is late if it was delivered after its delivery time. The report on a delivery gives the
difference of the two times as one signed word and calls the frame late if that is negative. The
difference of two 64-bit words needs one bit more: it wraps when the times are more than half the
clock's range apart, and then a frame that came too early is called late, and the other way round.

So the report tells the lateness exactly if the difference fits in a signed word
(`lateness_told_iff_lead_fits`). It does as long as neither the clock nor a display time has passed
the middle of the clock's range: no frame is to be delivered after it is to be shown (`Timely`), and
none is to be shown after the latest display time.
-/

namespace FramePacing

/-! ### Signed words -/

/-- A number that fits in a signed word. -/
def FitsSigned (x : Int) : Prop := Int64.minValue.toInt ≤ x ∧ x ≤ Int64.maxValue.toInt

theorem bmod_size_of_fits {x : Int} (fits : FitsSigned x) : x.bmod UInt64.size = x := by
  obtain ⟨low, high⟩ := fits
  exact Int.bmod_eq_of_le low (Int.lt_add_one_of_le high)

theorem bmod_size_of_high {x : Int} (high : Int64.maxValue.toInt < x) (below : x < UInt64.size) :
    x.bmod UInt64.size = x - UInt64.size := by
  rw [← Int.sub_bmod_right]
  change 9223372036854775807 < x at high
  change x < 18446744073709551616 at below
  exact Int.bmod_eq_of_le (by unfold UInt64.size; omega) (by unfold UInt64.size; omega)

theorem bmod_size_of_low {x : Int} (low : x < Int64.minValue.toInt) (above : -UInt64.size < x) :
    x.bmod UInt64.size = x + UInt64.size := by
  rw [← Int.add_bmod_right]
  change x < -9223372036854775808 at low
  change -18446744073709551616 < x at above
  exact Int.bmod_eq_of_le (by unfold UInt64.size; omega) (by unfold UInt64.size; omega)

/-! ### Reports -/

namespace Delivered

/-- How many nanoseconds before its delivery time a frame was delivered; negative if it was
delivered after it. -/
def lead (d : Delivered) : Int := d.deliveryTime.toNat - d.times.delivered.toNat

/-- A report that calls the frame late if it is, and gives the distance from its delivery time. -/
structure TellsLateness (d : Delivered) : Prop where
  /-- Late is delivered after the delivery time. -/
  late_iff : d.late ↔ d.deliveryTime < d.times.delivered
  /-- The error is as great as the distance of the two times. -/
  distance : d.error.toInt.natAbs = d.lead.natAbs

/-- A report that calls the frame late if it was early, and gives, for the distance from its delivery
time, what that distance lacks of the clock's range. -/
structure MistellsLateness (d : Delivered) : Prop where
  /-- Late is delivered before the delivery time. -/
  late_iff : d.late ↔ d.times.delivered < d.deliveryTime
  /-- The error and the distance of the two times make up the range of the clock. -/
  distance : d.error.toInt.natAbs + d.lead.natAbs = UInt64.size

variable {d : Delivered}

theorem late_iff_toInt_neg : d.late ↔ d.error.toInt < 0 := by
  simp [late, isLateError, Int64.lt_iff_toInt_lt]

theorem lt_delivered_iff : d.deliveryTime < d.times.delivered ↔ d.lead < 0 := by
  rw [Instant.lt_iff]
  unfold lead
  omega

theorem delivered_lt_iff : d.times.delivered < d.deliveryTime ↔ 0 < d.lead := by
  rw [Instant.lt_iff]
  unfold lead
  omega

theorem lead_bounds (d : Delivered) : -UInt64.size < d.lead ∧ d.lead < UInt64.size := by
  have := d.deliveryTime.toNat_le
  have := d.times.delivered.toNat_le
  unfold lead UInt64.size
  unfold horizon at *
  omega

theorem mistellsLateness_of_not_fits (error : d.error.toInt = d.lead.bmod UInt64.size)
    (big : ¬ FitsSigned d.lead) : d.MistellsLateness := by
  obtain ⟨above, below⟩ := d.lead_bounds
  rcases Int.lt_or_le Int64.maxValue.toInt d.lead with high | notHigh
  · -- far too early, and the error is negative
    have early : 0 < d.lead := Int.lt_trans (by decide) high
    rw [bmod_size_of_high high below] at error
    constructor
    · rw [late_iff_toInt_neg, delivered_lt_iff, error]
      exact iff_of_true (Int.sub_neg_of_lt below) early
    · omega
  · -- far too late, and the error is positive
    have low : d.lead < Int64.minValue.toInt := Int.not_le.mp fun notLow => big ⟨notLow, notHigh⟩
    have late : d.lead < 0 := Int.lt_trans low (by decide)
    rw [bmod_size_of_low low above] at error
    constructor
    · rw [late_iff_toInt_neg, delivered_lt_iff, error]
      exact iff_of_false (by omega) (Int.not_lt.mpr (Int.le_of_lt late))
    · omega

/-- With the lead for an error, wrapped as it may be, the lateness is told exactly if the lead
fits. -/
theorem tellsLateness_iff_fits (error : d.error.toInt = d.lead.bmod UInt64.size) :
    d.TellsLateness ↔ FitsSigned d.lead := by
  constructor
  · intro tells
    by_contra big
    have opposite := (mistellsLateness_of_not_fits error big).late_iff
    rw [tells.late_iff, lt_delivered_iff, delivered_lt_iff] at opposite
    -- only for a frame that is delivered in time are late and early the same
    have none : d.lead = 0 := by omega
    rw [none] at big
    exact big ⟨by decide, by decide⟩
  · intro fits
    rw [bmod_size_of_fits fits] at error
    constructor
    · rw [late_iff_toInt_neg, lt_delivered_iff, error]
    · rw [error]

theorem late_iff_of_fits (error : d.error.toInt = d.lead.bmod UInt64.size)
    (fits : FitsSigned d.lead) : d.error.toInt = d.lead ∧ (d.late ↔ d.lead < 0) := by
  rw [bmod_size_of_fits fits] at error
  refine ⟨error, ?_⟩
  rw [late_iff_toInt_neg, error]

theorem fitsSigned_lead_of_le (delivered : d.times.delivered.toNat ≤ Int64.maxValue.toInt)
    (due : d.deliveryTime.toNat ≤ Int64.maxValue.toInt) : FitsSigned d.lead := by
  have lowest : Int64.minValue.toInt = -Int64.maxValue.toInt - 1 := rfl
  unfold FitsSigned lead
  omega

end Delivered

namespace Scheduler

variable {n : Nat}

/-! ### Delivery times -/

/-- No frame in flight is to be delivered after it is to be shown. -/
def Timely (s : Scheduler n) : Prop :=
  ∀ id slot, s.frame? id = some slot → slot.deliveryTime ≤ slot.displayTime

/-- A frame in flight was in flight before the call, with the same plan, or it has just been
planned. -/
theorem Effect.same_plan_or_new {s t : Scheduler n} {now : Instant} {c : Call}
    {r : Except Fault Reply} (effect : Effect s now c t r) {id : FrameId} {slot : Slot}
    (held : t.frame? id = some slot) :
    (∃ old, s.frame? id = some old ∧ slot.displayTime = old.displayTime ∧
      slot.deliveryTime = old.deliveryTime) ∨
    ∃ b, s.plan now = .ok b ∧ slot = b.slot id now := by
  have unchanged (held : s.frame? id = some slot) : ∃ old, s.frame? id = some old ∧
      slot.displayTime = old.displayTime ∧ slot.deliveryTime = old.deliveryTime :=
    ⟨slot, held, rfl, rfl⟩
  have written {a : FrameId} {old new : Slot} (found : s.frame? a = some old)
      (held : (s.withFrame a new).frame? id = some slot) (same : new.holder = old.holder)
      (display : new.displayTime = old.displayTime)
      (delivery : new.deliveryTime = old.deliveryTime) : ∃ old, s.frame? id = some old ∧
        slot.displayTime = old.displayTime ∧ slot.deliveryTime = old.deliveryTime := by
    rw [frame?_withFrame found same] at held
    split at held
    · rename_i here
      subst here
      obtain rfl := Option.some.inj held
      exact ⟨old, found, display, delivery⟩
    · exact unchanged held
  have freed {a : FrameId} {old new : Slot} (found : s.frame? a = some old)
      (held : (s.withFrame a new.freed).frame? id = some slot) : s.frame? id = some slot := by
    rw [frame?_freed found] at held
    split at held
    · cases held
    · exact held
  cases effect with
  | predicted _ plan free =>
    rw [frame?_afterPredict free] at held
    split at held
    · rename_i here
      subst here
      exact Or.inr ⟨_, plan, (Option.some.inj held).symm⟩
    · exact Or.inl (unchanged held)
  | woke found _ => exact Or.inl (written found held rfl rfl rfl)
  | began found _ => exact Or.inl (written found held rfl rfl rfl)
  | discarded found _ => exact Or.inl (unchanged (freed found held))
  | delivered found _ => exact Or.inl (unchanged (freed found held))
  | unbooked _ _ => exact Or.inl (unchanged held)
  | exhausted _ => exact Or.inl (unchanged held)
  | ingested => exact Or.inl (unchanged held)
  | refused _ => exact Or.inl (unchanged held)

theorem timely_initial (c : Config) (pos : 0 < n) : Timely (initial c pos) := by
  intro id slot held
  cases (frame?_initial c pos id).symm.trans held

/-- Every call keeps the order of the two times, because a plan subtracts the one from the other. -/
theorem Timely.call {s t : Scheduler n} {now : Instant} {c : Call} {r : Except Fault Reply}
    (timely : Timely s) (effect : Effect s now c t r) : Timely t := by
  intro id slot held
  rcases effect.same_plan_or_new held with ⟨old, before, display, delivery⟩ | ⟨b, plan, rfl⟩
  · rw [display, delivery]
    exact timely id old before
  · show b.deliveryTime ≤ b.displayTime
    rw [plan_deliveryTime plan, Instant.le_iff, Instant.toNat_before]
    exact Nat.sub_le _ _

theorem timely_run {c : Config} {s₀ : Scheduler n} (created : create n c = .ok s₀)
    (calls : List (Instant × Call)) : Timely (s₀.run calls) :=
  run_induction (P := fun s _ => Timely s) created (timely_initial c)
    (fun _ timely effect => timely.call effect) calls

/-! ### Deliveries -/

/-- **Lateness**: the report on a delivery, at any moment of a run, is made at the time of the call
and wraps the lead of the frame into a signed word. If the lead fits, the report tells the lateness,
and else it tells the opposite. The frame was to be delivered at the latest display time or before,
so the lead fits as long as neither this nor the clock has passed the greatest signed word. -/
theorem lateness_told_iff_lead_fits {c : Config} {s₀ : Scheduler n} (created : create n c = .ok s₀)
    (calls : List (Instant × Call)) (now : Instant) (id : FrameId) {d : Delivered}
    (returned : ((s₀.run calls).deliver id now).result = .ok d) :
    d.times.delivered = now ∧ d.error.toInt = d.lead.bmod UInt64.size ∧
    (d.TellsLateness ↔ FitsSigned d.lead) ∧ (¬ FitsSigned d.lead → d.MistellsLateness) ∧
    d.deliveryTime ≤ (s₀.run calls).lastDisplay ∧
    (now.toNat ≤ Int64.maxValue.toInt → (s₀.run calls).lastDisplay.toNat ≤ Int64.maxValue.toInt →
      d.TellsLateness) := by
  obtain ⟨slot, held, -, rfl⟩ := deliver_returned returned
  have error := Instant.toInt_signedSince slot.deliveryTime now
  have due : slot.deliveryTime ≤ (s₀.run calls).lastDisplay := by
    have shown := (ordered_run created calls).held_le id slot held
    have timely := timely_run created calls id slot held
    rw [Instant.le_iff] at shown timely ⊢
    exact Nat.le_trans timely shown
  refine ⟨rfl, error, Delivered.tellsLateness_iff_fits error,
    Delivered.mistellsLateness_of_not_fits error, due, ?_⟩
  intro clock display
  have below := Instant.le_iff.mp due
  exact (Delivered.tellsLateness_iff_fits error).mpr
    (Delivered.fitsSigned_lead_of_le clock (by show (slot.deliveryTime.toNat : Int) ≤ _; omega))

/-- The display says that its next refresh is 317 years ahead, a frame is predicted for it, and its
work begins at once. -/
def farRefreshRun : List (Instant × Call) :=
  [(.zero, .ingest .owner ⟨⟨10000000000000000000⟩, ⟨16000000⟩, .zero⟩), (.zero, .predict),
    (.zero, .mark ⟨1⟩ .wakeUp .zero), (.zero, .mark ⟨1⟩ .begin .zero)]

theorem lateness_told_iff_lead_fits_near_and_far :
    (∃ d, (((initial .conservative Nat.two_pos : Scheduler 2).run unevenRun).deliver ⟨4⟩
      ⟨120000000⟩).result = .ok d ∧ d.TellsLateness) ∧
    ∃ d, (((initial .conservative Nat.two_pos : Scheduler 2).run farRefreshRun).deliver ⟨1⟩
      .zero).result = .ok d ∧ d.MistellsLateness := by
  constructor
  · obtain ⟨-, -, -, -, -, near⟩ :=
      lateness_told_iff_lead_fits (create_conservative Nat.two_pos) unevenRun
        ⟨120000000⟩ ⟨4⟩ rfl
    exact ⟨_, rfl, near (by decide) (by decide)⟩
  · obtain ⟨-, -, -, far, -⟩ :=
      lateness_told_iff_lead_fits (create_conservative Nat.two_pos) farRefreshRun
        .zero ⟨1⟩ rfl
    exact ⟨_, rfl, far fun fits => absurd fits.2 (by decide)⟩

/-- It is not so that every report on a delivery tells the lateness: a frame that is delivered 317
years before its time is called late. -/
theorem not_every_delivery_tells_lateness :
    ¬ ∀ (n : Nat) (c : Config) (s₀ : Scheduler n), create n c = .ok s₀ →
      ∀ (calls : List (Instant × Call)) (now : Instant) (id : FrameId) (d : Delivered),
        ((s₀.run calls).deliver id now).result = .ok d → d.TellsLateness := by
  intro all
  have tells := all 2 .conservative _ (create_conservative Nat.two_pos) farRefreshRun .zero ⟨1⟩ _
    rfl
  exact absurd (tells.late_iff.mp rfl) (by decide)

end Scheduler

end FramePacing
