import FramePacing.Proofs.Scheduler.Refreshes
import FramePacing.Proofs.Simulation.Frames
import FramePacing.Proofs.Simulation.Histories

/-!
# When a simulated frame is shown

Two grids meet in a simulated frame. The display refreshes on its own grid and shows a delivered
frame at the first refresh that leaves it the time it needs. The scheduler aims at a point of a grid
of its own, which starts at the refresh that the display reported and may be stretched. Below the
horizon what it aims at is a refresh of the display (`plan_aims_at_refresh`), and for a refresh
`presentation_le_iff` says which deliveries still make it. A frame is then shown late exactly if it
was delivered too late for the refresh it was promised (`shownLate_iff_delivered_too_late`); no
rounding on the way, up or down, and no clipped sum makes a difference.
-/

namespace FramePacing

/-! ### The display's grid -/

namespace Display

variable {d : Display} {t r : Instant}

/-- The times of the refreshes, without an end. -/
def refresh (d : Display) (k : Nat) : Nat := d.origin.toNat + d.refreshPeriod.toNat * k

/-- Below the horizon what the display gives is a refresh. -/
theorem refreshAfter_on_grid (h : d.refreshAfter t = .ok r) (below : r.toNat < horizon) :
    ∃ k, r.toNat = d.refresh k := by
  -- the display counts its refreshes as the scheduler counts the points of its grid
  rcases firstOnGridAfter_ok h with ⟨-, rfl⟩ | ⟨-, -, clipped⟩
  · exact ⟨0, by simp [refresh]⟩
  · refine ⟨(t.toNat - d.origin.toNat) / d.refreshPeriod.toNat + 1, ?_⟩
    unfold refresh
    omega

/-- The first refresh after an instant is the first: it comes no later than a given refresh exactly
if that one is still to come. -/
theorem refreshAfter_le_iff (h : d.refreshAfter t = .ok r) {k : Nat}
    (below : d.refresh k < horizon) : r.toNat ≤ d.refresh k ↔ t.toNat < d.refresh k := by
  unfold refresh at below ⊢
  rcases firstOnGridAfter_ok h with ⟨before, rfl⟩ | ⟨le, pos, clipped⟩
  · have := Instant.lt_iff.mp before
    omega
  have passed : (t.toNat - d.origin.toNat) / d.refreshPeriod.toNat + 1 ≤ k ↔
      t.toNat - d.origin.toNat < d.refreshPeriod.toNat * k := by
    rw [Nat.succ_le_iff, Nat.div_lt_iff_lt_mul pos, Nat.mul_comm]
  rw [← Nat.mul_le_mul_left_iff pos] at passed
  omega

/-- A frame is shown no later than a given refresh exactly if it was delivered in time for it. -/
theorem presentation_le_iff (h : d.presentation t = .ok r) {k : Nat} (pos : 0 < d.refresh k)
    (below : d.refresh k < horizon) :
    r.toNat ≤ d.refresh k ↔ t.toNat + d.extra.toNat ≤ d.refresh k := by
  rw [refreshAfter_le_iff h below, Instant.toNat_before, Instant.toNat_after]
  show min (t.toNat + d.extra.toNat) horizon - 1 < d.refresh k ↔ _
  omega

theorem report_eq_ok_iff {sample : DisplaySample} :
    d.report t = .ok sample ↔
      ∃ next, d.refreshAfter t = .ok next ∧ sample = ⟨next, d.refreshPeriod, d.extra⟩ := by
  unfold report
  simp only [bind_eq_ok_iff, pure, Except.pure, Except.ok.injEq]
  exact exists_congr fun _ => and_congr_right' eq_comm

/-! ### The scheduler's grid -/

/-- A plan below the horizon that was made from the display's report aims at a refresh, which is
still to come, and a frame delivered by its delivery time makes it. -/
theorem plan_aims_at_refresh (refreshes : d.refreshPeriod ≠ .zero) {sample : DisplaySample}
    (reported : d.report t = .ok sample) {c : Config} {e : Estimate} {last now : Instant}
    {b : Booking} (plan : planFrame c e sample last now = .ok b)
    (below : b.displayTime.toNat < horizon) :
    (∃ k, b.displayTime.toNat = d.refresh k) ∧ now < b.displayTime ∧
      b.deliveryTime.toNat + d.extra.toNat ≤ b.displayTime.toNat := by
  obtain ⟨next, shows, rfl⟩ := report_eq_ok_iff.mp reported
  obtain ⟨period, k, loops, -, steps, grid⟩ := planFrame_on_grid plan below
  have past := loops.reached.not_test
  refine ⟨?_, Instant.lt_iff.mpr (by omega), planFrame_leaves_extra plan below⟩
  have base : basePeriod c ⟨next, d.refreshPeriod, d.extra⟩ = d.refreshPeriod.toNat :=
    if_neg (mt Span.eq_zero_iff.mpr refreshes)
  rw [base] at grid
  have later : next.toNat ≤ b.displayTime.toNat := by
    rw [steps]
    exact Nat.le_add_right _ _
  obtain ⟨i, reached⟩ := refreshAfter_on_grid shows (Nat.lt_of_le_of_lt later below)
  obtain ⟨j, apart⟩ := (Nat.modEq_iff_dvd' later).mp grid.symm
  refine ⟨i + j, ?_⟩
  unfold refresh at reached ⊢
  rw [Nat.mul_add]
  omega

end Display

/-! ### Late frames -/

theorem Outcome.shownLate_iff {o : Outcome} {shown : Instant} (h : o.presentedAt = some shown) :
    o.shownLate ↔ o.prediction.displayTime.toNat < shown.toNat := by
  unfold shownLate
  rw [h, Option.any_some, decide_eq_true_iff, Instant.lt_iff]

namespace Application

/-- **Lateness**: whatever has happened to an application, a frame that it delivers aims at a
refresh of the display in force, below the horizon, and is shown late exactly if what the display
needs after the delivery ends after that refresh. A frame delivered by its delivery time is not. -/
theorem shownLate_iff_delivered_too_late {origin start : Instant} {refreshPeriod extra : Span}
    {d : Display} (built : Display.create origin refreshPeriod extra = .ok d) {c : Config}
    {a₀ : Application} (created : create c d start = .ok a₀) (actions : List Action) {t : Tracer}
    {w : Workload} {o : Outcome}
    (returned : ((a₀.perform actions).deliverNext t w).result = .ok o)
    (below : o.prediction.displayTime.toNat < horizon) :
    ∃ report, o.ending = .delivered report ∧
      (∃ k, o.prediction.displayTime.toNat = (a₀.perform actions).display.refresh k) ∧
      (o.shownLate ↔ o.prediction.displayTime.toNat <
        report.times.delivered.toNat + (a₀.perform actions).display.extra.toNat) ∧
      (report.times.delivered ≤ report.deliveryTime → ¬ o.shownLate) := by
  have refreshes : (a₀.perform actions).Refreshes :=
    (refreshes_create (Display.refreshPeriod_ne_zero_of_create built) created).perform actions
  generalize a₀.perform actions = a at returned refreshes
  obtain ⟨q, returns⟩ := play_eq_ok_iff.mp returned
  obtain ⟨sample, b, a', report, shown, begun, reports, shows, ending, presented⟩ :=
    FrameM.deliver_returns returns
  have aim : o.prediction.displayTime = b.displayTime := congrArg Prediction.displayTime begun.told
  rw [aim] at below
  obtain ⟨⟨k, refresh⟩, ahead, leaves⟩ :=
    Display.plan_aims_at_refresh refreshes begun.reported begun.planned below
  rw [Instant.lt_iff] at ahead
  have late : o.shownLate ↔ o.prediction.displayTime.toNat <
      report.times.delivered.toNat + a.display.extra.toNat := by
    rw [Outcome.shownLate_iff presented, aim, refresh, ← Nat.not_le, ← Nat.not_le]
    exact not_congr (Display.presentation_le_iff shows (by omega) (by omega))
  refine ⟨report, ending, ⟨k, aim ▸ refresh⟩, late, fun inTime => ?_⟩
  have own : report.deliveryTime = b.deliveryTime := congrArg Delivered.deliveryTime reports
  rw [own, Instant.le_iff] at inTime
  rw [late, aim]
  omega

/-- A new application on a display that refreshes every 16 ms. -/
def newApplication : Application :=
  ⟨Scheduler.initial .conservative Nat.two_pos, ⟨0⟩, ⟨⟨0⟩, ⟨16000000⟩, ⟨1000000⟩⟩⟩

/-- A frame is dropped, the time wraps round to the nanosecond before, and the display changes. -/
def switchingHistory : List Action :=
  [.discard .detached .short, .elapse ⟨18446744073709551615⟩,
    .switch ⟨5000000⟩ ⟨11111111⟩ ⟨500000⟩]

/-- The next frame is delivered one nanosecond too late for its refresh. -/
theorem shownLate_iff_delivered_too_late_by_one :
    ∃ o report,
      ((newApplication.perform switchingHistory).deliverNext .detached
        ⟨⟨20000⟩, ⟨1000000⟩, ⟨4980001⟩⟩).result = .ok o ∧
      o.ending = .delivered report ∧ o.prediction.displayTime = ⟨16111111⟩ ∧
      report.times.delivered = ⟨15611112⟩ ∧ o.shownLate := by
  have built : Display.create ⟨0⟩ ⟨16000000⟩ ⟨1000000⟩ = .ok ⟨⟨0⟩, ⟨16000000⟩, ⟨1000000⟩⟩ := rfl
  have created : create .conservative ⟨⟨0⟩, ⟨16000000⟩, ⟨1000000⟩⟩ ⟨0⟩ = .ok newApplication := rfl
  obtain ⟨o, returned, aim, delivered⟩ : ∃ o,
      ((newApplication.perform switchingHistory).deliverNext .detached
        ⟨⟨20000⟩, ⟨1000000⟩, ⟨4980001⟩⟩).result = .ok o ∧ o.prediction.displayTime = ⟨16111111⟩ ∧
      ∀ report, o.ending = .delivered report → report.times.delivered = ⟨15611112⟩ :=
    ⟨_, rfl, rfl, fun _ ending => (by cases ending; rfl)⟩
  obtain ⟨report, ending, -, late, -⟩ := shownLate_iff_delivered_too_late built created
    switchingHistory returned (by rw [aim]; decide)
  have extra : (newApplication.perform switchingHistory).display.extra = ⟨500000⟩ := rfl
  rw [aim, delivered report ending, extra] at late
  exact ⟨o, report, returned, ending, aim, delivered report ending, late.mpr (by decide)⟩

end Application

end FramePacing
