import FramePacing.Proofs.Overflow
import FramePacing.Proofs.Simulation.Presentation
import FramePacing.Quality.Tracker

/-!
# No frame is refused

A simulated frame passes through the display, the clock and a dozen calls, and each of them can be
refused. None is, as long as times and ids do not run out: in every history of an application, with
all workloads, switches and jumps of the clock, a frame returns if its display time exists in the
words (`frames_return`).

Two things carry this. Between frames an application is `Idle`: all slots are free again, and the
ids are counted without a gap. And words are enough: `Application.dueTime` is the display time in
numbers without a bound, and where it lies below the horizon, no sum on the way to it overflows and
the wake-up time lies ahead (`exists_launch`).
-/

namespace FramePacing

/-! ### Points of a grid -/

/-- The first point of the grid `origin, origin + period, …` strictly after `floor`, without a
bound. -/
def gridPointAfter (origin period floor : Nat) : Nat :=
  if floor < origin then origin else origin + period * ((floor - origin) / period + 1)

section

variable {origin period floor : Nat}

theorem le_gridPointAfter : origin ≤ gridPointAfter origin period floor := by
  unfold gridPointAfter
  split
  · exact Nat.le_refl origin
  · exact Nat.le_add_right origin _

/-- It is where the loop ends that walks along the grid. -/
theorem advance_gridPointAfter (pos : 0 < period) :
    Advance period (· ≤ floor) origin (gridPointAfter origin period floor) := by
  unfold gridPointAfter
  split
  · rename_i before
    exact .done (Nat.not_le.mpr before)
  · rename_i reached
    exact .past pos (Nat.not_lt.mp reached)

theorem lt_gridPointAfter (pos : 0 < period) : floor < gridPointAfter origin period floor :=
  Nat.not_le.mp (advance_gridPointAfter pos).not_test

end

/-! ### Words and numbers without a bound -/

/-- The display time that the loops of a plan reach. -/
def planTime (c : Config) (e : Estimate) (s : DisplaySample) (last now : Instant) : Nat :=
  gridPointAfter s.displayTime.toNat
    (basePeriod c s * periodsTaken (basePeriod c s) e c.maxMultiple)
    (max last.toNat (now.toNat + frameNeed e s))

section

variable {c : Config} {e : Estimate} {s : DisplaySample} {last now : Instant}

theorem loopPlan_planTime (valid : c.check = .ok ()) :
    LoopPlan c e s last now (basePeriod c s * periodsTaken (basePeriod c s) e c.maxMultiple)
      (planTime c e s last now) := by
  have base := basePeriod_pos valid s
  have taken := periodsTaken_pos valid (basePeriod c s) e
  have loop : Advance (basePeriod c s * periodsTaken (basePeriod c s) e c.maxMultiple)
      (· ≤ max last.toNat (now.toNat + frameNeed e s)) s.displayTime.toNat
      (planTime c e s last now) := advance_gridPointAfter (Nat.mul_pos base taken)
  exact ⟨grown_periodsTaken base e c.maxMultiple, by simpa only [le_max_iff] using loop⟩

/-- Below the horizon the plan is made, and is for that time. -/
theorem planFrame_of_lt (valid : c.check = .ok ()) (below : planTime c e s last now < horizon) :
    ∃ b, planFrame c e s last now = .ok b ∧ b.displayTime.toNat = planTime c e s last now := by
  have loops : LoopPlan c e s last now _ (planTime c e s last now) := loopPlan_planTime valid
  have past := loops.reached.not_test
  cases h : planFrame c e s last now with
  | error fault =>
    have beyond := ((planFrame_eq_error_iff valid).mp h).2.floor
    omega
  | ok b =>
    obtain ⟨period, display, loops', -, clipped, -⟩ := planFrame_loops h
    have same := (loops.unique loops').2
    exact ⟨b, rfl, by omega⟩

end

/-- Below the horizon the display finds its next refresh. -/
theorem Display.refreshAfter_of_lt {d : Display} (refreshes : d.refreshPeriod ≠ .zero) {t : Instant}
    (below : gridPointAfter d.origin.toNat d.refreshPeriod.toNat t.toNat < horizon) :
    ∃ next, d.refreshAfter t = .ok next ∧
      next.toNat = gridPointAfter d.origin.toNat d.refreshPeriod.toNat t.toNat := by
  have pos : 0 < d.refreshPeriod.toNat := Nat.pos_of_ne_zero (mt Span.eq_zero_iff.mpr refreshes)
  cases h : d.refreshAfter t with
  | error fault =>
    have top := ((firstOnGridAfter_eq_error_iff pos).mp h).2.2.2
    have above : t.toNat < gridPointAfter d.origin.toNat d.refreshPeriod.toNat t.toNat :=
      lt_gridPointAfter pos
    omega
  | ok next =>
    obtain ⟨point, loop, clipped⟩ := firstOnGridAfter_loop
      (Nat.min_eq_left d.refreshPeriod.toNat_le).symm (Nat.min_eq_left t.toNat_le).symm h
    obtain rfl := loop.unique (advance_gridPointAfter pos)
    exact ⟨next, rfl, by omega⟩

/-- Every delivery is shown by some refresh. -/
theorem Display.exists_presentation {d : Display} (refreshes : d.refreshPeriod ≠ .zero)
    (t : Instant) : ∃ shown, d.presentation t = .ok shown := by
  cases h : d.presentation t with
  | ok shown => exact ⟨shown, rfl⟩
  | error fault =>
    -- the display looks for a refresh from a nanosecond before the last instant at the latest
    have pos : 0 < d.refreshPeriod.toNat := Nat.pos_of_ne_zero (mt Span.eq_zero_iff.mpr refreshes)
    have top := ((firstOnGridAfter_eq_error_iff pos).mp h).2.2.2
    have bound := (t.after d.extra).toNat_le
    have ends : 0 < horizon := by decide
    rw [Instant.toNat_before, show (⟨1⟩ : Span).toNat = 1 from rfl] at top
    omega

/-! ### The next frame of an application -/

namespace Application

/-- When the next frame is to be shown, in numbers without a bound: the first point after the last
display time and after the work of a grid that starts at the next refresh. -/
def dueTime (a : Application) : Nat :=
  let base := a.display.refreshPeriod.toNat
  let need := frameNeed a.scheduler.latency { extra := a.display.extra }
  gridPointAfter (gridPointAfter a.display.origin.toNat base a.now.toNat)
    (base * periodsTaken base a.scheduler.latency a.scheduler.config.maxMultiple)
    (max a.scheduler.lastDisplay.toNat (a.now.toNat + need))

/-- Times and ids do not run out with the next frame. -/
def InBounds (a : Application) : Prop :=
  a.dueTime < horizon ∧ a.scheduler.counter.value < Int64.maxValue

instance (a : Application) : Decidable a.InBounds :=
  inferInstanceAs (Decidable (_ ∧ _))

end Application

theorem FrameId.exists_next? {id : FrameId} (left : id.value < Int64.maxValue) :
    ∃ id', id.next? = some id' := by
  have ne : id.value ≠ Int64.maxValue := Int64.ne_of_lt left
  exact ⟨_, if_neg ne⟩

namespace Application

variable {a : Application}

/-- Below the horizon, words find the display's next refresh. -/
theorem exists_report (refreshes : a.Refreshes) (below : a.dueTime < horizon) :
    ∃ sample, a.display.report a.now = .ok sample ∧ sample.period = a.display.refreshPeriod ∧
      sample.extra = a.display.extra ∧ sample.displayTime.toNat =
        gridPointAfter a.display.origin.toNat a.display.refreshPeriod.toNat a.now.toNat := by
  have near : gridPointAfter a.display.origin.toNat a.display.refreshPeriod.toNat a.now.toNat <
      horizon := Nat.lt_of_le_of_lt le_gridPointAfter below
  obtain ⟨next, shows, next_eq⟩ := Display.refreshAfter_of_lt refreshes near
  exact ⟨_, Display.report_eq_ok_iff.mpr ⟨next, shows, rfl⟩, rfl, rfl, next_eq⟩

/-- Nothing stands in the way of a frame if the slots are free and its display time exists. -/
theorem exists_launch (valid : a.scheduler.config.check = .ok ()) (refreshes : a.Refreshes)
    (free : ∀ id, (a.scheduler.ring.slot id).isFree) (bounds : a.InBounds) :
    ∃ l : Launch a, l.booking.displayTime.toNat = a.dueTime ∧ a.now < l.booking.wakeUpTime := by
  obtain ⟨below, left⟩ := bounds
  obtain ⟨id, counted⟩ := FrameId.exists_next? left
  obtain ⟨sample, reported, period, extra, next⟩ := exists_report refreshes below
  have base : basePeriod a.scheduler.config sample = a.display.refreshPeriod.toNat := by
    rw [← period]
    exact if_neg (mt Span.eq_zero_iff.mpr (period ▸ refreshes))
  have due : a.dueTime =
      planTime a.scheduler.config a.scheduler.latency sample a.scheduler.lastDisplay a.now := by
    unfold dueTime planTime frameNeed
    rw [base, next, extra]
  rw [due] at below
  obtain ⟨b, plan, display⟩ := planFrame_of_lt valid below
  have planned : (a.scheduler.ingest sample).plan a.now = .ok b := plan
  have ahead : a.now < b.wakeUpTime := by
    rcases Scheduler.plan_later planned with top | ⟨-, future⟩
    · omega
    · exact future
  have awaits := Instant.le_iff.mpr (Nat.le_of_lt (Instant.lt_iff.mp ahead))
  exact ⟨⟨sample, b, id, reported, counted, planned, free id, awaits⟩, display.trans due.symm,
    ahead⟩

/-! ### Between frames -/

/-- An application between two frames, after `k` of them: no frame is in flight. -/
structure Idle (c : Config) (k : Nat) (a : Application) : Prop where
  /-- The settings are those of the beginning. -/
  config : a.scheduler.config = c
  /-- All slots are free. -/
  free : ∀ i, (a.scheduler.ring.get i).isFree
  /-- As many ids are used up. -/
  counter : a.scheduler.counter.toInt = k
  /-- The display in force refreshes. -/
  refreshes : a.Refreshes

theorem Idle.liveCount_eq_zero {c : Config} {k : Nat} (idle : Idle c k a) :
    a.scheduler.liveCount = 0 := by
  unfold Scheduler.liveCount Ring.liveCount
  rw [List.countP_eq_zero]
  intro slot mem
  obtain ⟨i, lt, rfl⟩ := Vector.mem_iff_getElem.mp (Vector.mem_toList_iff.mp mem)
  have free := idle.free ⟨i, lt⟩
  simp only [Slot.isFree, Bool.and_eq_true, decide_eq_true_eq] at free
  have ready : (a.scheduler.ring.slots[i]).stage = .ready := free.2
  simp [ready]

theorem idle_create {c : Config} (valid : c.check = .ok ()) {d : Display}
    (refreshes : d.refreshPeriod ≠ .zero) (start : Instant) :
    ∃ a, create c d start = .ok a ∧ Idle c 0 a := by
  have scheduler : Scheduler.createValid 2 c = .ok (.initial c Nat.two_pos) := by
    unfold Scheduler.createValid
    rw [Scheduler.create_eq_ok_iff.mpr ⟨valid, Nat.two_pos, rfl⟩]
  refine ⟨⟨.initial c Nat.two_pos, start, d⟩, bind_eq_ok_iff.mpr ⟨_, scheduler, rfl⟩, rfl,
    fun i => ?_, rfl, refreshes⟩
  have free : (Scheduler.initial c Nat.two_pos).ring.get i = {} := Vector.getElem_replicate i.isLt
  rw [free]
  rfl

/-- Once its frame has ended, the application is idle again. -/
theorem Idle.of_freed {c : Config} {k : Nat} (idle : Idle c k a) (l : Launch a) {a' : Application}
    {slot : Slot} (ring : a'.scheduler.ring = l.scheduler.ring.put l.id slot.freed)
    (config : a'.scheduler.config = a.scheduler.config) (counter : a'.scheduler.counter = l.id)
    (display : a'.display = a.display) : Idle c (k + 1) a' := by
  have next := FrameId.toInt_of_next? l.counted
  refine ⟨config.trans idle.config, fun i => ?_, ?_, idle.refreshes.of_display_eq display⟩
  · have once : a'.scheduler.ring = a.scheduler.ring.put l.id slot.freed :=
      ring.trans (Ring.put_put _ _ _ _)
    rw [once, Ring.get_put]
    split
    · rfl
    · exact idle.free i
  · rw [counter, next, idle.counter]
    rfl

end Application

/-! ### The frames of a history -/

theorem Scheduler.wakeUpTime_le_of_plan {n : Nat} {s : Scheduler n} {now : Instant} {b : Booking}
    (plan : s.plan now = .ok b) : b.wakeUpTime ≤ b.displayTime := by
  obtain ⟨period, display, -, -, rfl⟩ := planFrame_eq_ok_iff.mp plan
  rw [Instant.le_iff, Instant.toNat_before]
  exact Nat.sub_le _ _

/-- What is measured of the frame of a launch exists. -/
theorem Launch.exists_quality {a : Application} (l : Launch a) {o : Outcome}
    (predicted : o.prediction = l.prediction) : ∃ q, FrameQuality.ofOutcome? o = .ok q := by
  have order : l.prediction.wakeUpTime ≤ l.prediction.displayTime :=
    Scheduler.wakeUpTime_le_of_plan l.planned
  have budget := Instant.sinceExact_of_le order
  rw [← predicted] at budget
  unfold FrameQuality.ofOutcome?
  cases o.delivered? with
  | none => exact ⟨none, rfl⟩
  | some report =>
    dsimp only
    rw [budget]
    exact ⟨_, rfl⟩

/-- The frame `f` went through as the `k`-th one, with the outcome `o`. -/
structure PlayedFrame.WentThrough (f : PlayedFrame) (k : Nat) (o : Outcome) : Prop where
  /-- It was not ended by a fault. -/
  returned : f.run.result = .ok o
  /-- It has the number `k`. -/
  numbered : o.prediction.id.toInt = k
  /-- It was to be shown when it was due. -/
  due : o.prediction.displayTime.toNat = f.before.dueTime
  /-- The clock was moved forward to its wake-up time. -/
  forward : f.before.now < o.prediction.wakeUpTime
  /-- No frame is in flight after it. -/
  settled : f.run.app.scheduler.liveCount = 0
  /-- What it says about the pacing exists. -/
  measured : ∃ q, FrameQuality.ofOutcome? o = .ok q

namespace Application

variable {a : Application} {c : Config} {k : Nat}

/-- The next frame of an idle application has the next number, and is due. -/
theorem Idle.exists_launch (idle : Idle c k a) (valid : c.check = .ok ()) (bounds : a.InBounds) :
    ∃ l : Launch a, l.prediction.id.toInt = (k + 1 : Nat) ∧
      l.prediction.displayTime.toNat = a.dueTime ∧ a.now < l.prediction.wakeUpTime := by
  obtain ⟨l, display, forward⟩ :=
    Application.exists_launch (idle.config ▸ valid) idle.refreshes (fun id => idle.free _) bounds
  have number : l.id.toInt = (k + 1 : Nat) := by
    rw [FrameId.toInt_of_next? l.counted, idle.counter]
    rfl
  exact ⟨l, number, display, forward⟩

/-- A frame that is dropped goes through and leaves the application idle. -/
theorem Idle.discardNext (idle : Idle c k a) (valid : c.check = .ok ()) (bounds : a.InBounds)
    (t : Tracer) (w : Workload) :
    (∃ o, (⟨a, a.discardNext t w⟩ : PlayedFrame).WentThrough (k + 1) o) ∧
      Idle c (k + 1) (a.discardNext t w).app := by
  obtain ⟨l, number, due, forward⟩ := idle.exists_launch valid bounds
  have after : Idle c (k + 1) (l.dropped w) := idle.of_freed l rfl rfl rfl rfl
  rw [l.discardNext_eq t w]
  exact ⟨⟨_, rfl, number, due, forward, after.liveCount_eq_zero, l.exists_quality rfl⟩, after⟩

/-- So does a frame that is delivered. -/
theorem Idle.deliverNext (idle : Idle c k a) (valid : c.check = .ok ()) (bounds : a.InBounds)
    (t : Tracer) (w : Workload) :
    (∃ o, (⟨a, a.deliverNext t w⟩ : PlayedFrame).WentThrough (k + 1) o) ∧
      Idle c (k + 1) (a.deliverNext t w).app := by
  obtain ⟨l, number, due, forward⟩ := idle.exists_launch valid bounds
  obtain ⟨shown, shows⟩ := Display.exists_presentation idle.refreshes (w.done l.prediction)
  have after : Idle c (k + 1) (l.delivered w) := idle.of_freed l rfl rfl rfl rfl
  rw [l.deliverNext_eq t w shows]
  exact ⟨⟨_, rfl, number, due, forward, after.liveCount_eq_zero, l.exists_quality rfl⟩, after⟩

/-- Time that passes and other displays leave it idle. -/
theorem Idle.elapse (idle : Idle c k a) (d : Span) : Idle c k (a.elapse d) :=
  ⟨idle.config, idle.free, idle.counter, idle.refreshes⟩

theorem Idle.switch (idle : Idle c k a) (origin : Instant) (refreshPeriod extra : Span) :
    Idle c k (a.act (.switch origin refreshPeriod extra)) := by
  have refreshes := idle.refreshes.act (.switch origin refreshPeriod extra)
  unfold act at refreshes ⊢
  dsimp only at refreshes ⊢
  split at refreshes
  · exact ⟨idle.config, idle.free, idle.counter, refreshes⟩
  · exact idle

/-- All frames of a history go through, if times and ids do not run out with any of them. -/
theorem Idle.frames_wentThrough (valid : c.check = .ok ()) (idle : Idle c k a)
    (actions : List Action) (bounds : ∀ f ∈ a.frames actions, f.before.InBounds) :
    ∀ j (f : PlayedFrame), (a.frames actions)[j]? = some f →
      ∃ o, f.WentThrough (k + j + 1) o := by
  induction actions generalizing a k with
  | nil =>
    intro j f found
    cases found
  | cons action rest ih =>
    have frame {played : PlayedFrame} (through : ∃ o, played.WentThrough (k + 1) o)
        (after : Idle c (k + 1) played.run.app)
        (bounds : ∀ f ∈ played.run.app.frames rest, f.before.InBounds) :
        ∀ j (f : PlayedFrame), (played :: played.run.app.frames rest)[j]? = some f →
          ∃ o, f.WentThrough (k + j + 1) o := by
      rintro (_ | j) f found
      · obtain rfl := Option.some.inj found
        exact through
      · have later := ih after bounds j f found
        rw [Nat.add_right_comm k 1 j] at later
        exact later
    cases action with
    | deliver t w =>
      obtain ⟨first, others⟩ := List.forall_mem_cons.mp bounds
      obtain ⟨through, after⟩ := idle.deliverNext valid first t w
      exact frame through after others
    | discard t w =>
      obtain ⟨first, others⟩ := List.forall_mem_cons.mp bounds
      obtain ⟨through, after⟩ := idle.discardNext valid first t w
      exact frame through after others
    | elapse d => exact ih (idle.elapse d) bounds
    | switch origin refreshPeriod extra =>
      exact ih (idle.switch origin refreshPeriod extra) bounds

/-- **No frame is refused**: with valid settings and a display that was built, there is an
application for every start of the clock, and whatever happens to it, all frames go through with the
numbers 1, 2, …, if times and ids do not run out with any of them. -/
theorem frames_return {c : Config} (valid : c.check = .ok ()) {origin : Instant}
    {refreshPeriod extra : Span} {d : Display}
    (built : Display.create origin refreshPeriod extra = .ok d) (start : Instant) :
    ∃ a₀, create c d start = .ok a₀ ∧ ∀ actions : List Action,
      (∀ f ∈ a₀.frames actions, f.before.InBounds) →
        ∀ k (f : PlayedFrame), (a₀.frames actions)[k]? = some f →
          ∃ o, f.WentThrough (k + 1) o := by
  obtain ⟨a₀, created, idle⟩ :=
    idle_create valid (Display.refreshPeriod_ne_zero_of_create built) start
  refine ⟨a₀, created, fun actions bounds k f found => ?_⟩
  have through := idle.frames_wentThrough valid actions bounds k f found
  rw [Nat.zero_add] at through
  exact through

/-- The work on the first frame turns the clock back by a nanosecond, and then time wraps round. On
another display a frame is dropped, and the clock is turned back again before the next delivery. -/
def wrappingHistory : List Action :=
  [.discard .attached ⟨⟨20000⟩, ⟨18446744073709551615⟩, ⟨0⟩⟩, .elapse ⟨18446744073705000000⟩,
    .switch ⟨5000000⟩ ⟨11111111⟩ ⟨500000⟩, .discard .detached .short,
    .deliver .attached ⟨⟨20000⟩, ⟨1000000⟩, ⟨18446744073709551615⟩⟩]

theorem frames_return_wrapping :
    ∃ f o, (newApplication.frames wrappingHistory)[2]? = some f ∧ f.WentThrough 3 o := by
  obtain ⟨a₀, created, through⟩ := frames_return (c := .conservative) rfl
    (show Display.create ⟨0⟩ ⟨16000000⟩ ⟨1000000⟩ = .ok ⟨⟨0⟩, ⟨16000000⟩, ⟨1000000⟩⟩ from rfl) ⟨0⟩
  have new : create .conservative ⟨⟨0⟩, ⟨16000000⟩, ⟨1000000⟩⟩ ⟨0⟩ = .ok newApplication := rfl
  obtain rfl := Except.ok.inj (new.symm.trans created)
  have bounds : (newApplication.frames wrappingHistory).all (fun f => f.before.InBounds) := by
    decide +kernel
  obtain ⟨f, found⟩ : ∃ f, (newApplication.frames wrappingHistory)[2]? = some f := ⟨_, rfl⟩
  obtain ⟨o, went⟩ := through wrappingHistory (by simpa using bounds) 2 f found
  exact ⟨f, o, found, went⟩

end Application

end FramePacing
