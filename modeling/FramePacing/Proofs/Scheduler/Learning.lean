import FramePacing.Proofs.Scheduler.History

/-!
# What the estimates learn from

The estimates are made of the deliveries that were returned and of nothing else: each of the two is
a left fold of the filter over its own samples, from the configured seed on, and the margin stays
(`estimates_follow_deliveries`). So a frame that is dropped, a call that is refused or a report of
the display never shows in a later wake-up time, and the CPU time never leaks into the draw time.

The invariant `Learned` holds because a delivery is the only effect that writes the estimates
(`Effect.latency_eq`), and its report says what they were and what they have become.
-/

namespace FramePacing

variable {n : Nat}

/-- The report of a delivery that was returned. -/
def Entry.delivery? (e : Entry n) : Option Delivered :=
  match e.call, e.result with
  | .deliver _, .ok (.delivered d) => some d
  | _, _ => none

/-- The deliveries that were returned, in order. -/
def deliveries (h : List (Entry n)) : List Delivered := h.filterMap Entry.delivery?

/-- The estimate that starts at `seed` and follows the samples one after another, with the weight
for rising ones exactly where a sample exceeds it. -/
def Config.follow (c : Config) (seed : Span) (samples : List Span) : Span :=
  samples.foldl
    (fun current sample =>
      blend (if current < sample then c.alphaRising else c.alphaFalling) current sample)
    seed

theorem Config.follow_concat (c : Config) (seed sample : Span) (samples : List Span) :
    c.follow seed (samples ++ [sample]) = c.smoothing.smooth (c.follow seed samples) sample :=
  List.foldl_append

namespace Scheduler

/-- Whatever is not a delivery leaves the estimates alone. -/
theorem Effect.latency_eq {s s' : Scheduler n} {now : Instant} {c : Call}
    {r : Except Fault Reply} (effect : Effect s now c s' r)
    (other : (⟨s, now, c, r⟩ : Entry n).delivery? = none) : s'.latency = s.latency := by
  cases effect with
  | delivered _ _ => cases other
  | _ => rfl

/-- The estimates of a scheduler and the deliveries of its history. -/
structure Learned (c : Config) (s : Scheduler n) (h : List (Entry n)) : Prop where
  /-- The settings are those of the beginning. -/
  config_eq : s.config = c
  /-- The margin stays. -/
  margin_eq : s.latency.margin = c.margin
  /-- The CPU time follows the CPU samples. -/
  cpu_eq : s.latency.cpu = c.follow c.initialCpu ((deliveries h).map Delivered.cpuSample)
  /-- The draw time follows the draw samples. -/
  draw_eq : s.latency.draw = c.follow c.initialDraw ((deliveries h).map Delivered.drawSample)
  /-- Each delivery starts where the one before it ended. -/
  linked : (deliveries h).map Delivered.previous ++ [s.latency] =
    c.firstEstimate :: (deliveries h).map Delivered.updated

theorem learned_initial (c : Config) (pos : 0 < n) : Learned c (initial c pos) [] :=
  ⟨rfl, rfl, rfl, rfl, rfl⟩

/-- A call that delivers nothing. -/
theorem Learned.of_no_delivery {c : Config} {s s' : Scheduler n} {h : List (Entry n)}
    {e : Entry n} (learned : Learned c s h) (nothing : e.delivery? = none)
    (config : s'.config = s.config) (latency : s'.latency = s.latency) :
    Learned c s' (h ++ [e]) := by
  have same : deliveries (h ++ [e]) = deliveries h := by simp [deliveries, nothing]
  obtain ⟨config_eq, margin_eq, cpu_eq, draw_eq, linked⟩ := learned
  constructor <;> simp only [same, config, latency] <;> assumption

/-- A delivery is one sample more for each estimate. -/
theorem Learned.of_delivery {c : Config} {s s' : Scheduler n} {h : List (Entry n)} {e : Entry n}
    {d : Delivered} (learned : Learned c s h) (delivery : e.delivery? = some d)
    (config : s'.config = s.config) (latency : s'.latency = d.updated)
    (previous : d.previous = s.latency)
    (updated : d.updated = s.latency.learn s.config.smoothing d.cpuSample d.drawSample) :
    Learned c s' (h ++ [e]) := by
  have list : deliveries (h ++ [e]) = deliveries h ++ [d] := by simp [deliveries, delivery]
  have learnt := updated
  rw [learned.config_eq] at learnt
  refine ⟨config.trans learned.config_eq, ?_, ?_, ?_, ?_⟩
  · rw [latency, learnt]
    exact learned.margin_eq
  · rw [latency, learnt, list, List.map_append, List.map_singleton, Config.follow_concat,
      ← learned.cpu_eq]
    rfl
  · rw [latency, learnt, list, List.map_append, List.map_singleton, Config.follow_concat,
      ← learned.draw_eq]
    rfl
  · rw [list, List.map_append, List.map_append, List.map_singleton, List.map_singleton, previous,
      learned.linked, latency, List.cons_append]

/-- Every call keeps the account of the estimates. -/
theorem Learned.call {c : Config} {s s' : Scheduler n} {h : List (Entry n)} {now : Instant}
    {call : Call} {r : Except Fault Reply} (learned : Learned c s h)
    (effect : Effect s now call s' r) : Learned c s' (h ++ [⟨s, now, call, r⟩]) := by
  cases found : (⟨s, now, call, r⟩ : Entry n).delivery? with
  | none => exact learned.of_no_delivery found effect.config_eq (effect.latency_eq found)
  | some d =>
    cases effect with
    | delivered held stage =>
      cases found
      exact learned.of_delivery rfl rfl rfl rfl rfl
    | @refused call f _ => cases call <;> cases found
    | _ => cases found

theorem learned_run {c : Config} {s₀ : Scheduler n} (created : create n c = .ok s₀)
    (calls : List (Instant × Call)) : Learned c (s₀.run calls) (s₀.history calls) :=
  run_induction created (learned_initial c) (fun _ => Learned.call) calls

/-- **Estimates**: at every moment of a run, the margin is the configured one, the CPU time has
followed the CPU samples of the deliveries that were returned, and the draw time their draw samples.
Each delivery starts from the estimates that the one before it left, the first one from the seeds,
and the last one has left the present ones. A call that is no delivery, or is refused, leaves them
alone. -/
theorem estimates_follow_deliveries {c : Config} {s₀ : Scheduler n}
    (created : create n c = .ok s₀) (calls : List (Instant × Call)) :
    (s₀.run calls).latency.margin = c.margin ∧
    (s₀.run calls).latency.cpu =
      c.follow c.initialCpu ((deliveries (s₀.history calls)).map Delivered.cpuSample) ∧
    (s₀.run calls).latency.draw =
      c.follow c.initialDraw ((deliveries (s₀.history calls)).map Delivered.drawSample) ∧
    (deliveries (s₀.history calls)).map Delivered.previous ++ [(s₀.run calls).latency] =
      c.firstEstimate :: (deliveries (s₀.history calls)).map Delivered.updated ∧
    ∀ now call, (∀ d, ((s₀.run calls).call now call).result ≠ .ok (.delivered d)) →
      ((s₀.run calls).call now call).next.latency = (s₀.run calls).latency := by
  have learned := learned_run created calls
  refine ⟨learned.margin_eq, learned.cpu_eq, learned.draw_eq, learned.linked, ?_⟩
  intro now call other
  refine (call_effect (s₀.run calls) now call).latency_eq ?_
  unfold Entry.delivery?
  split
  · rename_i result
    exact absurd result (other _)
  · rfl

/-- The uneven run goes on: its two frames are delivered, the later one first, and that one a second
time. -/
def deliveringRun : List (Instant × Call) :=
  unevenRun ++ [(⟨80000000⟩, .mark ⟨1⟩ .begin ⟨0⟩), (⟨85000000⟩, .deliver ⟨4⟩),
    (⟨86000000⟩, .deliver ⟨4⟩), (⟨90000000⟩, .deliver ⟨1⟩)]

theorem estimates_follow_deliveries_uneven :
    ((initial .conservative Nat.two_pos : Scheduler 2).run deliveringRun).latency.cpu =
        Config.conservative.follow ⟨2000000⟩ [⟨2000000⟩, ⟨3000000⟩] ∧
      ((initial .conservative Nat.two_pos : Scheduler 2).run deliveringRun).latency.draw =
        Config.conservative.follow ⟨2000000⟩ [⟨9000000⟩, ⟨10000000⟩] := by
  obtain ⟨-, cpu, draw, -⟩ :=
    estimates_follow_deliveries (create_conservative Nat.two_pos) deliveringRun
  have cpuSamples : (deliveries ((initial .conservative Nat.two_pos : Scheduler 2).history
      deliveringRun)).map Delivered.cpuSample = [⟨2000000⟩, ⟨3000000⟩] := by decide +kernel
  have drawSamples : (deliveries ((initial .conservative Nat.two_pos : Scheduler 2).history
      deliveringRun)).map Delivered.drawSample = [⟨9000000⟩, ⟨10000000⟩] := by decide +kernel
  rw [cpuSamples] at cpu
  rw [drawSamples] at draw
  exact ⟨cpu, draw⟩

end Scheduler

end FramePacing
