import PlugWatch.Proofs.Color.Linkless
import PlugWatch.Proofs.Detection.Gate
import PlugWatch.Proofs.Detection.Steady
import PlugWatch.Proofs.Detection.SteadyOutput
import PlugWatch.Proofs.Sampling.Refresh
import PlugWatch.Proofs.Timing.Subdivision
/-!
# A brick that is left alone

While nobody asks for anything and nothing is plugged or unplugged, the jobs of a controller are all
that happens. Then no session is ever started and the bit timer never runs; the sampler refreshes every
slot long before the gate of the manager opens; and from then on every port is on the course to the
verdict on what it shows.

## Main Definitions

* `Surroundings` : what a brick stands in.
* `Controller.LeftAlone` : a controller that has been left alone for a number of ticks.

## Main Statements

* `Controller.leftAlone_runJob` : the job that is due leaves the controller alone.
* `Controller.leftAlone_runUntil` : so does a run that gets to its end.
* `Controller.LeftAlone.verdicts` : half a second behind the hold-off every port has its verdict.

## Design Notes

The number of ticks stands in for the time. Both the gate and the courses count ticks, and the deadline
of the manager says which instant that is.
-/

namespace PlugWatch

/-! ## The usual delays -/

namespace DetectionConfig

theorem tickLength_usual (resetMs : UInt16) :
    ({ resetMs := resetMs } : DetectionConfig).tickLength = 10 := by
  show max (10 : UInt16) 1 = 10
  decide

theorem ticks_usual (resetMs ms : UInt16) :
    ({ resetMs := resetMs } : DetectionConfig).ticks ms = ms / 10 := by
  rw [ticks, tickLength_usual]

theorem spans_usual (resetMs : UInt16) :
    span ({ resetMs := resetMs } : DetectionConfig).floatTicks = 2 ∧
      span ({ resetMs := resetMs } : DetectionConfig).connectTicks = 35 ∧
      span ({ resetMs := resetMs } : DetectionConfig).lowTicks = 2 := by
  rw [floatTicks, connectTicks, lowTicks, ticks_usual, ticks_usual]
  exact ⟨show span (20 / 10) = 2 by decide, show span (350 / 10) = 35 by decide,
    show span (20 / 10) = 2 by decide⟩

/-- The usual limits are far below the highest count. -/
theorem limits_usual (resetMs : UInt16) :
    ({ resetMs := resetMs } : DetectionConfig).colorTimeoutTicks ≠ 65535 ∧
      ({ resetMs := resetMs } : DetectionConfig).lowTicks ≠ 65535 := by
  rw [colorTimeoutTicks, lowTicks, ticks_usual, ticks_usual]
  exact ⟨show (500 / 10 : UInt16) ≠ 65535 by decide, show (20 / 10 : UInt16) ≠ 65535 by decide⟩

end DetectionConfig

/-! ## Ports without a colour sensor -/

namespace PortState

variable {config : DetectionConfig} {port : Port} {pin1 : UInt16} {level : InputPins Bool}
  {state : PortState} {n : Nat}

/-- On the way to the verdict there is no session. -/
theorem Course.not_inColorSession (h : Course config pin1 level n state) :
    state.stage.inColorSession = false := by
  cases h with
  | start h hstage => rw [hstage]; rfl
  | settle h hstage => rw [hstage]; rfl
  | watch h hstage => rw [hstage]; rfl
  | hold h hstage => rw [hstage]; rfl
  | act h hstage => rw [hstage]; rfl
  | probe h hstage =>
    rw [hstage, stageOf_steadyConditions]
    split
    · rfl
    · split
      · rfl
      · split
        · rfl
        · split <;> rfl
  | confirm h hstage => rw [hstage]; rfl
  | stay h hstage =>
    cases hs : state.stage with
    | nxtColorInit | nxtColorWait | nxtColorBusy =>
      rw [hs] at hstage
      cases hstage
    | _ => rfl

/-- The course looks at the lines and the verdict of the socket only. -/
theorem Course.of_socket {watch : InputWatch} {before after : InputSocket} {session : Option Session}
    (h : Course config pin1 level n ⟨watch, before, session⟩) (hlines : after.lines = before.lines)
    (hverdict : after.verdict = before.verdict) :
    Course config pin1 level n ⟨watch, after, session⟩ := by
  have hopen : Open config level ⟨watch, before, session⟩ →
      Open config level ⟨watch, after, session⟩ :=
    fun h => h.of_eq rfl hlines rfl
  have hnone : before.verdict = .none → after.verdict = .none := hverdict.trans
  cases h with
  | start h hstage hn =>
    exact .start ⟨h.enabled, (congrArg InputLines.level hlines).trans h.level,
      (congrArg (fun lines => lines.drive.pin2) hlines).trans h.pin2, h.session⟩ hstage hn
  | settle h hstage hverdict htimer hn =>
    exact .settle (hopen h) hstage (hnone hverdict) htimer hn
  | watch h hstage hverdict htimer hn =>
    exact .watch (hopen h) hstage (hnone hverdict) htimer hn
  | hold h hstage hconditions hsome htimer hn =>
    exact .hold (hopen h) hstage hconditions hsome htimer hn
  | act h hstage hconditions hsome hn => exact .act (hopen h) hstage hconditions hsome hn
  | probe h hstage hconditions hsome hn => exact .probe (hopen h) hstage hconditions hsome hn
  | confirm h hstage hlevel hpin2 htouch htimer hn =>
    exact .confirm (hopen h) hstage hlevel hpin2 htouch htimer hn
  | stay h hstage hreleased hshown hn =>
    refine .stay (hopen h) hstage ?_ (hverdict.trans hshown) hn
    unfold released sees lines at hreleased ⊢
    dsimp only at hreleased ⊢
    rw [hlines]
    exact hreleased

end PortState

/-! ## The controller -/

/-- A bit timer that is neither armed nor wanted stays so. -/
theorem Clock.syncColor_of_idle {clock : Clock} (h : clock.colorDue = none) {period : UInt32} :
    clock.syncColor false period = clock := by
  unfold syncColor
  rw [h]

/-- What a brick stands in: the counts of the channels, and what the far side of the lines shows. -/
structure Surroundings where
  /-- The count of the channel behind each slot. -/
  counts : Slot → UInt16
  /-- The levels of the pins of each input port. -/
  inputs : Port → InputPins Bool
  /-- The level of pin 6 of each output port. -/
  outputs : Port → Bool

namespace Controller

/-- The most ticks that a port needs to its verdict, once a number of ticks have passed. -/
def courseLeft (config : DetectionConfig) (n : Nat) : Nat := 43 - (n - Startup.ticksToOpen config)

/-- Behind the open gate a tick is one of the ticks that are left. -/
theorem courseLeft_succ (config : DetectionConfig) (n : Nat) :
    courseLeft config (n + 1) =
      if Startup.ticksToOpen config ≤ n then courseLeft config n - 1 else courseLeft config n := by
  unfold courseLeft
  split <;> omega

/-- The course of an input port is no longer than that. -/
theorem courseTicks_le_courseLeft (resetMs pin1 : UInt16) (level : InputPins Bool) :
    1 + span ({ resetMs := resetMs } : DetectionConfig).floatTicks +
      PortState.watchTicks { resetMs := resetMs } pin1 level ≤ courseLeft { resetMs := resetMs } 0 := by
  obtain ⟨hfloat, hconnect, -⟩ := DetectionConfig.spans_usual resetMs
  have htouch : touchSpan { resetMs := resetMs } pin1 level = 0 := if_neg Bool.false_ne_true
  unfold PortState.watchTicks courseLeft
  rw [htouch, hfloat, hconnect]
  split <;> omega

/-- Nor is the course of an output port. -/
theorem loadTicks_le_courseLeft (resetMs pin5 : UInt16) (pin6 : Bool) :
    1 + span ({ resetMs := resetMs } : DetectionConfig).floatTicks +
      OutputState.loadTicks { resetMs := resetMs } pin5 pin6 ≤ courseLeft { resetMs := resetMs } 0 := by
  obtain ⟨hfloat, hconnect, hlow⟩ := DetectionConfig.spans_usual resetMs
  have hdriven : OutputState.drivenSpan { resetMs := resetMs } pin5 pin6 ≤ 2 := by
    unfold OutputState.drivenSpan
    rw [hlow]
    split <;> omega
  unfold OutputState.loadTicks courseLeft
  rw [hfloat, hconnect, hlow]
  split <;> omega

/-- A controller with the usual delays but for the hold-off that has been left alone for a number of
ticks of its manager. -/
structure LeftAlone (around : Surroundings) (resetMs : UInt16) (n : Nat) (c : Controller Multiplexer) :
    Prop where
  config : c.manager.config = { resetMs := resetMs }
  testMode : c.manager.testMode = false
  startup : c.manager.startup = .after c.manager.config n
  manageDue : c.clock.manageDue.toNat = 10000 * (n + 1)
  colorDue : c.clock.colorDue = none
  paced : c.samplerScene.Paced c.clock.sampleDue.toNat
  counts : ∀ slot, c.adc.slot slot = around.counts slot
  colorless : ∀ port, (c.portState port).Colorless
  inputs : ∀ port, ∃ k ≤ courseLeft c.manager.config n,
    PortState.Course c.manager.config (around.counts (.inPin1 port)) (around.inputs port) k
      (c.portState port)
  outputs : ∀ port, ∃ k ≤ courseLeft c.manager.config n,
    OutputState.Course c.manager.config (around.counts (.outPin5 port)) (around.outputs port) k
      (c.outputState port)

variable {around : Surroundings} {resetMs : UInt16} {n : Nat} {c after : Controller Multiplexer}

/-- Setting the present instant leaves a controller alone. -/
theorem LeftAlone.at_instant (h : LeftAlone around resetMs n c) (instant : UInt64) :
    LeftAlone around resetMs n (c.mapClock fun clock => { clock with now := instant }) :=
  ⟨h.config, h.testMode, h.startup, h.manageDue, h.colorDue, h.paced, h.counts, h.colorless, h.inputs,
    h.outputs⟩

/-- A burst works, and leaves the controller alone until the next one, if there is an instant for it. -/
theorem leftAlone_sampleTick (h : LeftAlone around resetMs n c) :
    ∃ period left, c.sampleTick = (.ok period, left) ∧
      (Clock.overflow? left.clock.sampleDue period = none →
        LeftAlone around resetMs n (left.mapClock fun clock => clock.delaySample period)) := by
  obtain ⟨period, scene, hburst, hpaced, hchannels⟩ :=
    SamplerScene.paced_burst h.paced fun port => (h.colorless port).active
  have hperiod : c.sampleTick.1 = .ok period := congrArg Prod.fst hburst
  have hscene : c.sampleTick.2.samplerScene = scene := congrArg Prod.snd hburst
  have hlines : ∀ port, (c.sampleTick.2.portState port).lines = (c.portState port).lines :=
    fun port => lines_sampleTick_of_not_clocks (h.colorless port).not_clocks
  refine ⟨period, c.sampleTick.2, Prod.ext hperiod rfl, fun hfits => ⟨h.config, h.testMode,
    h.startup, h.manageDue, h.colorDue, ?_, ?_, ?_, ?_, ?_⟩⟩
  · show c.sampleTick.2.samplerScene.Paced
      (Clock.after c.sampleTick.2.clock.sampleDue period).toNat
    rw [hscene, Clock.toNat_after hfits]
    exact hpaced
  · intro slot
    rw [← h.counts slot]
    show c.sampleTick.2.samplerScene.adc.channels[channelOf slot] = c.adc.channels[channelOf slot]
    rw [hscene, hchannels]
    rfl
  · intro port
    have hcolorless := colorless_sampleTick (h.colorless port)
    exact ⟨hcolorless.unused, hcolorless.active, hcolorless.clocking⟩
  · intro port
    obtain ⟨k, hk, hcourse⟩ := h.inputs port
    exact ⟨k, hk, hcourse.of_socket (hlines port) (undisturbed_sampleTick c port).verdict⟩
  · intro port
    obtain ⟨k, hk, hcourse⟩ := h.outputs port
    refine ⟨k, hk, ?_⟩
    have hport : c.sampleTick.2.outputState port = c.outputState port :=
      congrArg (fun outputs => OutputState.mk _ (PerPort.get outputs port)) (outputs_sampleTick c)
    exact hport ▸ hcourse

/-- Without a session in use the bit timer is not wanted. -/
theorem colorTimerRunning_of_colorless (h : ∀ port, (c.portState port).Colorless) :
    c.colorTimerRunning = false := by
  unfold colorTimerRunning
  cases hlink : c.link with
  | none => rfl
  | some link =>
    refine PerPort.any_eq_false fun port => (h port).unused _ ?_
    show ColorLink.session? c.link port = some (link.sessions.get port)
    rw [hlink]
    rfl

/-- Once the gate is open the samples are those of the surroundings. -/
theorem LeftAlone.fresh (h : LeftAlone around resetMs n c)
    (hopen : Startup.ticksToOpen c.manager.config ≤ n)
    (hdue : c.clock.manageDue < c.clock.sampleDue) (slot : Slot) :
    c.board.samples.get slot = around.counts slot := by
  have hspan := span_pos c.manager.config.resetTicks
  have hmanage := h.manageDue
  have hlate : 2 + span c.manager.config.resetTicks ≤ n := hopen
  have hdue := UInt64.lt_iff_toNat_lt.mp hdue
  rw [← h.counts slot]
  exact h.paced.fresh (by omega) slot

theorem LeftAlone.isRunning_iff (h : LeftAlone around resetMs n c) :
    c.manager.isRunning = true ↔ Startup.ticksToOpen c.manager.config ≤ n := by
  rw [Manager.isRunning_iff, h.startup, Startup.after_eq_running]

theorem LeftAlone.colorless_managerTick (h : LeftAlone around resetMs n c) (port : Port) :
    (c.managerTick.portState port).Colorless := by
  obtain ⟨k, -, hcourse⟩ := h.inputs port
  rw [portState_managerTick]
  split
  · have hnone := hcourse.not_inColorSession
    refine PortState.colorless_tick (h.colorless port) (fun hwait => ?_) fun hbusy => ?_
    · rw [hwait] at hnone
      cases hnone
    · rw [hbusy] at hnone
      cases hnone
  · exact h.colorless port

/-- The bit timer is neither armed nor wanted, so a tick of the manager leaves the clock as it is. -/
theorem LeftAlone.clock_managerTick (h : LeftAlone around resetMs n c) :
    c.managerTick.clock = c.clock := by
  rw [Controller.clock_managerTick, colorTimerRunning_of_colorless h.colorless_managerTick,
    Clock.syncColor_of_idle h.colorDue]

/-- Once the gate is open a tick of the manager is a tick of the course of an input port. -/
theorem LeftAlone.input_managerTick (h : LeftAlone around resetMs n c)
    (hdue : c.clock.manageDue < c.clock.sampleDue) (port : Port) :
    ∃ k ≤ courseLeft c.manager.config (n + 1),
      PortState.Course c.manager.config (around.counts (.inPin1 port)) (around.inputs port) k
        (c.managerTick.portState port) := by
  obtain ⟨k, hk, hcourse⟩ := h.inputs port
  rw [portState_managerTick, courseLeft_succ]
  by_cases hopen : Startup.ticksToOpen c.manager.config ≤ n
  · rw [if_pos (h.isRunning_iff.mpr hopen), if_pos hopen,
      show c.board.samples.inPin1 port = around.counts (.inPin1 port) from h.fresh hopen hdue _]
    exact ⟨k - 1, Nat.sub_le_sub_right hk 1, PortState.course_tick hcourse⟩
  · rw [if_neg fun hrunning => hopen (h.isRunning_iff.mp hrunning), if_neg hopen]
    exact ⟨k, hk, hcourse⟩

/-- The same for an output port. -/
theorem LeftAlone.output_managerTick (h : LeftAlone around resetMs n c)
    (hdue : c.clock.manageDue < c.clock.sampleDue) (port : Port) :
    ∃ k ≤ courseLeft c.manager.config (n + 1),
      OutputState.Course c.manager.config (around.counts (.outPin5 port)) (around.outputs port) k
        (c.managerTick.outputState port) := by
  obtain ⟨k, hk, hcourse⟩ := h.outputs port
  have htick : c.managerTick.outputState port =
      if c.manager.isRunning then
        (c.outputState port).tick c.manager.config port (c.board.samples.outPin5 port)
      else c.outputState port :=
    Manager.outputState_tick c.manager ⟨c.board, c.link, c.journal⟩ port
  rw [htick, courseLeft_succ]
  by_cases hopen : Startup.ticksToOpen c.manager.config ≤ n
  · have hrelease : 1 < c.manager.config.releaseTicks := by
      rw [h.config, DetectionConfig.releaseTicks, DetectionConfig.ticks_usual]
      show (1 : UInt16) < 100 / 10
      decide
    rw [if_pos (h.isRunning_iff.mpr hopen), if_pos hopen,
      show c.board.samples.outPin5 port = around.counts (.outPin5 port) from h.fresh hopen hdue _]
    exact ⟨k - 1, Nat.sub_le_sub_right hk 1, OutputState.course_tick hrelease hcourse⟩
  · rw [if_neg fun hrunning => hopen (h.isRunning_iff.mp hrunning), if_neg hopen]
    exact ⟨k, hk, hcourse⟩

/-- A tick of the manager leaves the controller alone for one tick more, if there is an instant for the
next one. -/
theorem leftAlone_managerTick (h : LeftAlone around resetMs n c)
    (hdue : c.clock.manageDue < c.clock.sampleDue)
    (hfits : Clock.overflow? c.clock.manageDue c.manager.config.tickMicros = none) :
    LeftAlone around resetMs (n + 1)
      (c.managerTick.mapClock fun clock => clock.delayManage c.manager.config.tickMicros) := by
  obtain ⟨hconfig, hsamples, -⟩ := frame_managerTick c
  obtain ⟨hstartup, htestMode⟩ := Manager.gate_tick c.manager ⟨c.board, c.link, c.journal⟩
  refine ⟨hconfig.trans h.config, htestMode.trans h.testMode, ?_, ?_, ?_, ?_, h.counts,
    h.colorless_managerTick, ?_, ?_⟩
  · show c.managerTick.manager.startup = .after c.managerTick.manager.config (n + 1)
    rw [hconfig, ← Startup.next_after, ← h.startup, ← h.testMode]
    exact hstartup
  · have htick : c.manager.config.tickMicros.toNat = 10000 := by
      rw [h.config, DetectionConfig.toNat_tickMicros, DetectionConfig.tickLength_usual]
      rfl
    show (Clock.after c.managerTick.clock.manageDue c.manager.config.tickMicros).toNat = _
    rw [h.clock_managerTick, Clock.toNat_after hfits, h.manageDue, htick]
    omega
  · show c.managerTick.clock.colorDue = none
    rw [h.clock_managerTick, h.colorDue]
  · show c.managerTick.samplerScene.Paced c.managerTick.clock.sampleDue.toNat
    rw [h.clock_managerTick]
    exact h.paced.of_eq rfl rfl hsamples
  · intro port
    show ∃ k ≤ courseLeft c.managerTick.manager.config (n + 1), PortState.Course
      c.managerTick.manager.config _ _ k (c.managerTick.portState port)
    rw [hconfig]
    exact h.input_managerTick hdue port
  · intro port
    show ∃ k ≤ courseLeft c.managerTick.manager.config (n + 1), OutputState.Course
      c.managerTick.manager.config _ _ k (c.managerTick.outputState port)
    rw [hconfig]
    exact h.output_managerTick hdue port

/-- The job that is due leaves the controller alone. -/
theorem leftAlone_runJob (h : LeftAlone around resetMs n c)
    (hrun : c.runJob c.clock.next.1 c.clock.next.2 = (.ok (), after)) :
    ∃ n, LeftAlone around resetMs n after := by
  have hnext : c.clock.next =
      if c.clock.manageDue < c.clock.sampleDue then (c.clock.manageDue, Job.manage)
      else (c.clock.sampleDue, Job.sample) := by
    unfold Clock.next
    rw [h.colorDue]
  by_cases hdue : c.clock.manageDue < c.clock.sampleDue
  · rw [hnext, if_pos hdue] at hrun
    simp only [runJob, Prod.mk.injEq, Stop.check_eq_ok_iff, Option.or_eq_none_iff] at hrun
    obtain ⟨⟨-, hfits⟩, rfl⟩ := hrun
    exact ⟨n + 1, leftAlone_managerTick (h.at_instant c.clock.manageDue) hdue hfits⟩
  · rw [hnext, if_neg hdue] at hrun
    obtain ⟨period, left, hburst, hleft⟩ := leftAlone_sampleTick (h.at_instant c.clock.sampleDue)
    unfold runJob at hrun
    dsimp only at hrun
    rw [hburst] at hrun
    simp only [Prod.mk.injEq, Stop.check_eq_ok_iff] at hrun
    obtain ⟨hfits, rfl⟩ := hrun
    exact ⟨n, hleft hfits⟩

/-- A run that gets to its end leaves the controller alone. -/
theorem leftAlone_runUntil (h : LeftAlone around resetMs n c) {target : UInt64}
    (hok : (c.runUntil target).1 = .ok ()) : ∃ n, LeftAlone around resetMs n (c.runUntil target).2 := by
  fun_induction runUntil c target generalizing n with
  | case1 c hle after hrun ih =>
    obtain ⟨m, hafter⟩ := leftAlone_runJob h hrun
    exact ih hafter hok
  | case2 c hle stop after hrun => cases hok
  | case3 c hle => exact ⟨n, h.at_instant _⟩

theorem LeftAlone.neverFails (h : LeftAlone around resetMs n c) : NeverFails c.adc := by
  refine Multiplexer.neverFails ?_
  cases h.paced with
  | first cycle hpointer hdue h => exact h.on
  | second cycle hpointer hdue h => exact h.on
  | third cycle hpointer hdue h => exact h.on

/-- Half a second behind the hold-off every port has its verdict. -/
theorem LeftAlone.verdicts (h : LeftAlone around resetMs n c) (hahead : c.clock.Ahead)
    (hnow : (resetMs.toNat + 500) * 1000 ≤ c.clock.now.toNat) (port : Port) :
    (c.portState port).verdict =
        steadyVerdict c.manager.config (around.counts (.inPin1 port)) (around.inputs port) ∧
      (c.outputState port).Shows
        (loadVerdict (around.counts (.outPin5 port)) (around.outputs port)) := by
  have hreset : c.manager.config.resetTicks.toNat = resetMs.toNat / 10 := by
    rw [h.config, DetectionConfig.resetTicks, DetectionConfig.ticks_usual, UInt16.toNat_div]
    rfl
  have hover : courseLeft c.manager.config n = 0 := by
    have hdue := UInt64.lt_iff_toNat_lt.mp (UInt64.lt_of_lt_of_le hahead c.clock.next_le_manageDue)
    rw [h.manageDue] at hdue
    unfold courseLeft Startup.ticksToOpen span
    omega
  obtain ⟨k, hk, hinput⟩ := h.inputs port
  obtain ⟨l, hl, houtput⟩ := h.outputs port
  rw [hover, Nat.le_zero_eq] at hk hl
  subst hk hl
  exact ⟨hinput.verdict, houtput.shows⟩

end Controller

end PlugWatch
