import PlugWatch.Proofs.Color.Publication
import PlugWatch.Proofs.Detection.InputTick
import PlugWatch.Proofs.Detection.PortEvent
import PlugWatch.Proofs.Timing.Deadlines
/-!
# Who holds the bit timer

A session is begun in one stage of a watch and has to be given up on every way out of the wait for it:
when the answer is collected, when the time is up, when detection is switched off, when another command
is asked for and when test mode is switched. Between two ticks a request may move the watch on while the
session is still held; the tick that follows gives it up. So what a session goes by is not the stage but
the stage at the end of the last tick, and the deadline of the bit timer goes by the sessions.

## Main Definitions

* `PortState.Accounted` : the session of a port is in use exactly if the last tick ended in the wait for
  it.
* `Controller.InStep` : the bit timer is armed exactly while some session is in use.
* `Controller.Called` : the controllers that calls from outside lead to.

## Main Statements

* `PortState.accounted_tick`, `Controller.accounted_step`, `Controller.Reachable.accounted` : a tick, a
  step and every run keep the session accounted for.
* `Controller.inStep_step`, `Controller.inStep_runJob`, `Controller.Called.inStep` : requests, jobs and
  every interleaving of calls keep the bit timer in step.
* `Controller.sessions_never_leak` : the sessions and the bit timer of a controller that is called.
-/

namespace PlugWatch

namespace PortState

variable {before after state : PortState}

/-- The session is accounted for: it is in use exactly if the watch was waiting for it at the end of
the last tick. A request may have moved the watch on since then, to one of the two stages that give the
session up. -/
structure Accounted (state : PortState) : Prop where
  held : ∀ inUse ∈ state.session.map Session.inUse,
    (inUse = true ↔ state.watch.lastStage = .nxtColorBusy)
  moved : state.stage = state.watch.lastStage ∨ state.stage = .nxtColorInit ∨ state.stage = .init

theorem Accounted.of_eq (h : before.Accounted)
    (hsession : after.session.map Session.inUse = before.session.map Session.inUse)
    (hlast : after.watch.lastStage = before.watch.lastStage)
    (hstage : after.stage = before.stage ∨ after.stage = .nxtColorInit ∨ after.stage = .init) :
    after.Accounted := by
  refine ⟨?_, ?_⟩
  · rw [hsession, hlast]
    exact h.held
  · rw [hlast]
    rcases hstage with hsame | hmoved
    · rw [hsame]
      exact h.moved
    · exact .inr hmoved

/-- A session that is not waited for and not in use is accounted for. -/
theorem Accounted.of_unused (hlast : state.watch.lastStage = state.stage)
    (hstage : state.stage ≠ .nxtColorBusy)
    (hunused : ∀ session ∈ state.session, session.inUse = false) : state.Accounted := by
  refine ⟨fun inUse hmem => ?_, .inl hlast.symm⟩
  obtain ⟨session, hsession, rfl⟩ := Option.map_eq_some_iff.mp hmem
  rw [hunused session hsession, hlast]
  exact ⟨nofun, fun hbusy => absurd hbusy hstage⟩

theorem Accounted.unused (h : state.Accounted) (hlast : state.watch.lastStage ≠ .nxtColorBusy) :
    ∀ session ∈ state.session, session.inUse = false := by
  intro session hmem
  have hheld := h.held session.inUse (Option.mem_map_of_mem Session.inUse hmem)
  exact Bool.eq_false_iff.mpr fun hinUse => hlast (hheld.mp hinUse)

/-- At the end of a tick the stage is remembered. -/
theorem lastStage_tick (config : DetectionConfig) (port : Port) (pin1 : UInt16) (state : PortState) :
    (state.tick config port pin1).watch.lastStage = (state.tick config port pin1).stage := by
  show (ofScene ((state.scene.gate.act config port pin1).settle port)).watch.lastStage =
    (ofScene ((state.scene.gate.act config port pin1).settle port)).stage
  rw [ofScene_settle_eq]
  rfl

section Tick

variable (config : DetectionConfig) (port : Port) (pin1 : UInt16)

/-- With detection off, a tick gives up a session that is in use. -/
theorem unused_tick_of_off (h : state.Accounted) (hoff : state.enabled = false) :
    ∀ session ∈ (state.tick config port pin1).session, session.inUse = false := by
  rw [tick_eq_of_off config port pin1 hoff]
  dsimp only
  split
  · intro session hmem
    exact not_inUse_of_mem_stop hmem
  · rename_i hlast
    refine h.unused fun hbusy => hlast ?_
    rw [hbusy]
    rfl

/-- A request that takes the watch out of the wait has the next tick give the session up. -/
theorem unused_tick_of_moved (hon : state.enabled = true)
    (hmoved : state.stage = .nxtColorInit ∨ state.stage = .init) :
    (state.tick config port pin1).stage ≠ .nxtColorBusy ∧
      ∀ session ∈ (state.tick config port pin1).session, session.inUse = false := by
  rcases hmoved with hstage | hstage
  · rw [tick_nxtColorInit config port pin1 hon hstage]
    refine ⟨?_, fun session hmem => not_inUse_of_mem_stop hmem⟩
    show (if state.session.isSome then Stage.nxtColorWait else .connectedWaitingForPin2High) ≠ _
    split <;> nofun
  · rw [tick_init config port pin1 hon hstage]
    exact ⟨nofun, fun session hmem => not_inUse_of_mem_stop hmem⟩

/-- **A tick keeps the session accounted for.** -/
theorem accounted_tick (h : state.Accounted) : (state.tick config port pin1).Accounted := by
  have hlast := lastStage_tick config port pin1 state
  cases hon : state.enabled with
  | false =>
    refine .of_unused hlast ?_ (unused_tick_of_off config port pin1 h hon)
    rw [(tick_of_off config port pin1 hon).1]
    nofun
  | true =>
    by_cases hwaits : state.watch.lastStage = .nxtColorBusy
    · rcases h.moved with hstage | hmoved
      · -- the wait goes on, or the session is given up at its end
        rw [hwaits] at hstage
        rcases tick_nxtColorBusy config port pin1 hon hstage with
          ⟨hstays, hsession, -, -⟩ | ⟨hend, hsession, -⟩
        · refine ⟨?_, .inl hlast.symm⟩
          have hheld := h.held
          rw [hwaits] at hheld
          rw [hsession, hlast, hstays]
          exact hheld
        · refine .of_unused hlast (by rw [hend]; nofun) ?_
          rw [hsession]
          exact fun session hmem => not_inUse_of_mem_stop hmem
      · obtain ⟨hstage, hunused⟩ := unused_tick_of_moved config port pin1 hon hmoved
        exact .of_unused hlast hstage hunused
    · -- no session is in use, and one is begun only together with the wait for it
      have hunused := h.unused hwaits
      rcases (move_tick config port pin1 state).waits with
        ⟨-, hbusy, command, hsession⟩ | ⟨hbefore, -, -⟩ | ⟨hafter, hsession⟩
      · refine ⟨fun inUse hmem => ?_, .inl hlast.symm⟩
        rw [hsession, Option.map_map] at hmem
        obtain ⟨session, -, rfl⟩ := Option.map_eq_some_iff.mp hmem
        exact ⟨fun _ => hlast.trans hbusy, fun _ => rfl⟩
      · rcases h.moved with hstage | hstage | hstage
        · exact absurd (hstage.symm.trans hbefore) hwaits
        · exact nomatch hstage.symm.trans hbefore
        · exact nomatch hstage.symm.trans hbefore
      · refine .of_unused hlast hafter ?_
        rcases hsession with hsession | hsession
        · rw [hsession]
          exact hunused
        · rw [hsession]
          exact fun session hmem => not_inUse_of_mem_stop hmem

end Tick

end PortState

namespace Controller

variable {α ε : Type} {c : Controller α}

/-! ## Sessions -/

/-- A port holds a session if its session is in use. -/
theorem sessionInUse_iff (c : Controller α) (port : Port) :
    c.sessionInUse port = true ↔ true ∈ (c.portState port).session.map Session.inUse := by
  unfold sessionInUse portState
  dsimp only
  cases ColorLink.session? c.link port with
  | none => simp
  | some session => simp

/-- The bit timer is wanted exactly while some port holds a session. -/
theorem colorTimerRunning_iff (c : Controller α) :
    c.colorTimerRunning = true ↔ ∃ port, c.sessionInUse port = true := by
  unfold colorTimerRunning sessionInUse
  cases c.link with
  | none => simp [ColorLink.session?]
  | some link => exact PerPort.any_eq_true

/-- Whoever leaves every session in use or not, as it was, wants the bit timer as before. -/
theorem colorTimerRunning_congr {after : Controller α}
    (h : ∀ port, (after.portState port).session.map Session.inUse =
      (c.portState port).session.map Session.inUse) :
    after.colorTimerRunning = c.colorTimerRunning := by
  rw [Bool.eq_iff_iff, colorTimerRunning_iff, colorTimerRunning_iff]
  refine exists_congr fun port => ?_
  rw [sessionInUse_iff, sessionInUse_iff, h port]

variable [Converter α ε]

/-- **No step leaves a session unaccounted for.** -/
theorem accounted_step {port : Port} (step : Step α) (h : (c.portState port).Accounted) :
    ((c.step step).portState port).Accounted := by
  cases c.event_step step port with
  | rest hsame =>
    exact h.of_eq hsame.inUse (congrArg InputWatch.lastStage hsame.watch) (.inl hsame.stage)
  | tick hstep hrunning hafter =>
    rw [hafter]
    exact PortState.accounted_tick _ _ _ h
  | enable on hstep hafter =>
    rw [hafter]
    exact h.of_eq rfl rfl (.inl rfl)
  | force classification hstep hoff hconnected hafter =>
    rw [hafter]
    exact h.of_eq rfl rfl (.inl rfl)
  | command command hstep hconnected hafter =>
    rw [hafter]
    exact h.of_eq rfl rfl (.inr (.inl rfl))
  | restart on hstep hafter =>
    rw [hafter]
    exact h.of_eq rfl rfl (.inr (.inr rfl))

theorem accounted_new {adc : α} {board : Board} {config : Config}
    (h : Controller.new adc board config = .ok c) (port : Port) :
    (c.portState port).Accounted := by
  obtain ⟨hwatch, hunused⟩ := portState_new h port
  refine .of_unused ?_ (fun hbusy => ?_) hunused
  · rw [PortState.stage, hwatch]
  · rw [PortState.stage, hwatch] at hbusy
    cases hbusy

theorem Reachable.accounted (h : c.Reachable) (port : Port) : (c.portState port).Accounted := by
  induction h with
  | new h => exact accounted_new h port
  | step _ step ih => exact accounted_step step ih

/-- After a tick of the watches a port with a link holds a session exactly if its watch waits for
one. -/
theorem sessionInUse_managerTick (h : c.Reachable) (hlink : c.link.isSome = true)
    (hrunning : c.manager.isRunning = true) (port : Port) :
    c.managerTick.sessionInUse port = true ↔
      (c.managerTick.portState port).stage = .nxtColorBusy := by
  have haccounted := (h.step .manage).accounted port
  obtain ⟨-, -, hdelay⟩ := c.frame_managerTick
  have hlinked : (c.managerTick.portState port).session.isSome = true := by
    have hkept := congrArg Option.isSome hdelay
    rw [initDelay?, initDelay?, Option.isSome_map, Option.isSome_map, hlink] at hkept
    show (ColorLink.session? c.managerTick.link port).isSome = true
    rw [ColorLink.session?, Option.isSome_map, hkept]
  have hlast : (c.managerTick.portState port).watch.lastStage =
      (c.managerTick.portState port).stage := by
    rw [portState_managerTick, if_pos hrunning]
    exact PortState.lastStage_tick _ _ _ _
  obtain ⟨session, hsession⟩ := Option.isSome_iff_exists.mp hlinked
  have hheld := haccounted.held session.inUse (Option.mem_map_of_mem Session.inUse hsession)
  rw [Controller.step, hlast] at hheld
  rw [sessionInUse_iff, hsession, ← hheld]
  simp

/-! ## The bit timer -/

/-- The bit timer is armed exactly while some session is in use. -/
def InStep (c : Controller α) : Prop := c.clock.colorDue.isSome = c.colorTimerRunning

omit [Converter α ε] in
theorem InStep.of_eq (h : c.InStep) {after : Controller α}
    (hdue : after.clock.colorDue = c.clock.colorDue)
    (hinUse : ∀ port, (after.portState port).session.map Session.inUse =
      (c.portState port).session.map Session.inUse) : after.InStep := by
  unfold InStep
  rw [hdue, colorTimerRunning_congr hinUse]
  exact h

omit [Converter α ε] in
/-- Bringing the deadline in line puts the bit timer in step, whatever it was before. -/
theorem inStep_syncColorTimer (c : Controller α) : c.syncColorTimer.InStep := by
  show (c.clock.syncColor c.colorTimerRunning c.linkConfig.period).colorDue.isSome =
    c.colorTimerRunning
  unfold Clock.syncColor
  cases c.colorTimerRunning with
  | true =>
    cases hdue : c.clock.colorDue with
    | none => rfl
    | some due => simp [hdue]
  | false =>
    cases hdue : c.clock.colorDue with
    | none => simp [hdue]
    | some due => rfl

omit [Converter α ε] in
theorem inUse_portState_colorTick (c : Controller α) (port : Port) :
    (c.colorTick.portState port).session.map Session.inUse =
      (c.portState port).session.map Session.inUse := by
  rw [portState_colorTick]
  exact PortState.inUse_colorTick _ _

/-- What is not a change of the deadlines keeps the bit timer in step. -/
theorem inStep_step (h : c.InStep) {step : Step α} (htime : ∀ clock, step ≠ .time clock) :
    (c.step step).InStep := by
  have hrequest : step.isJob = false → (c.step step).InStep := by
    intro hjob
    refine h.of_eq (congrArg Clock.colorDue (c.frame_request hjob).1) fun port => ?_
    rw [(shared_step c hjob port).2.1]
  cases step with
  | sample => exact h
  | manage => exact inStep_syncColorTimer _
  | color => exact h.of_eq (congrArg Clock.colorDue c.clock_colorTick) c.inUse_portState_colorTick
  | time clock => exact absurd rfl (htime clock)
  | _ => exact hrequest rfl

/-- A job keeps the bit timer in step, whether it works or not and whenever it is run. -/
theorem inStep_runJob (h : c.InStep) (instant : UInt64) (job : Job) :
    (c.runJob instant job).2.InStep := by
  cases job with
  | sample =>
    unfold runJob
    dsimp only
    have hsample : ((c.mapClock fun clock => { clock with now := instant }).step .sample).InStep :=
      inStep_step (c := c.mapClock fun clock => { clock with now := instant }) h nofun
    split
    · rename_i period left hburst
      rw [Controller.step, hburst] at hsample
      exact hsample
    · rename_i fault left hburst
      rw [Controller.step, hburst] at hsample
      exact hsample
  | manage => exact inStep_syncColorTimer _
  | color => exact inStep_syncColorTimer _

theorem inStep_runUntil (h : c.InStep) (target : UInt64) : (c.runUntil target).2.InStep := by
  fun_induction runUntil c target with
  | case1 c hle after hrun ih =>
    have hjob := inStep_runJob h c.clock.next.1 c.clock.next.2
    rw [hrun] at hjob
    exact ih hjob
  | case2 c hle fault after hrun =>
    have hjob := inStep_runJob h c.clock.next.1 c.clock.next.2
    rw [hrun] at hjob
    exact hjob
  | case3 c hle => exact h

/-! ## Calls -/

/-- The controllers that calls from outside lead to. A call runs every job up to an instant, runs one
job at an instant, or carries out a single step: a job by itself, a request, or a change of the far
side of the lines or of the converter, which may fail from then on. The deadlines are not for anyone to
set. -/
inductive Called : Controller α → Prop
  | new {adc : α} {board : Board} {config : Config} {c : Controller α}
      (h : Controller.new adc board config = .ok c) : Called c
  | runUntil {c : Controller α} (h : Called c) (target : UInt64) : Called (c.runUntil target).2
  | runJob {c : Controller α} (h : Called c) (instant : UInt64) (job : Job) :
      Called (c.runJob instant job).2
  | step {c : Controller α} (h : Called c) (step : Step α) (htime : ∀ clock, step ≠ .time clock) :
      Called (c.step step)

theorem Called.reachable (h : c.Called) : c.Reachable := by
  induction h with
  | new h => exact .new h
  | runUntil h target ih => exact ih.runUntil target
  | @runJob c h instant job ih =>
    obtain ⟨jobs, -, hsteps⟩ := runJob_eq_steps c instant job
    rw [hsteps]
    exact ih.steps jobs
  | step h step htime ih => exact ih.step step

theorem Called.inStep (h : c.Called) : c.InStep := by
  induction h with
  | @new adc board config c h =>
    have hidle : c.colorTimerRunning = false := by
      rw [Bool.eq_false_iff, ne_eq, colorTimerRunning_iff]
      rintro ⟨port, hinUse⟩
      rw [sessionInUse_iff] at hinUse
      obtain ⟨session, hsession, hheld⟩ := Option.map_eq_some_iff.mp hinUse
      rw [(portState_new h port).2 session hsession] at hheld
      cases hheld
    show c.clock.colorDue.isSome = c.colorTimerRunning
    rw [(fresh_of_new h).1, hidle]
    rfl
  | runUntil h target ih => exact inStep_runUntil ih target
  | runJob h instant job ih => exact inStep_runJob ih instant job
  | step h step htime ih => exact inStep_step ih htime

/-- **Sessions and bit timer never leak.** Take a controller with a link that any calls have led to:
runs up to an instant, jobs, requests, devices that come and go, faults of the converter.

* The bit timer is armed exactly if some port holds a session.
* If the watches tick now, be it by themselves or as the job that is due at some instant, then behind
  the tick each port holds a session exactly if its watch waits for one. -/
theorem sessions_never_leak (h : c.Called) (hlink : c.link.isSome = true) :
    (c.clock.colorDue.isSome = true ↔ ∃ port, c.sessionInUse port = true) ∧
      (c.manager.isRunning = true → ∀ port,
        ((c.step .manage).sessionInUse port = true ↔
            ((c.step .manage).portState port).stage = .nxtColorBusy) ∧
          ∀ instant,
            ((c.runJob instant .manage).2.sessionInUse port = true ↔
              ((c.runJob instant .manage).2.portState port).stage = .nxtColorBusy)) := by
  refine ⟨?_, fun hrunning port => ⟨?_, fun instant => ?_⟩⟩
  · rw [h.inStep, colorTimerRunning_iff]
  · exact sessionInUse_managerTick h.reachable hlink hrunning port
  · exact sessionInUse_managerTick (c := c.step (.time { c.clock with now := instant }))
      (h.reachable.step _) hlink hrunning port

/-- A session is begun in the last but one of the ticks, the bit timer is armed with it, and the next
tick leaves it in use. -/
theorem sessions_never_leak_begun :
    ∃ fresh : Controller Multiplexer,
      Controller.new {} {} { detection := { resetMs := 0, floatMs := 0, connectMs := 0 } }
          = .ok fresh ∧
        let c := fresh.steps (List.replicate 8 .manage ++ [.request .p1 0x0D, .manage, .manage])
        c.Called ∧ c.link.isSome = true ∧ c.manager.isRunning = true ∧
          (c.clock.colorDue.isSome = true ∧ ∃ port, c.sessionInUse port = true) ∧
          (c.step .manage).sessionInUse .p1 = true ∧ (c.step .manage).sessionInUse .p2 = false := by
  refine ⟨_, rfl, ?_⟩
  intro c
  have hnew : Controller.new ({} : Multiplexer) {}
    { detection := { resetMs := 0, floatMs := 0, connectMs := 0 } } = .ok _ := rfl
  have hcalled : c.Called := by
    refine steps_preserves (P := Called) _ (fun h step hmem => h.step step ?_) (.new hnew)
    rintro clock rfl
    simp at hmem
  have hlink : c.link.isSome = true := rfl
  have hrunning : c.manager.isRunning = true := by decide +kernel
  obtain ⟨harmed, hticked⟩ := sessions_never_leak hcalled hlink
  have hheld : ∃ port, c.sessionInUse port = true := ⟨.p1, by decide +kernel⟩
  refine ⟨hcalled, hlink, hrunning, ⟨harmed.mpr hheld, hheld⟩, ?_, ?_⟩
  · exact (hticked hrunning .p1).1.mpr (by decide +kernel)
  · rw [Bool.eq_false_iff, ne_eq, (hticked hrunning .p2).1]
    decide +kernel

end Controller

end PlugWatch
