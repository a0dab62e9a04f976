import PlugWatch.Proofs.Calls
import PlugWatch.Proofs.Color.Holding
import PlugWatch.Proofs.Detection.OutputState
/-!
# Without a colour link

A board may lack the colour link. Then a colour command and a legacy sensor that looks like a colour
sensor still lead to the preparation of a session, but no further: each stage of a session goes on to
the wait for the device to go. So no port gets into colour mode, the sampler keeps to the normal table
and clocks no pin, and the bit timer is never armed.

## Main Definitions

* `PortState.Colorless` : an input port that has nothing to do with a colour sensor.
* `Controller.Linkless` : a controller of which no part has.

## Main Statements

* `PortState.colorless_tick`, `Controller.colorless_sampleTick` : a port gets something to do with a
  colour sensor in the wait for a session only.
* `PortState.unwaiting_tick` : without a link, a tick leads to no such wait.
* `Controller.linkless_step` : what holds without a link is kept by every step.
* `Controller.no_link_no_session` : the colour machinery of a controller without a link.
-/

namespace PlugWatch

namespace Stage

variable {stage : Stage}

theorem not_inColorSession_of_undetected (h : stage.undetected = true) :
    stage.inColorSession = false := by
  cases stage <;> first | rfl | cases h

theorem not_inColorSession_of_settled (h : stage.settled = true) : stage.inColorSession = false := by
  cases stage <;> first | rfl | cases h

end Stage

/-! ## Ports without a colour sensor -/

namespace PortState

variable {config : DetectionConfig} {port : Port} {pin1 : UInt16} {before after state : PortState}

/-- A port that has nothing to do with a colour sensor. -/
structure Colorless (state : PortState) : Prop where
  unused : ∀ session ∈ state.session, session.inUse = false
  active : state.handshake.active = false
  clocking : state.handshake.clocking = false

theorem Colorless.not_clocks (h : state.Colorless) : SamplerScene.clocks state.handshake = false := by
  rw [SamplerScene.clocks, h.clocking, Bool.and_false]

/-- A port gets something to do with a colour sensor while a session is waited for only. -/
theorem colorless_tick (h : state.Colorless) (hwait : state.stage ≠ .nxtColorWait)
    (hbusy : state.stage ≠ .nxtColorBusy) : (state.tick config port pin1).Colorless := by
  have hstopped : (state.tick config port pin1).session = state.session.map Session.stop →
      ∀ session ∈ (state.tick config port pin1).session, session.inUse = false := by
    intro heq session hmem
    exact not_inUse_of_mem_stop (heq ▸ hmem)
  cases move_tick config port pin1 state with
  | look hlines hhandshake hsession =>
    exact ⟨by rw [hsession]; exact h.unused, by rw [hhandshake, h.active],
      by rw [hhandshake, h.clocking]⟩
  | release hlines hhandshake hsession =>
    exact ⟨by rw [hsession]; exact h.unused, by rw [hhandshake, h.active],
      by rw [hhandshake, h.clocking]⟩
  | restart hlines hhandshake hsession =>
    exact ⟨hstopped hsession, by rw [hhandshake], by rw [hhandshake, h.clocking]⟩
  | prepare hlines hhandshake hsession =>
    exact ⟨hstopped hsession, by rw [hhandshake, h.active], by rw [hhandshake, h.clocking]⟩
  | start hlines hhandshake hsession hbefore => exact absurd hbefore hwait
  | collect hlines hhandshake hsession hbefore => exact absurd hbefore hbusy
  | abandon hlines hhandshake hsession =>
    exact ⟨hstopped hsession, by rw [hhandshake, h.active], by rw [hhandshake, h.clocking]⟩

/-- The way into a session leads through its preparation. -/
theorem Progress.inColorSession (progress : Progress before after)
    (hafter : after.stage.inColorSession = true) :
    before.stage.inColorSession = true ∨ after.stage = .nxtColorInit := by
  have hnot : after.stage.inColorSession ≠ false := by simp [hafter]
  cases progress with
  | restart hbefore hstage => exact absurd (by rw [hstage]; rfl) hnot
  | search hbefore hstage =>
    rcases hstage with hstage | hstage
    · exact absurd (Stage.not_inColorSession_of_undetected hstage) hnot
    · exact absurd (by rw [hstage]; rfl) hnot
  | identify hbefore hstage =>
    exact .inr (hstage.resolve_left fun hsettled =>
      hnot (Stage.not_inColorSession_of_settled hsettled))
  | suspect hbefore hstage => exact absurd (by rw [hstage]; rfl) hnot
  | confirm hbefore hstage => exact absurd (by rw [hstage]; rfl) hnot
  | stay hbefore hstage =>
    rcases hstage with hstage | ⟨hsession, -⟩
    · exact .inl (hstage ▸ hafter)
    · exact .inl hsession
  | disconnect hbefore hstage => exact absurd (by rw [hstage]; rfl) hnot
  | resume hbefore hstage => exact absurd (by rw [hstage]; rfl) hnot

/-- Without a link, a tick does not lead to the wait for a session: the preparation, which a rule or a
command led to, goes on to the wait for the device to go. -/
theorem unwaiting_tick (hlink : state.session = none) (hwait : state.stage ≠ .nxtColorWait)
    (hbusy : state.stage ≠ .nxtColorBusy) :
    (state.tick config port pin1).stage ≠ .nxtColorWait ∧
      (state.tick config port pin1).stage ≠ .nxtColorBusy := by
  cases hon : state.enabled with
  | false =>
    rw [(tick_of_off config port pin1 hon).1]
    exact ⟨nofun, nofun⟩
  | true =>
    by_cases hprepares : state.stage = .nxtColorInit
    · rw [tick_nxtColorInit config port pin1 hon hprepares, hlink]
      exact ⟨nofun, nofun⟩
    · have hsession : state.stage.inColorSession ≠ true := by
        cases hstage : state.stage <;> simp_all [Stage.inColorSession]
      have hentered := fun hafter => ((progress_tick config port pin1 hon).inColorSession hafter).resolve_left
        hsession
      refine ⟨fun hafter => ?_, fun hafter => ?_⟩
      · have hinit := hentered (by rw [hafter]; rfl)
        rw [hafter] at hinit
        cases hinit
      · have hinit := hentered (by rw [hafter]; rfl)
        rw [hafter] at hinit
        cases hinit

end PortState

namespace SamplerScene

variable {α ε : Type}

/-- While no port is in colour mode, a burst keeps to the normal table. -/
theorem schedule_burst [Converter α ε] {scene : SamplerScene α}
    (hnormal : scene.sampler.schedule = .normal)
    (hinactive : ∀ port, (scene.board.inputs.get port).handshake.active = false) :
    scene.burst.2.sampler.schedule = .normal := by
  have hprepare : scene.prepare.sampler.schedule = scene.sampler.schedule := by
    unfold prepare
    split <;> rfl
  have hwalk : scene.burstWalk.2.sampler.schedule = .normal :=
    (turn_walk _ _ scene.prepare).2.1.trans (hprepare.trans hnormal)
  rcases burst_snd scene with hburst | hburst
  · rw [hburst, hwalk]
  · rw [hburst]
    unfold finish
    split
    · refine schedule_completeCycle_of_inactive fun port => ?_
      show (scene.burstWalk.2.board.inputs.get port).handshake.active = false
      rw [burstWalk, handshake_walk, inputs_prepare, hinactive]
    · exact hwalk

end SamplerScene

namespace Controller

variable {α ε : Type} [Converter α ε] {c : Controller α} {port : Port}

theorem colorless_sampleTick (h : (c.portState port).Colorless) :
    (c.sampleTick.2.portState port).Colorless := by
  refine ⟨h.unused, (undisturbed_sampleTick c port).active.trans h.active, ?_⟩
  rcases handshake_sampleTick c port with hsame | hcycle
  · exact (congrArg ColorHandshake.clocking hsame).trans h.clocking
  · exact (congrArg ColorHandshake.clocking hcycle).trans h.active

/-! ## A controller without a link -/

/-- There is no link, and no part of the controller has anything to do with a colour sensor. -/
structure Linkless (c : Controller α) : Prop where
  link : c.link = none
  colorless : ∀ port, (c.portState port).Colorless
  wait : ∀ port, (c.portState port).stage ≠ .nxtColorWait
  busy : ∀ port, (c.portState port).stage ≠ .nxtColorBusy
  schedule : c.sampler.schedule = .normal

omit [Converter α ε] in
theorem Linkless.session (h : c.Linkless) (port : Port) : (c.portState port).session = none := by
  show ColorLink.session? c.link port = none
  rw [h.link]
  rfl

omit [Converter α ε] in
/-- The bit timer is not wanted. -/
theorem Linkless.colorTimerRunning (h : c.Linkless) : c.colorTimerRunning = false := by
  unfold Controller.colorTimerRunning
  rw [h.link]

theorem link_step_of_none (h : c.link = none) (step : Step α) : (c.step step).link = none := by
  have hkept := initDelay?_step c step
  unfold initDelay? at hkept
  rw [h, Option.map_none, Option.map_eq_none_iff] at hkept
  exact hkept

omit [Converter α ε] in
theorem linkless_managerTick (h : c.Linkless) :
    (∀ port, (c.managerTick.portState port).Colorless) ∧
      ∀ port, (c.managerTick.portState port).stage ≠ .nxtColorWait ∧
        (c.managerTick.portState port).stage ≠ .nxtColorBusy := by
  refine ⟨fun port => ?_, fun port => ?_⟩
  · rw [portState_managerTick]
    split
    · exact PortState.colorless_tick (h.colorless port) (h.wait port) (h.busy port)
    · exact h.colorless port
  · rw [portState_managerTick]
    split
    · exact PortState.unwaiting_tick (h.session port) (h.wait port) (h.busy port)
    · exact ⟨h.wait port, h.busy port⟩

omit [Converter α ε] in
theorem linkless_colorTick (h : c.Linkless) : c.colorTick = c := by
  unfold colorTick
  rw [h.link]

/-- What is no job leads to no wait for a session. -/
theorem linkless_request (h : c.Linkless) {step : Step α} (hjob : step.isJob = false) :
    (c.step step).Linkless := by
  refine ⟨link_step_of_none h.link step, fun port => ?_, fun port hwait => ?_, fun port hbusy => ?_,
    (sampler_request c hjob).symm ▸ h.schedule⟩
  · obtain ⟨hhandshake, hsession, -⟩ := shared_step c hjob port
    refine ⟨?_, by rw [hhandshake, (h.colorless port).active],
      by rw [hhandshake, (h.colorless port).clocking]⟩
    rw [hsession]
    exact (h.colorless port).unused
  · rcases (shared_step c hjob port).2.2 with hstage | hstage | hstage
    · exact h.wait port (hstage ▸ hwait)
    · rw [hstage] at hwait
      cases hwait
    · rw [hstage] at hwait
      cases hwait
  · rcases (shared_step c hjob port).2.2 with hstage | hstage | hstage
    · exact h.busy port (hstage ▸ hbusy)
    · rw [hstage] at hbusy
      cases hbusy
    · rw [hstage] at hbusy
      cases hbusy

/-- **Every step of a controller without a link keeps clear of colour sensors.** -/
theorem linkless_step (h : c.Linkless) (step : Step α) : (c.step step).Linkless := by
  cases step with
  | sample =>
    have hstage : ∀ port, (c.sampleTick.2.portState port).stage = (c.portState port).stage :=
      fun port => (undisturbed_sampleTick c port).stage
    refine ⟨h.link, fun port => colorless_sampleTick (h.colorless port), fun port => ?_,
      fun port => ?_, ?_⟩
    · exact (hstage port).symm ▸ h.wait port
    · exact (hstage port).symm ▸ h.busy port
    · exact SamplerScene.schedule_burst h.schedule fun port => (h.colorless port).active
  | manage =>
    obtain ⟨hcolorless, hstages⟩ := linkless_managerTick h
    exact ⟨link_step_of_none h.link .manage, hcolorless, fun port => (hstages port).1,
      fun port => (hstages port).2, h.schedule⟩
  | color =>
    rw [Controller.step, linkless_colorTick h]
    exact h
  | time clock => exact ⟨h.link, h.colorless, h.wait, h.busy, h.schedule⟩
  | _ => exact linkless_request h rfl

theorem inStep_call (h : c.InStep) (call : Call α) : (c.call call).InStep := by
  cases call with
  | act step htime => exact inStep_step h htime
  | runJob instant job => exact inStep_runJob h instant job
  | runUntil target => exact inStep_runUntil h target
  | _ =>
    -- no byte-level request sets a deadline
    refine (leadsTo_call c _).preserves (P := InStep) (fun h step hincludes => inStep_step h ?_) h
    rintro clock rfl
    cases hincludes

/-! ## From the start -/

/-- A fresh controller on a board without a link, no port of which is in colour mode. -/
theorem linkless_new {adc : α} {board : Board} {config : Config}
    (h : Controller.new adc board config = .ok c) (hlegacy : config.detection.legacyColor = false)
    (hboard : ∀ port, (board.inputs.get port).handshake = {}) : c.Linkless := by
  obtain ⟨hsampler, hkept, hlink⟩ := parts_of_new h
  have hnone : c.link = none := by
    rw [hlink, hlegacy]
    rfl
  have hstage : ∀ port, (c.portState port).stage = .init := fun port =>
    congrArg InputWatch.stage (portState_new h port).1
  have hhandshake : ∀ port, (c.portState port).handshake = {} := fun port =>
    (congrArg (fun board : Board => (board.inputs.get port).handshake) hkept).trans (hboard port)
  refine ⟨hnone, fun port => ⟨(portState_new h port).2, ?_, ?_⟩, fun port => ?_, fun port => ?_, ?_⟩
  · rw [hhandshake]
  · rw [hhandshake]
  · rw [hstage]
    nofun
  · rw [hstage]
    nofun
  · rw [hsampler]

/-- **Without a link the colour machinery is dead.** A controller is set up without a link on a board no
port of which is in colour mode, as at power-up. Whatever calls follow, jobs by themselves among them,
so that every instant of a run is covered:

* no port waits for the sampler or for a session, and none is in colour mode or clocked;
* the sampler walks the normal table and the bit timer is not armed;
* a burst, whether it works or not, drives no pin of either side. -/
theorem no_link_no_session {adc : α} {board : Board} {config : Config} {fresh : Controller α}
    (h : Controller.new adc board config = .ok fresh)
    (hlegacy : config.detection.legacyColor = false)
    (hboard : ∀ port, (board.inputs.get port).handshake = {}) (calls : List (Call α)) :
    let c := fresh.calls calls
    (∀ port, (c.manager.inputs.get port).stage ≠ .nxtColorWait ∧
        (c.manager.inputs.get port).stage ≠ .nxtColorBusy ∧
        (c.board.inputs.get port).handshake.active = false ∧
        (c.board.inputs.get port).handshake.clocking = false) ∧
      c.sampler.schedule = .normal ∧ c.clock.colorDue = none ∧
      (∀ port, (c.sampleTick.2.board.inputs.get port).lines = (c.board.inputs.get port).lines) ∧
      c.sampleTick.2.board.outputs = c.board.outputs := by
  intro c
  have hfresh := linkless_new h hlegacy hboard
  have hlinkless : c.Linkless :=
    calls_preserves_of_step (P := Linkless) (fun step h => linkless_step h step) calls hfresh
  have hinStep : c.InStep := by
    refine calls_preserves (P := InStep) calls (fun h call _ => inStep_call h call) ?_
    show fresh.clock.colorDue.isSome = fresh.colorTimerRunning
    rw [(fresh_of_new h).1, hfresh.colorTimerRunning]
    rfl
  refine ⟨fun port => ?_, hlinkless.schedule, ?_, fun port => ?_, outputs_sampleTick c⟩
  · exact ⟨hlinkless.wait port, hlinkless.busy port, (hlinkless.colorless port).active,
      (hlinkless.colorless port).clocking⟩
  · have hidle : c.clock.colorDue.isSome = false := hinStep.trans hlinkless.colorTimerRunning
    exact Option.not_isSome_iff_eq_none.mp (Bool.eq_false_iff.mp hidle)
  · exact lines_sampleTick_of_not_clocks (hlinkless.colorless port).not_clocks

/-- A colour command is taken on a board without a link, and the tick behind it drops it. -/
theorem no_link_no_session_command :
    ∃ fresh : Controller Multiplexer,
      Controller.new {} {}
          { detection := { resetMs := 0, floatMs := 0, connectMs := 0, legacyColor := false } }
            = .ok fresh ∧
        let asked := fresh.calls (List.replicate 8 .manage ++ [.request .p1 0x0D])
        let c := asked.calls [.manage, .runUntil 500000]
        (asked.manager.inputs.get .p1).stage = .nxtColorInit ∧
          (c.manager.inputs.get .p1).stage ≠ .nxtColorBusy ∧
          (c.board.inputs.get .p1).handshake.active = false ∧ c.clock.colorDue = none := by
  refine ⟨_, rfl, ?_⟩
  intro asked c
  have hnew : Controller.new ({} : Multiplexer) {}
    { detection := { resetMs := 0, floatMs := 0, connectMs := 0, legacyColor := false } } = .ok _ :=
    rfl
  have hboard : ∀ port, (({} : Board).inputs.get port).handshake = {} :=
    fun port => congrArg InputSocket.handshake (PerPort.get_const _ port)
  obtain ⟨hports, -, hdue, -⟩ := no_link_no_session hnew rfl hboard
    (List.replicate 8 .manage ++ [.request .p1 0x0D] ++ [.manage, .runUntil 500000])
  rw [calls_append] at hports hdue
  obtain ⟨-, hbusy, hactive, -⟩ := hports .p1
  exact ⟨by decide +kernel, hbusy, hactive, hdue⟩

end Controller

end PlugWatch
