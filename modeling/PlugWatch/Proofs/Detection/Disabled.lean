import PlugWatch.Proofs.Color.Holding
import PlugWatch.Proofs.Detection.TestMode
/-!
# Who drives the pins of a disabled port

An input port whose detection is off is left to user space. Its watch gives up the session of the port
and does nothing to its lines from then on, and so the link does nothing to them either. But the sampler
is not told: a port that was in colour mode when its detection was switched off stays in colour mode,
and in its turn the sampler goes on clocking pin 5 of it.

## Main Definitions

* `Step.drivesPort` : the steps by which user space drives pins of a port.
* `PortState.Undriven` : no pin of the port has been driven.
* `PortState.Retired` : a port whose detection is off and that holds no session.

## Main Statements

* `Controller.retired_step`, `Controller.retired_steps` : nothing but switching detection on ends this.
* `Controller.cause_of_lines_job_of_retired` : what makes a job change the lines of such a port.
* `Controller.disabled_port_driven_by` : who drives the pins of a disabled port.
-/

namespace PlugWatch

namespace Step

variable {α : Type}

/-- Whether user space drives or releases pins of an input port with a step. Entering test mode
releases every port. -/
def drivesPort (port : Port) : Step α → Bool
  | .drive other _ _ | .release other => other = port
  | .testMode on => on
  | _ => false

end Step

namespace PortState

/-- No pin of the port has been driven or released: the drives are as they were, and there was no drive
call. -/
structure Undriven (before after : PortState) : Prop where
  drive : after.lines.drive = before.lines.drive
  writes : after.lines.writes = before.lines.writes

theorem Undriven.of_lines {before after : PortState} (h : after.lines = before.lines) :
    Undriven before after :=
  ⟨by rw [h], by rw [h]⟩

/-- A port whose detection is off and that holds no session. -/
structure Retired (state : PortState) : Prop where
  off : state.enabled = false
  unused : ∀ session ∈ state.session, session.inUse = false

/-- A port that a tick has taken out of detection has given up its session. -/
theorem Accounted.retired {state : PortState} (h : state.Accounted) (hstage : state.stage = .disabled)
    (hoff : state.enabled = false) : state.Retired := by
  refine ⟨hoff, h.unused fun hwaits => ?_⟩
  rcases h.moved with hlast | hmoved | hmoved
  · rw [hwaits, hstage] at hlast
    cases hlast
  · exact nomatch hstage.symm.trans hmoved
  · exact nomatch hstage.symm.trans hmoved

theorem Retired.of_inUse {before after : PortState} (h : before.Retired)
    (henabled : after.enabled = false)
    (hinUse : after.session.map Session.inUse = before.session.map Session.inUse) :
    after.Retired := by
  refine ⟨henabled, fun session hmem => ?_⟩
  have hkept := Option.mem_map_of_mem Session.inUse hmem
  rw [hinUse] at hkept
  obtain ⟨earlier, hearlier, heq⟩ := Option.map_eq_some_iff.mp hkept
  exact heq.symm.trans (h.unused earlier hearlier)

/-- A tick leaves the lines and the handshake of such a port alone, and at most stops its session once
more. -/
theorem tick_of_retired (config : DetectionConfig) (port : Port) (pin1 : UInt16) {state : PortState}
    (h : state.Retired) :
    (state.tick config port pin1).socket = state.socket ∧
      (state.tick config port pin1).Retired := by
  have henabled : (state.tick config port pin1).enabled = false :=
    (enabled_tick config port pin1 state).trans h.off
  rw [tick_eq_of_off config port pin1 h.off] at henabled ⊢
  refine ⟨rfl, henabled, ?_⟩
  dsimp only
  split
  · exact fun session hmem => not_inUse_of_mem_stop hmem
  · exact h.unused

theorem colorTick_of_retired (delay : UInt16) {state : PortState} (h : state.Retired) :
    state.colorTick delay = state := by
  refine colorTick_eq_self delay fun session hmem hinUse => ?_
  rw [h.unused session hmem] at hinUse
  cases hinUse

end PortState

namespace Controller

variable {α ε : Type} [Converter α ε] {c : Controller α} {port : Port}

/-! ## Ports that hold no session -/

/-- Nothing but switching detection on brings a port back that is left to user space. -/
theorem retired_step (h : (c.portState port).Retired) {step : Step α}
    (hstep : step ≠ .enable port true) : ((c.step step).portState port).Retired := by
  cases c.event_step step port with
  | rest hsame => exact h.of_inUse (hsame.enabled.trans h.off) hsame.inUse
  | tick hmanage hrunning hafter =>
    rw [hafter]
    exact (PortState.tick_of_retired _ _ _ h).2
  | enable on henable hafter =>
    cases on with
    | true => exact absurd henable hstep
    | false =>
      rw [hafter]
      exact h.of_inUse rfl rfl
  | force classification hforce hoff hconnected hafter =>
    rw [hafter]
    exact h.of_inUse h.off rfl
  | command command hrequest hconnected hafter =>
    rw [hafter]
    exact h.of_inUse h.off rfl
  | restart on hmode hafter =>
    rw [hafter]
    exact h.of_inUse h.off rfl

theorem retired_steps {run : List (Step α)} (h : (c.portState port).Retired)
    (hrun : .enable port true ∉ run) : ((c.steps run).portState port).Retired := by
  refine steps_preserves (P := fun now => (now.portState port).Retired) run ?_ h
  intro now hnow step hmem
  exact retired_step hnow fun heq => hrun (heq ▸ hmem)

/-- A tick of the manager leaves the lines and the handshake of such a port alone. -/
theorem socket_managerTick_of_retired (h : (c.portState port).Retired) :
    (c.managerTick.portState port).socket = (c.portState port).socket := by
  rw [portState_managerTick]
  split
  · exact (PortState.tick_of_retired _ _ _ h).1
  · rfl

/-- A job that changes the lines of such a port is a burst, and the sampler clocks the port. -/
theorem cause_of_lines_job_of_retired (h : (c.portState port).Retired) {job : Step α}
    (hjob : job.isJob = true)
    (hlines : ((c.step job).portState port).lines ≠ (c.portState port).lines) :
    job = .sample ∧ SamplerScene.clocks (c.portState port).handshake = true := by
  cases job with
  | sample =>
    refine ⟨rfl, ?_⟩
    cases hclocks : SamplerScene.clocks (c.portState port).handshake with
    | true => rfl
    | false => exact absurd (lines_sampleTick_of_not_clocks hclocks) hlines
  | manage => exact absurd (congrArg InputSocket.lines (socket_managerTick_of_retired h)) hlines
  | color =>
    rw [Controller.step, portState_colorTick, PortState.colorTick_of_retired _ h] at hlines
    exact absurd rfl hlines
  | time clock => exact absurd rfl hlines
  | _ => cases hjob

/-- A dormant port that is left to user space stays dormant. -/
theorem dormant_step_of_retired (h : (c.portState port).Retired)
    (hdormant : (c.portState port).Dormant) (step : Step α) :
    ((c.step step).portState port).Dormant := by
  cases step with
  | manage =>
    have hhandshake : (c.managerTick.portState port).handshake = (c.portState port).handshake :=
      congrArg InputSocket.handshake (socket_managerTick_of_retired h)
    have hretired : ((c.step .manage).portState port).Retired := retired_step h (by simp)
    refine ⟨?_, ?_, fun session hmem hinUse => ?_⟩
    · rw [Controller.step, hhandshake]
      exact hdormant.unclocked
    · rw [Controller.step, hhandshake]
      exact hdormant.unasked
    · rw [hretired.unused session hmem] at hinUse
      cases hinUse
  | _ => exact dormant_step_of_ne_manage (by simp) hdormant

theorem dormant_steps_of_retired {run : List (Step α)} (h : (c.portState port).Retired)
    (hdormant : (c.portState port).Dormant) (hrun : .enable port true ∉ run) :
    ((c.steps run).portState port).Dormant := by
  refine (steps_preserves
    (P := fun now => (now.portState port).Retired ∧ (now.portState port).Dormant) run ?_
    ⟨h, hdormant⟩).2
  rintro now ⟨hnow, hrest⟩ step hmem
  have hstep : step ≠ .enable port true := fun heq => hrun (heq ▸ hmem)
  exact ⟨retired_step hnow hstep, dormant_step_of_retired hnow hrest step⟩

/-! ## Requests -/

/-- What is no job drives no pin of a port, unless user space does so with it. -/
theorem undriven_request (c : Controller α) {step : Step α} (hjob : step.isJob = false) {port : Port}
    (hdrives : step.drivesPort port = false) :
    (c.portState port).Undriven ((c.step step).portState port) := by
  rcases c.lines_request hjob port with ⟨level, sensor, hlines⟩ | ⟨rfl | rfl, -⟩ |
    ⟨role, drive, rfl, -⟩
  · exact ⟨by rw [hlines], by rw [hlines]⟩
  · simp [Step.drivesPort] at hdrives
  · simp [Step.drivesPort] at hdrives
  · simp [Step.drivesPort] at hdrives

/-! ## Who drives -/

/-- **Who drives the pins of a disabled port.** Take a reachable controller in which an input port is
disabled with its detection off, and any run from there that does not switch detection on again.

* A step then drives no pin of the port unless user space drives or releases pins with it, or it is a
  burst and the sampler clocks the port. No tick of the manager and no period of the bit timer does.
* Such a burst leaves every pin but pin 5 as it is, and makes as many drive calls as it has clock
  actions that do not hold the pin.
* If the port was dormant to begin with, no job changes anything of its lines. -/
theorem disabled_port_driven_by (h : c.Reachable) (hstage : (c.portState port).stage = .disabled)
    (hoff : (c.portState port).enabled = false) {run : List (Step α)}
    (hrun : .enable port true ∉ run) :
    let now := c.steps run
    (∀ step : Step α,
        (now.portState port).Undriven ((now.step step).portState port) ∨
          step.drivesPort port = true ∨
          (step = .sample ∧ SamplerScene.clocks (now.portState port).handshake = true)) ∧
      ((∀ role, role ≠ .pin5 →
          ((now.step .sample).portState port).lines.drive.get role =
            (now.portState port).lines.drive.get role) ∧
        ((now.step .sample).portState port).lines.writes =
          (now.portState port).lines.writes +
            ((now.samplerScene.clockActions port).filterMap ClockAction.drive?).length) ∧
      ((c.portState port).Dormant → ∀ job : Step α, job.isJob = true →
        ((now.step job).portState port).lines = (now.portState port).lines) := by
  intro now
  have hretired := (h.accounted port).retired hstage hoff
  have hnow : (now.portState port).Retired := retired_steps hretired hrun
  refine ⟨fun step => ?_, ⟨fun role hne => ?_, ?_⟩, fun hdormant job hjob => ?_⟩
  · cases hjob : step.isJob with
    | false =>
      cases hdrives : step.drivesPort port with
      | false => exact .inl (undriven_request now hjob hdrives)
      | true => exact .inr (.inl rfl)
    | true =>
      by_cases hlines : ((now.step step).portState port).lines = (now.portState port).lines
      · exact .inl (.of_lines hlines)
      · exact .inr (.inr (cause_of_lines_job_of_retired hnow hjob hlines))
  · rw [Controller.step, lines_sampleTick]
    exact foldl_onLines_ne _ hne _
  · rw [Controller.step, lines_sampleTick]
    exact foldl_onLines_writes _ _
  · refine Classical.byContradiction fun hlines => ?_
    obtain ⟨-, hclocks⟩ := cause_of_lines_job_of_retired hnow hjob hlines
    have hrest : (now.portState port).Dormant := dormant_steps_of_retired hretired hdormant hrun
    rw [hrest.not_clocks] at hclocks
    cases hclocks

/-- A pin of a disabled port that is driven. The second port goes through a whole session, so it is in
colour mode when its detection is switched off; in its turn the sampler clocks it, and the sixteenth
burst drives pin 5 high. The first port, which is disabled as well, is dormant: no burst touches it. -/
theorem disabled_port_driven_by_clock :
    ∃ fresh : Controller Multiplexer,
      Controller.new {} {} {
        detection := { resetMs := 0, floatMs := 0, connectMs := 0, releaseMs := 0 }
        link := { initDelayMs := 0 } } = .ok fresh ∧
      let c := fresh.steps (List.replicate 8 .manage ++ [.request .p2 0x0D, .manage, .manage]
        ++ List.replicate 943 .color ++ [.manage, .enable .p1 false, .enable .p2 false, .manage])
      let run := List.replicate 15 .sample
      (∀ port ∈ [Port.p1, Port.p2],
          (c.portState port).stage = .disabled ∧ (c.portState port).enabled = false) ∧
        (((c.steps run).portState .p2).lines.drive.get .pin5 = .low ∧
          (((c.steps run).step .sample).portState .p2).lines.drive.get .pin5 = .high) ∧
        SamplerScene.clocks ((c.steps run).portState .p2).handshake = true ∧
        (c.portState .p1).Dormant ∧
        (((c.steps run).step .sample).portState .p1).lines =
          ((c.steps run).portState .p1).lines := by
  refine ⟨_, rfl, ?_⟩
  intro c run
  have hnew : Controller.new ({} : Multiplexer) {} {
      detection := { resetMs := 0, floatMs := 0, connectMs := 0, releaseMs := 0 }
      link := { initDelayMs := 0 } } = .ok _ := rfl
  have hreachable : c.Reachable := (Reachable.new hnew).steps _
  have hrun : ∀ port, Step.enable port true ∉ run := by
    intro port hmem
    cases List.eq_of_mem_replicate hmem
  -- the run itself is evaluated once; who is to blame follows
  have hends : (∀ port ∈ [Port.p1, Port.p2],
        (c.portState port).stage = .disabled ∧ (c.portState port).enabled = false) ∧
      (((c.steps run).portState .p2).lines.drive.get .pin5 = .low ∧
        (((c.steps run).step .sample).portState .p2).lines.drive.get .pin5 = .high) ∧
      (c.portState .p1).handshake.latched = 0 ∧ (c.portState .p1).handshake.command = 0 := by
    decide +kernel
  obtain ⟨hoff, hdriven, hlatched, hcommand⟩ := hends
  have hdormant : (c.portState .p1).Dormant := by
    refine ⟨?_, ?_, fun session hmem hinUse => ?_⟩
    · rw [hlatched]
      nofun
    · rw [hcommand]
      nofun
    · have hretired := (hreachable.accounted .p1).retired (hoff .p1 (by simp)).1
        (hoff .p1 (by simp)).2
      rw [hretired.unused session hmem] at hinUse
      cases hinUse
  obtain ⟨hdrives, -, -⟩ := disabled_port_driven_by hreachable (hoff .p2 (by simp)).1
    (hoff .p2 (by simp)).2 (hrun .p2)
  obtain ⟨-, -, hkept⟩ := disabled_port_driven_by hreachable (hoff .p1 (by simp)).1
    (hoff .p1 (by simp)).2 (hrun .p1)
  refine ⟨hoff, hdriven, ?_, hdormant, hkept hdormant .sample rfl⟩
  rcases hdrives .sample with hundriven | huser | ⟨-, hclocks⟩
  · have hsame := congrArg (fun drive => drive.get .pin5) hundriven.drive
    rw [hdriven.1, hdriven.2] at hsame
    cases hsame
  · cases huser
  · exact hclocks

end Controller

end PlugWatch
