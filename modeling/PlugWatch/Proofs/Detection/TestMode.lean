import PlugWatch.Proofs.Detection.OutputState
import PlugWatch.Proofs.Detection.Release
/-!
# Who drives pins in test mode

Entering test mode releases every port and closes the gate of the manager, and while it is closed no
watch ticks. But the sampler and the link are not told: what a port has agreed with the sampler stays,
and a session that is under way goes on. So test mode leaves to user space the output ports and those
input ports on which nothing of the kind was under way.

## Main Definitions

* `PortState.Dormant` : the sampler has no cause to clock the port, now or later, and no session of the
  port is under way.
* `Controller.InTestMode` : test mode is on, and the gate is closed.

## Main Statements

* `Controller.inTestMode_step`, `Controller.dormant_step` : nothing but a switch of test mode ends
  test mode, and in it a dormant port stays dormant.
* `Controller.steps_preserves_of_inTestMode` : what each step keeps in test mode, a run keeps.
* `Controller.cause_of_lines_job` : what makes a job change the lines of an input port in test mode.
* `Controller.test_mode_keeps_dormant_ports` : in test mode no job drives a pin of an output port or of
  a dormant input port.
-/

namespace PlugWatch

/-! ## Released lines -/

/-- Releasing an input port again changes no drive. -/
theorem InputLines.drive_release_of_eq {lines earlier : InputLines}
    (h : lines.drive = earlier.release.drive) : lines.release.drive = lines.drive := by
  unfold release at h ⊢
  simp only [drive_driveTo] at h ⊢
  rw [h]
  rfl

/-- Releasing an output port again changes no drive. -/
theorem OutputLines.drive_release_of_eq {lines earlier : OutputLines}
    (h : lines.drive = earlier.release.drive) : lines.release.drive = lines.drive := by
  unfold release driveTo at h ⊢
  dsimp only at h ⊢
  rw [h]
  rfl

namespace PortState

/-- The sampler has no cause to clock the port, now or at the end of any cycle to come, and no session
of the port is under way. -/
structure Dormant (state : PortState) : Prop where
  /-- A port with the clocked command is in no colour mode, and the sampler knows. -/
  unclocked : state.handshake.latched = SamplerScene.clockedCommand →
    state.handshake.active = false ∧ state.handshake.clocking = false
  /-- A port that asks for the clocked command is in no colour mode. -/
  unasked : state.handshake.command = SamplerScene.clockedCommand → state.handshake.active = false
  /-- A session that holds the bit timer is over. -/
  resting : ∀ session ∈ state.session, session.inUse = true → session.state = .idle

theorem Dormant.of_eq {before after : PortState} (h : before.Dormant)
    (hhandshake : after.handshake = before.handshake) (hsession : after.session = before.session) :
    after.Dormant := by
  refine ⟨?_, ?_, ?_⟩
  · rw [hhandshake]
    exact h.unclocked
  · rw [hhandshake]
    exact h.unasked
  · rw [hsession]
    exact h.resting

/-- The end of a cycle gives the sampler no cause to clock a dormant port. -/
theorem Dormant.of_cycle {before after : PortState} (h : before.Dormant) {served : Prop}
    [Decidable served]
    (hhandshake : after.handshake =
      { before.handshake with
        clocking := before.handshake.active
        latched := if served then before.handshake.command else before.handshake.latched })
    (hsession : after.session = before.session) : after.Dormant := by
  refine ⟨?_, ?_, ?_⟩
  · rw [hhandshake]
    dsimp only
    split
    · intro hlatched
      exact ⟨h.unasked hlatched, h.unasked hlatched⟩
    · intro hlatched
      exact ⟨(h.unclocked hlatched).1, (h.unclocked hlatched).1⟩
  · rw [hhandshake]
    exact h.unasked
  · rw [hsession]
    exact h.resting

theorem Dormant.not_clocks {state : PortState} (h : state.Dormant) :
    SamplerScene.clocks state.handshake = false := by
  unfold SamplerScene.clocks
  by_cases hlatched : state.handshake.latched = SamplerScene.clockedCommand
  · rw [(h.unclocked hlatched).2, Bool.and_false]
  · rw [decide_eq_false hlatched, Bool.false_and]

/-- The bit timer does nothing to a port whose session is over or not in use. -/
theorem colorTick_eq_self {state : PortState} (delay : UInt16)
    (h : ∀ session ∈ state.session, session.inUse = true → session.state = .idle) :
    state.colorTick delay = state := by
  obtain ⟨watch, socket, link⟩ := state
  cases link with
  | none => rfl
  | some session =>
    unfold colorTick
    dsimp only
    split
    · rename_i hinUse
      rw [Session.step, if_pos (h session rfl hinUse)]
    · rfl

end PortState

namespace Controller

variable {α ε : Type}

/-- Test mode is on, and the gate of the manager is closed. -/
structure InTestMode (c : Controller α) : Prop where
  testMode : c.manager.testMode = true
  startup : c.manager.startup = .waitTestMode

/-- In test mode a tick of the manager brings the deadline of the bit timer in line, and does nothing
else. -/
theorem managerTick_of_inTestMode {c : Controller α} (h : c.InTestMode) :
    c.managerTick = c.syncColorTimer := by
  have htick : c.manager.tick ⟨c.board, c.link, c.journal⟩ =
      (c.manager, ⟨c.board, c.link, c.journal⟩) := by
    unfold Manager.tick
    rw [h.startup]
    dsimp only
    rw [if_pos h.testMode]
  unfold managerTick
  rw [htick]

variable [Converter α ε]

theorem inTestMode_testMode (c : Controller α) : (c.step (.testMode true)).InTestMode :=
  ⟨rfl, rfl⟩

/-- Nothing but a switch of test mode ends it. -/
theorem inTestMode_step {c : Controller α} (h : c.InTestMode) {step : Step α}
    (hstep : step ≠ .testMode false) : (c.step step).InTestMode := by
  cases step with
  | manage =>
    rw [Controller.step, managerTick_of_inTestMode h]
    exact ⟨h.testMode, h.startup⟩
  | color =>
    have hmanager := manager_colorTick c
    exact ⟨hmanager ▸ h.testMode, hmanager ▸ h.startup⟩
  | testMode on =>
    cases on with
    | true => exact inTestMode_testMode c
    | false => exact absurd rfl hstep
  | force port classification =>
    obtain ⟨inputs, hforce⟩ := force_frame c port classification
    rw [Controller.step, hforce]
    exact ⟨h.testMode, h.startup⟩
  | request port command =>
    obtain ⟨inputs, hrequest⟩ := requestCommand_frame c port command
    rw [Controller.step, hrequest]
    exact ⟨h.testMode, h.startup⟩
  | _ => exact ⟨h.testMode, h.startup⟩

/-- What each step of a run keeps in test mode, the run keeps if it does not leave test mode. -/
theorem steps_preserves_of_inTestMode {P : Controller α → Prop} {run : List (Step α)}
    (hstep : ∀ {c : Controller α}, c.InTestMode → P c → ∀ step ∈ run, P (c.step step))
    (hrun : .testMode false ∉ run) {c : Controller α} (h : c.InTestMode) (hstart : P c) :
    (c.steps run).InTestMode ∧ P (c.steps run) :=
  steps_preserves (P := fun now => now.InTestMode ∧ P now) run
    (fun hnow step hmem => ⟨inTestMode_step hnow.1 fun heq => hrun (heq ▸ hmem),
      hstep hnow.1 hnow.2 step hmem⟩)
    ⟨h, hstart⟩

/-! ## Jobs -/

/-- In test mode a job that changes the lines of an input port is a burst for a port that is clocked, or
a period of the bit timer for a session that is under way. -/
theorem cause_of_lines_job {c : Controller α} (h : c.InTestMode) {job : Step α}
    (hjob : job.isJob = true) {port : Port}
    (hlines : ((c.step job).portState port).lines ≠ (c.portState port).lines) :
    (job = .sample ∧ SamplerScene.clocks (c.portState port).handshake = true) ∨
      (job = .color ∧ ∃ session ∈ (c.portState port).session,
        session.inUse = true ∧ session.state ≠ .idle) := by
  cases job with
  | sample =>
    refine .inl ⟨rfl, ?_⟩
    cases hclocks : SamplerScene.clocks (c.portState port).handshake with
    | true => rfl
    | false => exact absurd (lines_sampleTick_of_not_clocks hclocks) hlines
  | color =>
    refine .inr ⟨rfl, Classical.byContradiction fun hnone => hlines ?_⟩
    rw [Controller.step, portState_colorTick, PortState.colorTick_eq_self]
    intro session hmem hinUse
    exact Classical.byContradiction fun hunder => hnone ⟨session, hmem, hinUse, hunder⟩
  | manage =>
    rw [Controller.step, managerTick_of_inTestMode h] at hlines
    exact absurd rfl hlines
  | time clock => exact absurd rfl hlines
  | _ => cases hjob

/-- In test mode no job changes the lines of a dormant port. -/
theorem lines_job_of_dormant {c : Controller α} (h : c.InTestMode) {job : Step α}
    (hjob : job.isJob = true) {port : Port} (hdormant : (c.portState port).Dormant) :
    ((c.step job).portState port).lines = (c.portState port).lines := by
  refine Classical.byContradiction fun hlines => ?_
  rcases cause_of_lines_job h hjob hlines with ⟨-, hclocks⟩ | ⟨-, session, hmem, hinUse, hunder⟩
  · rw [hdormant.not_clocks] at hclocks
    cases hclocks
  · exact hunder (hdormant.resting session hmem hinUse)

/-- No job touches an output port in test mode. -/
theorem outputs_job {c : Controller α} (h : c.InTestMode) {job : Step α}
    (hjob : job.isJob = true) : (c.step job).board.outputs = c.board.outputs := by
  cases job with
  | sample => exact outputs_sampleTick c
  | color => exact outputs_colorTick c
  | manage =>
    rw [Controller.step, managerTick_of_inTestMode h]
    rfl
  | time clock => rfl
  | _ => cases hjob

/-! ## Steps and runs -/

/-- Nothing but a tick of the manager can wake a dormant port. -/
theorem dormant_step_of_ne_manage {c : Controller α} {port : Port} {step : Step α}
    (hstep : step ≠ .manage) (hdormant : (c.portState port).Dormant) :
    ((c.step step).portState port).Dormant := by
  have hrequest : step.isJob = false → ((c.step step).portState port).Dormant := by
    intro hjob
    obtain ⟨hhandshake, hsession, -⟩ := shared_step c hjob port
    exact hdormant.of_eq hhandshake hsession
  cases step with
  | sample =>
    rcases handshake_sampleTick c port with hsame | hcycle
    · exact hdormant.of_eq hsame rfl
    · exact hdormant.of_cycle hcycle rfl
  | manage => exact absurd rfl hstep
  | color =>
    rw [Controller.step, portState_colorTick, PortState.colorTick_eq_self _ hdormant.resting]
    exact hdormant
  | time clock => exact hdormant
  | _ => exact hrequest rfl

/-- In test mode a dormant port stays dormant, whatever happens. -/
theorem dormant_step {c : Controller α} (h : c.InTestMode) {port : Port} (step : Step α)
    (hdormant : (c.portState port).Dormant) : ((c.step step).portState port).Dormant := by
  cases step with
  | manage =>
    rw [Controller.step, managerTick_of_inTestMode h]
    exact hdormant
  | _ => exact dormant_step_of_ne_manage (by simp) hdormant

theorem dormant_steps {c : Controller α} {port : Port} {run : List (Step α)} (h : c.InTestMode)
    (hrun : .testMode false ∉ run) (hdormant : (c.portState port).Dormant) :
    ((c.steps run).portState port).Dormant :=
  (steps_preserves_of_inTestMode (P := fun now => (now.portState port).Dormant)
    (fun hnow hport step _ => dormant_step hnow step hport) hrun h hdormant).2

/-- A step in test mode that drives no pin of a dormant port keeps its pins released. -/
theorem drive_step_of_dormant {c : Controller α} (h : c.InTestMode) {port : Port}
    {released : InputLines} {step : Step α} (hdormant : (c.portState port).Dormant)
    (hdriven : ∀ role drive, step ≠ .drive port role drive)
    (hdrive : (c.portState port).lines.drive = released.release.drive) :
    ((c.step step).portState port).lines.drive = released.release.drive := by
  cases hjob : step.isJob with
  | true => rw [lines_job_of_dormant h hjob hdormant, hdrive]
  | false =>
    rcases drive_step c hjob hdriven with hkept | hreleased
    · rw [hkept, hdrive]
    · rw [hreleased, InputLines.drive_release_of_eq hdrive, hdrive]

/-- A dormant port that is released stays so unless user space drives one of its pins. -/
theorem drive_steps_of_dormant {c : Controller α} {port : Port} {released : InputLines}
    {run : List (Step α)} (h : c.InTestMode) (hrun : .testMode false ∉ run)
    (hdormant : (c.portState port).Dormant) (hdriven : ∀ role drive, .drive port role drive ∉ run)
    (hdrive : (c.portState port).lines.drive = released.release.drive) :
    ((c.steps run).portState port).lines.drive = released.release.drive := by
  refine (steps_preserves_of_inTestMode
    (P := fun now => (now.portState port).Dormant ∧
      (now.portState port).lines.drive = released.release.drive) ?_ hrun h ⟨hdormant, hdrive⟩).2.2
  rintro now hnow ⟨hport, hkept⟩ step hmem
  exact ⟨dormant_step hnow step hport,
    drive_step_of_dormant hnow hport (fun role drive heq => hdriven role drive (heq ▸ hmem)) hkept⟩

/-- What is no job drives no pin of an output port unless user space asks for it; it may release
them. -/
theorem output_drive_step (c : Controller α) {step : Step α} (hjob : step.isJob = false)
    {port : Port} (hdrive : ∀ role drive, step ≠ .driveOutput port role drive) :
    ((c.step step).board.outputs.get port).lines.drive = (c.board.outputs.get port).lines.drive ∨
      ((c.step step).board.outputs.get port).lines = (c.board.outputs.get port).lines.release := by
  cases step with
  | sample => cases hjob
  | manage => cases hjob
  | color => cases hjob
  | time clock => cases hjob
  | force other classification =>
    obtain ⟨inputs, h⟩ := force_frame c other classification
    rw [Controller.step, h]
    exact .inl rfl
  | request other command =>
    obtain ⟨inputs, h⟩ := requestCommand_frame c other command
    rw [Controller.step, h]
    exact .inl rfl
  | testMode on =>
    cases on with
    | true =>
      have hsocket := congrArg OutputState.socket (outputState_setTestMode c true port)
      exact .inr (congrArg OutputSocket.lines hsocket)
    | false => exact .inl rfl
  | driveOutput other role drive =>
    have hne : port ≠ other := by
      rintro rfl
      exact hdrive role drive rfl
    refine .inl ?_
    show ((c.board.modifyOutputLines other _).outputs.get port).lines.drive = _
    rw [Board.modifyOutputLines, PerPort.get_modify_ne _ _ hne]
  | plugOutput other level =>
    refine .inl ?_
    show ((c.board.modifyOutputLines other _).outputs.get port).lines.drive = _
    by_cases heq : port = other
    · subst heq
      rw [Board.modifyOutputLines, PerPort.get_modify_self]
    · rw [Board.modifyOutputLines, PerPort.get_modify_ne _ _ heq]
  | _ => exact .inl rfl

/-- An output port that is released stays so unless user space drives one of its pins. -/
theorem output_drive_steps {c : Controller α} {port : Port} {released : OutputLines}
    {run : List (Step α)} (h : c.InTestMode) (hrun : .testMode false ∉ run)
    (hdriven : ∀ role drive, .driveOutput port role drive ∉ run)
    (hdrive : (c.board.outputs.get port).lines.drive = released.release.drive) :
    ((c.steps run).board.outputs.get port).lines.drive = released.release.drive := by
  refine (steps_preserves_of_inTestMode
    (P := fun now => (now.board.outputs.get port).lines.drive = released.release.drive)
    ?_ hrun h hdrive).2
  intro now hnow hkept step hmem
  cases hjob : step.isJob with
  | true => rw [outputs_job hnow hjob, hkept]
  | false =>
    have hundriven : ∀ role drive, step ≠ .driveOutput port role drive :=
      fun role drive heq => hdriven role drive (heq ▸ hmem)
    rcases output_drive_step now hjob hundriven with hstays | hreleased
    · rw [hstays, hkept]
    · rw [hreleased, OutputLines.drive_release_of_eq hkept, hkept]

/-- **Test mode owns the pins of dormant ports.** Enter test mode in any controller, and let anything
happen while test mode is not left.

* A job then changes nothing of an output port. It changes the lines of an input port only as a burst
  for a port that is clocked or as a period of the bit timer for a session under way, and it changes
  nothing of a port that was dormant when test mode was entered.
* Until user space drives a pin of it, an output port keeps the drives it was released with, and so
  does an input port that was dormant. -/
theorem test_mode_keeps_dormant_ports (c : Controller α) {run : List (Step α)}
    (hrun : .testMode false ∉ run) (port : Port) :
    let now := (c.step (.testMode true)).steps run
    (∀ job : Step α, job.isJob = true →
        (now.step job).board.outputs = now.board.outputs ∧
          (((now.step job).portState port).lines ≠ (now.portState port).lines →
            (job = .sample ∧ SamplerScene.clocks (now.portState port).handshake = true) ∨
              (job = .color ∧ ∃ session ∈ (now.portState port).session,
                session.inUse = true ∧ session.state ≠ .idle)) ∧
          ((c.portState port).Dormant →
            ((now.step job).portState port).lines = (now.portState port).lines)) ∧
      ((∀ role drive, .driveOutput port role drive ∉ run) →
        (now.board.outputs.get port).lines.drive =
          (c.board.outputs.get port).lines.release.drive) ∧
      ((c.portState port).Dormant → (∀ role drive, .drive port role drive ∉ run) →
        (now.portState port).lines.drive = (c.portState port).lines.release.drive) := by
  intro now
  have hentered := inTestMode_testMode c
  have hnow : now.InTestMode := (steps_preserves_of_inTestMode (P := fun _ => True)
    (fun _ _ _ _ => trivial) hrun hentered trivial).1
  -- entering test mode releases the port and leaves handshake and session alone
  have hport := portState_setTestMode c true port
  have hdormant : (c.portState port).Dormant →
      ((c.step (.testMode true)).portState port).Dormant :=
    fun h => h.of_eq (by rw [Controller.step, hport]; rfl) (by rw [Controller.step, hport])
  refine ⟨fun job hjob => ⟨outputs_job hnow hjob, cause_of_lines_job hnow hjob, ?_⟩, ?_, ?_⟩
  · intro h
    exact lines_job_of_dormant hnow hjob (dormant_steps hentered hrun (hdormant h))
  · intro hdriven
    refine output_drive_steps hentered hrun hdriven ?_
    have hsocket := congrArg OutputState.socket (outputState_setTestMode c true port)
    exact congrArg (fun socket => socket.lines.drive) hsocket
  · intro h hdriven
    refine drive_steps_of_dormant hentered hrun (hdormant h) hdriven ?_
    rw [Controller.step, hport]
    rfl

/-- A pin that is driven in test mode. A session is started on the first port, and test mode is
entered; the second period of the bit timer behind that drives pin 5 high. The second port, which is
connected as well, is dormant and keeps its drives. -/
theorem test_mode_keeps_dormant_ports_under_way :
    ∃ fresh : Controller Multiplexer,
      Controller.new {} {} { detection := { resetMs := 0, floatMs := 0, connectMs := 0 } }
          = .ok fresh ∧
        let c := fresh.steps (List.replicate 8 .manage ++ [.request .p1 0x0D, .manage, .manage])
        let now := (c.step (.testMode true)).steps [.color]
        Step.testMode false ∉ ([.color] : List (Step Multiplexer)) ∧
          (now.portState .p1).lines.drive.get .pin5 = .float ∧
          ((now.step .color).portState .p1).lines.drive.get .pin5 = .high ∧
          (∃ session ∈ (now.portState .p1).session,
            session.inUse = true ∧ session.state ≠ .idle) ∧
          (c.portState .p2).Dormant ∧
          (now.portState .p2).lines.drive = (c.portState .p2).lines.release.drive := by
  refine ⟨_, rfl, ?_⟩
  intro c now
  have hrun : Step.testMode false ∉ ([.color] : List (Step Multiplexer)) := by simp
  have hfloat : (now.portState .p1).lines.drive.get .pin5 = .float := by decide +kernel
  have hhigh : ((now.step .color).portState .p1).lines.drive.get .pin5 = .high := by
    decide +kernel
  have hchanged : ((now.step .color).portState .p1).lines ≠ (now.portState .p1).lines := by
    intro heq
    rw [heq, hfloat] at hhigh
    cases hhigh
  have hunused : (c.portState .p2).session.all (fun session => !session.inUse) = true := by
    decide +kernel
  have hdormant : (c.portState .p2).Dormant := by
    refine ⟨by decide +kernel, by decide +kernel, fun session hmem hinUse => ?_⟩
    rw [Option.mem_def.mp hmem, Option.all_some, hinUse] at hunused
    cases hunused
  obtain ⟨hjobs, -, -⟩ := test_mode_keeps_dormant_ports c hrun .p1
  obtain ⟨-, -, hkept⟩ := test_mode_keeps_dormant_ports c hrun .p2
  refine ⟨hrun, hfloat, hhigh, ?_, hdormant, hkept hdormant (by simp)⟩
  rcases (hjobs .color rfl).2.1 hchanged with ⟨hsample, -⟩ | ⟨-, hsession⟩
  · cases hsample
  · exact hsession

end Controller

end PlugWatch
