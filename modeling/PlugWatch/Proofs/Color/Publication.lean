import PlugWatch.Proofs.Color.Encoding
import PlugWatch.Proofs.Color.Exchange
/-!
# The calibration that is published

The answer of a colour sensor comes in bit by bit, in a buffer that the command went out of, while
the connection manager looks now and then whether the session is over. This file proves that
nevertheless only whole answers are published: calibration, limits and checksum of a port change
only when its watch collects a session that is over, and they are then made of the levels that this
session has read.

## Main Definitions

* `Controller.collects` : a step in which the watch of a port leaves the wait for a session because
  the session is over.
* `Controller.wireSinceStart` : what the session of a port has done on the wire since it was started
  last.
* `Controller.Tracks` : a session that is waited for has gone on with its exchange.

## Main Statements

* `SamplerScene.withoutRaw_burst` : of the data of a sensor, a burst replaces raw conversions only.
* `PortState.color_tick` : of all that a tick of the watch does, only the collecting of a session
  touches the data.
* `Controller.tracks_step` : no step breaks the invariant.
* `Controller.published_calibration_whole` : what is published is a whole answer.
-/

namespace PlugWatch

/-- The data of a sensor, but for the raw conversions. -/
def ColorData.withoutRaw (data : ColorData) : ColorData :=
  { data with adRaw := Vector.replicate 4 0 }

namespace SamplerScene

variable {α ε : Type}

/-! ## The sampler -/

theorem withoutRaw_store (scene : SamplerScene α) (reply : Reply) (counts : UInt16) (port : Port) :
    ((scene.store reply counts).board.inputs.get port).color.withoutRaw =
      (scene.board.inputs.get port).color.withoutRaw := by
  cases reply with
  | colorRaw color =>
    simp only [store]
    by_cases h : port = scene.sampler.colorPort
    · subst h
      simp [ColorData.withoutRaw]
    · simp [PerPort.get_modify_ne _ _ h]
  | _ => rfl

theorem withoutRaw_apply (scene : SamplerScene α) (entry : Entry) (counts : UInt16) (port : Port) :
    ((scene.apply entry counts).board.inputs.get port).color.withoutRaw =
      (scene.board.inputs.get port).color.withoutRaw := by
  simp only [apply, inputs_clock]
  split <;> exact withoutRaw_store scene entry.reply counts port

theorem color_finish (scene : SamplerScene α) (port : Port) :
    (scene.finish.board.inputs.get port).color = (scene.board.inputs.get port).color := by
  unfold finish
  split
  · rw [get_completeCycle]
    split <;> rfl
  · rfl

/-- Of the data of a sensor, a burst replaces raw conversions only. -/
theorem withoutRaw_burst [Converter α ε] (scene : SamplerScene α) (port : Port) :
    (scene.burst.2.board.inputs.get port).color.withoutRaw =
      (scene.board.inputs.get port).color.withoutRaw := by
  have hwalk : (scene.burstWalk.2.board.inputs.get port).color.withoutRaw =
      (scene.prepare.board.inputs.get port).color.withoutRaw := by
    refine walk_preserves
      (P := fun left => (left.board.inputs.get port).color.withoutRaw =
        (scene.prepare.board.inputs.get port).color.withoutRaw) ?_ ?_ _ _ rfl
    · intro left word h
      rw [board_exchange]
      exact h
    · intro left entry counts h
      rw [withoutRaw_apply]
      exact h
  rw [inputs_prepare] at hwalk
  rcases burst_snd scene with h | h
  · rw [h, hwalk]
  · rw [h, color_finish, hwalk]

end SamplerScene

namespace InputScene

/-! ## The watch -/

section Handlers

variable (config : DetectionConfig) (port : Port) (pin1 : UInt16) (scene : InputScene Session)

theorem stage_onDisabled_of_off (hoff : scene.watch.enabled = false) :
    (scene.onDisabled port).watch.stage = scene.watch.stage := by
  unfold onDisabled
  rw [if_neg (by simp [hoff])]
  dsimp only
  split
  · rw [watch_stopSession]
  · rfl

/-- A session that is over is collected, late or not. -/
theorem onColorBusy_of_idle {session : Session} (hlink : scene.link = some session)
    (hidle : session.state = .idle) :
    (scene.onColorBusy config port).socket.color = scene.socket.color.load session.buffer ∧
      (scene.onColorBusy config port).watch.stage = .connectedWaitingForPin2High := by
  have hready : ColorProtocol.ready session port = true := decide_eq_true hidle
  obtain ⟨journal, hcollect⟩ :=
    PortState.collect_eq port scene (ColorProtocol.response session port)
  unfold onColorBusy
  rw [hlink]
  dsimp only
  rw [if_pos hready, hcollect]
  split
  · dsimp only [enter]
    rw [socket_stopSession]
    exact ⟨rfl, rfl⟩
  · exact ⟨rfl, rfl⟩

/-- While no session is over, the wait for one touches no data. -/
theorem color_onColorBusy_of_ne (h : ∀ session ∈ scene.link, session.state ≠ .idle) :
    (scene.onColorBusy config port).socket.color = scene.socket.color := by
  unfold onColorBusy
  split
  · rfl
  · rename_i session hlink
    have hready : ¬ColorProtocol.ready session port = true := by
      simpa [ColorProtocol.ready] using h session hlink
    dsimp only
    rw [if_neg hready]
    split
    · dsimp only [enter]
      rw [socket_stopSession]
      rfl
    · rfl

end Handlers

end InputScene

namespace PortState

/-- The watch of a port leaves the wait for a session because the session is over. -/
def Collects (before after : PortState) : Prop :=
  before.stage = .nxtColorBusy ∧ (∃ session ∈ before.session, session.state = .idle) ∧
    after.stage = .connectedWaitingForPin2High

section Tick

variable (config : DetectionConfig) (port : Port) (pin1 : UInt16) (state : PortState)

/-- A tick is what the present stage does, or what is done for a port whose detection is off. -/
theorem tick_cases :
    ∃ scene : InputScene Session,
      (scene = state.scene ∨ (scene = state.scene.goTo .disabled ∧ state.watch.enabled = false)) ∧
        (state.tick config port pin1).socket = (scene.act config port pin1).socket ∧
        (state.tick config port pin1).stage = (scene.act config port pin1).watch.stage := by
  refine ⟨state.scene.gate, ?_, ?_⟩
  · unfold InputScene.gate
    split
    · exact .inl rfl
    · rename_i hoff
      exact .inr ⟨rfl, show state.scene.watch.enabled = false by simpa using hoff⟩
  · unfold PortState.tick InputScene.tick InputScene.settle stage
    dsimp only
    split <;> exact ⟨rfl, rfl⟩

/-- **A tick takes over a block only if it collects a session that is over**, and then the block of
that session. -/
theorem color_tick :
    (state.Collects (state.tick config port pin1) → ∃ session ∈ state.session,
        session.state = .idle ∧
          (state.tick config port pin1).socket.color = state.socket.color.load session.buffer) ∧
      (¬state.Collects (state.tick config port pin1) →
        (state.tick config port pin1).socket.color = state.socket.color) := by
  obtain ⟨scene, hscene, hsocket, hstage⟩ := state.tick_cases config port pin1
  rw [Collects, hsocket, hstage]
  rcases hscene with rfl | ⟨rfl, hoff⟩
  · by_cases hbusy : state.stage = .nxtColorBusy
    · have hact : state.scene.act config port pin1 = state.scene.onColorBusy config port := by
        unfold InputScene.act
        rw [show state.scene.watch.stage = .nxtColorBusy from hbusy]
      rw [hact]
      by_cases hready : ∃ session ∈ state.session, session.state = .idle
      · obtain ⟨session, hsession, hidle⟩ := hready
        obtain ⟨hcolor, hnext⟩ :=
          InputScene.onColorBusy_of_idle config port state.scene hsession hidle
        refine ⟨fun _ => ⟨session, hsession, hidle, hcolor⟩, fun hnot => ?_⟩
        exact absurd ⟨hbusy, ⟨session, hsession, hidle⟩, hnext⟩ hnot
      · refine ⟨fun hcollects => absurd hcollects.2.1 hready, fun _ => ?_⟩
        refine InputScene.color_onColorBusy_of_ne config port state.scene fun session hsession => ?_
        exact fun hidle => hready ⟨session, hsession, hidle⟩
    · exact ⟨fun hcollects => absurd hcollects.1 hbusy,
        fun _ => (InputScene.color_act config port pin1 state.scene hbusy).1⟩
  · -- a port whose detection is off stays in the stage for that
    have hact : (state.scene.goTo .disabled).act config port pin1 =
        (state.scene.goTo .disabled).onDisabled port := rfl
    have hstays : ((state.scene.goTo .disabled).onDisabled port).watch.stage = .disabled :=
      InputScene.stage_onDisabled_of_off port _ hoff
    refine ⟨fun hcollects => ?_, fun _ => ?_⟩
    · rw [hact, hstays] at hcollects
      cases hcollects.2.2
    · exact (InputScene.color_act config port pin1 (state.scene.goTo .disabled) nofun).1

end Tick

theorem color_colorTick (delay : UInt16) (state : PortState) :
    (state.colorTick delay).socket.color = state.socket.color := by
  unfold colorTick
  split
  · rfl
  · split <;> rfl

/-- A move begins the wait for a session by starting it, goes on waiting and leaves it alone, or does
not wait; in no other case a session is started. -/
theorem Move.waits {before after : PortState} (move : Move before after) :
    (before.stage ≠ .nxtColorBusy ∧ after.stage = .nxtColorBusy ∧
        ∃ command, after.session = before.session.map fun session => session.start command) ∨
      (before.stage = .nxtColorBusy ∧ after.stage = .nxtColorBusy ∧
        after.session = before.session) ∨
      (after.stage ≠ .nxtColorBusy ∧
        (after.session = before.session ∨ after.session = before.session.map Session.stop)) := by
  have hordinary : after.stage.ordinary = true → after.stage ≠ .nxtColorBusy := by
    intro hstage hbusy
    rw [hbusy] at hstage
    cases hstage
  cases move with
  | look hlines hhandshake hsession hstage =>
    by_cases hbusy : after.stage = .nxtColorBusy
    · rcases hstage with hstage | hstage | ⟨-, hstage⟩
      · exact absurd hbusy (hordinary hstage)
      · exact .inr (.inl ⟨hstage ▸ hbusy, hbusy, hsession⟩)
      · rw [hbusy] at hstage
        cases hstage
    · exact .inr (.inr ⟨hbusy, .inl hsession⟩)
  | release hlines hhandshake hsession hstage =>
    exact .inr (.inr ⟨hordinary hstage, .inl hsession⟩)
  | restart hlines hhandshake hsession hstage =>
    exact .inr (.inr ⟨by simp [hstage], .inr hsession⟩)
  | prepare hlines hhandshake hsession hstage =>
    refine .inr (.inr ⟨?_, .inr hsession⟩)
    rcases hstage with hstage | hstage <;> simp [hstage]
  | start hlines hhandshake hsession hbefore hsettled hstage =>
    exact .inl ⟨by simp [hbefore], hstage, _, hsession⟩
  | collect hlines hhandshake hsession hbefore hstage =>
    exact .inr (.inr ⟨by simp [hstage], .inr hsession⟩)
  | abandon hlines hhandshake hsession hstage =>
    exact .inr (.inr ⟨hordinary hstage, .inr hsession⟩)

end PortState

namespace Controller

variable {α ε : Type}

/-! ## The wire -/

/-- The watch of a port starts a session in the coming tick of the manager. -/
def starts (c : Controller α) (port : Port) : Bool :=
  (c.portState port).stage ≠ .nxtColorBusy && (c.managerTick.portState port).stage = .nxtColorBusy

/-- A tick of the manager begins the wait for a session by starting it, goes on waiting and leaves it
alone, or does not wait. -/
theorem session_managerTick (c : Controller α) (port : Port) :
    (c.starts port = true ∧ ∃ command, (c.managerTick.portState port).session =
        (c.portState port).session.map fun session => session.start command) ∨
      (c.starts port = false ∧
        ((c.managerTick.portState port).session = (c.portState port).session ∨
          ((c.managerTick.portState port).stage ≠ .nxtColorBusy ∧
            (c.managerTick.portState port).session =
              (c.portState port).session.map Session.stop))) := by
  unfold starts
  rw [portState_managerTick]
  split
  · rcases (PortState.move_tick c.manager.config port (c.board.samples.inPin1 port)
      (c.portState port)).waits with ⟨hbefore, hafter, hstart⟩ | ⟨hbefore, hafter, hsame⟩ |
        ⟨hafter, hsession⟩
    · exact .inl ⟨by simp [hbefore, hafter], hstart⟩
    · exact .inr ⟨by simp [hbefore], .inl hsame⟩
    · exact .inr ⟨by simp [hafter], hsession.imp_right fun hstop => ⟨hafter, hstop⟩⟩
  · exact .inr ⟨by simp, .inl rfl⟩

/-- What the session of a port has done on the wire since it was started last, behind a further
step. -/
def goOn [Converter α ε] (c : Controller α) (port : Port) (wire : List Period) :
    Step α → List Period
  | .manage => if c.starts port then [] else wire
  | .color => wire ++ ((c.portState port).period? (c.initDelay?.getD 0)).toList
  | _ => wire

variable [Converter α ε]

/-- What the session of a port has done on the wire since it was started last, behind further
steps. -/
def wireSinceStart (port : Port) : Controller α → List (Step α) → List Period → List Period
  | _, [], wire => wire
  | c, step :: rest, wire => wireSinceStart port (c.step step) rest (c.goOn port wire step)

/-- A session that is waited for has gone on with its exchange. -/
def Tracks (c : Controller α) (port : Port) (wire : List Period) : Prop :=
  (c.portState port).stage = .nxtColorBusy → ∀ session ∈ (c.portState port).session,
    ∃ command, session.Exchange (c.initDelay?.getD 0) command wire

theorem initDelay?_step (c : Controller α) (step : Step α) :
    (c.step step).initDelay? = c.initDelay? := by
  cases step with
  | manage => exact (frame_managerTick c).2.2
  | color =>
    show c.colorTick.initDelay? = c.initDelay?
    unfold colorTick initDelay?
    rcases hlink : c.link with - | link
    · rw [hlink]
    · have hframe := (ColorLink.stepPorts_frame Port.all (link, c.board)).1
      rw [← ColorLink.tick_eq] at hframe
      exact congrArg some hframe
  | force port classification =>
    rw [step, force]
    split <;> rfl
  | request port command =>
    rw [step, requestCommand]
    split <;> rfl
  | testMode on => cases on <;> rfl
  | _ => rfl

/-- No step breaks the invariant: the exchange of a session that is waited for goes on. -/
theorem tracks_step {c : Controller α} {port : Port} {wire : List Period} (step : Step α)
    (h : c.Tracks port wire) : (c.step step).Tracks port (c.goOn port wire step) := by
  -- requests leave the session alone, and lead to no wait for it
  have hrequest : step.isJob = false → (c.step step).Tracks port wire := by
    intro hjob hbusy session hsession
    obtain ⟨-, hsame, hstage⟩ := shared_step c hjob port
    rw [hsame] at hsession
    rw [initDelay?_step]
    rcases hstage with hstage | hstage | hstage
    · exact h (hstage ▸ hbusy) session hsession
    · rw [hbusy] at hstage
      cases hstage
    · rw [hbusy] at hstage
      cases hstage
  cases step with
  | sample => exact h
  | manage =>
    intro hbusy session hsession
    have hdelay : c.managerTick.initDelay? = c.initDelay? := (frame_managerTick c).2.2
    rw [Controller.step, hdelay]
    rcases c.session_managerTick port with ⟨hstarts, command, hstart⟩ | ⟨hstarts, hsession'⟩
    · -- what was on the wire before counts no more
      have hmem : session ∈ (c.managerTick.portState port).session := hsession
      rw [hstart] at hmem
      obtain ⟨before, -, rfl⟩ := Option.map_eq_some_iff.mp hmem
      rw [goOn, if_pos hstarts]
      exact ⟨command, before.exchange_start _ command⟩
    · have hbefore : (c.portState port).stage = .nxtColorBusy := by
        have hafter : (c.managerTick.portState port).stage = .nxtColorBusy := hbusy
        simpa [starts, hafter] using hstarts
      rw [goOn, hstarts]
      rcases hsession' with hsame | ⟨hleft, -⟩
      · exact h hbefore session (hsame ▸ hsession)
      · exact absurd hbusy hleft
  | color =>
    intro hbusy session hsession
    rw [initDelay?_step, goOn]
    rw [Controller.step, portState_colorTick] at hbusy hsession
    have hbefore : (c.portState port).stage = .nxtColorBusy := by
      rw [← hbusy, PortState.stage, PortState.stage, (PortState.colorTick_frame _ _).2]
    rcases hheld : (c.portState port).session with - | before
    · simp [PortState.colorTick, hheld] at hsession
    · obtain ⟨command, hexchange⟩ := h hbefore before hheld
      obtain ⟨stepped, hstepped, hnext⟩ := PortState.exchange_colorTick hheld hexchange
      rw [hstepped] at hsession
      cases hsession
      exact ⟨command, hnext⟩
  | time clock => exact h
  | _ => exact hrequest rfl

theorem tracks_run {c : Controller α} {port : Port} (run : List (Step α)) {wire : List Period}
    (h : c.Tracks port wire) : (c.steps run).Tracks port (c.wireSinceStart port run wire) := by
  induction run generalizing c wire with
  | nil => exact h
  | cons step rest ih => exact ih (tracks_step step h)

/-- In a fresh controller no session is waited for. -/
theorem tracks_new {adc : α} {board : Board} {config : Config} {c : Controller α}
    (h : Controller.new adc board config = .ok c) (port : Port) : c.Tracks port [] := by
  intro hbusy
  rw [PortState.stage, (portState_new h port).1] at hbusy
  cases hbusy

/-! ## The data -/

/-- In a step the watch of a port leaves the wait for a session because the session is over. -/
def collects (c : Controller α) (port : Port) : Step α → Prop
  | .manage =>
    (c.portState port).stage = .nxtColorBusy ∧
      (c.link.any fun link => link.ready port) = true ∧
      (c.managerTick.portState port).stage = .connectedWaitingForPin2High
  | _ => False

omit [Converter α ε] in
theorem collects_manage_iff (c : Controller α) (port : Port) :
    c.collects port .manage ↔ (c.portState port).Collects (c.managerTick.portState port) := by
  have hready : (c.link.any fun link => link.ready port) = true ↔
      ∃ session ∈ (c.portState port).session, session.state = .idle := by
    rcases hlink : c.link with - | link
    · simp [portState, hlink, ColorLink.session?]
    · simp only [portState, hlink, ColorLink.session?, Option.map_some, Option.any_some,
        Option.mem_some_iff, exists_eq_left', ColorLink.ready, ColorLink.state]
      exact decide_eq_true_iff
  rw [collects, hready, PortState.Collects]

/-- What is no job leaves the data of every sensor alone. -/
theorem color_request (c : Controller α) {step : Step α} (hjob : step.isJob = false)
    (port : Port) :
    ((c.step step).portState port).socket.color = (c.portState port).socket.color := by
  cases step with
  | sample => cases hjob
  | manage => cases hjob
  | color => cases hjob
  | time clock => cases hjob
  | enable other on =>
    obtain ⟨enabled, h⟩ := portState_setEnabled c other port on
    rw [Controller.step, h]
  | force other classification =>
    obtain ⟨verdict, h⟩ := portState_force c other port classification
    rw [Controller.step, h]
  | request other command =>
    rw [Controller.step, portState_requestCommand]
    split <;> rfl
  | testMode on =>
    rw [Controller.step, portState_setTestMode]
    cases on <;> rfl
  | release other =>
    obtain ⟨lines, h⟩ := portState_modifyInputLines c other port .release
    rw [Controller.step, h]
  | drive other role drive =>
    obtain ⟨lines, h⟩ := portState_modifyInputLines c other port fun lines =>
      lines.driveTo role drive
    rw [Controller.step, h]
  | plug other level sensor =>
    obtain ⟨lines, h⟩ := portState_modifyInputLines c other port fun lines =>
      { lines with level := level, sensor := sensor }
    rw [Controller.step, h]
  | _ => rfl

/-- A step that does not collect a session leaves the data alone, but for raw conversions. -/
theorem withoutRaw_step {c : Controller α} {port : Port} {step : Step α}
    (h : ¬c.collects port step) :
    ((c.step step).portState port).socket.color.withoutRaw =
      (c.portState port).socket.color.withoutRaw := by
  have hrequest : step.isJob = false →
      ((c.step step).portState port).socket.color.withoutRaw =
        (c.portState port).socket.color.withoutRaw :=
    fun hjob => congrArg _ (color_request c hjob port)
  cases step with
  | sample =>
    rw [Controller.step, portState_sampleTick]
    exact SamplerScene.withoutRaw_burst c.samplerScene port
  | manage =>
    rw [collects_manage_iff] at h
    rw [Controller.step]
    rw [portState_managerTick] at h ⊢
    split
    · rename_i hrunning
      rw [if_pos hrunning] at h
      exact congrArg _ ((PortState.color_tick _ _ _ _).2 h)
    · rfl
  | color =>
    rw [Controller.step, portState_colorTick, PortState.color_colorTick]
  | time clock => rfl
  | _ => exact hrequest rfl

/-- A step that collects a session takes its block over. -/
theorem color_step_of_collects {c : Controller α} {port : Port} {step : Step α}
    (h : c.collects port step) :
    (c.portState port).stage = .nxtColorBusy ∧
      ∃ session ∈ (c.portState port).session, session.state = .idle ∧
        ((c.step step).portState port).socket.color =
          (c.portState port).socket.color.load session.buffer := by
  cases step with
  | manage =>
    refine ⟨h.1, ?_⟩
    rw [collects_manage_iff] at h
    rw [Controller.step]
    rw [portState_managerTick] at h ⊢
    split
    · rename_i hrunning
      rw [if_pos hrunning] at h
      exact (PortState.color_tick _ _ _ _).1 h
    · rename_i hclosed
      rw [if_neg hclosed] at h
      -- while the gate is closed no port leaves its stage
      have hstays := h.1.symm.trans h.2.2
      cases hstays
  | _ => exact h.elim

/-- **Published calibration is always one whole answer.** In any run of a controller, a step in which
the watch of a port leaves the wait for a session because the session is over takes over 54 bytes,
made of the levels that were read on the data line since the session was started last, and no
readings. Every other step leaves calibration, limits and checksum alone, whatever becomes of
sessions that are late, started again, switched off or lost in test mode. A session that is over in
the very tick in which its time runs out is over. -/
theorem published_calibration_whole {adc : α} {board : Board} {config : Config} {c : Controller α}
    (h : Controller.new adc board config = .ok c) (run : List (Step α)) (step : Step α)
    (port : Port) :
    let before := c.steps run
    let old := (before.board.inputs.get port).color
    let new := ((before.step step).board.inputs.get port).color
    let levels := WireCall.readings (c.wireSinceStart port run []).flatten
    (before.collects port step →
        (∃ block : Block, new.encode = block.toList ∧ block.MadeOf levels) ∧
          new.adRaw = old.adRaw ∧ new.sensorRaw = old.sensorRaw) ∧
      (¬before.collects port step →
        new.calibration = old.calibration ∧ new.calLimits = old.calLimits ∧ new.crc = old.crc ∧
          new.sensorRaw = old.sensorRaw) := by
  intro before old new levels
  refine ⟨fun hcollects => ?_, fun hother => ?_⟩
  · obtain ⟨hbusy, session, hsession, hidle, hcolor⟩ := color_step_of_collects hcollects
    obtain ⟨command, hexchange⟩ := tracks_run run (tracks_new h port) hbusy session hsession
    obtain ⟨first, again, taken, hmade, hwhole⟩ := hexchange.whole_of_idle hidle
    have hlevels : levels = taken := by
      show WireCall.readings (c.wireSinceStart port run []).flatten = taken
      rw [hwhole, Script.readings_whole]
    have hnew : new = old.load session.buffer := hcolor
    rw [hnew, hlevels]
    exact ⟨⟨session.buffer, old.encode_load session.buffer, hmade⟩, rfl, rfl⟩
  · have hsame : new.withoutRaw = old.withoutRaw := withoutRaw_step hother
    injection hsame with hcalibration hlimits hcrc hraw hsensor
    exact ⟨hcalibration, hlimits, hcrc, hsensor⟩

/-- On a board with a loaded pin 1 the first port is connected after eight ticks. It is asked for a
colour command and starts a session, which is over after 944 periods of the bit timer; the next tick
of the manager collects it. -/
theorem published_calibration_whole_collected :
    ∃ (fresh : Controller Multiplexer) (run : List (Step Multiplexer)),
      Controller.new {} {}
          { detection := { resetMs := 0, floatMs := 0, connectMs := 0 }
            link := { initDelayMs := 0 } } = .ok fresh ∧
        (fresh.steps run).collects .p1 .manage ∧
          ∃ block : Block,
            ((((fresh.steps run).step .manage).board.inputs.get .p1).color.encode = block.toList) ∧
              block.MadeOf (WireCall.readings (fresh.wireSinceStart .p1 run []).flatten) := by
  let run : List (Step Multiplexer) :=
    List.replicate 8 .manage ++ [.request .p1 0x0D, .manage, .manage] ++ List.replicate 944 .color
  have hcollected : ((Controller.new ({} : Multiplexer) {}
      { detection := { resetMs := 0, floatMs := 0, connectMs := 0 }
        link := { initDelayMs := 0 } }).toOption.map fun c =>
          (((c.steps run).portState .p1).stage, (c.steps run).link.any fun link => link.ready .p1,
            ((c.steps run).managerTick.portState .p1).stage)) =
      some (.nxtColorBusy, true, .connectedWaitingForPin2High) := by
    decide +kernel
  cases hfresh : Controller.new ({} : Multiplexer) {}
      { detection := { resetMs := 0, floatMs := 0, connectMs := 0 }
        link := { initDelayMs := 0 } } with
  | error fault =>
    rw [hfresh] at hcollected
    cases hcollected
  | ok fresh =>
    rw [hfresh] at hcollected
    obtain ⟨hbusy, hrest⟩ := Prod.mk.inj (Option.some.inj hcollected)
    obtain ⟨hready, hleft⟩ := Prod.mk.inj hrest
    have hcollects : (fresh.steps run).collects .p1 .manage := ⟨hbusy, hready, hleft⟩
    have hpublished := (published_calibration_whole hfresh run .manage .p1).1 hcollects
    exact ⟨fresh, run, rfl, hcollects, hpublished.1⟩

end Controller

end PlugWatch
