import PlugWatch.Proofs.Color.Exclusion
import PlugWatch.Proofs.Detection.Progress
/-!
# What a step does to a port

Of all that can happen to a controller, little concerns the watch of one input port: a tick, and four
requests that name the port or, like test mode, concern every port. This file says once what each of
them does to the port and when it is taken, and that nothing else disturbs the port.

## Main Definitions

* `PortState.Undisturbed` : watch, verdict, colour mode and the use of the session are kept.
* `PortState.Event` : what a step can be to a port.

## Main Statements

* `Controller.event_step` : every step is one of these to every port.
* `Controller.enabled_steps` : nothing but the request for it switches detection on or off.
* `Controller.isRunning_managerTick` : the gate of the manager, once open, stays open in its ticks.
-/

namespace PlugWatch

namespace SamplerScene

variable {α ε : Type}

theorem verdict_store (scene : SamplerScene α) (reply : Reply) (counts : UInt16) (port : Port) :
    ((scene.store reply counts).board.inputs.get port).verdict =
      (scene.board.inputs.get port).verdict := by
  cases reply with
  | colorRaw color =>
    simp only [store]
    by_cases h : port = scene.sampler.colorPort
    · subst h
      simp
    · simp [PerPort.get_modify_ne _ _ h]
  | _ => rfl

theorem verdict_apply (scene : SamplerScene α) (entry : Entry) (counts : UInt16) (port : Port) :
    ((scene.apply entry counts).board.inputs.get port).verdict =
      (scene.board.inputs.get port).verdict := by
  simp only [apply, inputs_clock]
  split <;> exact verdict_store scene entry.reply counts port

theorem verdict_finish (scene : SamplerScene α) (port : Port) :
    (scene.finish.board.inputs.get port).verdict = (scene.board.inputs.get port).verdict := by
  unfold finish
  split
  · rw [get_completeCycle]
    split <;> rfl
  · rfl

/-- A burst publishes no classification. -/
theorem verdict_burst [Converter α ε] (scene : SamplerScene α) (port : Port) :
    (scene.burst.2.board.inputs.get port).verdict = (scene.board.inputs.get port).verdict := by
  have hwalk : (scene.burstWalk.2.board.inputs.get port).verdict =
      (scene.prepare.board.inputs.get port).verdict := by
    refine walk_preserves
      (P := fun left => (left.board.inputs.get port).verdict =
        (scene.prepare.board.inputs.get port).verdict) ?_ ?_ _ _ rfl
    · intro left word h
      rw [board_exchange]
      exact h
    · intro left entry counts h
      rw [verdict_apply]
      exact h
  rw [inputs_prepare] at hwalk
  rcases burst_snd scene with h | h
  · rw [h, hwalk]
  · rw [h, verdict_finish, hwalk]

end SamplerScene

namespace PortState

/-- All of a port that its watch decides is kept: the watch itself, what is published, colour mode
and whether the session is in use. -/
structure Undisturbed (before after : PortState) : Prop where
  watch : after.watch = before.watch
  verdict : after.verdict = before.verdict
  active : after.handshake.active = before.handshake.active
  inUse : after.session.map Session.inUse = before.session.map Session.inUse

theorem Undisturbed.refl (state : PortState) : Undisturbed state state := ⟨rfl, rfl, rfl, rfl⟩

theorem Undisturbed.of_lines (state : PortState) (lines : InputLines) :
    Undisturbed state { state with socket := { state.socket with lines := lines } } :=
  ⟨rfl, rfl, rfl, rfl⟩

theorem Undisturbed.trans {a b c : PortState} (h : Undisturbed a b) (h' : Undisturbed b c) :
    Undisturbed a c :=
  ⟨h'.watch.trans h.watch, h'.verdict.trans h.verdict, h'.active.trans h.active,
    h'.inUse.trans h.inUse⟩

theorem Undisturbed.stage {before after : PortState} (h : Undisturbed before after) :
    after.stage = before.stage :=
  congrArg InputWatch.stage h.watch

theorem Undisturbed.connected {before after : PortState} (h : Undisturbed before after) :
    after.connected = before.connected :=
  congrArg InputWatch.connected h.watch

theorem Undisturbed.enabled {before after : PortState} (h : Undisturbed before after) :
    after.enabled = before.enabled :=
  congrArg InputWatch.enabled h.watch

theorem undisturbed_colorTick (delay : UInt16) (state : PortState) :
    Undisturbed state (state.colorTick delay) := by
  obtain ⟨hhandshake, hwatch⟩ := colorTick_frame delay state
  refine ⟨hwatch, ?_, by rw [hhandshake], inUse_colorTick delay state⟩
  unfold colorTick
  split
  · rfl
  · split <;> rfl

/-- What a step of a controller can be to one port. -/
inductive Event {α : Type} (c : Controller α) (port : Port) (step : Step α)
    (before after : PortState) : Prop where
  /-- Nothing that counts. -/
  | rest (h : Undisturbed before after)
  /-- A tick of the watch. -/
  | tick (hstep : step = .manage) (hrunning : c.manager.isRunning = true)
      (hafter : after = before.tick c.manager.config port (c.board.samples.inPin1 port))
  /-- Detection is switched on or off. -/
  | enable (on : Bool) (hstep : step = .enable port on)
      (hafter : after = { before with watch := before.watch.setEnabled on })
  /-- A classification is forced, which takes a port that counts as connected while its detection is
  off. -/
  | force (classification : Classification) (hstep : step = .force port classification)
      (hoff : before.enabled = false) (hconnected : before.connected = true)
      (hafter : after = { before with socket := { before.socket with verdict := classification } })
  /-- A colour command is taken, for which the port only has to count as connected. -/
  | command (command : UInt8) (hstep : step = .request port command)
      (hconnected : before.connected = true)
      (hafter : after = { before with watch := before.watch.requestCommand command })
  /-- Test mode is switched. -/
  | restart (on : Bool) (hstep : step = .testMode on)
      (hafter : after = { before with
        watch := before.watch.reset
        socket :=
          if on then
            { before.socket with lines := before.socket.lines.release, verdict := .none }
          else before.socket })

end PortState

namespace Manager

theorem startup_tickWatches (state : Manager × Shared ColorLink) :
    (tickWatches state).1.startup = state.1.startup := rfl

end Manager

namespace Controller

variable {α ε : Type}

/-- The gate, once open, stays open when the manager ticks. -/
theorem isRunning_managerTick {c : Controller α} (h : c.manager.isRunning = true) :
    c.managerTick.manager.isRunning = true := by
  show (c.manager.tick ⟨c.board, c.link, c.journal⟩).1.isRunning = true
  rw [Manager.tick_of_running h, Manager.isRunning, Manager.startup_tickWatches]
  exact h

theorem mayForce_iff (c : Controller α) (port : Port) :
    c.manager.mayForce port = true ↔
      (c.portState port).enabled = false ∧ (c.portState port).connected = true := by
  show (!(c.portState port).enabled && (c.portState port).connected) = true ↔ _
  simp

variable [Converter α ε]

theorem undisturbed_sampleTick (c : Controller α) (port : Port) :
    PortState.Undisturbed (c.portState port) (c.sampleTick.2.portState port) := by
  refine ⟨rfl, SamplerScene.verdict_burst c.samplerScene port, ?_, rfl⟩
  rcases handshake_sampleTick c port with hsame | hlatch
  · rw [hsame]
  · rw [hlatch]

theorem undisturbed_modifyInputLines (c : Controller α) (port other : Port)
    (f : InputLines → InputLines) :
    PortState.Undisturbed (c.portState other) ((c.modifyInputLines port f).portState other) := by
  obtain ⟨lines, h⟩ := portState_modifyInputLines c port other f
  rw [h]
  exact .of_lines _ lines

/-- **Every step is one of the events to every port.** -/
theorem event_step (c : Controller α) (step : Step α) (port : Port) :
    PortState.Event c port step (c.portState port) ((c.step step).portState port) := by
  cases step with
  | sample => exact .rest (undisturbed_sampleTick c port)
  | manage =>
    rw [Controller.step, portState_managerTick]
    split
    · rename_i hrunning
      exact .tick rfl hrunning rfl
    · exact .rest (.refl _)
  | color =>
    rw [Controller.step, portState_colorTick]
    exact .rest (PortState.undisturbed_colorTick _ _)
  | enable other on =>
    rw [Controller.step]
    by_cases h : port = other
    · subst h
      exact .enable on rfl (portState_setEnabled_self c port on)
    · rw [portState_setEnabled_ne c on h]
      exact .rest (.refl _)
  | force other classification =>
    rw [Controller.step, portState_force_eq]
    split
    · rename_i hforce
      obtain ⟨rfl, hmay⟩ := hforce
      obtain ⟨hoff, hconnected⟩ := (mayForce_iff c port).mp hmay
      exact .force classification rfl hoff hconnected rfl
    · exact .rest (.refl _)
  | request other command =>
    rw [Controller.step, portState_requestCommand]
    split
    · rename_i hrequest
      obtain ⟨rfl, hconnected⟩ := hrequest
      exact .command command rfl hconnected rfl
    · exact .rest (.refl _)
  | testMode on =>
    rw [Controller.step, portState_setTestMode]
    exact .restart on rfl rfl
  | release other => exact .rest (undisturbed_modifyInputLines c other port _)
  | drive other role drive => exact .rest (undisturbed_modifyInputLines c other port _)
  | plug other level sensor => exact .rest (undisturbed_modifyInputLines c other port _)
  | _ => exact .rest (.refl _)

/-- Nothing but the request for it switches detection of a port on or off. -/
theorem enabled_step {c : Controller α} {step : Step α} {port : Port}
    (h : ∀ on, step ≠ .enable port on) :
    ((c.step step).portState port).enabled = (c.portState port).enabled := by
  cases c.event_step step port with
  | rest hsame => exact hsame.enabled
  | tick hstep hrunning hafter =>
    rw [hafter]
    exact PortState.enabled_tick _ _ _ _
  | enable on hstep hafter => exact absurd hstep (h on)
  | force classification hstep hoff hconnected hafter =>
    rw [hafter]
    rfl
  | command command hstep hconnected hafter =>
    rw [hafter]
    rfl
  | restart on hstep hafter =>
    rw [hafter]
    rfl

theorem enabled_steps {c : Controller α} {port : Port} {run : List (Step α)}
    (h : ∀ on, .enable port on ∉ run) :
    ((c.steps run).portState port).enabled = (c.portState port).enabled := by
  refine steps_preserves
    (P := fun now => (now.portState port).enabled = (c.portState port).enabled) run ?_ rfl
  intro now hnow step hmem
  rw [enabled_step fun on heq => h on (heq ▸ hmem), hnow]

end Controller

end PlugWatch
