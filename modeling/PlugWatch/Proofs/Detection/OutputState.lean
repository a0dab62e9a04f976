import PlugWatch.Proofs.Run
/-!
# The state of one output port

The watch of an output port uses nothing but its own port and the journal, and it leaves no trace of
the journal in the port. Beside it only requests come near an output port: the sampler and the colour
link never do.

## Main Definitions

* `OutputState` : the watch and the socket of one output port.
* `Controller.outputState` : the state of a port in a controller.

## Main Statements

* `Controller.outputState_managerTick` : a tick of the manager is, port by port, a tick of the watch
  of the port, or nothing while the gate is closed.
* `Controller.outputs_sampleTick`, `Controller.outputs_colorTick` : the other jobs leave all output
  ports alone.
* `Controller.outputState_step` : watch and verdict change only in a tick of the watch and when test
  mode is switched.
-/

namespace PlugWatch

/-- All that belongs to one output port. -/
structure OutputState where
  watch : OutputWatch
  socket : OutputSocket

namespace OutputState

/-- The stage of the watch. -/
def stage (state : OutputState) : Stage := state.watch.stage

/-- Whether a device is taken to be connected. -/
def connected (state : OutputState) : Bool := state.watch.connected

/-- What is published about the port. -/
def verdict (state : OutputState) : Classification := state.socket.verdict

/-- A scene without its journal. -/
def ofScene (scene : OutputScene) : OutputState := ⟨scene.watch, scene.socket⟩

/-- The port as a scene with a journal. -/
def scene (state : OutputState) (journal : Journal) : OutputScene :=
  ⟨state.watch, state.socket, journal⟩

end OutputState

/-! ## Ticks of the manager -/

namespace Manager

/-- The state of an output port among all. -/
def outputState (state : Manager × Shared ColorLink) (port : Port) : OutputState :=
  ⟨state.1.outputs.get port, state.2.board.outputs.get port⟩

section Turns

variable {κ : Type}

/-- Ticks of other ports leave the watch and the socket of a port alone. -/
theorem tickOutputs_of_notMem {port : Port} (ports : List Port) (hport : port ∉ ports)
    (state : Manager × Shared κ) :
    let after := ports.foldl (fun state port => tickOutput port state) state
    after.1.outputs.get port = state.1.outputs.get port ∧
      after.2.board.outputs.get port = state.2.board.outputs.get port := by
  induction ports generalizing state with
  | nil => exact ⟨rfl, rfl⟩
  | cons other rest ih =>
    rw [List.mem_cons, not_or] at hport
    obtain ⟨hwatch, hsocket⟩ := ih hport.2 (tickOutput other state)
    refine ⟨hwatch.trans ?_, hsocket.trans ?_⟩
    · exact PerPort.get_set_ne _ _ hport.1
    · exact PerPort.get_set_ne _ _ hport.1

/-- When all watches tick, each output port ticks, with some journal at hand. -/
theorem tickWatches_output [ColorProtocol κ] (state : Manager × Shared κ) (port : Port) :
    ∃ journal, OutputState.mk ((tickWatches state).1.outputs.get port)
        ((tickWatches state).2.board.outputs.get port) =
      .ofScene ((OutputScene.mk (state.1.outputs.get port) (state.2.board.outputs.get port)
        journal).tick state.1.config port (state.2.board.samples.outPin5 port)) := by
  obtain ⟨before, after, hall, hbefore, hafter⟩ := Port.exists_split port
  unfold tickWatches
  dsimp only
  obtain ⟨hconfig, hsamples, hwatches, hsockets⟩ := tickInputs_spares Port.all state
  generalize Port.all.foldl (fun state port => tickInput port state) state = ticked
    at hconfig hsamples hwatches hsockets ⊢
  obtain ⟨hconfig', hsamples', -⟩ := tickOutputs_spares before ticked
  obtain ⟨hwatch, hsocket⟩ := tickOutputs_of_notMem before hbefore ticked
  -- of the round only the port's own turn counts
  rw [hall, List.foldl_append, List.foldl_cons]
  generalize before.foldl (fun state port => tickOutput port state) ticked = ready
    at hconfig' hsamples' hwatch hsocket ⊢
  obtain ⟨hleft, hleft'⟩ := tickOutputs_of_notMem after hafter (tickOutput port ready)
  have hturn : OutputState.mk ((tickOutput port ready).1.outputs.get port)
      ((tickOutput port ready).2.board.outputs.get port) =
      .ofScene ((OutputScene.mk (ready.1.outputs.get port) (ready.2.board.outputs.get port)
        ready.2.journal).tick ready.1.config port (ready.2.board.samples.outPin5 port)) := by
    show OutputState.mk ((ready.1.outputs.set port _).get port)
      ((ready.2.board.outputs.set port _).get port) = _
    rw [PerPort.get_set_self, PerPort.get_set_self]
    rfl
  rw [hleft, hleft', hturn, hwatch, hsocket, hconfig', hsamples', hconfig, hsamples, hwatches,
    hsockets]
  exact ⟨_, rfl⟩

end Turns

theorem outputState_tickWatches (state : Manager × Shared ColorLink) (port : Port) :
    ∃ journal, outputState (tickWatches state) port =
      .ofScene (((outputState state port).scene journal).tick state.1.config port
        (state.2.board.samples.outPin5 port)) :=
  tickWatches_output state port

end Manager

/-! ## Bursts and periods of the bit timer -/

namespace SamplerScene

variable {α ε : Type}

theorem outputs_store (scene : SamplerScene α) (reply : Reply) (counts : UInt16) :
    (scene.store reply counts).board.outputs = scene.board.outputs := by
  cases reply <;> rfl

theorem outputs_clock (scene : SamplerScene α) (action : ClockAction) :
    (scene.clock action).board.outputs = scene.board.outputs := by
  unfold clock
  dsimp only
  split
  · split <;> rfl
  · rfl

theorem outputs_finish (scene : SamplerScene α) :
    scene.finish.board.outputs = scene.board.outputs := by
  unfold finish
  split
  · unfold completeCycle
    dsimp only
    split <;> split <;> rfl
  · rfl

/-- A burst leaves every output port alone. -/
theorem outputs_burst [Converter α ε] (scene : SamplerScene α) :
    scene.burst.2.board.outputs = scene.board.outputs := by
  have hprepare : scene.prepare.board.outputs = scene.board.outputs := by
    unfold prepare
    split <;> rfl
  have hwalk : scene.burstWalk.2.board.outputs = scene.prepare.board.outputs := by
    refine walk_preserves
      (P := fun left => left.board.outputs = scene.prepare.board.outputs) ?_ ?_ _ _ rfl
    · intro left word h
      rw [board_exchange]
      exact h
    · intro left entry counts h
      exact ((outputs_clock _ _).trans (outputs_store left _ _)).trans h
  rcases burst_snd scene with h | h
  · rw [h, hwalk, hprepare]
  · rw [h, outputs_finish, hwalk, hprepare]

end SamplerScene

namespace ColorLink

theorem outputs_stepPorts (ports : List Port) :
    ∀ state : ColorLink × Board, (ports.foldl stepPort state).2.outputs = state.2.outputs := by
  induction ports with
  | nil => intro state; rfl
  | cons port rest ih =>
    intro state
    refine (ih (stepPort state port)).trans ?_
    unfold stepPort tickPort
    dsimp only
    split <;> rfl

end ColorLink

/-! ## The controller -/

namespace Controller

variable {α ε : Type}

/-- The state of an output port. -/
def outputState (c : Controller α) (port : Port) : OutputState :=
  ⟨c.manager.outputs.get port, c.board.outputs.get port⟩

/-- A new controller begins to look for a device on every output port. -/
theorem stage_output_new [Converter α ε] {adc : α} {board : Board} {config : Config}
    {c : Controller α} (h : Controller.new adc board config = .ok c) (port : Port) :
    (c.outputState port).stage = .init := by
  unfold Controller.new at h
  dsimp only at h
  split at h
  · cases h
  · cases h
    exact congrArg OutputWatch.stage (PerPort.get_const ({} : OutputWatch) port)

/-- A tick of the manager is a tick of the watch of each output port, with some journal at hand, or
nothing to the ports while the gate is closed. -/
theorem outputState_managerTick (c : Controller α) (port : Port) :
    c.managerTick.outputState port = c.outputState port ∨
      ∃ journal, c.managerTick.outputState port =
        .ofScene (((c.outputState port).scene journal).tick c.manager.config port
          (c.board.samples.outPin5 port)) := by
  have htick : c.managerTick.outputState port =
      Manager.outputState (c.manager.tick ⟨c.board, c.link, c.journal⟩) port := rfl
  rw [htick]
  cases hrunning : c.manager.isRunning with
  | true =>
    rw [Manager.tick_of_running hrunning]
    exact .inr (Manager.outputState_tickWatches (c.manager, ⟨c.board, c.link, c.journal⟩) port)
  | false =>
    obtain ⟨startup, journal, hclosed⟩ :=
      Manager.exists_tick_of_closed hrunning ⟨c.board, c.link, c.journal⟩
    rw [hclosed]
    exact .inl rfl

theorem outputState_modifyOutputLines_self (c : Controller α) (port : Port)
    (f : OutputLines → OutputLines) :
    (c.modifyOutputLines port f).outputState port =
      { c.outputState port with
        socket := { (c.outputState port).socket with lines := f (c.outputState port).socket.lines } } := by
  simp only [outputState, modifyOutputLines, Board.modifyOutputLines, PerPort.get_modify_self]

theorem outputState_modifyOutputLines_ne (c : Controller α) {port other : Port}
    (f : OutputLines → OutputLines) (hne : other ≠ port) :
    (c.modifyOutputLines port f).outputState other = c.outputState other := by
  simp only [outputState, modifyOutputLines, Board.modifyOutputLines, PerPort.get_modify_ne _ _ hne]

theorem outputState_modifyOutputLines (c : Controller α) (port other : Port)
    (f : OutputLines → OutputLines) :
    ∃ lines, (c.modifyOutputLines port f).outputState other =
      { c.outputState other with
        socket := { (c.outputState other).socket with lines := lines } } := by
  by_cases h : other = port
  · subst h
    exact ⟨_, outputState_modifyOutputLines_self c other f⟩
  · exact ⟨_, outputState_modifyOutputLines_ne c f h⟩

/-- Switching test mode starts every watch over; entering it releases every port as well. -/
theorem outputState_setTestMode (c : Controller α) (on : Bool) (port : Port) :
    (c.setTestMode on).outputState port =
      { watch := (c.outputState port).watch.reset
        socket :=
          if on then
            { (c.outputState port).socket with
              lines := (c.outputState port).socket.lines.release, verdict := .none }
          else (c.outputState port).socket } := by
  cases on <;> cases port <;> rfl

theorem outputs_sampleTick [Converter α ε] (c : Controller α) :
    c.sampleTick.2.board.outputs = c.board.outputs :=
  SamplerScene.outputs_burst c.samplerScene

theorem outputs_colorTick (c : Controller α) : c.colorTick.board.outputs = c.board.outputs := by
  unfold colorTick
  split
  · rfl
  · rename_i link _
    have h := ColorLink.outputs_stepPorts Port.all (link, c.board)
    rw [← ColorLink.tick_eq] at h
    exact h

/-- Watch and verdict of an output port change only in a tick of the watch and when test mode is
switched. -/
theorem outputState_step [Converter α ε] (c : Controller α) (step : Step α) (port : Port) :
    (((c.step step).outputState port).watch = (c.outputState port).watch ∧
        ((c.step step).outputState port).verdict = (c.outputState port).verdict) ∨
      (∃ journal, (c.step step).outputState port =
        .ofScene (((c.outputState port).scene journal).tick c.manager.config port
          (c.board.samples.outPin5 port))) ∨
      ((c.step step).outputState port).stage = .init := by
  cases step with
  | sample =>
    refine .inl ⟨rfl, ?_⟩
    exact congrArg (fun outputs => (PerPort.get outputs port).verdict) (outputs_sampleTick c)
  | manage =>
    rcases outputState_managerTick c port with h | h
    · exact .inl ⟨congrArg OutputState.watch h, congrArg OutputState.verdict h⟩
    · exact .inr (.inl h)
  | color =>
    refine .inl ⟨?_, ?_⟩
    · exact congrArg (fun manager => PerPort.get manager.outputs port) (manager_colorTick c)
    · exact congrArg (fun outputs => (PerPort.get outputs port).verdict) (outputs_colorTick c)
  | force other classification =>
    obtain ⟨inputs, h⟩ := force_frame c other classification
    rw [Controller.step, h]
    exact .inl ⟨rfl, rfl⟩
  | request other command =>
    obtain ⟨inputs, h⟩ := requestCommand_frame c other command
    rw [Controller.step, h]
    exact .inl ⟨rfl, rfl⟩
  | testMode on =>
    rw [Controller.step, outputState_setTestMode]
    exact .inr (.inr rfl)
  | driveOutput other role drive =>
    obtain ⟨lines, h⟩ := outputState_modifyOutputLines c other port fun lines =>
      lines.driveTo role drive
    rw [Controller.step, h]
    exact .inl ⟨rfl, rfl⟩
  | plugOutput other level =>
    obtain ⟨lines, h⟩ := outputState_modifyOutputLines c other port fun lines =>
      { lines with level := level }
    rw [Controller.step, h]
    exact .inl ⟨rfl, rfl⟩
  | _ => exact .inl ⟨rfl, rfl⟩

end Controller

end PlugWatch
