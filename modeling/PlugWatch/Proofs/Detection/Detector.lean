import PlugWatch.Proofs.Detection.OutputTick
/-!
# Detection by itself

The watches behind their gate, with the board and the colour sessions, are a system of their own: the
sampler, the far side of the lines and user space are its environment, which may do anything to any
port between two ticks. Whatever happens to the system, it happens to each port as if the port were
alone.

## Main Definitions

* `Detector`, `Act` : the system, and what can happen to it; `Detector.act`, `Detector.acts`.
* `InputView`, `OutputView` : one port with all that it depends on.
* `InputView.Acted`, `OutputView.Acted` : what an act can do to a port.

## Main Statements

* `InputView.acted`, `OutputView.acted` : every act does one of those things.
* `Detector.inputView_act`, `Detector.outputView_act` : what an act does to a port depends on nothing
  but the port.

## Design Notes

The acts of user space and of the environment go through the requests of the manager and the functions
of the board, so a view is proved to follow them and not defined to.
-/

namespace PlugWatch

/-! ## The gate -/

/-- The position of the gate after a tick of the manager. -/
def Startup.next (config : DetectionConfig) (testMode : Bool) : Startup → Startup
  | waitTestMode => if testMode then waitTestMode else reset
  | reset => holdoff 0
  | holdoff elapsed =>
    if config.resetTicks ≤ elapsed + 1 then running else holdoff (elapsed + 1)
  | running => running

namespace Manager

variable {κ : Type} [ColorProtocol κ] (manager : Manager) (shared : Shared κ)

theorem isRunning_iff : manager.isRunning = true ↔ manager.startup = .running :=
  decide_eq_true_iff

/-- What a tick does to the gate depends on nothing else than the hold-off and test mode. -/
theorem gate_tick :
    (manager.tick shared).1.startup = manager.startup.next manager.config manager.testMode ∧
      (manager.tick shared).1.testMode = manager.testMode := by
  unfold tick
  cases hstart : manager.startup with
  | waitTestMode =>
    dsimp only [Startup.next]
    split
    · exact ⟨hstart, rfl⟩
    · exact ⟨rfl, rfl⟩
  | reset => exact ⟨rfl, rfl⟩
  | holdoff elapsed =>
    dsimp only [Startup.next]
    split <;> exact ⟨rfl, rfl⟩
  | running => exact ⟨hstart, rfl⟩

end Manager

/-! ## The system -/

/-- The watches behind their gate, with the board and the colour sessions. -/
abbrev Detector := Manager × Shared ColorLink

/-- What user space and the environment can do to one input port. -/
inductive InputAct where
  /-- The sampler takes over the command that is asked for. -/
  | latch
  /-- The command that counts as taken over is set. -/
  | setLatched (command : UInt8)
  | enable (on : Bool)
  | force (classification : Classification)
  | request (command : UInt8)
  /-- The far side of the port changes. -/
  | plug (level : InputPins Bool) (sensor : Option Sensor)
  /-- User space drives a pin. -/
  | drive (role : InputRole) (drive : Drive)
  deriving DecidableEq

/-- What user space and the environment can do to one output port. -/
inductive OutputAct where
  /-- The far side of the port changes. -/
  | plug (level : OutputPins Bool)
  /-- User space drives a pin. -/
  | drive (role : OutputRole) (drive : Drive)
  deriving DecidableEq

/-- One thing that happens to a detector. -/
inductive Act where
  /-- A tick of the manager. -/
  | tick
  /-- A period of the bit timer. -/
  | linkTick
  | testMode (on : Bool)
  /-- The sampler stores a count. -/
  | sample (slot : Slot) (counts : UInt16)
  | input (port : Port) (act : InputAct)
  | output (port : Port) (act : OutputAct)
  deriving DecidableEq

namespace Detector

/-- Changes the board. -/
def mapBoard (state : Detector) (f : Board → Board) : Detector :=
  (state.1, { state.2 with board := f state.2.board })

/-- Carries out an act on an input port. -/
def actInput (state : Detector) (port : Port) : InputAct → Detector
  | .latch => state.mapBoard fun board => board.modifyInput port SamplerScene.latch
  | .setLatched command =>
    state.mapBoard fun board =>
      board.modifyHandshake port fun handshake => { handshake with latched := command }
  | .enable on => (state.1.setEnabled port on, state.2)
  | .force classification =>
    state.mapBoard fun board => (state.1.force? port classification board).getD board
  | .request command => ((state.1.requestCommand? port command).getD state.1, state.2)
  | .plug level sensor =>
    state.mapBoard fun board =>
      board.modifyInputLines port fun lines => { lines with level := level, sensor := sensor }
  | .drive role drive =>
    state.mapBoard fun board => board.modifyInputLines port fun lines => lines.driveTo role drive

/-- Carries out an act on an output port. -/
def actOutput (state : Detector) (port : Port) : OutputAct → Detector
  | .plug level =>
    state.mapBoard fun board =>
      board.modifyOutputLines port fun lines => { lines with level := level }
  | .drive role drive =>
    state.mapBoard fun board => board.modifyOutputLines port fun lines => lines.driveTo role drive

/-- A period of the bit timer, if there is a link. -/
def linkTick (state : Detector) : Detector :=
  match state.2.link with
  | none => state
  | some link =>
    let (link, board, notices) := link.tick state.2.board
    (state.1, ⟨board, some link, state.2.journal ++ notices.toArray⟩)

/-- Carries out an act. -/
def act (state : Detector) : Act → Detector
  | .tick => state.1.tick state.2
  | .linkTick => state.linkTick
  | .testMode on => ((state.1.setTestMode on).1, state.2)
  | .sample slot counts => state.mapBoard fun board => board.setSample slot counts
  | .input port act => state.actInput port act
  | .output port act => state.actOutput port act

/-- Carries out acts, one after the other. -/
def acts (state : Detector) (run : List Act) : Detector := run.foldl act state

@[simp] theorem acts_nil (state : Detector) : state.acts [] = state := rfl

@[simp] theorem acts_cons (state : Detector) (first : Act) (rest : List Act) :
    state.acts (first :: rest) = (state.act first).acts rest := rfl

theorem acts_append (state : Detector) (before after : List Act) :
    state.acts (before ++ after) = (state.acts before).acts after :=
  List.foldl_append

/-- What each act of a run keeps, the run keeps. -/
theorem acts_preserves {P : Detector → Prop} (run : List Act)
    (hact : ∀ {state : Detector}, P state → ∀ act ∈ run, P (state.act act))
    {state : Detector} (h : P state) : P (state.acts run) :=
  List.foldlRecOn run act h fun _ h act hmem => hact h act hmem

end Detector

/-! ## One input port -/

/-- What an act on an input port does to it. -/
def InputAct.onPort (state : PortState) : InputAct → PortState
  | latch => { state with socket := SamplerScene.latch state.socket }
  | setLatched command =>
    { state with
      socket := { state.socket with
        handshake := { state.socket.handshake with latched := command } } }
  | enable on => { state with watch := state.watch.setEnabled on }
  | force classification =>
    if !state.watch.enabled && state.watch.connected then
      { state with socket := { state.socket with verdict := classification } }
    else state
  | request command =>
    if state.watch.connected then { state with watch := state.watch.requestCommand command }
    else state
  | plug level sensor =>
    { state with
      socket := { state.socket with
        lines := { state.socket.lines with level := level, sensor := sensor } } }
  | drive role level =>
    { state with
      socket := { state.socket with lines := state.socket.lines.driveTo role level } }

/-- An input port with all that it depends on. -/
structure InputView where
  config : DetectionConfig
  startup : Startup
  testMode : Bool
  /-- The length of the reset hold, if there is a link. -/
  delay : Option UInt16
  /-- The sample of pin 1. -/
  pin1 : UInt16
  state : PortState

namespace InputView

/-- What an act does to the port. -/
def act (port : Port) (view : InputView) : Act → InputView
  | .tick =>
    { view with
      startup := view.startup.next view.config view.testMode
      state :=
        if view.startup = .running then view.state.tick view.config port view.pin1
        else view.state }
  | .linkTick => { view with state := view.state.colorTick (view.delay.getD 0) }
  | .testMode on =>
    { view with
      startup := .waitTestMode
      testMode := on
      state := { view.state with watch := view.state.watch.reset } }
  | .sample slot counts => if slot = .inPin1 port then { view with pin1 := counts } else view
  | .input other act =>
    if other = port then { view with state := act.onPort view.state } else view
  | .output _ _ => view

variable {port : Port} {view : InputView}

theorem config_act (act : Act) : (view.act port act).config = view.config := by
  unfold InputView.act
  cases act with
  | sample slot counts =>
    dsimp only
    split <;> rfl
  | input other act =>
    dsimp only
    split <;> rfl
  | _ => rfl

theorem delay_act (act : Act) : (view.act port act).delay = view.delay := by
  unfold InputView.act
  cases act with
  | sample slot counts =>
    dsimp only
    split <;> rfl
  | input other act =>
    dsimp only
    split <;> rfl
  | _ => rfl

/-- A tick behind an open gate is a tick of the port. -/
theorem act_tick (hrunning : view.startup = .running) :
    view.act port .tick = { view with state := view.state.tick view.config port view.pin1 } := by
  unfold InputView.act
  dsimp only
  rw [if_pos hrunning, hrunning]
  rfl

/-- A tick in front of a closed gate leaves the port alone. -/
theorem act_tick_of_closed (hclosed : view.startup ≠ .running) :
    (view.act port .tick).state = view.state := if_neg hclosed

/-- Nothing but a tick changes the watch of a port, except that detection may be switched, unless it
leads to the first stage or to the preparation of a session; and nothing else moves the gate. -/
theorem watch_act_of_ne {act : Act} (htick : act ≠ .tick)
    (hinit : (view.act port act).state.stage ≠ .init)
    (hprepares : (view.act port act).state.stage ≠ .nxtColorInit) :
    (view.act port act).startup = view.startup ∧
      ∃ on, (view.act port act).state.watch = view.state.watch.setEnabled on := by
  cases act with
  | tick => exact absurd rfl htick
  | linkTick => exact ⟨rfl, _, (PortState.colorTick_frame _ view.state).2⟩
  | testMode on => exact absurd rfl hinit
  | sample slot counts =>
    unfold InputView.act
    dsimp only
    split <;> exact ⟨rfl, _, rfl⟩
  | input other act =>
    unfold InputView.act at hprepares ⊢
    dsimp only at hprepares ⊢
    split at hprepares
    · rename_i hport
      rw [if_pos hport]
      cases act with
      | enable on => exact ⟨rfl, on, rfl⟩
      | force classification =>
        unfold InputAct.onPort
        dsimp only
        split <;> exact ⟨rfl, _, rfl⟩
      | request command =>
        unfold InputAct.onPort at hprepares ⊢
        dsimp only at hprepares ⊢
        split
        · rename_i hconnected
          rw [if_pos hconnected] at hprepares
          exact absurd rfl hprepares
        · exact ⟨rfl, _, rfl⟩
      | latch | setLatched command | plug level sensor | drive role drive => exact ⟨rfl, _, rfl⟩
    · rename_i hport
      rw [if_neg hport]
      exact ⟨rfl, _, rfl⟩
  | output other act => exact ⟨rfl, _, rfl⟩

/-- What an act can do to a port. -/
inductive Acted (port : Port) (view : InputView) (act : Act) : Prop where
  /-- It is a tick behind an open gate. -/
  | tick (htick : act = .tick) (hopen : view.startup = .running)
  /-- It leaves the watch alone, except that detection may be switched, and leaves an open gate open. -/
  | rest (hgate : view.startup = .running → act ≠ .tick ∧ (view.act port act).startup = .running)
      (on : Bool) (hwatch : (view.act port act).state.watch = view.state.watch.setEnabled on)
  /-- It starts the port over, or asks for a session. -/
  | restart (hstage : (view.act port act).state.stage = .init ∨
      (view.act port act).state.stage = .nxtColorInit)

theorem acted (view : InputView) (act : Act) : view.Acted port act := by
  by_cases htick : act = .tick
  · by_cases hopen : view.startup = .running
    · exact .tick htick hopen
    · subst htick
      refine .rest (fun hrunning => absurd hrunning hopen) view.state.enabled ?_
      rw [act_tick_of_closed hopen]
      rfl
  · by_cases hinit : (view.act port act).state.stage = .init
    · exact .restart (.inl hinit)
    · by_cases hprepares : (view.act port act).state.stage = .nxtColorInit
      · exact .restart (.inr hprepares)
      · obtain ⟨hstartup, on, hwatch⟩ := watch_act_of_ne htick hinit hprepares
        exact .rest (fun hopen => ⟨htick, hstartup.trans hopen⟩) on hwatch

end InputView

/-- Whether an act concerns an input port: ticks and test mode concern every port, a sample the port
whose pin 1 it is, and everything else the port it is done to. -/
def Act.concernsInput (port : Port) : Act → Bool
  | tick | linkTick | testMode _ => true
  | sample slot _ => slot = .inPin1 port
  | input other _ => other = port
  | output _ _ => false

theorem InputView.act_of_not_concerns {port : Port} {act : Act}
    (h : act.concernsInput port = false) (view : InputView) : view.act port act = view := by
  cases act with
  | tick => cases h
  | linkTick => cases h
  | testMode on => cases h
  | sample slot counts => exact if_neg (of_decide_eq_false h)
  | input other act => exact if_neg (of_decide_eq_false h)
  | output other act => rfl

namespace Detector

/-- An input port of a detector, with all that it depends on. -/
def inputView (state : Detector) (port : Port) : InputView where
  config := state.1.config
  startup := state.1.startup
  testMode := state.1.testMode
  delay := state.2.link.map fun link => link.initDelay
  pin1 := state.2.board.samples.inPin1 port
  state := Manager.portState state port

theorem portState_actInput_self (state : Detector) (port : Port) (act : InputAct) :
    Manager.portState (state.actInput port act) port =
      act.onPort (Manager.portState state port) := by
  cases act with
  | force classification =>
    unfold actInput mapBoard Manager.force? Manager.mayForce InputAct.onPort Manager.portState
    dsimp only
    split
    · simp only [Option.getD_some, PerPort.get_modify_self]
    · rfl
  | request command =>
    unfold actInput Manager.requestCommand? InputAct.onPort Manager.portState
    dsimp only
    split
    · simp only [Option.getD_some, PerPort.get_modify_self]
    · rfl
  | _ => cases port <;> rfl

theorem portState_actInput_ne (state : Detector) {port other : Port} (act : InputAct)
    (hne : other ≠ port) :
    Manager.portState (state.actInput port act) other = Manager.portState state other := by
  cases act with
  | force classification =>
    unfold actInput mapBoard Manager.force? Manager.portState
    dsimp only
    split
    · simp only [Option.getD_some, PerPort.get_modify_ne _ _ hne]
    · rfl
  | request command =>
    unfold actInput Manager.requestCommand? Manager.portState
    dsimp only
    split
    · simp only [Option.getD_some, PerPort.get_modify_ne _ _ hne]
    · rfl
  | enable on =>
    simp only [actInput, Manager.portState, Manager.setEnabled, PerPort.get_modify_ne _ _ hne]
  | latch =>
    simp only [actInput, mapBoard, Manager.portState, Board.modifyInput,
      PerPort.get_modify_ne _ _ hne]
  | setLatched command =>
    simp only [actInput, mapBoard, Manager.portState, Board.modifyHandshake, Board.modifyInput,
      PerPort.get_modify_ne _ _ hne]
  | plug level sensor =>
    simp only [actInput, mapBoard, Manager.portState, Board.modifyInputLines,
      PerPort.get_modify_ne _ _ hne]
  | drive role drive =>
    simp only [actInput, mapBoard, Manager.portState, Board.modifyInputLines,
      PerPort.get_modify_ne _ _ hne]

/-- An act on an input port leaves everything else alone. -/
theorem actInput_frame (state : Detector) (port : Port) (act : InputAct) :
    ∃ watches sockets, state.actInput port act =
      ({ state.1 with inputs := watches },
        { state.2 with board := { state.2.board with inputs := sockets } }) := by
  cases act with
  | force classification =>
    unfold actInput mapBoard Manager.force?
    dsimp only
    split <;> exact ⟨_, _, rfl⟩
  | request command =>
    unfold actInput Manager.requestCommand?
    dsimp only
    split <;> exact ⟨_, _, rfl⟩
  | _ => exact ⟨_, _, rfl⟩

/-- A period of the bit timer leaves everything alone but the sessions and the input ports. -/
theorem linkTick_frame (state : Detector) :
    state.linkTick.1 = state.1 ∧
      (state.linkTick.2.link.map fun link => link.initDelay) =
        (state.2.link.map fun link => link.initDelay) ∧
      state.linkTick.2.board.samples = state.2.board.samples ∧
      state.linkTick.2.board.outputs = state.2.board.outputs := by
  unfold linkTick
  cases hlink : state.2.link with
  | none => simp [hlink]
  | some link =>
    have hframe := ColorLink.stepPorts_frame Port.all (link, state.2.board)
    have houtputs := ColorLink.outputs_stepPorts Port.all (link, state.2.board)
    rw [← ColorLink.tick_eq] at hframe houtputs
    exact ⟨rfl, congrArg some hframe.1, hframe.2, houtputs⟩

theorem portState_linkTick (state : Detector) (port : Port) :
    Manager.portState state.linkTick port =
      (Manager.portState state port).colorTick
        ((state.2.link.map fun link => link.initDelay).getD 0) := by
  unfold linkTick Manager.portState
  cases hlink : state.2.link with
  | none =>
    simp only [hlink, ColorLink.session?, Option.map_none]
    rfl
  | some link =>
    exact ColorLink.portState_tick link state.2.board (state.1.inputs.get port) port

/-- **What an act does to an input port depends on nothing but the port.** -/
theorem inputView_act (state : Detector) (act : Act) (port : Port) :
    (state.act act).inputView port = (state.inputView port).act port act := by
  cases act with
  | tick =>
    obtain ⟨manager, shared⟩ := state
    obtain ⟨hstartup, hmode⟩ := Manager.gate_tick manager shared
    have hframe := Manager.sameFrame_tick manager shared
    have hport := (Manager.portState_tick manager shared port).trans
      (ite_congr (propext manager.isRunning_iff) (fun _ => rfl) fun _ => rfl)
    simp only [inputView, Detector.act, InputView.act, Samples.inPin1, hstartup, hmode,
      hframe.config, hframe.samples, hframe.delay, hport]
    rfl
  | linkTick =>
    obtain ⟨hmanager, hdelay, hsamples, -⟩ := state.linkTick_frame
    have hport := state.portState_linkTick port
    simp only [inputView, Detector.act, InputView.act, Samples.inPin1, hmanager, hdelay, hsamples,
      hport]
  | testMode on => cases port <;> rfl
  | sample slot counts =>
    by_cases h : slot = .inPin1 port
    · subst h
      simp only [inputView, Detector.act, mapBoard, Board.setSample, InputView.act, if_true,
        Samples.inPin1, Samples.get_set_self]
      rfl
    · simp only [inputView, Detector.act, mapBoard, Board.setSample, InputView.act, if_neg h,
        Samples.inPin1, Samples.get_set_ne _ _ (Ne.symm h)]
      rfl
  | input other act =>
    obtain ⟨watches, sockets, hframe⟩ := state.actInput_frame other act
    have hview : (state.actInput other act).inputView port =
        { state.inputView port with
          state := Manager.portState (state.actInput other act) port } := by
      rw [hframe]
      rfl
    refine hview.trans ?_
    by_cases h : other = port
    · subst h
      simp only [InputView.act, if_true, portState_actInput_self]
      rfl
    · simp only [InputView.act, if_neg h, portState_actInput_ne _ _ (Ne.symm h)]
      rfl
  | output other act => cases act <;> rfl

/-- A new manager begins to look for a device on every input port. -/
theorem stage_inputView_new (config : DetectionConfig) (shared : Shared ColorLink) (port : Port) :
    (inputView ({ config := config }, shared) port).state.stage = .init := by
  cases port <;> rfl

/-- Nothing that happens changes the thresholds. -/
theorem config_act (state : Detector) (act : Act) : (state.act act).1.config = state.1.config :=
  (congrArg InputView.config (state.inputView_act act .p1)).trans (InputView.config_act act)

theorem config_acts (state : Detector) (run : List Act) :
    (state.acts run).1.config = state.1.config :=
  @acts_preserves (fun after => after.1.config = state.1.config) run
    (fun {after} h act _ => (after.config_act act).trans h) state rfl

end Detector

/-! ## One output port -/

/-- What an act on an output port does to it. -/
def OutputAct.onPort (state : OutputState) : OutputAct → OutputState
  | plug level =>
    { state with
      socket := { state.socket with lines := { state.socket.lines with level := level } } }
  | drive role level =>
    { state with
      socket := { state.socket with lines := state.socket.lines.driveTo role level } }

/-- An output port with all that it depends on. -/
structure OutputView where
  config : DetectionConfig
  startup : Startup
  testMode : Bool
  /-- The sample of pin 5. -/
  pin5 : UInt16
  state : OutputState

namespace OutputView

/-- What an act does to the port. -/
def act (port : Port) (view : OutputView) : Act → OutputView
  | .tick =>
    { view with
      startup := view.startup.next view.config view.testMode
      state :=
        if view.startup = .running then view.state.tick view.config port view.pin5
        else view.state }
  | .testMode on =>
    { view with
      startup := .waitTestMode
      testMode := on
      state := { view.state with watch := view.state.watch.reset } }
  | .sample slot counts => if slot = .outPin5 port then { view with pin5 := counts } else view
  | .output other act =>
    if other = port then { view with state := act.onPort view.state } else view
  | .linkTick | .input _ _ => view

variable {port : Port} {view : OutputView}

theorem config_act (act : Act) : (view.act port act).config = view.config := by
  unfold OutputView.act
  cases act with
  | sample slot counts =>
    dsimp only
    split <;> rfl
  | output other act =>
    dsimp only
    split <;> rfl
  | _ => rfl

/-- A tick behind an open gate is a tick of the port. -/
theorem act_tick (hrunning : view.startup = .running) :
    view.act port .tick = { view with state := view.state.tick view.config port view.pin5 } := by
  unfold OutputView.act
  dsimp only
  rw [if_pos hrunning, hrunning]
  rfl

/-- A tick in front of a closed gate leaves the port alone. -/
theorem act_tick_of_closed (hclosed : view.startup ≠ .running) :
    (view.act port .tick).state = view.state := if_neg hclosed

/-- Nothing but a tick and a switch of test mode changes the watch of a port or moves the gate. -/
theorem watch_act {act : Act} (htick : act ≠ .tick) (hmode : ∀ on, act ≠ .testMode on) :
    (view.act port act).startup = view.startup ∧
      (view.act port act).state.watch = view.state.watch := by
  cases act with
  | tick => exact absurd rfl htick
  | testMode on => exact absurd rfl (hmode on)
  | sample slot counts =>
    unfold OutputView.act
    dsimp only
    split <;> exact ⟨rfl, rfl⟩
  | output other act =>
    unfold OutputView.act
    dsimp only
    split
    · cases act <;> exact ⟨rfl, rfl⟩
    · exact ⟨rfl, rfl⟩
  | linkTick => exact ⟨rfl, rfl⟩
  | input other act => exact ⟨rfl, rfl⟩

/-- Nothing but a tick changes what is published about a port. -/
theorem verdict_act {act : Act} (htick : act ≠ .tick) :
    (view.act port act).state.verdict = view.state.verdict := by
  cases act with
  | tick => exact absurd rfl htick
  | sample slot counts =>
    unfold OutputView.act
    dsimp only
    split <;> rfl
  | output other act =>
    unfold OutputView.act
    dsimp only
    split
    · cases act <;> rfl
    · rfl
  | _ => rfl

/-- What an act can do to a port. -/
inductive Acted (port : Port) (view : OutputView) (act : Act) : Prop where
  /-- It is a tick behind an open gate. -/
  | tick (htick : act = .tick) (hopen : view.startup = .running)
  /-- It leaves the watch and what is published alone, and an open gate open. -/
  | rest (hgate : view.startup = .running → act ≠ .tick ∧ (view.act port act).startup = .running)
      (hwatch : (view.act port act).state.watch = view.state.watch)
      (hverdict : (view.act port act).state.verdict = view.state.verdict)
  /-- It switches test mode, and the port starts over. -/
  | restart (on : Bool) (hmode : act = .testMode on)

theorem acted (view : OutputView) (act : Act) : view.Acted port act := by
  by_cases htick : act = .tick
  · by_cases hopen : view.startup = .running
    · exact .tick htick hopen
    · subst htick
      refine .rest (fun hrunning => absurd hrunning hopen) ?_ ?_ <;> rw [act_tick_of_closed hopen]
  · by_cases hmode : ∃ on, act = .testMode on
    · obtain ⟨on, hmode⟩ := hmode
      exact .restart on hmode
    · obtain ⟨hstartup, hwatch⟩ := @watch_act port view act htick fun on heq => hmode ⟨on, heq⟩
      exact .rest (fun hopen => ⟨htick, hstartup.trans hopen⟩) hwatch (verdict_act htick)

end OutputView

/-- Whether an act concerns an output port: ticks of the manager and test mode concern every port, a
sample the port whose pin 5 it is, and everything else the port it is done to. -/
def Act.concernsOutput (port : Port) : Act → Bool
  | tick | testMode _ => true
  | sample slot _ => slot = .outPin5 port
  | output other _ => other = port
  | linkTick | input _ _ => false

theorem OutputView.act_of_not_concerns {port : Port} {act : Act}
    (h : act.concernsOutput port = false) (view : OutputView) : view.act port act = view := by
  cases act with
  | tick => cases h
  | testMode on => cases h
  | sample slot counts => exact if_neg (of_decide_eq_false h)
  | output other act => exact if_neg (of_decide_eq_false h)
  | linkTick => rfl
  | input other act => rfl

namespace Detector

/-- An output port of a detector, with all that it depends on. -/
def outputView (state : Detector) (port : Port) : OutputView where
  config := state.1.config
  startup := state.1.startup
  testMode := state.1.testMode
  pin5 := state.2.board.samples.outPin5 port
  state := Manager.outputState state port

/-- So it does on every output port. -/
theorem stage_outputView_new (config : DetectionConfig) (shared : Shared ColorLink) (port : Port) :
    (outputView ({ config := config }, shared) port).state.stage = .init := by
  cases port <;> rfl

theorem outputState_actOutput (state : Detector) (port other : Port) (act : OutputAct) :
    Manager.outputState (state.actOutput port act) other =
      if port = other then act.onPort (Manager.outputState state other)
      else Manager.outputState state other := by
  by_cases h : port = other
  · subst h
    cases act <;> cases port <;> rfl
  · rw [if_neg h]
    cases act <;>
      simp only [actOutput, mapBoard, Manager.outputState, Board.modifyOutputLines,
        PerPort.get_modify_ne _ _ (Ne.symm h)]

/-- **What an act does to an output port depends on nothing but the port.** -/
theorem outputView_act (state : Detector) (act : Act) (port : Port) :
    (state.act act).outputView port = (state.outputView port).act port act := by
  cases act with
  | tick =>
    obtain ⟨manager, shared⟩ := state
    obtain ⟨hstartup, hmode⟩ := Manager.gate_tick manager shared
    have hframe := Manager.sameFrame_tick manager shared
    have hport := (Manager.outputState_tick manager shared port).trans
      (ite_congr (propext manager.isRunning_iff) (fun _ => rfl) fun _ => rfl)
    simp only [outputView, Detector.act, OutputView.act, Samples.outPin5, hstartup, hmode,
      hframe.config, hframe.samples, hport]
    rfl
  | linkTick =>
    obtain ⟨hmanager, -, hsamples, houtputs⟩ := state.linkTick_frame
    simp only [outputView, Detector.act, OutputView.act, Samples.outPin5, hmanager, hsamples,
      Manager.outputState, houtputs]
  | testMode on => cases port <;> rfl
  | sample slot counts =>
    by_cases h : slot = .outPin5 port
    · subst h
      simp only [outputView, Detector.act, mapBoard, Board.setSample, OutputView.act, if_true,
        Samples.outPin5, Samples.get_set_self]
      rfl
    · simp only [outputView, Detector.act, mapBoard, Board.setSample, OutputView.act, if_neg h,
        Samples.outPin5, Samples.get_set_ne _ _ (Ne.symm h)]
      rfl
  | input other act =>
    obtain ⟨watches, sockets, hframe⟩ := state.actInput_frame other act
    rw [Detector.act, hframe]
    rfl
  | output other act =>
    have hview : (state.actOutput other act).outputView port =
        { state.outputView port with
          state := Manager.outputState (state.actOutput other act) port } := by
      cases act <;> rfl
    refine hview.trans ?_
    by_cases h : other = port
    · simp only [OutputView.act, outputState_actOutput, if_pos h]
      rfl
    · simp only [OutputView.act, outputState_actOutput, if_neg h]
      rfl

end Detector

end PlugWatch
