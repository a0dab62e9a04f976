import PlugWatch.Controller
/-!
# The state of one input port

A watch ticks with the sessions of all ports at hand, but it uses the session of its own port only.
So a tick of the manager does to each input port what a tick of that port alone does, whatever
goes on at the other ports.

## Main Definitions

* `PortState` : the watch, the socket and the session of one input port.
* `PortState.tick` : a tick of the watch on these three alone.
* `Controller.portState` : the state of a port in a controller.

## Main Statements

* `Controller.portState_managerTick` : a tick of the manager is, port by port, a tick of the port
  alone, or nothing while the gate is closed.
* `Controller.portState_colorTick` : a period of the bit timer is a step of the session of each
  port that has one in use.
-/

namespace PlugWatch

/-- The session of one port, as the watch of that port uses it. -/
instance : ColorProtocol Session where
  start session _ command := (session.start command, [])
  ready session _ := session.state = .idle
  stop session _ := (session.stop, [])
  response session _ := session.buffer

/-- All that belongs to one input port. -/
structure PortState where
  watch : InputWatch
  socket : InputSocket
  /-- The session, if there is a link. -/
  session : Option Session

namespace PortState

/-- The port as a scene of its own. -/
def scene (state : PortState) : InputScene Session :=
  { watch := state.watch, socket := state.socket, link := state.session, journal := #[] }

/-- One tick of the watch, with nothing but its own port at hand. -/
def tick (config : DetectionConfig) (port : Port) (pin1 : UInt16) (state : PortState) :
    PortState :=
  let scene := state.scene.tick config port pin1
  ⟨scene.watch, scene.socket, scene.link⟩

/-- One period of the bit timer, with nothing but the port at hand: a session in use makes a
step. -/
def colorTick (delay : UInt16) (state : PortState) : PortState :=
  match state.session with
  | none => state
  | some session =>
    if session.inUse then
      let (stepped, lines) := session.step delay state.socket.lines
      { state with session := some stepped, socket := { state.socket with lines := lines } }
    else state

end PortState

/-- The session of a port, if there is a link. -/
def ColorLink.session? (link : Option ColorLink) (port : Port) : Option Session :=
  link.map fun link => link.sessions.get port

namespace InputScene

/-! ## A scene and its port alone -/

/-- A scene with all sessions and a scene with one session agree about a port, and of `before` only
the session of that port has changed. -/
structure Alike (port : Port) (before : Option ColorLink) (all : InputScene ColorLink)
    (own : InputScene Session) : Prop where
  watch : own.watch = all.watch
  socket : own.socket = all.socket
  session : own.link = ColorLink.session? all.link port
  others : ∀ other, other ≠ port →
    ColorLink.session? all.link other = ColorLink.session? before other
  delay : (all.link.map fun link => link.initDelay) = before.map fun link => link.initDelay

namespace Alike

variable {port : Port} {before : Option ColorLink} {all : InputScene ColorLink}
  {own : InputScene Session}

/-- Steps that treat watch and socket alike and leave the sessions alone. -/
theorem of_eq (h : Alike port before all own) {all' : InputScene ColorLink}
    {own' : InputScene Session} (hwatch : own'.watch = all'.watch)
    (hsocket : own'.socket = all'.socket) (hall : all'.link = all.link)
    (hown : own'.link = own.link) : Alike port before all' own' := by
  refine ⟨hwatch, hsocket, ?_, ?_, ?_⟩
  · rw [hown, hall]
    exact h.session
  · rw [hall]
    exact h.others
  · rw [hall]
    exact h.delay

theorem goTo (h : Alike port before all own) (stage : Stage) :
    Alike port before (all.goTo stage) (own.goTo stage) := by
  refine h.of_eq ?_ h.socket rfl rfl
  simp [InputScene.goTo, h.watch]

theorem enter (h : Alike port before all own) (stage : Stage) :
    Alike port before (all.enter stage) (own.enter stage) := by
  refine h.of_eq ?_ h.socket rfl rfl
  simp [InputScene.enter, h.watch]

theorem note (h : Alike port before all own) (notice : Notice) :
    Alike port before (all.note notice) (own.note notice) :=
  h.of_eq h.watch h.socket rfl rfl

theorem publish (h : Alike port before all own) (classification : Classification) :
    Alike port before (all.publish classification) (own.publish classification) := by
  refine h.of_eq h.watch ?_ rfl rfl
  simp [InputScene.publish, h.socket]

theorem connect (h : Alike port before all own) :
    Alike port before all.connect own.connect := by
  refine h.of_eq ?_ h.socket rfl rfl
  simp [InputScene.connect, h.watch]

theorem mapHandshake (h : Alike port before all own) (f : ColorHandshake → ColorHandshake) :
    Alike port before (all.mapHandshake f) (own.mapHandshake f) := by
  refine h.of_eq h.watch ?_ rfl rfl
  simp [InputScene.mapHandshake, h.socket]

theorem mapLines (h : Alike port before all own) (f : InputLines → InputLines) :
    Alike port before (all.mapLines f) (own.mapLines f) := by
  refine h.of_eq h.watch ?_ rfl rfl
  simp [InputScene.mapLines, h.socket]

theorem mapWatch (h : Alike port before all own) (f : InputWatch → InputWatch) :
    Alike port before { all with watch := f all.watch } { own with watch := f own.watch } :=
  h.of_eq (by rw [h.watch]) h.socket rfl rfl

theorem mapSocket (h : Alike port before all own) (f : InputSocket → InputSocket) :
    Alike port before { all with socket := f all.socket } { own with socket := f own.socket } :=
  h.of_eq h.watch (by rw [h.socket]) rfl rfl

/-- The journals need not agree. -/
theorem journals (h : Alike port before all own) (journal journal' : Journal) :
    Alike port before { all with journal := journal } { own with journal := journal' } :=
  h.of_eq h.watch h.socket rfl rfl

theorem stopSession (h : Alike port before all own) :
    Alike port before (all.stopSession port) (own.stopSession port) := by
  obtain ⟨watch, socket, link, journal⟩ := all
  obtain ⟨watch', socket', link', journal'⟩ := own
  obtain ⟨hwatch, hsocket, hsession, hothers, hdelay⟩ := h
  dsimp only at hwatch hsocket hsession hothers hdelay
  subst hwatch hsocket hsession
  cases link with
  | none => exact ⟨rfl, rfl, rfl, hothers, hdelay⟩
  | some link =>
    refine ⟨rfl, rfl, ?_, ?_, hdelay⟩
    · show some _ = some _
      simp
    · intro other hne
      rw [← hothers other hne]
      show some _ = some _
      simp [PerPort.get_modify_ne _ _ hne]

theorem sees (h : Alike port before all own) (role : InputRole) :
    own.sees role = all.sees role := by
  rw [InputScene.sees, InputScene.sees, h.socket]

theorem conditionsNow (h : Alike port before all own) (config : DetectionConfig)
    (pin1 : UInt16) : own.conditionsNow config pin1 = all.conditionsNow config pin1 := by
  simp only [InputScene.conditionsNow, h.sees]

theorem isSome (h : Alike port before all own) : own.link.isSome = all.link.isSome := by
  rw [h.session]
  exact Option.isSome_map

theorem awaitRelease (h : Alike port before all own) (limit : UInt16) (released : Bool) :
    Alike port before (all.awaitRelease port limit released)
      (own.awaitRelease port limit released) := by
  unfold InputScene.awaitRelease
  dsimp only
  rw [h.watch]
  split
  · split
    · exact h.of_eq rfl h.socket rfl rfl
    · exact h.of_eq rfl h.socket rfl rfl
  · exact h.of_eq rfl h.socket rfl rfl

/-! ### The stages -/

theorem onInit (h : Alike port before all own) :
    Alike port before (all.onInit port) (own.onInit port) := by
  have hquiet := ((h.mapHandshake fun handshake => { handshake with active := false }).stopSession
    |>.mapLines .release).publish .none
  exact hquiet.mapWatch fun watch =>
    { watch with connected := false, timer := 0, conditions := .none, stage := .floatingDelay }

theorem onFloatingDelay (h : Alike port before all own) (config : DetectionConfig) :
    Alike port before (all.onFloatingDelay config) (own.onFloatingDelay config) := by
  unfold InputScene.onFloatingDelay
  dsimp only
  rw [h.watch]
  split
  · exact h.enter .floating
  · exact h.of_eq rfl h.socket rfl rfl

theorem onFloating (h : Alike port before all own) (config : DetectionConfig) (pin1 : UInt16) :
    Alike port before (all.onFloating config port pin1) (own.onFloating config port pin1) := by
  have hnow := h.conditionsNow config pin1
  obtain ⟨watch, socket, link, journal⟩ := all
  obtain ⟨watch', socket', link', journal'⟩ := own
  obtain rfl : watch' = watch := h.watch
  obtain rfl : socket' = socket := h.socket
  unfold InputScene.onFloating
  dsimp only
  rw [hnow]
  split <;> split <;> exact h.of_eq rfl rfl rfl rfl

theorem onConnection (h : Alike port before all own) :
    Alike port before all.onConnection own.onConnection := by
  unfold InputScene.onConnection
  dsimp only
  rw [h.watch]
  have hstage := h.goTo (InputScene.stageOf all.watch.conditions)
  exact hstage.of_eq hstage.watch (by rw [hstage.socket]) rfl rfl

theorem onPin2Low (h : Alike port before all own) (pin1 : UInt16) :
    Alike port before (all.onPin2Low port pin1) (own.onPin2Low port pin1) := by
  have hlinked := h.isSome
  obtain ⟨watch, socket, link, journal⟩ := all
  obtain ⟨watch', socket', link', journal'⟩ := own
  obtain rfl : watch' = watch := h.watch
  obtain rfl : socket' = socket := h.socket
  unfold InputScene.onPin2Low
  dsimp only [InputScene.connect, InputScene.mapLines, InputScene.note] at hlinked ⊢
  simp only [hlinked]
  split
  · exact h.of_eq rfl rfl rfl rfl
  · rename_i rule _
    generalize InputScene.withoutLink link.isSome rule.verdict = verdict
    refine goTo ?_ verdict.next
    split <;> split <;> exact h.of_eq rfl rfl rfl rfl

theorem onTouchCheck (h : Alike port before all own) (config : DetectionConfig)
    (pin1 : UInt16) :
    Alike port before (all.onTouchCheck config pin1) (own.onTouchCheck config pin1) := by
  unfold InputScene.onTouchCheck
  dsimp only
  rw [h.watch]
  split
  · exact (h.enter .connectedWaitingForPin2High).publish _
  · exact h.of_eq rfl h.socket rfl rfl

theorem link_none (h : Alike port before all own) (hall : all.link = none) :
    own.link = none := by
  rw [h.session, hall]
  rfl

theorem link_some (h : Alike port before all own) {link : ColorLink} (hall : all.link = some link) :
    own.link = some (link.sessions.get port) := by
  rw [h.session, hall]
  rfl

theorem onColorInit (h : Alike port before all own) :
    Alike port before (all.onColorInit port) (own.onColorInit port) := by
  have hasked := h.mapHandshake fun handshake => { handshake with command := 0 }
  unfold InputScene.onColorInit
  dsimp only
  rcases hall : all.link with - | link
  · rw [show (all.mapHandshake _).link = none from hall,
      show (own.mapHandshake _).link = none from h.link_none hall]
    exact hasked.enter .connectedWaitingForPin2High
  · rw [show (all.mapHandshake _).link = some link from hall,
      show (own.mapHandshake _).link = some _ from h.link_some hall]
    exact hasked.stopSession.enter .nxtColorWait

/-- The session of the port begins on both sides. -/
theorem startSession {link : ColorLink} (h : Alike port before all own)
    (hall : all.link = some link) (command : UInt8) :
    Alike port before
      { all with link := some (ColorProtocol.start link port command).1 }
      { own with
        link := some (ColorProtocol.start (link.sessions.get port) port command).1 } := by
  refine ⟨h.watch, h.socket, ?_, ?_, ?_⟩
  · show some _ = some _
    simp [ColorProtocol.start, ColorLink.start]
  · intro other hne
    rw [← h.others other hne, hall]
    show some _ = some _
    simp [ColorProtocol.start, ColorLink.start, PerPort.get_modify_ne _ _ hne]
  · rw [← h.delay, hall]
    rfl

theorem onColorWait (h : Alike port before all own) :
    Alike port before (all.onColorWait port) (own.onColorWait port) := by
  unfold InputScene.onColorWait
  rcases hall : all.link with - | link
  · rw [h.link_none hall]
    exact h.goTo _
  · rw [h.link_some hall]
    dsimp only
    rw [h.socket, h.watch]
    split
    · have hstarted := (h.startSession hall all.watch.command).journals
        (all.journal ++ (ColorProtocol.start link port all.watch.command).2.toArray)
        (own.journal ++ (ColorProtocol.start (link.sessions.get port) port
          all.watch.command).2.toArray)
      rw [h.socket, h.watch] at hstarted
      exact hstarted.goTo .nxtColorBusy
    · exact h

theorem collect (h : Alike port before all own) (answer : Block) :
    Alike port before (all.collect port answer) (own.collect port answer) := by
  unfold InputScene.collect
  dsimp only
  rw [h.watch]
  have hasked := h.mapHandshake fun handshake =>
    { handshake with command := all.watch.command }
  have hloaded := hasked.mapSocket fun socket => { socket with color := socket.color.load answer }
  exact ((hloaded.stopSession.mapHandshake _).enter _).note _

theorem onColorBusy (h : Alike port before all own) (config : DetectionConfig) :
    Alike port before (all.onColorBusy config port) (own.onColorBusy config port) := by
  unfold InputScene.onColorBusy
  rcases hall : all.link with - | link
  · rw [h.link_none hall]
    exact h.goTo _
  · rw [h.link_some hall]
    dsimp only
    -- the session is ready on both sides or on neither, and holds the same block
    have hcollected : Alike port before
        (if ColorProtocol.ready link port then
          all.collect port (ColorProtocol.response link port) else all)
        (if ColorProtocol.ready (link.sessions.get port) port then
          own.collect port (ColorProtocol.response (link.sessions.get port) port) else own) := by
      show Alike port before
        (if decide ((link.sessions.get port).state = .idle) = true then
          all.collect port (link.sessions.get port).buffer else all)
        (if decide ((link.sessions.get port).state = .idle) = true then
          own.collect port (link.sessions.get port).buffer else own)
      split
      · exact h.collect _
      · exact h
    generalize (if ColorProtocol.ready link port then
      all.collect port (ColorProtocol.response link port) else all) = all' at hcollected ⊢
    generalize (if ColorProtocol.ready (link.sessions.get port) port then
      own.collect port (ColorProtocol.response (link.sessions.get port) port) else own) = own'
      at hcollected ⊢
    have hticked := hcollected.mapWatch fun watch => { watch with timer := watch.timer + 1 }
    have htimer : own'.watch.timer = all'.watch.timer := by rw [hcollected.watch]
    by_cases hlate : config.colorTimeoutTicks < all'.watch.timer + 1
    · rw [if_pos hlate, if_pos (by rw [htimer]; exact hlate)]
      exact ((hticked.note _).stopSession).enter _
    · rw [if_neg hlate, if_neg (by rw [htimer]; exact hlate)]
      exact hticked

theorem onPin1Loaded (h : Alike port before all own) (pin1 : UInt16) :
    Alike port before (all.onPin1Loaded port pin1) (own.onPin1Loaded port pin1) := by
  unfold InputScene.onPin1Loaded
  dsimp only
  split
  · exact ((h.note _).publish _).connect.enter _
  · exact h.connect.enter _

theorem onPin6High (h : Alike port before all own) :
    Alike port before all.onPin6High own.onPin6High :=
  (h.publish _).connect.enter _

theorem onPin5Low (h : Alike port before all own) :
    Alike port before all.onPin5Low own.onPin5Low :=
  (h.publish _).connect.enter _

theorem onDisabled (h : Alike port before all own) :
    Alike port before (all.onDisabled port) (own.onDisabled port) := by
  unfold InputScene.onDisabled
  rw [h.watch]
  split
  · exact h.goTo _
  · dsimp only
    split
    · exact h.stopSession.mapWatch fun watch => { watch with timer := 0, connected := true }
    · exact h.mapWatch fun watch => { watch with timer := 0, connected := true }

theorem gate (h : Alike port before all own) : Alike port before all.gate own.gate := by
  unfold InputScene.gate
  rw [h.watch]
  split
  · exact h
  · exact h.goTo _

theorem settle (h : Alike port before all own) :
    Alike port before (all.settle port) (own.settle port) := by
  unfold InputScene.settle
  rw [h.watch]
  split
  · exact h
  · exact h.of_eq rfl h.socket rfl rfl

theorem act (h : Alike port before all own) (config : DetectionConfig) (pin1 : UInt16) :
    Alike port before (all.act config port pin1) (own.act config port pin1) := by
  unfold InputScene.act
  rw [h.watch, h.sees, h.sees, h.sees]
  cases all.watch.stage with
  | init => exact h.onInit
  | floatingDelay => exact h.onFloatingDelay config
  | floating => exact h.onFloating config pin1
  | connection => exact h.onConnection
  | pin2Low => exact h.onPin2Low pin1
  | nxtTouchCheck => exact h.onTouchCheck config pin1
  | nxtColorInit => exact h.onColorInit
  | nxtColorWait => exact h.onColorWait
  | nxtColorBusy => exact h.onColorBusy config
  | connectedWaitingForPin2High => exact h.awaitRelease _ _
  | pin1Loaded => exact h.onPin1Loaded pin1
  | connectedWaitingForPin1ToFloat => exact h.awaitRelease _ _
  | pin6High => exact h.onPin6High
  | connectedWaitingForPin6Low => exact h.awaitRelease _ _
  | pin5Low => exact h.onPin5Low
  | connectedWaitingForPin5High => exact h.awaitRelease _ _
  | disabled => exact h.onDisabled
  | waitingForPin5Low => exact h.goTo _
  | waitingForPin6Low => exact h.goTo _
  | connectedWaitingForPortOpen => exact h.goTo _

theorem tick (h : Alike port before all own) (config : DetectionConfig) (pin1 : UInt16) :
    Alike port before (all.tick config port pin1) (own.tick config port pin1) :=
  (h.gate.act config pin1).settle

end Alike

end InputScene

/-! ## Ticks of the manager -/

/-- The ports that have their turn in front of one. -/
def Port.before (port : Port) : List Port := Port.all.takeWhile (· ≠ port)

/-- Every port comes up exactly once in a round of all ports. -/
theorem Port.all_eq (port : Port) :
    ∃ behind, Port.all = port.before ++ port :: behind ∧ port ∉ port.before ∧ port ∉ behind := by
  cases port with
  | p1 => exact ⟨[.p2, .p3, .p4], rfl, by decide, by decide⟩
  | p2 => exact ⟨[.p3, .p4], rfl, by decide, by decide⟩
  | p3 => exact ⟨[.p4], rfl, by decide, by decide⟩
  | p4 => exact ⟨[], rfl, by decide, by decide⟩

theorem Port.exists_split (port : Port) :
    ∃ before after, Port.all = before ++ port :: after ∧ port ∉ before ∧ port ∉ after :=
  ⟨port.before, port.all_eq⟩

namespace Manager

/-- The state of a port among all. -/
def portState (state : Manager × Shared ColorLink) (port : Port) : PortState :=
  ⟨state.1.inputs.get port, state.2.board.inputs.get port, ColorLink.session? state.2.link port⟩

/-- What every watch finds unchanged when its turn comes. -/
structure SameFrame (before after : Manager × Shared ColorLink) : Prop where
  config : after.1.config = before.1.config
  samples : after.2.board.samples = before.2.board.samples
  delay : (after.2.link.map fun link => link.initDelay)
    = before.2.link.map fun link => link.initDelay

theorem SameFrame.trans {a b c : Manager × Shared ColorLink} (h : SameFrame a b)
    (h' : SameFrame b c) : SameFrame a c :=
  ⟨h'.config.trans h.config, h'.samples.trans h.samples, h'.delay.trans h.delay⟩

theorem alike_inputScene (state : Manager × Shared ColorLink) (port : Port) :
    InputScene.Alike port state.2.link (inputScene state port) (portState state port).scene :=
  ⟨rfl, rfl, rfl, fun _ _ => rfl, rfl⟩

theorem tickInput_eq {κ : Type} [ColorProtocol κ] (state : Manager × Shared κ) (port : Port) :
    tickInput port state =
      let scene := (inputScene state port).tick state.1.config port
        (state.2.board.samples.inPin1 port)
      ({ state.1 with inputs := state.1.inputs.set port scene.watch },
        { board := { state.2.board with inputs := state.2.board.inputs.set port scene.socket }
          link := scene.link
          journal := scene.journal }) := rfl

/-- The ticks of input ports leave alone what belongs to the output ports, and what all watches read. -/
theorem tickInputs_spares {κ : Type} [ColorProtocol κ] (ports : List Port)
    (state : Manager × Shared κ) :
    let after := ports.foldl (fun state port => tickInput port state) state
    after.1.config = state.1.config ∧ after.2.board.samples = state.2.board.samples ∧
      after.1.outputs = state.1.outputs ∧ after.2.board.outputs = state.2.board.outputs := by
  induction ports generalizing state with
  | nil => exact ⟨rfl, rfl, rfl, rfl⟩
  | cons port rest ih => exact ih (tickInput port state)

/-- The ticks of output ports leave alone what belongs to the input ports, and what all watches read. -/
theorem tickOutputs_spares {κ : Type} (ports : List Port) (state : Manager × Shared κ) :
    let after := ports.foldl (fun state port => tickOutput port state) state
    after.1.config = state.1.config ∧ after.2.board.samples = state.2.board.samples ∧
      after.1.inputs = state.1.inputs ∧ after.2.board.inputs = state.2.board.inputs ∧
      after.2.link = state.2.link := by
  induction ports generalizing state with
  | nil => exact ⟨rfl, rfl, rfl, rfl, rfl⟩
  | cons port rest ih => exact ih (tickOutput port state)

/-- The tick of a port's watch is a tick of the port alone. -/
theorem portState_tickInput_self (state : Manager × Shared ColorLink) (port : Port) :
    portState (tickInput port state) port =
      (portState state port).tick state.1.config port (state.2.board.samples.inPin1 port) := by
  have h := (alike_inputScene state port).tick state.1.config
    (state.2.board.samples.inPin1 port)
  unfold PortState.tick
  dsimp only
  rw [h.watch, h.socket, h.session, tickInput_eq]
  simp only [portState, PerPort.get_set_self]

/-- The tick of a port's watch leaves every other port alone. -/
theorem portState_tickInput_ne (state : Manager × Shared ColorLink) {port other : Port}
    (hne : other ≠ port) :
    portState (tickInput port state) other = portState state other := by
  have h := (alike_inputScene state port).tick state.1.config
    (state.2.board.samples.inPin1 port)
  rw [tickInput_eq]
  simp only [portState, PerPort.get_set_ne _ _ hne]
  exact congrArg (PortState.mk _ _) (h.others other hne)

theorem sameFrame_tickInput (state : Manager × Shared ColorLink) (port : Port) :
    SameFrame state (tickInput port state) := by
  have h := (alike_inputScene state port).tick state.1.config
    (state.2.board.samples.inPin1 port)
  exact ⟨rfl, rfl, h.delay⟩

/-- Ticks of other ports, one after the other, leave a port alone. -/
theorem portState_tickInputs_of_notMem {port : Port} (ports : List Port) (hport : port ∉ ports) :
    ∀ state : Manager × Shared ColorLink,
      portState (ports.foldl (fun state port => tickInput port state) state) port
          = portState state port := by
  induction ports with
  | nil => intro state; rfl
  | cons other rest ih =>
    intro state
    rw [List.mem_cons, not_or] at hport
    rw [List.foldl_cons, ih hport.2, portState_tickInput_ne state hport.1]

theorem sameFrame_tickInputs (ports : List Port) :
    ∀ state : Manager × Shared ColorLink,
      SameFrame state (ports.foldl (fun state port => tickInput port state) state) := by
  induction ports with
  | nil => intro state; exact ⟨rfl, rfl, rfl⟩
  | cons port rest ih =>
    intro state
    exact (sameFrame_tickInput state port).trans (ih _)

theorem tickOutputs_eq (ports : List Port) (state : Manager × Shared ColorLink) :
    SameFrame state (ports.foldl (fun state port => tickOutput port state) state) ∧
      ∀ other, portState (ports.foldl (fun state port => tickOutput port state) state) other
        = portState state other := by
  obtain ⟨hconfig, hsamples, hwatches, hsockets, hlink⟩ := tickOutputs_spares ports state
  refine ⟨⟨hconfig, hsamples, by rw [hlink]⟩, fun other => ?_⟩
  rw [portState, hwatches, hsockets, hlink]
  rfl

/-- When all watches tick, each input port ticks as if it were alone. -/
theorem portState_tickWatches (state : Manager × Shared ColorLink) (port : Port) :
    portState (tickWatches state) port =
      (portState state port).tick state.1.config port (state.2.board.samples.inPin1 port) := by
  obtain ⟨before, after, hall, hbefore, hafter⟩ := Port.exists_split port
  unfold tickWatches
  dsimp only
  -- of the round only the port's own turn counts; the turns in front of it keep what it reads
  rw [(tickOutputs_eq Port.all _).2 port]
  rw [hall, List.foldl_append, List.foldl_cons]
  have hframe := sameFrame_tickInputs before state
  rw [portState_tickInputs_of_notMem after hafter, portState_tickInput_self,
    portState_tickInputs_of_notMem before hbefore, hframe.config, hframe.samples]

theorem sameFrame_tickWatches (state : Manager × Shared ColorLink) :
    SameFrame state (tickWatches state) :=
  (sameFrame_tickInputs Port.all state).trans (tickOutputs_eq Port.all _).1

/-- Once the gate is open, a tick of the manager is one of every watch. -/
theorem tick_of_running {κ : Type} [ColorProtocol κ] {manager : Manager}
    (hrunning : manager.isRunning = true) (shared : Shared κ) :
    manager.tick shared = tickWatches (manager, shared) := by
  unfold tick
  rw [show manager.startup = .running from of_decide_eq_true hrunning]

/-- While the gate is closed, a tick of the manager moves the gate and reports, and does nothing else. -/
theorem exists_tick_of_closed {κ : Type} [ColorProtocol κ] {manager : Manager}
    (hclosed : manager.isRunning = false) (shared : Shared κ) :
    ∃ startup journal, manager.tick shared =
      ({ manager with startup := startup }, { shared with journal := journal }) := by
  obtain ⟨config, startup, testMode, inputs, outputs⟩ := manager
  unfold tick
  cases startup with
  | waitTestMode => cases testMode <;> exact ⟨_, _, rfl⟩
  | reset => exact ⟨_, _, rfl⟩
  | holdoff elapsed =>
    dsimp only
    split <;> exact ⟨_, _, rfl⟩
  | running => cases hclosed

/-- A tick of the manager is a tick of every port alone, or nothing to them while the gate is
closed. -/
theorem portState_tick (manager : Manager) (shared : Shared ColorLink) (port : Port) :
    portState (manager.tick shared) port =
      if manager.isRunning then
        (portState (manager, shared) port).tick manager.config port
          (shared.board.samples.inPin1 port)
      else portState (manager, shared) port := by
  cases hrunning : manager.isRunning with
  | true =>
    rw [tick_of_running hrunning]
    exact portState_tickWatches (manager, shared) port
  | false =>
    obtain ⟨startup, journal, htick⟩ := exists_tick_of_closed hrunning shared
    rw [htick]
    rfl

theorem sameFrame_tick (manager : Manager) (shared : Shared ColorLink) :
    SameFrame (manager, shared) (manager.tick shared) := by
  cases hrunning : manager.isRunning with
  | true =>
    rw [tick_of_running hrunning]
    exact sameFrame_tickWatches (manager, shared)
  | false =>
    obtain ⟨startup, journal, htick⟩ := exists_tick_of_closed hrunning shared
    rw [htick]
    exact ⟨rfl, rfl, rfl⟩

end Manager

/-! ## Periods of the bit timer -/

namespace ColorLink

variable (link : ColorLink) (board : Board)

/-- The sessions and the board after one port's part of a period, leaving out what is reported. -/
def stepPort (state : ColorLink × Board) (port : Port) : ColorLink × Board :=
  ((state.1.tickPort port state.2).1, (state.1.tickPort port state.2).2.1)

/-- A period of the bit timer without its reports. -/
theorem tick_eq : ((link.tick board).1, (link.tick board).2.1)
    = Port.all.foldl stepPort (link, board) :=
  -- leaving the reports out commutes with the step of each port
  (List.foldl_hom (fun state : ColorLink × Board × List Notice => (state.1, state.2.1))
    (fun _ _ => rfl)).symm

theorem stepPort_frame (state : ColorLink × Board) (port : Port) :
    (stepPort state port).1.initDelay = state.1.initDelay ∧
      (stepPort state port).2.samples = state.2.samples := by
  unfold stepPort tickPort
  dsimp only
  split <;> exact ⟨rfl, rfl⟩

theorem stepPort_ne (state : ColorLink × Board) {port other : Port} (hne : other ≠ port) :
    (stepPort state port).1.sessions.get other = state.1.sessions.get other ∧
      (stepPort state port).2.inputs.get other = state.2.inputs.get other := by
  unfold stepPort tickPort
  dsimp only
  split
  · exact ⟨PerPort.get_set_ne _ _ hne, PerPort.get_modify_ne _ _ hne⟩
  · exact ⟨rfl, rfl⟩

/-- The state of a port whose watch does not tick. -/
def portState (watch : InputWatch) (state : ColorLink × Board) (port : Port) : PortState :=
  ⟨watch, state.2.inputs.get port, some (state.1.sessions.get port)⟩

theorem portState_stepPort_self (watch : InputWatch) (state : ColorLink × Board) (port : Port) :
    portState watch (stepPort state port) port
      = (portState watch state port).colorTick state.1.initDelay := by
  unfold stepPort tickPort portState PortState.colorTick
  dsimp only
  split
  · simp [Board.modifyInputLines]
  · rfl

theorem portState_stepPort_ne (watch : InputWatch) (state : ColorLink × Board) {port other : Port}
    (hne : other ≠ port) :
    portState watch (stepPort state port) other = portState watch state other := by
  obtain ⟨hsession, hsocket⟩ := stepPort_ne state hne
  unfold portState
  rw [hsession, hsocket]

theorem portState_stepPorts_of_notMem (watch : InputWatch) {port : Port} (ports : List Port)
    (hport : port ∉ ports) :
    ∀ state : ColorLink × Board,
      portState watch (ports.foldl stepPort state) port = portState watch state port := by
  induction ports with
  | nil => intro state; rfl
  | cons other rest ih =>
    intro state
    rw [List.mem_cons, not_or] at hport
    rw [List.foldl_cons, ih hport.2, portState_stepPort_ne watch state hport.1]

theorem stepPorts_frame (ports : List Port) :
    ∀ state : ColorLink × Board,
      (ports.foldl stepPort state).1.initDelay = state.1.initDelay ∧
        (ports.foldl stepPort state).2.samples = state.2.samples := by
  induction ports with
  | nil => intro state; exact ⟨rfl, rfl⟩
  | cons port rest ih =>
    intro state
    obtain ⟨hdelay, hsamples⟩ := ih (stepPort state port)
    obtain ⟨hdelay', hsamples'⟩ := stepPort_frame state port
    exact ⟨hdelay.trans hdelay', hsamples.trans hsamples'⟩

/-- In a period of the bit timer each port steps as if it were alone. -/
theorem portState_tick (watch : InputWatch) (port : Port) :
    portState watch ((link.tick board).1, (link.tick board).2.1) port
      = (portState watch (link, board) port).colorTick link.initDelay := by
  obtain ⟨before, after, hall, hbefore, hafter⟩ := Port.exists_split port
  rw [tick_eq, hall, List.foldl_append, List.foldl_cons,
    portState_stepPorts_of_notMem watch after hafter, portState_stepPort_self,
    portState_stepPorts_of_notMem watch before hbefore, (stepPorts_frame before _).1]

end ColorLink

/-! ## The controller -/

namespace Controller

variable {α : Type}

/-- The state of an input port. -/
def portState (c : Controller α) (port : Port) : PortState :=
  ⟨c.manager.inputs.get port, c.board.inputs.get port, ColorLink.session? c.link port⟩

/-- The length of the reset hold, if there is a link. -/
def initDelay? (c : Controller α) : Option UInt16 := c.link.map fun link => link.initDelay

/-- A tick of the manager is a tick of each port alone, or nothing to the ports while the gate is
closed. -/
theorem portState_managerTick (c : Controller α) (port : Port) :
    c.managerTick.portState port =
      if c.manager.isRunning then
        (c.portState port).tick c.manager.config port (c.board.samples.inPin1 port)
      else c.portState port :=
  Manager.portState_tick c.manager ⟨c.board, c.link, c.journal⟩ port

/-- A tick of the manager keeps the thresholds, the samples and the length of the reset hold. -/
theorem frame_managerTick (c : Controller α) :
    c.managerTick.manager.config = c.manager.config ∧
      c.managerTick.board.samples = c.board.samples ∧
        c.managerTick.initDelay? = c.initDelay? := by
  have h := Manager.sameFrame_tick c.manager ⟨c.board, c.link, c.journal⟩
  exact ⟨h.config, h.samples, h.delay⟩

/-- A period of the bit timer is a step of the session of each port alone. -/
theorem portState_colorTick (c : Controller α) (port : Port) :
    c.colorTick.portState port = (c.portState port).colorTick (c.initDelay?.getD 0) := by
  unfold colorTick
  rcases hlink : c.link with - | link
  · simp only [portState, initDelay?, hlink, ColorLink.session?, Option.map_none]
    rfl
  · have h := ColorLink.portState_tick link c.board (c.manager.inputs.get port) port
    simp only [portState, initDelay?, hlink, ColorLink.session?, Option.map_some,
      Option.getD_some]
    exact h

end Controller

end PlugWatch
