import PlugWatch.Proofs.Detection.PortState
/-!
# What a tick of a watch can do

The watch of an input port shares three things with the sampler and the link: the lines of the port,
its handshake and its session. This file says once which moves a tick can make with them, and from
which stages to which, so that an invariant over the three is proved by cases on the move.

## Main Definitions

* `Stage.watched` : the stages in which a port is watched for a plug.
* `PortState.Move` : the moves.

## Main Statements

* `PortState.move_tick` : every tick is one of them.
-/

namespace PlugWatch

namespace Stage

/-- Whether a port is watched for a plug. -/
def watched : Stage → Bool
  | floatingDelay | floating => true
  | _ => false

/-- Whether a stage is neither one of the watched ones nor one in which a session is waited for. -/
def ordinary : Stage → Bool
  | floatingDelay | floating | nxtColorWait | nxtColorBusy => false
  | _ => true

end Stage

namespace PortState

/-- The stage of the watch. -/
def stage (state : PortState) : Stage := state.watch.stage

/-- The lines of the port. -/
def lines (state : PortState) : InputLines := state.socket.lines

/-- The handshake of the port. -/
def handshake (state : PortState) : ColorHandshake := state.socket.handshake

/-- A period of the bit timer changes neither the handshake nor the watch. -/
theorem colorTick_frame (delay : UInt16) (state : PortState) :
    (state.colorTick delay).handshake = state.handshake ∧
      (state.colorTick delay).watch = state.watch := by
  unfold colorTick
  split
  · exact ⟨rfl, rfl⟩
  · split <;> exact ⟨rfl, rfl⟩

/-- What a tick can do to the lines, the handshake and the session of its port, by the stage it
comes from and the stage it goes to. -/
inductive Move (before after : PortState) : Prop where
  /-- Nothing is touched. Of the stages that count here none is entered, but for going on from one
  watched stage to another. -/
  | look (hlines : after.lines = before.lines) (hhandshake : after.handshake = before.handshake)
      (hsession : after.session = before.session)
      (hstage : after.stage.ordinary = true ∨ after.stage = before.stage ∨
        (before.stage.watched = true ∧ after.stage.watched = true))
  /-- The port is released to be identified. -/
  | release (hlines : after.lines = before.lines.release)
      (hhandshake : after.handshake = before.handshake) (hsession : after.session = before.session)
      (hstage : after.stage.ordinary = true)
  /-- The port is released to be watched: it leaves colour mode, and its session is stopped. -/
  | restart (hlines : after.lines = before.lines.release)
      (hhandshake : after.handshake = { before.handshake with active := false })
      (hsession : after.session = before.session.map Session.stop)
      (hstage : after.stage = .floatingDelay)
  /-- The sampler is asked to leave the clock line alone. -/
  | prepare (hlines : after.lines = before.lines)
      (hhandshake : after.handshake = { before.handshake with command := 0 })
      (hsession : after.session = before.session.map Session.stop)
      (hstage : after.stage = .nxtColorWait ∨ after.stage = .connectedWaitingForPin2High)
  /-- A session begins: the sampler has taken the command over. -/
  | start (hlines : after.lines = before.lines) (hhandshake : after.handshake = before.handshake)
      (hsession : after.session = before.session.map fun session =>
        session.start before.watch.command)
      (hbefore : before.stage = .nxtColorWait) (hsettled : before.handshake.settled = true)
      (hstage : after.stage = .nxtColorBusy)
  /-- The answer of a session is taken over: the port goes into colour mode. -/
  | collect (hlines : after.lines = before.lines)
      (hhandshake : after.handshake =
        { before.handshake with active := true, command := before.watch.command })
      (hsession : after.session = before.session.map Session.stop)
      (hbefore : before.stage = .nxtColorBusy)
      (hstage : after.stage = .connectedWaitingForPin2High)
  /-- A session is given up. -/
  | abandon (hlines : after.lines = before.lines) (hhandshake : after.handshake = before.handshake)
      (hsession : after.session = before.session.map Session.stop)
      (hstage : after.stage.ordinary = true)

/-- A session that was stopped is not in use. -/
theorem not_inUse_of_mem_stop {session : Option Session} {stopped : Session}
    (h : stopped ∈ session.map Session.stop) : stopped.inUse = false := by
  cases session with
  | none => cases h
  | some before =>
    cases h
    rfl

/-- A scene as a state. -/
def ofScene (scene : InputScene Session) : PortState := ⟨scene.watch, scene.socket, scene.link⟩

section Moves

variable {scene after : InputScene Session} (config : DetectionConfig) (port : Port)
  (pin1 : UInt16)

/-- A step that touches neither lines nor handshake nor session. -/
theorem move_look (hsocket : after.socket.lines = scene.socket.lines ∧
      after.socket.handshake = scene.socket.handshake)
    (hlink : after.link = scene.link)
    (hstage : after.watch.stage.ordinary = true ∨ after.watch.stage = scene.watch.stage ∨
      (scene.watch.stage.watched = true ∧ after.watch.stage.watched = true)) :
    Move (ofScene scene) (ofScene after) :=
  .look hsocket.1 hsocket.2 hlink hstage

/-- Stopping the session of a port touches nothing else. -/
theorem stopSession_eq (scene : InputScene Session) :
    ∃ journal, scene.stopSession port =
      { scene with link := scene.link.map Session.stop, journal := journal } := by
  obtain ⟨watch, socket, link, journal⟩ := scene
  cases link with
  | none => exact ⟨journal, rfl⟩
  | some session => exact ⟨_, rfl⟩

theorem move_onInit : Move (ofScene scene) (ofScene (scene.onInit port)) := by
  obtain ⟨journal, hstop⟩ := stopSession_eq port
    (scene.mapHandshake fun handshake => { handshake with active := false })
  unfold InputScene.onInit
  dsimp only
  rw [hstop]
  exact .restart rfl rfl rfl rfl

theorem move_onFloatingDelay (hstage : scene.watch.stage = .floatingDelay) :
    Move (ofScene scene) (ofScene (scene.onFloatingDelay config)) := by
  unfold InputScene.onFloatingDelay
  dsimp only
  split
  · exact move_look ⟨rfl, rfl⟩ rfl (.inr (.inr ⟨by rw [hstage]; rfl, rfl⟩))
  · exact move_look ⟨rfl, rfl⟩ rfl (.inr (.inl rfl))

theorem move_onFloating (hstage : scene.watch.stage = .floating) :
    Move (ofScene scene) (ofScene (scene.onFloating config port pin1)) := by
  have hwatched : ∀ more : Prop, [Decidable more] →
      (if more then Stage.connection else Stage.floating).ordinary = true ∨
        (if more then Stage.connection else Stage.floating) = scene.watch.stage ∨
        (scene.watch.stage.watched = true ∧
          (if more then Stage.connection else Stage.floating).watched = true) := by
    intro more _
    split
    · exact .inl rfl
    · exact .inr (.inl hstage.symm)
  unfold InputScene.onFloating
  dsimp only
  split <;> split
  · exact move_look ⟨rfl, rfl⟩ rfl (.inr (.inl rfl))
  · exact move_look ⟨rfl, rfl⟩ rfl (.inr (.inl rfl))
  · exact move_look ⟨rfl, rfl⟩ rfl (hwatched _)
  · exact move_look ⟨rfl, rfl⟩ rfl (hwatched _)

theorem ordinary_stageOf (conditions : Conditions) :
    (InputScene.stageOf conditions).ordinary = true := by
  unfold InputScene.stageOf
  split
  · rfl
  · split
    · rfl
    · split
      · rfl
      · split <;> rfl

theorem move_onConnection : Move (ofScene scene) (ofScene scene.onConnection) :=
  move_look ⟨rfl, rfl⟩ rfl (.inl (ordinary_stageOf _))

/-- No legacy rule leads to a watched stage or into the middle of a session. -/
theorem ordinary_legacyRules {rule : Rule LegacyProbe LegacyVerdict}
    (h : rule ∈ legacyRules) (linked : Bool) :
    (InputScene.withoutLink linked rule.verdict).next.ordinary = true := by
  have hall : ∀ verdict ∈ legacyRules.map Rule.verdict, ∀ linked,
      (InputScene.withoutLink linked verdict).next.ordinary = true := by decide
  exact hall _ (List.mem_map_of_mem h) linked

theorem move_onPin2Low (hstage : scene.watch.stage = .pin2Low) :
    Move (ofScene scene) (ofScene (scene.onPin2Low port pin1)) := by
  unfold InputScene.onPin2Low
  dsimp only
  split
  · refine .release rfl rfl rfl ?_
    show scene.watch.stage.ordinary = true
    rw [hstage]
    rfl
  · rename_i rule hrule
    have hordinary := ordinary_legacyRules (List.mem_of_find?_eq_some hrule)
    split <;> split <;> exact .release rfl rfl rfl (hordinary _)

theorem move_onTouchCheck :
    Move (ofScene scene) (ofScene (scene.onTouchCheck config pin1)) := by
  unfold InputScene.onTouchCheck
  dsimp only
  split
  · exact move_look ⟨rfl, rfl⟩ rfl (.inl rfl)
  · exact move_look ⟨rfl, rfl⟩ rfl (.inr (.inl rfl))

theorem move_onColorInit : Move (ofScene scene) (ofScene (scene.onColorInit port)) := by
  obtain ⟨journal, hstop⟩ := stopSession_eq port
    (scene.mapHandshake fun handshake => { handshake with command := 0 })
  unfold InputScene.onColorInit
  dsimp only
  split
  · rw [hstop]
    exact .prepare rfl rfl rfl (.inl rfl)
  · rename_i hlink
    refine .prepare rfl rfl ?_ (.inr rfl)
    show scene.link = scene.link.map Session.stop
    rw [show scene.link = none from hlink]
    rfl

theorem move_onColorWait (hstage : scene.watch.stage = .nxtColorWait) :
    Move (ofScene scene) (ofScene (scene.onColorWait port)) := by
  unfold InputScene.onColorWait
  split
  · exact move_look ⟨rfl, rfl⟩ rfl (.inl rfl)
  · rename_i session hlink
    split
    · -- the guard of the start is what the exclusion rests on
      rename_i hsettled
      refine .start rfl rfl ?_ hstage hsettled rfl
      show some _ = scene.link.map _
      rw [hlink]
      rfl
    · exact move_look ⟨rfl, rfl⟩ rfl (.inr (.inl rfl))

/-- Collecting an answer touches of the shared things the handshake and the session only. -/
theorem collect_eq (scene : InputScene Session) (answer : Block) :
    ∃ journal, scene.collect port answer =
      { watch := { scene.watch with stage := .connectedWaitingForPin2High, timer := 0 }
        socket := { scene.socket with
          color := scene.socket.color.load answer
          handshake := { scene.socket.handshake with
            active := true, command := scene.watch.command } }
        link := scene.link.map Session.stop
        journal := journal } := by
  obtain ⟨watch, socket, link, journal⟩ := scene
  cases link with
  | none => exact ⟨_, rfl⟩
  | some session => exact ⟨_, rfl⟩

/-- A session that is stopped twice is stopped. -/
theorem map_stop_map_stop (session : Option Session) :
    (session.map Session.stop).map Session.stop = session.map Session.stop := by
  cases session <;> rfl

/-- Giving a session up stops it and goes on to a stage, and touches nothing else. -/
theorem ofScene_giveUp (scene : InputScene Session) (notice : Notice) (stage : Stage) :
    ofScene (((scene.note notice).stopSession port).enter stage) =
      { watch := { scene.watch with stage := stage, timer := 0 }
        socket := scene.socket
        session := scene.link.map Session.stop } := by
  obtain ⟨journal, hstop⟩ := stopSession_eq port (scene.note notice)
  rw [hstop]
  rfl

theorem move_onColorBusy (hstage : scene.watch.stage = .nxtColorBusy) :
    Move (ofScene scene) (ofScene (scene.onColorBusy config port)) := by
  unfold InputScene.onColorBusy
  split
  · exact move_look ⟨rfl, rfl⟩ rfl (.inl rfl)
  · rename_i session hlink
    dsimp only
    by_cases hready : ColorProtocol.ready session port = true
    · obtain ⟨journal, hcollect⟩ :=
        collect_eq port scene (ColorProtocol.response session port)
      rw [if_pos hready, hcollect]
      split
      · -- the answer is taken over, and is late all the same
        rw [ofScene_giveUp]
        exact .collect rfl rfl (map_stop_map_stop _) hstage rfl
      · exact .collect rfl rfl rfl hstage rfl
    · rw [if_neg hready]
      split
      · rw [ofScene_giveUp]
        exact .abandon rfl rfl rfl rfl
      · exact move_look ⟨rfl, rfl⟩ rfl (.inr (.inl rfl))

theorem move_awaitRelease (limit : UInt16) (released : Bool) :
    Move (ofScene scene) (ofScene (scene.awaitRelease port limit released)) := by
  unfold InputScene.awaitRelease
  split
  · dsimp only
    split
    · exact move_look ⟨rfl, rfl⟩ rfl (.inl rfl)
    · exact move_look ⟨rfl, rfl⟩ rfl (.inr (.inl rfl))
  · exact move_look ⟨rfl, rfl⟩ rfl (.inr (.inl rfl))

theorem move_onPin1Loaded : Move (ofScene scene) (ofScene (scene.onPin1Loaded port pin1)) := by
  unfold InputScene.onPin1Loaded
  split <;> exact move_look ⟨rfl, rfl⟩ rfl (.inl rfl)

theorem move_onDisabled (hstage : scene.watch.stage = .disabled) :
    Move (ofScene scene) (ofScene (scene.onDisabled port)) := by
  unfold InputScene.onDisabled
  split
  · exact move_look ⟨rfl, rfl⟩ rfl (.inl rfl)
  · dsimp only
    split
    · obtain ⟨journal, hstop⟩ := stopSession_eq port scene
      rw [hstop]
      refine .abandon rfl rfl rfl ?_
      show scene.watch.stage.ordinary = true
      rw [hstage]
      rfl
    · exact move_look ⟨rfl, rfl⟩ rfl (.inr (.inl rfl))

/-- What a stage does is a move. -/
theorem move_act : Move (ofScene scene) (ofScene (scene.act config port pin1)) := by
  unfold InputScene.act
  cases hstage : scene.watch.stage with
  | init => exact move_onInit port
  | floatingDelay => exact move_onFloatingDelay config hstage
  | floating => exact move_onFloating config port pin1 hstage
  | connection => exact move_onConnection
  | pin2Low => exact move_onPin2Low port pin1 hstage
  | nxtTouchCheck => exact move_onTouchCheck config pin1
  | nxtColorInit => exact move_onColorInit port
  | nxtColorWait => exact move_onColorWait port hstage
  | nxtColorBusy => exact move_onColorBusy config port hstage
  | connectedWaitingForPin2High => exact move_awaitRelease port _ _
  | pin1Loaded => exact move_onPin1Loaded port pin1
  | connectedWaitingForPin1ToFloat => exact move_awaitRelease port _ _
  | pin6High => exact move_look ⟨rfl, rfl⟩ rfl (.inl rfl)
  | connectedWaitingForPin6Low => exact move_awaitRelease port _ _
  | pin5Low => exact move_look ⟨rfl, rfl⟩ rfl (.inl rfl)
  | connectedWaitingForPin5High => exact move_awaitRelease port _ _
  | disabled => exact move_onDisabled port hstage
  | waitingForPin5Low => exact move_look ⟨rfl, rfl⟩ rfl (.inl rfl)
  | waitingForPin6Low => exact move_look ⟨rfl, rfl⟩ rfl (.inl rfl)
  | connectedWaitingForPortOpen => exact move_look ⟨rfl, rfl⟩ rfl (.inl rfl)

end Moves

/-- Remembering the stage touches nothing that counts here. -/
theorem ofScene_settle (port : Port) (scene : InputScene Session) :
    ∃ lastStage, ofScene (scene.settle port) =
      { ofScene scene with watch := { scene.watch with lastStage := lastStage } } := by
  unfold InputScene.settle
  split
  · exact ⟨scene.watch.lastStage, rfl⟩
  · exact ⟨_, rfl⟩

theorem Move.remember {before after : PortState} (h : Move before after) (lastStage : Stage) :
    Move before { after with watch := { after.watch with lastStage := lastStage } } := by
  cases h with
  | look hlines hhandshake hsession hstage => exact .look hlines hhandshake hsession hstage
  | release hlines hhandshake hsession hstage => exact .release hlines hhandshake hsession hstage
  | restart hlines hhandshake hsession hstage => exact .restart hlines hhandshake hsession hstage
  | prepare hlines hhandshake hsession hstage => exact .prepare hlines hhandshake hsession hstage
  | start hlines hhandshake hsession hbefore hsettled hstage =>
    exact .start hlines hhandshake hsession hbefore hsettled hstage
  | collect hlines hhandshake hsession hbefore hstage =>
    exact .collect hlines hhandshake hsession hbefore hstage
  | abandon hlines hhandshake hsession hstage => exact .abandon hlines hhandshake hsession hstage

/-- A port whose detection is off only gives up its session, whatever stage it is in. -/
theorem move_gated (port : Port) (scene : InputScene Session)
    (hoff : scene.watch.enabled = false) :
    Move (ofScene scene) (ofScene ((scene.goTo .disabled).onDisabled port)) := by
  unfold InputScene.onDisabled
  rw [if_neg (by rw [show (scene.goTo .disabled).watch.enabled = false from hoff]; simp)]
  dsimp only
  split
  · obtain ⟨journal, hstop⟩ := stopSession_eq port (scene.goTo .disabled)
    rw [hstop]
    exact .abandon rfl rfl rfl rfl
  · exact move_look ⟨rfl, rfl⟩ rfl (.inl rfl)

/-- **Every tick is a move.** -/
theorem move_tick (config : DetectionConfig) (port : Port) (pin1 : UInt16) (state : PortState) :
    Move state (state.tick config port pin1) := by
  have hact : Move (ofScene state.scene) (ofScene (state.scene.gate.act config port pin1)) := by
    unfold InputScene.gate
    split
    · exact move_act config port pin1
    · rename_i hoff
      exact move_gated port state.scene (by simpa using hoff)
  obtain ⟨lastStage, hsettle⟩ := ofScene_settle port (state.scene.gate.act config port pin1)
  show Move state (ofScene ((state.scene.gate.act config port pin1).settle port))
  rw [hsettle]
  exact hact.remember lastStage

end PortState

namespace InputScene

/-! ## What a tick leaves of a socket -/

section Sockets

variable {κ : Type} (config : DetectionConfig) (port : Port) (pin1 : UInt16) (scene : InputScene κ)

theorem socket_onFloating : (scene.onFloating config port pin1).socket = scene.socket := by
  unfold onFloating
  dsimp only
  split <;> split <;> rfl

theorem socket_awaitRelease (limit : UInt16) (released : Bool) :
    (scene.awaitRelease port limit released).socket = scene.socket := by
  unfold awaitRelease
  split
  · dsimp only
    split <;> rfl
  · rfl

theorem socket_settle : (scene.settle port).socket = scene.socket := by
  unfold settle
  split <;> rfl

/-- Identifying a legacy sensor releases the port and may publish a verdict. -/
theorem socket_onPin2Low : ∃ lines verdict,
    (scene.onPin2Low port pin1).socket =
      { scene.socket with lines := lines, verdict := verdict } := by
  unfold onPin2Low
  dsimp only
  split
  · exact ⟨_, scene.socket.verdict, rfl⟩
  · split
    · split <;> exact ⟨_, _, rfl⟩
    · split <;> exact ⟨_, _, rfl⟩

variable [ColorProtocol κ]

theorem socket_stopSession : (scene.stopSession port).socket = scene.socket := by
  unfold stopSession
  split <;> rfl

theorem watch_stopSession : (scene.stopSession port).watch = scene.watch := by
  unfold stopSession
  split <;> rfl

theorem socket_onColorInit :
    (scene.onColorInit port).socket =
      { scene.socket with handshake := { scene.socket.handshake with command := 0 } } := by
  unfold onColorInit
  dsimp only
  split
  · dsimp only [enter]
    rw [socket_stopSession]
    rfl
  · rfl

theorem socket_onColorWait : (scene.onColorWait port).socket = scene.socket := by
  unfold onColorWait
  split
  · rfl
  · split <;> rfl

theorem socket_onDisabled : (scene.onDisabled port).socket = scene.socket := by
  unfold onDisabled
  split
  · rfl
  · dsimp only
    split
    · rw [socket_stopSession]
    · rfl

theorem socket_onInit :
    (scene.onInit port).socket =
      { scene.socket with
        lines := scene.socket.lines.release
        verdict := .none
        handshake := { scene.socket.handshake with active := false } } := by
  unfold onInit
  dsimp only [publish, mapLines]
  rw [socket_stopSession]
  rfl

/-- Only the wait for a session touches the data of the sensor, and of the other stages only the first
one touches colour mode. -/
theorem color_act (h : scene.watch.stage ≠ .nxtColorBusy) :
    (scene.act config port pin1).socket.color = scene.socket.color ∧
      (scene.act config port pin1).socket.handshake.active =
        (decide (scene.watch.stage ≠ .init) && scene.socket.handshake.active) := by
  unfold act
  cases hstage : scene.watch.stage with
  | nxtColorBusy => exact absurd hstage h
  | init =>
    dsimp only
    rw [socket_onInit]
    exact ⟨rfl, rfl⟩
  | floatingDelay =>
    dsimp only [onFloatingDelay]
    split <;> exact ⟨rfl, rfl⟩
  | floating =>
    dsimp only
    rw [socket_onFloating]
    exact ⟨rfl, rfl⟩
  | pin2Low =>
    obtain ⟨lines, verdict, hsocket⟩ := scene.socket_onPin2Low port pin1
    dsimp only
    rw [hsocket]
    exact ⟨rfl, rfl⟩
  | nxtTouchCheck =>
    dsimp only [onTouchCheck]
    split <;> exact ⟨rfl, rfl⟩
  | nxtColorInit =>
    dsimp only
    rw [socket_onColorInit]
    exact ⟨rfl, rfl⟩
  | nxtColorWait =>
    dsimp only
    rw [socket_onColorWait]
    exact ⟨rfl, rfl⟩
  | pin1Loaded =>
    dsimp only [onPin1Loaded]
    split <;> exact ⟨rfl, rfl⟩
  | connectedWaitingForPin2High | connectedWaitingForPin1ToFloat | connectedWaitingForPin6Low
  | connectedWaitingForPin5High =>
    dsimp only
    rw [socket_awaitRelease]
    exact ⟨rfl, rfl⟩
  | disabled =>
    dsimp only
    rw [socket_onDisabled]
    exact ⟨rfl, rfl⟩
  | _ => exact ⟨rfl, rfl⟩

end Sockets

end InputScene

end PlugWatch
