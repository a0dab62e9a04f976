import Mathlib.Data.List.Induction
import PlugWatch.Proofs.Detection.Move
import PlugWatch.Proofs.Since
/-!
# Colour sessions that take too long

A port that waits for a session gives it up when its time is up. The session is stopped then, and the
watch goes on to wait for the device to go. Whether the port is in colour mode behind that tick is
another matter: a port gets into colour mode when an answer is collected, and nothing but the start of
the detection gets it out. So a session that times out leaves a port in colour mode exactly if an earlier
one since that start, or the same one in the same tick, was answered.

All of this holds whatever the sessions are and do, and whatever becomes of the lines, the samples and
the sessions between two ticks.

## Main Definitions

* `Station` : a manager and what it shares; `Station.Act`, `Station.act`, `Station.acts` : what can
  happen to it.
* `Station.turn` : what a port finds when its turn in a tick comes.
* `Station.Answers`, `Station.StartsOver`, `Station.TimesOut` : what the coming tick means for a port.
* `Station.AnsweredSince` : an answer was collected, and the detection has not started over since.

## Main Statements

* `InputScene.active_tick` : what a tick means for colour mode.
* `InputScene.busy_tick` : how a tick of the wait for a session ends.
* `Station.active_iff` : the history of a port that is in colour mode.
* `Station.timed_out_session` : what a session that times out leaves.
-/

namespace PlugWatch

/-! ## One tick of a watch -/

namespace InputScene

variable {κ : Type} [ColorProtocol κ] (config : DetectionConfig) (port : Port) (pin1 : UInt16)
  (scene : InputScene κ)

/-- The port is in colour mode. -/
def active (scene : InputScene κ) : Bool := scene.socket.handshake.active

/-- The port waits for a session. -/
def waits (scene : InputScene κ) : Bool :=
  scene.watch.enabled && decide (scene.watch.stage = .nxtColorBusy)

/-- The detection of the port starts over. -/
def startsOver (scene : InputScene κ) : Bool :=
  scene.watch.enabled && decide (scene.watch.stage = .init)

/-- The session that the port waits for is over, and its answer is collected. -/
def answered : Bool := scene.waits && scene.link.any fun link => ColorProtocol.ready link port

/-- The time of the session that the port waits for is up. An answer that is collected in the same tick
sets the time back to nothing, and then the tick counts. -/
def late : Bool :=
  scene.waits && scene.link.any fun link =>
    decide (config.colorTimeoutTicks <
      (if ColorProtocol.ready link port then 0 else scene.watch.timer) + 1)

/-- The sessions once that of a port is given up. One that is over by then is stopped for its answer
first. -/
def givenUp (link : κ) : κ :=
  (ColorProtocol.stop
    (if ColorProtocol.ready link port then (ColorProtocol.stop link port).1 else link) port).1

section Busy

variable {link : κ} (hlink : scene.link = some link)
include hlink

/-- Collecting an answer stops the session, puts the port into colour mode and ends the wait. -/
theorem collect_eq_of_link (answer : Block) :
    ∃ journal, scene.collect port answer =
      { watch := { scene.watch with stage := .connectedWaitingForPin2High, timer := 0 }
        socket := { scene.socket with
          color := scene.socket.color.load answer
          handshake := { scene.socket.handshake with
            active := true, command := scene.watch.command } }
        link := some (ColorProtocol.stop link port).1
        journal := journal } := by
  obtain ⟨watch, socket, present, journal⟩ := scene
  subst hlink
  exact ⟨_, rfl⟩

/-- Giving a session up stops it and ends the wait. -/
theorem giveUp_eq_of_link (notice : Notice) :
    ∃ journal, ((scene.note notice).stopSession port).enter .connectedWaitingForPin2High =
      { watch := { scene.watch with stage := .connectedWaitingForPin2High, timer := 0 }
        socket := scene.socket
        link := some (ColorProtocol.stop link port).1
        journal := journal } := by
  obtain ⟨watch, socket, present, journal⟩ := scene
  subst hlink
  exact ⟨_, rfl⟩

/-- The wait for a session ends with an answer, or because the time is up, or with both. Only the answer
counts for colour mode. -/
theorem onColorBusy_of_link :
    let ready := ColorProtocol.ready link port
    let late := decide (config.colorTimeoutTicks < (if ready then 0 else scene.watch.timer) + 1)
    let after := scene.onColorBusy config port
    after.active = (scene.active || ready) ∧
      after.watch.stage =
        (if ready || late then .connectedWaitingForPin2High else scene.watch.stage) ∧
      (late = true → after.link = some (givenUp port link)) := by
  intro ready late after
  have hafter : after = scene.onColorBusy config port := rfl
  unfold onColorBusy at hafter
  rw [hlink] at hafter
  dsimp only at hafter
  by_cases hready : ColorProtocol.ready link port = true
  · obtain ⟨journal, hcollect⟩ :=
      collect_eq_of_link port scene hlink (ColorProtocol.response link port)
    rw [if_pos hready, hcollect] at hafter
    have hisReady : ready = true := hready
    have hgivenUp : givenUp port link =
        (ColorProtocol.stop (ColorProtocol.stop link port).1 port).1 := by
      rw [givenUp, if_pos hready]
    rw [hisReady, hgivenUp, Bool.or_true, Bool.true_or, if_pos rfl]
    split at hafter
    · -- the answer is collected, and is late all the same
      obtain ⟨journal', hgiveUp⟩ := giveUp_eq_of_link port
        ⟨{ scene.watch with stage := .connectedWaitingForPin2High, timer := 0 + 1 }, _,
          some (ColorProtocol.stop link port).1, journal⟩ rfl (.colorTimedOut port)
      rw [hafter, hgiveUp]
      exact ⟨rfl, rfl, fun _ => rfl⟩
    · rename_i hintime
      have hlate : late = false := by
        simp only [late, hisReady, if_true]
        exact decide_eq_false hintime
      rw [hafter, hlate]
      exact ⟨rfl, rfl, nofun⟩
  · have hnotReady : ready = false := Bool.eq_false_iff.mpr hready
    have hgivenUp : givenUp port link = (ColorProtocol.stop link port).1 := by
      rw [givenUp, if_neg hready]
    rw [if_neg hready] at hafter
    rw [hnotReady, hgivenUp, Bool.or_false, Bool.false_or]
    split at hafter
    · rename_i htime
      have hlate : late = true := by
        simp only [late, hnotReady]
        exact decide_eq_true htime
      obtain ⟨journal, hgiveUp⟩ := giveUp_eq_of_link port
        { scene with watch := { scene.watch with timer := scene.watch.timer + 1 } } hlink
        (.colorTimedOut port)
      rw [hafter, hgiveUp, hlate, if_pos rfl]
      exact ⟨rfl, rfl, fun _ => rfl⟩
    · rename_i htime
      have hlate : late = false := by
        simp only [late, hnotReady]
        exact decide_eq_false htime
      rw [hafter, hlate]
      exact ⟨rfl, rfl, nofun⟩

end Busy

omit [ColorProtocol κ] in
theorem stage_settle : (scene.settle port).watch.stage = scene.watch.stage := by
  unfold settle
  split <;> rfl

omit [ColorProtocol κ] in
theorem link_settle : (scene.settle port).link = scene.link := by
  unfold settle
  split <;> rfl

/-- A tick of the wait for a session, with the sessions at hand. -/
theorem busy_tick {link : κ} (hwaits : scene.waits = true) (hlink : scene.link = some link) :
    (scene.tick config port pin1).watch.stage =
        (if scene.answered port || scene.late config port then .connectedWaitingForPin2High
          else .nxtColorBusy) ∧
      (scene.late config port = true →
        (scene.tick config port pin1).link = some (givenUp port link)) := by
  obtain ⟨hon, hbusy⟩ := Bool.and_eq_true_iff.mp hwaits
  have hstage : scene.watch.stage = .nxtColorBusy := of_decide_eq_true hbusy
  have hact : scene.gate.act config port pin1 = scene.onColorBusy config port := by
    rw [gate, if_pos hon, act, hstage]
  obtain ⟨-, hafter, hstopped⟩ := onColorBusy_of_link config port scene hlink
  rw [tick, hact, stage_settle, link_settle, hafter, hstage, answered, late, hwaits, hlink]
  exact ⟨rfl, hstopped⟩

/-- **A tick and colour mode.** The start of the detection takes the port out of colour mode, an answer
puts it into it, and nothing else has to do with it. -/
theorem active_tick :
    (scene.tick config port pin1).active =
      (!scene.startsOver && (scene.active || scene.answered port)) := by
  have hsettle : (scene.tick config port pin1).active = (scene.gate.act config port pin1).active :=
    congrArg (fun socket => socket.handshake.active) (socket_settle port _)
  rw [hsettle, answered, startsOver, waits]
  cases hon : scene.watch.enabled with
  | false =>
    -- what is done with detection off concerns the session only
    have hact := (color_act config port pin1 (scene.goTo .disabled) nofun).2
    rw [gate, if_neg (by simp [hon])]
    rw [Bool.false_and, Bool.false_and, Bool.false_and, Bool.or_false, Bool.not_false, Bool.true_and]
    exact hact
  | true =>
    rw [gate, if_pos hon, Bool.true_and, Bool.true_and]
    by_cases hbusy : scene.watch.stage = .nxtColorBusy
    · rw [hbusy, decide_eq_false (by nofun : Stage.nxtColorBusy ≠ .init), decide_eq_true rfl,
        Bool.not_false, Bool.true_and, Bool.true_and, act, hbusy]
      dsimp only
      cases hlink : scene.link with
      | none =>
        unfold onColorBusy
        rw [hlink]
        exact (Bool.or_false _).symm
      | some link => exact (onColorBusy_of_link config port scene hlink).1
    · have hact := (color_act config port pin1 scene hbusy).2
      rw [decide_eq_false hbusy, Bool.false_and, Bool.or_false]
      rw [decide_not] at hact
      exact hact

end InputScene

/-! ## A manager among its surroundings -/

/-- Whatever becomes of the surroundings, the colour mode of the ports is the manager's. -/
def Shared.become {κ : Type} (before after : Shared κ) : Shared κ :=
  { after with
    board := { after.board with
      inputs := .ofFn fun port =>
        let socket := after.board.inputs.get port
        { socket with
          handshake := { socket.handshake with
            active := (before.board.inputs.get port).handshake.active } } } }

/-- A manager and what it shares. -/
abbrev Station (κ : Type) : Type := Manager × Shared κ

namespace Station

variable {κ : Type}

/-- One thing that happens to a station. -/
inductive Act (κ : Type) where
  | tick
  | enable (port : Port) (on : Bool)
  | force (port : Port) (classification : Classification)
  | request (port : Port) (command : UInt8)
  | testMode (on : Bool)
  /-- The surroundings become what they like: lines, samples and what the sampler did to the handshakes,
  the sessions, and whether there are any. -/
  | world (shared : Shared κ)

/-- A new manager. -/
def fresh (config : DetectionConfig) (link : Option κ) : Station κ :=
  ({ config := config }, { link := link })

/-- The port is in colour mode. -/
def active (s : Station κ) (port : Port) : Bool := (s.2.board.inputs.get port).handshake.active

variable [ColorProtocol κ]

/-- Carries out an act. -/
def act (s : Station κ) : Act κ → Station κ
  | .tick => s.1.tick s.2
  | .enable port on => (s.1.setEnabled port on, s.2)
  | .force port classification =>
    match s.1.force? port classification s.2.board with
    | some board => (s.1, { s.2 with board := board })
    | none => s
  | .request port command =>
    match s.1.requestCommand? port command with
    | some manager => (manager, s.2)
    | none => s
  | .testMode on => ((s.1.setTestMode on).1, s.2)
  | .world shared => (s.1, s.2.become shared)

/-- Carries out acts, one after the other. -/
def acts (s : Station κ) (run : List (Act κ)) : Station κ := run.foldl act s

@[simp] theorem acts_nil (s : Station κ) : s.acts [] = s := rfl

theorem acts_concat (s : Station κ) (run : List (Act κ)) (last : Act κ) :
    s.acts (run ++ [last]) = (s.acts run).act last :=
  List.foldl_append

/-- What a port finds when its turn in the coming tick comes: the ports in front of it have had theirs,
and may have begun and stopped sessions. -/
def turn (s : Station κ) (port : Port) : InputScene κ :=
  Manager.inputScene (port.before.foldl (fun state port => Manager.tickInput port state) s) port

/-! ### What a tick does to a port -/

/-- Ticks of other ports leave the watch and the socket of a port alone, and what it reads besides. -/
theorem tickInputs_of_notMem {port : Port} (ports : List Port) (hport : port ∉ ports) (s : Station κ) :
    let after := ports.foldl (fun state port => Manager.tickInput port state) s
    after.1.config = s.1.config ∧ after.2.board.samples = s.2.board.samples ∧
      after.1.inputs.get port = s.1.inputs.get port ∧
      after.2.board.inputs.get port = s.2.board.inputs.get port := by
  induction ports generalizing s with
  | nil => exact ⟨rfl, rfl, rfl, rfl⟩
  | cons other rest ih =>
    rw [List.mem_cons, not_or] at hport
    obtain ⟨hconfig, hsamples, hwatch, hsocket⟩ := ih hport.2 (Manager.tickInput other s)
    refine ⟨hconfig, hsamples, hwatch.trans ?_, hsocket.trans ?_⟩
    · exact PerPort.get_set_ne _ _ hport.1
    · exact PerPort.get_set_ne _ _ hport.1

/-- A port has its turn once in a tick, and comes out of the tick as it comes out of its turn. -/
theorem tick_of_running {s : Station κ} (hrunning : s.1.isRunning = true) (port : Port) :
    let after := (s.turn port).tick s.1.config port (s.2.board.samples.inPin1 port)
    (s.act .tick).1.inputs.get port = after.watch ∧
      (s.act .tick).2.board.inputs.get port = after.socket := by
  obtain ⟨behind, hall, hbefore, hbehind⟩ := port.all_eq
  have htick : s.act .tick = Manager.tickWatches s := Manager.tick_of_running hrunning s.2
  obtain ⟨-, -, hwatches, hsockets, -⟩ := Manager.tickOutputs_spares Port.all
    (Port.all.foldl (fun state port => Manager.tickInput port state) s)
  rw [htick]
  unfold Manager.tickWatches
  dsimp only
  rw [hwatches, hsockets, hall, List.foldl_append, List.foldl_cons]
  generalize hready : port.before.foldl (fun state port => Manager.tickInput port state) s = ready
  obtain ⟨hconfig, hsamples, -, -⟩ := tickInputs_of_notMem port.before hbefore s
  rw [hready] at hconfig hsamples
  obtain ⟨-, -, hwatch, hsocket⟩ := tickInputs_of_notMem behind hbehind (Manager.tickInput port ready)
  rw [hwatch, hsocket, Manager.tickInput_eq, turn, hready, hconfig, hsamples]
  exact ⟨PerPort.get_set_self _ _ _, PerPort.get_set_self _ _ _⟩

theorem active_turn (s : Station κ) (port : Port) : (s.turn port).active = s.active port := by
  obtain ⟨behind, -, hbefore, -⟩ := port.all_eq
  obtain ⟨-, -, -, hsocket⟩ := tickInputs_of_notMem port.before hbefore s
  exact congrArg (fun socket => socket.handshake.active) hsocket

/-! ### Colour mode and its history -/

variable {s : Station κ} {port : Port}

/-- In the coming tick the port collects an answer. -/
def Answers (s : Station κ) (port : Port) : Prop :=
  s.1.isRunning = true ∧ (s.turn port).answered port = true

/-- In the coming tick the detection of the port starts over. -/
def StartsOver (s : Station κ) (port : Port) : Prop :=
  s.1.isRunning = true ∧ (s.turn port).startsOver = true

/-- In the coming tick the port leaves the wait for a session because its time is up. -/
def TimesOut (s : Station κ) (port : Port) : Prop :=
  s.1.isRunning = true ∧ (s.turn port).late s.1.config port = true

instance (s : Station κ) (port : Port) : Decidable (s.TimesOut port) :=
  inferInstanceAs (Decidable (_ ∧ _))

/-- In a run, the port collected an answer, and its detection has not started over since. -/
def AnsweredSince (s : Station κ) (port : Port) (run : List (Act κ)) : Prop :=
  ∃ before after, run = before ++ .tick :: after ∧ (s.acts before).Answers port ∧
    ∀ earlier later, after = earlier ++ .tick :: later →
      ¬(s.acts (before ++ .tick :: earlier)).StartsOver port

/-- A port that times out leaves the wait for its session, and there is no other way to leave it in a
tick but an answer, as long as detection is on and there is a link. -/
theorem leaves_busy_iff (hrunning : s.1.isRunning = true) (hwaits : (s.turn port).waits = true)
    (hlink : (s.turn port).link.isSome = true) :
    ((s.act .tick).1.inputs.get port).stage ≠ .nxtColorBusy ↔
      s.Answers port ∨ s.TimesOut port := by
  obtain ⟨link, hsome⟩ := Option.isSome_iff_exists.mp hlink
  rw [(tick_of_running hrunning port).1, (InputScene.busy_tick _ port _ _ hwaits hsome).1, Answers,
    TimesOut]
  cases (s.turn port).answered port <;> cases (s.turn port).late s.1.config port <;>
    simp [hrunning]

theorem active_tick_of_running (hrunning : s.1.isRunning = true) :
    (s.act .tick).active port =
      (!(s.turn port).startsOver && (s.active port || (s.turn port).answered port)) := by
  rw [← active_turn s port, ← InputScene.active_tick s.1.config port (s.2.board.samples.inPin1 port)]
  exact congrArg (fun socket => socket.handshake.active) (tick_of_running hrunning port).2

/-- While the gate is closed a tick leaves the ports alone. -/
theorem active_tick_of_closed (hclosed : s.1.isRunning = false) :
    (s.act .tick).active port = s.active port := by
  obtain ⟨startup, journal, htick⟩ := Manager.exists_tick_of_closed hclosed s.2
  show Station.active (s.1.tick s.2) port = _
  rw [htick]
  rfl

/-- A tick takes a port into colour mode with an answer and out of it with the start of the detection,
and nothing else does. -/
theorem active_act (a : Act κ) :
    (s.act a).active port = true ↔
      (a = .tick ∧ s.Answers port) ∨
        (s.active port = true ∧ ¬(a = .tick ∧ s.StartsOver port)) := by
  cases a with
  | tick =>
    cases hrunning : s.1.isRunning with
    | false =>
      rw [active_tick_of_closed hrunning]
      simp [Answers, StartsOver, hrunning]
    | true =>
      have hexclusive : (s.turn port).startsOver = true → (s.turn port).answered port = false := by
        intro hstarts
        have hstage : (s.turn port).watch.stage = .init :=
          of_decide_eq_true (Bool.and_eq_true_iff.mp hstarts).2
        rw [InputScene.answered, InputScene.waits, hstage]
        simp
      rw [active_tick_of_running hrunning]
      simp only [Answers, StartsOver, hrunning, true_and]
      cases hstarts : (s.turn port).startsOver with
      | false => simp [or_comm]
      | true => simp [hexclusive hstarts]
  | enable other on => simp [act, active]
  | force other classification =>
    have hkept : (s.act (.force other classification)).active port = s.active port := by
      unfold act Manager.force?
      dsimp only
      split
      · rename_i board hboard
        split at hboard
        · cases hboard
          unfold active
          dsimp only
          by_cases hport : port = other
          · rw [hport, PerPort.get_modify_self]
          · rw [PerPort.get_modify_ne _ _ hport]
        · cases hboard
      · rfl
    rw [hkept]
    simp
  | request other command =>
    have hkept : (s.act (.request other command)).active port = s.active port := by
      unfold act
      dsimp only
      split <;> rfl
    rw [hkept]
    simp
  | testMode on => simp [act, active]
  | world shared => simp [act, active, Shared.become]

theorem answeredSince_iff (s : Station κ) (port : Port) (run : List (Act κ)) :
    s.AnsweredSince port run ↔
      Since (fun before step => step = .tick ∧ (s.acts before).Answers port)
        (fun before step => step = .tick ∧ (s.acts before).StartsOver port) run := by
  constructor
  · rintro ⟨before, after, heq, hanswers, hsince⟩
    refine ⟨before, .tick, after, heq, ⟨rfl, hanswers⟩, ?_⟩
    rintro earlier step later hsplit ⟨rfl, hstarts⟩
    exact hsince earlier later hsplit hstarts
  · rintro ⟨before, first, after, heq, ⟨rfl, hanswers⟩, hsince⟩
    exact ⟨before, after, heq, hanswers, fun earlier later hsplit hstarts =>
      hsince earlier .tick later hsplit ⟨rfl, hstarts⟩⟩

/-- A port that was not in colour mode at first is in it exactly if it collected an answer and its
detection has not started over since. -/
theorem active_iff (hstart : s.active port = false) (run : List (Act κ)) :
    (s.acts run).active port = true ↔ s.AnsweredSince port run := by
  induction run using List.reverseRecOn with
  | nil =>
    rw [acts_nil, hstart]
    rw [answeredSince_iff]
    exact iff_of_false Bool.false_ne_true not_since_nil
  | append_singleton run last ih =>
    rw [acts_concat, active_act, ih, answeredSince_iff, answeredSince_iff, since_concat]

/-- **What a session that times out leaves.** A new manager ticks, is asked for things, and has
surroundings that change as they like, with any kind of colour sessions. In a tick in which an input port
leaves the wait for its session because the time is up,

* the watch goes on to wait for the device to go;
* the last thing that the port does to the sessions is to stop its own;
* behind the tick the port is in colour mode exactly if it has collected an answer since its detection
  started over last, in this tick at the latest. So an earlier session that was answered leaves the port
  in colour mode when a later one times out. -/
theorem timed_out_session (config : DetectionConfig) (link : Option κ) (run : List (Act κ))
    (h : ((fresh config link).acts run).TimesOut port) :
    let before := (fresh config link).acts run
    let after := before.act .tick
    (after.1.inputs.get port).stage = .connectedWaitingForPin2High ∧
      (∃ sessions, (before.turn port).link = some sessions ∧
        ((before.turn port).tick before.1.config port (before.2.board.samples.inPin1 port)).link =
          some (InputScene.givenUp port sessions)) ∧
      ((after.2.board.inputs.get port).handshake.active = true ↔
        (fresh config link).AnsweredSince port (run ++ [.tick])) := by
  intro before after
  obtain ⟨hrunning, hlate⟩ := h
  obtain ⟨hwaits, hany⟩ := Bool.and_eq_true_iff.mp hlate
  obtain ⟨sessions, hsessions, -⟩ := (Option.any_eq_true _ _).mp hany
  obtain ⟨hstage, hstopped⟩ := InputScene.busy_tick before.1.config port
    (before.2.board.samples.inPin1 port) (before.turn port) hwaits hsessions
  have hstart : (fresh config link).active port = false :=
    congrArg (fun socket => socket.handshake.active) (PerPort.get_const ({} : InputSocket) port)
  refine ⟨?_, ⟨sessions, hsessions, hstopped hlate⟩, ?_⟩
  · rw [(tick_of_running hrunning port).1, hstage, hlate, Bool.or_true, if_pos rfl]
  · rw [← active_iff hstart, acts_concat]
    rfl

/-- A first session on the first port is over at once and its answer is collected; then another command
is asked for, and nothing becomes of its session until the time is up. The port stays in colour mode. -/
theorem timed_out_session_answered_before :
    let config : DetectionConfig := { resetMs := 0, floatMs := 0, connectMs := 0, colorTimeoutMs := 10 }
    let start := fresh config (some ({} : ColorLink))
    let run : List (Act ColorLink) := List.replicate 8 .tick ++
      [.request .p1 0x0D, .tick, .tick, .world { link := some {} }, .tick,
        .request .p1 0x0E, .tick, .tick, .tick]
    (start.acts run).TimesOut .p1 ∧
      (((start.acts run).act .tick).1.inputs.get .p1).stage = .connectedWaitingForPin2High ∧
      (((start.acts run).act .tick).2.board.inputs.get .p1).handshake.active = true ∧
      start.AnsweredSince .p1 (run ++ [.tick]) := by
  intro config start run
  have htimesOut : (start.acts run).TimesOut .p1 := by decide +kernel
  obtain ⟨hstage, -, hactive⟩ := timed_out_session config (some ({} : ColorLink)) run htimesOut
  have hcolored : (((start.acts run).act .tick).2.board.inputs.get .p1).handshake.active = true := by
    decide +kernel
  exact ⟨htimesOut, hstage, hcolored, hactive.mp hcolored⟩

end Station

end PlugWatch
