import PlugWatch.Proofs.Detection.InputTick
import PlugWatch.Proofs.Detection.PortEvent
/-!
# Starting over behind a switch of test mode

A switch of test mode, on or off, sets the watch of every port back to the first stage, and no watch
ticks until the gate of the manager has opened again. But a port that counted as connected goes on
counting as connected, and a colour command is taken by every such port. So a command that comes while
the gate is closed takes the port out of the first stage before the watch has made a step there, and
the port goes on as the connected port that it was.

## Main Definitions

* `Step.asked` : whether a colour command was asked for on a port behind the last switch of test mode.
* `PortState.Restarted` : a port between a switch of test mode and the first tick of its watch.
* `PortState.StartedOver` : a port whose detection has just begun.

## Main Statements

* `Controller.restarted_step`, `Controller.restarted_steps` : until the watch ticks, the port is in the
  first stage, or in the first stage of a colour session if it is connected and was asked.
* `Controller.starts_over_unless_asked` : which ports start over behind a switch of test mode.
-/

namespace PlugWatch

namespace Step

variable {α : Type}

/-- Whether a colour command has been asked for on a port since test mode was switched, after a
step. -/
def asksAfter (port : Port) (asked : Bool) : Step α → Bool
  | .request other _ => asked || other = port
  | .testMode _ => false
  | _ => asked

/-- Whether a run asks for a colour command on a port behind its last switch of test mode. -/
def asked (port : Port) (run : List (Step α)) : Bool := run.foldl (asksAfter port) false

end Step

namespace PortState

variable {before after : PortState} {connected asked : Bool}

/-- A port between a switch of test mode and the first tick of its watch. It still counts as connected
if it did before the switch, and it is in the first stage, or in the first stage of a colour session if
it has taken a command since then. -/
structure Restarted (connected asked : Bool) (state : PortState) : Prop where
  connected_eq : state.connected = connected
  stage : state.stage = if connected && asked then .nxtColorInit else .init

/-- A port whose detection has just begun: it is watched from the start, nothing is connected or
published, and it has neither colour mode nor a session. -/
structure StartedOver (state : PortState) : Prop where
  stage : state.stage = .floatingDelay
  connected : state.connected = false
  verdict : state.verdict = .none
  active : state.handshake.active = false
  session : ∀ session ∈ state.session, session.inUse = false

theorem Restarted.of_watch (h : before.Restarted connected asked)
    (hconnected : after.connected = before.connected) (hstage : after.stage = before.stage) :
    after.Restarted connected asked :=
  ⟨hconnected.trans h.connected_eq, hstage.trans h.stage⟩

/-- A switch of test mode forgets what was asked before, and nothing else of this. -/
theorem restarted_reset (state : PortState) (socket : InputSocket) :
    ({ state with watch := state.watch.reset, socket := socket } : PortState).Restarted
      state.connected false := by
  refine ⟨rfl, ?_⟩
  rw [Bool.and_false]
  rfl

theorem startedOver_tick {config : DetectionConfig} {port : Port} {pin1 : UInt16}
    {state : PortState} (hon : state.enabled = true) (hstage : state.stage = .init) :
    (state.tick config port pin1).StartedOver := by
  rw [tick_init config port pin1 hon hstage]
  exact ⟨rfl, rfl, rfl, rfl, fun session hmem => not_inUse_of_mem_stop hmem⟩

end PortState

namespace Controller

variable {α ε : Type} [Converter α ε] {c : Controller α} {port : Port} {connected asked : Bool}

/-- While its watch does not tick, a port moves only as it is asked and as test mode is switched. -/
theorem restarted_step (h : (c.portState port).Restarted connected asked) {step : Step α}
    (hclosed : step = .manage → c.manager.isRunning = false) :
    ((c.step step).portState port).Restarted connected (step.asksAfter port asked) := by
  have hother : (∀ on, step ≠ .testMode on) → (∀ other command, step ≠ .request other command) →
      ((c.step step).portState port).Restarted connected asked := by
    intro hmode hrequest
    cases c.event_step step port with
    | rest hsame => exact h.of_watch hsame.connected hsame.stage
    | tick hstep hrunning =>
      rw [hclosed hstep] at hrunning
      cases hrunning
    | enable on hstep hafter => exact h.of_watch (by rw [hafter]; rfl) (by rw [hafter]; rfl)
    | force classification hstep hoff hconnected hafter =>
      exact h.of_watch (by rw [hafter]; rfl) (by rw [hafter]; rfl)
    | command command hstep => exact absurd hstep (hrequest port command)
    | restart on hstep => exact absurd hstep (hmode on)
  cases step with
  | request other command =>
    rw [Controller.step, portState_requestCommand]
    split
    · rename_i htaken
      obtain ⟨rfl, hconnected⟩ := htaken
      refine ⟨h.connected_eq, ?_⟩
      obtain rfl : true = connected := hconnected.symm.trans h.connected_eq
      simp only [Step.asksAfter, decide_true, Bool.or_true, Bool.and_true, if_true]
      rfl
    · rename_i hleft
      refine ⟨h.connected_eq, h.stage.trans ?_⟩
      by_cases hport : other = port
      · -- a port that does not take the command is not connected
        subst hport
        have hconnected : connected = false := by
          rw [← h.connected_eq]
          exact Bool.eq_false_iff.mpr fun hset => hleft ⟨rfl, hset⟩
        rw [hconnected, Bool.false_and, Bool.false_and]
      · rw [Step.asksAfter, decide_eq_false hport, Bool.or_false]
  | testMode on =>
    rw [Controller.step, portState_setTestMode]
    have hreset := PortState.restarted_reset (c.portState port)
      (if on then
        { (c.portState port).socket with
          lines := (c.portState port).lines.release, verdict := .none }
      else (c.portState port).socket)
    rw [h.connected_eq] at hreset
    exact hreset
  | _ => exact hother (by simp) (by simp)

theorem restarted_steps {run : List (Step α)} (h : (c.portState port).Restarted connected asked)
    (hclosed : ∀ before, before ++ [.manage] <+: run → (c.steps before).manager.isRunning = false) :
    ((c.steps run).portState port).Restarted connected (run.foldl (Step.asksAfter port) asked) := by
  induction run generalizing c asked with
  | nil => exact h
  | cons step rest ih =>
    have hfirst : step = .manage → c.manager.isRunning = false := by
      rintro rfl
      exact hclosed [] (by simp)
    refine ih (restarted_step h hfirst) ?_
    intro before hbefore
    exact hclosed (step :: before) ((List.prefix_cons_inj step).mpr hbefore)

/-- **Which ports start over behind a switch of test mode.** Switch test mode on or off in any
controller, let anything happen until the watches tick again, and take an input port whose detection is
on then.

* A port that did not count as connected at the switch, or on which no colour command was asked for
  since the last switch, is in the first stage. The tick starts its detection over.
* A port that counted as connected and was asked has left the first stage before the watch ticked. The
  tick goes on with the colour command instead: the port stays connected and keeps its verdict. -/
theorem starts_over_unless_asked (c : Controller α) (on : Bool) {run : List (Step α)} {port : Port}
    (hclosed : ∀ before, before ++ [.manage] <+: run →
      ((c.step (.testMode on)).steps before).manager.isRunning = false)
    (hopen : ((c.step (.testMode on)).steps run).manager.isRunning = true)
    (hon : (((c.step (.testMode on)).steps run).portState port).enabled = true) :
    let now := ((c.step (.testMode on)).steps run).portState port
    let after := (((c.step (.testMode on)).steps run).step .manage).portState port
    ((c.portState port).connected = false ∨ Step.asked port run = false →
        now.stage = .init ∧ after.StartedOver) ∧
      ((c.portState port).connected = true → Step.asked port run = true →
        now.stage = .nxtColorInit ∧ ¬after.StartedOver ∧
          after.connected = true ∧ after.verdict = now.verdict) := by
  intro now after
  have hswitched : ((c.step (.testMode on)).portState port).Restarted
      (c.portState port).connected false := by
    rw [Controller.step, portState_setTestMode]
    exact PortState.restarted_reset _ _
  have hnow : now.Restarted (c.portState port).connected (Step.asked port run) :=
    restarted_steps hswitched hclosed
  have htick : after = now.tick ((c.step (.testMode on)).steps run).manager.config port
      (((c.step (.testMode on)).steps run).board.samples.inPin1 port) := by
    show (((c.step (.testMode on)).steps run).step .manage).portState port = _
    rw [Controller.step, portState_managerTick, if_pos hopen]
  refine ⟨fun hleft => ?_, fun hconnected hasked => ?_⟩
  · have hstage : now.stage = .init := by
      rw [hnow.stage, if_neg]
      rcases hleft with hleft | hleft <;> simp [hleft]
    rw [htick]
    exact ⟨hstage, PortState.startedOver_tick hon hstage⟩
  · have hstage : now.stage = .nxtColorInit := by
      rw [hnow.stage, hconnected, hasked]
      rfl
    have hafter := PortState.tick_nxtColorInit
      ((c.step (.testMode on)).steps run).manager.config port
      (((c.step (.testMode on)).steps run).board.samples.inPin1 port) hon hstage
    rw [← htick] at hafter
    have hgone : after.stage =
        if now.session.isSome then .nxtColorWait else .connectedWaitingForPin2High := by
      rw [hafter]
      rfl
    refine ⟨hstage, fun hover => ?_, ?_, by rw [hafter]; rfl⟩
    · have hdelay := hgone.symm.trans hover.stage
      split at hdelay <;> cases hdelay
    · rw [hafter]
      exact hnow.connected_eq.trans hconnected

/-- Two ports are connected when test mode is switched off. On the first one a colour command is asked
for in the hold-off, so that port goes on with the command; the second one starts over. -/
theorem starts_over_unless_asked_in_the_hold_off :
    ∃ fresh : Controller Multiplexer,
      Controller.new {} {} { detection := { resetMs := 0, floatMs := 0, connectMs := 0 } }
          = .ok fresh ∧
        let c := fresh.steps (List.replicate 8 .manage)
        let run := [.manage, .request .p1 0x0D, .manage, .manage]
        let now := (c.step (.testMode false)).steps run
        (∀ before, before ++ [.manage] <+: run →
            ((c.step (.testMode false)).steps before).manager.isRunning = false) ∧
          now.manager.isRunning = true ∧
          ((c.portState .p1).connected = true ∧ (c.portState .p2).connected = true) ∧
          ((now.step .manage).portState .p1).connected = true ∧
          ¬((now.step .manage).portState .p1).StartedOver ∧
          ((now.step .manage).portState .p2).StartedOver := by
  refine ⟨_, rfl, ?_⟩
  intro c run now
  have hclosed : ∀ before, before ++ [.manage] <+: run →
      ((c.step (.testMode false)).steps before).manager.isRunning = false := by
    have hnever : ∀ n ∈ List.range 4,
        ((c.step (.testMode false)).steps (run.take n)).manager.isRunning = false := by
      decide +kernel
    intro before hbefore
    have htake := List.prefix_iff_eq_take.mp ((List.prefix_append before _).trans hbefore)
    rw [htake]
    refine hnever before.length (List.mem_range.mpr ?_)
    have hlength := hbefore.length_le
    simp only [List.length_append, run, List.length_cons, List.length_nil] at hlength
    omega
  have hopen : now.manager.isRunning = true := by decide +kernel
  have hconnected : (c.portState .p1).connected = true ∧ (c.portState .p2).connected = true := by
    decide +kernel
  have hon : (now.portState .p1).enabled = true ∧ (now.portState .p2).enabled = true := by
    decide +kernel
  have hasked : Step.asked .p1 run = true ∧ Step.asked .p2 run = false := by decide
  obtain ⟨-, hgone, hkept, -⟩ :=
    (starts_over_unless_asked c false hclosed hopen hon.1).2 hconnected.1 hasked.1
  obtain ⟨-, hover⟩ := (starts_over_unless_asked c false hclosed hopen hon.2).1 (.inr hasked.2)
  exact ⟨hclosed, hopen, hconnected, hkept, hgone, hover⟩

end Controller

end PlugWatch
