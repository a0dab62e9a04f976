import Mathlib.Data.List.Induction
import PlugWatch.Proofs.Detection.Undetected
/-!
# Settled ports and their verdicts

When the watch of an input port waits for its device to go, the port is connected and, as a rule,
something is published about it. There is one way around the rule: a colour command is taken by every
port that counts as connected, and in two situations a port counts as connected while nothing is
published about it, namely while a touch sensor is confirmed and after a switch to test mode. Such a
command leads through a colour session to a settled port without a verdict.

## Main Definitions

* `Stage.pending` : the stages in which a verdict may be outstanding.
* `Stage.blind` : the stages behind a command that was taken without a verdict.
* `Controller.PassesInit` : the detection of a port is about to start over.
* `Controller.AskedBlindly` : a colour command was taken while nothing was published.

## Main Statements

* `PortState.blind_event`, `PortState.pending_event` : what one step does to a port without a verdict.
* `Controller.settled_verdict_steps` : what a run does to it.
* `Controller.settled_without_verdict_iff` : a settled port has no verdict exactly when a command was
  taken without one.
-/

namespace PlugWatch

namespace Stage

/-- Whether a verdict may be outstanding because the detection is not through yet. -/
def pending (stage : Stage) : Bool := stage.undetected || stage = nxtTouchCheck || stage = init

/-- Whether a port can get to a stage from a colour command without being identified. -/
def blind (stage : Stage) : Bool :=
  stage.inColorSession || stage = connectedWaitingForPin2High || stage = init

theorem pending_of_undetected {stage : Stage} (h : stage.undetected = true) :
    stage.pending = true := by
  rw [pending, h]
  rfl

theorem blind_of_inColorSession {stage : Stage} (h : stage.inColorSession = true) :
    stage.blind = true := by
  rw [blind, h]
  rfl

theorem not_blind_of_undetected {stage : Stage} (h : stage.undetected = true) :
    stage.blind = false := by
  cases stage <;> first | rfl | cases h

theorem not_settled_of_pending {stage : Stage} (h : stage.pending = true) :
    stage.settled = false := by
  cases stage <;> first | rfl | cases h

/-- Of the stages in which a verdict may be outstanding, the confirmation of a touch sensor is the only
one in which a device has been found. -/
theorem eq_nxtTouchCheck_of_pending {stage : Stage} (hpending : stage.pending = true)
    (hengaged : stage.engaged = true) : stage = nxtTouchCheck := by
  cases stage <;> first | rfl | exact absurd hpending (by decide) | exact absurd hengaged (by decide)

end Stage

namespace PortState

variable {α : Type} {c : Controller α} {port : Port} {step : Step α} {before after : PortState}

/-- A port without a verdict that follows a colour command stays without one until its detection
starts over. -/
theorem blind_event (event : Event c port step before after) (hon : before.enabled = true)
    (hpass : step = .manage → c.manager.isRunning = true → before.stage ≠ .init)
    (hverdict : before.verdict = .none) (hblind : before.stage.blind = true) :
    after.verdict = .none ∧ after.stage.blind = true := by
  have hdetected : before.stage.undetected ≠ true := by
    intro h
    rw [Stage.not_blind_of_undetected h] at hblind
    cases hblind
  cases event with
  | rest hsame => exact ⟨hsame.verdict.trans hverdict, hsame.stage ▸ hblind⟩
  | tick hstep hrunning hafter =>
    have hprogress := progress_tick c.manager.config port (c.board.samples.inPin1 port) hon
    rw [← hafter] at hprogress
    cases hprogress with
    | restart hbefore => exact absurd hbefore (hpass hstep hrunning)
    | search hbefore => exact absurd (Stage.undetected_of_searching hbefore) hdetected
    | identify hbefore => exact absurd (Stage.undetected_of_probing hbefore) hdetected
    | suspect hbefore => exact absurd hblind (by rw [hbefore]; decide)
    | confirm hbefore => exact absurd hblind (by rw [hbefore]; decide)
    | stay hbefore hafter hconnected hkept =>
      refine ⟨hkept.trans hverdict, ?_⟩
      rcases hafter with hafter | ⟨-, hafter | hafter⟩
      · rw [hafter, hblind]
      · exact Stage.blind_of_inColorSession hafter
      · rw [hafter]
        rfl
    | disconnect hbefore hafter hconnected hkept =>
      exact ⟨hkept.trans hverdict, by rw [hafter]; rfl⟩
    | resume hbefore hafter hconnected hkept =>
      exact ⟨hkept.trans hverdict, by rw [hafter]; rfl⟩
  | enable on hstep hafter =>
    rw [hafter]
    exact ⟨hverdict, hblind⟩
  | force classification hstep hoff =>
    rw [hon] at hoff
    cases hoff
  | command command hstep hconnected hafter =>
    rw [hafter]
    exact ⟨hverdict, rfl⟩
  | restart on hstep hafter =>
    rw [hafter]
    cases on with
    | true => exact ⟨rfl, rfl⟩
    | false => exact ⟨hverdict, rfl⟩

/-- A verdict is outstanding only while the detection is not through, unless a colour command is taken
without one. -/
theorem pending_event (event : Event c port step before after) (hon : before.enabled = true)
    (hpass : step = .manage → c.manager.isRunning = true → before.stage ≠ .init)
    (hasked : ∀ command, step = .request port command → before.connected = true →
      before.verdict ≠ .none)
    (hpending : before.verdict = .none → before.stage.pending = true)
    (hnone : after.verdict = .none) : after.stage.pending = true := by
  cases event with
  | rest hsame =>
    rw [hsame.stage]
    exact hpending (hsame.verdict.symm.trans hnone)
  | tick hstep hrunning hafter =>
    have hprogress := progress_tick c.manager.config port (c.board.samples.inPin1 port) hon
    rw [← hafter] at hprogress
    cases hprogress with
    | restart hbefore => exact absurd hbefore (hpass hstep hrunning)
    | search hbefore hafter =>
      rcases hafter with hafter | hafter
      · exact Stage.pending_of_undetected hafter
      · rw [hafter]
        rfl
    | identify hbefore hafter hconnected hverdict => exact absurd hnone hverdict
    | suspect hbefore hafter =>
      rw [hafter]
      rfl
    | confirm hbefore hafter hconnected hverdict => exact absurd hnone hverdict
    | stay hbefore hafter hconnected hkept =>
      -- the only way to have found a device without a verdict is to confirm a touch sensor
      have hcheck : before.stage = .nxtTouchCheck :=
        Stage.eq_nxtTouchCheck_of_pending (hpending (hkept.symm.trans hnone)) hbefore
      rcases hafter with hafter | ⟨hcolor, -⟩
      · rw [hafter, hcheck]
        rfl
      · rw [hcheck] at hcolor
        cases hcolor
    | disconnect hbefore hafter =>
      rw [hafter]
      rfl
    | resume hbefore hafter =>
      rw [hafter]
      rfl
  | enable on hstep hafter =>
    rw [hafter] at hnone ⊢
    exact hpending hnone
  | force classification hstep hoff =>
    rw [hon] at hoff
    cases hoff
  | command command hstep hconnected hafter =>
    rw [hafter] at hnone
    exact absurd hnone (hasked command hstep hconnected)
  | restart on hstep hafter =>
    rw [hafter]
    rfl

end PortState

namespace Controller

variable {α ε : Type}

/-- The detection of a port is about to start over: the gate is open, and the watch of the port is
switched on and at its first stage. -/
def PassesInit (c : Controller α) (port : Port) : Prop :=
  c.manager.isRunning = true ∧ (c.portState port).enabled = true ∧
    (c.portState port).stage = .init

instance (c : Controller α) (port : Port) : Decidable (c.PassesInit port) :=
  inferInstanceAs (Decidable (_ ∧ _ ∧ _))

variable [Converter α ε]

/-- In a run, the port took a colour command while nothing was published about it. -/
def AskedBlindly (c : Controller α) (port : Port) (run : List (Step α)) : Prop :=
  ∃ asked command rest, run = asked ++ .request port command :: rest ∧
    ((c.steps asked).portState port).connected = true ∧
    ((c.steps asked).portState port).verdict = .none

theorem not_askedBlindly_nil (c : Controller α) (port : Port) : ¬c.AskedBlindly port [] := by
  rintro ⟨asked, command, rest, heq, -⟩
  exact absurd heq.symm (by simp)

/-- What was asked in a longer run was asked before, or in the last step. -/
theorem askedBlindly_concat (c : Controller α) (port : Port) (run : List (Step α))
    (step : Step α) :
    c.AskedBlindly port (run ++ [step]) ↔ c.AskedBlindly port run ∨
      ((∃ command, step = .request port command) ∧
        ((c.steps run).portState port).connected = true ∧
        ((c.steps run).portState port).verdict = .none) := by
  constructor
  · rintro ⟨asked, command, rest, heq, hconnected, hverdict⟩
    rcases List.eq_nil_or_concat rest with rfl | ⟨earlier, last, rfl⟩
    · obtain ⟨rfl, hlast⟩ := List.append_inj' heq rfl
      exact .inr ⟨⟨command, List.head_eq_of_cons_eq hlast⟩, hconnected, hverdict⟩
    · have heq' : run ++ [step] = (asked ++ .request port command :: earlier) ++ [last] := by
        rw [heq, List.append_assoc]
        simp
      obtain ⟨rfl, -⟩ := List.append_inj' heq' rfl
      exact .inl ⟨asked, command, earlier, rfl, hconnected, hverdict⟩
  · rintro (⟨asked, command, rest, rfl, hconnected, hverdict⟩ |
      ⟨⟨command, rfl⟩, hconnected, hverdict⟩)
    · exact ⟨asked, command, rest ++ [step], by simp, hconnected, hverdict⟩
    · exact ⟨run, command, [], rfl, hconnected, hverdict⟩

/-- Behind a start of the detection, a port without a verdict has taken a command without one, or its
detection is not through. -/
theorem settled_verdict_steps {c : Controller α} {port : Port} (run : List (Step α))
    (hstart : (c.portState port).verdict = .none → (c.portState port).stage.pending = true)
    (hon : ∀ before, before <+: run → ((c.steps before).portState port).enabled = true)
    (hlast : ∀ before, before ++ [.manage] <+: run → ¬(c.steps before).PassesInit port) :
    (c.AskedBlindly port run → ((c.steps run).portState port).verdict = .none ∧
        ((c.steps run).portState port).stage.blind = true) ∧
      (¬c.AskedBlindly port run → ((c.steps run).portState port).verdict = .none →
        ((c.steps run).portState port).stage.pending = true) := by
  induction run using List.reverseRecOn with
  | nil => exact ⟨fun h => absurd h (not_askedBlindly_nil c port), fun _ => hstart⟩
  | append_singleton run step ih =>
    obtain ⟨hblind, hpending⟩ :=
      ih (fun before hbefore => hon before (hbefore.trans (List.prefix_append _ _)))
        (fun before hbefore => hlast before (hbefore.trans (List.prefix_append _ _)))
    have hon' := hon run (List.prefix_append _ _)
    have hpass : step = .manage → (c.steps run).manager.isRunning = true →
        ((c.steps run).portState port).stage ≠ .init := by
      rintro rfl hrunning hinit
      exact hlast run (List.prefix_refl _) ⟨hrunning, hon', hinit⟩
    have hevent := (c.steps run).event_step step port
    rw [steps_append, steps_cons, steps_nil, askedBlindly_concat]
    refine ⟨?_, fun hasked => ?_⟩
    · rintro (hasked | ⟨⟨command, rfl⟩, hconnected, hverdict⟩)
      · obtain ⟨hverdict, hstage⟩ := hblind hasked
        exact PortState.blind_event hevent hon' hpass hverdict hstage
      · -- the command is taken, and leads to a colour session
        rw [Controller.step, portState_requestCommand, if_pos ⟨rfl, hconnected⟩]
        exact ⟨hverdict, rfl⟩
    · rw [not_or] at hasked
      refine PortState.pending_event hevent hon' hpass ?_ (hpending hasked.1)
      intro command hstep hconnected hverdict
      exact hasked.2 ⟨⟨command, hstep⟩, hconnected, hverdict⟩

/-- **When a settled port has no verdict.** Take a reachable controller in which the detection of an
input port is about to start over, and any run from there during which it stays on and does not start
over again. If in the end the watch waits for the device to go, the port is connected. It has a verdict,
unless in the run it took a colour command while nothing was published about it: then it has none. -/
theorem settled_without_verdict_iff {c : Controller α} (h : c.Reachable) {port : Port}
    (hpass : c.PassesInit port) {run : List (Step α)}
    (hon : ∀ before, before <+: run →
      (((c.step .manage).steps before).portState port).enabled = true)
    (hlast : ∀ before, before ++ [.manage] <+: run →
      ¬((c.step .manage).steps before).PassesInit port)
    (hsettled : (((c.step .manage).steps run).portState port).stage.settled = true) :
    (((c.step .manage).steps run).portState port).connected = true ∧
      ((((c.step .manage).steps run).portState port).verdict = .none ↔
        (c.step .manage).AskedBlindly port run) := by
  have hstart : ((c.step .manage).portState port).stage.pending = true := by
    obtain ⟨hrunning, henabled, hinit⟩ := hpass
    rw [Controller.step, portState_managerTick, if_pos hrunning,
      ((PortState.progress_tick _ _ _ henabled).of_init hinit).1]
    rfl
  obtain ⟨hblind, hpending⟩ :=
    settled_verdict_steps run (fun _ => hstart) hon hlast
  refine ⟨?_, fun hnone => ?_, fun hasked => (hblind hasked).1⟩
  · exact (((h.step .manage).steps run).consistent port).engaged
      (Stage.engaged_of_settled hsettled)
  · by_contra hasked
    rw [Stage.not_settled_of_pending (hpending hasked hnone)] at hsettled
    cases hsettled

/-- A settled port without a verdict. The first port is connected, and test mode is switched on and
off; the port still counts as connected, takes a colour command, and without a link is settled in the
tick behind it. -/
theorem settled_without_verdict_iff_test_mode :
    ∃ fresh : Controller Multiplexer,
      Controller.new {} {} {
        detection := { resetMs := 0, floatMs := 0, connectMs := 0, legacyColor := false } }
          = .ok fresh ∧
      let c := fresh.steps (List.replicate 3 .manage)
      let run := List.replicate 4 .manage ++ [.testMode true, .testMode false, .request .p1 0x0D] ++
        List.replicate 4 .manage
      c.PassesInit .p1 ∧
        (∀ before, before <+: run →
          (((c.step .manage).steps before).portState .p1).enabled = true) ∧
        (∀ before, before ++ [.manage] <+: run →
          ¬((c.step .manage).steps before).PassesInit .p1) ∧
        (((c.step .manage).steps run).portState .p1).stage.settled = true ∧
        (((c.step .manage).steps run).portState .p1).connected = true ∧
        (((c.step .manage).steps run).portState .p1).verdict = .none := by
  refine ⟨_, rfl, ?_⟩
  intro c run
  have hnew : Controller.new ({} : Multiplexer) {} {
      detection := { resetMs := 0, floatMs := 0, connectMs := 0, legacyColor := false } }
        = .ok _ := rfl
  have hreachable : c.Reachable := (Reachable.new hnew).steps _
  have hpass : c.PassesInit .p1 := by decide +kernel
  have hon : ∀ before, before <+: run →
      (((c.step .manage).steps before).portState .p1).enabled = true := by
    intro before hbefore
    refine (enabled_steps fun on hmem => ?_).trans rfl
    have hrun := hbefore.subset hmem
    simp [run] at hrun
  have hlast : ∀ before, before ++ [.manage] <+: run →
      ¬((c.step .manage).steps before).PassesInit .p1 := by
    have hnever : ∀ n ∈ List.range 12,
        ¬((c.step .manage).steps (run.take n)).PassesInit .p1 := by decide +kernel
    intro before hbefore
    have htake := List.prefix_iff_eq_take.mp ((List.prefix_append before _).trans hbefore)
    rw [htake]
    refine hnever before.length (List.mem_range.mpr ?_)
    have hlength := hbefore.length_le
    simp only [List.length_append, run, List.length_replicate,
      List.length_cons, List.length_nil] at hlength
    omega
  have hsettled : (((c.step .manage).steps run).portState .p1).stage.settled = true := by
    decide +kernel
  obtain ⟨hconnected, hnone⟩ := settled_without_verdict_iff hreachable hpass hon hlast hsettled
  refine ⟨hpass, hon, hlast, hsettled, hconnected, hnone.mpr ?_⟩
  refine ⟨List.replicate 4 .manage ++ [.testMode true, .testMode false], 0x0D,
    List.replicate 4 .manage, rfl, ?_⟩
  decide +kernel

end Controller

end PlugWatch
