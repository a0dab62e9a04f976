import PlugWatch.Proofs.Detection.Connect
import PlugWatch.Proofs.Detection.Undetected
/-!
# Output ports that are loaded

An output port with a device waits for its pin 5 to come into balance and its pin 6 to go high, and a
tick that finds the port loaded starts the count over. That tick counts all the same. So the load keeps a
device connected as long as the count has to get beyond one, and with a shorter limit the first tick
takes the device to be gone, loaded or not.

## Main Definitions

* `OutputView.loadedNow` : whether a tick would find the port loaded.
* `OutputView.Orderly` : what is so of an output port at any time.
* `OutputView.Keeps` : a device is connected, and a classification is published about it.

## Main Statements

* `OutputState.tick_of_loaded` : what a tick does to a port that it finds loaded.
* `OutputView.keeps_act` : under load, nothing but a switch of test mode ends a connection.
* `Detector.loaded_output_stays` : a loaded port stays connected exactly if the limit is longer than a
  tick.
-/

namespace PlugWatch

/-- A tick that finds the port loaded counts as the first one. -/
theorem OutputState.tick_of_loaded (config : DetectionConfig) (port : Port) (pin5 : UInt16)
    {state : OutputState} (hstage : state.stage = .connectedWaitingForPortOpen)
    (hloaded : state.loaded pin5 = true) :
    state.tick config port pin5 =
      (if config.releaseTicks ≤ 1 then
        { state with watch := { state.watch with timer := 1, connected := false, stage := .init } }
      else state.arrive .connectedWaitingForPortOpen 1).remember := by
  rw [tick_connectedWaitingForPortOpen config port pin5 hstage, hloaded, if_pos rfl]
  rfl

namespace OutputView

variable {port : Port} {view : OutputView}

/-- Whether a tick would find the port loaded: pin 5 is out of balance, or pin 6 is low. -/
def loadedNow (view : OutputView) : Bool := view.state.loaded view.pin5

/-! ## At any time -/

/-- What is so at any time: behind the first stage the gate is open, and the stage says what it says
about the rest of the port. -/
structure Orderly (view : OutputView) : Prop where
  running : view.state.stage ≠ .init → view.startup = .running
  consistent : view.state.Consistent

theorem orderly_act (h : view.Orderly) (act : Act) : (view.act port act).Orderly := by
  cases @acted port view act with
  | tick htick hopen =>
    subst htick
    rw [act_tick hopen]
    exact ⟨fun _ => hopen, OutputState.consistent_tick _ _ _ h.consistent⟩
  | rest hgate hwatch hverdict =>
    have hstage : (view.act port act).state.stage = view.state.stage :=
      congrArg OutputWatch.stage hwatch
    have hconnected : (view.act port act).state.connected = view.state.connected :=
      congrArg OutputWatch.connected hwatch
    refine ⟨fun hne => (hgate (h.running (hstage ▸ hne))).2, ?_, ?_⟩
    · rw [hstage, hconnected, hverdict]
      exact h.consistent.measuring
    · rw [hstage, hconnected, hverdict]
      exact h.consistent.identified
  | restart on hmode =>
    subst hmode
    exact ⟨fun hne => absurd rfl hne, .of_init rfl⟩

/-! ## Under load -/

/-- A device is connected, and a classification is published about it. -/
structure Keeps (verdict : Classification) (view : OutputView) : Prop where
  running : view.startup = .running
  stage_eq : view.state.stage = .connectedWaitingForPortOpen
  connected : view.state.connected = true
  verdict_eq : view.state.verdict = verdict

theorem Orderly.keeps (h : view.Orderly)
    (hstage : view.state.stage = .connectedWaitingForPortOpen) : view.Keeps view.state.verdict :=
  ⟨h.running (by rw [hstage]; nofun), hstage, (h.consistent.identified hstage).1, rfl⟩

variable {verdict : Classification}

/-- **Under load, nothing but a switch of test mode ends a connection**, if the limit is longer than a
tick. -/
theorem keeps_act (h : view.Keeps verdict) (hlimit : 1 < view.config.releaseTicks) {act : Act}
    (hmode : ∀ on, act ≠ .testMode on) (hloaded : act = .tick → view.loadedNow = true) :
    (view.act port act).Keeps verdict := by
  cases @acted port view act with
  | tick htick hopen =>
    rw [htick, act_tick hopen, OutputState.tick_of_loaded view.config port view.pin5 h.stage_eq
      (hloaded htick), if_neg (UInt16.not_le.mpr hlimit)]
    exact ⟨hopen, rfl, h.connected, h.verdict_eq⟩
  | rest hgate hwatch hverdict =>
    refine ⟨(hgate h.running).2, ?_, ?_, hverdict.trans h.verdict_eq⟩
    · exact (congrArg OutputWatch.stage hwatch).trans h.stage_eq
    · exact (congrArg OutputWatch.connected hwatch).trans h.connected
  | restart on heq => exact absurd heq (hmode on)

/-- With a limit of a tick or none, the tick ends the connection, loaded or not. -/
theorem init_of_loaded (h : view.Keeps verdict) (hlimit : view.config.releaseTicks ≤ 1)
    (hloaded : view.loadedNow = true) : (view.act port .tick).state.stage = .init := by
  rw [act_tick h.running, OutputState.tick_of_loaded view.config port view.pin5 h.stage_eq hloaded,
    if_pos hlimit]
  rfl

/-- What may have ended a connection. -/
theorem cause_of_init (h : view.Keeps verdict) {act : Act}
    (hinit : (view.act port act).state.stage = .init) :
    (∃ on, act = .testMode on) ∨
      (act = .tick ∧ (view.loadedNow = false ∨ view.config.releaseTicks ≤ 1)) := by
  cases @acted port view act with
  | restart on hmode => exact .inl ⟨on, hmode⟩
  | rest hgate hwatch hverdict =>
    have hstage := (congrArg OutputWatch.stage hwatch).trans h.stage_eq
    cases hinit.symm.trans hstage
  | tick htick hopen =>
    refine .inr ⟨htick, ?_⟩
    cases hloaded : view.loadedNow with
    | false => exact .inl rfl
    | true =>
      refine .inr (UInt16.not_lt.mp fun hlimit => ?_)
      have hstage := (@keeps_act port view verdict h hlimit act (by rw [htick]; nofun)
        fun _ => hloaded).stage_eq
      cases hinit.symm.trans hstage

end OutputView

namespace Detector

variable {start : Detector} {port : Port}

/-- What happens to a port leaves it orderly. -/
theorem orderly_acts (h : (start.outputView port).Orderly) (run : List Act) :
    ((start.acts run).outputView port).Orderly := by
  refine acts_preserves (P := fun state => (state.outputView port).Orderly) run ?_ h
  intro state h act _
  rw [outputView_act]
  exact OutputView.orderly_act h act

/-- Under load a connection lasts through any run without a switch of test mode. -/
theorem keeps_acts {verdict : Classification} {run : List Act}
    (h : (start.outputView port).Keeps verdict) (hlimit : 1 < start.1.config.releaseTicks)
    (hmode : ∀ on, .testMode on ∉ run)
    (hloaded : ∀ loaded ∈ start.atTicks (fun state => (state.outputView port).loadedNow) run,
      loaded = true) :
    ((start.acts run).outputView port).Keeps verdict := by
  induction run generalizing start with
  | nil => exact h
  | cons act rest ih =>
    rw [atTicks] at hloaded
    have hnow : act = .tick → (start.outputView port).loadedNow = true := by
      intro htick
      rw [if_pos htick] at hloaded
      exact hloaded _ List.mem_cons_self
    have hnext : ((start.act act).outputView port).Keeps verdict := by
      rw [outputView_act]
      exact OutputView.keeps_act h hlimit (fun on heq => hmode on (heq ▸ List.mem_cons_self)) hnow
    refine ih hnext (by rw [config_act]; exact hlimit)
      (fun on hmem => hmode on (List.mem_cons_of_mem _ hmem)) fun loaded hmem => hloaded loaded ?_
    split
    · exact List.mem_cons_of_mem _ hmem
    · exact hmem

/-- **A loaded output port stays connected, unless the limit is as short as a tick.** Take any
thresholds, a new manager with any board and sessions, and any history that leaves a device connected to
an output port.

* The connection ends with a switch of test mode, or in a tick that finds pin 5 in balance and pin 6
  high, or in any tick if the release limit is a tick or none.
* A tick that finds the port loaded ends it if the limit is that short, and else does not.
* If the limit is longer, the device stays connected and its classification unchanged through any run
  without a switch of test mode in which every tick finds the port loaded. -/
theorem loaded_output_stays (config : DetectionConfig) (shared : Shared ColorLink)
    (history : List Act) (port : Port) :
    let state := acts ({ config := config }, shared) history
    let view := state.outputView port
    view.state.stage = .connectedWaitingForPortOpen →
      (∀ act, ((state.act act).outputView port).state.stage = .init →
          (∃ on, act = .testMode on) ∨
            (act = .tick ∧ (view.loadedNow = false ∨ config.releaseTicks ≤ 1))) ∧
        (view.loadedNow = true →
          (((state.act .tick).outputView port).state.stage = .init ↔ config.releaseTicks ≤ 1)) ∧
        (1 < config.releaseTicks → ∀ run : List Act, (∀ on, .testMode on ∉ run) →
          (∀ loaded ∈ state.atTicks (fun state => (state.outputView port).loadedNow) run,
            loaded = true) →
          let after := ((state.acts run).outputView port).state
          after.stage = .connectedWaitingForPortOpen ∧ after.connected = true ∧
            after.verdict = view.state.verdict) := by
  intro state view hstage
  have hconfig : state.1.config = config := config_acts _ history
  have hinit := stage_outputView_new config shared port
  have hfresh : (Detector.outputView ({ config := config }, shared) port).Orderly :=
    ⟨fun hne => absurd hinit hne, .of_init hinit⟩
  have hkeeps : view.Keeps view.state.verdict := (orderly_acts hfresh history).keeps hstage
  have hlimit : view.config.releaseTicks = config.releaseTicks :=
    congrArg DetectionConfig.releaseTicks hconfig
  refine ⟨fun act hinit => ?_, fun hloaded => ⟨fun hinit => ?_, fun hshort => ?_⟩,
    fun hlong run hmode hloaded => ?_⟩
  · rw [outputView_act] at hinit
    exact hlimit ▸ OutputView.cause_of_init hkeeps hinit
  · rw [outputView_act] at hinit
    rcases OutputView.cause_of_init hkeeps hinit with ⟨on, heq⟩ | ⟨-, hunloaded | hshort⟩
    · cases heq
    · rw [hloaded] at hunloaded
      cases hunloaded
    · exact hlimit ▸ hshort
  · rw [outputView_act]
    exact OutputView.init_of_loaded hkeeps (hlimit ▸ hshort) hloaded
  · have hafter := keeps_acts hkeeps (hconfig ▸ hlong) hmode hloaded
    exact ⟨hafter.stage_eq, hafter.connected, hafter.verdict_eq⟩

/-- An actuator holds pin 5 of the first port below the balance band at every tick. With a limit of
10 ms the first tick behind the identification ends the connection, and with one of 20 ms none does. -/
theorem loaded_output_stays_short_limit :
    let short : DetectionConfig :=
      { resetMs := 0, floatMs := 0, connectMs := 0, lowMs := 0, releaseMs := 10 }
    let long : DetectionConfig := { short with releaseMs := 20 }
    let history := .sample (.outPin5 .p1) 1000 :: List.replicate 8 Act.tick
    let run := List.replicate 20 Act.tick
    let start (config : DetectionConfig) : Detector :=
      acts ({ config := config }, { link := none }) history
    (((start short).outputView .p1).state.stage = .connectedWaitingForPortOpen ∧
        ((start short).outputView .p1).loadedNow = true ∧
        (((start short).act .tick).outputView .p1).state.stage = .init) ∧
      ((start long).outputView .p1).state.stage = .connectedWaitingForPortOpen ∧
        (((start long).acts run).outputView .p1).state.stage = .connectedWaitingForPortOpen ∧
        (((start long).acts run).outputView .p1).state.verdict = ⟨.unknown, .outputDumb⟩ := by
  intro short long history run start
  have hshort : ((start short).outputView .p1).state.stage = .connectedWaitingForPortOpen ∧
      ((start short).outputView .p1).loadedNow = true := by
    decide +kernel
  have hlong : ((start long).outputView .p1).state.stage = .connectedWaitingForPortOpen ∧
      ((start long).outputView .p1).state.verdict = ⟨.unknown, .outputDumb⟩ ∧
      ∀ loaded ∈ (start long).atTicks (fun state => (state.outputView .p1).loadedNow) run,
        loaded = true := by
    decide +kernel
  obtain ⟨-, hends, -⟩ := loaded_output_stays short { link := none } history .p1 hshort.1
  obtain ⟨-, -, hlasts⟩ := loaded_output_stays long { link := none } history .p1 hlong.1
  obtain ⟨hstage, -, hverdict⟩ := hlasts (by decide) run (by simp [run]) hlong.2.2
  exact ⟨⟨hshort.1, hshort.2, (hends hshort.2).mpr (by decide)⟩, hlong.1, hstage,
    hverdict.trans hlong.2.1⟩

end Detector

end PlugWatch
