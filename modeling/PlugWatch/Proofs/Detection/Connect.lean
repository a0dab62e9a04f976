import Mathlib.Data.List.Induction
import PlugWatch.Proofs.Detection.Debounce
import PlugWatch.Proofs.Detection.Detector
/-!
# When a plug counts

A port waits for a plug in one stage, and may do so as often as one likes, each time for as long as one
likes, while the conditions on its pins come and go. Each such stay begins with nothing seen, so what
the port goes by is the history of the stay and nothing older. It ends in the first tick in which the
last sets seen are steady, and that set is what the port is identified by.

## Main Definitions

* `Detector.atTicks` : what is seen at the ticks of a run.
* `Detector.Stay` : a run throughout which something is so that was not so before.
* `Lookout.Event` : what an act can do to a port that is released behind it, on either side.
* `Lookout.Debouncing` : a port in the middle of a stay, with its history.
* `Detector.InputGoesBy`, `Detector.OutputGoesBy` : what a port acts on once the stay is over.

## Main Statements

* `Detector.stay_induction` : what every act of a run keeps, together with the history, the run keeps.
* `Detector.exists_stay` : what is so at the end of a run came with one act and has been so since.
* `InputView.event_act`, `OutputView.event_act` : every act is such an event.
* `Lookout.Debouncing.event` : an act during the stay adds to the history what it sees.
* `Detector.connect_debounce_exact` : the debounce is exact on either side.
-/

namespace PlugWatch

/-! ## Runs -/

namespace Detector

/-- What is seen at the ticks of a run, just before each of them. -/
def atTicks {β : Type} (look : Detector → β) (state : Detector) : List Act → List β
  | [] => []
  | act :: rest =>
    if act = .tick then look state :: atTicks look (state.act act) rest
    else atTicks look (state.act act) rest

/-- Something is so after every part of a run. -/
def Throughout (there : Detector → Prop) (start : Detector) (run : List Act) : Prop :=
  ∀ before, before <+: run → there (start.acts before)

/-- A run throughout which something is so that was not so in front of the act it begins with. -/
structure Stay (there : Detector → Prop) (start : Detector) (entry : Act) (run : List Act) :
    Prop where
  arrives : ¬there start
  stays : (start.act entry).Throughout there run

instance {there : Detector → Prop} [DecidablePred there] {start : Detector} {run : List Act} :
    Decidable (start.Throughout there run) :=
  decidable_of_iff (∀ n ≤ run.length, there (start.acts (run.take n)))
    ⟨fun h before hbefore => List.prefix_iff_eq_take.mp hbefore ▸
        h before.length hbefore.length_le,
      fun h n _ => h (run.take n) (List.take_prefix n run)⟩

instance {there : Detector → Prop} [DecidablePred there] {start : Detector} {entry : Act}
    {run : List Act} : Decidable (start.Stay there entry run) :=
  decidable_of_iff (¬there start ∧ (start.act entry).Throughout there run)
    ⟨fun h => ⟨h.1, h.2⟩, fun h => ⟨h.arrives, h.stays⟩⟩

section Runs

variable {β : Type} {look : Detector → β} {there : Detector → Prop} {start : Detector}

theorem atTicks_append (state : Detector) (before after : List Act) :
    state.atTicks look (before ++ after) =
      state.atTicks look before ++ (state.acts before).atTicks look after := by
  induction before generalizing state with
  | nil => rfl
  | cons act rest ih =>
    rw [List.cons_append, atTicks, atTicks, ih]
    split <;> rfl

theorem Throughout.nil (h : there start) : start.Throughout there [] := by
  intro before hbefore
  rw [List.prefix_nil.mp hbefore]
  exact h

theorem Throughout.head {act : Act} {rest : List Act} (h : start.Throughout there (act :: rest)) :
    there (start.act act) := h [act] ⟨rest, rfl⟩

theorem Throughout.tail {act : Act} {rest : List Act} (h : start.Throughout there (act :: rest)) :
    (start.act act).Throughout there rest :=
  fun before hbefore => h (act :: before) ((List.prefix_cons_inj act).mpr hbefore)

/-- What every act of a run keeps, together with what has been seen so far, the run keeps. An act may
use that it leads to where the run stays. -/
theorem stay_induction {P : List β → Detector → Prop}
    (hact : ∀ {seen state} act, P seen state → there (state.act act) →
      P (seen ++ state.atTicks look [act]) (state.act act))
    {run : List Act} (hstays : start.Throughout there run) {seen : List β} (h : P seen start) :
    P (seen ++ start.atTicks look run) (start.acts run) := by
  induction run generalizing start seen with
  | nil => rwa [show start.atTicks look [] = [] from rfl, List.append_nil]
  | cons act rest ih =>
    have hnext := ih hstays.tail (hact act h hstays.head)
    rw [List.append_assoc] at hnext
    exact (atTicks_append start [act] rest) ▸ hnext

theorem Throughout.concat {run : List Act} {last : Act} (h : start.Throughout there run)
    (hlast : there (start.acts (run ++ [last]))) : start.Throughout there (run ++ [last]) := by
  intro before hbefore
  rcases List.prefix_concat_iff.mp hbefore with rfl | hprefix
  · exact hlast
  · exact h before hprefix

/-- What is so at the end of a run and was not so at its start came with one act of the run, and has
been so since. -/
theorem exists_stay {run : List Act} (hstart : ¬there start) (hend : there (start.acts run)) :
    ∃ before entry stay, run = before ++ entry :: stay ∧
      (start.acts before).Stay there entry stay := by
  induction run using List.reverseRecOn with
  | nil => exact absurd hend hstart
  | append_singleton run last ih =>
    by_cases hthere : there (start.acts run)
    · obtain ⟨before, entry, stay, rfl, hstay⟩ := ih hthere
      refine ⟨before, entry, stay ++ [last], by simp, hstay.arrives, hstay.stays.concat ?_⟩
      rwa [List.append_assoc, acts_append] at hend
    · rw [acts_append] at hend
      exact ⟨run, last, [], rfl, hthere, .nil hend⟩

end Runs

end Detector

/-! ## The wait for a plug behind the gate -/

namespace Lookout

/-- What an act can do to a port that is released behind it: it ticks behind an open gate, or it keeps
all that the wait for a plug goes by. In the second case an open gate stays open, and the act is no
tick. -/
inductive Event (ticks : UInt16) (now : Conditions) (act : Act) (gate gate' : Startup)
    (before after : Lookout) : Prop where
  | tick (htick : act = .tick) (hopen : gate = .running) (hopen' : gate' = .running)
      (hticked : Ticked ticks now before after)
  | rest (hgate : gate = .running → act ≠ .tick ∧ gate' = .running) (hsame : after = before)

/-- What is so at any time: a port is released behind an open gate only, and while its pins settle
nothing has been seen. -/
structure Searching (gate : Startup) (lookout : Lookout) : Prop where
  running : lookout.stage.released = true → gate = .running
  unseen : lookout.stage = .floatingDelay → lookout.conditions = .none

/-- A port that waits for a plug, with the history of what it has seen since it began to. -/
structure Debouncing (ticks : UInt16) (seen : List Conditions) (gate : Startup) (lookout : Lookout) :
    Prop where
  running : gate = .running
  waits : lookout.stage = .floating
  counting : Counting (span ticks) seen lookout.conditions lookout.timer

variable {ticks : UInt16} {now : Conditions} {act : Act} {gate gate' : Startup}
  {before after : Lookout} {seen : List Conditions}

/-- An act that does not release the port says nothing, and every other one is an event. -/
theorem Searching.event (h : Searching gate before)
    (hevent : after.stage.released = true → Event ticks now act gate gate' before after) :
    Searching gate' after := by
  refine ⟨fun hreleased => ?_, fun hstage => ?_⟩
  · cases hevent hreleased with
    | tick htick hopen hopen' hticked => exact hopen'
    | rest hgate hsame =>
      subst hsame
      exact (hgate (h.running hreleased)).2
  · cases hevent (by rw [hstage]; rfl) with
    | tick htick hopen hopen' hticked =>
      cases hticked with
      | begin hafter hconditions => exact hconditions
      | settle hbefore hafter hconditions => exact hconditions.trans (h.unseen hbefore)
      | arrive hbefore hafter | wait hbefore hafter =>
        rw [hafter] at hstage
        cases hstage
    | rest hgate hsame =>
      subst hsame
      exact h.unseen hstage

/-- The wait for a plug begins with nothing seen. -/
theorem Searching.arrives (h : Searching gate before) (hbefore : before.stage ≠ .floating)
    (hafter : after.stage = .floating) (hevent : Event ticks now act gate gate' before after) :
    Debouncing ticks [] gate' after := by
  cases hevent with
  | rest hgate hsame =>
    subst hsame
    exact absurd hafter hbefore
  | tick htick hopen hopen' hticked =>
    refine ⟨hopen', hafter, ?_⟩
    cases hticked with
    | begin hdelay | settle hwas hdelay =>
      rw [hdelay] at hafter
      cases hafter
    | arrive hwas hnow hconditions htimer =>
      rw [hconditions, h.unseen hwas, htimer]
      exact .start (span_pos ticks)
    | wait hwas => exact absurd hwas hbefore

/-- **An act during the stay adds to the history what it sees.** -/
theorem Debouncing.event (h : Debouncing ticks seen gate before) (hafter : after.stage = .floating)
    (hevent : Event ticks now act gate gate' before after) :
    Debouncing ticks (seen ++ if act = .tick then [now] else []) gate' after := by
  cases hevent with
  | tick htick hopen hopen' hticked =>
    refine ⟨hopen', hafter, ?_⟩
    rw [if_pos htick]
    cases hticked with
    | begin hdelay | settle hwas hdelay =>
      rw [hdelay] at hafter
      cases hafter
    | arrive hwas =>
      rw [h.waits] at hwas
      cases hwas
    | wait hwas hnow hcounts => exact hcounts h.counting
  | rest hgate hsame =>
    obtain ⟨htick, hopen'⟩ := hgate h.running
    rw [if_neg htick, List.append_nil, hsame]
    exact ⟨hopen', h.waits, h.counting⟩

end Lookout

/-! ## Input ports -/

namespace InputView

variable {port : Port} {view : InputView}

/-- The conditions that a tick would see. -/
def conditionsNow (view : InputView) : Conditions := view.state.conditionsNow view.config view.pin1

/-- Every act that leaves an input port released is an event of its wait for a plug. -/
theorem event_act (view : InputView) (act : Act)
    (h : (view.act port act).state.stage.released = true) :
    Lookout.Event view.config.connectTicks view.conditionsNow act view.startup
      (view.act port act).startup view.state.lookout (view.act port act).state.lookout := by
  cases @acted port view act with
  | tick htick hopen =>
    subst htick
    rw [act_tick hopen] at h ⊢
    exact .tick rfl hopen hopen (PortState.ticked _ _ _ h)
  | rest hgate on hwatch =>
    refine .rest hgate ?_
    rw [PortState.lookout, PortState.stage, hwatch]
    rfl
  | restart hstage =>
    rcases hstage with hstage | hstage <;> rw [hstage] at h <;> cases h

/-- A port about to act on a set of conditions. -/
structure Connecting (set : Conditions) (view : InputView) : Prop where
  running : view.startup = .running
  stage : view.state.stage = .connection
  conditions : view.state.watch.conditions = set

theorem connecting_act {set : Conditions} (h : view.Connecting set) (act : Act)
    (hstage : (view.act port act).state.stage = .connection) :
    (view.act port act).Connecting set := by
  cases @acted port view act with
  | tick htick hopen =>
    subst htick
    rw [act_tick hopen] at hstage
    cases hon : view.state.enabled with
    | false =>
      have hoff := (PortState.tick_of_off view.config port view.pin1 hon).1
      exact absurd (hoff.symm.trans hstage) (by decide)
    | true =>
      -- the tick acts on the conditions, and so ends the stay
      rw [PortState.tick_connection _ _ _ hon h.stage] at hstage
      have hnext : InputScene.stageOf view.state.watch.conditions = .connection := hstage
      have hsearching := InputScene.stageOf_searching view.state.watch.conditions
      rw [hnext] at hsearching
      cases hsearching
  | rest hgate on hwatch =>
    refine ⟨(hgate h.running).2, hstage, ?_⟩
    rw [hwatch]
    exact h.conditions
  | restart hrestart =>
    rcases hrestart with hrestart | hrestart <;> cases hrestart.symm.trans hstage

/-- What a tick does to a port that waits for a plug, by the history of what it has seen. -/
theorem connect_or_wait {seen : List Conditions}
    (h : Lookout.Debouncing view.config.connectTicks seen view.startup view.state.lookout)
    (hon : view.state.enabled = true) :
    let now := view.conditionsNow
    let limit := span view.config.connectTicks
    (SteadyFor limit now (seen ++ [now]) ∧ (view.act port .tick).Connecting now) ∨
      ((∀ set, ¬SteadyFor limit set (seen ++ [now])) ∧
        (view.act port .tick).state.stage = .floating) := by
  intro now limit
  rw [act_tick h.running]
  obtain ⟨hconditions, ⟨hstage, hsteady⟩ | ⟨hstage, hcounting⟩⟩ :=
    PortState.connect_or_wait view.config port view.pin1 hon h.waits h.counting
  · exact .inl ⟨hsteady, h.running, hstage, hconditions⟩
  · exact .inr ⟨hcounting.unsteady _ (List.prefix_refl _), hstage⟩

/-- What a port acts on is the set that it has taken note of. -/
theorem Connecting.act_tick {set : Conditions} (h : view.Connecting set)
    (hon : view.state.enabled = true) :
    (view.act port .tick).state.stage = InputScene.stageOf set := by
  rw [InputView.act_tick h.running, ← h.conditions]
  exact congrArg PortState.stage (PortState.tick_connection view.config port view.pin1 hon h.stage)

end InputView

/-! ## Output ports -/

namespace OutputView

variable {port : Port} {view : OutputView}

/-- The conditions that a tick would see. -/
def conditionsNow (view : OutputView) : Conditions := view.state.conditionsNow view.pin5

/-- Every act that leaves an output port released is an event of its wait for a plug. -/
theorem event_act (view : OutputView) (act : Act)
    (h : (view.act port act).state.stage.released = true) :
    Lookout.Event view.config.connectTicks view.conditionsNow act view.startup
      (view.act port act).startup view.state.lookout (view.act port act).state.lookout := by
  cases @acted port view act with
  | tick htick hopen =>
    subst htick
    rw [act_tick hopen] at h ⊢
    exact .tick rfl hopen hopen (OutputState.ticked _ _ _ h)
  | rest hgate hwatch hverdict =>
    refine .rest hgate ?_
    rw [OutputState.lookout, OutputState.stage, hwatch]
    rfl
  | restart on hmode =>
    subst hmode
    cases h

/-- A port whose first measurement is taken and has not been acted on. -/
def Measured (view : OutputView) : Prop :=
  view.state.stage = .waitingForPin6Low ∨ view.state.stage = .connection

/-- A port about to act on a set of conditions and a first measurement. -/
structure Connecting (set : Conditions) (floatMv : UInt16) (view : OutputView) : Prop where
  running : view.startup = .running
  measured : view.Measured
  conditions : view.state.watch.conditions = set
  floatMv_eq : view.state.watch.floatMv = floatMv

theorem connecting_act {set : Conditions} {floatMv : UInt16} (h : view.Connecting set floatMv)
    (act : Act) (hmeasured : (view.act port act).Measured) :
    (view.act port act).Connecting set floatMv := by
  cases @acted port view act with
  | tick htick hopen =>
    subst htick
    rw [act_tick hopen] at hmeasured ⊢
    rcases h.measured with hstage | hstage
    · refine ⟨hopen, hmeasured, ?_, ?_⟩ <;>
        (dsimp only; rw [OutputState.tick_waitingForPin6Low _ _ _ hstage]; split)
      · exact h.conditions
      · exact h.conditions
      · exact h.floatMv_eq
      · exact h.floatMv_eq
    · -- the tick acts on the measurements, and so ends the stay
      have hnext := OutputState.stage_tick view.config port view.pin5 view.state
      rw [hstage] at hnext
      rcases hmeasured with hlater | hlater
      · rw [show (view.state.tick view.config port view.pin5).stage = _ from hlater] at hnext
        simp [Stage.outputNext] at hnext
      · rw [show (view.state.tick view.config port view.pin5).stage = _ from hlater] at hnext
        simp [Stage.outputNext] at hnext
  | rest hgate hwatch hverdict =>
    refine ⟨(hgate h.running).2, hmeasured, ?_, ?_⟩ <;> rw [hwatch]
    · exact h.conditions
    · exact h.floatMv_eq
  | restart on hmode =>
    subst hmode
    rcases hmeasured with hlater | hlater <;> cases hlater

/-- What a tick does to a port that waits for a plug, by the history of what it has seen. -/
theorem connect_or_wait {seen : List Conditions}
    (h : Lookout.Debouncing view.config.connectTicks seen view.startup view.state.lookout) :
    let now := view.conditionsNow
    let limit := span view.config.connectTicks
    (SteadyFor limit now (seen ++ [now]) ∧
        (view.act port .tick).state.stage = .waitingForPin6Low ∧
        (view.act port .tick).Connecting now (millivoltsOfCounts view.pin5)) ∨
      ((∀ set, ¬SteadyFor limit set (seen ++ [now])) ∧
        (view.act port .tick).state.stage = .floating) := by
  intro now limit
  rw [act_tick h.running]
  obtain ⟨hconditions, ⟨hstage, hfloatMv, hsteady⟩ | ⟨hstage, hcounting⟩⟩ :=
    OutputState.connect_or_wait view.config port view.pin5 h.waits h.counting
  · exact .inl ⟨hsteady, hstage, h.running, .inl hstage, hconditions, hfloatMv⟩
  · exact .inr ⟨hcounting.unsteady _ (List.prefix_refl _), hstage⟩

/-- What a port acts on is the set and the first measurement that it has taken note of. -/
theorem Connecting.act_tick {set : Conditions} {floatMv : UInt16} (h : view.Connecting set floatMv)
    (hstage : view.state.stage = .connection) :
    ∃ rule, firstMatch outputRules ⟨floatMv, view.state.watch.lowMv, set.pin6Low⟩ = some rule ∧
      (view.act port .tick).state = (view.state.carryOut rule.verdict).remember := by
  obtain ⟨rule, -, hrule⟩ := OutputState.exists_outputRule view.state.probe
  refine ⟨rule, ?_, ?_⟩
  · rw [← h.conditions, ← h.floatMv_eq]
    exact hrule
  · rw [OutputView.act_tick h.running]
    exact OutputState.tick_connection view.config port view.pin5 hstage hrule

end OutputView

/-! ## Stays -/

namespace Detector

/-- A port of a detector whose wait for a plug goes by a lookout and by conditions that a tick would
see: every act that leaves it released is an event. -/
def Waits (lookout : Detector → Lookout) (look : Detector → Conditions) : Prop :=
  ∀ (state : Detector) (act : Act), (lookout (state.act act)).stage.released = true →
    Lookout.Event state.1.config.connectTicks (look state) act state.1.startup
      (state.act act).1.startup (lookout state) (lookout (state.act act))

theorem waits_input (port : Port) :
    Waits (fun state => (state.inputView port).state.lookout)
      fun state => (state.inputView port).conditionsNow := by
  intro state act
  have hevent := @InputView.event_act port (state.inputView port) act
  rw [← inputView_act] at hevent
  exact hevent

theorem waits_output (port : Port) :
    Waits (fun state => (state.outputView port).state.lookout)
      fun state => (state.outputView port).conditionsNow := by
  intro state act
  have hevent := @OutputView.event_act port (state.outputView port) act
  rw [← outputView_act] at hevent
  exact hevent

/-- Where an input port goes with a set of conditions: as long as it has not acted on conditions these
are the ones, and the tick in which it does leads to their stage. -/
def InputGoesBy (port : Port) (set : Conditions) (state : Detector) : Prop :=
  ∀ rest, state.Throughout (fun after => (after.inputView port).state.stage = .connection) rest →
    let waiting := state.acts rest
    (waiting.inputView port).state.watch.conditions = set ∧
      ((waiting.inputView port).state.enabled = true →
        ((waiting.act .tick).inputView port).state.stage = InputScene.stageOf set)

/-- Where an output port goes with a set of conditions and a first measurement: as long as it has not
acted on them these are the ones, and the tick in which it does carries out what the rules decide for
them and for the second measurement. -/
def OutputGoesBy (port : Port) (set : Conditions) (floatMv : UInt16) (state : Detector) : Prop :=
  ∀ rest, state.Throughout (fun after => (after.outputView port).Measured) rest →
    let waiting := (state.acts rest).outputView port
    waiting.state.watch.conditions = set ∧ waiting.state.watch.floatMv = floatMv ∧
      (waiting.state.stage = .connection →
        ∃ rule,
          firstMatch outputRules ⟨floatMv, waiting.state.watch.lowMv, set.pin6Low⟩ = some rule ∧
            (((state.acts rest).act .tick).outputView port).state =
              (waiting.state.carryOut rule.verdict).remember)

section Stays

variable {lookout : Detector → Lookout} {look : Detector → Conditions} {start : Detector}
  {entry : Act} {stay : List Act} {port : Port}

/-- A port that begins in the first stage is released behind an open gate only, whatever happens. -/
theorem searching_acts (hwaits : Waits lookout look) (hinit : (lookout start).stage = .init)
    (history : List Act) :
    Lookout.Searching (start.acts history).1.startup (lookout (start.acts history)) := by
  refine @acts_preserves (fun state => Lookout.Searching state.1.startup (lookout state)) history
    (fun {state} h act _ => h.event (hwaits state act)) start ⟨fun h => ?_, fun h => ?_⟩
  · rw [hinit] at h
    cases h
  · rw [hinit] at h
    cases h

/-- A stay begins with nothing seen, and carries its history along. -/
theorem debouncing_stay (hwaits : Waits lookout look)
    (hsearching : Lookout.Searching start.1.startup (lookout start))
    (hstay : start.Stay (fun state => (lookout state).stage = .floating) entry stay) :
    let state := (start.act entry).acts stay
    Lookout.Debouncing state.1.config.connectTicks ((start.act entry).atTicks look stay)
      state.1.startup (lookout state) := by
  have hreleased : ∀ {state : Detector}, (lookout state).stage = .floating →
      (lookout state).stage.released = true := by
    intro state hstage
    rw [hstage]
    rfl
  have hbegun : (lookout (start.act entry)).stage = .floating := hstay.stays [] List.nil_prefix
  refine @stay_induction Conditions look _ (start.act entry)
    (fun seen state => Lookout.Debouncing state.1.config.connectTicks seen state.1.startup
      (lookout state)) ?_ stay hstay.stays [] ?_
  · intro seen state act h hstage
    rw [state.config_act act]
    exact h.event hstage (hwaits state act (hreleased hstage))
  · rw [start.config_act entry]
    exact hsearching.arrives hstay.arrives hbegun (hwaits start entry (hreleased hbegun))

/-- What every act of a run keeps that leads to where the run stays, the run keeps. -/
theorem throughout_preserves {P there : Detector → Prop}
    (hact : ∀ {state} act, P state → there (state.act act) → P (state.act act)) {run : List Act}
    (hstays : start.Throughout there run) (h : P start) : P (start.acts run) :=
  @stay_induction Unit (fun _ => ()) there start (fun _ => P) hact run hstays [] h

theorem inputGoesBy_of_connecting {set : Conditions} (h : (start.inputView port).Connecting set) :
    start.InputGoesBy port set := by
  intro rest hstays
  have hrest : ((start.acts rest).inputView port).Connecting set := by
    refine throughout_preserves (P := fun after => (after.inputView port).Connecting set) ?_ hstays h
    intro state act h hstage
    rw [inputView_act] at hstage ⊢
    exact InputView.connecting_act h act hstage
  refine ⟨hrest.conditions, fun hon => ?_⟩
  rw [inputView_act]
  exact hrest.act_tick hon

theorem outputGoesBy_of_connecting {set : Conditions} {floatMv : UInt16}
    (h : (start.outputView port).Connecting set floatMv) : start.OutputGoesBy port set floatMv := by
  intro rest hstays
  have hrest : ((start.acts rest).outputView port).Connecting set floatMv := by
    refine throughout_preserves (P := fun after => (after.outputView port).Connecting set floatMv)
      ?_ hstays h
    intro state act h hstage
    rw [outputView_act] at hstage ⊢
    exact OutputView.connecting_act h act hstage
  refine ⟨hrest.conditions, hrest.floatMv_eq, fun hstage => ?_⟩
  rw [outputView_act]
  exact hrest.act_tick hstage

end Stays

/-- **The debounce is exact.** Take any thresholds, a new manager with any board and sessions, and any
history. Let a port come to the stage in which it waits for a plug, and let it be there still after any
run of acts, when a tick comes. If the port is an input port, let its detection be on.

What the port goes by is what it has seen at the ticks of this stay, the one that comes included. If the
last sets seen, as many as the limit says and one at least, are one and the same set and not empty, then
that has never been so before in this stay, and with this tick the port goes on: an input port to act on
that set and no other, an output port to measure, with pin 5 as it is in this tick for its first
measurement, and then to act on that measurement and that set. If they are not, the port stays. -/
theorem connect_debounce_exact (config : DetectionConfig) (shared : Shared ColorLink)
    (history : List Act) (entry : Act) (stay : List Act) (port : Port) :
    let start := acts ({ config := config }, shared) history
    let state := (start.act entry).acts stay
    let next := state.act .tick
    let limit := max 1 config.connectTicks.toNat
    (start.Stay (fun state => (state.inputView port).state.stage = .floating) entry stay →
      (state.inputView port).state.enabled = true →
      Debounced limit
        ((start.act entry).atTicks (fun state => (state.inputView port).conditionsNow)
          (stay ++ [.tick]))
        ((next.inputView port).state.stage = .floating)
        fun set => (next.inputView port).state.stage = .connection ∧ next.InputGoesBy port set) ∧
    (start.Stay (fun state => (state.outputView port).state.stage = .floating) entry stay →
      Debounced limit
        ((start.act entry).atTicks (fun state => (state.outputView port).conditionsNow)
          (stay ++ [.tick]))
        ((next.outputView port).state.stage = .floating)
        fun set => (next.outputView port).state.stage = .waitingForPin6Low ∧
          next.OutputGoesBy port set (millivoltsOfCounts (state.2.board.samples.outPin5 port))) := by
  intro start state next limit
  have hconfig : state.1.config = config := by
    rw [config_acts, config_act, config_acts]
  refine ⟨fun hstay hon => ?_, fun hstay => ?_⟩
  · have hdebouncing := debouncing_stay (waits_input port)
      (searching_acts (waits_input port) (by cases port <;> rfl) history) hstay
    have hunsteady := hdebouncing.counting.unsteady
    have hdecides := @InputView.connect_or_wait port (state.inputView port) _ hdebouncing hon
    rw [hconfig] at hunsteady
    rw [show (state.inputView port).config = config from hconfig] at hdecides
    rw [atTicks_append]
    refine .of_concat (span_pos _) hunsteady (hdecides.imp (fun h => ?_) fun h => ?_)
    · have hnext : (next.inputView port).Connecting (state.inputView port).conditionsNow := by
        rw [inputView_act]
        exact h.2
      exact ⟨h.1, hnext.stage, inputGoesBy_of_connecting hnext⟩
    · rw [inputView_act]
      exact h
  · have hdebouncing := debouncing_stay (waits_output port)
      (searching_acts (waits_output port) (by cases port <;> rfl) history) hstay
    have hunsteady := hdebouncing.counting.unsteady
    have hdecides := @OutputView.connect_or_wait port (state.outputView port) _ hdebouncing
    rw [hconfig] at hunsteady
    rw [show (state.outputView port).config = config from hconfig] at hdecides
    rw [atTicks_append]
    refine .of_concat (span_pos _) hunsteady (hdecides.imp (fun h => ?_) fun h => ?_)
    · obtain ⟨hsteady, hstage, hconnecting⟩ := h
      rw [← outputView_act] at hstage hconnecting
      exact ⟨hsteady, hstage, outputGoesBy_of_connecting hconnecting⟩
    · rw [outputView_act]
      exact h

/-- Two ticks in a row count. On either side of the first port something is plugged for one tick, then
nothing, then the first thing again, and then one thing more: the second tick of that is the one in which
the ports go on, and both conditions are acted on. Pin 5 of the output port is measured as it is then. -/
theorem connect_debounce_exact_flapping :
    let config : DetectionConfig := { resetMs := 0, floatMs := 0, connectMs := 20 }
    let history := List.replicate 4 Act.tick
    let stay : List Act :=
      [.tick, .sample (.inPin1 .p1) 4095, .sample (.outPin5 .p1) 2048, .tick,
        .sample (.inPin1 .p1) 2000, .sample (.outPin5 .p1) 100, .tick,
        .input .p1 (.plug { InputLines.emptyLevel with pin6 := true } none),
        .output .p1 (.plug (.const false)), .tick, .sample (.outPin5 .p1) 200]
    let start := acts ({ config := config }, { link := none }) history
    let next := ((start.act .tick).acts stay).act .tick
    (start.Stay (fun state => (state.inputView .p1).state.stage = .floating) .tick stay ∧
        (next.inputView .p1).state.stage = .connection ∧
        ((next.act .tick).inputView .p1).state.stage = .pin1Loaded) ∧
      start.Stay (fun state => (state.outputView .p1).state.stage = .floating) .tick stay ∧
        (next.outputView .p1).state.stage = .waitingForPin6Low ∧
        (next.outputView .p1).state.watch.floatMv = millivoltsOfCounts 200 := by
  intro config history stay start next
  have hinput : start.Stay (fun state => (state.inputView .p1).state.stage = .floating) .tick stay := by
    decide +kernel
  have houtput :
      start.Stay (fun state => (state.outputView .p1).state.stage = .floating) .tick stay := by
    decide +kernel
  obtain ⟨hin, hout⟩ := connect_debounce_exact config { link := none } history .tick stay .p1
  obtain ⟨-, hconnection, hacts⟩ := (hin hinput (by decide +kernel)).2
    { loaded := true, pin6High := true } (by decide +kernel)
  obtain ⟨-, hmeasuring, hmeasured⟩ := (hout houtput).2
    { loaded := true, pin6Low := true } (by decide +kernel)
  refine ⟨⟨hinput, hconnection, ?_⟩, houtput, hmeasuring, ?_⟩
  · exact (hacts [] (.nil hconnection)).2 (by decide +kernel)
  · have hfloatMv := (hmeasured [] (.nil (.inl hmeasuring))).2.1
    rw [show Samples.outPin5 _ .p1 = 200 by decide +kernel] at hfloatMv
    exact hfloatMv

end Detector

end PlugWatch
