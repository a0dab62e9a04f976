import PlugWatch.Proofs.Color.Linkless
import PlugWatch.Proofs.Detection.Connect
/-!
# When a device counts as gone

A settled input port counts the ticks in a row in which its device seems to be gone, and starts over
when the count is full. One timer serves this count, the wait for a touch sensor and the time of a
colour session. So what the count means depends on what it begins with, which depends on how the port
came to be settled. Of all ways one leaves something behind: when the answer of a session is collected,
the timer is set to nothing and counts the tick all the same. Such a port counts from one.

## Main Definitions

* `HeldFor` : the last ticks all found the device gone.
* `Tallied` : what the count says about the history of a stay.
* `PortState.answersInTime` : the coming tick collects the answer of a session in time.
* `Detector.headStart` : what a port counts that was not seen in the stay.

## Main Statements

* `PortState.timer_of_settles` : what the count begins with, on every way into a settled stage.
* `PortState.release_or_wait` : what a tick does to a settled port, by the history of what it has seen.
* `Detector.release_debounce_exact` : the debounce is exact but for the head start.
-/

namespace PlugWatch

/-! ## Histories of a release -/

/-- The last so many ticks all found the device gone. -/
def HeldFor (n : Nat) (seen : List Bool) : Prop := List.replicate n true <:+ seen

instance (n : Nat) (seen : List Bool) : Decidable (HeldFor n seen) :=
  inferInstanceAs (Decidable (_ <:+ _))

section HeldFor

variable {n : Nat} {now : Bool} {seen : List Bool}

@[simp] theorem heldFor_zero : HeldFor 0 seen := List.nil_suffix

@[simp] theorem heldFor_nil : HeldFor n [] ↔ n = 0 := by
  rw [HeldFor, List.suffix_nil, List.replicate_eq_nil_iff]

/-- One more tick in a row: it finds the device gone, and so do the ticks in front of it. -/
theorem heldFor_concat : HeldFor (n + 1) (seen ++ [now]) ↔ now = true ∧ HeldFor n seen :=
  replicate_suffix_concat

end HeldFor

/-- What the count of a port that is still there says about a stay: how many ticks in a row found the
device gone. In front of the first tick of the stay there may be a head start. -/
structure Tallied (limit : Nat) (head seen : List Bool) (timer : UInt16) : Prop where
  heldFor_iff : ∀ n, HeldFor n (head ++ seen) ↔ n ≤ timer.toNat
  early : timer.toNat < 65535
  unheld : ∀ earlier, earlier <+: seen → earlier ≠ [] → ¬HeldFor limit (head ++ earlier)

namespace Tallied

variable {ticks timer : UInt16} {head seen : List Bool}

/-- A stay begins with the head start, if there is one, as its count. -/
theorem start {limit : Nat} {ahead : Bool} (htimer : timer = if ahead then 1 else 0) :
    Tallied limit (if ahead then [true] else []) [] timer := by
  subst htimer
  refine ⟨fun n => ?_, ?_, fun earlier hearlier hne => absurd (List.prefix_nil.mp hearlier) hne⟩
  · rw [List.append_nil]
    cases ahead with
    | false => simp
    | true =>
      cases n with
      | zero => simp
      | succ n =>
        rw [if_pos rfl, ← List.nil_append [true], heldFor_concat]
        simp
  · cases ahead <;> decide

theorem unheld_concat {limit : Nat} (h : Tallied limit head seen timer) {now : Bool}
    (hnow : ¬HeldFor limit (head ++ (seen ++ [now]))) :
    ∀ earlier, earlier <+: seen ++ [now] → earlier ≠ [] → ¬HeldFor limit (head ++ earlier) := by
  intro earlier hearlier hne
  rcases List.prefix_concat_iff.mp hearlier with rfl | hearlier
  · exact hnow
  · exact h.unheld earlier hearlier hne

/-- A tick that finds the device there starts the count over. -/
theorem held (h : Tallied (span ticks) head seen timer) :
    Tallied (span ticks) head (seen ++ [false]) 0 := by
  have hnever : ∀ n, HeldFor n (head ++ (seen ++ [false])) ↔ n ≤ (0 : UInt16).toNat := by
    intro n
    rw [← List.append_assoc]
    cases n with
    | zero => simp
    | succ n =>
      rw [heldFor_concat]
      simp
  refine ⟨hnever, by decide, h.unheld_concat ?_⟩
  rw [hnever]
  exact Nat.not_le_of_lt (span_pos ticks)

/-- **A tick that finds the device gone fills the count exactly if it has been gone long enough.** -/
theorem gone (h : Tallied (span ticks) head seen timer) :
    (ticks ≤ timer + 1 ∧ HeldFor (span ticks) (head ++ (seen ++ [true]))) ∨
      (¬ticks ≤ timer + 1 ∧ Tallied (span ticks) head (seen ++ [true]) (timer + 1)) := by
  have hnext := toNat_add_one h.early
  have hcounts : ∀ n, HeldFor n (head ++ (seen ++ [true])) ↔ n ≤ (timer + 1).toNat := by
    intro n
    rw [← List.append_assoc, hnext]
    cases n with
    | zero => simp
    | succ n => rw [heldFor_concat, h.heldFor_iff, Nat.succ_le_succ_iff, and_iff_right rfl]
  have hfull : ticks ≤ timer + 1 ↔ span ticks ≤ (timer + 1).toNat := by
    rw [UInt16.le_iff_toNat_le, span, Nat.max_le, and_iff_right (by omega)]
  by_cases hlimit : ticks ≤ timer + 1
  · exact .inl ⟨hlimit, (hcounts _).mpr (hfull.mp hlimit)⟩
  · have hlt := ticks.toNat_lt
    have hrest : (timer + 1).toNat < ticks.toNat := Nat.lt_of_not_le hlimit
    refine .inr ⟨hlimit, hcounts, by omega, h.unheld_concat ?_⟩
    rw [hcounts, ← hfull]
    exact hlimit

end Tallied

/-! ## Ways into a settled stage -/

namespace PortState

variable (config : DetectionConfig) (port : Port) (pin1 : UInt16) {state : PortState}

/-- The coming tick collects the answer of a session, and the session has time left. -/
def answersInTime (state : PortState) : Bool :=
  state.stage = .nxtColorBusy && state.session.any (ColorProtocol.ready · port) &&
    0 < config.colorTimeoutTicks

theorem answersInTime_of_ne (hstage : state.stage ≠ .nxtColorBusy) :
    state.answersInTime config port = false := by
  rw [answersInTime, decide_eq_false hstage, Bool.false_and, Bool.false_and]

/-- A session that is over leaves a tick on the timer if its answer is in time, and nothing if not. -/
theorem timer_onColorBusy {scene : InputScene Session} (hbusy : scene.watch.stage = .nxtColorBusy)
    (hlink : scene.link ≠ none)
    (hover : (ofScene (scene.onColorBusy config port)).stage ≠ .nxtColorBusy) :
    (ofScene (scene.onColorBusy config port)).watch.timer =
      if (ofScene scene).answersInTime config port then 1 else 0 := by
  obtain ⟨session, hsession⟩ := Option.ne_none_iff_exists'.mp hlink
  have hanswers : (ofScene scene).answersInTime config port =
      (ColorProtocol.ready session port && decide (0 < config.colorTimeoutTicks)) := by
    rw [answersInTime, show (ofScene scene).stage = .nxtColorBusy from hbusy,
      show (ofScene scene).session = some session from hsession, decide_eq_true rfl, Bool.true_and]
    rfl
  unfold InputScene.onColorBusy at hover ⊢
  rw [hsession] at hover ⊢
  rw [hanswers]
  dsimp only at hover ⊢
  by_cases hready : ColorProtocol.ready session port = true
  · obtain ⟨journal, hcollect⟩ := collect_eq port scene (ColorProtocol.response session port)
    rw [if_pos hready, hcollect, hready, Bool.true_and]
    have hlate : config.colorTimeoutTicks < 0 + 1 ↔ ¬0 < config.colorTimeoutTicks := by simp
    by_cases htime : 0 < config.colorTimeoutTicks
    · rw [if_neg fun h => hlate.mp h htime, if_pos (decide_eq_true htime)]
      rfl
    · rw [if_pos (hlate.mpr htime), ofScene_giveUp, if_neg (by simpa using htime)]
  · rw [if_neg hready] at hover ⊢
    rw [Bool.eq_false_iff.mpr hready, Bool.false_and, if_neg Bool.false_ne_true]
    by_cases hlate : config.colorTimeoutTicks < scene.watch.timer + 1
    · rw [if_pos hlate, ofScene_giveUp]
    · rw [if_neg hlate] at hover
      exact absurd hbusy hover

/-- A port settles when a device is identified, when a touch sensor is told apart, or when a session is
over. -/
theorem Progress.settles {before after : PortState} (progress : Progress before after)
    (hsettles : after.stage.settled = true) (hnew : after.stage ≠ before.stage) :
    before.stage.probing = true ∨ before.stage = .nxtTouchCheck ∨
      before.stage.inColorSession = true := by
  cases progress with
  | restart hbefore hafter =>
    rw [hafter] at hsettles
    cases hsettles
  | search hbefore hafter =>
    have hengaged := Stage.engaged_of_settled hsettles
    rcases hafter with hafter | hafter
    · rw [Stage.engaged_of_undetected hafter] at hengaged
      cases hengaged
    · rw [hafter] at hsettles
      cases hsettles
  | identify hbefore hafter => exact .inl hbefore
  | suspect hbefore hafter => exact .inl (by rw [hbefore]; rfl)
  | confirm hbefore hafter => exact .inr (.inl hbefore)
  | stay hbefore hafter => exact .inr (.inr (hafter.resolve_left hnew).1)
  | disconnect hbefore hafter =>
    rw [hafter] at hsettles
    cases hsettles
  | resume hbefore hafter =>
    rw [hafter] at hsettles
    cases hsettles

/-- **What the count begins with.** A tick that settles a port leaves nothing on its timer, whichever way
the port comes, unless it collects the answer of a session in time. -/
theorem timer_of_settles (hlinked : state.session = none →
      state.stage ≠ .nxtColorWait ∧ state.stage ≠ .nxtColorBusy)
    (hsettles : (state.tick config port pin1).stage.settled = true)
    (hnew : (state.tick config port pin1).stage ≠ state.stage) :
    (state.tick config port pin1).watch.timer =
      if state.answersInTime config port then 1 else 0 := by
  have hon : state.enabled = true := by
    refine eq_true_of_ne_false fun hoff => ?_
    rw [(tick_of_off config port pin1 hoff).1] at hsettles
    cases hsettles
  by_cases hbusy : state.stage = .nxtColorBusy
  · rw [tick_of_on config port pin1 hon, InputScene.act,
      show state.scene.watch.stage = .nxtColorBusy from hbusy] at hnew ⊢
    exact timer_onColorBusy config port hbusy (fun hnone => (hlinked hnone).2 hbusy) (hbusy ▸ hnew)
  rw [answersInTime_of_ne config port hbusy, if_neg Bool.false_ne_true]
  have hfrom := (progress_tick config port pin1 hon).settles hsettles hnew
  cases hstage : state.stage with
  | pin2Low =>
    obtain ⟨rule, -, hrule⟩ := exists_legacyRule ⟨state.watch.conditions, pin1⟩
    rw [tick_pin2Low config port pin1 hon hstage hrule]
    rfl
  | pin1Loaded =>
    obtain ⟨rule, -, hrule⟩ := exists_loadedRule ⟨pin1⟩
    rw [tick_pin1Loaded config port pin1 hon hstage hrule]
    rfl
  | pin6High =>
    rw [tick_pin6High config port pin1 hon hstage]
    rfl
  | pin5Low =>
    rw [tick_pin5Low config port pin1 hon hstage]
    rfl
  | nxtTouchCheck =>
    rw [tick_nxtTouchCheck config port pin1 hon hstage] at hsettles ⊢
    split
    · rfl
    · rename_i hrest
      rw [if_neg hrest] at hsettles
      cases hsettles
  | nxtColorInit =>
    rw [tick_nxtColorInit config port pin1 hon hstage]
    rfl
  | nxtColorWait =>
    -- with a link the wait leads to the session, and without one there is no wait
    rw [tick_nxtColorWait config port pin1 hon hstage] at hsettles
    cases hsession : state.session with
    | none => exact absurd hstage (hlinked hsession).1
    | some session =>
      rw [hsession] at hsettles
      dsimp only at hsettles
      split at hsettles
      · cases hsettles
      · rw [show state.remember.stage = .nxtColorWait from hstage] at hsettles
        cases hsettles
  | nxtColorBusy => exact absurd hstage hbusy
  | _ =>
    rw [hstage] at hfrom
    rcases hfrom with hfrom | hfrom | hfrom <;> cases hfrom

/-! ## Settled ports -/

/-- **What a tick does to a settled port**: it starts over if its device has been gone for long enough,
and stays settled if not. -/
theorem release_or_wait (hon : state.enabled = true) (hsettled : state.stage.settled = true)
    {head seen : List Bool}
    (h : Tallied (span config.releaseTicks) head seen state.watch.timer) :
    let gone := state.released config pin1
    let next := state.tick config port pin1
    (HeldFor (span config.releaseTicks) (head ++ (seen ++ [gone])) ∧ next.stage = .init) ∨
      (next.stage = state.stage ∧
        Tallied (span config.releaseTicks) head (seen ++ [gone]) next.watch.timer) := by
  intro gone next
  have hnext : next = _ := tick_settled config port pin1 hon hsettled
  rw [hnext]
  cases hgone : gone with
  | false =>
    rw [show state.released config pin1 = false from hgone]
    exact .inr ⟨rfl, h.held⟩
  | true =>
    rw [show state.released config pin1 = true from hgone]
    rcases h.gone with ⟨hfull, hheld⟩ | ⟨hrest, htallied⟩
    · rw [if_pos rfl, if_pos hfull]
      exact .inl ⟨hheld, rfl⟩
    · rw [if_pos rfl, if_neg hrest]
      exact .inr ⟨rfl, htallied⟩

end PortState

/-! ## What happens to a port -/

namespace InputView

variable {port : Port} {view : InputView}

/-- Whether a tick would find the device of a settled port gone. -/
def goneNow (view : InputView) : Bool := view.state.released view.config view.pin1

/-- A port in the middle of a stay in a settled stage, with its history. -/
structure Releasing (stage : Stage) (head seen : List Bool) (view : InputView) : Prop where
  running : view.startup = .running
  stage_eq : view.state.stage = stage
  tallied : Tallied (span view.config.releaseTicks) head seen view.state.watch.timer

variable {stage : Stage} {head seen : List Bool}

/-- What a tick does to a port in the middle of its stay, by the history of what it has found. -/
theorem release_or_wait (h : view.Releasing stage head seen) (hsettled : stage.settled = true)
    (hon : view.state.enabled = true) :
    let held := HeldFor (span view.config.releaseTicks) (head ++ (seen ++ [view.goneNow]))
    (held ∧ (view.act port .tick).state.stage = .init) ∨
      (¬held ∧ (view.act port .tick).Releasing stage head (seen ++ [view.goneNow])) := by
  intro held
  rw [act_tick h.running]
  refine (PortState.release_or_wait view.config port view.pin1 hon (h.stage_eq ▸ hsettled)
    h.tallied).imp_right ?_
  rintro ⟨hstage, htallied⟩
  exact ⟨htallied.unheld _ (List.prefix_refl _) (by simp), h.running, hstage.trans h.stage_eq,
    htallied⟩

/-- **An act during the stay adds to the history what it finds.** -/
theorem releasing_act (h : view.Releasing stage head seen) (hsettled : stage.settled = true)
    (act : Act) (hstays : (view.act port act).state.stage = stage) :
    (view.act port act).Releasing stage head
      (seen ++ if act = .tick then [view.goneNow] else []) := by
  cases @acted port view act with
  | tick htick hopen =>
    subst htick
    rw [if_pos rfl]
    have hon : view.state.enabled = true := by
      refine eq_true_of_ne_false fun hoff => ?_
      rw [act_tick hopen] at hstays
      rw [hstays.symm.trans (PortState.tick_of_off view.config port view.pin1 hoff).1] at hsettled
      cases hsettled
    rcases release_or_wait h hsettled hon with ⟨-, hinit⟩ | ⟨-, hreleasing⟩
    · rw [hstays.symm.trans hinit] at hsettled
      cases hsettled
    · exact hreleasing
  | rest hgate on hwatch =>
    obtain ⟨htick, hopen⟩ := hgate h.running
    rw [if_neg htick, List.append_nil]
    refine ⟨hopen, hstays, ?_⟩
    rw [config_act, hwatch]
    exact h.tallied
  | restart hrestart =>
    rw [← hstays] at hsettled
    rcases hrestart with hrestart | hrestart <;> rw [hrestart] at hsettled <;> cases hsettled

/-- A stay in a settled stage begins with a tick, and its count with the head start. -/
theorem releasing_of_settles {act : Act} (hlinked : view.state.session = none →
      view.state.stage ≠ .nxtColorWait ∧ view.state.stage ≠ .nxtColorBusy)
    (hsettled : stage.settled = true) (hbefore : view.state.stage ≠ stage)
    (hafter : (view.act port act).state.stage = stage) :
    (view.act port act).Releasing stage
      (if view.state.answersInTime view.config port then [true] else []) [] := by
  have hsettles : (view.act port act).state.stage.settled = true := by
    rw [hafter]
    exact hsettled
  have hnew : (view.act port act).state.stage ≠ view.state.stage := by
    rw [hafter]
    exact hbefore.symm
  cases @acted port view act with
  | tick htick hopen =>
    subst htick
    rw [act_tick hopen] at hnew hsettles hafter ⊢
    have htimer := PortState.timer_of_settles view.config port view.pin1 hlinked hsettles hnew
    exact ⟨hopen, hafter, .start htimer⟩
  | rest hgate on hwatch => exact absurd (congrArg InputWatch.stage hwatch) hnew
  | restart hrestart =>
    rcases hrestart with hrestart | hrestart <;> rw [hrestart] at hsettles <;> cases hsettles

end InputView

/-! ## Runs -/

namespace Detector

/-- What a port about to settle counts that it does not see in its stay: a tick that collects the answer
of a session in time counts, whatever it sees. -/
def headStart (state : Detector) (port : Port) : List Bool :=
  if (state.inputView port).state.answersInTime state.1.config port then [true] else []

/-- Nothing that happens takes the link away or brings one. -/
theorem link_act_eq_none_iff (state : Detector) (act : Act) :
    (state.act act).2.link = none ↔ state.2.link = none := by
  have hdelay : ((state.act act).inputView .p1).delay = (state.inputView .p1).delay := by
    rw [inputView_act]
    exact InputView.delay_act act
  have hnone : ∀ state : Detector, (state.inputView .p1).delay = none ↔ state.2.link = none :=
    fun state => Option.map_eq_none_iff
  rw [← hnone, ← hnone, hdelay]

/-- Without a link no port waits for a session. -/
def NeverWaits (port : Port) (state : Detector) : Prop :=
  state.2.link = none → (state.inputView port).state.stage ≠ .nxtColorWait ∧
    (state.inputView port).state.stage ≠ .nxtColorBusy

variable {state start : Detector} {port : Port} {entry : Act} {stay : List Act}

theorem neverWaits_act (h : state.NeverWaits port) (act : Act) : (state.act act).NeverWaits port := by
  intro hnone
  have hlink := (state.link_act_eq_none_iff act).mp hnone
  have hsession : (state.inputView port).state.session = none := by
    show ColorLink.session? state.2.link port = none
    rw [hlink]
    rfl
  obtain ⟨hwait, hbusy⟩ := h hlink
  rw [inputView_act]
  generalize state.inputView port = view at hsession hwait hbusy ⊢
  cases @InputView.acted port view act with
  | tick htick hopen =>
    rw [htick, InputView.act_tick hopen]
    exact PortState.unwaiting_tick hsession hwait hbusy
  | rest hgate on hwatch =>
    rw [PortState.stage, hwatch]
    exact ⟨hwait, hbusy⟩
  | restart hrestart =>
    rcases hrestart with hrestart | hrestart <;> rw [hrestart] <;> decide

theorem neverWaits_acts (h : start.NeverWaits port) (run : List Act) :
    (start.acts run).NeverWaits port :=
  acts_preserves (P := NeverWaits port) run (fun h act _ => neverWaits_act h act) h

/-- A stay in a settled stage begins with the head start, and carries its history along. -/
theorem releasing_stay (hwaits : start.NeverWaits port) {stage : Stage}
    (hsettled : stage.settled = true)
    (hstay : start.Stay (fun state => (state.inputView port).state.stage = stage) entry stay) :
    (((start.act entry).acts stay).inputView port).Releasing stage (start.headStart port)
      ((start.act entry).atTicks (fun state => (state.inputView port).goneNow) stay) := by
  refine @stay_induction Bool (fun state => (state.inputView port).goneNow) _ (start.act entry)
    (fun seen state => (state.inputView port).Releasing stage (start.headStart port) seen) ?_ stay
    hstay.stays [] ?_
  · intro seen state act h hstays
    rw [inputView_act] at hstays ⊢
    exact InputView.releasing_act h hsettled act hstays
  · have hafter : ((start.act entry).inputView port).state.stage = stage :=
      hstay.stays [] List.nil_prefix
    rw [inputView_act] at hafter ⊢
    refine InputView.releasing_of_settles (fun hnone => hwaits ?_) hsettled hstay.arrives hafter
    exact Option.map_eq_none_iff.mp hnone

/-- **The wait for a device to go is exact, but for a head start.** Take any thresholds, a new manager
with any board and sessions, and any history. Let an input port come to one of the stages in which it
waits for its device to go, on whichever way, and let it be there still after any run of acts, with its
detection on, when a tick comes.

What the port goes by is what it has found at the ticks of this stay, the one that comes included. If
the last ticks, as many as the limit says and one at least, all found the device gone, then that has
never been so before in this stay, and with this tick the port starts over. If they did not, the port
stays.

The one exception is a port that came with the answer of a colour session, which was in time: the tick
that collected the answer counts as one that found the device gone, whatever was to be seen in it. So
such a port may start over after one tick less than the limit says. -/
theorem release_debounce_exact (config : DetectionConfig) (shared : Shared ColorLink)
    (history : List Act) (entry : Act) (stay : List Act) (port : Port) {stage : Stage}
    (hsettled : stage.settled = true) :
    let start := acts ({ config := config }, shared) history
    let state := (start.act entry).acts stay
    let next := state.act .tick
    let limit := max 1 config.releaseTicks.toNat
    let head := start.headStart port
    let seen := (start.act entry).atTicks (fun state => (state.inputView port).goneNow)
      (stay ++ [.tick])
    start.Stay (fun state => (state.inputView port).state.stage = stage) entry stay →
      (state.inputView port).state.enabled = true →
      ((next.inputView port).state.stage = .init ↔ HeldFor limit (head ++ seen)) ∧
        (¬HeldFor limit (head ++ seen) → (next.inputView port).state.stage = stage) ∧
        ∀ earlier, earlier <+: seen → earlier ≠ [] → earlier ≠ seen →
          ¬HeldFor limit (head ++ earlier) := by
  intro start state next limit head seen hstay hon
  have hfresh : Detector.NeverWaits port ({ config := config }, shared) := by
    intro _
    rw [stage_inputView_new config shared port]
    exact ⟨nofun, nofun⟩
  have hreleasing := releasing_stay (neverWaits_acts hfresh history) hsettled hstay
  have hlimit : span (state.inputView port).config.releaseTicks = limit := by
    have hconfig : state.1.config = config := by
      rw [config_acts, config_act, config_acts]
    rw [show (state.inputView port).config = config from hconfig]
    rfl
  have hunheld := hreleasing.tallied.unheld
  have hdecides := @InputView.release_or_wait port _ stage _ _ hreleasing hsettled hon
  have hseen : seen = _ ++ [(state.inputView port).goneNow] := atTicks_append _ stay [.tick]
  rw [hlimit] at hunheld hdecides
  rw [hseen, inputView_act, ← and_assoc]
  refine ⟨?_, fun earlier hearlier hne hlast =>
    hunheld earlier ((List.prefix_concat_iff.mp hearlier).resolve_left hlast) hne⟩
  rcases hdecides with ⟨hheld, hinit⟩ | ⟨hnot, hstays⟩
  · exact ⟨iff_of_true hinit hheld, fun hnot => absurd hheld hnot⟩
  · refine ⟨iff_of_false (fun hinit => ?_) hnot, fun _ => hstays.stage_eq⟩
    rw [hstays.stage_eq.symm.trans hinit] at hsettled
    cases hsettled

/-- Two ticks in place of three. A colour sensor is found on the first port, its session is answered in
time, and then it is taken away, so pin 2 goes high. The second tick that finds it so is the one in which
the port starts over. -/
theorem release_debounce_exact_answered :
    let config : DetectionConfig :=
      { resetMs := 0, floatMs := 0, connectMs := 0, releaseMs := 30, pin2Detection := true }
    let shared : Shared ColorLink := { link := some { initDelay := 0 } }
    let plug := Act.input .p1 (.plug { InputLines.emptyLevel with pin2 := false } none)
    let unplug := Act.input .p1 (.plug InputLines.emptyLevel none)
    let history := plug :: List.replicate 10 .tick ++ List.replicate 943 .linkTick
    let start := acts ({ config := config }, shared) history
    let state := (start.act .tick).acts [unplug, .tick]
    start.Stay (fun state => (state.inputView .p1).state.stage = .connectedWaitingForPin2High) .tick
        [unplug, .tick] ∧
      (state.inputView .p1).state.enabled = true ∧ start.headStart .p1 = [true] ∧
      (start.act .tick).atTicks (fun state => (state.inputView .p1).goneNow)
        [unplug, .tick, .tick] = [true, true] ∧
      config.releaseTicks = 3 ∧ ((state.act .tick).inputView .p1).state.stage = .init := by
  intro config shared plug unplug history start state
  have hrun : start.Stay
        (fun state => (state.inputView .p1).state.stage = .connectedWaitingForPin2High) .tick
        [unplug, .tick] ∧
      (state.inputView .p1).state.enabled = true ∧ start.headStart .p1 = [true] ∧
      (start.act .tick).atTicks (fun state => (state.inputView .p1).goneNow)
        [unplug, .tick, .tick] = [true, true] := by
    decide +kernel
  obtain ⟨hstay, hon, hhead, hseen⟩ := hrun
  refine ⟨hstay, hon, hhead, hseen, by decide, ?_⟩
  refine (release_debounce_exact config shared history .tick [unplug, .tick] .p1 rfl hstay
    hon).1.mpr ?_
  show HeldFor _ (start.headStart .p1 ++ (start.act .tick).atTicks _ [unplug, .tick, .tick])
  rw [hhead, hseen]
  decide

end Detector

end PlugWatch
