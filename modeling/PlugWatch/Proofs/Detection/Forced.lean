import PlugWatch.Proofs.Detection.Undetected
/-!
# How long a forced classification lasts

While its detection is off, a port can be given a classification by user space. When the detection is
switched on again it goes on in the stage the port is in: it starts over only from `disabled` and from
`init`. The port is in `disabled` only if a tick of the manager came while the detection was off, and
only until the next colour command. In every other case the detection goes on as if a device had been
found, and the forced classification stays.

## Main Definitions

* `Step.isIdle` : steps in which neither the manager ticks nor user space asks for anything.

## Main Statements

* `Controller.undisturbed_idle`, `Controller.manager_idle` : idle steps disturb no port.
* `Controller.detected_steps_of_off`, `Controller.verdict_steps_of_off` : what a run keeps of a port
  whose detection is off.
* `PortState.Progress.of_detected` : a tick behind the detection starts over or keeps the verdict.
* `Controller.forced_until_restart` : two ticks after the detection was switched on, the port has
  started over or goes on with what was published.
-/

namespace PlugWatch

namespace Step

variable {α : Type}

/-- Whether a step is neither a tick of the manager nor anything that user space asks for: the sampler
and the link run, time passes, something is reported, or lines and converter change by themselves. -/
def isIdle : Step α → Bool
  | sample | color | time _ | note _ | plug _ _ _ | plugOutput _ _ | convert _ => true
  | _ => false

end Step

namespace PortState

variable {before after : PortState}

/-- Progress of a port behind the detection gets it back to the first stage or keeps it behind the
detection. The verdict stays, but for the confirmation of a touch sensor, which publishes one. -/
theorem Progress.of_detected (progress : Progress before after)
    (hdetected : before.stage.undetected = false) (hinit : before.stage ≠ .init) :
    (after.stage = .init ∨ after.stage.engaged = true) ∧
      (after.stage = .nxtTouchCheck → before.stage = .nxtTouchCheck) ∧
      (after.verdict = before.verdict ∨
        (before.stage = .nxtTouchCheck ∧ after.verdict ≠ .none)) := by
  have hundetected : before.stage.undetected ≠ true := by simp [hdetected]
  cases progress with
  | restart hbefore => exact absurd hbefore hinit
  | search hbefore => exact absurd (Stage.undetected_of_searching hbefore) hundetected
  | identify hbefore => exact absurd (Stage.undetected_of_probing hbefore) hundetected
  | suspect hbefore => exact absurd (by rw [hbefore]; rfl) hundetected
  | confirm hbefore hafter hconnected hverdict =>
    exact ⟨.inr (by rw [hafter]; rfl), fun _ => hbefore, .inr ⟨hbefore, hverdict⟩⟩
  | stay hbefore hafter hconnected hverdict =>
    rcases hafter with hafter | ⟨-, hafter | hafter⟩
    · exact ⟨.inr (by rw [hafter, hbefore]), fun hcheck => hafter ▸ hcheck, .inl hverdict⟩
    · refine ⟨.inr (Stage.engaged_of_inColorSession hafter), fun hcheck => ?_, .inl hverdict⟩
      rw [hcheck] at hafter
      cases hafter
    · refine ⟨.inr (by rw [hafter]; rfl), fun hcheck => ?_, .inl hverdict⟩
      rw [hcheck] at hafter
      cases hafter
  | disconnect hbefore hafter hconnected hverdict =>
    refine ⟨.inl hafter, fun hcheck => ?_, .inl hverdict⟩
    rw [hcheck] at hafter
    cases hafter
  | resume hbefore hafter hconnected hverdict =>
    refine ⟨.inl hafter, fun hcheck => ?_, .inl hverdict⟩
    rw [hcheck] at hafter
    cases hafter

/-- Two ticks with nothing but idle steps around them. A port that comes from the first stage or from
`disabled`, or gets to the first stage in the first tick, has started over behind the second. Any
other one goes on with what was published. -/
theorem Progress.twice {start ready first again second : PortState}
    (hready : Undisturbed start ready) (progress : Progress ready first)
    (hagain : Undisturbed first again) (progress' : Progress again second) :
    (start.stage = .init ∨ start.stage = .disabled ∨ first.stage = .init →
        second.connected = false ∧ second.verdict = .none) ∧
      (start.stage.undetected = false → start.stage ≠ .init → first.stage ≠ .init →
        second.stage.undetected = false ∧ (second.verdict = start.verdict ∨
          (start.stage = .nxtTouchCheck ∧ second.verdict ≠ .none))) := by
  rw [← hready.stage, ← hready.verdict]
  refine ⟨fun hstarts => ?_, fun hdetected hinit hfirst => ?_⟩
  · have hover : first.stage = .init → second.connected = false ∧ second.verdict = .none :=
      fun hinit => (progress'.of_init (hagain.stage.trans hinit)).2
    rcases hstarts with hinit | hdisabled | hinit
    · obtain ⟨hstage, hconnected, hverdict⟩ := progress.of_init hinit
      obtain ⟨hkept, hkept'⟩ := progress'.of_floatingDelay (hagain.stage.trans hstage)
      exact ⟨hkept.trans (hagain.connected.trans hconnected),
        hkept'.trans (hagain.verdict.trans hverdict)⟩
    · exact hover (progress.of_disabled hdisabled)
    · exact hover hinit
  · obtain ⟨hstage, hcheck, hverdict⟩ := progress.of_detected hdetected hinit
    have hengaged : again.stage.engaged = true := by
      rw [hagain.stage]
      exact hstage.resolve_left hfirst
    obtain ⟨hstage', -, hverdict'⟩ := progress'.of_detected
      (Stage.undetected_of_engaged hengaged) (by rw [hagain.stage]; exact hfirst)
    refine ⟨?_, ?_⟩
    · rcases hstage' with hstage' | hstage'
      · rw [hstage']
        rfl
      · exact Stage.undetected_of_engaged hstage'
    · rw [hagain.verdict, hagain.stage] at hverdict'
      rcases hverdict' with hkept | ⟨hconfirms, hnew⟩
      · rcases hverdict with hsame | ⟨hconfirms, hnew⟩
        · exact .inl (hkept.trans hsame)
        · exact .inr ⟨hconfirms, hkept ▸ hnew⟩
      · exact .inr ⟨hcheck hconfirms, hnew⟩

end PortState

namespace Controller

variable {α ε : Type} [Converter α ε] {c : Controller α} {port : Port}

/-! ## Idle steps -/

theorem undisturbed_idle_step {step : Step α} (hidle : step.isIdle = true) :
    PortState.Undisturbed (c.portState port) ((c.step step).portState port) := by
  cases c.event_step step port with
  | rest hsame => exact hsame
  | tick hstep => rw [hstep] at hidle; cases hidle
  | enable on hstep => rw [hstep] at hidle; cases hidle
  | force classification hstep => rw [hstep] at hidle; cases hidle
  | command command hstep => rw [hstep] at hidle; cases hidle
  | restart on hstep => rw [hstep] at hidle; cases hidle

theorem undisturbed_idle {run : List (Step α)} (hidle : ∀ step ∈ run, step.isIdle = true) :
    PortState.Undisturbed (c.portState port) ((c.steps run).portState port) :=
  steps_preserves (P := fun now => PortState.Undisturbed (c.portState port) (now.portState port))
    run (fun h step hmem => h.trans (undisturbed_idle_step (hidle step hmem))) (.refl _)

theorem manager_idle_step {step : Step α} (hidle : step.isIdle = true) :
    (c.step step).manager = c.manager := by
  cases step with
  | color => exact manager_colorTick c
  | manage => cases hidle
  | enable port on => cases hidle
  | force port classification => cases hidle
  | request port command => cases hidle
  | testMode on => cases hidle
  | _ => rfl

theorem manager_idle {run : List (Step α)} (hidle : ∀ step ∈ run, step.isIdle = true) :
    (c.steps run).manager = c.manager :=
  steps_preserves (P := fun now => now.manager = c.manager) run
    (fun h step hmem => (manager_idle_step (hidle step hmem)).trans h) rfl

/-! ## While detection is off -/

/-- What each step of a run keeps while the detection of a port is off, the run keeps if it stays
off. -/
theorem steps_preserves_of_off {P : Controller α → Prop} (run : List (Step α))
    (hstep : ∀ {c : Controller α}, (c.portState port).enabled = false → P c →
      ∀ step ∈ run, P (c.step step)) :
    ∀ {c : Controller α},
      (∀ before, before <+: run → ((c.steps before).portState port).enabled = false) →
      P c → P (c.steps run) := by
  induction run with
  | nil => intro c _ h; exact h
  | cons first rest ih =>
    intro c hoff h
    have hrest : ∀ {c : Controller α}, (c.portState port).enabled = false → P c →
        ∀ step ∈ rest, P (c.step step) :=
      fun hnow h step hmem => hstep hnow h step (List.mem_cons_of_mem _ hmem)
    refine ih hrest (fun before hbefore => ?_)
      (hstep (hoff [] List.nil_prefix) h first List.mem_cons_self)
    exact hoff (first :: before) (List.cons_prefix_cons.mpr ⟨rfl, hbefore⟩)

/-- With its detection off a port behind the detection stays behind it. -/
theorem detected_step_of_off {step : Step α} (hoff : (c.portState port).enabled = false)
    (hdetected : (c.portState port).stage.undetected = false) :
    ((c.step step).portState port).stage.undetected = false := by
  cases c.event_step step port with
  | rest hsame => rw [hsame.stage, hdetected]
  | tick hstep hrunning hafter =>
    rw [hafter, (PortState.tick_of_off _ _ _ hoff).1]
    rfl
  | enable on hstep hafter => rw [hafter]; exact hdetected
  | force classification hstep _ _ hafter => rw [hafter]; exact hdetected
  | command command hstep _ hafter => rw [hafter]; rfl
  | restart on hstep hafter => rw [hafter]; rfl

/-- With its detection off a port keeps what is published, but for what is forced and for test
mode. -/
theorem verdict_step_of_off {step : Step α} (hoff : (c.portState port).enabled = false)
    (hforce : ∀ classification, step ≠ .force port classification)
    (htest : step ≠ .testMode true) :
    ((c.step step).portState port).verdict = (c.portState port).verdict := by
  cases c.event_step step port with
  | rest hsame => exact hsame.verdict
  | tick hstep hrunning hafter =>
    rw [hafter]
    exact (PortState.tick_of_off _ _ _ hoff).2.2
  | enable on hstep hafter => rw [hafter]; rfl
  | force classification hstep => exact absurd hstep (hforce classification)
  | command command hstep _ hafter => rw [hafter]; rfl
  | restart on hstep hafter =>
    cases on with
    | true => exact absurd hstep htest
    | false => rw [hafter]; rfl

section Off

variable {run : List (Step α)}
  (hoff : ∀ before, before <+: run → ((c.steps before).portState port).enabled = false)
include hoff

theorem detected_steps_of_off (hdetected : (c.portState port).stage.undetected = false) :
    ((c.steps run).portState port).stage.undetected = false :=
  steps_preserves_of_off (P := fun now => (now.portState port).stage.undetected = false) run
    (fun hnow h _ _ => detected_step_of_off hnow h) hoff hdetected

theorem verdict_steps_of_off (hforce : ∀ classification, .force port classification ∉ run)
    (htest : .testMode true ∉ run) :
    ((c.steps run).portState port).verdict = (c.portState port).verdict := by
  refine steps_preserves_of_off
    (P := fun now => (now.portState port).verdict = (c.portState port).verdict) run ?_ hoff rfl
  intro now hnow h step hmem
  have hunforced : ∀ classification, step ≠ .force port classification :=
    fun classification heq => hforce classification (heq ▸ hmem)
  have huntested : step ≠ .testMode true := fun heq => htest (heq ▸ hmem)
  rw [verdict_step_of_off hnow hunforced huntested, h]

end Off

/-! ## Switching it on again -/

/-- A tick of the manager behind idle steps, with the gate open and detection on. -/
theorem progress_idle_manage {idle : List (Step α)} (hidle : ∀ step ∈ idle, step.isIdle = true)
    (hrunning : c.manager.isRunning = true) (hon : (c.portState port).enabled = true) :
    ∃ ready, PortState.Undisturbed (c.portState port) ready ∧
      PortState.Progress ready ((c.steps (idle ++ [.manage])).portState port) ∧
      (c.steps (idle ++ [.manage])).manager.isRunning = true ∧
      ((c.steps (idle ++ [.manage])).portState port).enabled = true := by
  have hready : PortState.Undisturbed (c.portState port) ((c.steps idle).portState port) :=
    undisturbed_idle hidle
  have hrunning' : (c.steps idle).manager.isRunning = true := by
    rw [manager_idle hidle]
    exact hrunning
  have hon' : ((c.steps idle).portState port).enabled = true := hready.enabled.trans hon
  rw [steps_append, steps_cons, steps_nil, Controller.step, portState_managerTick,
    if_pos hrunning']
  exact ⟨_, hready, PortState.progress_tick _ _ _ hon', isRunning_managerTick hrunning',
    (PortState.enabled_tick _ _ _ _).trans hon'⟩

/-- **A forced classification lasts until the detection starts over.** Take a reachable controller in
which a classification may be forced on a port, and force it. Let anything happen while the detection
of the port stays off, then switch it on and let the manager tick twice, its gate being open, with
idle steps in between.

* If the port was in `init` or `disabled` when its detection was switched on, or got to `init` in the
  first of the ticks because its device was gone, it has started over: it is not connected and
  publishes nothing.
* Otherwise it goes on as if a device had been found, with what was published when its detection was
  switched on. Only the confirmation of a touch sensor replaces that, and not by nothing.
* What was published then is what was forced, unless more was forced or test mode was entered. -/
theorem forced_until_restart (h : c.Reachable) {classification : Classification}
    (hmay : c.manager.mayForce port = true) {late idle idle' idle'' : List (Step α)}
    (hoff : ∀ before, before <+: late →
      (((c.step (.force port classification)).steps before).portState port).enabled = false)
    (hidle : ∀ step ∈ idle ++ idle' ++ idle'', step.isIdle = true)
    (hrunning : ((c.step (.force port classification)).steps late).manager.isRunning = true) :
    let off := (c.step (.force port classification)).steps late
    let first := off.steps (.enable port true :: (idle ++ [.manage]))
    let second := first.steps (idle' ++ .manage :: idle'')
    ((off.portState port).stage = .init ∨ (off.portState port).stage = .disabled ∨
          (first.portState port).stage = .init →
        (second.portState port).connected = false ∧ (second.portState port).verdict = .none) ∧
      ((off.portState port).stage ≠ .init → (first.portState port).stage ≠ .init →
        (second.portState port).stage.undetected = false ∧
          ((second.portState port).verdict = (off.portState port).verdict ∨
            ((off.portState port).stage = .nxtTouchCheck ∧
              (second.portState port).verdict ≠ .none))) ∧
      ((∀ other, .force port other ∉ late) → .testMode true ∉ late →
        (off.portState port).verdict = classification) := by
  intro off first second
  obtain ⟨-, hconnected⟩ := (mayForce_iff c port).mp hmay
  have hforced : (c.step (.force port classification)).portState port =
      { c.portState port with
        socket := { (c.portState port).socket with verdict := classification } } := by
    rw [Controller.step, portState_force_eq, if_pos ⟨rfl, hmay⟩]
  -- a port that counts as connected is behind the detection
  have hdetected : (off.portState port).stage.undetected = false := by
    refine detected_steps_of_off hoff ?_
    rw [hforced]
    cases hundetected : (c.portState port).stage.undetected with
    | false => exact hundetected
    | true =>
      rw [(h.consistent port).unconnected hundetected] at hconnected
      cases hconnected
  have hstart : (off.step (.enable port true)).portState port =
      { off.portState port with watch := (off.portState port).watch.setEnabled true } :=
    portState_setEnabled_self off port true
  have hidle₁ : ∀ step ∈ idle, step.isIdle = true :=
    fun step hmem => hidle step (by simp [hmem])
  have hidle₂ : ∀ step ∈ idle', step.isIdle = true :=
    fun step hmem => hidle step (by simp [hmem])
  have hidle₃ : ∀ step ∈ idle'', step.isIdle = true :=
    fun step hmem => hidle step (by simp [hmem])
  have hon : ((off.step (.enable port true)).portState port).enabled = true := by
    rw [hstart]
    rfl
  have hgate : (off.step (.enable port true)).manager.isRunning = true := hrunning
  obtain ⟨ready, hready, progress, hrunning', hon'⟩ := progress_idle_manage hidle₁ hgate hon
  obtain ⟨again, hagain, progress', -, -⟩ := progress_idle_manage hidle₂ hrunning' hon'
  have hbehind : PortState.Undisturbed ((first.steps (idle' ++ [.manage])).portState port)
      (second.portState port) := by
    have hsplit : second = (first.steps (idle' ++ [.manage])).steps idle'' := by
      rw [← steps_append, List.append_assoc]
      rfl
    rw [hsplit]
    exact undisturbed_idle hidle₃
  obtain ⟨hover, hkeeps⟩ := PortState.Progress.twice hready progress hagain progress'
  rw [hstart] at hover hkeeps
  refine ⟨fun hstarts => ?_, fun hinit hfirst => ?_, fun hforce htest => ?_⟩
  · rw [hbehind.connected, hbehind.verdict]
    exact hover hstarts
  · rw [hbehind.stage, hbehind.verdict]
    exact hkeeps hdetected hinit hfirst
  · refine (verdict_steps_of_off hoff hforce htest).trans ?_
    rw [hforced]
    rfl

/-- A forced classification that outlives the time without detection. The first port is connected; its
detection is switched off, a classification is forced, and the detection is switched on again before
the manager ticks. Behind two ticks the forced classification is still published. -/
theorem forced_until_restart_in_time :
    ∃ fresh : Controller Multiplexer,
      Controller.new {} {} { detection := { resetMs := 0, floatMs := 0, connectMs := 0 } }
          = .ok fresh ∧
        let c := fresh.steps (List.replicate 8 .manage ++ [.enable .p1 false])
        let second := (c.step (.force .p1 ⟨.nxtIic, .nxtIic⟩)).steps
          [.enable .p1 true, .manage, .manage]
        c.manager.mayForce .p1 = true ∧ (second.portState .p1).stage.undetected = false ∧
          (second.portState .p1).verdict = ⟨.nxtIic, .nxtIic⟩ := by
  refine ⟨_, rfl, ?_⟩
  intro c second
  have hnew : Controller.new ({} : Multiplexer) {}
    { detection := { resetMs := 0, floatMs := 0, connectMs := 0 } } = .ok _ := rfl
  have hreachable : c.Reachable := (Reachable.new hnew).steps _
  have hmay : c.manager.mayForce .p1 = true := by decide +kernel
  have hstays : ∀ before : List (Step Multiplexer), before <+: [] →
      (((c.step (.force .p1 ⟨.nxtIic, .nxtIic⟩)).steps before).portState .p1).enabled = false := by
    intro before hbefore
    rw [List.prefix_nil.mp hbefore]
    decide +kernel
  have hidle : ∀ step ∈ ([] ++ [] ++ [] : List (Step Multiplexer)), step.isIdle = true := by simp
  have hrunning : (c.step (.force .p1 ⟨.nxtIic, .nxtIic⟩)).manager.isRunning = true := by
    decide +kernel
  obtain ⟨-, hkeeps, hforced⟩ := forced_until_restart hreachable hmay hstays hidle hrunning
  -- the port waits for its device to go, both then and behind the first tick
  obtain ⟨hundetected, hverdict⟩ := hkeeps (by decide +kernel) (by decide +kernel)
  have hkept := hverdict.resolve_right fun hcheck => absurd hcheck.1 (by decide +kernel)
  have hforced' := hkept.trans (hforced (by simp) (by simp))
  simp only [List.nil_append, steps_cons, steps_nil] at hundetected hforced'
  simp only [second, steps_cons, steps_nil]
  exact ⟨hmay, hundetected, hforced'⟩

end Controller

end PlugWatch
