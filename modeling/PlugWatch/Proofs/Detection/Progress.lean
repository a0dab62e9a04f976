import PlugWatch.Proofs.Detection.Move
/-!
# How far detection gets in a tick

What user space sees of an input port is whether it is connected and what is published about it. Both
are written by many stages of the watch. This file says once how a tick can change them, and from
which stages to which, so that a law about them is proved by cases on what the tick was.

## Main Definitions

* `Stage.undetected`, `Stage.engaged`, `Stage.settled` : the stages before and after a device has
  been found.
* `PortState.Progress` : what a tick can do while detection is on.

## Main Statements

* `firstMatch_of_mem` : a table with a row that always holds decides always.
* `PortState.progress_tick` : every tick with detection on is one of these.
* `PortState.enabled_tick` : no tick switches detection on or off.
* `PortState.tick_eq_of_off` : with detection off, a tick takes the port to be connected, publishes
  nothing, and gives up a session.
-/

namespace PlugWatch

namespace Stage

/-- Whether a port is released to be watched for a plug, or waits for conditions to be acted on. -/
def searching : Stage → Bool
  | floatingDelay | floating | connection => true
  | _ => false

/-- Whether conditions have held on an input port and the device is about to be identified. -/
def probing : Stage → Bool
  | pin2Low | pin1Loaded | pin6High | pin5Low => true
  | _ => false

/-- Whether nothing has been identified on an input port so far. -/
def undetected (stage : Stage) : Bool := stage.searching || stage.probing

/-- Whether the watch of an input port waits for the device to be taken away. -/
def settled : Stage → Bool
  | connectedWaitingForPin2High | connectedWaitingForPin1ToFloat | connectedWaitingForPin6Low
  | connectedWaitingForPin5High => true
  | _ => false

/-- Whether a device has been found on an input port. -/
def engaged (stage : Stage) : Bool :=
  stage.settled || stage.inColorSession || stage = nxtTouchCheck

/-- Whether a stage is one of output ports only. -/
def ofOutput : Stage → Bool
  | waitingForPin5Low | waitingForPin6Low | connectedWaitingForPortOpen => true
  | _ => false

/-- No stage is in front of the detection and behind it. -/
theorem engaged_of_undetected {stage : Stage} (h : stage.undetected = true) :
    stage.engaged = false := by
  cases stage <;> first | rfl | cases h

theorem undetected_of_engaged {stage : Stage} (h : stage.engaged = true) :
    stage.undetected = false := by
  cases stage <;> first | rfl | cases h

theorem undetected_of_searching {stage : Stage} (h : stage.searching = true) :
    stage.undetected = true := by
  rw [undetected, h]
  rfl

theorem undetected_of_probing {stage : Stage} (h : stage.probing = true) :
    stage.undetected = true := by
  rw [undetected, h, Bool.or_true]

theorem engaged_of_settled {stage : Stage} (h : stage.settled = true) : stage.engaged = true := by
  rw [engaged, h]
  rfl

theorem engaged_of_inColorSession {stage : Stage} (h : stage.inColorSession = true) :
    stage.engaged = true := by
  rw [engaged, h, Bool.or_true]
  rfl

end Stage

/-! ## Tables -/

/-- The first row of a table decides, or the rest of the table does. -/
theorem firstMatch_cons {Probe Verdict : Type} (first : Rule Probe Verdict)
    (rules : List (Rule Probe Verdict)) (probe : Probe) :
    firstMatch (first :: rules) probe =
      if first.holds probe then some first else firstMatch rules probe := by
  unfold firstMatch
  rw [List.find?_cons]
  cases first.holds probe <;> rfl

/-- A table with a row that always holds decides always, and by one of its rows. -/
theorem firstMatch_of_mem {Probe Verdict : Type} (rules : List (Rule Probe Verdict)) (probe : Probe)
    {last : Rule Probe Verdict} (hmem : last ∈ rules) (hholds : last.holds probe = true) :
    ∃ rule ∈ rules, firstMatch rules probe = some rule := by
  have hsome : (firstMatch rules probe).isSome = true :=
    List.find?_isSome.mpr ⟨last, hmem, hholds⟩
  obtain ⟨rule, hrule⟩ := Option.isSome_iff_exists.mp hsome
  exact ⟨rule, List.mem_of_find?_eq_some hrule, hrule⟩

/-- A legacy rule publishes a device and goes on with waiting for its end or with a colour session;
or it publishes nothing and goes on with the confirmation of a touch sensor. -/
theorem legacyRules_decide {rule : Rule LegacyProbe LegacyVerdict} (h : rule ∈ legacyRules)
    (linked : Bool) :
    let verdict := InputScene.withoutLink linked rule.verdict
    ((verdict.next.settled = true ∨ verdict.next = .nxtColorInit) ∧
        ∃ classification ≠ Classification.none, verdict.classification = some classification) ∨
      (verdict.next = .nxtTouchCheck ∧ verdict.classification = none) := by
  have hall : ∀ verdict ∈ legacyRules.map Rule.verdict, ∀ linked,
      (((InputScene.withoutLink linked verdict).next.settled = true ∨
            (InputScene.withoutLink linked verdict).next = .nxtColorInit) ∧
          (InputScene.withoutLink linked verdict).classification ≠ some .none ∧
          (InputScene.withoutLink linked verdict).classification ≠ none) ∨
        ((InputScene.withoutLink linked verdict).next = .nxtTouchCheck ∧
          (InputScene.withoutLink linked verdict).classification = none) := by
    decide
  rcases hall _ (List.mem_map_of_mem h) linked with ⟨hnext, hne, hsome⟩ | hcheck
  · obtain ⟨classification, hclass⟩ := Option.ne_none_iff_exists'.mp hsome
    exact .inl ⟨hnext, classification, fun hnone => hne (hnone ▸ hclass), hclass⟩
  · exact .inr hcheck

theorem loadedRules_decide {rule : Rule LoadedProbe Classification} (h : rule ∈ loadedRules) :
    rule.verdict ≠ .none := by
  have hall : ∀ verdict ∈ loadedRules.map Rule.verdict, verdict ≠ .none := by decide
  exact hall _ (List.mem_map_of_mem h)

/-- Conditions lead to the identification of a device, or back to the first stage. -/
theorem InputScene.stageOf_cases (conditions : Conditions) :
    (stageOf conditions).probing = true ∨ stageOf conditions = .init := by
  unfold stageOf
  split
  · exact .inl rfl
  · split
    · exact .inl rfl
    · split
      · exact .inl rfl
      · split
        · exact .inl rfl
        · exact .inr rfl

theorem touchOrSound_ne_none (before now : UInt16) :
    InputScene.touchOrSound before now ≠ .none := by
  unfold InputScene.touchOrSound
  split <;> decide

namespace PortState

/-- What is published about the port. -/
def verdict (state : PortState) : Classification := state.socket.verdict

/-- Whether a device is taken to be connected. -/
def connected (state : PortState) : Bool := state.watch.connected

/-- Whether detection is on. -/
def enabled (state : PortState) : Bool := state.watch.enabled

/-- What a tick can do to a port whose detection is on, by the stage it comes from and the stage it
goes to. -/
inductive Progress (before after : PortState) : Prop where
  /-- Detection starts over: the port is not connected, publishes nothing, has left colour mode, and
  its session is stopped. -/
  | restart (hbefore : before.stage = .init) (hafter : after.stage = .floatingDelay)
      (hconnected : after.connected = false) (hverdict : after.verdict = .none)
      (hactive : after.handshake.active = false)
      (hsession : after.session = before.session.map Session.stop)
  /-- Nothing is known yet, and nothing else is touched. -/
  | search (hbefore : before.stage.searching = true)
      (hafter : after.stage.undetected = true ∨ after.stage = .init)
      (hconnected : after.connected = before.connected) (hverdict : after.verdict = before.verdict)
      (hhandshake : after.handshake = before.handshake) (hsession : after.session = before.session)
  /-- A device is identified and published. -/
  | identify (hbefore : before.stage.probing = true)
      (hafter : after.stage.settled = true ∨ after.stage = .nxtColorInit)
      (hconnected : after.connected = true) (hverdict : after.verdict ≠ .none)
  /-- A touch sensor is suspected: the port is connected already, but nothing is published. -/
  | suspect (hbefore : before.stage = .pin2Low) (hafter : after.stage = .nxtTouchCheck)
      (hconnected : after.connected = true) (hverdict : after.verdict = before.verdict)
  /-- The suspicion is settled one way or the other. -/
  | confirm (hbefore : before.stage = .nxtTouchCheck)
      (hafter : after.stage = .connectedWaitingForPin2High)
      (hconnected : after.connected = before.connected) (hverdict : after.verdict ≠ .none)
  /-- The device stays; a colour session goes on or ends. -/
  | stay (hbefore : before.stage.engaged = true)
      (hafter : after.stage = before.stage ∨ (before.stage.inColorSession = true ∧
        (after.stage.inColorSession = true ∨ after.stage = .connectedWaitingForPin2High)))
      (hconnected : after.connected = before.connected) (hverdict : after.verdict = before.verdict)
  /-- The device is gone. What is published about it stays until the next tick. -/
  | disconnect (hbefore : before.stage.settled = true) (hafter : after.stage = .init)
      (hconnected : after.connected = false) (hverdict : after.verdict = before.verdict)
  /-- Detection is on again, or the stage is none of an input port. -/
  | resume (hbefore : before.stage = .disabled ∨ before.stage.ofOutput = true)
      (hafter : after.stage = .init) (hconnected : after.connected = before.connected)
      (hverdict : after.verdict = before.verdict)

section Handlers

variable {scene : InputScene Session} (config : DetectionConfig) (port : Port) (pin1 : UInt16)

theorem progress_onInit (hstage : scene.watch.stage = .init) :
    Progress (ofScene scene) (ofScene (scene.onInit port)) := by
  obtain ⟨journal, hstop⟩ := stopSession_eq port
    (scene.mapHandshake fun handshake => { handshake with active := false })
  unfold InputScene.onInit
  dsimp only
  rw [hstop]
  exact .restart hstage rfl rfl rfl rfl rfl

theorem progress_onFloatingDelay (hstage : scene.watch.stage = .floatingDelay) :
    Progress (ofScene scene) (ofScene (scene.onFloatingDelay config)) := by
  have hsearching : (ofScene scene).stage.searching = true := by rw [stage, ofScene, hstage]; rfl
  unfold InputScene.onFloatingDelay
  dsimp only
  split
  · exact .search hsearching (.inl rfl) rfl rfl rfl rfl
  · refine .search hsearching (.inl ?_) rfl rfl rfl rfl
    show scene.watch.stage.undetected = true
    rw [hstage]
    rfl

theorem progress_onFloating (hstage : scene.watch.stage = .floating) :
    Progress (ofScene scene) (ofScene (scene.onFloating config port pin1)) := by
  have hsearching : (ofScene scene).stage.searching = true := by rw [stage, ofScene, hstage]; rfl
  have hstays : scene.watch.stage.undetected = true := by rw [hstage]; rfl
  have hnext : ∀ more : Prop, [Decidable more] →
      (if more then Stage.connection else Stage.floating).undetected = true := by
    intro more _
    split <;> rfl
  unfold InputScene.onFloating
  dsimp only
  split <;> split
  · exact .search hsearching (.inl hstays) rfl rfl rfl rfl
  · exact .search hsearching (.inl hstays) rfl rfl rfl rfl
  · exact .search hsearching (.inl (hnext _)) rfl rfl rfl rfl
  · exact .search hsearching (.inl (hnext _)) rfl rfl rfl rfl

theorem progress_onConnection (hstage : scene.watch.stage = .connection) :
    Progress (ofScene scene) (ofScene scene.onConnection) := by
  refine .search ?_ ?_ rfl rfl rfl rfl
  · rw [stage, ofScene, hstage]
    rfl
  · exact (InputScene.stageOf_cases scene.watch.conditions).imp_left Stage.undetected_of_probing

/-- A legacy sensor is identified by a row of the table, which says where to go on and may say what
to publish. -/
theorem exists_rule_onPin2Low (scene : InputScene Session) :
    ∃ rule ∈ legacyRules, ∃ verdict,
      InputScene.withoutLink scene.link.isSome rule.verdict = verdict ∧
      (ofScene (scene.onPin2Low port pin1)).stage = verdict.next ∧
      (ofScene (scene.onPin2Low port pin1)).connected = true ∧
      (ofScene (scene.onPin2Low port pin1)).verdict =
        verdict.classification.getD (ofScene scene).verdict := by
  -- the last row of the table always holds
  obtain ⟨last, -, hlast⟩ := firstMatch_of_mem legacyRules ⟨scene.watch.conditions, pin1⟩
    (List.mem_of_getLast? (show legacyRules.getLast? = some _ from rfl)) rfl
  unfold InputScene.onPin2Low
  dsimp only
  split
  · rename_i hnone
    exact absurd (hlast.symm.trans hnone) nofun
  · rename_i rule hrule
    refine ⟨rule, List.mem_of_find?_eq_some hrule, _, rfl, ?_⟩
    split
    · rename_i classification hclass
      have hpublished := congrArg (fun published => Option.getD published (ofScene scene).verdict)
        hclass
      split <;> exact ⟨rfl, rfl, hpublished.symm⟩
    · rename_i hclass
      have hpublished := congrArg (fun published => Option.getD published (ofScene scene).verdict)
        hclass
      split <;> exact ⟨rfl, rfl, hpublished.symm⟩

theorem progress_onPin2Low (hstage : scene.watch.stage = .pin2Low) :
    Progress (ofScene scene) (ofScene (scene.onPin2Low port pin1)) := by
  have hprobing : (ofScene scene).stage.probing = true := by rw [stage, ofScene, hstage]; rfl
  obtain ⟨rule, hmem, verdict, rfl, hnext, hconnected, hverdict⟩ :=
    exists_rule_onPin2Low port pin1 scene
  rcases legacyRules_decide hmem scene.link.isSome with
    ⟨hafter, classification, hne, hclass⟩ | ⟨hcheck, hclass⟩
  · rw [hclass] at hverdict
    rw [← hnext] at hafter
    exact .identify hprobing hafter hconnected (hverdict ▸ hne)
  · rw [hclass] at hverdict
    exact .suspect hstage (hnext.trans hcheck) hconnected hverdict

theorem progress_onTouchCheck (hstage : scene.watch.stage = .nxtTouchCheck) :
    Progress (ofScene scene) (ofScene (scene.onTouchCheck config pin1)) := by
  unfold InputScene.onTouchCheck
  dsimp only
  split
  · exact .confirm hstage rfl rfl (touchOrSound_ne_none _ _)
  · refine .stay ?_ (.inl rfl) rfl rfl
    rw [stage, ofScene, hstage]
    rfl

theorem progress_onColorInit (hstage : scene.watch.stage = .nxtColorInit) :
    Progress (ofScene scene) (ofScene (scene.onColorInit port)) := by
  have hengaged : (ofScene scene).stage.engaged = true := by rw [stage, ofScene, hstage]; rfl
  have hcolor : (ofScene scene).stage.inColorSession = true := by rw [stage, ofScene, hstage]; rfl
  obtain ⟨journal, hstop⟩ := stopSession_eq port
    (scene.mapHandshake fun handshake => { handshake with command := 0 })
  unfold InputScene.onColorInit
  dsimp only
  split
  · rw [hstop]
    exact .stay hengaged (.inr ⟨hcolor, .inl rfl⟩) rfl rfl
  · exact .stay hengaged (.inr ⟨hcolor, .inr rfl⟩) rfl rfl

theorem progress_onColorWait (hstage : scene.watch.stage = .nxtColorWait) :
    Progress (ofScene scene) (ofScene (scene.onColorWait port)) := by
  have hengaged : (ofScene scene).stage.engaged = true := by rw [stage, ofScene, hstage]; rfl
  have hcolor : (ofScene scene).stage.inColorSession = true := by rw [stage, ofScene, hstage]; rfl
  unfold InputScene.onColorWait
  split
  · exact .stay hengaged (.inr ⟨hcolor, .inr rfl⟩) rfl rfl
  · split
    · exact .stay hengaged (.inr ⟨hcolor, .inl rfl⟩) rfl rfl
    · exact .stay hengaged (.inl rfl) rfl rfl

theorem progress_onColorBusy (hstage : scene.watch.stage = .nxtColorBusy) :
    Progress (ofScene scene) (ofScene (scene.onColorBusy config port)) := by
  have hengaged : (ofScene scene).stage.engaged = true := by rw [stage, ofScene, hstage]; rfl
  have hcolor : (ofScene scene).stage.inColorSession = true := by rw [stage, ofScene, hstage]; rfl
  unfold InputScene.onColorBusy
  split
  · exact .stay hengaged (.inr ⟨hcolor, .inr rfl⟩) rfl rfl
  · rename_i session hlink
    dsimp only
    by_cases hready : ColorProtocol.ready session port = true
    · obtain ⟨journal, hcollect⟩ :=
        collect_eq port scene (ColorProtocol.response session port)
      rw [if_pos hready, hcollect]
      split
      · -- collected, and late all the same
        rw [ofScene_giveUp]
        exact .stay hengaged (.inr ⟨hcolor, .inr rfl⟩) rfl rfl
      · exact .stay hengaged (.inr ⟨hcolor, .inr rfl⟩) rfl rfl
    · rw [if_neg hready]
      split
      · rw [ofScene_giveUp]
        exact .stay hengaged (.inr ⟨hcolor, .inr rfl⟩) rfl rfl
      · exact .stay hengaged (.inl rfl) rfl rfl

theorem progress_awaitRelease (hstage : scene.watch.stage.settled = true) (limit : UInt16)
    (released : Bool) :
    Progress (ofScene scene) (ofScene (scene.awaitRelease port limit released)) := by
  have hengaged : (ofScene scene).stage.engaged = true := by
    rw [stage, ofScene, Stage.engaged, hstage]
    rfl
  unfold InputScene.awaitRelease
  split
  · dsimp only
    split
    · exact .disconnect hstage rfl rfl rfl
    · exact .stay hengaged (.inl rfl) rfl rfl
  · exact .stay hengaged (.inl rfl) rfl rfl

theorem progress_onPin1Loaded (hstage : scene.watch.stage = .pin1Loaded) :
    Progress (ofScene scene) (ofScene (scene.onPin1Loaded port pin1)) := by
  have hprobing : (ofScene scene).stage.probing = true := by rw [stage, ofScene, hstage]; rfl
  unfold InputScene.onPin1Loaded
  dsimp only
  obtain ⟨rule, hmem, hrule⟩ := firstMatch_of_mem loadedRules ⟨pin1⟩
    (List.mem_of_getLast? (show loadedRules.getLast? = some _ from rfl)) rfl
  rw [hrule]
  exact .identify hprobing (.inl rfl) rfl (loadedRules_decide hmem)

theorem progress_onDisabled (hstage : scene.watch.stage = .disabled)
    (hon : scene.watch.enabled = true) :
    Progress (ofScene scene) (ofScene (scene.onDisabled port)) := by
  unfold InputScene.onDisabled
  rw [if_pos hon]
  exact .resume (.inl hstage) rfl rfl rfl

/-- What a stage does while detection is on is progress. -/
theorem progress_act (hon : scene.watch.enabled = true) :
    Progress (ofScene scene) (ofScene (scene.act config port pin1)) := by
  unfold InputScene.act
  cases hstage : scene.watch.stage with
  | init => exact progress_onInit port hstage
  | floatingDelay => exact progress_onFloatingDelay config hstage
  | floating => exact progress_onFloating config port pin1 hstage
  | connection => exact progress_onConnection hstage
  | pin2Low => exact progress_onPin2Low port pin1 hstage
  | nxtTouchCheck => exact progress_onTouchCheck config pin1 hstage
  | nxtColorInit => exact progress_onColorInit port hstage
  | nxtColorWait => exact progress_onColorWait port hstage
  | nxtColorBusy => exact progress_onColorBusy config port hstage
  | connectedWaitingForPin2High => exact progress_awaitRelease port (by rw [hstage]; rfl) _ _
  | pin1Loaded => exact progress_onPin1Loaded port pin1 hstage
  | connectedWaitingForPin1ToFloat => exact progress_awaitRelease port (by rw [hstage]; rfl) _ _
  | pin6High =>
    exact .identify (by rw [stage, ofScene, hstage]; rfl) (.inl rfl) rfl nofun
  | connectedWaitingForPin6Low => exact progress_awaitRelease port (by rw [hstage]; rfl) _ _
  | pin5Low =>
    exact .identify (by rw [stage, ofScene, hstage]; rfl) (.inl rfl) rfl nofun
  | connectedWaitingForPin5High => exact progress_awaitRelease port (by rw [hstage]; rfl) _ _
  | disabled => exact progress_onDisabled port hstage hon
  | waitingForPin5Low => exact .resume (.inr (by rw [stage, ofScene, hstage]; rfl)) rfl rfl rfl
  | waitingForPin6Low => exact .resume (.inr (by rw [stage, ofScene, hstage]; rfl)) rfl rfl rfl
  | connectedWaitingForPortOpen =>
    exact .resume (.inr (by rw [stage, ofScene, hstage]; rfl)) rfl rfl rfl

/-- No stage switches detection on or off. -/
theorem enabled_act : (scene.act config port pin1).watch.enabled = scene.watch.enabled := by
  have hstop : ∀ scene : InputScene Session,
      (scene.stopSession port).watch.enabled = scene.watch.enabled := by
    intro scene
    rw [InputScene.watch_stopSession]
  have hawait : ∀ limit released,
      (scene.awaitRelease port limit released).watch.enabled = scene.watch.enabled := by
    intro limit released
    unfold InputScene.awaitRelease
    split
    · dsimp only
      split <;> rfl
    · rfl
  unfold InputScene.act
  cases scene.watch.stage with
  | init => exact hstop _
  | floatingDelay =>
    dsimp only [InputScene.onFloatingDelay]
    split <;> rfl
  | floating =>
    dsimp only [InputScene.onFloating]
    split <;> split <;> rfl
  | pin2Low =>
    dsimp only [InputScene.onPin2Low]
    split
    · rfl
    · split <;> split <;> rfl
  | nxtTouchCheck =>
    dsimp only [InputScene.onTouchCheck]
    split <;> rfl
  | nxtColorInit =>
    dsimp only [InputScene.onColorInit]
    split
    · exact hstop _
    · rfl
  | nxtColorWait =>
    dsimp only [InputScene.onColorWait]
    split
    · rfl
    · split <;> rfl
  | nxtColorBusy =>
    dsimp only [InputScene.onColorBusy]
    split
    · rfl
    · rename_i session _
      obtain ⟨journal, hcollect⟩ := collect_eq port scene (ColorProtocol.response session port)
      rw [hcollect]
      split <;> split <;> first | exact hstop _ | rfl
  | pin1Loaded =>
    dsimp only [InputScene.onPin1Loaded]
    split <;> rfl
  | disabled =>
    dsimp only [InputScene.onDisabled]
    split
    · rfl
    · split
      · exact hstop _
      · rfl
  | connectedWaitingForPin2High => exact hawait _ _
  | connectedWaitingForPin1ToFloat => exact hawait _ _
  | connectedWaitingForPin6Low => exact hawait _ _
  | connectedWaitingForPin5High => exact hawait _ _
  | _ => rfl

end Handlers

theorem Progress.remember {before after : PortState} (h : Progress before after)
    (lastStage : Stage) :
    Progress before { after with watch := { after.watch with lastStage := lastStage } } := by
  cases h with
  | restart hbefore hafter hconnected hverdict hactive hsession =>
    exact .restart hbefore hafter hconnected hverdict hactive hsession
  | search hbefore hafter hconnected hverdict hhandshake hsession =>
    exact .search hbefore hafter hconnected hverdict hhandshake hsession
  | identify hbefore hafter hconnected hverdict =>
    exact .identify hbefore hafter hconnected hverdict
  | suspect hbefore hafter hconnected hverdict =>
    exact .suspect hbefore hafter hconnected hverdict
  | confirm hbefore hafter hconnected hverdict =>
    exact .confirm hbefore hafter hconnected hverdict
  | stay hbefore hafter hconnected hverdict => exact .stay hbefore hafter hconnected hverdict
  | disconnect hbefore hafter hconnected hverdict =>
    exact .disconnect hbefore hafter hconnected hverdict
  | resume hbefore hafter hconnected hverdict => exact .resume hbefore hafter hconnected hverdict

section Stages

variable {before after : PortState} (progress : Progress before after)
include progress

/-- Progress from the first stage leaves nothing of the port. -/
theorem Progress.of_init (hstage : before.stage = .init) :
    after.stage = .floatingDelay ∧ after.connected = false ∧ after.verdict = .none := by
  cases progress with
  | restart hbefore hafter hconnected hverdict => exact ⟨hafter, hconnected, hverdict⟩
  | search hbefore | identify hbefore | suspect hbefore | confirm hbefore | stay hbefore
  | disconnect hbefore | resume hbefore => exact absurd hbefore (by rw [hstage]; decide)

/-- Progress of a port that waits for its released pins to settle changes nothing that is seen of
it. -/
theorem Progress.of_floatingDelay (hstage : before.stage = .floatingDelay) :
    after.connected = before.connected ∧ after.verdict = before.verdict := by
  cases progress with
  | search hbefore hafter hconnected hverdict => exact ⟨hconnected, hverdict⟩
  | restart hbefore | identify hbefore | suspect hbefore | confirm hbefore | stay hbefore
  | disconnect hbefore | resume hbefore => exact absurd hbefore (by rw [hstage]; decide)

/-- A port that is out of detection gets back to the first stage. -/
theorem Progress.of_disabled (hstage : before.stage = .disabled) : after.stage = .init := by
  cases progress with
  | disconnect hbefore hafter | resume hbefore hafter => exact hafter
  | restart hbefore | search hbefore | identify hbefore | suspect hbefore | confirm hbefore
  | stay hbefore => exact absurd hbefore (by rw [hstage]; decide)

end Stages

/-- **Every tick with detection on is progress.** -/
theorem progress_tick (config : DetectionConfig) (port : Port) (pin1 : UInt16) {state : PortState}
    (hon : state.enabled = true) : Progress state (state.tick config port pin1) := by
  have hgate : state.scene.gate = state.scene := if_pos hon
  obtain ⟨lastStage, hsettle⟩ := ofScene_settle port (state.scene.gate.act config port pin1)
  show Progress state (ofScene ((state.scene.gate.act config port pin1).settle port))
  have hact : Progress (ofScene state.scene) (ofScene (state.scene.act config port pin1)) :=
    progress_act config port pin1 hon
  rw [hsettle, hgate]
  exact hact.remember lastStage

/-- No tick switches detection on or off. -/
theorem enabled_tick (config : DetectionConfig) (port : Port) (pin1 : UInt16) (state : PortState) :
    (state.tick config port pin1).enabled = state.enabled := by
  have hgate : state.scene.gate.watch.enabled = state.enabled := by
    unfold InputScene.gate
    split <;> rfl
  obtain ⟨lastStage, hsettle⟩ := ofScene_settle port (state.scene.gate.act config port pin1)
  show (ofScene ((state.scene.gate.act config port pin1).settle port)).enabled = state.enabled
  rw [hsettle]
  exact (enabled_act config port pin1).trans hgate

/-- With detection off, a tick takes the port out of detection and makes it count as connected. It gives
up the session of a port that was in the middle of one, and touches nothing else. -/
theorem tick_eq_of_off (config : DetectionConfig) (port : Port) (pin1 : UInt16) {state : PortState}
    (hoff : state.enabled = false) :
    state.tick config port pin1 =
      { watch := { state.watch with
          stage := .disabled, lastStage := .disabled, timer := 0, connected := true }
        socket := state.socket
        session :=
          if state.watch.lastStage.inColorSession then state.session.map Session.stop
          else state.session } := by
  have hgate : state.scene.gate = state.scene.goTo .disabled :=
    if_neg (by rw [show state.scene.watch.enabled = false from hoff]; nofun)
  have hact : ∃ journal, (state.scene.goTo .disabled).act config port pin1 =
      { watch := { state.watch with stage := .disabled, timer := 0, connected := true }
        socket := state.socket
        link :=
          if state.watch.lastStage.inColorSession then state.session.map Session.stop
          else state.session
        journal := journal } := by
    show ∃ journal, (state.scene.goTo .disabled).onDisabled port = _
    unfold InputScene.onDisabled
    rw [if_neg (by rw [show (state.scene.goTo .disabled).watch.enabled = false from hoff]; nofun)]
    dsimp only
    obtain ⟨journal, hstop⟩ := stopSession_eq port (state.scene.goTo .disabled)
    rw [hstop]
    by_cases hsession : state.watch.lastStage.inColorSession = true
    · rw [if_pos hsession, if_pos (show (state.scene.goTo .disabled).watch.lastStage.inColorSession
        = true from hsession)]
      exact ⟨_, rfl⟩
    · rw [if_neg hsession, if_neg (show ¬(state.scene.goTo .disabled).watch.lastStage.inColorSession
        = true from hsession)]
      exact ⟨_, rfl⟩
  obtain ⟨journal, hact⟩ := hact
  show ofScene ((state.scene.gate.act config port pin1).settle port) = _
  rw [hgate, hact]
  -- the stage is remembered, or was the last one already
  unfold InputScene.settle
  dsimp only
  split
  · rename_i hlast
    rw [hlast]
    rfl
  · rfl

/-- With detection off, a tick takes the port out of detection: it counts as connected, and what is
published about it stays. -/
theorem tick_of_off (config : DetectionConfig) (port : Port) (pin1 : UInt16) {state : PortState}
    (hoff : state.enabled = false) :
    (state.tick config port pin1).stage = .disabled ∧
      (state.tick config port pin1).connected = true ∧
      (state.tick config port pin1).verdict = state.verdict := by
  rw [tick_eq_of_off config port pin1 hoff]
  exact ⟨rfl, rfl, rfl⟩

end PortState

end PlugWatch
