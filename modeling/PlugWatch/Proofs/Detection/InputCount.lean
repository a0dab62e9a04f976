import PlugWatch.Proofs.Color.Timeout
import PlugWatch.Proofs.Detection.Debounce
/-!
# The count of an input port

The watch of an input port counts ticks in one word, whatever it waits for. A count goes on only while it
is below its limit, which is a word as well, so there is room for the tick. The count of a session is the
one exception: it is compared with its limit the other way, so it goes on at the limit itself. Where the
link is lost in the middle of a session, that count is carried over into the wait for the device to go.

## Main Definitions

* `InputScene.Counted` : what a tick does to the stage and the count of a port.
* `InputWatch.Bounded` : the counts that a stage allows.

## Main Statements

* `InputScene.counted` : every tick does one of those things.
* `InputScene.count_full_iff` : the counts that overflow.
-/

namespace PlugWatch

/-! ## Limits -/

namespace Stage

/-- The highest count with which a tick can leave an input port in a stage in which it goes on counting:
all limits but the one of a session are tested before the count reaches them. -/
def inputRoom (config : DetectionConfig) : Stage → Nat
  | nxtColorBusy => config.colorTimeoutTicks.toNat
  | _ => 65534

/-- The highest count of an input port in a stage. A port that waits for a session has counted nothing
before; one that lost its link in the middle of a session keeps the count. -/
def inputCeiling (config : DetectionConfig) : Stage → Nat
  | floatingDelay | floating | nxtTouchCheck | connectedWaitingForPin1ToFloat
  | connectedWaitingForPin6Low | connectedWaitingForPin5High => 65534
  | nxtColorWait => 0
  | nxtColorBusy => config.colorTimeoutTicks.toNat
  | connectedWaitingForPin2High => max 65534 config.colorTimeoutTicks.toNat
  | _ => 65535

/-- The stages in which an input port counts nothing. -/
def still : Stage → Bool
  | floatingDelay | floating | nxtTouchCheck | nxtColorBusy => false
  | stage => !stage.settled

end Stage

/-! ## Counts of input ports -/

/-- The count of a watch is one that its stage allows. -/
def InputWatch.Bounded (config : DetectionConfig) (watch : InputWatch) : Prop :=
  watch.timer.toNat ≤ watch.stage.inputCeiling config

namespace InputScene

variable {κ : Type} (config : DetectionConfig) (port : Port) (pin1 : UInt16) (scene : InputScene κ)

variable [ColorProtocol κ]

/-- The port waits for a session that is not over. -/
def unanswered : Bool :=
  scene.waits && scene.link.any fun link => !ColorProtocol.ready link port

/-- What a tick can do to the stage and the count of a port. -/
inductive Counted (before after : InputScene κ) : Prop where
  /-- The count starts anew. -/
  | clear (htimer : after.watch.timer = 0) (hbusy : after.watch.stage ≠ .nxtColorBusy)
  /-- There are no conditions, as in the tick before. -/
  | idle (hnone : before.count? config port pin1 = none)
      (htimer : after.watch.timer = before.watch.timer)
      (hbefore : before.watch.stage = .floating) (hafter : after.watch.stage = .floating)
  /-- The port goes on to a stage in which the count does not matter. -/
  | pass (hnone : before.count? config port pin1 = none)
      (htimer : after.watch.timer = before.watch.timer)
      (hafter : after.watch.stage.probing = true ∨ after.watch.stage = .init)
  /-- A session is about to start. -/
  | prepare (hnone : before.count? config port pin1 = none)
      (htimer : after.watch.timer = before.watch.timer)
      (hbefore : before.watch.stage = .nxtColorWait)
      (hafter : after.watch.stage = .nxtColorWait ∨ after.watch.stage = .nxtColorBusy ∨
        after.watch.stage = .connectedWaitingForPin2High)
  /-- There is no link any more that could answer. -/
  | lose (hnone : before.count? config port pin1 = none)
      (htimer : after.watch.timer = before.watch.timer)
      (hwaits : before.waits = true) (hlink : before.link = none)
      (hafter : after.watch.stage = .connectedWaitingForPin2High)
  /-- The tick is counted, and the port stays. -/
  | stay {count : UInt16} (hcount : before.count? config port pin1 = some count)
      (htimer : after.watch.timer = count + 1)
      (hstage : after.watch.stage = before.watch.stage)
      (hroom : (count + 1).toNat ≤ before.watch.stage.inputRoom config)
      (hbusy : before.watch.stage = .nxtColorBusy → count = before.watch.timer)
  /-- The tick is counted, and the port goes on; the count is not looked at again, unless it is the first
  tick behind an answer. -/
  | leave {count : UInt16} (hcount : before.count? config port pin1 = some count)
      (htimer : after.watch.timer = count + 1)
      (hstage : after.watch.stage = .connection ∨ after.watch.stage = .init ∨
        (after.watch.stage = .connectedWaitingForPin2High ∧ count = 0))

section Stages

variable {config port pin1 scene}

theorem Counted.of_eq {acted after : InputScene κ} (h : scene.Counted config port pin1 acted)
    (hstage : after.watch.stage = acted.watch.stage)
    (htimer : after.watch.timer = acted.watch.timer) : scene.Counted config port pin1 after := by
  cases h with
  | clear h hbusy => exact .clear (htimer.trans h) (hstage ▸ hbusy)
  | idle hnone h hbefore hafter => exact .idle hnone (htimer.trans h) hbefore (hstage.trans hafter)
  | pass hnone h hafter => exact .pass hnone (htimer.trans h) (hstage ▸ hafter)
  | prepare hnone h hbefore hafter => exact .prepare hnone (htimer.trans h) hbefore (hstage ▸ hafter)
  | lose hnone h hwaits hlink hafter =>
    exact .lose hnone (htimer.trans h) hwaits hlink (hstage.trans hafter)
  | stay hcount h hsame hroom hbusy =>
    exact .stay hcount (htimer.trans h) (hstage.trans hsame) hroom hbusy
  | leave hcount h hnext => exact .leave hcount (htimer.trans h) (hstage ▸ hnext)

/-- A port does not count in a stage in which it waits for nothing. -/
theorem count?_of_still (hstill : scene.watch.stage.still = true) :
    scene.count? config port pin1 = none := by
  unfold count? gone
  cases hstage : scene.watch.stage <;> rw [hstage] at hstill <;> first
    | exact ite_self _
    | cases hstill

/-- A count that is below its limit goes on, if it is not that of a session. -/
theorem Counted.of_rest {after : InputScene κ} {limit count : UInt16}
    (hcount : scene.count? config port pin1 = some count) (hrest : ¬limit ≤ count + 1)
    (hidle : scene.watch.stage ≠ .nxtColorBusy) (htimer : after.watch.timer = count + 1)
    (hstage : after.watch.stage = scene.watch.stage) : scene.Counted config port pin1 after := by
  have hroom : scene.watch.stage.inputRoom config = 65534 := by
    cases h : scene.watch.stage <;> first
      | rfl
      | exact absurd h hidle
  exact .stay hcount htimer hstage (hroom ▸ toNat_add_one_le_of_rest hrest)
    fun hbusy => absurd hbusy hidle

omit [ColorProtocol κ] in
/-- What a port does that waits for its device to go. -/
theorem awaitRelease_cases (port : Port) (scene : InputScene κ) (limit : UInt16) (released : Bool) :
    let after := scene.awaitRelease port limit released
    (released = false ∧ after.watch.timer = 0 ∧ after.watch.stage = scene.watch.stage) ∨
      (released = true ∧ after.watch.timer = scene.watch.timer + 1 ∧
        (after.watch.stage = .init ∨
          (after.watch.stage = scene.watch.stage ∧ ¬limit ≤ scene.watch.timer + 1))) := by
  unfold awaitRelease
  cases released with
  | false => exact .inl ⟨rfl, rfl, rfl⟩
  | true =>
    rw [if_pos rfl]
    dsimp only
    split
    · exact .inr ⟨rfl, rfl, .inl rfl⟩
    · rename_i hrest
      exact .inr ⟨rfl, rfl, .inr ⟨rfl, hrest⟩⟩

/-- The wait for the device to go counts the ticks at which it seems to be gone. -/
theorem counted_awaitRelease (hon : scene.watch.enabled = true)
    (hsettled : scene.watch.stage.settled = true) :
    scene.Counted config port pin1
      (scene.awaitRelease port config.releaseTicks (scene.gone config pin1)) := by
  have hcount : scene.count? config port pin1 =
      if scene.gone config pin1 then some scene.watch.timer else none := by
    unfold count?
    rw [if_pos hon]
    cases hstage : scene.watch.stage <;> first
      | rfl
      | (rw [hstage] at hsettled; cases hsettled)
  have hidle : scene.watch.stage ≠ .nxtColorBusy := by
    intro hbusy
    rw [hbusy] at hsettled
    cases hsettled
  rcases awaitRelease_cases port scene config.releaseTicks
    (scene.gone config pin1) with ⟨-, htimer, hstage⟩ | ⟨hgone, htimer, hinit | ⟨hstage, hrest⟩⟩
  · exact .clear htimer (hstage ▸ hidle)
  · rw [if_pos hgone] at hcount
    exact .leave hcount htimer (.inr (.inl hinit))
  · rw [if_pos hgone] at hcount
    exact .of_rest hcount hrest hidle htimer hstage

/-- The wait for conditions counts the ticks at which there are any, from the last change on. -/
theorem counted_onFloating (hon : scene.watch.enabled = true)
    (hstage : scene.watch.stage = .floating) :
    scene.Counted config port pin1 (scene.onFloating config port pin1) := by
  have hcount : scene.count? config port pin1 =
      if (scene.conditionsNow config pin1).isEmpty then none
      else some (recount scene.watch.conditions (scene.conditionsNow config pin1)
        scene.watch.timer) := by
    unfold count?
    rw [if_pos hon, hstage]
  unfold onFloating
  dsimp only
  generalize scene.conditionsNow config pin1 = seen at hcount ⊢
  unfold recount at hcount
  cases hempty : seen.isEmpty with
  | true =>
    rw [if_pos hempty] at hcount
    by_cases hsame : seen = scene.watch.conditions
    · rw [if_pos hsame, if_pos rfl]
      exact .idle hcount rfl hstage hstage
    · rw [if_neg hsame, if_pos rfl]
      exact .clear rfl (by rw [hstage]; nofun)
  | false =>
    rw [if_neg (by rw [hempty]; nofun)] at hcount
    rw [if_neg Bool.false_ne_true]
    have htimer : (if seen = scene.watch.conditions then scene
        else
          { scene with
            watch := { scene.watch with conditions := seen, timer := 0 }
            journal := scene.journal.push
              (.conditionsChanged .input port scene.watch.conditions seen) }).watch.timer =
        if seen = scene.watch.conditions then scene.watch.timer else 0 := by
      split <;> rfl
    rw [htimer]
    generalize (if seen = scene.watch.conditions then scene.watch.timer else 0) = count at hcount ⊢
    by_cases hfull : config.connectTicks ≤ count + 1
    · exact .leave hcount rfl (.inl (if_pos hfull))
    · exact .of_rest hcount hfull (by rw [hstage]; nofun) rfl ((if_neg hfull).trans hstage.symm)

/-- Identifying a legacy sensor starts the count anew. -/
theorem counted_onPin2Low (hstage : scene.watch.stage = .pin2Low) :
    scene.Counted config port pin1 (scene.onPin2Low port pin1) := by
  have hnext : ∀ rule ∈ legacyRules,
      (withoutLink scene.link.isSome rule.verdict).next ≠ .nxtColorBusy := by
    intro rule hrule hbusy
    have hordinary := PortState.ordinary_legacyRules hrule scene.link.isSome
    rw [hbusy] at hordinary
    cases hordinary
  have hidle : scene.watch.stage ≠ .nxtColorBusy := by rw [hstage]; nofun
  unfold onPin2Low
  dsimp only
  split
  · exact .clear rfl hidle
  · rename_i rule hrule
    have hidle := hnext rule (List.mem_of_find?_eq_some hrule)
    split <;> split <;> exact .clear rfl hidle

theorem counted_onTouchCheck (hon : scene.watch.enabled = true)
    (hstage : scene.watch.stage = .nxtTouchCheck) :
    scene.Counted config port pin1 (scene.onTouchCheck config pin1) := by
  have hcount : scene.count? config port pin1 = some scene.watch.timer := by
    unfold count?
    rw [if_pos hon, hstage]
  unfold onTouchCheck
  dsimp only
  split
  · exact .clear rfl nofun
  · rename_i hrest
    exact .of_rest hcount hrest (by rw [hstage]; nofun) rfl rfl

theorem counted_onFloatingDelay (hon : scene.watch.enabled = true)
    (hstage : scene.watch.stage = .floatingDelay) :
    scene.Counted config port pin1 (scene.onFloatingDelay config) := by
  have hcount : scene.count? config port pin1 = some scene.watch.timer := by
    unfold count?
    rw [if_pos hon, hstage]
  unfold onFloatingDelay
  dsimp only
  split
  · exact .clear rfl nofun
  · rename_i hrest
    exact .of_rest hcount hrest (by rw [hstage]; nofun) rfl rfl

theorem counted_onColorWait (hstage : scene.watch.stage = .nxtColorWait) :
    scene.Counted config port pin1 (scene.onColorWait port) := by
  have hnone : scene.count? config port pin1 = none := count?_of_still (by rw [hstage]; rfl)
  unfold onColorWait
  split
  · exact .prepare hnone rfl hstage (.inr (.inr rfl))
  · split
    · exact .prepare hnone rfl hstage (.inr (.inl rfl))
    · exact .prepare hnone rfl hstage (.inl hstage)

/-- The wait for a session counts the ticks without an answer, and the one with the answer from nothing
on. -/
theorem counted_onColorBusy (hon : scene.watch.enabled = true)
    (hstage : scene.watch.stage = .nxtColorBusy) :
    scene.Counted config port pin1 (scene.onColorBusy config port) := by
  have hcount : scene.count? config port pin1 =
      scene.link.map fun link => if ColorProtocol.ready link port then 0 else scene.watch.timer := by
    unfold count?
    rw [if_pos hon, hstage]
  unfold onColorBusy
  cases hlink : scene.link with
  | none =>
    rw [hlink] at hcount
    refine .lose hcount rfl ?_ hlink rfl
    rw [waits, hon, hstage]
    rfl
  | some link =>
    rw [hlink, Option.map_some] at hcount
    dsimp only
    by_cases hready : ColorProtocol.ready link port = true
    · obtain ⟨journal, hcollect⟩ :=
        collect_eq_of_link port scene hlink (ColorProtocol.response link port)
      rw [if_pos hready] at hcount
      rw [if_pos hready, hcollect]
      split
      · obtain ⟨journal', hgiveUp⟩ := giveUp_eq_of_link port
          ⟨{ scene.watch with stage := .connectedWaitingForPin2High, timer := 0 + 1 }, _,
            some (ColorProtocol.stop link port).1, journal⟩ rfl (.colorTimedOut port)
        rw [hgiveUp]
        exact .clear rfl (by rintro ⟨⟩)
      · exact .leave hcount rfl (.inr (.inr ⟨rfl, rfl⟩))
    · rw [if_neg hready] at hcount
      rw [if_neg hready]
      split
      · obtain ⟨journal, hgiveUp⟩ := giveUp_eq_of_link port
          { scene with watch := { scene.watch with timer := scene.watch.timer + 1 } } hlink
          (.colorTimedOut port)
        rw [hgiveUp]
        exact .clear rfl (by rintro ⟨⟩)
      · rename_i htime
        refine .stay hcount rfl rfl ?_ fun _ => rfl
        rw [hstage]
        rw [UInt16.lt_iff_toNat_lt] at htime
        exact Nat.le_of_not_lt htime

end Stages

/-- What a stage does to the count, with detection on. -/
theorem counted_act (hon : scene.watch.enabled = true) :
    scene.Counted config port pin1 (scene.act config port pin1) := by
  unfold act
  cases hstage : scene.watch.stage with
  | init => exact .clear rfl nofun
  | floatingDelay => exact counted_onFloatingDelay hon hstage
  | floating => exact counted_onFloating hon hstage
  | connection => exact .pass (count?_of_still (by rw [hstage]; rfl)) rfl (stageOf_cases _)
  | pin2Low => exact counted_onPin2Low hstage
  | nxtTouchCheck => exact counted_onTouchCheck hon hstage
  | nxtColorInit =>
    refine .clear ?_ ?_
    · unfold onColorInit
      dsimp only
      split <;> rfl
    · unfold onColorInit
      dsimp only
      split <;> nofun
  | nxtColorWait => exact counted_onColorWait hstage
  | nxtColorBusy => exact counted_onColorBusy hon hstage
  | pin1Loaded | pin6High | pin5Low => exact .clear rfl nofun
  | disabled =>
    have hback : scene.onDisabled port = scene.goTo .init := if_pos hon
    dsimp only
    rw [hback]
    exact .pass (count?_of_still (by rw [hstage]; rfl)) rfl (.inr rfl)
  | waitingForPin5Low | waitingForPin6Low | connectedWaitingForPortOpen =>
    exact .pass (count?_of_still (by rw [hstage]; rfl)) rfl (.inr rfl)
  | connectedWaitingForPin2High | connectedWaitingForPin1ToFloat | connectedWaitingForPin6Low
  | connectedWaitingForPin5High =>
    have hcounted : scene.Counted config port pin1 _ :=
      counted_awaitRelease hon (by rw [hstage]; rfl)
    unfold gone at hcounted
    rw [hstage] at hcounted
    exact hcounted

omit [ColorProtocol κ] in
theorem timer_settle : (scene.settle port).watch.timer = scene.watch.timer := by
  unfold settle
  split <;> rfl

/-- **What a tick does to a count.** -/
theorem counted : scene.Counted config port pin1 (scene.tick config port pin1) := by
  have hact : scene.Counted config port pin1 (scene.gate.act config port pin1) := by
    unfold gate
    split
    · rename_i hon
      exact counted_act config port pin1 scene hon
    · rename_i hoff
      -- with detection off the port counts nothing
      have hdisabled : ((scene.goTo .disabled).onDisabled port).watch.stage = .disabled ∧
          ((scene.goTo .disabled).onDisabled port).watch.timer = 0 := by
        unfold onDisabled
        rw [if_neg (show ¬(scene.goTo .disabled).watch.enabled = true from hoff)]
        dsimp only
        split
        · exact ⟨congrArg InputWatch.stage (watch_stopSession port _), rfl⟩
        · exact ⟨rfl, rfl⟩
      refine .clear hdisabled.2 ?_
      rw [show (InputScene.act config port pin1 (scene.goTo .disabled)).watch.stage = .disabled
        from hdisabled.1]
      nofun
  unfold tick
  exact hact.of_eq (stage_settle port _) (timer_settle port _)

section Consequences

variable {config port pin1 scene}

/-- A tick leaves the count of a port among those that the stage allows. -/
theorem bounded_tick (h : scene.watch.Bounded config) :
    (scene.tick config port pin1).watch.Bounded config := by
  unfold InputWatch.Bounded at h ⊢
  cases scene.counted config port pin1 with
  | clear htimer =>
    rw [htimer]
    exact Nat.zero_le _
  | idle hnone htimer hbefore hafter =>
    rw [htimer, hafter, ← hbefore]
    exact h
  | pass hnone htimer hafter =>
    have hceiling : (scene.tick config port pin1).watch.stage.inputCeiling config = 65535 := by
      rcases hafter with hprobing | hinit
      · cases hstage : (scene.tick config port pin1).watch.stage <;> first
          | rfl
          | (rw [hstage] at hprobing; cases hprobing)
      · rw [hinit]
        rfl
    rw [hceiling]
    exact Nat.le_of_lt_succ (UInt16.toNat_lt _)
  | prepare hnone htimer hbefore hafter =>
    rw [hbefore] at h
    rw [htimer, Nat.le_zero.mp h]
    exact Nat.zero_le _
  | lose hnone htimer hwaits hlink hafter =>
    have hbusy : scene.watch.stage = .nxtColorBusy :=
      of_decide_eq_true (Bool.and_eq_true_iff.mp hwaits).2
    rw [hbusy] at h
    rw [htimer, hafter]
    exact Nat.le_trans h (Nat.le_max_right _ _)
  | stay hcount htimer hstage hroom =>
    rw [htimer, hstage]
    refine Nat.le_trans hroom ?_
    cases hbefore : scene.watch.stage with
    | nxtColorWait =>
      rw [count?_of_still (by rw [hbefore]; rfl)] at hcount
      cases hcount
    | connectedWaitingForPin2High => exact Nat.le_max_left _ _
    | _ => first | exact Nat.le_refl _ | exact Nat.le_succ _
  | leave hcount htimer hnext =>
    rcases hnext with hafter | hafter | ⟨hafter, hzero⟩
    · rw [hafter]
      exact Nat.le_of_lt_succ (UInt16.toNat_lt _)
    · rw [hafter]
      exact Nat.le_of_lt_succ (UInt16.toNat_lt _)
    · rw [hafter, htimer, hzero]
      exact Nat.le_trans (show 1 ≤ 65534 by decide) (Nat.le_max_left _ _)

/-- A port that waits for a session behind a tick has waited for one tick more, or has just begun. -/
theorem timer_of_busy (h : scene.watch.Bounded config)
    (hbusy : (scene.tick config port pin1).watch.stage = .nxtColorBusy) :
    (scene.tick config port pin1).watch.timer =
      if scene.watch.stage = .nxtColorBusy then scene.watch.timer + 1 else 0 := by
  cases scene.counted config port pin1 with
  | clear htimer hidle => exact absurd hbusy hidle
  | idle hnone htimer hbefore hafter =>
    rw [hafter] at hbusy
    cases hbusy
  | pass hnone htimer hafter =>
    rw [hbusy] at hafter
    rcases hafter with hafter | hafter <;> cases hafter
  | prepare hnone htimer hbefore hafter =>
    unfold InputWatch.Bounded at h
    rw [hbefore] at h
    rw [htimer, hbefore, if_neg nofun]
    exact UInt16.toNat_inj.mp (Nat.le_zero.mp h)
  | lose hnone htimer hwaits hlink hafter =>
    rw [hafter] at hbusy
    cases hbusy
  | stay hcount htimer hstage hroom hsame =>
    have hbefore := hstage.symm.trans hbusy
    rw [htimer, if_pos hbefore, hsame hbefore]
  | leave hcount htimer hnext =>
    rw [hbusy] at hnext
    rcases hnext with hafter | hafter | ⟨hafter, -⟩ <;> cases hafter

/-- A port that waits for its device to go has a full count behind a tick only if it has just lost its
link with the count of its session full. -/
theorem full_of_carried (h : scene.watch.Bounded config)
    (hafter : (scene.tick config port pin1).watch.stage = .connectedWaitingForPin2High)
    (hfull : (scene.tick config port pin1).watch.timer = 65535) :
    scene.waits = true ∧ scene.link = none ∧ scene.watch.timer = 65535 := by
  cases scene.counted config port pin1 with
  | clear htimer => rw [htimer] at hfull; cases hfull
  | idle hnone htimer hbefore hstage => rw [hafter] at hstage; cases hstage
  | pass hnone htimer hstage =>
    rw [hafter] at hstage
    rcases hstage with hstage | hstage <;> cases hstage
  | prepare hnone htimer hbefore hstage =>
    unfold InputWatch.Bounded at h
    rw [hbefore, ← htimer, hfull] at h
    cases h
  | lose hnone htimer hwaits hlink hstage => exact ⟨hwaits, hlink, htimer.symm.trans hfull⟩
  | stay hcount htimer hstage hroom =>
    rw [← hstage, hafter, ← htimer, hfull] at hroom
    exact absurd hroom (show ¬65535 ≤ 65534 by decide)
  | leave hcount htimer hnext =>
    rcases hnext with hstage | hstage | ⟨-, hzero⟩
    · rw [hafter] at hstage; cases hstage
    · rw [hafter] at hstage; cases hstage
    · rw [htimer, hzero] at hfull; cases hfull

/-- A port that loses its link in the middle of a session keeps the count of it. -/
theorem tick_of_lost (hwaits : scene.waits = true) (hlink : scene.link = none) :
    (scene.tick config port pin1).watch.stage = .connectedWaitingForPin2High ∧
      (scene.tick config port pin1).watch.timer = scene.watch.timer := by
  obtain ⟨hon, hbusy⟩ := Bool.and_eq_true_iff.mp hwaits
  have hstage : scene.watch.stage = .nxtColorBusy := of_decide_eq_true hbusy
  have hact : scene.gate.act config port pin1 = scene.goTo .connectedWaitingForPin2High := by
    rw [gate, if_pos hon, act, hstage]
    dsimp only
    unfold onColorBusy
    rw [hlink]
  rw [tick, hact, stage_settle, timer_settle]
  exact ⟨rfl, rfl⟩

theorem count?_of_unanswered (h : scene.unanswered port = true) :
    scene.count? config port pin1 = some scene.watch.timer := by
  obtain ⟨hwaits, hany⟩ := Bool.and_eq_true_iff.mp h
  obtain ⟨hon, hbusy⟩ := Bool.and_eq_true_iff.mp hwaits
  obtain ⟨link, hlink, hready⟩ := (Option.any_eq_true _ _).mp hany
  unfold count?
  rw [if_pos hon, of_decide_eq_true hbusy]
  dsimp only
  rw [hlink, Option.map_some, if_neg (by simpa using hready)]

theorem count?_of_gone (hon : scene.watch.enabled = true) (hgone : scene.gone config pin1 = true) :
    scene.count? config port pin1 = some scene.watch.timer := by
  unfold count?
  rw [if_pos hon]
  cases hstage : scene.watch.stage with
  | connectedWaitingForPin2High | connectedWaitingForPin1ToFloat | connectedWaitingForPin6Low
  | connectedWaitingForPin5High => exact if_pos hgone
  | _ =>
    -- no other stage waits for a device to go
    unfold gone at hgone
    exact absurd hgone (by rw [hstage]; nofun)

/-- Only the count of a session can be full, or the same count where it has been carried over. -/
theorem stage_of_full (h : scene.watch.Bounded config)
    (hfull : scene.count? config port pin1 = some 65535) :
    scene.watch.timer = 65535 ∧
      (scene.unanswered port = true ∨ (scene.watch.enabled = true ∧
        scene.watch.stage = .connectedWaitingForPin2High ∧ scene.gone config pin1 = true)) := by
  have hcounts : scene.watch.stage.still = false := by
    by_contra hstill
    rw [count?_of_still (Bool.not_eq_false _ ▸ hstill)] at hfull
    cases hfull
  unfold count? at hfull
  unfold InputWatch.Bounded at h
  have hon : scene.watch.enabled = true := by
    by_contra hoff
    rw [if_neg hoff] at hfull
    cases hfull
  rw [if_pos hon] at hfull
  have hlow : ¬(65535 : UInt16).toNat ≤ 65534 := by decide
  cases hstage : scene.watch.stage with
  | floatingDelay | nxtTouchCheck =>
    rw [hstage] at h hfull
    rw [Option.some.inj hfull] at h
    exact absurd h hlow
  | floating =>
    rw [hstage] at h hfull
    dsimp only at hfull
    split at hfull
    · cases hfull
    · have hrecount := toNat_recount_le scene.watch.conditions (scene.conditionsNow config pin1)
        scene.watch.timer
      rw [Option.some.inj hfull] at hrecount
      exact absurd (Nat.le_trans hrecount h) hlow
  | nxtColorBusy =>
    rw [hstage] at hfull
    obtain ⟨link, hlink, hcount⟩ := Option.map_eq_some_iff.mp hfull
    by_cases hready : ColorProtocol.ready link port = true
    · rw [if_pos hready] at hcount
      cases hcount
    · rw [if_neg hready] at hcount
      refine ⟨hcount, .inl ?_⟩
      rw [unanswered, waits, hon, hstage, hlink]
      simpa using hready
  | connectedWaitingForPin2High =>
    rw [hstage] at hfull
    dsimp only at hfull
    split at hfull
    · rename_i hgone
      exact ⟨Option.some.inj hfull, .inr ⟨hon, rfl, hgone⟩⟩
    · cases hfull
  | connectedWaitingForPin1ToFloat | connectedWaitingForPin6Low | connectedWaitingForPin5High =>
    rw [hstage] at h hfull
    dsimp only at hfull
    split at hfull
    · rw [Option.some.inj hfull] at h
      exact absurd h hlow
    · cases hfull
  | _ =>
    rw [hstage] at hcounts
    cases hcounts

/-- **The counts of an input port that overflow.** -/
theorem count_full_iff (h : scene.watch.Bounded config) :
    scene.count? config port pin1 = some 65535 ↔
      config.colorTimeoutTicks = 65535 ∧ scene.watch.timer = 65535 ∧
        (scene.unanswered port = true ∨ (scene.watch.enabled = true ∧
          scene.watch.stage = .connectedWaitingForPin2High ∧ scene.gone config pin1 = true)) := by
  constructor
  · intro hfull
    obtain ⟨htimer, hcause⟩ := stage_of_full h hfull
    refine ⟨?_, htimer, hcause⟩
    unfold InputWatch.Bounded at h
    have hlimit := config.colorTimeoutTicks.toNat_lt
    have htop : (65535 : UInt16).toNat = 65535 := rfl
    rw [htimer, htop] at h
    rw [← UInt16.toNat_inj, htop]
    rcases hcause with hwaits | ⟨-, hstage, -⟩
    · obtain ⟨hwaits, -⟩ := Bool.and_eq_true_iff.mp hwaits
      rw [of_decide_eq_true (Bool.and_eq_true_iff.mp hwaits).2] at h
      change 65535 ≤ config.colorTimeoutTicks.toNat at h
      omega
    · rw [hstage] at h
      change 65535 ≤ max 65534 config.colorTimeoutTicks.toNat at h
      omega
  · rintro ⟨-, htimer, hwaits | ⟨hon, -, hgone⟩⟩
    · rw [count?_of_unanswered hwaits, htimer]
    · rw [count?_of_gone hon hgone, htimer]

end Consequences

end InputScene

end PlugWatch
