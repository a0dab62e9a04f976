import PlugWatch.Proofs.Detection.Debounce
/-!
# The count of an output port

The watch of an output port counts ticks in one word, and goes on counting only below its limit. The
settle time of the third measurement is carried over into the wait for the device to go, and there the
count may be as high as a limit can be.

## Main Definitions

* `OutputState.count?` : the count to which the coming tick adds one.
* `OutputState.Counted` : what a tick does to the stage and the count of a port.
* `OutputState.Bounded` : the counts that a stage allows.

## Main Statements

* `OutputState.counted` : every tick does one of those things.
* `OutputState.count_full_iff` : the counts that overflow.
-/

namespace PlugWatch

namespace Stage

/-- The limit with which a count of an output port is compared. -/
def delay (config : DetectionConfig) : Stage → UInt16
  | floatingDelay => config.floatTicks
  | floating => config.connectTicks
  | waitingForPin6Low | waitingForPin5Low => config.lowTicks
  | connectedWaitingForPortOpen => config.releaseTicks
  | _ => 0

/-- The highest count of an output port in a stage. The wait for the device to go may begin with the count
of the last measurement. -/
def outputCeiling (config : DetectionConfig) : Stage → Nat
  | floatingDelay | floating | waitingForPin6Low => 65534
  | waitingForPin5Low => span config.lowTicks - 1
  | connectedWaitingForPortOpen => max 65534 config.lowTicks.toNat
  | _ => 65535

end Stage

namespace OutputState

variable (config : DetectionConfig) (port : Port) (pin5 : UInt16)

/-- The count of a port is one that its stage allows. -/
def Bounded (state : OutputState) : Prop :=
  state.watch.timer.toNat ≤ state.stage.outputCeiling config

/-- The count to which the coming tick adds one, if there is such a count. -/
def count? (state : OutputState) : Option UInt16 :=
  match state.stage with
  | .floatingDelay | .waitingForPin6Low | .waitingForPin5Low => some state.watch.timer
  | .floating =>
    let seen := state.conditionsNow pin5
    if seen.isEmpty then none else some (recount state.watch.conditions seen state.watch.timer)
  | .connectedWaitingForPortOpen => some (if state.loaded pin5 then 0 else state.watch.timer)
  | _ => none

theorem count?_scene (state : OutputState) (journal : Journal) :
    (state.scene journal).count? pin5 = state.count? pin5 := rfl

/-- The third measurement is made in the coming tick. -/
def measures (state : OutputState) : Bool :=
  decide (state.stage = .waitingForPin5Low) && decide (config.lowTicks ≤ state.watch.timer + 1)

/-- What a tick can do to the stage and the count of a port. -/
inductive Counted (before after : OutputState) : Prop where
  /-- The count starts anew. -/
  | clear (htimer : after.watch.timer = 0)
  /-- There are no conditions, as in the tick before. -/
  | idle (hnone : before.count? pin5 = none) (htimer : after.watch.timer = before.watch.timer)
      (hbefore : before.stage = .floating) (hafter : after.stage = .floating)
  /-- The detection starts over. -/
  | pass (hnone : before.count? pin5 = none) (htimer : after.watch.timer = before.watch.timer)
      (hafter : after.stage = .init)
  /-- The tick is counted, and the port stays. -/
  | stay {count : UInt16} (hcount : before.count? pin5 = some count)
      (htimer : after.watch.timer = count + 1) (hstage : after.stage = before.stage)
      (hrest : ¬before.stage.delay config ≤ count + 1)
  /-- The third measurement is made, and the count carried over. -/
  | measure (hcount : before.count? pin5 = some before.watch.timer)
      (htimer : after.watch.timer = before.watch.timer + 1)
      (hmeasures : before.measures config = true)
      (hafter : after.stage = .connectedWaitingForPortOpen)
  /-- The tick is counted, and the port goes on to a stage in which the count does not matter. -/
  | leave {count : UInt16} (hcount : before.count? pin5 = some count)
      (htimer : after.watch.timer = count + 1)
      (hstage : after.stage = .connection ∨ after.stage = .init)

/-- **What a tick does to a count.** -/
theorem counted (state : OutputState) :
    state.Counted config pin5 (state.tick config port pin5) := by
  cases hstage : state.stage with
  | init =>
    rw [tick_init config port pin5 hstage]
    exact .clear rfl
  | floatingDelay =>
    have hcount : state.count? pin5 = some state.watch.timer := by rw [count?, hstage]
    rw [tick_floatingDelay config port pin5 hstage]
    split
    · exact .clear rfl
    · rename_i hrest
      exact .stay hcount rfl rfl (by rw [hstage]; exact hrest)
  | floating =>
    have hcount : state.count? pin5 =
        if (state.conditionsNow pin5).isEmpty then none
        else some (recount state.watch.conditions (state.conditionsNow pin5) state.watch.timer) := by
      rw [count?, hstage]
    rw [tick_floating config port pin5 hstage]
    dsimp only
    generalize state.conditionsNow pin5 = seen at hcount ⊢
    have hsee : (state.see seen).watch.timer = recount state.watch.conditions seen state.watch.timer :=
      rfl
    split
    · rename_i hempty
      rw [if_pos hempty] at hcount
      by_cases hsame : seen = state.watch.conditions
      · exact .idle hcount (hsee.trans (if_pos hsame)) hstage hstage
      · exact .clear (hsee.trans (if_neg hsame))
    · rename_i hsome
      rw [if_neg hsome] at hcount
      split
      · exact .clear rfl
      · rename_i hrest
        exact .stay hcount rfl rfl (by rw [hstage]; exact hrest)
  | waitingForPin6Low =>
    have hcount : state.count? pin5 = some state.watch.timer := by rw [count?, hstage]
    rw [tick_waitingForPin6Low config port pin5 hstage]
    split
    · exact .leave hcount rfl (.inl rfl)
    · rename_i hrest
      exact .stay hcount rfl rfl (by rw [hstage]; exact hrest)
  | connection =>
    obtain ⟨rule, -, hrule⟩ := exists_outputRule state.probe
    rw [tick_connection config port pin5 hstage hrule]
    cases rule.verdict <;> exact .clear rfl
  | waitingForPin5Low =>
    have hcount : state.count? pin5 = some state.watch.timer := by rw [count?, hstage]
    obtain ⟨rule, -, hrule⟩ := exists_drivenRule ⟨millivoltsOfCounts pin5⟩
    rw [tick_waitingForPin5Low config port pin5 hstage hrule]
    split
    · rename_i hdue
      refine .measure hcount rfl ?_ rfl
      rw [measures, hstage]
      exact decide_eq_true hdue
    · rename_i hrest
      exact .stay hcount rfl rfl (by rw [hstage]; exact hrest)
  | connectedWaitingForPortOpen =>
    have hcount : state.count? pin5 = some (if state.loaded pin5 then 0 else state.watch.timer) := by
      rw [count?, hstage]
    rw [tick_connectedWaitingForPortOpen config port pin5 hstage]
    generalize (if state.loaded pin5 then 0 else state.watch.timer) = count at hcount ⊢
    dsimp only
    split
    · exact .leave hcount rfl (.inr rfl)
    · rename_i hrest
      exact .stay hcount rfl hstage.symm (by rw [hstage]; exact hrest)
  | _ =>
    have hnone : state.count? pin5 = none := by rw [count?, hstage]
    rw [tick_of_foreign config port pin5 (by rw [hstage]; rfl) (by rw [hstage]; nofun)
      (by rw [hstage]; nofun)]
    exact .pass hnone rfl rfl

variable {config port pin5} {state : OutputState}

/-- A third measurement is made at the last tick of its delay. -/
theorem toNat_of_measures (h : state.Bounded config) (hmeasures : state.measures config = true) :
    (state.watch.timer + 1).toNat = span config.lowTicks := by
  obtain ⟨hstage, hdue⟩ := Bool.and_eq_true_iff.mp hmeasures
  unfold Bounded at h
  rw [of_decide_eq_true hstage] at h
  change state.watch.timer.toNat ≤ span config.lowTicks - 1 at h
  have hpos := span_pos config.lowTicks
  have hlimit := config.lowTicks.toNat_lt
  have hspan : span config.lowTicks ≤ 65535 := by
    unfold span
    omega
  rcases span_cases (show state.watch.timer.toNat < span config.lowTicks by omega) with
    ⟨-, hlast⟩ | ⟨hrest, -⟩
  · rw [toNat_add_one (by omega), hlast]
  · exact absurd (of_decide_eq_true hdue) hrest

/-- A port that stays has a count below its limit. -/
theorem toNat_lt_of_stay {stage : Stage} {count : UInt16}
    (hrest : ¬stage.delay config ≤ count + 1) :
    (count + 1).toNat ≤ 65534 ∧ (count + 1).toNat ≤ stage.outputCeiling config := by
  have hlow := toNat_add_one_le_of_rest hrest
  refine ⟨hlow, ?_⟩
  cases stage with
  | waitingForPin5Low =>
    rw [UInt16.le_iff_toNat_le] at hrest
    change ¬config.lowTicks.toNat ≤ (count + 1).toNat at hrest
    change (count + 1).toNat ≤ max 1 config.lowTicks.toNat - 1
    omega
  | connectedWaitingForPortOpen => exact Nat.le_trans hlow (Nat.le_max_left _ _)
  | _ => first | exact hlow | exact Nat.le_succ_of_le hlow

/-- A tick leaves the count of a port among those that the stage allows. -/
theorem bounded_tick (h : state.Bounded config) : (state.tick config port pin5).Bounded config := by
  unfold Bounded at h ⊢
  cases state.counted config port pin5 with
  | clear htimer =>
    rw [htimer]
    exact Nat.zero_le _
  | idle hnone htimer hbefore hafter =>
    rw [htimer, hafter, ← hbefore]
    exact h
  | pass hnone htimer hafter =>
    rw [hafter]
    exact Nat.le_of_lt_succ (UInt16.toNat_lt _)
  | stay hcount htimer hstage hrest =>
    rw [htimer, hstage]
    exact (toNat_lt_of_stay hrest).2
  | measure hcount htimer hmeasures hafter =>
    rw [htimer, hafter, toNat_of_measures h hmeasures]
    show max 1 config.lowTicks.toNat ≤ max 65534 config.lowTicks.toNat
    omega
  | leave hcount htimer hstage =>
    rcases hstage with hafter | hafter <;>
    · rw [hafter]
      exact Nat.le_of_lt_succ (UInt16.toNat_lt _)

/-- **The counts of an output port that overflow**: the one that the last measurement carries over, unless
the port is loaded, which starts it anew. -/
theorem count_full_iff (h : state.Bounded config) :
    state.count? pin5 = some 65535 ↔
      config.lowTicks = 65535 ∧ state.stage = .connectedWaitingForPortOpen ∧
        state.watch.timer = 65535 ∧ state.loaded pin5 = false := by
  have htop : (65535 : UInt16).toNat = 65535 := rfl
  have hlimit := config.lowTicks.toNat_lt
  unfold count? Bounded at *
  constructor
  · intro hfull
    cases hstage : state.stage with
    | floatingDelay | waitingForPin6Low | waitingForPin5Low =>
      rw [hstage] at h hfull
      rw [Option.some.inj hfull, htop] at h
      simp only [Stage.outputCeiling, span] at h
      omega
    | floating =>
      rw [hstage] at h hfull
      dsimp only at hfull
      split at hfull
      · cases hfull
      · have hrecount := toNat_recount_le state.watch.conditions (state.conditionsNow pin5)
          state.watch.timer
        rw [Option.some.inj hfull, htop] at hrecount
        simp only [Stage.outputCeiling] at h
        omega
    | connectedWaitingForPortOpen =>
      rw [hstage] at h hfull
      have hcount := Option.some.inj hfull
      cases hloaded : state.loaded pin5 with
      | true =>
        rw [hloaded] at hcount
        cases hcount
      | false =>
        rw [hloaded, if_neg Bool.false_ne_true] at hcount
        rw [hcount, htop] at h
        simp only [Stage.outputCeiling] at h
        exact ⟨UInt16.toNat_inj.mp (by omega), rfl, hcount, rfl⟩
    | _ =>
      rw [hstage] at hfull
      cases hfull
  · rintro ⟨-, hstage, htimer, hopen⟩
    rw [hstage]
    dsimp only
    rw [hopen, htimer]
    rfl

/-- The count of a connected port is full behind a tick exactly if the third measurement has just been
made, with the highest limit. -/
theorem full_tick_iff (h : state.Bounded config) :
    ((state.tick config port pin5).stage = .connectedWaitingForPortOpen ∧
        (state.tick config port pin5).watch.timer = 65535) ↔
      config.lowTicks = 65535 ∧ state.measures config = true := by
  have htop : (65535 : UInt16).toNat = 65535 := rfl
  constructor
  · rintro ⟨hopen, hfull⟩
    cases state.counted config port pin5 with
    | clear htimer =>
      rw [htimer] at hfull
      cases hfull
    | idle hnone htimer hbefore hafter =>
      rw [hopen] at hafter
      cases hafter
    | pass hnone htimer hafter =>
      rw [hopen] at hafter
      cases hafter
    | stay hcount htimer hstage hrest =>
      have hlow := (toNat_lt_of_stay hrest).1
      rw [← htimer, hfull] at hlow
      exact absurd hlow (show ¬65535 ≤ 65534 by decide)
    | measure hcount htimer hmeasures hafter =>
      have hcount := toNat_of_measures h hmeasures
      rw [← htimer, hfull, htop] at hcount
      unfold span at hcount
      exact ⟨UInt16.toNat_inj.mp (by omega), hmeasures⟩
    | leave hcount htimer hstage =>
      rw [hopen] at hstage
      rcases hstage with hstage | hstage <;> cases hstage
  · rintro ⟨hlimit, hmeasures⟩
    have hstage : state.stage = .waitingForPin5Low :=
      of_decide_eq_true (Bool.and_eq_true_iff.mp hmeasures).1
    have hdue : config.lowTicks ≤ state.watch.timer + 1 :=
      of_decide_eq_true (Bool.and_eq_true_iff.mp hmeasures).2
    have hcount := toNat_of_measures h hmeasures
    obtain ⟨rule, -, hrule⟩ := exists_drivenRule ⟨millivoltsOfCounts pin5⟩
    rw [tick_waitingForPin5Low config port pin5 hstage hrule, if_pos hdue]
    refine ⟨rfl, UInt16.toNat_inj.mp ?_⟩
    show (state.watch.timer + 1).toNat = 65535
    rw [hcount, hlimit]
    rfl

end OutputState

end PlugWatch
