import Mathlib.Algebra.GroupWithZero.Nat
import PlugWatch.Proofs.Color.Codec
/-!
# The length of the reset hold

Before the command a session holds the clock line low, so that the sensor starts over. The configuration
gives the time in milliseconds, the session counts periods of the bit timer, and between the two there is
a product in one word, a quotient, and a narrowing to half a word. The hold is as long as configured if
none of these wraps. If one does, it is too short, unless two periods are longer than the whole hold.

## Main Definitions

* `LinkConfig.HoldFits` : neither the product nor the narrowing wraps.
* `Script.heldPeriods` : the periods in which the clock line is held low for the reset.
* `LinkState.resets` : the steps up to the reset hold.

## Main Statements

* `LinkConfig.holdPeriods_long_enough_iff` : when the hold is as long as configured.
* `Session.Exchange.heldPeriods_eq` : for how many periods a session has held the clock line.
* `LinkWorld.reset_hold` : the hold of every session that is left alone.
-/

namespace PlugWatch

namespace LinkConfig

variable (config : LinkConfig)

/-- The configured length of the reset hold, in microseconds. -/
def holdMicros : Nat := config.initDelayMs.toNat * 1000

/-- Neither the product nor the narrowing of the reset hold wraps. -/
def HoldFits : Prop :=
  (config.initDelayMs * 1000).toNat = config.holdMicros ∧
    config.initDelayTicks.toNat = (config.initDelayMs * 1000 / config.period).toNat

theorem toNat_period : config.period.toNat = max 1 config.timerMicros.toNat := by
  show (if config.timerMicros ≤ 1 then 1 else config.timerMicros).toNat = _
  have hone : (1 : UInt32).toNat = 1 := rfl
  split
  · rename_i h
    rw [UInt32.le_iff_toNat_le, hone] at h
    omega
  · rename_i h
    rw [UInt32.le_iff_toNat_le, hone] at h
    omega

theorem toNat_product : (config.initDelayMs * 1000).toNat = config.holdMicros % 2 ^ 32 := by
  rw [UInt32.toNat_mul]
  rfl

theorem toNat_initDelayTicks :
    config.initDelayTicks.toNat =
      config.holdMicros % 2 ^ 32 / config.period.toNat % 2 ^ 16 := by
  rw [initDelayTicks, UInt32.toNat_toUInt16, UInt32.toNat_div, toNat_product]

theorem holdFits_iff :
    config.HoldFits ↔
      config.holdMicros < 2 ^ 32 ∧ config.holdMicros / config.period.toNat < 2 ^ 16 := by
  rw [HoldFits, toNat_product, toNat_initDelayTicks, UInt32.toNat_div, toNat_product]
  constructor
  · rintro ⟨hproduct, hnarrow⟩
    rw [hproduct] at hnarrow
    refine ⟨?_, ?_⟩
    · rw [← hproduct]
      exact Nat.mod_lt _ (by decide)
    · rw [← hnarrow]
      exact Nat.mod_lt _ (by decide)
  · rintro ⟨hproduct, hnarrow⟩
    rw [Nat.mod_eq_of_lt hproduct]
    exact ⟨rfl, Nat.mod_eq_of_lt hnarrow⟩

/-- A number of periods that is taken from the product in one word, and kept in half a word, is too small
by more than a period if either of them wraps. -/
theorem lt_hold_iff {asked period : Nat} (hpos : 0 < period) (hword : period < 2 ^ 32) :
    asked < (max 1 (asked % 2 ^ 32 / period % 2 ^ 16) + 1) * period ↔
      (asked < 2 ^ 32 ∧ asked / period < 2 ^ 16) ∨ asked < 2 * period := by
  by_cases hproduct : asked < 2 ^ 32
  · rw [Nat.mod_eq_of_lt hproduct]
    by_cases hnarrow : asked / period < 2 ^ 16
    · refine iff_of_true ?_ (.inl ⟨hproduct, hnarrow⟩)
      rw [Nat.mod_eq_of_lt hnarrow]
      have hnext : asked < (asked / period + 1) * period := by
        rw [Nat.mul_comm]
        exact Nat.lt_mul_div_succ asked hpos
      exact Nat.lt_of_lt_of_le hnext (Nat.mul_le_mul_right period (by omega))
    · -- the narrowing drops half a word of periods at least
      have hmany : 2 ^ 16 * period ≤ asked :=
        Nat.le_trans (Nat.mul_le_mul_right period (Nat.le_of_not_lt hnarrow))
          (Nat.div_mul_le_self asked period)
      have hkept := Nat.mod_lt (asked / period) (show 2 ^ 16 > 0 by decide)
      have hshort : (max 1 (asked / period % 2 ^ 16) + 1) * period ≤ 2 ^ 16 * period :=
        Nat.mul_le_mul_right period (by omega)
      refine iff_of_false (by omega) ?_
      rintro (⟨-, hfits⟩ | htwo)
      · exact hnarrow hfits
      · omega
  · -- the product drops a word of microseconds, which is more than a period
    have hdropped : asked % 2 ^ 32 + 2 ^ 32 ≤ asked := by omega
    have hcount : asked % 2 ^ 32 / period % 2 ^ 16 * period ≤ asked % 2 ^ 32 :=
      Nat.le_trans (Nat.mul_le_mul_right period (Nat.mod_le _ _)) (Nat.div_mul_le_self _ _)
    generalize asked % 2 ^ 32 / period % 2 ^ 16 = count at hcount ⊢
    by_cases hone : count ≤ 1
    · rw [Nat.max_eq_left hone, or_iff_right fun hfits => hproduct hfits.1]
    · have htwo : 2 * period ≤ count * period := Nat.mul_le_mul_right period (by omega)
      rw [Nat.max_eq_right (by omega), Nat.add_mul]
      refine iff_of_false (by omega) ?_
      rintro (⟨hfits, -⟩ | hshort)
      · exact hproduct hfits
      · omega

/-- **The hold is as long as configured**, up to the period in which it ends, exactly if nothing wraps on
the way to its number of periods, or if it is shorter than two periods: a hold of one period is made in
any case. -/
theorem holdPeriods_long_enough_iff :
    config.holdMicros < (Script.holdPeriods config.initDelayTicks + 1) * config.period.toNat ↔
      config.HoldFits ∨ config.holdMicros < 2 * config.period.toNat := by
  rw [holdFits_iff, Script.holdPeriods, toNat_initDelayTicks]
  exact lt_hold_iff config.period_pos config.period.toNat_lt

end LinkConfig

/-- The steps up to the reset hold. -/
def LinkState.resets : LinkState → Bool
  | release | sense | pulseHigh | resetHold => true
  | _ => false

/-! ## The hold on the wire -/

namespace Script

/-- The periods in which the clock line is held low for the reset. -/
def heldPeriods (wire : List Period) : Nat :=
  wire.countP fun period => decide (⟨.resetHold, .drive .pin5 .low⟩ ∈ period)

theorem heldPeriods_append (before after : List Period) :
    heldPeriods (before ++ after) = heldPeriods before + heldPeriods after :=
  List.countP_append

theorem heldPeriods_replicate (m : Nat) : heldPeriods (List.replicate m held) = m := by
  rw [heldPeriods, List.countP_replicate]
  exact if_pos (by decide)

theorem heldPeriods_pulsed (seen : List Bool) : heldPeriods (seen.flatMap pulse) = 0 := by
  induction seen with
  | nil => rfl
  | cons level rest ih =>
    have hpulse : heldPeriods (pulse level) = 0 := by cases level <;> decide
    rw [List.flatMap_cons, heldPeriods_append, hpulse, ih]

theorem heldPeriods_pulses (first again : Bool) : heldPeriods (pulses first again) = 0 := by
  revert first again
  decide

theorem heldPeriods_lead (delay : UInt16) (first again : Bool) :
    heldPeriods (lead delay first again) = holdPeriods delay := by
  rw [lead, heldPeriods_append, heldPeriods_append, heldPeriods_pulses, heldPeriods_replicate,
    Nat.zero_add]
  rfl

theorem heldPeriods_raised (command : UInt8) (k : Nat) : heldPeriods [raised command k] = 0 := by
  simp [heldPeriods, raised]

theorem heldPeriods_sent (command : UInt8) (k : Nat) : heldPeriods (sent command k) = 0 := by
  induction k with
  | zero => rfl
  | succ k ih =>
    rw [sent, heldPeriods_append, ih]
    simp [heldPeriods, raised]

theorem heldPeriods_gap (m : Nat) : heldPeriods (gap m) = 0 := by
  unfold gap
  split <;> rfl

theorem heldPeriods_takenFrom (m : Nat) (levels : List Bool) : heldPeriods (takenFrom m levels) = 0 := by
  induction levels generalizing m with
  | nil => rfl
  | cons level rest ih =>
    rw [takenFrom, heldPeriods_append, heldPeriods_append, heldPeriods_gap, ih]
    simp [heldPeriods, freed, lowered]

end Script

namespace Session.Exchange

open Script

variable {delay : UInt16} {command : UInt8} {session : Session} {wire : List Period}

/-- A session is on its way to the end of the hold, and not for long, or it has held the clock line for
all periods of it. -/
theorem resetting_or_over (h : session.Exchange delay command wire) :
    (session.state.resets = true ∧ heldPeriods wire < holdPeriods delay ∧
        wire.length < 7 + holdPeriods delay) ∨
      (session.state.resets = false ∧ heldPeriods wire = holdPeriods delay) := by
  have hpos := holdPeriods_pos delay
  cases h with
  | release seen resetting hstate hwire =>
    have hfew := resetting.few
    rw [hwire, hstate, heldPeriods_pulsed, length_pulsed]
    exact .inl ⟨rfl, hpos, by omega⟩
  | sense seen resetting hstate hwire =>
    have hfew := resetting.few
    rw [hwire, hstate, heldPeriods_append, heldPeriods_pulsed, List.length_append, length_pulsed]
    exact .inl ⟨rfl, hpos, by simp only [List.length_singleton]; omega⟩
  | pulseHigh seen level resetting hstate hlevel hwire =>
    have hfew := resetting.few
    have hnone : heldPeriods [[⟨.release, .drive .pin5 .float⟩],
        [⟨.sense, .read .pin5 level⟩, ⟨.sense, .drive .pin5 .high⟩]] = 0 := by
      cases level <;> decide
    rw [hwire, hstate, heldPeriods_append, heldPeriods_pulsed, hnone, List.length_append,
      length_pulsed]
    exact .inl ⟨rfl, hpos, by simp only [List.length_cons, List.length_nil]; omega⟩
  | resetHold first again m quiet hstate hticks hm hwire =>
    have hpulses := length_pulses_le first again
    rw [hwire, hstate, heldPeriods_append, heldPeriods_pulses, heldPeriods_replicate, Nat.zero_add,
      List.length_append, List.length_replicate]
    exact .inl ⟨rfl, hm, by omega⟩
  | loadCommand first again quiet hstate hwire =>
    rw [hwire, hstate, heldPeriods_append, heldPeriods_pulses, heldPeriods_replicate, Nat.zero_add]
    exact .inr ⟨rfl, rfl⟩
  | sendLow first again k hk sending hwire =>
    rw [hwire, sending.state, heldPeriods_append, heldPeriods_lead, heldPeriods_sent]
    exact .inr ⟨rfl, rfl⟩
  | sendHigh first again k hk sending hwire =>
    rw [hwire, sending.state, heldPeriods_append, heldPeriods_append, heldPeriods_lead,
      heldPeriods_sent, heldPeriods_raised]
    exact .inr ⟨rfl, rfl⟩
  | between first again levels bytes hbytes between hwire =>
    rw [hwire, between.state, heldPeriods_append, heldPeriods_append, heldPeriods_lead,
      heldPeriods_sent, taken, heldPeriods_takenFrom]
    exact .inr ⟨rfl, rfl⟩
  | receiveLow first again levels bytes bits hbytes hbits receiving hwire =>
    rw [hwire, receiving.state, heldPeriods_append, heldPeriods_append, heldPeriods_append,
      heldPeriods_lead, heldPeriods_sent, taken, heldPeriods_takenFrom, heldPeriods_gap]
    exact .inr ⟨rfl, rfl⟩
  | receiveHigh first again levels bytes bits hbytes hbits receiving hwire =>
    rw [hwire, receiving.state, heldPeriods_append, heldPeriods_append, heldPeriods_append,
      heldPeriods_append, heldPeriods_lead, heldPeriods_sent, taken, heldPeriods_takenFrom,
      heldPeriods_gap]
    exact .inr ⟨rfl, rfl⟩
  | done first again levels hinUse hstate hbits hbytes answered hwire =>
    rw [hwire, hstate, heldPeriods_append, heldPeriods_append, heldPeriods_append, heldPeriods_lead,
      heldPeriods_sent, taken, heldPeriods_takenFrom]
    exact .inr ⟨rfl, rfl⟩
  | ended first again levels hstate answered hwire =>
    rw [hwire, hstate, whole, heldPeriods_append, heldPeriods_append, heldPeriods_append,
      heldPeriods_lead, heldPeriods_sent, taken, heldPeriods_takenFrom]
    exact .inr ⟨rfl, rfl⟩

end Session.Exchange

namespace LinkWorld

/-- Any number of events keep the length of the hold. -/
theorem initDelay_events (world : LinkWorld) (run : List LinkEvent) :
    (world.events run).link.initDelay = world.link.initDelay := by
  induction run generalizing world with
  | nil => rfl
  | cons event rest ih => exact (ih (world.event event)).trans (initDelay_event world event)

/-- **How long a session holds the clock line for the reset.** A link is made from a configuration,
anything happens to it, and a session is started that is neither started again nor stopped; the lines and
the other sessions do what they like.

* Once the hold is over, it has taken the number of periods that the configuration gives, computed in one
  word and kept in half a word, and at least one.
* It has been as long as configured, up to the period in which it ended, exactly if nothing has wrapped
  on the way to that number, or if it was configured to be shorter than two periods.
* It never takes more periods, and it is over at last. -/
theorem reset_hold (config : LinkConfig) (board : Board) (history : List LinkEvent) (port : Port)
    (command : UInt8) {run : List LinkEvent} (hrun : ∀ event ∈ run, event.restarts port = false) :
    let made : LinkWorld := (LinkWorld.mk (.ofConfig config) board).events history
    let begun := made.event (.start port command)
    let ended := ((begun.events run).session port).state.resets = false
    let period := max 1 config.timerMicros.toNat
    let asked := config.initDelayMs.toNat * 1000
    let count := max 1 (asked % 2 ^ 32 / period % 2 ^ 16)
    let n := Script.heldPeriods (begun.wire port run)
    (ended → n = count ∧
      ((n + 1) * period > asked ↔ config.HoldFits ∨ asked < 2 * period)) ∧
      (config.HoldFits ↔ asked < 2 ^ 32 ∧ asked / period < 2 ^ 16) ∧
      n ≤ count ∧ (7 + count ≤ run.countP LinkEvent.isTick → ended) := by
  intro made begun ended period asked count n
  have hdelay : made.link.initDelay = config.initDelayTicks := initDelay_events _ history
  have hcount : Script.holdPeriods config.initDelayTicks = count := by
    rw [Script.holdPeriods, LinkConfig.toNat_initDelayTicks, LinkConfig.toNat_period]
    rfl
  have hphase := (exchange_started made port command hrun).resetting_or_over
  rw [hdelay, hcount] at hphase
  refine ⟨fun hover => ?_, ?_, ?_, fun hticks => ?_⟩
  · rcases hphase with ⟨hresets, -⟩ | ⟨-, hall⟩
    · exact absurd (hresets.symm.trans hover) nofun
    · have hlong := config.holdPeriods_long_enough_iff
      rw [hcount, LinkConfig.toNat_period] at hlong
      refine ⟨hall, ?_⟩
      rw [show n = count from hall]
      exact hlong
  · have hfits := config.holdFits_iff
    rw [LinkConfig.toNat_period] at hfits
    exact hfits
  · rcases hphase with ⟨-, hless, -⟩ | ⟨-, hall⟩
    · exact Nat.le_of_lt hless
    · exact Nat.le_of_eq hall
  · rcases hphase with ⟨-, -, hshort⟩ | ⟨hover, -⟩
    · -- every period up to the end of the session is on the wire
      rcases ticks_le_length_wire hrun (exchange_begun made port command) with hlogged | hidle
      · omega
      · show ((begun.events run).session port).state.resets = false
        rw [hidle]
        rfl
    · exact hover

/-- With a period of 200 and a hold of 13108 milliseconds the number of periods does not fit: the hold is
over after four of them. -/
theorem reset_hold_wrapped :
    let config : LinkConfig := { timerMicros := 200, initDelayMs := 13108 }
    let begun := (LinkWorld.mk (.ofConfig config) {}).event (.start .p1 0x0D)
    let run := List.replicate 11 LinkEvent.tick
    (∀ event ∈ run, event.restarts .p1 = false) ∧
      ((begun.events run).session .p1).state.resets = false ∧
      Script.heldPeriods (begun.wire .p1 run) = 4 ∧ ¬(4 + 1) * 200 > 13108 * 1000 := by
  intro config begun run
  have hrun : ∀ event ∈ run, event.restarts .p1 = false := by decide
  obtain ⟨hheld, -, -, hends⟩ := reset_hold config {} [] .p1 0x0D hrun
  have hover := hends (by decide)
  exact ⟨hrun, hover, (hheld hover).1.trans (by decide), by decide⟩

end LinkWorld

end PlugWatch
