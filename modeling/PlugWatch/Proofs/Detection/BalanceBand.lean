import PlugWatch.Proofs.Detection.Connect
import PlugWatch.Proofs.Detection.OutputBands
import PlugWatch.Proofs.Threshold
/-!
# The two views of the balance band

Whether pin 5 of an output port is in balance is judged twice: as a count while the port waits for a
plug, and as a voltage when the rules decide. The count that the lower edge of the band converts to is
the only one that the two judge differently. A port on which only pin 6 went low and whose measurements
agree is one with an input device, and is taken for one at every other count of the band.

## Main Definitions

* `balancedVerdict` : what is published about such a port, by the count of its first measurement.

## Main Statements

* `le_millivolts_iff_of_balanced` : where the two views differ.
* `OutputProbe.decide_of_balanced` : what the rules decide on such a port.
* `Detector.balanced_port_verdict` : what is published about it.
-/

namespace PlugWatch

/-! ## The band -/

section Band

variable {counts : UInt16}

/-- A count in the band is a voltage in the band, unless it is the one of the lower edge. -/
theorem le_millivolts_iff_of_balanced (hbalanced : OutputScene.unbalanced counts = false) :
    Threshold.out5BalanceLow ≤ millivoltsOfCounts counts ↔
      counts ≠ countsOfMillivolts Threshold.out5BalanceLow := by
  rw [OutputScene.unbalanced_eq, Bool.not_eq_false', decide_eq_true_eq] at hbalanced
  obtain ⟨hlow, hhigh⟩ := hbalanced
  have hfull : counts ≤ fullScale := UInt16.le_trans hhigh (by decide)
  constructor
  · rintro hle rfl
    exact absurd hle (by decide)
  · exact fun hne => le_millivoltsOfCounts hfull (UInt16.lt_of_le_of_ne hlow hne.symm)

/-- No count in the band has a voltage above the band. -/
theorem millivolts_le_of_balanced (hbalanced : OutputScene.unbalanced counts = false) :
    millivoltsOfCounts counts ≤ Threshold.out5BalanceHigh := by
  rw [OutputScene.unbalanced_eq, Bool.not_eq_false', decide_eq_true_eq] at hbalanced
  exact millivoltsOfCounts_le (UInt16.le_trans hbalanced.2 (by decide)) hbalanced.2

end Band

/-- What is published about a port that is in balance with its pin 6 low, by the count of its first
measurement. -/
def balancedVerdict (counts : UInt16) : Classification :=
  if counts = countsOfMillivolts Threshold.out5BalanceLow then ⟨.tacho, .outputTacho⟩ else .error

/-- What the rules decide on measurements that agree, the first of them with pin 5 in balance. -/
theorem OutputProbe.decide_of_balanced {counts lowMv : UInt16}
    (hbalanced : OutputScene.unbalanced counts = false)
    (hsteady : (OutputProbe.mk (millivoltsOfCounts counts) lowMv true).steady = true) :
    (firstMatch outputRules ⟨millivoltsOfCounts counts, lowMv, true⟩).map Rule.verdict =
      some (.connect (balancedVerdict counts)) := by
  rw [OutputProbe.decide_of_steady hsteady, balancedVerdict]
  by_cases hedge : counts = countsOfMillivolts Threshold.out5BalanceLow
  · -- the voltage is 2399 mV, one step below the band
    subst hedge
    rw [if_pos rfl]
    rfl
  · have hlow : 2400 ≤ (millivoltsOfCounts counts).toNat :=
      UInt16.le_iff_toNat_le.mp ((le_millivolts_iff_of_balanced hbalanced).mpr hedge)
    have hhigh : (millivoltsOfCounts counts).toNat ≤ 2600 :=
      UInt16.le_iff_toNat_le.mp (millivolts_le_of_balanced hbalanced)
    rw [if_neg hedge, OutputVerdict.ofLevel]
    simp (disch := omega) only [if_pos, if_neg, if_true]

/-! ## The first measurement -/

/-- A tick that ends the wait for a plug takes the first measurement. -/
theorem OutputState.measures_of_leaves (config : DetectionConfig) (port : Port) (pin5 : UInt16)
    {state : OutputState} (hstage : state.stage = .floating)
    (hleaves : (state.tick config port pin5).stage ≠ .floating) :
    (state.tick config port pin5).watch.conditions = state.conditionsNow pin5 ∧
      (state.tick config port pin5).watch.floatMv = millivoltsOfCounts pin5 := by
  rw [tick_floating config port pin5 hstage] at hleaves ⊢
  dsimp only at hleaves ⊢
  split at hleaves
  · exact absurd hstage hleaves
  · rename_i hempty
    rw [if_neg hempty]
    split at hleaves
    · rename_i hfull
      rw [if_pos hfull]
      exact ⟨rfl, rfl⟩
    · exact absurd hstage hleaves

namespace OutputView

variable {port : Port} {view : OutputView}

/-- The first measurement is taken in a tick of a port that waits for a plug, and it is what pin 5 is
in this tick. -/
theorem connecting_of_measured {act : Act} (hbefore : ¬view.Measured)
    (hafter : (view.act port act).Measured) :
    act = .tick ∧ view.state.stage = .floating ∧
      (view.act port act).Connecting view.conditionsNow (millivoltsOfCounts view.pin5) := by
  cases @acted port view act with
  | tick htick hopen =>
    subst htick
    rw [act_tick hopen] at hafter ⊢
    have hmeasured : (view.state.tick view.config port view.pin5).stage = .waitingForPin6Low ∨
        (view.state.tick view.config port view.pin5).stage = .connection := hafter
    have hstage : view.state.stage = .floating := by
      have hnext := OutputState.stage_tick view.config port view.pin5 view.state
      cases hstage : view.state.stage with
      | floating => rfl
      | waitingForPin6Low => exact absurd (.inl hstage) hbefore
      | connection => exact absurd (.inr hstage) hbefore
      | _ =>
        rw [hstage] at hnext
        rcases hmeasured with h | h <;> rw [h] at hnext <;> simp [Stage.outputNext] at hnext
    have hleaves : (view.state.tick view.config port view.pin5).stage ≠ .floating := by
      rcases hmeasured with h | h <;> rw [h] <;> decide
    obtain ⟨hconditions, hfloatMv⟩ :=
      OutputState.measures_of_leaves view.config port view.pin5 hstage hleaves
    exact ⟨rfl, hstage, hopen, hafter, hconditions, hfloatMv⟩
  | rest hgate hwatch hverdict =>
    rw [Measured, OutputState.stage, hwatch] at hafter
    exact absurd hafter hbefore
  | restart on hmode =>
    subst hmode
    rcases hafter with hstage | hstage <;> cases hstage

end OutputView

namespace Detector

/-- **A port in balance with its pin 6 low is taken for one with an input device, at every count but
one.** Take any thresholds, a new manager with any board and sessions, and any history that brings an
output port to where it acts on its measurements, with pin 6 low and nothing else, and with measurements
that agree.

The first of them was taken in a tick that found pin 5 in balance, by its count, and the port has not
been anywhere else since. The next tick takes a device to be connected, without driving pin 5. It
publishes an error, except at the one count that the lower edge of the band converts to: there it
publishes a large motor. -/
theorem balanced_port_verdict (config : DetectionConfig) (shared : Shared ColorLink)
    (history : List Act) (port : Port) :
    let start : Detector := ({ config := config }, shared)
    let view := (start.acts history).outputView port
    let next := ((start.acts history).act .tick).outputView port
    view.state.stage = .connection → view.state.watch.conditions = { pin6Low := true } →
      view.state.probe.steady = true →
      ∃ before rest, history = before ++ .tick :: rest ∧
        (start.acts before).Stay (fun state => (state.outputView port).Measured) .tick rest ∧
        let first := (start.acts before).outputView port
        first.state.stage = .floating ∧ OutputScene.unbalanced first.pin5 = false ∧
          view.state.watch.floatMv = millivoltsOfCounts first.pin5 ∧
          next.state.stage = .connectedWaitingForPortOpen ∧ next.state.connected = true ∧
          next.state.verdict = balancedVerdict first.pin5 := by
  intro start view next hstage hconditions hsteady
  have hstart : ¬(start.outputView port).Measured := by
    have hinit := stage_outputView_new config shared port
    rintro (h | h) <;> rw [hinit] at h <;> cases h
  obtain ⟨before, entry, rest, hsplit, hstay⟩ :=
    @exists_stay (fun state => (state.outputView port).Measured) start history hstart (.inr hstage)
  have hentered : (((start.acts before).act entry).outputView port).Measured :=
    hstay.stays [] List.nil_prefix
  rw [outputView_act] at hentered
  obtain ⟨rfl, hfloating, hconnecting⟩ := OutputView.connecting_of_measured hstay.arrives hentered
  refine ⟨before, rest, hsplit, hstay, hfloating, ?_⟩
  -- what the tick took note of is what the port acts on
  have hstate : start.acts history = ((start.acts before).act .tick).acts rest := by
    rw [hsplit, acts_append, acts_cons]
  rw [← outputView_act] at hconnecting
  obtain ⟨hset, hfloatMv, hacts⟩ := outputGoesBy_of_connecting hconnecting rest hstay.stays
  rw [← hstate] at hset hfloatMv hacts
  obtain ⟨rule, hrule, hnext⟩ := hacts hstage
  have hpin5 : ((start.acts before).outputView port).conditionsNow = { pin6Low := true } :=
    hset.symm.trans hconditions
  have hbalanced : OutputScene.unbalanced ((start.acts before).outputView port).pin5 = false :=
    congrArg Conditions.loaded hpin5
  rw [OutputState.probe, hconditions, show view.state.watch.floatMv = _ from hfloatMv] at hsteady
  have hverdict := OutputProbe.decide_of_balanced hbalanced hsteady
  rw [hpin5] at hrule
  rw [hrule] at hverdict
  rw [show rule.verdict = _ from Option.some.inj hverdict] at hnext
  rw [show next.state = _ from hnext]
  exact ⟨hbalanced, hfloatMv, rfl, rfl, rfl⟩

/-- On the first two ports nothing differs but one count: the first reads that of the lower edge, and
the second the next one. -/
theorem balanced_port_verdict_edge :
    let config : DetectionConfig := { resetMs := 0, floatMs := 0, connectMs := 0, lowMs := 0 }
    let history : List Act :=
      [.sample (.outPin5 .p1) 1965, .output .p1 (.plug (.const false)),
        .sample (.outPin5 .p2) 1966, .output .p2 (.plug (.const false))] ++
        List.replicate 7 Act.tick
    let state := acts ({ config := config }, { link := none }) history
    let next := state.act .tick
    (∀ port ∈ [Port.p1, .p2], (state.outputView port).state.stage = .connection ∧
        (state.outputView port).state.watch.conditions = { pin6Low := true } ∧
        (state.outputView port).state.probe.steady = true) ∧
      (next.outputView .p1).state.verdict = ⟨.tacho, .outputTacho⟩ ∧
      (next.outputView .p2).state.verdict = .error := by
  intro config history state next
  have hports : ∀ port ∈ [Port.p1, .p2], (state.outputView port).state.stage = .connection ∧
      (state.outputView port).state.watch.conditions = { pin6Low := true } ∧
      (state.outputView port).state.probe.steady = true := by
    decide +kernel
  refine ⟨hports, ?_, ?_⟩
  · obtain ⟨hstage, hconditions, hsteady⟩ := hports .p1 (by decide)
    obtain ⟨before, rest, -, -, -, hbalanced, hfloatMv, -, -, hverdict⟩ :=
      balanced_port_verdict config { link := none } history .p1 hstage hconditions hsteady
    have hbelow : ¬Threshold.out5BalanceLow ≤ (state.outputView .p1).state.watch.floatMv := by
      decide +kernel
    rw [show (state.outputView .p1).state.watch.floatMv = _ from hfloatMv,
      le_millivolts_iff_of_balanced hbalanced, not_not] at hbelow
    exact hverdict.trans (if_pos hbelow)
  · obtain ⟨hstage, hconditions, hsteady⟩ := hports .p2 (by decide)
    obtain ⟨before, rest, -, -, -, hbalanced, hfloatMv, -, -, hverdict⟩ :=
      balanced_port_verdict config { link := none } history .p2 hstage hconditions hsteady
    have habove : Threshold.out5BalanceLow ≤ (state.outputView .p2).state.watch.floatMv := by
      decide +kernel
    rw [show (state.outputView .p2).state.watch.floatMv = _ from hfloatMv,
      le_millivolts_iff_of_balanced hbalanced] at habove
    exact hverdict.trans (if_neg habove)

end Detector

end PlugWatch
