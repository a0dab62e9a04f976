import PlugWatch.Proofs.Detection.Detector
/-!
# Ports do not influence each other

All watches share one board, one round of ticks and one set of colour sessions. Nevertheless what
happens to a port is a function of the acts that concern it: two runs in which the same is done to a
port, and anything to the others, cannot be told apart at that port.

## Main Definitions

* `Detector.trace` : what is seen of a run through a view, act by act.
* `Detector.fresh` : a detector whose watches are all new.

## Main Statements

* `Detector.trace_eq` : what is seen of a run is a function of the acts that concern the view.
* `Detector.ports_independent` : two runs that do the same to a port look the same at that port.
-/

namespace PlugWatch

namespace Detector

/-! ## Views of a run -/

section Views

variable {β : Type} (view : Detector → β) (concerns : Act → Bool)

/-- What is seen of a run: the view in the beginning and after every act that concerns it. -/
def trace (state : Detector) : List Act → List β
  | [] => [view state]
  | act :: rest =>
    if concerns act then view state :: trace (state.act act) rest
    else trace (state.act act) rest

variable {view concerns} {step : β → Act → β}
  (hview : ∀ state act, view (state.act act) = step (view state) act)
  (hquiet : ∀ {act}, concerns act = false → ∀ seen, step seen act = seen)

include hview in
theorem view_acts (state : Detector) (run : List Act) :
    view (state.acts run) = run.foldl step (view state) := by
  induction run generalizing state with
  | nil => rfl
  | cons act rest ih => rw [acts_cons, ih, List.foldl_cons, hview]

include hview hquiet

/-- What is seen in the end is a function of the acts that concern the view. -/
theorem view_acts_filter (state : Detector) (run : List Act) :
    view (state.acts run) = (run.filter concerns).foldl step (view state) := by
  rw [view_acts hview, List.foldl_filter]
  congr 1
  funext seen act
  split
  · rfl
  · rename_i h
    exact hquiet (by simpa using h) seen

/-- What is seen of a run is a function of the acts that concern the view. -/
theorem trace_eq (state : Detector) (run : List Act) :
    state.trace view concerns run = (run.filter concerns).scanl step (view state) := by
  induction run generalizing state with
  | nil => rfl
  | cons act rest ih =>
    cases h : concerns act with
    | true => rw [trace, if_pos h, List.filter_cons_of_pos h, List.scanl_cons, ih, hview]
    | false =>
      rw [trace, if_neg (by simp [h]), List.filter_cons_of_neg (by simp [h]), ih, hview,
        hquiet h]

/-- Two runs that do the same to a view look the same through it. -/
theorem trace_congr {start start' : Detector} {run run' : List Act}
    (hstart : view start = view start') (hrun : run.filter concerns = run'.filter concerns) :
    start.trace view concerns run = start'.trace view concerns run' ∧
      view (start.acts run) = view (start'.acts run') := by
  rw [trace_eq hview hquiet, trace_eq hview hquiet, view_acts_filter hview hquiet,
    view_acts_filter hview hquiet, hstart, hrun]
  exact ⟨rfl, rfl⟩

end Views

/-! ## Views of a port -/

/-- What a run leaves of an input port is a function of the acts that concern it. -/
theorem inputView_acts (state : Detector) (run : List Act) (port : Port) :
    (state.acts run).inputView port =
      (run.filter (Act.concernsInput port)).foldl (InputView.act port) (state.inputView port) :=
  @view_acts_filter _ (fun state => state.inputView port) (Act.concernsInput port) _
    (fun state act => state.inputView_act act port) InputView.act_of_not_concerns state run

/-- A detector whose watches are all new. -/
def fresh (config : DetectionConfig) (link : Option ColorLink) : Detector :=
  ({ config := config }, { link := link })

/-- **Ports do not influence each other.** Take two detectors that agree on a port: on its state, the
sample it looks at, the thresholds, the gate and the reset hold. In one run from each, let the acts
that concern the port be the same, while the rest of the runs is arbitrary. Then the port with all that
belongs to it is the same in both runs, in the beginning, after every act that concerns it, and in the
end. That holds of input ports and of output ports. -/
theorem ports_independent {start start' : Detector} {run run' : List Act} (port : Port) :
    (start.inputView port = start'.inputView port →
      run.filter (Act.concernsInput port) = run'.filter (Act.concernsInput port) →
      start.trace (fun state => state.inputView port) (Act.concernsInput port) run =
          start'.trace (fun state => state.inputView port) (Act.concernsInput port) run' ∧
        (start.acts run).inputView port = (start'.acts run').inputView port) ∧
    (start.outputView port = start'.outputView port →
      run.filter (Act.concernsOutput port) = run'.filter (Act.concernsOutput port) →
      start.trace (fun state => state.outputView port) (Act.concernsOutput port) run =
          start'.trace (fun state => state.outputView port) (Act.concernsOutput port) run' ∧
        (start.acts run).outputView port = (start'.acts run').outputView port) := by
  refine ⟨fun hstart hrun => ?_, fun hstart hrun => ?_⟩
  · exact trace_congr (fun state act => state.inputView_act act port)
      InputView.act_of_not_concerns hstart hrun
  · exact trace_congr (fun state act => state.outputView_act act port)
      OutputView.act_of_not_concerns hstart hrun

/-- An analog sensor on the first input port is detected alike whether the second one stays empty or a
colour session runs there. -/
theorem ports_independent_color_session :
    let config : DetectionConfig :=
      { resetMs := 0, floatMs := 0, connectMs := 0, pin2Detection := true }
    let start := fresh config (some {})
    let color : Act := .input .p2 (.plug ⟨true, false, true, false, false⟩ (some {}))
    let run := Act.sample 1 4095 :: .sample 0 2000 :: List.replicate 10 .tick
    let run' := color :: .sample 0 2000 :: List.replicate 10 .tick
    ((start.acts run).inputView .p1 = (start.acts run').inputView .p1 ∧
        ((start.acts run).inputView .p1).state.verdict = ⟨.unknown, .inputDumb⟩) ∧
      ((start.acts run).inputView .p2).state.stage = .floating ∧
      ((start.acts run').inputView .p2).state.stage = .nxtColorBusy := by
  intro config start color run run'
  have hsame : run.filter (Act.concernsInput .p1) = run'.filter (Act.concernsInput .p1) := by
    decide +kernel
  refine ⟨⟨((ports_independent .p1).1 rfl hsame).2, ?_⟩, ?_, ?_⟩ <;> decide +kernel

end Detector

end PlugWatch
