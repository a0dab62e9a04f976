import Mathlib.Data.List.Induction
import PlugWatch.Proofs.Calls
import PlugWatch.Proofs.Detection.OutputTick
import PlugWatch.Proofs.Since
import PlugWatch.Proofs.Timing.Deadlines
/-!
# The drive of the third measurement

When two measurements of pin 5 do not tell what is plugged to an output port, the watch drives the
pull-down of the pin high and measures once more. The tick that takes the measurement takes the drive
back. What takes a port out of that stage before is a switch of test mode. Entering test mode releases
the port, and leaving it does not: the watch starts over at its first stage, which releases the port in
its tick, but that tick comes when the gate has opened again. Until then the drive is left behind.

## Main Definitions

* `OutputState.Probes` : the pull-down of pin 5 is driven high.
* `Controller.TakesBack` : a step takes back what was left behind.
* `Controller.LeftDriven` : test mode was left during the third measurement, and nothing has taken the
  drive back since.
* `OutputState.Accounted` : who holds the drive of a port.

## Main Statements

* `OutputState.probes_tick` : what a tick does to the drive.
* `Controller.driveAccounted_step` : what a step does to it.
* `Controller.probe_drive_left_behind` : when the drive is high.
-/

namespace PlugWatch

/-! ## One tick of a watch -/

namespace OutputState

/-- The pull-down of pin 5 is driven high. -/
def Probes (state : OutputState) : Prop := state.socket.lines.drive.get .pin5Write = .high

instance (state : OutputState) : Decidable state.Probes := inferInstanceAs (Decidable (_ = _))

variable (config : DetectionConfig) (port : Port) (pin5 : UInt16) {state : OutputState}

/-- Away from the third measurement, and unless the port is released, a tick leaves the drive alone. -/
theorem probes_tick_of_ne (hinit : state.stage ≠ .init) (hconnection : state.stage ≠ .connection)
    (hprobing : state.stage ≠ .waitingForPin5Low) :
    (state.tick config port pin5).Probes ↔ state.Probes := by
  cases hstage : state.stage with
  | init => exact absurd hstage hinit
  | connection => exact absurd hstage hconnection
  | waitingForPin5Low => exact absurd hstage hprobing
  | floatingDelay =>
    rw [tick_floatingDelay config port pin5 hstage]
    split <;> exact Iff.rfl
  | floating =>
    rw [tick_floating config port pin5 hstage]
    dsimp only
    split
    · exact Iff.rfl
    · split <;> exact Iff.rfl
  | waitingForPin6Low =>
    rw [tick_waitingForPin6Low config port pin5 hstage]
    split <;> exact Iff.rfl
  | connectedWaitingForPortOpen =>
    rw [tick_connectedWaitingForPortOpen config port pin5 hstage]
    generalize (if state.loaded pin5 then 0 else state.watch.timer) = count
    dsimp only
    split <;> exact Iff.rfl
  | _ =>
    rw [tick_of_foreign config port pin5 (by rw [hstage]; rfl) (by rw [hstage]; nofun)
      (by rw [hstage]; nofun)]
    exact Iff.rfl

/-- A tick leads to the third measurement from the first two, or from itself. -/
theorem stage_tick_ne (hconnection : state.stage ≠ .connection)
    (hprobing : state.stage ≠ .waitingForPin5Low) :
    (state.tick config port pin5).stage ≠ .waitingForPin5Low := by
  intro hnext
  have hmem := stage_tick config port pin5 state
  rw [hnext] at hmem
  cases hstage : state.stage with
  | connection => exact hconnection hstage
  | waitingForPin5Low => exact hprobing hstage
  | _ =>
    rw [hstage] at hmem
    simp [Stage.outputNext] at hmem

/-- **A tick and the drive.** If in front of a tick the pull-down is driven high during the third
measurement and in no other stage, so it is behind the tick. A tick that releases the port takes back
whatever was left. -/
theorem probes_tick
    (h : state.stage ≠ .init → (state.Probes ↔ state.stage = .waitingForPin5Low)) :
    (state.tick config port pin5).Probes ↔
      (state.tick config port pin5).stage = .waitingForPin5Low := by
  by_cases hinit : state.stage = .init
  · rw [tick_init config port pin5 hinit]
    exact iff_of_false nofun nofun
  by_cases hconnection : state.stage = .connection
  · have hlow : ¬state.Probes := by
      rw [h hinit, hconnection]
      nofun
    obtain ⟨rule, -, hrule⟩ := exists_outputRule state.probe
    rw [tick_connection config port pin5 hconnection hrule]
    cases rule.verdict with
    | connect classification | actuator sample => exact iff_of_false hlow nofun
    | probeDriven => exact iff_of_true rfl rfl
  by_cases hprobing : state.stage = .waitingForPin5Low
  · have hhigh : state.Probes := (h hinit).mpr hprobing
    obtain ⟨rule, -, hrule⟩ := exists_drivenRule ⟨millivoltsOfCounts pin5⟩
    rw [tick_waitingForPin5Low config port pin5 hprobing hrule]
    split
    · exact iff_of_false nofun nofun
    · exact iff_of_true hhigh hprobing
  · have hlow : ¬state.Probes := fun hprobes => hprobing ((h hinit).mp hprobes)
    rw [probes_tick_of_ne config port pin5 hinit hconnection hprobing]
    exact iff_of_false hlow (stage_tick_ne config port pin5 hconnection hprobing)

/-- Who holds the drive: the third measurement, or it was left behind. In the second case the watch is to
start over. -/
structure Accounted (left : Prop) (state : OutputState) : Prop where
  probes_iff : state.Probes ↔ state.stage = .waitingForPin5Low ∨ left
  init_of_left : left → state.stage = .init

theorem Accounted.congr {left left' : Prop} (h : state.Accounted left) (heq : left' ↔ left) :
    state.Accounted left' :=
  ⟨h.probes_iff.trans (or_congr_right heq.symm), fun hleft => h.init_of_left (heq.mp hleft)⟩

/-- What changes neither the stage nor the drive. -/
theorem Accounted.of_same {left : Prop} {after : OutputState} (h : state.Accounted left)
    (hstage : after.stage = state.stage) (hprobes : after.Probes ↔ state.Probes) :
    after.Accounted left :=
  ⟨by rw [hprobes, hstage]; exact h.probes_iff, fun hleft => hstage.trans (h.init_of_left hleft)⟩

/-- A tick takes back what was left behind. -/
theorem accounted_tick {left : Prop} (h : state.Accounted left) :
    (state.tick config port pin5).Accounted False := by
  refine ⟨?_, False.elim⟩
  rw [or_false]
  refine probes_tick config port pin5 fun hinit => ?_
  rw [h.probes_iff]
  exact or_iff_left fun hleft => hinit (h.init_of_left hleft)

end OutputState

/-! ## Steps of a controller -/

namespace Controller

variable {α ε : Type} [Converter α ε] {c : Controller α} {port : Port}

/-- A step takes back what was left behind: it enters test mode, or it is a tick behind an open gate. -/
def TakesBack (c : Controller α) (step : Step α) : Prop :=
  step = .testMode true ∨ (step = .manage ∧ c.manager.isRunning = true)

/-- Test mode was left, whether it was on or not, while the port made its third measurement, and nothing
has taken the drive back since. -/
def LeftDriven (c : Controller α) (port : Port) (run : List (Step α)) : Prop :=
  Since
    (fun before step => step = .testMode false ∧
      ((c.steps before).manager.outputs.get port).stage = .waitingForPin5Low)
    (fun before step => (c.steps before).TakesBack step) run

/-- What is neither a tick nor a switch of test mode changes neither the watch of an output port nor the
drive of the pull-down, unless user space drives it. -/
theorem probes_step (c : Controller α) {step : Step α} (hmanage : step ≠ .manage)
    (hmode : ∀ on, step ≠ .testMode on) (hdrive : ∀ drive, step ≠ .driveOutput port .pin5Write drive) :
    ((c.step step).outputState port).stage = (c.outputState port).stage ∧
      (((c.step step).outputState port).Probes ↔ (c.outputState port).Probes) := by
  have hsame : ∀ {after : OutputState}, after = c.outputState port →
      after.stage = (c.outputState port).stage ∧ (after.Probes ↔ (c.outputState port).Probes) := by
    rintro after rfl
    exact ⟨rfl, Iff.rfl⟩
  cases step with
  | manage => exact absurd rfl hmanage
  | testMode on => exact absurd rfl (hmode on)
  | sample =>
    exact hsame (congrArg (fun outputs => OutputState.mk _ (PerPort.get outputs port))
      (outputs_sampleTick c))
  | color =>
    refine hsame ?_
    unfold outputState
    rw [Controller.step, manager_colorTick, outputs_colorTick]
  | force other classification =>
    obtain ⟨inputs, h⟩ := force_frame c other classification
    exact hsame (by rw [Controller.step, h]; rfl)
  | request other command =>
    obtain ⟨inputs, h⟩ := requestCommand_frame c other command
    exact hsame (by rw [Controller.step, h]; rfl)
  | driveOutput other role drive =>
    by_cases hport : port = other
    · subst hport
      have hrole : OutputRole.pin5Write ≠ role := by
        rintro rfl
        exact hdrive drive rfl
      rw [Controller.step, outputState_modifyOutputLines_self]
      refine ⟨rfl, ?_⟩
      unfold OutputState.Probes
      dsimp only [OutputLines.driveTo]
      rw [OutputPins.get_set_ne _ _ hrole]
    · exact hsame (outputState_modifyOutputLines_ne c _ hport)
  | plugOutput other level =>
    by_cases hport : port = other
    · subst hport
      rw [Controller.step, outputState_modifyOutputLines_self]
      exact ⟨rfl, Iff.rfl⟩
    · exact hsame (outputState_modifyOutputLines_ne c _ hport)
  | _ => exact hsame rfl

/-- **What a step does to the drive.** Leaving test mode leaves it behind if the port makes its third
measurement; entering test mode and a tick behind an open gate take it back. -/
theorem driveAccounted_step {left : Prop} (h : (c.outputState port).Accounted left) {step : Step α}
    (hdrive : ∀ drive, step ≠ .driveOutput port .pin5Write drive) :
    ((c.step step).outputState port).Accounted
      ((step = .testMode false ∧ (c.outputState port).stage = .waitingForPin5Low) ∨
        (left ∧ ¬c.TakesBack step)) := by
  by_cases hmanage : step = .manage
  · subst hmanage
    have htick : (c.step .manage).outputState port = _ :=
      Manager.outputState_tick c.manager ⟨c.board, c.link, c.journal⟩ port
    rw [htick]
    cases hrunning : c.manager.isRunning with
    | true =>
      rw [if_pos rfl]
      refine (OutputState.accounted_tick _ port _ h).congr ?_
      simp [TakesBack, hrunning]
    | false =>
      rw [if_neg Bool.false_ne_true]
      refine h.congr ?_
      simp [TakesBack, hrunning]
  by_cases hmode : ∃ on, step = .testMode on
  · obtain ⟨on, rfl⟩ := hmode
    rw [Controller.step, outputState_setTestMode]
    cases on with
    | true =>
      suffices hreleased : OutputState.Accounted False _ from hreleased.congr (by simp [TakesBack])
      refine ⟨iff_of_false (fun hprobes => by cases hprobes) ?_, False.elim⟩
      simp [OutputState.stage, OutputWatch.reset]
    | false =>
      -- the watch starts over, and the drive stays as it is
      refine ⟨Iff.trans h.probes_iff ?_, fun _ => rfl⟩
      simp [TakesBack, OutputState.stage, OutputWatch.reset]
  · have hother : ∀ on, step ≠ .testMode on := fun on heq => hmode ⟨on, heq⟩
    obtain ⟨hstage, hprobes⟩ := probes_step c hmanage hother hdrive
    refine (h.of_same hstage hprobes).congr ?_
    simp [TakesBack, hmanage, hother]

theorem driveAccounted_steps (h : (c.outputState port).Accounted False) {run : List (Step α)}
    (hdrive : ∀ drive, .driveOutput port .pin5Write drive ∉ run) :
    ((c.steps run).outputState port).Accounted (c.LeftDriven port run) := by
  induction run using List.reverseRecOn with
  | nil => exact h.congr (iff_of_false not_since_nil id)
  | append_singleton run last ih =>
    have hrun := ih fun drive hmem => hdrive drive (List.mem_append_left _ hmem)
    rw [steps_append]
    refine (driveAccounted_step hrun fun drive heq => hdrive drive ?_).congr since_concat
    rw [heq]
    exact List.mem_append_right _ List.mem_cons_self

/-- Without test mode being left, no call leaves the drive behind. -/
theorem driveAccounted_call (h : (c.outputState port).Accounted False) {call : Call α}
    (hdrive : ∀ drive, ¬call.Includes (.driveOutput port .pin5Write drive))
    (hleave : ¬call.Includes (.testMode false)) :
    ((c.call call).outputState port).Accounted False := by
  refine (leadsTo_call c call).preserves
    (P := fun now => (now.outputState port).Accounted False) (fun hnow step hincludes => ?_) h
  refine (driveAccounted_step hnow fun drive heq => hdrive drive (heq ▸ hincludes)).congr ?_
  refine iff_of_false id ?_
  rintro (⟨rfl, -⟩ | ⟨hfalse, -⟩)
  · exact hleave hincludes
  · exact hfalse

/-- **When the probe drive is high.** A controller is set up on a board on which the pull-down of pin 5 of
an output port is not driven high.

* Whatever steps follow, jobs in any order, requests, switches of test mode and devices that come and go
  among them, but none with which user space drives the pull-down of the port: it is driven high exactly
  while the port makes its third measurement, and from a moment in which test mode is left during that
  measurement up to the next tick behind an open gate, or until test mode is entered.
* So whatever calls follow that neither drive the pull-down nor leave test mode, it is driven high exactly
  during the measurement. -/
theorem probe_drive_left_behind {adc : α} {board : Board} {config : Config} {fresh : Controller α}
    (hnew : Controller.new adc board config = .ok fresh) {port : Port}
    (hboard : (board.outputs.get port).lines.drive.get .pin5Write ≠ .high) :
    (∀ run : List (Step α), (∀ drive, .driveOutput port .pin5Write drive ∉ run) →
      let c := fresh.steps run
      ((c.board.outputs.get port).lines.drive.get .pin5Write = .high ↔
        (c.manager.outputs.get port).stage = .waitingForPin5Low ∨ fresh.LeftDriven port run)) ∧
      ∀ calls : List (Call α),
        (∀ call ∈ calls, (∀ drive, ¬call.Includes (.driveOutput port .pin5Write drive)) ∧
          ¬call.Includes (.testMode false)) →
        let c := fresh.calls calls
        ((c.board.outputs.get port).lines.drive.get .pin5Write = .high ↔
          (c.manager.outputs.get port).stage = .waitingForPin5Low) := by
  have hfresh : (fresh.outputState port).Accounted False := by
    have hinit : (fresh.outputState port).stage = .init := stage_output_new hnew port
    have hlow : ¬(fresh.outputState port).Probes := by
      unfold OutputState.Probes outputState
      rw [(parts_of_new hnew).2.1]
      exact hboard
    refine ⟨iff_of_false hlow ?_, False.elim⟩
    rw [hinit]
    simp
  refine ⟨fun run hdrive => (driveAccounted_steps hfresh hdrive).probes_iff, fun calls hcalls => ?_⟩
  have hafter : ((fresh.calls calls).outputState port).Accounted False := by
    refine calls_preserves (P := fun c => (c.outputState port).Accounted False) calls ?_ hfresh
    intro c h call hmem
    exact driveAccounted_call h (hcalls call hmem).1 (hcalls call hmem).2
  exact hafter.probes_iff.trans (or_iff_left id)

/-- A drive that is left behind. Pin 5 of the first output port is near its supply, so the port comes to
the third measurement; then test mode is left, though it was never entered. The watch is back in its first
stage, the first two ticks are in front of a closed gate, and the drive is still high. -/
theorem probe_drive_left_behind_closed_gate :
    ∃ fresh : Controller Multiplexer,
      Controller.new {} {}
          { detection := { resetMs := 0, floatMs := 0, connectMs := 0, lowMs := 0 } } = .ok fresh ∧
        let before := .convert (({} : Multiplexer).setSlot (.outPin5 .p1) 3276) ::
          List.replicate 32 .sample ++ List.replicate 8 .manage
        let run := before ++ [.testMode false, .manage, .manage]
        let probing := fresh.steps before
        let c := fresh.steps run
        (probing.manager.outputs.get .p1).stage = .waitingForPin5Low ∧
          (c.manager.outputs.get .p1).stage = .init ∧
          (c.board.outputs.get .p1).lines.drive.get .pin5Write = .high ∧
          fresh.LeftDriven .p1 run := by
  refine ⟨_, rfl, ?_⟩
  intro before run probing c
  have hnew : Controller.new ({} : Multiplexer) {}
      { detection := { resetMs := 0, floatMs := 0, connectMs := 0, lowMs := 0 } } = .ok _ := rfl
  have hends : (probing.manager.outputs.get .p1).stage = .waitingForPin5Low ∧
      (c.manager.outputs.get .p1).stage = .init ∧
      (c.board.outputs.get .p1).lines.drive.get .pin5Write = .high := by
    decide +kernel
  obtain ⟨hprobing, hinit, hhigh⟩ := hends
  have hundriven : ∀ drive, .driveOutput .p1 .pin5Write drive ∉ run := by
    simp [run, before]
  have hiff := (probe_drive_left_behind hnew (by decide)).1 run hundriven
  refine ⟨hprobing, hinit, hhigh, (hiff.mp hhigh).resolve_left ?_⟩
  rw [hinit]
  nofun

end Controller

end PlugWatch
