import PlugWatch.Proofs.Run
/-!
# Watched ports are released

While a port is watched for a plug it should be released: whatever the brick drives, the watch would
take for a device. The manager releases the port when it begins to watch, and the link holds no
session on a watched port. The sampler, however, learns at the end of its cycle only that the port
has left colour mode. Until then it goes on clocking pin 5, and it leaves the pin as the last clock
action of the cycle did.

## Main Definitions

* `PortState.Released` : pins 5 and 6 float and the buffer is on.
* `PortState.Quiet` : the invariant of a watched port.
* `lastDrive?` : how clock actions leave pin 5.

## Main Statements

* `Controller.quiet_steps` : pin 6 of a watched port floats, its buffer is on, the port is not in
  colour mode and has no session in use.
* `Controller.released_iff_not_clocked` : in a run every watched port is released exactly when no
  burst leaves pin 5 of a watched port driven.
-/

namespace PlugWatch

/-! ## Lines -/

namespace InputLines

@[simp] theorem drive_clockSensor (lines : InputLines) :
    lines.clockSensor.drive = lines.drive := by
  unfold clockSensor
  split
  · rfl
  · split <;> rfl

/-- Driving a pin changes the drive of that pin. -/
@[simp] theorem drive_driveTo (lines : InputLines) (role : InputRole) (drive : Drive) :
    (lines.driveTo role drive).drive = lines.drive.set role drive := by
  unfold driveTo
  dsimp only
  split
  · rw [drive_clockSensor]
  · rfl

@[simp] theorem writes_clockSensor (lines : InputLines) :
    lines.clockSensor.writes = lines.writes := by
  unfold clockSensor
  split
  · rfl
  · split <;> rfl

/-- Driving a pin is one drive call. -/
@[simp] theorem writes_driveTo (lines : InputLines) (role : InputRole) (drive : Drive) :
    (lines.driveTo role drive).writes = lines.writes + 1 := by
  unfold driveTo
  dsimp only
  split
  · rw [writes_clockSensor]
  · rfl

/-- A released port has floating pins 5 and 6, and its buffer is on. -/
theorem drive_release (lines : InputLines) :
    lines.release.drive.get .pin5 = .float ∧ lines.release.drive.get .pin6 = .float ∧
      lines.release.drive.get .buffer = .high := by
  unfold release
  simp only [drive_driveTo]
  exact ⟨rfl, rfl, rfl⟩

end InputLines

/-- A clock action drives no pin but pin 5. -/
theorem ClockAction.drive_onLines_ne (action : ClockAction) (lines : InputLines)
    {role : InputRole} (hne : role ≠ .pin5) :
    (action.onLines lines).drive.get role = lines.drive.get role := by
  unfold onLines
  split
  · rw [InputLines.drive_driveTo, InputPins.get_set_ne _ _ hne]
  · rfl

/-- How clock actions leave pin 5, if one of them drives or releases it. -/
def lastDrive? (actions : List ClockAction) : Option Drive :=
  (actions.filterMap ClockAction.drive?).getLast?

theorem foldl_onLines_ne (actions : List ClockAction) {role : InputRole} (hne : role ≠ .pin5) :
    ∀ lines : InputLines,
      (actions.foldl (fun lines action => action.onLines lines) lines).drive.get role
        = lines.drive.get role := by
  induction actions with
  | nil => intro lines; rfl
  | cons action rest ih =>
    intro lines
    rw [List.foldl_cons, ih, ClockAction.drive_onLines_ne action lines hne]

/-- Of several clock actions the last one with a drive counts. -/
theorem foldl_onLines_pin5 (actions : List ClockAction) :
    ∀ lines : InputLines,
      (actions.foldl (fun lines action => action.onLines lines) lines).drive.get .pin5
        = (lastDrive? actions).getD (lines.drive.get .pin5) := by
  induction actions with
  | nil => intro lines; rfl
  | cons action rest ih =>
    intro lines
    rw [List.foldl_cons, ih]
    unfold lastDrive? ClockAction.onLines
    rw [List.filterMap_cons]
    cases action.drive? with
    | none => rfl
    | some drive =>
      dsimp only
      rw [InputLines.drive_driveTo, InputPins.get_set_self, List.getLast?_cons]
      rfl

/-- Clock actions make one drive call each, but for those that hold the pin. -/
theorem foldl_onLines_writes (actions : List ClockAction) :
    ∀ lines : InputLines,
      (actions.foldl (fun lines action => action.onLines lines) lines).writes
        = lines.writes + (actions.filterMap ClockAction.drive?).length := by
  induction actions with
  | nil => intro lines; rfl
  | cons action rest ih =>
    intro lines
    rw [List.foldl_cons, ih]
    unfold ClockAction.onLines
    rw [List.filterMap_cons]
    cases action.drive? with
    | none => rfl
    | some drive =>
      dsimp only
      rw [InputLines.writes_driveTo, List.length_cons]
      omega

namespace PortState

/-- A released port: pins 5 and 6 float, and the buffer is on. -/
def Released (state : PortState) : Prop :=
  state.lines.drive.get .pin5 = .float ∧ state.lines.drive.get .pin6 = .float ∧
    state.lines.drive.get .buffer = .high

/-- What holds of a port while it is watched: but for pin 5 it is released, it is not in colour mode,
and it has no session in use. -/
structure Quiet (state : PortState) : Prop where
  pin6 : state.lines.drive.get .pin6 = .float
  buffer : state.lines.drive.get .buffer = .high
  inactive : state.handshake.active = false
  unused : ∀ session ∈ state.session, session.inUse = false

theorem not_watched_of_ordinary {stage : Stage} (h : stage.ordinary = true) :
    stage.watched = false := by
  cases stage <;> first | rfl | cases h

/-- After a move a port is watched only if it was before and nothing has changed, or if the move
began the watch and released the port. -/
theorem watched_move {before after : PortState} (move : Move before after)
    (hwatched : after.stage.watched = true) :
    (before.stage.watched = true ∧ after.lines = before.lines ∧
        after.handshake = before.handshake ∧ after.session = before.session) ∨
      (after.lines = before.lines.release ∧ after.handshake.active = false ∧
        after.session = before.session.map Session.stop) := by
  -- only `look` and `restart` lead to a watched stage
  have hordinary : after.stage.ordinary ≠ true := by
    intro h
    rw [not_watched_of_ordinary h] at hwatched
    cases hwatched
  cases move with
  | look hlines hhandshake hsession hstage =>
    refine .inl ⟨?_, hlines, hhandshake, hsession⟩
    rcases hstage with hstage | hstage | ⟨hstage, -⟩
    · exact absurd hstage hordinary
    · exact hstage ▸ hwatched
    · exact hstage
  | release hlines hhandshake hsession hstage => exact absurd hstage hordinary
  | restart hlines hhandshake hsession hstage =>
    exact .inr ⟨hlines, by rw [hhandshake], hsession⟩
  | prepare hlines hhandshake hsession hstage =>
    rcases hstage with hstage | hstage <;> (rw [hstage] at hwatched; cases hwatched)
  | start hlines hhandshake hsession hbefore hsettled hstage =>
    rw [hstage] at hwatched
    cases hwatched
  | collect hlines hhandshake hsession hbefore hstage =>
    rw [hstage] at hwatched
    cases hwatched
  | abandon hlines hhandshake hsession hstage => exact absurd hstage hordinary

/-- Nothing of a quiet port is stepped by the bit timer. -/
theorem Quiet.colorTick_eq {state : PortState} (h : state.Quiet) (delay : UInt16) :
    state.colorTick delay = state := by
  unfold colorTick
  split
  · rfl
  · rename_i session hsession
    rw [if_neg (by rw [h.unused session hsession]; simp)]

end PortState

namespace Controller

variable {α ε : Type} [Converter α ε] {c : Controller α} {port : Port}

/-! ## Steps -/

/-- A burst keeps a watched port watched and quiet. -/
theorem quiet_sampleTick (h : (c.portState port).Quiet) :
    (c.sampleTick.2.portState port).Quiet := by
  refine ⟨?_, ?_, ?_, h.unused⟩
  · rw [lines_sampleTick, foldl_onLines_ne _ (by decide)]
    exact h.pin6
  · rw [lines_sampleTick, foldl_onLines_ne _ (by decide)]
    exact h.buffer
  · rcases handshake_sampleTick c port with hsame | hlatch
    · rw [hsame]
      exact h.inactive
    · rw [hlatch]
      exact h.inactive

/-- A tick of the manager after which a port is watched left a watched port as it was, or began the
watch and released the port. -/
theorem watched_managerTick (hquiet : (c.portState port).stage.watched = true →
      (c.portState port).Quiet)
    (hwatched : (c.managerTick.portState port).stage.watched = true) :
    (c.managerTick.portState port).Quiet ∧
      ((c.portState port).stage.watched = true ∧
          (c.managerTick.portState port).lines = (c.portState port).lines ∨
        (c.managerTick.portState port).lines = (c.portState port).lines.release) := by
  rw [portState_managerTick] at hwatched ⊢
  split
  · rename_i hrunning
    rw [if_pos hrunning] at hwatched
    have hmove := PortState.move_tick c.manager.config port (c.board.samples.inPin1 port)
      (c.portState port)
    rcases PortState.watched_move hmove hwatched with
      ⟨hbefore, hlines, hhandshake, hsession⟩ | ⟨hlines, hinactive, hsession⟩
    · have h := hquiet hbefore
      refine ⟨⟨?_, ?_, ?_, ?_⟩, .inl ⟨hbefore, hlines⟩⟩
      · rw [hlines]
        exact h.pin6
      · rw [hlines]
        exact h.buffer
      · rw [hhandshake]
        exact h.inactive
      · rw [hsession]
        exact h.unused
    · obtain ⟨-, hpin6, hbuffer⟩ := InputLines.drive_release (c.portState port).lines
      refine ⟨⟨?_, ?_, hinactive, ?_⟩, .inr hlines⟩
      · rw [hlines]
        exact hpin6
      · rw [hlines]
        exact hbuffer
      · rw [hsession]
        exact fun session hmem => PortState.not_inUse_of_mem_stop hmem
  · rename_i hclosed
    rw [if_neg hclosed] at hwatched
    exact ⟨hquiet hwatched, .inl ⟨hwatched, rfl⟩⟩

/-- A request after which a port is watched left it watched, and left its pins as they were or
released them. -/
theorem watched_request {step : Step α} (hjob : step.isJob = false)
    (hdrive : ∀ role drive, step ≠ .drive port role drive)
    (hquiet : (c.portState port).stage.watched = true → (c.portState port).Quiet)
    (hwatched : ((c.step step).portState port).stage.watched = true) :
    ((c.step step).portState port).Quiet ∧ (c.portState port).stage.watched = true ∧
      (((c.step step).portState port).lines.drive = (c.portState port).lines.drive ∨
        ((c.step step).portState port).lines = (c.portState port).lines.release) := by
  obtain ⟨hhandshake, hsession, hstage⟩ := shared_step c hjob port
  have hbefore : (c.portState port).stage.watched = true := by
    rcases hstage with hstage | hstage | hstage
    · exact hstage ▸ hwatched
    · rw [hstage] at hwatched
      cases hwatched
    · rw [hstage] at hwatched
      cases hwatched
  have h := hquiet hbefore
  obtain ⟨-, hpin6, hbuffer⟩ := InputLines.drive_release (c.portState port).lines
  have hlines := drive_step c hjob hdrive
  refine ⟨⟨?_, ?_, ?_, ?_⟩, hbefore, hlines⟩
  · rcases hlines with hlines | hlines
    · rw [hlines]
      exact h.pin6
    · rw [hlines]
      exact hpin6
  · rcases hlines with hlines | hlines
    · rw [hlines]
      exact h.buffer
    · rw [hlines]
      exact hbuffer
  · rw [hhandshake]
    exact h.inactive
  · rw [hsession]
    exact h.unused

/-- A step after which a port is watched, other than a burst, left a watched port's pin 5 as it was,
or released it. -/
theorem watched_step {step : Step α} (hsample : step ≠ .sample)
    (hdrive : ∀ role drive, step ≠ .drive port role drive)
    (hquiet : (c.portState port).stage.watched = true → (c.portState port).Quiet)
    (hwatched : ((c.step step).portState port).stage.watched = true) :
    ((c.step step).portState port).Quiet ∧
      ((c.portState port).stage.watched = true ∧
          ((c.step step).portState port).lines.drive.get .pin5
            = (c.portState port).lines.drive.get .pin5 ∨
        ((c.step step).portState port).lines.drive.get .pin5 = .float) := by
  have hreleased := (InputLines.drive_release (c.portState port).lines).1
  have hrequest : step.isJob = false → _ := fun hjob => watched_request hjob hdrive hquiet hwatched
  have hother : step.isJob = false →
      ((c.step step).portState port).Quiet ∧
        ((c.portState port).stage.watched = true ∧
            ((c.step step).portState port).lines.drive.get .pin5
              = (c.portState port).lines.drive.get .pin5 ∨
          ((c.step step).portState port).lines.drive.get .pin5 = .float) := by
    intro hjob
    obtain ⟨h, hbefore, hlines | hlines⟩ := hrequest hjob
    · exact ⟨h, .inl ⟨hbefore, by rw [hlines]⟩⟩
    · exact ⟨h, .inr (by rw [hlines]; exact hreleased)⟩
  cases step with
  | sample => exact absurd rfl hsample
  | manage =>
    rw [Controller.step] at hwatched ⊢
    obtain ⟨h, ⟨hbefore, hlines⟩ | hlines⟩ := watched_managerTick hquiet hwatched
    · exact ⟨h, .inl ⟨hbefore, by rw [hlines]⟩⟩
    · exact ⟨h, .inr (by rw [hlines]; exact hreleased)⟩
  | color =>
    rw [Controller.step, portState_colorTick] at hwatched ⊢
    have hbefore : (c.portState port).stage.watched = true := by
      rw [PortState.stage, (PortState.colorTick_frame _ _).2] at hwatched
      exact hwatched
    -- no session of a quiet port is in use, so the bit timer does nothing to it
    rw [(hquiet hbefore).colorTick_eq]
    exact ⟨hquiet hbefore, .inl ⟨hbefore, rfl⟩⟩
  | time clock => exact ⟨hquiet hwatched, .inl ⟨hwatched, rfl⟩⟩
  | _ => exact hother rfl

/-- No step but a drive by user space disturbs a watched port. -/
theorem quiet_step {step : Step α} (hdrive : ∀ role drive, step ≠ .drive port role drive)
    (hquiet : (c.portState port).stage.watched = true → (c.portState port).Quiet)
    (hwatched : ((c.step step).portState port).stage.watched = true) :
    ((c.step step).portState port).Quiet := by
  by_cases hsample : step = .sample
  · subst hsample
    exact quiet_sampleTick (hquiet hwatched)
  · exact (watched_step hsample hdrive hquiet hwatched).1

/-! ## Runs -/

/-- No run without a drive by user space disturbs a watched port. -/
theorem quiet_steps (run : List (Step α)) :
    ∀ {c : Controller α}, (∀ role drive, .drive port role drive ∉ run) →
      ((c.portState port).stage.watched = true → (c.portState port).Quiet) →
      ((c.steps run).portState port).stage.watched = true →
      ((c.steps run).portState port).Quiet := by
  induction run with
  | nil => intro c _ hquiet hwatched; exact hquiet hwatched
  | cons step rest ih =>
    intro c hrun hquiet hwatched
    refine ih (fun role drive hmem => hrun role drive (List.mem_cons_of_mem _ hmem)) ?_ hwatched
    refine quiet_step (fun role drive heq => ?_) hquiet
    subst heq
    exact hrun role drive List.mem_cons_self

/-- If no burst leaves pin 5 of a watched port driven, the pin of a watched port floats. -/
theorem pin5_steps (run : List (Step α)) :
    ∀ {c : Controller α}, (∀ role drive, .drive port role drive ∉ run) →
      ((c.portState port).stage.watched = true → (c.portState port).Quiet) →
      ((c.portState port).stage.watched = true →
        (c.portState port).lines.drive.get .pin5 = .float) →
      (∀ before, before ++ [.sample] <+: run →
        ((c.steps before).portState port).stage.watched = true →
        (lastDrive? ((c.steps before).samplerScene.clockActions port)).getD .float = .float) →
      ((c.steps run).portState port).stage.watched = true →
      ((c.steps run).portState port).lines.drive.get .pin5 = .float := by
  induction run with
  | nil => intro c _ _ hpin5 _ hwatched; exact hpin5 hwatched
  | cons step rest ih =>
    intro c hrun hquiet hpin5 hbursts hwatched
    have hdrive : ∀ role drive, step ≠ .drive port role drive := by
      rintro role drive rfl
      exact hrun role drive List.mem_cons_self
    refine ih (fun role drive hmem => hrun role drive (List.mem_cons_of_mem _ hmem))
      (quiet_step hdrive hquiet) ?_ ?_ hwatched
    · -- of all steps only a burst can drive the pin of a port that stays watched
      intro hwatched'
      by_cases hsample : step = .sample
      · subst hsample
        have hbefore : (c.portState port).stage.watched = true := hwatched'
        rw [Controller.step, lines_sampleTick, foldl_onLines_pin5, hpin5 hbefore]
        exact hbursts [] (List.cons_prefix_cons.mpr ⟨rfl, List.nil_prefix⟩) hbefore
      · rcases (watched_step hsample hdrive hquiet hwatched').2 with ⟨hbefore, hsame⟩ | hfloat
        · exact hsame.trans (hpin5 hbefore)
        · exact hfloat
    · intro before hbefore
      exact hbursts (step :: before) (List.cons_prefix_cons.mpr ⟨rfl, hbefore⟩)

/-- **When watched ports are released.** Take any run from a fresh controller in which user space
drives no pin of a port: the jobs in any order, whatever arrives on the lines and in the converter,
and any requests. While the port is watched, its pin 6 floats and its buffer is on. All of it is
released, pin 5 included, throughout the run exactly when no burst that begins while the port is
watched leaves pin 5 driven by the clock actions it still carries out there. -/
theorem released_iff_not_clocked {adc : α} {board : Board} {config : Config} {c : Controller α}
    (hnew : Controller.new adc board config = .ok c) {port : Port} {run : List (Step α)}
    (hrun : ∀ role drive, .drive port role drive ∉ run) :
    (∀ before, before <+: run → ((c.steps before).portState port).stage.watched = true →
        ((c.steps before).portState port).lines.drive.get .pin6 = .float ∧
          ((c.steps before).portState port).lines.drive.get .buffer = .high) ∧
      ((∀ before, before <+: run → ((c.steps before).portState port).stage.watched = true →
          ((c.steps before).portState port).Released) ↔
        ∀ before, before ++ [.sample] <+: run →
          ((c.steps before).portState port).stage.watched = true →
          (lastDrive? ((c.steps before).samplerScene.clockActions port)).getD .float
            = .float) := by
  have hfresh : (c.portState port).stage.watched = false := by
    rw [PortState.stage, (portState_new hnew port).1]
    rfl
  have hnever : ∀ {P : Prop}, (c.portState port).stage.watched = true → P := by
    intro P hwatched
    rw [hfresh] at hwatched
    cases hwatched
  have hundriven : ∀ {before : List (Step α)}, before <+: run →
      ∀ role drive, .drive port role drive ∉ before :=
    fun hbefore role drive hmem => hrun role drive (hbefore.subset hmem)
  have hquiet : ∀ before, before <+: run →
      ((c.steps before).portState port).stage.watched = true →
      ((c.steps before).portState port).Quiet :=
    fun before hbefore => quiet_steps before (hundriven hbefore) hnever
  refine ⟨fun before hbefore hwatched => ?_, ?_, ?_⟩
  · have h := hquiet before hbefore hwatched
    exact ⟨h.pin6, h.buffer⟩
  · -- a burst leaves the stage alone, so the port is watched and released behind it as well
    intro hreleased before hburst hwatched
    have hbefore : before <+: run := (List.prefix_append before _).trans hburst
    have hfloat := (hreleased before hbefore hwatched).1
    have hwatched' : ((c.steps (before ++ [.sample])).portState port).stage.watched = true := by
      rw [steps_append]
      exact hwatched
    have hfloat' := (hreleased _ hburst hwatched').1
    rw [steps_append, steps_cons, steps_nil, Controller.step, lines_sampleTick,
      foldl_onLines_pin5, hfloat] at hfloat'
    exact hfloat'
  · intro hbursts before hbefore hwatched
    have h := hquiet before hbefore hwatched
    refine ⟨?_, h.pin6, h.buffer⟩
    refine pin5_steps before (hundriven hbefore) hnever hnever ?_ hwatched
    intro earlier hearlier
    exact hbursts earlier (hearlier.trans hbefore)

/-- A run in which a watched port is not released. The second port is connected, goes through a whole
session, and is clocked in its turn. Its connection ends in the middle of the cycle, and the next
burst of that cycle drives pin 5 low again. -/
theorem released_iff_not_clocked_driven_low :
    ∃ fresh : Controller Multiplexer,
      Controller.new {} {} {
        detection := { resetMs := 0, floatMs := 0, connectMs := 0, releaseMs := 0 }
        link := { initDelayMs := 0 } } = .ok fresh ∧
      let run := List.replicate 8 .manage ++ [.request .p2 0x0D, .manage, .manage]
        ++ List.replicate 943 .color ++ [.manage] ++ List.replicate 16 .sample
        ++ [.manage, .manage, .sample]
      (∀ role drive, .drive .p2 role drive ∉ run) ∧
        ((fresh.steps run).portState .p2).stage = .floatingDelay ∧
        ((fresh.steps run).portState .p2).lines.drive.get .pin5 = .low ∧
        ¬ ∀ before, before ++ [.sample] <+: run →
          ((fresh.steps before).portState .p2).stage.watched = true →
          (lastDrive? ((fresh.steps before).samplerScene.clockActions .p2)).getD .float
            = .float := by
  refine ⟨_, rfl, ?_⟩
  intro run
  have hnew : Controller.new ({} : Multiplexer) {} {
      detection := { resetMs := 0, floatMs := 0, connectMs := 0, releaseMs := 0 }
      link := { initDelayMs := 0 } } = .ok _ := rfl
  have hrun : ∀ role drive, Step.drive .p2 role drive ∉ run := by
    intro role drive
    simp only [run, List.mem_append, List.mem_replicate, List.mem_cons, List.not_mem_nil,
      reduceCtorEq, and_false, or_false, not_false_eq_true]
  -- the run itself is evaluated once, for where it ends; that a burst is to blame follows
  refine ⟨hrun, and_assoc.mp ((and_iff_left_of_imp fun hends hbursts => ?_).mpr ?_)⟩
  · have hreleased := (released_iff_not_clocked hnew hrun).2.mpr hbursts run
      (List.prefix_refl run) (by rw [hends.1]; rfl)
    have hfloat := hreleased.1
    rw [hends.2] at hfloat
    cases hfloat
  · decide +kernel

end Controller

end PlugWatch
