import PlugWatch.Proofs.Detection.Move
import PlugWatch.Proofs.Sampling.Burst
/-!
# Runs of a controller

Everything that can happen to a controller is a sequence of small steps: one of the three jobs, a
request of user space, a change on the far side of the lines or in the converter, or a deadline
that is moved. Running up to an instant is such a sequence too.

## Main Definitions

* `Step` : one thing that happens to a controller; `Controller.step`, `Controller.steps`.
* `Controller.Reachable` : the controllers that steps lead to from a fresh one.

## Main Statements

* `Controller.steps_preserves` : what each step of a run keeps, the run keeps.
* `Controller.runUntil_eq_steps` : running up to an instant is a sequence of jobs.
* `Controller.Reachable.runUntil` : running up to an instant stays within the reachable controllers.
* `Controller.shared_step`, `Controller.lines_request` : what a step that is no job does to one input
  port.
-/

namespace PlugWatch

/-- One thing that happens to a controller. -/
inductive Step (α : Type) where
  /-- A burst of the sampler, whether it works or not. -/
  | sample
  /-- A tick of the connection manager. -/
  | manage
  /-- A period of the bit timer. -/
  | color
  /-- The present instant and the deadlines are set. -/
  | time (clock : Clock)
  | note (notice : Notice)
  | enable (port : Port) (on : Bool)
  | force (port : Port) (classification : Classification)
  | request (port : Port) (command : UInt8)
  | testMode (on : Bool)
  /-- User space releases an input port. -/
  | release (port : Port)
  /-- User space drives a pin of an input port. -/
  | drive (port : Port) (role : InputRole) (drive : Drive)
  /-- User space drives a pin of an output port. -/
  | driveOutput (port : Port) (role : OutputRole) (drive : Drive)
  /-- The far side of an input port changes. -/
  | plug (port : Port) (level : InputPins Bool) (sensor : Option Sensor)
  /-- The far side of an output port changes. -/
  | plugOutput (port : Port) (level : OutputPins Bool)
  /-- The converter changes by itself. -/
  | convert (adc : α)

namespace Step

variable {α : Type}

/-- Whether a step is a job or moves a deadline. -/
def isJob : Step α → Bool
  | sample | manage | color | time _ => true
  | _ => false

@[simp] theorem isJob_sample : (sample : Step α).isJob = true := rfl

@[simp] theorem isJob_manage : (manage : Step α).isJob = true := rfl

@[simp] theorem isJob_color : (color : Step α).isJob = true := rfl

@[simp] theorem isJob_time (clock : Clock) : (time clock : Step α).isJob = true := rfl

end Step

namespace Controller

variable {α ε : Type}

/-- Carries out a step. -/
def step [Converter α ε] (c : Controller α) : Step α → Controller α
  | .sample => c.sampleTick.2
  | .manage => c.managerTick
  | .color => c.colorTick
  | .time clock => { c with clock := clock }
  | .note notice => c.note notice
  | .enable port on => c.setEnabled port on
  | .force port classification => (c.force port classification).2
  | .request port command => (c.requestCommand port command).2
  | .testMode on => c.setTestMode on
  | .release port => c.modifyInputLines port .release
  | .drive port role drive => c.modifyInputLines port fun lines => lines.driveTo role drive
  | .driveOutput port role drive => c.modifyOutputLines port fun lines => lines.driveTo role drive
  | .plug port level sensor =>
    c.modifyInputLines port fun lines => { lines with level := level, sensor := sensor }
  | .plugOutput port level => c.modifyOutputLines port fun lines => { lines with level := level }
  | .convert adc => { c with adc := adc }

/-- Carries out steps, one after the other. -/
def steps [Converter α ε] (c : Controller α) (run : List (Step α)) : Controller α :=
  run.foldl step c

section Steps

variable [Converter α ε]

@[simp] theorem steps_nil (c : Controller α) : c.steps [] = c := rfl

@[simp] theorem steps_cons (c : Controller α) (first : Step α) (rest : List (Step α)) :
    c.steps (first :: rest) = (c.step first).steps rest := rfl

theorem steps_append (c : Controller α) (before after : List (Step α)) :
    c.steps (before ++ after) = (c.steps before).steps after :=
  List.foldl_append

/-- What each step of a run keeps, the run keeps. -/
theorem steps_preserves {P : Controller α → Prop} (run : List (Step α))
    (hstep : ∀ {c : Controller α}, P c → ∀ step ∈ run, P (c.step step))
    {c : Controller α} (h : P c) : P (c.steps run) :=
  List.foldlRecOn run step h fun _ h step hmem => hstep h step hmem

/-- The controllers that steps lead to from a fresh one. -/
inductive Reachable : Controller α → Prop
  | new {adc : α} {board : Board} {config : Config} {c : Controller α}
      (h : Controller.new adc board config = .ok c) : Reachable c
  | step {c : Controller α} (h : Reachable c) (step : Step α) : Reachable (c.step step)

theorem Reachable.steps {c : Controller α} (h : c.Reachable) (run : List (Step α)) :
    (c.steps run).Reachable :=
  steps_preserves run (fun h step _ => h.step step) h

/-! ## Running up to an instant -/

theorem mapClock_eq_step (c : Controller α) (f : Clock → Clock) :
    c.mapClock f = c.step (.time (f c.clock)) := rfl

theorem syncColorTimer_eq_step (c : Controller α) :
    c.syncColorTimer =
      c.step (.time (c.clock.syncColor c.colorTimerRunning c.linkConfig.period)) := rfl

/-- A job is a step among changes of the deadlines. -/
theorem runJob_eq_steps (c : Controller α) (instant : UInt64) (job : Job) :
    ∃ jobs : List (Step α), (∀ step ∈ jobs, step.isJob = true) ∧
      (c.runJob instant job).2 = c.steps jobs := by
  unfold runJob
  dsimp only
  rw [mapClock_eq_step]
  cases job with
  | sample =>
    dsimp only
    split
    · rename_i period left hburst
      have hsample : (c.step (.time { c.clock with now := instant })).step .sample = left :=
        congrArg Prod.snd hburst
      -- only a burst that works moves the next one
      refine ⟨[.time { c.clock with now := instant }, .sample,
        .time (left.clock.delaySample period)], by simp, ?_⟩
      rw [steps_cons, steps_cons, hsample]
      rfl
    · rename_i fault left hburst
      exact ⟨[.time { c.clock with now := instant }, .sample], by simp,
        (congrArg Prod.snd hburst).symm⟩
  | manage =>
    dsimp only
    rw [mapClock_eq_step]
    exact ⟨[.time { c.clock with now := instant }, .manage, .time _], by simp, rfl⟩
  | color =>
    dsimp only
    rw [mapClock_eq_step, syncColorTimer_eq_step]
    exact ⟨[.time { c.clock with now := instant }, .color, .time _, .time _], by simp, rfl⟩

/-- Running up to an instant is a sequence of jobs and changes of the deadlines. -/
theorem runUntil_eq_steps (c : Controller α) (target : UInt64) :
    ∃ jobs : List (Step α), (∀ step ∈ jobs, step.isJob = true) ∧
      (c.runUntil target).2 = c.steps jobs := by
  fun_induction runUntil c target with
  | case1 c hle after hrun ih =>
    obtain ⟨jobs, hjobs, hsteps⟩ := runJob_eq_steps c c.clock.next.1 c.clock.next.2
    obtain ⟨later, hlater, hrest⟩ := ih
    refine ⟨jobs ++ later, ?_, ?_⟩
    · intro step hstep
      rcases List.mem_append.mp hstep with h | h
      · exact hjobs step h
      · exact hlater step h
    · rw [hrun] at hsteps
      rw [hrest, steps_append, ← hsteps]
  | case2 c hle fault after hrun =>
    obtain ⟨jobs, hjobs, hsteps⟩ := runJob_eq_steps c c.clock.next.1 c.clock.next.2
    rw [hrun] at hsteps
    exact ⟨jobs, hjobs, hsteps⟩
  | case3 c hle =>
    dsimp only
    rw [mapClock_eq_step]
    exact ⟨[.time _], by simp, rfl⟩

theorem Reachable.runUntil {c : Controller α} (h : c.Reachable) (target : UInt64) :
    (c.runUntil target).2.Reachable := by
  obtain ⟨jobs, -, hsteps⟩ := runUntil_eq_steps c target
  rw [hsteps]
  exact h.steps jobs

theorem Reachable.runForMs {c : Controller α} (h : c.Reachable) (ms : UInt64) :
    (c.runForMs ms).2.Reachable := by
  unfold Controller.runForMs
  split
  · exact h.runUntil _
  · exact h

end Steps

/-! ## What a step does to a port -/

/-- The sampler's part of a controller. -/
def samplerScene (c : Controller α) : SamplerScene α :=
  { sampler := c.sampler, adc := c.adc, board := c.board, journal := c.journal }

/-- A burst changes the socket of a port only. -/
theorem portState_sampleTick [Converter α ε] (c : Controller α) (port : Port) :
    c.sampleTick.2.portState port =
      { c.portState port with socket := c.samplerScene.burst.2.board.inputs.get port } := rfl

/-- A burst does nothing to the lines of a port but its clock actions. -/
theorem lines_sampleTick [Converter α ε] (c : Controller α) (port : Port) :
    (c.sampleTick.2.portState port).lines =
      (c.samplerScene.clockActions port).foldl (fun lines action => action.onLines lines)
        (c.portState port).lines :=
  SamplerScene.lines_burst c.samplerScene port

/-- A burst leaves the lines of a port alone that the sampler does not clock. -/
theorem lines_sampleTick_of_not_clocks [Converter α ε] {c : Controller α} {port : Port}
    (h : SamplerScene.clocks (c.portState port).handshake = false) :
    (c.sampleTick.2.portState port).lines = (c.portState port).lines := by
  rw [lines_sampleTick, SamplerScene.clockActions_of_not_clocks c.samplerScene h]
  rfl

/-- A burst leaves the handshake of a port as it is, or ends the cycle and brings it up to date. -/
theorem handshake_sampleTick [Converter α ε] (c : Controller α) (port : Port) :
    (c.sampleTick.2.portState port).handshake = (c.portState port).handshake ∨
      (c.sampleTick.2.portState port).handshake =
        { (c.portState port).handshake with
          clocking := (c.portState port).handshake.active
          latched :=
            if port = c.samplerScene.prepare.sampler.colorPort then
              (c.portState port).handshake.command
            else (c.portState port).handshake.latched } :=
  SamplerScene.handshake_burst c.samplerScene port

/-- A period of the bit timer leaves the manager alone. -/
theorem manager_colorTick (c : Controller α) : c.colorTick.manager = c.manager := by
  unfold colorTick
  split <;> rfl

/-- In a fresh controller every watch is new and no session is in use. -/
theorem portState_new [Converter α ε] {adc : α} {board : Board} {config : Config}
    {c : Controller α} (h : Controller.new adc board config = .ok c) (port : Port) :
    (c.portState port).watch = {} ∧
      ∀ session ∈ (c.portState port).session, session.inUse = false := by
  unfold Controller.new at h
  dsimp only at h
  split at h
  · cases h
  · cases h
    refine ⟨PerPort.get_const _ port, ?_⟩
    intro session hmem
    dsimp only [portState] at hmem
    split at hmem
    · cases hmem
      exact congrArg Session.inUse (PerPort.get_const ({} : Session) port)
    · cases hmem

theorem portState_modifyInputLines_self (c : Controller α) (port : Port)
    (f : InputLines → InputLines) :
    (c.modifyInputLines port f).portState port =
      { c.portState port with
        socket := { (c.portState port).socket with lines := f (c.portState port).lines } } := by
  simp only [portState, modifyInputLines, Board.modifyInputLines, PerPort.get_modify_self]
  rfl

theorem portState_modifyInputLines_ne (c : Controller α) {port other : Port}
    (f : InputLines → InputLines) (hne : other ≠ port) :
    (c.modifyInputLines port f).portState other = c.portState other := by
  simp only [portState, modifyInputLines, Board.modifyInputLines, PerPort.get_modify_ne _ _ hne]

/-- Whatever is done to the lines of some port, the rest of all ports stays. -/
theorem portState_modifyInputLines (c : Controller α) (port other : Port)
    (f : InputLines → InputLines) :
    ∃ lines, (c.modifyInputLines port f).portState other =
      { c.portState other with
        socket := { (c.portState other).socket with lines := lines } } := by
  by_cases h : other = port
  · subst h
    exact ⟨_, portState_modifyInputLines_self c other f⟩
  · exact ⟨(c.portState other).lines, portState_modifyInputLines_ne c f h⟩

theorem portState_setEnabled_self (c : Controller α) (port : Port) (on : Bool) :
    (c.setEnabled port on).portState port =
      { c.portState port with watch := (c.portState port).watch.setEnabled on } := by
  simp only [portState, setEnabled, Manager.setEnabled, PerPort.get_modify_self]

theorem portState_setEnabled_ne (c : Controller α) {port other : Port} (on : Bool)
    (hne : other ≠ port) : (c.setEnabled port on).portState other = c.portState other := by
  simp only [portState, setEnabled, Manager.setEnabled, PerPort.get_modify_ne _ _ hne]

theorem portState_setEnabled (c : Controller α) (port other : Port) (on : Bool) :
    ∃ enabled, (c.setEnabled port on).portState other =
      { c.portState other with watch := (c.portState other).watch.setEnabled enabled } := by
  by_cases h : other = port
  · subst h
    exact ⟨on, portState_setEnabled_self c other on⟩
  · exact ⟨(c.portState other).watch.enabled, portState_setEnabled_ne c on h⟩

/-- Forcing a classification changes nothing but the sockets of input ports. -/
theorem force_frame (c : Controller α) (port : Port) (classification : Classification) :
    ∃ inputs, (c.force port classification).2 =
      { c with board := { c.board with inputs := inputs } } := by
  unfold force Manager.force?
  by_cases hmay : c.manager.mayForce port = true
  · rw [if_pos hmay]
    exact ⟨_, rfl⟩
  · rw [if_neg hmay]
    exact ⟨c.board.inputs, rfl⟩

/-- A classification is forced on the port that is asked, if that one is connected with its detection
off. -/
theorem portState_force_eq (c : Controller α) (port other : Port)
    (classification : Classification) :
    (c.force port classification).2.portState other =
      if other = port ∧ c.manager.mayForce port = true then
        { c.portState other with
          socket := { (c.portState other).socket with verdict := classification } }
      else c.portState other := by
  unfold force Manager.force?
  by_cases hmay : c.manager.mayForce port = true
  · rw [if_pos hmay]
    by_cases h : other = port
    · subst h
      rw [if_pos ⟨rfl, hmay⟩]
      simp only [portState, PerPort.get_modify_self]
    · rw [if_neg fun hboth => h hboth.1]
      simp only [portState, PerPort.get_modify_ne _ _ h]
  · rw [if_neg hmay, if_neg fun hboth => hmay hboth.2]

theorem portState_force (c : Controller α) (port other : Port) (classification : Classification) :
    ∃ verdict, (c.force port classification).2.portState other =
      { c.portState other with
        socket := { (c.portState other).socket with verdict := verdict } } := by
  rw [portState_force_eq]
  split
  · exact ⟨classification, rfl⟩
  · exact ⟨(c.portState other).socket.verdict, rfl⟩

/-- Asking for a colour command changes nothing but the watches of input ports. -/
theorem requestCommand_frame (c : Controller α) (port : Port) (command : UInt8) :
    ∃ inputs, (c.requestCommand port command).2 =
      { c with manager := { c.manager with inputs := inputs } } := by
  unfold requestCommand Manager.requestCommand?
  by_cases hconnected : (c.manager.inputs.get port).connected = true
  · rw [if_pos hconnected]
    exact ⟨_, rfl⟩
  · rw [if_neg hconnected]
    exact ⟨c.manager.inputs, rfl⟩

/-- A colour command is taken by the port that is asked, if that one is connected. -/
theorem portState_requestCommand (c : Controller α) (port other : Port) (command : UInt8) :
    (c.requestCommand port command).2.portState other =
      if other = port ∧ (c.portState port).watch.connected = true then
        { c.portState other with watch := (c.portState other).watch.requestCommand command }
      else c.portState other := by
  unfold requestCommand Manager.requestCommand?
  by_cases hconnected : (c.manager.inputs.get port).connected = true
  · rw [if_pos hconnected]
    by_cases h : other = port
    · subst h
      rw [if_pos ⟨rfl, hconnected⟩]
      simp only [portState, PerPort.get_modify_self]
    · rw [if_neg fun hboth => h hboth.1]
      simp only [portState, PerPort.get_modify_ne _ _ h]
  · rw [if_neg hconnected, if_neg fun hboth => hconnected hboth.2]

/-- Switching test mode starts every watch over; entering it releases every port as well. -/
theorem portState_setTestMode (c : Controller α) (on : Bool) (port : Port) :
    (c.setTestMode on).portState port =
      { c.portState port with
        watch := (c.portState port).watch.reset
        socket :=
          if on then
            { (c.portState port).socket with
              lines := (c.portState port).lines.release, verdict := .none }
          else (c.portState port).socket } := by
  cases on <;> cases port <;> rfl

section Requests

variable [Converter α ε]

/-- What is no job leaves the handshake and the session of every port alone, and the stage too, but
for a colour command, which leads to the preparation of a session, and for test mode, which starts
the watch over. -/
theorem shared_step (c : Controller α) {step : Step α} (hjob : step.isJob = false)
    (port : Port) :
    ((c.step step).portState port).handshake = (c.portState port).handshake ∧
      ((c.step step).portState port).session = (c.portState port).session ∧
      (((c.step step).portState port).stage = (c.portState port).stage ∨
        ((c.step step).portState port).stage = .nxtColorInit ∨
        ((c.step step).portState port).stage = .init) := by
  cases step with
  | sample => cases hjob
  | manage => cases hjob
  | color => cases hjob
  | time clock => cases hjob
  | note notice => exact ⟨rfl, rfl, .inl rfl⟩
  | enable other on =>
    obtain ⟨enabled, h⟩ := portState_setEnabled c other port on
    rw [Controller.step, h]
    exact ⟨rfl, rfl, .inl rfl⟩
  | force other classification =>
    obtain ⟨verdict, h⟩ := portState_force c other port classification
    rw [Controller.step, h]
    exact ⟨rfl, rfl, .inl rfl⟩
  | request other command =>
    rw [Controller.step, portState_requestCommand]
    split
    · exact ⟨rfl, rfl, .inr (.inl rfl)⟩
    · exact ⟨rfl, rfl, .inl rfl⟩
  | testMode on =>
    rw [Controller.step, portState_setTestMode]
    cases on <;> exact ⟨rfl, rfl, .inr (.inr rfl)⟩
  | release other =>
    obtain ⟨lines, h⟩ := portState_modifyInputLines c other port .release
    rw [Controller.step, h]
    exact ⟨rfl, rfl, .inl rfl⟩
  | drive other role drive =>
    obtain ⟨lines, h⟩ := portState_modifyInputLines c other port fun lines =>
      lines.driveTo role drive
    rw [Controller.step, h]
    exact ⟨rfl, rfl, .inl rfl⟩
  | plug other level sensor =>
    obtain ⟨lines, h⟩ := portState_modifyInputLines c other port fun lines =>
      { lines with level := level, sensor := sensor }
    rw [Controller.step, h]
    exact ⟨rfl, rfl, .inl rfl⟩
  | driveOutput other role drive => exact ⟨rfl, rfl, .inl rfl⟩
  | plugOutput other level => exact ⟨rfl, rfl, .inl rfl⟩
  | convert adc => exact ⟨rfl, rfl, .inl rfl⟩

/-- What is no job leaves the sampler alone. -/
theorem sampler_request (c : Controller α) {step : Step α} (hjob : step.isJob = false) :
    (c.step step).sampler = c.sampler := by
  cases step with
  | sample => cases hjob
  | manage => cases hjob
  | color => cases hjob
  | time clock => cases hjob
  | force port classification =>
    obtain ⟨inputs, h⟩ := force_frame c port classification
    rw [Controller.step, h]
  | request port command =>
    obtain ⟨inputs, h⟩ := requestCommand_frame c port command
    rw [Controller.step, h]
  | testMode on => cases on <;> rfl
  | _ => rfl

/-- What is no job leaves the drives of a port alone, releases the port, or drives one of its pins, and
then it is a step that says so. -/
theorem lines_request (c : Controller α) {step : Step α} (hjob : step.isJob = false) (port : Port) :
    (∃ level sensor, ((c.step step).portState port).lines =
        { (c.portState port).lines with level := level, sensor := sensor }) ∨
      ((step = .release port ∨ step = .testMode true) ∧
        ((c.step step).portState port).lines = (c.portState port).lines.release) ∨
      ∃ role drive, step = .drive port role drive ∧
        ((c.step step).portState port).lines = (c.portState port).lines.driveTo role drive := by
  cases step with
  | sample => cases hjob
  | manage => cases hjob
  | color => cases hjob
  | time clock => cases hjob
  | note notice => exact .inl ⟨_, _, rfl⟩
  | enable other on =>
    obtain ⟨enabled, h⟩ := portState_setEnabled c other port on
    rw [Controller.step, h]
    exact .inl ⟨_, _, rfl⟩
  | force other classification =>
    obtain ⟨verdict, h⟩ := portState_force c other port classification
    rw [Controller.step, h]
    exact .inl ⟨_, _, rfl⟩
  | request other command =>
    rw [Controller.step, portState_requestCommand]
    split <;> exact .inl ⟨_, _, rfl⟩
  | testMode on =>
    rw [Controller.step, portState_setTestMode]
    cases on with
    | true => exact .inr (.inl ⟨.inr rfl, rfl⟩)
    | false => exact .inl ⟨_, _, rfl⟩
  | release other =>
    rw [Controller.step]
    by_cases h : port = other
    · subst h
      rw [portState_modifyInputLines_self]
      exact .inr (.inl ⟨.inl rfl, rfl⟩)
    · rw [portState_modifyInputLines_ne _ _ h]
      exact .inl ⟨_, _, rfl⟩
  | drive other role drive =>
    rw [Controller.step]
    by_cases h : port = other
    · subst h
      rw [portState_modifyInputLines_self]
      exact .inr (.inr ⟨role, drive, rfl, rfl⟩)
    · rw [portState_modifyInputLines_ne _ _ h]
      exact .inl ⟨_, _, rfl⟩
  | plug other level sensor =>
    rw [Controller.step]
    by_cases h : port = other
    · subst h
      rw [portState_modifyInputLines_self]
      exact .inl ⟨_, _, rfl⟩
    · rw [portState_modifyInputLines_ne _ _ h]
      exact .inl ⟨_, _, rfl⟩
  | driveOutput other role drive => exact .inl ⟨_, _, rfl⟩
  | plugOutput other level => exact .inl ⟨_, _, rfl⟩
  | convert adc => exact .inl ⟨_, _, rfl⟩

/-- What is no job drives no pin of a port unless user space asks for it; it may release them. -/
theorem drive_step (c : Controller α) {step : Step α} (hjob : step.isJob = false) {port : Port}
    (hdrive : ∀ role drive, step ≠ .drive port role drive) :
    ((c.step step).portState port).lines.drive = (c.portState port).lines.drive ∨
      ((c.step step).portState port).lines = (c.portState port).lines.release := by
  rcases c.lines_request hjob port with ⟨level, sensor, hlines⟩ | ⟨-, hlines⟩ |
    ⟨role, drive, hstep, -⟩
  · rw [hlines]
    exact .inl rfl
  · exact .inr hlines
  · exact absurd hstep (hdrive role drive)

end Requests

end Controller

end PlugWatch
