import PlugWatch.Clock
import PlugWatch.Color.Link
import PlugWatch.Detection.Manager
import PlugWatch.Sampling.Sampler
/-!
# The controller

The controller owns the hardware and runs three periodic jobs over it.

| Job | Period |
|-----|--------|
| sampler burst | chosen by the schedule, burst by burst |
| connection manager tick | the tick length |
| bit timer of the colour link | the timer period, only while a session runs |

## Main Definitions

* `Controller` : the hardware, the parts and the deadlines of the jobs.
* `Stop` : why a run does not get to its end.
* `Controller.new` : configures the converter and starts with every port unclassified.
* `Controller.sampleTick`, `Controller.managerTick`, `Controller.colorTick` : one job each.
* `Controller.runJob` : runs a job at the instant it is due.
* `Controller.runUntil` : runs every job due up to an instant, earliest first.
* `Controller.setTestMode` and its neighbours : what user space may ask for.

## Design Notes

A job answers two things: the controller that it leaves, with sums of words that go round their end, and
whether all sums have stayed within their words. A run does not go on behind one that has not.

Running up to an instant ends because of two facts: the earliest deadline never goes back, and at
one instant every job runs at most once. The pair of the time that is left and the number of jobs
pending at the earliest instant gets smaller with every job. Both rest on deadlines that do not go round
the end of their word.
-/

namespace PlugWatch

/-! ## The controller and its jobs -/

/-- Why a run does not get to its end. -/
inductive Stop (ε : Type) where
  /-- The converter failed. -/
  | fault (fault : ε)
  /-- A word was too short. -/
  | overflow (word : Overflow)
  deriving DecidableEq, Repr

/-- Goes on unless a word was too short. -/
def Stop.check {ε : Type} : Option Overflow → Except (Stop ε) Unit
  | none => .ok ()
  | some word => .error (.overflow word)

theorem Stop.check_eq_ok_iff {ε : Type} {overflow? : Option Overflow} :
    (check overflow? : Except (Stop ε) Unit) = .ok () ↔ overflow? = none := by
  cases overflow? with
  | none => exact iff_of_true rfl rfl
  | some word => exact iff_of_false nofun nofun

theorem Stop.check_ne_fault {ε : Type} (overflow? : Option Overflow) (fault : ε) :
    check overflow? ≠ .error (.fault fault) := by
  intro h
  cases overflow? <;> cases h

/-- The word that was too short, if that is what stopped a run. -/
def Stop.overflow? {ε : Type} : Except (Stop ε) Unit → Option Overflow
  | .error (.overflow word) => some word
  | _ => none

theorem Stop.overflow?_check {ε : Type} (overflow : Option Overflow) :
    overflow? (check overflow : Except (Stop ε) Unit) = overflow := by
  cases overflow <;> rfl

theorem Stop.overflow?_eq_some_iff {ε : Type} {result : Except (Stop ε) Unit} {word : Overflow} :
    overflow? result = some word ↔ result = .error (.overflow word) := by
  constructor
  · intro h
    rcases result with (fault | word') | _
    · cases h
    · cases h
      rfl
    · cases h
  · rintro rfl
    rfl

/-- The hardware and everything that runs on it. -/
structure Controller (α : Type) where
  adc : α
  board : Board
  sampler : Sampler
  manager : Manager
  /-- The colour sessions, if the board has the link. -/
  link : Option ColorLink
  linkConfig : LinkConfig
  clock : Clock
  journal : Journal

namespace Controller

variable {α ε : Type}

/-- Configures the converter and sets up all parts with every port unclassified. Answers the fault
when the converter does not take its setup words. -/
def new [Converter α ε] (adc : α) (board : Board) (config : Config) :
    Except ε (Controller α) :=
  let scene : SamplerScene α :=
    { sampler := { config := config.sampler }, adc := adc, board := board, journal := #[] }
  match scene.init with
  | (.error fault, _) => .error fault
  | (.ok (), scene) =>
    let link :=
      if config.detection.legacyColor then some (ColorLink.ofConfig config.link) else none
    .ok {
      adc := scene.adc
      board := scene.board
      sampler := scene.sampler
      manager := { config := config.detection }
      link := link
      linkConfig := config.link
      clock := {
        sampleDue := scene.sampler.firstPeriod.toUInt64
        manageDue := config.detection.tickMicros.toUInt64 }
      journal := scene.journal.push (.moduleReady link.isSome) }

/-- Reports something. -/
def note (c : Controller α) (notice : Notice) : Controller α :=
  { c with journal := c.journal.push notice }

/-- Whether the bit timer has to run. -/
def colorTimerRunning (c : Controller α) : Bool :=
  match c.link with
  | none => false
  | some link => link.isRunning

/-- Brings the bit timer's deadline in line with the sessions. -/
def syncColorTimer (c : Controller α) : Controller α :=
  { c with clock := c.clock.syncColor c.colorTimerRunning c.linkConfig.period }

/-- One sampler burst; answers the pause behind it. -/
def sampleTick [Converter α ε] (c : Controller α) : Except ε UInt32 × Controller α :=
  match c with
  | ⟨adc, board, sampler, manager, link, linkConfig, clock, journal⟩ =>
    match SamplerScene.burst ⟨sampler, adc, board, journal⟩ with
    | (result, ⟨sampler, adc, board, journal⟩) =>
      (result, ⟨adc, board, sampler, manager, link, linkConfig, clock, journal⟩)

/-- One tick of the connection manager. -/
def managerTick (c : Controller α) : Controller α :=
  let (manager, shared) := c.manager.tick ⟨c.board, c.link, c.journal⟩
  { c with
    manager := manager
    board := shared.board
    link := shared.link
    journal := shared.journal }.syncColorTimer

/-- The word that is too short for the coming tick of the connection manager, if there is one: a count of
ticks, or the deadline of the bit timer that the tick arms. -/
def managerOverflow? (c : Controller α) : Option Overflow :=
  if c.manager.overflows ⟨c.board, c.link, c.journal⟩ then some .count
  else c.clock.syncOverflow? c.managerTick.colorTimerRunning c.linkConfig.period

/-- One tick of the connection manager, if all words are long enough for it. -/
def managerTick? (c : Controller α) : Except Overflow (Controller α) :=
  match c.managerOverflow? with
  | none => .ok c.managerTick
  | some word => .error word

/-- One period of the bit timer. -/
def colorTick (c : Controller α) : Controller α :=
  match c.link with
  | none => c
  | some link =>
    let (link, board, notices) := link.tick c.board
    { c with link := some link, board := board, journal := c.journal ++ notices.toArray }

/-! ## Running up to an instant -/

/-- Changes the clock and the deadlines. -/
def mapClock (c : Controller α) (f : Clock → Clock) : Controller α :=
  { c with clock := f c.clock }

/-- Runs a job at an instant and moves its deadline on. A sampler burst that fails keeps its
deadline. -/
def runJob [Converter α ε] (c : Controller α) (instant : UInt64) (job : Job) :
    Except (Stop ε) Unit × Controller α :=
  let c := c.mapClock fun clock => { clock with now := instant }
  match job with
  | .sample =>
    match c.sampleTick with
    | (.ok period, c) =>
      (Stop.check (Clock.overflow? c.clock.sampleDue period),
        c.mapClock fun clock => clock.delaySample period)
    | (.error fault, c) => (.error (.fault fault), c)
  | .manage =>
    let tick := c.manager.config.tickMicros
    (Stop.check (c.managerOverflow?.or (Clock.overflow? c.clock.manageDue tick)),
      c.managerTick.mapClock fun clock => clock.delayManage tick)
  | .color =>
    let period := c.linkConfig.period
    (Stop.check (Clock.overflow? instant period),
      (c.colorTick.mapClock fun clock => clock.rearmColor period).syncColorTimer)

theorem clock_sampleTick [Converter α ε] (c : Controller α) :
    c.sampleTick.2.clock = c.clock := rfl

theorem clock_managerTick (c : Controller α) :
    c.managerTick.clock
      = c.clock.syncColor c.managerTick.colorTimerRunning c.linkConfig.period := rfl

theorem clock_colorTick (c : Controller α) : c.colorTick.clock = c.clock := by
  unfold colorTick
  split <;> rfl

theorem linkConfig_colorTick (c : Controller α) : c.colorTick.linkConfig = c.linkConfig := by
  unfold colorTick
  split <;> rfl

theorem sampleTick_period_pos [Converter α ε] {c left : Controller α} {period : UInt32}
    (h : c.sampleTick = (.ok period, left)) : 0 < period.toNat := by
  have hb := congrArg Prod.fst h
  exact SamplerScene.burst_period_pos (Prod.ext hb rfl)

/-- A tick of the manager with words that are long enough arms the bit timer at an instant, if it arms
it. -/
theorem syncOverflow?_of_managerOverflow? {c : Controller α} (h : c.managerOverflow? = none) :
    c.clock.syncOverflow? c.managerTick.colorTimerRunning c.linkConfig.period = none := by
  unfold managerOverflow? at h
  split at h
  · cases h
  · exact h

/-- The first job, when it works, moves its deadline past the instant it was due. -/
theorem runJob_movesOn [Converter α ε] {c left : Controller α}
    (h : c.runJob c.clock.next.1 c.clock.next.2 = (.ok (), left)) :
    Clock.MovesOn c.clock left.clock c.clock.next.2 := by
  cases hj : c.clock.next.2 with
  | sample =>
    rw [hj] at h
    dsimp only [runJob] at h
    split at h
    · rename_i period after hb
      have hclock := congrArg (fun r => r.2.clock) hb
      simp only [clock_sampleTick] at hclock
      simp only [Prod.mk.injEq, Stop.check_eq_ok_iff] at h
      obtain ⟨hfits, rfl⟩ := h
      rw [← hclock] at hfits
      simp only [mapClock, ← hclock]
      exact Clock.movesOn_sample (sampleTick_period_pos hb) hfits
    · simp at h
  | manage =>
    rw [hj] at h
    simp only [runJob, Prod.mk.injEq, Stop.check_eq_ok_iff, Option.or_eq_none_iff] at h
    obtain ⟨⟨htick, hfits⟩, rfl⟩ := h
    exact Clock.movesOn_manage c.manager.config.tickMicros_pos c.linkConfig.period_pos
      (syncOverflow?_of_managerOverflow? htick) hfits
  | color =>
    rw [hj] at h
    simp only [runJob, Prod.mk.injEq, Stop.check_eq_ok_iff] at h
    obtain ⟨hfits, rfl⟩ := h
    simp only [syncColorTimer, mapClock, clock_colorTick, linkConfig_colorTick]
    exact Clock.movesOn_color c.linkConfig.period_pos _ hfits

/-- Runs every job due up to an instant, earliest first; a fault or a word that is too short stops the
run at the instant of the job. An instant that has passed changes nothing. -/
def runUntil [Converter α ε] (c : Controller α) (target : UInt64) :
    Except (Stop ε) Unit × Controller α :=
  if _hle : c.clock.next.1 ≤ target then
    match _hr : c.runJob c.clock.next.1 c.clock.next.2 with
    | (.ok (), c) => c.runUntil target
    | (.error stop, c) => (.error stop, c)
  else (.ok (), c.mapClock fun clock => { clock with now := max target clock.now })
termination_by (target.toNat + 1 - c.clock.next.1.toNat, c.clock.pendingAt c.clock.next.1)
decreasing_by exact Clock.measure_decreases (runJob_movesOn _hr) _hle

/-- Advances the clock by a number of milliseconds, if there is an instant that far ahead. -/
def runForMs [Converter α ε] (c : Controller α) (ms : UInt64) :
    Except (Stop ε) Unit × Controller α :=
  if c.clock.now.toNat + ms.toNat * 1000 < UInt64.size then c.runUntil (c.clock.now + ms * 1000)
  else (.error (.overflow .deadline), c)

/-! ## What user space may ask for -/

/-- Switches detection of an input port on or off. -/
def setEnabled (c : Controller α) (port : Port) (on : Bool) : Controller α :=
  { c with manager := c.manager.setEnabled port on }

/-- Forces a classification on an input port whose detection is off; answers whether it did. -/
def force (c : Controller α) (port : Port) (classification : Classification) :
    Bool × Controller α :=
  match c.manager.force? port classification c.board with
  | some board => (true, { c with board := board })
  | none => (false, c)

/-- Asks for a colour command on a connected input port; answers whether the port took it. -/
def requestCommand (c : Controller α) (port : Port) (command : UInt8) : Bool × Controller α :=
  match c.manager.requestCommand? port command with
  | some manager => (true, { c with manager := manager })
  | none => (false, c)

/-- Enters or leaves test mode. Entering releases every port and clears its classification. -/
def setTestMode (c : Controller α) (on : Bool) : Controller α :=
  let (manager, notice) := c.manager.setTestMode on
  let c := { c with manager := manager }.note notice
  if on then
    { c with board := { c.board with
      inputs := c.board.inputs.map fun socket =>
        { socket with lines := socket.lines.release, verdict := .none }
      outputs := c.board.outputs.map fun socket =>
        { socket with lines := socket.lines.release, verdict := .none } } }
  else c

/-- Changes the lines of an input port. -/
def modifyInputLines (c : Controller α) (port : Port) (f : InputLines → InputLines) :
    Controller α :=
  { c with board := c.board.modifyInputLines port f }

/-- Changes the lines of an output port. -/
def modifyOutputLines (c : Controller α) (port : Port) (f : OutputLines → OutputLines) :
    Controller α :=
  { c with board := c.board.modifyOutputLines port f }

end Controller

end PlugWatch
