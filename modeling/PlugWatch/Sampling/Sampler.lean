import PlugWatch.Board
import PlugWatch.Hardware.Converter
import PlugWatch.Notice
import PlugWatch.Sampling.Schedule
/-!
# The sampler

The sampler works through its schedule in bursts and stores each reply where the table says. A
failed exchange ends a burst early; the next burst goes on at the entry that failed.

## Main Definitions

* `Sampler` : the position in the schedule and the three turns.
* `SamplerScene` : the sampler together with all it may change.
* `SamplerScene.init` : configures the converter.
* `SamplerScene.burst` : one burst, which answers the pause that follows it.
* `SamplerScene.completeCycle` : what happens behind the last entry.

## Design Notes

A burst is a recursion on the entries that are left of the table, so it ends with the table at the
latest. Every function returns the scene it really leaves, also when an exchange fails.
-/

namespace PlugWatch

/-- The sampler. -/
structure Sampler where
  config : SamplerConfig
  schedule : Schedule := .normal
  /-- Number of entries of the cycle that are done. -/
  pointer : Nat := 0
  /-- The slow slot whose turn it is. -/
  slowSlot : Slot := .slowBase
  /-- The port served in this cycle. -/
  colorPort : Port := .p1
  deriving DecidableEq, Repr

namespace Sampler

/-- The pauses of the running schedule. -/
def periods (sampler : Sampler) : Periods := sampler.schedule.periods sampler.config

/-- The pause before the first burst, in microseconds. -/
def firstPeriod (sampler : Sampler) : UInt32 := (Schedule.normal.periods sampler.config).short

/-- The slot an entry asks for. -/
def requestSlot (sampler : Sampler) : Request → Slot
  | .slot slot => slot
  | .slow => sampler.slowSlot
  | .colorPort => .inPin6 sampler.colorPort

/-- The word of an entry. -/
def requestWord (sampler : Sampler) (entry : Entry) : UInt16 :=
  (sampler.requestSlot entry.request).request

/-- The entries that are left of the cycle. -/
def remaining (sampler : Sampler) : List Entry := sampler.schedule.entries.drop sampler.pointer

end Sampler

/-- The sampler together with all it may change. -/
structure SamplerScene (α : Type) where
  sampler : Sampler
  adc : α
  board : Board
  journal : Journal

namespace SamplerScene

variable {α ε : Type}

/-- Exchanges a word, masking the reply down to the sample. -/
def exchange [Converter α ε] (scene : SamplerScene α) (word : UInt16) :
    Except ε UInt16 × SamplerScene α :=
  match Converter.exchange scene.adc word with
  | (.ok reply, adc) => (.ok (reply &&& sampleMask), { scene with adc := adc })
  | (.error fault, adc) => (.error fault, { scene with adc := adc })

/-- Sends the setup word a number of times. -/
def sendSetup [Converter α ε] : Nat → SamplerScene α → Except ε Unit × SamplerScene α
  | 0, scene => (.ok (), scene)
  | n + 1, scene =>
    match scene.exchange setupWord with
    | (.ok _, scene) => sendSetup n scene
    | (.error fault, scene) => (.error fault, scene)

/-- Configures the converter. -/
def init [Converter α ε] (scene : SamplerScene α) : Except ε Unit × SamplerScene α :=
  match scene.sendSetup setupCount with
  | (.ok (), scene) =>
    (.ok (), { scene with journal := scene.journal.push .converterConfigured })
  | (.error fault, scene) => (.error fault, scene)

/-- Begins a cycle: the next port is served, and the cycle is counted. -/
def beginCycle (scene : SamplerScene α) : SamplerScene α :=
  { scene with
    sampler := { scene.sampler with colorPort := scene.sampler.colorPort.next }
    board := { scene.board with cycles := scene.board.cycles + 1 } }

/-- Stores a count where the reply of an entry goes. -/
def store (scene : SamplerScene α) (reply : Reply) (counts : UInt16) : SamplerScene α :=
  match reply with
  | .discard => scene
  | .slot slot =>
    { scene with
      board := { scene.board with samples := scene.board.samples.set slot counts } }
  | .slow =>
    let slot := scene.sampler.slowSlot
    { scene with
      board := { scene.board with samples := scene.board.samples.set slot counts }
      sampler := { scene.sampler with slowSlot := slot.nextSlow } }
  | .colorRaw color =>
    { scene with
      board := { scene.board with
        inputs := scene.board.inputs.modify scene.sampler.colorPort fun socket =>
          { socket with
            color := { socket.color with adRaw := setRaw socket.color.adRaw color counts } } } }

/-- The command by which a legacy colour sensor wants its clock line driven. -/
def clockedCommand : UInt8 := 0x0D

/-- Whether the sampler clocks a port. -/
def clocks (handshake : ColorHandshake) : Bool :=
  handshake.latched = clockedCommand && handshake.clocking

/-- Clocks pin 5 of the port served, if that port wants it. -/
def clock (scene : SamplerScene α) (action : ClockAction) : SamplerScene α :=
  let port := scene.sampler.colorPort
  if clocks (scene.board.inputs.get port).handshake then
    match action.drive? with
    | some drive =>
      { scene with
        board := scene.board.modifyInputLines port fun lines => lines.driveTo .pin5 drive }
    | none => scene
  else scene

/-- What an entry does once its exchange has worked. -/
def apply (scene : SamplerScene α) (entry : Entry) (counts : UInt16) : SamplerScene α :=
  let scene := (scene.store entry.reply counts).clock entry.clock
  { scene with sampler := { scene.sampler with pointer := scene.sampler.pointer + 1 } }

/-- Works through entries up to the first pause or fault; the end of the table counts as a short
pause. -/
def walk [Converter α ε] (periods : Periods) :
    List Entry → SamplerScene α → Except ε UInt32 × SamplerScene α
  | [], scene => (.ok periods.short, scene)
  | entry :: rest, scene =>
    match scene.exchange (scene.sampler.requestWord entry) with
    | (.error fault, scene) => (.error fault, scene)
    | (.ok counts, scene) =>
      let scene := scene.apply entry counts
      match entry.pause with
      | .none => walk periods rest scene
      | .short => (.ok periods.short, scene)
      | .long => (.ok periods.long, scene)

/-- What the end of a cycle means for a port: a port that is not in colour mode logs its latest
readings, clocking follows colour mode, and the port is marked as updated. -/
def completePort (samples : Samples) (port : Port) (socket : InputSocket) : InputSocket :=
  let log :=
    if socket.handshake.active then socket.log
    else socket.log.push (samples.inPin1 port, samples.inPin6 port)
  { socket with
    log := log
    handshake := { socket.handshake with clocking := socket.handshake.active }
    updated := true }

/-- Takes over the command that a port asks for. -/
def latch (socket : InputSocket) : InputSocket :=
  { socket with handshake := { socket.handshake with latched := socket.handshake.command } }

/-- Ends a cycle: every port is brought up to date, the command of the port served is taken over,
and the schedule of the next cycle is chosen. -/
def completeCycle (scene : SamplerScene α) : SamplerScene α :=
  let inputs := Port.all.foldl
    (fun inputs port => inputs.modify port (completePort scene.board.samples port))
    scene.board.inputs
  let board := { scene.board with inputs := inputs.modify scene.sampler.colorPort latch }
  let next : Schedule := if board.anyActive then .color else .normal
  if next = scene.sampler.schedule then { scene with board := board }
  else
    { scene with
      board := board
      sampler := { scene.sampler with schedule := next }
      journal := scene.journal.push (.scheduleSwitched next) }

/-- Goes back to the first entry behind the last one. -/
def finish (scene : SamplerScene α) : SamplerScene α :=
  if scene.sampler.schedule.entries.length ≤ scene.sampler.pointer then
    completeCycle { scene with sampler := { scene.sampler with pointer := 0 } }
  else scene

/-- The scene in which a burst starts: at the first entry of the table a cycle begins. -/
def prepare (scene : SamplerScene α) : SamplerScene α :=
  if scene.sampler.pointer = 0 then scene.beginCycle else scene

/-- One burst: works through the entries up to the next pause and answers its length. -/
def burst [Converter α ε] (scene : SamplerScene α) : Except ε UInt32 × SamplerScene α :=
  let scene := scene.prepare
  match walk scene.sampler.periods scene.sampler.remaining scene with
  | (.ok period, scene) => (.ok period, scene.finish)
  | (.error fault, scene) => (.error fault, scene)

/-- A walk that works ends with one of the two pauses. -/
theorem walk_period [Converter α ε] {periods : Periods} {entries : List Entry}
    {scene left : SamplerScene α} {period : UInt32}
    (h : walk periods entries scene = (.ok period, left)) :
    period = periods.short ∨ period = periods.long := by
  induction entries generalizing scene with
  | nil => simp only [walk, Prod.mk.injEq, Except.ok.injEq] at h; exact Or.inl h.1.symm
  | cons entry rest ih =>
    simp only [walk] at h
    split at h
    · simp at h
    · split at h
      · exact ih h
      · simp only [Prod.mk.injEq, Except.ok.injEq] at h; exact Or.inl h.1.symm
      · simp only [Prod.mk.injEq, Except.ok.injEq] at h; exact Or.inr h.1.symm

theorem periods_short_pos (sampler : Sampler) : 0 < sampler.periods.short.toNat := by
  unfold Sampler.periods Schedule.periods
  split <;> exact Periods.short_pos _

theorem periods_long_pos (sampler : Sampler) : 0 < sampler.periods.long.toNat := by
  unfold Sampler.periods Schedule.periods
  split <;> exact Periods.long_pos _

/-- The pause behind a burst is never empty. -/
theorem burst_period_pos [Converter α ε] {scene left : SamplerScene α} {period : UInt32}
    (h : scene.burst = (.ok period, left)) : 0 < period.toNat := by
  unfold burst at h
  dsimp only at h
  split at h
  · rename_i walked hw
    simp only [Prod.mk.injEq, Except.ok.injEq] at h
    rw [← h.1]
    rcases walk_period hw with hp | hp <;> rw [hp]
    · exact periods_short_pos _
    · exact periods_long_pos _
  · simp at h

end SamplerScene

end PlugWatch
