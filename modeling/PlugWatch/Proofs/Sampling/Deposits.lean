import PlugWatch.Proofs.Sampling.Burst
/-!
# What bursts write

A delivery writes at most one reading: a count in a sample slot, or a raw conversion of the port
served. The readings on the board change in no other way.

## Main Definitions

* `Deposit` : what a delivery writes, and where.
* `Readings` : the samples and the raw conversions of every port.

## Main Statements

* `SamplerScene.readings_burst` : a burst writes the deposits of its deliveries, in their order.
-/

namespace PlugWatch

/-! ## Deposits -/

/-- What a delivery writes, and where: a count in a sample slot, or a raw conversion of a port. -/
inductive Deposit where
  | sample (slot : Slot) (counts : UInt16)
  | raw (port : Port) (color : Fin 4) (counts : UInt16)
  deriving DecidableEq, Repr

/-- The readings that deliveries write. -/
structure Readings where
  samples : Samples
  adRaw : PerPort (Vector UInt16 4)
  deriving DecidableEq, Repr

namespace Deposit

/-- The slot whose channel a deposit stands for; a raw conversion stands for pin 6 of its port. -/
def slot : Deposit → Slot
  | sample slot _ => slot
  | raw port _ _ => .inPin6 port

/-- The count that is written. -/
def counts : Deposit → UInt16
  | sample _ counts => counts
  | raw _ _ counts => counts

/-- Writes a deposit. -/
def put (readings : Readings) : Deposit → Readings
  | sample slot counts => { readings with samples := readings.samples.set slot counts }
  | raw port color counts =>
    { readings with adRaw := readings.adRaw.modify port fun adRaw => setRaw adRaw color counts }

end Deposit

/-- The readings on a board. -/
def Board.readings (board : Board) : Readings :=
  ⟨board.samples, board.inputs.map fun socket => socket.color.adRaw⟩

namespace Delivery

variable {α : Type}

/-- The deposit of a delivery, if its reply is kept. -/
def deposit? (delivery : Delivery α) : Option Deposit :=
  match delivery.entry.reply with
  | .discard => none
  | .slot slot => some (.sample slot delivery.counts)
  | .slow => some (.sample delivery.scene.sampler.slowSlot delivery.counts)
  | .colorRaw color => some (.raw delivery.scene.sampler.colorPort color delivery.counts)

end Delivery

namespace SamplerScene

variable {α ε : Type}

theorem readings_clock (scene : SamplerScene α) (action : ClockAction) :
    (scene.clock action).board.readings = scene.board.readings := by
  have hinputs : ((scene.clock action).board.inputs.map fun socket => socket.color.adRaw)
      = scene.board.inputs.map fun socket => socket.color.adRaw := by
    refine PerPort.ext_get fun port => ?_
    rw [PerPort.get_map, PerPort.get_map, inputs_clock]
    split <;> rfl
  rw [Board.readings, Board.readings, samples_clock, hinputs]

/-- An entry writes the deposit of its delivery and no other reading. -/
theorem readings_apply (scene : SamplerScene α) (entry : Entry) (counts : UInt16) :
    (scene.apply entry counts).board.readings =
      (Delivery.deposit? ⟨entry, counts, scene⟩).toList.foldl Deposit.put
        scene.board.readings := by
  show ((scene.store entry.reply counts).clock entry.clock).board.readings = _
  rw [readings_clock]
  unfold Delivery.deposit? store
  cases entry.reply with
  | discard => rfl
  | slot slot => rfl
  | slow => rfl
  | colorRaw color =>
    dsimp only [Option.toList_some, List.foldl_cons, List.foldl_nil, Deposit.put, Board.readings]
    congr 1
    refine PerPort.ext_get fun port => ?_
    by_cases hp : port = scene.sampler.colorPort
    · subst hp
      simp
    · simp [PerPort.get_modify_ne _ _ hp]

/-- A walk writes the deposits of its deliveries and no other reading. -/
theorem readings_walk [Converter α ε] (periods : Periods) (entries : List Entry) :
    ∀ scene : SamplerScene α, (walk periods entries scene).2.board.readings =
      ((deliveries entries scene).filterMap Delivery.deposit?).foldl Deposit.put
        scene.board.readings := by
  induction entries with
  | nil => intro scene; rfl
  | cons entry rest ih =>
    intro scene
    have hb := board_exchange scene (scene.sampler.requestWord entry)
    rcases heq : scene.exchange (scene.sampler.requestWord entry) with ⟨fault | counts, after⟩
    · rw [walk_cons_error rest heq, deliveries_cons_error rest heq]
      rw [heq] at hb
      exact congrArg Board.readings hb
    · rw [heq] at hb
      dsimp only at hb
      -- the deposit of this entry comes in front of those of the rest
      have hput := readings_apply after entry counts
      rw [hb] at hput
      have hcons : ∀ later : List (Delivery α),
          ((⟨entry, counts, after⟩ :: later).filterMap Delivery.deposit?).foldl Deposit.put
              scene.board.readings =
            (later.filterMap Delivery.deposit?).foldl Deposit.put
              (after.apply entry counts).board.readings := by
        intro later
        rw [hput, List.filterMap_cons]
        cases Delivery.deposit? ⟨entry, counts, after⟩ <;> rfl
      by_cases hp : entry.pause = .none
      · rw [walk_cons_go rest heq hp, deliveries_cons_go rest heq hp, ih, hcons]
      · rw [walk_cons_stop rest heq hp, deliveries_cons_stop rest heq hp, hcons]
        rfl

theorem samples_completeCycle (scene : SamplerScene α) :
    scene.completeCycle.board.samples = scene.board.samples := by
  unfold completeCycle
  dsimp only
  split <;> split <;> rfl

theorem readings_completeCycle (scene : SamplerScene α) :
    scene.completeCycle.board.readings = scene.board.readings := by
  have hinputs : (scene.completeCycle.board.inputs.map fun socket => socket.color.adRaw)
      = scene.board.inputs.map fun socket => socket.color.adRaw := by
    refine PerPort.ext_get fun port => ?_
    rw [PerPort.get_map, PerPort.get_map, get_completeCycle]
    split <;> rfl
  rw [Board.readings, Board.readings, samples_completeCycle, hinputs]

theorem readings_finish (scene : SamplerScene α) :
    scene.finish.board.readings = scene.board.readings := by
  unfold finish
  split
  · rw [readings_completeCycle]
  · rfl

theorem readings_prepare (scene : SamplerScene α) :
    scene.prepare.board.readings = scene.board.readings := by
  unfold prepare
  split <;> rfl

/-- A burst writes the deposits of its deliveries and no other reading. -/
theorem readings_burst [Converter α ε] (scene : SamplerScene α) :
    scene.burst.2.board.readings =
      (scene.burstDeliveries.filterMap Delivery.deposit?).foldl Deposit.put
        scene.board.readings := by
  have hwalk : scene.burstWalk.2.board.readings =
      (scene.burstDeliveries.filterMap Delivery.deposit?).foldl Deposit.put
        scene.prepare.board.readings :=
    readings_walk _ _ scene.prepare
  rw [readings_prepare] at hwalk
  rcases burst_snd scene with h | h
  · rw [h, hwalk]
  · rw [h, readings_finish, hwalk]

end SamplerScene

end PlugWatch
