import PlugWatch.Proofs.Sampling.Routing
import PlugWatch.Proofs.Sampling.Stint
/-!
# What a cycle writes

Which slots a cycle writes is a matter of its table and of the slow slot whose turn it is: the table is
walked from its first entry to its last one, a stint at a time, and its replies name the slots. Both
tables name the same ones, so the change from one to the other does not matter.

## Main Definitions

* `storedSlots` : the slots that a list of entries writes, and `turnBehind` : the slow slot whose turn it
  is behind them.
* `SamplerScene.afterBursts`, `SamplerScene.burstsDeliveries` : bursts with changing demands in front of
  them, and their deliveries.
* `SamplerScene.Works` : every burst of a run works.

## Main Statements

* `Schedule.storedSlots_entries` : both tables write the slow slot whose turn it is, and then the slots 0
  to 7, each of them once.
* `SamplerScene.stored_bursts` : what bursts write is what their entries say.
* `SamplerScene.readings_bursts` : bursts write the deposits of their deliveries and no other reading.
* `Deposit.mem_of_foldl_put` : a slot that is written holds the count of a deposit.
-/

namespace PlugWatch

/-! ## Slots of deposits -/

namespace Deposit

/-- The sample slot that a deposit writes; a raw conversion writes none. -/
def sampleSlot? : Deposit → Option Slot
  | sample slot _ => some slot
  | raw _ _ _ => none

/-- Deposits elsewhere leave a slot as it is. -/
theorem get_foldl_put_of_notMem {deposits : List Deposit} {slot : Slot}
    (h : slot ∉ deposits.filterMap sampleSlot?) (readings : Readings) :
    (deposits.foldl put readings).samples.get slot = readings.samples.get slot := by
  induction deposits generalizing readings with
  | nil => rfl
  | cons deposit rest ih =>
    cases deposit with
    | sample other counts =>
      have hnot : slot ≠ other ∧ slot ∉ rest.filterMap sampleSlot? := by
        simpa [List.filterMap_cons, sampleSlot?] using h
      rw [List.foldl_cons, ih hnot.2]
      exact Samples.get_set_ne _ _ hnot.1
    | raw port color counts =>
      have hnot : slot ∉ rest.filterMap sampleSlot? := by
        simpa [List.filterMap_cons, sampleSlot?] using h
      rw [List.foldl_cons, ih hnot]
      rfl

/-- A slot that is written holds the count of a deposit. -/
theorem mem_of_foldl_put {deposits : List Deposit} {slot : Slot}
    (h : slot ∈ deposits.filterMap sampleSlot?) (readings : Readings) :
    .sample slot ((deposits.foldl put readings).samples.get slot) ∈ deposits := by
  induction deposits generalizing readings with
  | nil => cases h
  | cons deposit rest ih =>
    -- the last deposit for the slot counts, so the rest decides first
    by_cases hrest : slot ∈ rest.filterMap sampleSlot?
    · exact List.mem_cons_of_mem _ (ih hrest _)
    · rw [List.foldl_cons, get_foldl_put_of_notMem hrest]
      cases deposit with
      | sample other counts =>
        have hsame : slot = other := by
          simpa [List.filterMap_cons, sampleSlot?, hrest] using h
        subst hsame
        rw [put, Samples.get_set_self]
        exact List.mem_cons_self
      | raw port color counts =>
        exact absurd (by simpa [List.filterMap_cons, sampleSlot?] using h) hrest

end Deposit

/-! ## Slots of entries -/

namespace Entry

/-- The slot that an entry writes, at the turn of a slow slot. -/
def storedSlot? (turn : Slot) (entry : Entry) : Option Slot :=
  match entry.reply with
  | .slot slot => some slot
  | .slow => some turn
  | .discard | .colorRaw _ => none

/-- The slow slot whose turn it is behind an entry. -/
def turnBehind (turn : Slot) (entry : Entry) : Slot :=
  if entry.reply = .slow then turn.nextSlow else turn

end Entry

/-- The slots that entries write, beginning at the turn of a slow slot. -/
def storedSlots (turn : Slot) : List Entry → List Slot
  | [] => []
  | entry :: rest =>
    (entry.storedSlot? turn).toList ++ storedSlots (entry.turnBehind turn) rest

/-- The slow slot whose turn it is behind entries. -/
def turnBehind (turn : Slot) (entries : List Entry) : Slot :=
  entries.foldl Entry.turnBehind turn

theorem storedSlots_append (turn : Slot) (entries later : List Entry) :
    storedSlots turn (entries ++ later) =
      storedSlots turn entries ++ storedSlots (turnBehind turn entries) later := by
  induction entries generalizing turn with
  | nil => rfl
  | cons entry rest ih =>
    rw [List.cons_append, storedSlots, storedSlots, ih, List.append_assoc]
    rfl

theorem turnBehind_append (turn : Slot) (entries later : List Entry) :
    turnBehind turn (entries ++ later) = turnBehind (turnBehind turn entries) later :=
  List.foldl_append

namespace Schedule

/-- Both tables write the slow slot whose turn it is, and then the slots 0 to 7. -/
theorem storedSlots_entries (schedule : Schedule) (turn : Slot) :
    storedSlots turn schedule.entries = [turn, 0, 1, 2, 3, 4, 5, 6, 7] := by
  cases schedule <;> rfl

/-- Both tables pass the turn of the slow slots on once. -/
theorem turnBehind_entries (schedule : Schedule) (turn : Slot) :
    turnBehind turn schedule.entries = turn.nextSlow := by
  cases schedule <;> rfl

/-- Both tables are cut into stints of four entries, but for the last one, which may be shorter. -/
theorem stint_entries (schedule : Schedule) {j : Nat} (h : 4 * j < schedule.entries.length) :
    stint (schedule.entries.drop (4 * j)) = (schedule.entries.drop (4 * j)).take 4 := by
  have hall : ∀ j < 4, 4 * j < schedule.entries.length →
      stint (schedule.entries.drop (4 * j)) = (schedule.entries.drop (4 * j)).take 4 := by
    cases schedule <;> decide
  have hle := schedule.length_entries_le
  exact hall j (by omega) h

end Schedule

namespace Delivery

variable {α : Type}

/-- The sample slot that a delivery writes. -/
def storedSlot? (delivery : Delivery α) : Option Slot := delivery.deposit?.bind Deposit.sampleSlot?

theorem storedSlot?_eq (delivery : Delivery α) :
    delivery.storedSlot? = delivery.entry.storedSlot? delivery.scene.sampler.slowSlot := by
  unfold storedSlot? deposit? Entry.storedSlot?
  cases delivery.entry.reply <;> rfl

end Delivery

namespace SamplerScene

variable {α ε : Type}

/-! ## Walks -/

theorem slowSlot_apply (scene : SamplerScene α) (entry : Entry) (counts : UInt16) :
    (scene.apply entry counts).sampler.slowSlot = entry.turnBehind scene.sampler.slowSlot := by
  unfold apply Entry.turnBehind
  dsimp only
  rw [sampler_clock]
  cases entry.reply <;> rfl

theorem log_apply (scene : SamplerScene α) (entry : Entry) (counts : UInt16) (port : Port) :
    ((scene.apply entry counts).board.inputs.get port).log
      = (scene.board.inputs.get port).log := by
  have hstore : ((scene.store entry.reply counts).board.inputs.get port).log
      = (scene.board.inputs.get port).log := by
    cases entry.reply with
    | discard => rfl
    | slot slot => rfl
    | slow => rfl
    | colorRaw color =>
      unfold store
      by_cases h : port = scene.sampler.colorPort
      · subst h
        simp
      · simp [PerPort.get_modify_ne _ _ h]
  simp only [apply, inputs_clock]
  split <;> exact hstore

variable [Converter α ε]

/-- A walk keeps every log. -/
theorem log_walk (periods : Periods) (entries : List Entry) (scene : SamplerScene α)
    (port : Port) :
    ((walk periods entries scene).2.board.inputs.get port).log
      = (scene.board.inputs.get port).log := by
  refine walk_preserves
    (P := fun left => (left.board.inputs.get port).log = (scene.board.inputs.get port).log)
    ?_ ?_ entries scene rfl
  · intro left word h
    rw [board_exchange]
    exact h
  · intro left entry counts h
    rw [log_apply]
    exact h

/-- What a walk writes is what the entries it gets through say, and so is the turn behind it. -/
theorem stored_walk (periods : Periods) (entries : List Entry) (scene : SamplerScene α) :
    (deliveries entries scene).filterMap Delivery.storedSlot? =
        storedSlots scene.sampler.slowSlot ((deliveries entries scene).map Delivery.entry) ∧
      (walk periods entries scene).2.sampler.slowSlot =
        turnBehind scene.sampler.slowSlot ((deliveries entries scene).map Delivery.entry) := by
  induction entries generalizing scene with
  | nil => exact ⟨rfl, rfl⟩
  | cons entry rest ih =>
    have hs := sampler_exchange scene (scene.sampler.requestWord entry)
    rcases heq : scene.exchange (scene.sampler.requestWord entry) with ⟨fault | counts, after⟩
    · rw [heq] at hs
      rw [walk_cons_error rest heq, deliveries_cons_error rest heq]
      exact ⟨rfl, congrArg Sampler.slowSlot hs⟩
    · rw [heq] at hs
      dsimp only at hs
      -- the delivery of this entry comes in front of the others
      have hcons : ∀ later : List (Delivery α),
          ((⟨entry, counts, after⟩ :: later).filterMap Delivery.storedSlot?) =
            (entry.storedSlot? scene.sampler.slowSlot).toList
              ++ later.filterMap Delivery.storedSlot? := by
        intro later
        rw [List.filterMap_cons, Delivery.storedSlot?_eq]
        dsimp only
        rw [hs]
        cases entry.storedSlot? scene.sampler.slowSlot <;> rfl
      have hturn : (after.apply entry counts).sampler.slowSlot =
          entry.turnBehind scene.sampler.slowSlot := by
        rw [slowSlot_apply, hs]
      by_cases hp : entry.pause = .none
      · obtain ⟨hstored, hbehind⟩ := ih (after.apply entry counts)
        rw [walk_cons_go rest heq hp, deliveries_cons_go rest heq hp, hcons, hstored, hbehind, hturn]
        exact ⟨rfl, rfl⟩
      · rw [walk_cons_stop rest heq hp, deliveries_cons_stop rest heq hp, hcons, hturn]
        exact ⟨rfl, rfl⟩

/-! ## Bursts with demands -/

omit [Converter α ε] in
theorem slowSlot_prepare (scene : SamplerScene α) :
    scene.prepare.sampler.slowSlot = scene.sampler.slowSlot := by
  unfold prepare
  split <;> rfl

omit [Converter α ε] in
theorem slowSlot_finish (scene : SamplerScene α) :
    scene.finish.sampler.slowSlot = scene.sampler.slowSlot := by
  unfold finish
  split
  · rw [(completeCycle_eq _).2.2.1]
  · rfl

omit [Converter α ε] in
theorem colorPort_finish (scene : SamplerScene α) :
    scene.finish.sampler.colorPort = scene.sampler.colorPort := by
  unfold finish completeCycle
  dsimp only
  split
  · split <;> split <;> rfl
  · rfl

omit [Converter α ε] in
/-- The end of a cycle logs one pair for a port, unless it is in colour mode. -/
theorem log_completeCycle (scene : SamplerScene α) (port : Port) :
    (scene.completeCycle.board.inputs.get port).log =
      if (scene.board.inputs.get port).handshake.active then (scene.board.inputs.get port).log
      else (scene.board.inputs.get port).log.push
        (scene.board.samples.inPin1 port, scene.board.samples.inPin6 port) := by
  rw [get_completeCycle]
  split <;> rfl

/-- What a burst writes is what the entries it gets through say, and so is the turn behind it. -/
theorem stored_burst (scene : SamplerScene α) :
    scene.burstDeliveries.filterMap Delivery.storedSlot? =
        storedSlots scene.sampler.slowSlot (scene.burstDeliveries.map Delivery.entry) ∧
      scene.burst.2.sampler.slowSlot =
        turnBehind scene.sampler.slowSlot (scene.burstDeliveries.map Delivery.entry) := by
  obtain ⟨hstored, hwalk⟩ := stored_walk scene.prepare.sampler.periods
    scene.prepare.sampler.remaining scene.prepare
  rw [slowSlot_prepare] at hstored hwalk
  refine ⟨hstored, ?_⟩
  rcases burst_snd scene with h | h
  · rw [h]
    exact hwalk
  · rw [h, slowSlot_finish]
    exact hwalk

omit [Converter α ε] in
/-- The scene, over any converter, once the watches have made their demands. -/
def under (scene : SamplerScene α) (demands : PerPort Demand) : SamplerScene α :=
  { scene with
    board := { scene.board with
      inputs := .ofFn fun port =>
        let socket := scene.board.inputs.get port
        { socket with
          handshake := { socket.handshake with
            active := (demands.get port).active
            command := (demands.get port).command } } } }

omit [Converter α ε] in
theorem get_under (scene : SamplerScene α) (demands : PerPort Demand) (port : Port) :
    (scene.under demands).board.inputs.get port =
      { scene.board.inputs.get port with
        handshake := { (scene.board.inputs.get port).handshake with
          active := (demands.get port).active
          command := (demands.get port).command } } := by
  rw [under, PerPort.get_ofFn]

/-- The scene behind bursts one after the other, with new demands in front of each of them. -/
def afterBursts (scene : SamplerScene α) (run : List (PerPort Demand)) : SamplerScene α :=
  run.foldl (fun scene demands => (scene.under demands).burst.2) scene

/-- The deliveries of these bursts. -/
def burstsDeliveries (scene : SamplerScene α) : List (PerPort Demand) → List (Delivery α)
  | [] => []
  | demands :: rest =>
    (scene.under demands).burstDeliveries
      ++ burstsDeliveries (scene.under demands).burst.2 rest

/-- Each of these bursts works. -/
def Works (scene : SamplerScene α) : List (PerPort Demand) → Prop
  | [] => True
  | demands :: rest =>
    (∃ period, (scene.under demands).burst.1 = .ok period) ∧
      Works (scene.under demands).burst.2 rest

theorem afterBursts_concat (scene : SamplerScene α) (run : List (PerPort Demand))
    (demands : PerPort Demand) :
    scene.afterBursts (run ++ [demands]) = ((scene.afterBursts run).under demands).burst.2 :=
  List.foldl_append

theorem burstsDeliveries_concat (scene : SamplerScene α) (run : List (PerPort Demand))
    (demands : PerPort Demand) :
    scene.burstsDeliveries (run ++ [demands]) =
      scene.burstsDeliveries run ++ ((scene.afterBursts run).under demands).burstDeliveries := by
  induction run generalizing scene with
  | nil => exact List.append_nil _
  | cons first rest ih =>
    rw [List.cons_append, burstsDeliveries, burstsDeliveries, ih, List.append_assoc]
    rfl

/-- Over a converter that never fails every run works. -/
theorem works_of_neverFails (run : List (PerPort Demand)) {scene : SamplerScene α}
    (h : NeverFails scene.adc) : scene.Works run := by
  induction run generalizing scene with
  | nil => trivial
  | cons demands rest ih =>
    have hunder : NeverFails (scene.under demands).adc := h
    obtain ⟨period, left, hburst, hleft⟩ := burst_of_neverFails hunder
    rw [Works, hburst]
    exact ⟨⟨period, rfl⟩, ih hleft⟩

/-- What bursts write is what the entries they get through say, and so is the turn behind them. -/
theorem stored_bursts (run : List (PerPort Demand)) (scene : SamplerScene α) :
    (scene.burstsDeliveries run).filterMap Delivery.storedSlot? =
        storedSlots scene.sampler.slowSlot ((scene.burstsDeliveries run).map Delivery.entry) ∧
      (scene.afterBursts run).sampler.slowSlot =
        turnBehind scene.sampler.slowSlot ((scene.burstsDeliveries run).map Delivery.entry) := by
  induction run generalizing scene with
  | nil => exact ⟨rfl, rfl⟩
  | cons demands rest ih =>
    obtain ⟨hstored, hturn⟩ := stored_burst (scene.under demands)
    obtain ⟨hrest, hbehind⟩ := ih (scene.under demands).burst.2
    rw [burstsDeliveries, List.filterMap_append, List.map_append, storedSlots_append,
      turnBehind_append, hstored, hrest, hturn]
    rw [hturn] at hbehind
    exact ⟨rfl, hbehind⟩

omit [Converter α ε] in
/-- Demands change no reading. -/
theorem readings_under (scene : SamplerScene α) (demands : PerPort Demand) :
    (scene.under demands).board.readings = scene.board.readings := by
  have hinputs : ((scene.under demands).board.inputs.map fun socket => socket.color.adRaw)
      = scene.board.inputs.map fun socket => socket.color.adRaw := by
    refine PerPort.ext_get fun port => ?_
    rw [PerPort.get_map, PerPort.get_map, get_under]
  rw [Board.readings, Board.readings, hinputs]
  rfl

/-- Bursts write the deposits of their deliveries and no other reading. -/
theorem readings_bursts (run : List (PerPort Demand)) (scene : SamplerScene α) :
    (scene.afterBursts run).board.readings =
      ((scene.burstsDeliveries run).filterMap Delivery.deposit?).foldl Deposit.put
        scene.board.readings := by
  induction run generalizing scene with
  | nil => rfl
  | cons demands rest ih =>
    rw [burstsDeliveries, List.filterMap_append, List.foldl_append, ← readings_under scene demands,
      ← readings_burst]
    exact ih _

end SamplerScene

end PlugWatch
