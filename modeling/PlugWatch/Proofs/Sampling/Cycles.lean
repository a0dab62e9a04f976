import Mathlib.Logic.Function.Iterate
import PlugWatch.Proofs.Sampling.Coverage
import PlugWatch.Proofs.Sampling.Refresh
/-!
# Every cycle covers every channel

Three turns go round at the same time: the position in the table, the slow slot, and the port served.
They pass on at different entries, and the table may change behind every cycle, since a cycle walks the
one for colour mode if some port was in colour mode at the end of the cycle before. This file cuts a run
into its cycles and shows that none of this matters: every cycle does the same for its slow slot and its
port, and both are counted by the number of the cycle alone.

## Main Definitions

* `Cycle` : a completed cycle of a run.
* `Cycle.Covers` : what a cycle does at the turn of a slow slot and of a port.
* `SamplerScene.fullCycles` : the completed cycles of a run.
* `Rotates` : cycles in a row, each of them at its turns.

## Main Statements

* `UnderWay.concat`, `UnderWay.complete` : a burst goes on with a cycle or ends it.
* `SamplerScene.rotates_cyclesFrom` : the cycles of a run without faults are at their turns.
* `SamplerScene.every_cycle_covers` : what that means for any eight cycles and for any four.

## Design Notes

A cycle is cut off where the position is back at the first entry. What is known in between is the
invariant `UnderWay`: behind `n` bursts of a cycle the first `4 * n` entries are done, whichever table it
is, because both tables pause at every fourth entry.
-/

namespace PlugWatch

variable {α ε : Type} [Converter α ε]

/-! ## Turns -/

/-- The port served in a cycle, the cycles counted from the first one. -/
def portServed (k : Nat) : Port := Port.next^[k + 1] .p1

theorem portServed_succ (k : Nat) : portServed (k + 1) = (portServed k).next :=
  Function.iterate_succ_apply' Port.next (k + 1) .p1

/-- In any four cycles in a row every port is served. -/
theorem exists_portServed (k : Nat) (port : Port) : ∃ i < 4, portServed (k + i) = port := by
  have hround : ∀ first : Port, ∃ i < 4, Port.next^[i] first = port := by
    intro first
    cases first <;> cases port <;> decide
  obtain ⟨i, hi, hserved⟩ := hround (portServed k)
  refine ⟨i, hi, ?_⟩
  rw [← hserved, portServed, portServed, ← Function.iterate_add_apply]
  congr 1
  omega

/-- In any eight cycles in a row every slow slot has its turn. -/
theorem exists_slowTurn (k : Nat) {slot : Slot} (h : 8 ≤ slot.val) :
    ∃ i < 8, slowTurn (k + i) = slot := by
  refine ⟨(slot.val - k % 8) % 8, by omega, Fin.ext ?_⟩
  show 8 + (k + (slot.val - k % 8) % 8) % 8 = slot.val
  have := slot.isLt
  omega

/-! ## Cycles -/

/-- A completed cycle of a run: the scene in front of it, and the demands in front of its bursts. -/
structure Cycle (α : Type) where
  start : SamplerScene α
  earlier : List (PerPort Demand)
  /-- The demands in front of the burst that ends the cycle. -/
  last : PerPort Demand

namespace Cycle

/-- The demands in front of the bursts of a cycle, in their order. -/
def demands (cycle : Cycle α) : List (PerPort Demand) := cycle.earlier ++ [cycle.last]

/-- The scene behind a cycle. -/
def finish (cycle : Cycle α) : SamplerScene α := cycle.start.afterBursts cycle.demands

/-- The deliveries of a cycle. -/
def deliveries (cycle : Cycle α) : List (Delivery α) :=
  cycle.start.burstsDeliveries cycle.demands

/-- What a cycle writes. -/
def deposits (cycle : Cycle α) : List Deposit := cycle.deliveries.filterMap Delivery.deposit?

/-- The sample slots that a cycle writes, as often as it writes them. -/
def stored (cycle : Cycle α) : List Slot := cycle.deposits.filterMap Deposit.sampleSlot?

/-- What a cycle does at the turn of a slow slot, serving a port. -/
structure Covers (cycle : Cycle α) (slow : Slot) (served : Port) : Prop where
  /-- The table is done after four bursts at the latest. -/
  bursts : cycle.demands.length ≤ 4
  stored : cycle.stored = [slow, 0, 1, 2, 3, 4, 5, 6, 7]
  /-- A slot that is written holds what was put there in this cycle. -/
  refreshed : ∀ slot ∈ cycle.stored,
    .sample slot (cycle.finish.board.samples.get slot) ∈ cycle.deposits
  /-- No other slot changes. -/
  kept : ∀ slot ∉ cycle.stored,
    cycle.finish.board.samples.get slot = cycle.start.board.samples.get slot
  slowSlot : cycle.finish.sampler.slowSlot = slow.nextSlow
  colorPort : cycle.finish.sampler.colorPort = served
  /-- Clocking follows colour mode, and the port served takes its command over. -/
  handshake : ∀ port, (cycle.finish.board.inputs.get port).handshake =
    { active := (cycle.last.get port).active
      command := (cycle.last.get port).command
      latched :=
        if port = served then (cycle.last.get port).command
        else (cycle.start.board.inputs.get port).handshake.latched
      clocking := (cycle.last.get port).active }
  /-- One pair is logged, unless the port is in colour mode. -/
  log : ∀ port, (cycle.finish.board.inputs.get port).log =
    if (cycle.last.get port).active then (cycle.start.board.inputs.get port).log
    else (cycle.start.board.inputs.get port).log.push
      (cycle.finish.board.samples.inPin1 port, cycle.finish.board.samples.inPin6 port)

theorem stored_eq (cycle : Cycle α) :
    cycle.stored = cycle.deliveries.filterMap Delivery.storedSlot? :=
  List.filterMap_filterMap

end Cycle

namespace SamplerScene

/-- The cycles that a run completes behind the bursts which have been run since a scene in front of a
cycle. -/
def cyclesFrom (first : SamplerScene α) (pending : List (PerPort Demand)) :
    List (PerPort Demand) → List (Cycle α)
  | [] => []
  | demands :: rest =>
    let cycle : Cycle α := ⟨first, pending, demands⟩
    if cycle.finish.sampler.pointer = 0 then cycle :: cyclesFrom cycle.finish [] rest
    else cyclesFrom first (pending ++ [demands]) rest

/-- The completed cycles of a run. A cycle is completed when the position is back at the first entry. -/
def fullCycles (scene : SamplerScene α) (run : List (PerPort Demand)) : List (Cycle α) :=
  cyclesFrom scene [] run

/-! ## One burst -/

/-- A burst that works and begins at a fourth entry gets through the next four entries, or through those
that are left. -/
theorem burst_at_fourth {scene : SamplerScene α} {j : Nat}
    (hposition : scene.sampler.pointer = 4 * j) (hon : scene.OnTable)
    (hok : ∃ period, scene.burst.1 = .ok period) :
    scene.burst.2 = scene.burstWalk.2.finish ∧
      scene.burstDeliveries.map Delivery.entry =
        (scene.sampler.schedule.entries.drop (4 * j)).take 4 ∧
      scene.burstWalk.2.sampler.pointer =
        min (4 * (j + 1)) scene.sampler.schedule.entries.length := by
  obtain ⟨period, hok⟩ := hok
  rcases hwalk : scene.burstWalk with ⟨fault | period', left⟩
  · rw [burst_of_walk_error hwalk] at hok
    cases hok
  · unfold OnTable at hon
    rw [hposition] at hon
    have hentries : scene.burstDeliveries.map Delivery.entry =
        (scene.sampler.schedule.entries.drop (4 * j)).take 4 := by
      have hstint := entries_deliveries hwalk
      rw [remaining_prepare, hposition, Schedule.stint_entries _ hon] at hstint
      rw [← hstint, burstDeliveries, remaining_prepare, hposition]
    refine ⟨by rw [burst_of_walk_ok hwalk], hentries, ?_⟩
    have hpointer := (position_burstWalk scene).1
    have hlength := congrArg List.length hentries
    rw [List.length_map, List.length_take, List.length_drop] at hlength
    rw [hwalk] at hpointer
    dsimp only at hpointer ⊢
    omega

omit [Converter α ε] in
/-- Demands touch neither the sampler nor the turn of the ports. -/
theorem colorPort_prepare_under (scene : SamplerScene α) (demands : PerPort Demand) :
    (scene.under demands).prepare.sampler.colorPort = scene.prepare.sampler.colorPort := by
  unfold prepare
  by_cases h : scene.sampler.pointer = 0
  · rw [if_pos h, if_pos (show (scene.under demands).sampler.pointer = 0 from h)]
    rfl
  · rw [if_neg h, if_neg (show (scene.under demands).sampler.pointer ≠ 0 from h)]
    rfl

end SamplerScene

open SamplerScene

/-! ## A cycle under way -/

/-- Some bursts of a cycle have been run, and there is more of it to come. -/
structure UnderWay (first : SamplerScene α) (pending : List (PerPort Demand)) : Prop where
  position : (first.afterBursts pending).sampler.pointer = 4 * pending.length
  schedule : (first.afterBursts pending).sampler.schedule = first.sampler.schedule
  onTable : 4 * pending.length < first.sampler.schedule.entries.length
  entries : (first.burstsDeliveries pending).map Delivery.entry =
    first.sampler.schedule.entries.take (4 * pending.length)
  /-- The port served is the next one, from the first burst on. -/
  served : (first.afterBursts pending).prepare.sampler.colorPort = first.sampler.colorPort.next
  latched : ∀ port, ((first.afterBursts pending).board.inputs.get port).handshake.latched =
    (first.board.inputs.get port).handshake.latched
  log : ∀ port, ((first.afterBursts pending).board.inputs.get port).log =
    (first.board.inputs.get port).log

namespace UnderWay

variable {first : SamplerScene α} {pending : List (PerPort Demand)} {demands : PerPort Demand}

/-- In front of its first burst a cycle is under way. -/
theorem start (h : first.sampler.pointer = 0) : UnderWay first [] where
  position := h
  schedule := rfl
  onTable := first.sampler.schedule.length_entries_pos
  entries := rfl
  served := by
    rw [show first.afterBursts [] = first from rfl, prepare_of_pointer_eq h]
    rfl
  latched := fun _ => rfl
  log := fun _ => rfl

/-- Both tables are done after four bursts at the latest. -/
theorem length_lt (h : UnderWay first pending) : pending.length < 4 := by
  have hon := h.onTable
  have hle := first.sampler.schedule.length_entries_le
  omega

/-- The walk of the next burst keeps what the end of the cycle looks at. -/
theorem walk (h : UnderWay first pending) (demands : PerPort Demand) :
    let left := ((first.afterBursts pending).under demands).burstWalk.2
    left.sampler.schedule = first.sampler.schedule ∧
      left.sampler.colorPort = first.sampler.colorPort.next ∧
      ∀ port, (left.board.inputs.get port).handshake =
          { ((first.afterBursts pending).board.inputs.get port).handshake with
            active := (demands.get port).active
            command := (demands.get port).command } ∧
        (left.board.inputs.get port).log = (first.board.inputs.get port).log := by
  intro left
  refine ⟨(position_burstWalk _).2.trans h.schedule, ?_, fun port => ⟨?_, ?_⟩⟩
  · rw [← h.served, ← colorPort_prepare_under _ demands]
    exact (turn_walk _ _ _).2.2.1
  · refine (handshake_walk _ _ _ port).trans ?_
    rw [inputs_prepare, get_under]
  · refine (log_walk _ _ _ port).trans ?_
    rw [inputs_prepare, get_under]
    exact h.log port

section Burst

variable (h : UnderWay first pending)
  (hok : ∃ period, ((first.afterBursts pending).under demands).burst.1 = .ok period)

include h hok

/-- The next burst of a cycle under way. -/
theorem burst :
    first.afterBursts (pending ++ [demands]) =
        ((first.afterBursts pending).under demands).burstWalk.2.finish ∧
      (first.burstsDeliveries (pending ++ [demands])).map Delivery.entry =
        first.sampler.schedule.entries.take (4 * (pending.length + 1)) ∧
      ((first.afterBursts pending).under demands).burstWalk.2.sampler.pointer =
        min (4 * (pending.length + 1)) first.sampler.schedule.entries.length := by
  have hon : ((first.afterBursts pending).under demands).OnTable := by
    show (first.afterBursts pending).sampler.pointer < _
    rw [h.position]
    show _ < (first.afterBursts pending).sampler.schedule.entries.length
    rw [h.schedule]
    exact h.onTable
  have hschedule : ((first.afterBursts pending).under demands).sampler.schedule =
      first.sampler.schedule := h.schedule
  have hposition : ((first.afterBursts pending).under demands).sampler.pointer =
      4 * pending.length := h.position
  obtain ⟨hburst, hentries, hpointer⟩ := burst_at_fourth hposition hon hok
  rw [hschedule] at hentries hpointer
  refine ⟨(afterBursts_concat first pending demands).trans hburst, ?_, hpointer⟩
  rw [burstsDeliveries_concat, List.map_append, h.entries, hentries, ← List.take_add]
  rfl

/-- Short of the end of the table, the cycle goes on. -/
theorem concat (hmore : 4 * (pending.length + 1) < first.sampler.schedule.entries.length) :
    UnderWay first (pending ++ [demands]) := by
  obtain ⟨hafter, hentries, hpointer⟩ := h.burst hok
  obtain ⟨hschedule, hserved, hsockets⟩ := h.walk demands
  rw [Nat.min_eq_left (Nat.le_of_lt hmore)] at hpointer
  have hstay : first.afterBursts (pending ++ [demands]) =
      ((first.afterBursts pending).under demands).burstWalk.2 := by
    rw [hafter, SamplerScene.finish, if_neg]
    rw [hschedule, hpointer]
    exact Nat.not_le.mpr hmore
  have hlength : (pending ++ [demands]).length = pending.length + 1 := List.length_append
  exact {
    position := by rw [hstay, hpointer, hlength]
    schedule := by rw [hstay, hschedule]
    onTable := by
      rw [hlength]
      exact hmore
    entries := by
      rw [hlength]
      exact hentries
    served := by rw [hstay, prepare_of_pointer_ne (by omega), hserved]
    latched := fun port => by
      rw [hstay, (hsockets port).1]
      exact h.latched port
    log := fun port => by
      rw [hstay]
      exact (hsockets port).2 }

/-- At the end of the table the cycle is completed. -/
theorem complete (hend : first.sampler.schedule.entries.length ≤ 4 * (pending.length + 1)) :
    (Cycle.mk first pending demands).finish.sampler.pointer = 0 ∧
      (Cycle.mk first pending demands).Covers first.sampler.slowSlot
        first.sampler.colorPort.next := by
  obtain ⟨hafter, hentries, hpointer⟩ := h.burst hok
  obtain ⟨hschedule, hserved, hsockets⟩ := h.walk demands
  rw [Nat.min_eq_right hend] at hpointer
  rw [List.take_of_length_le hend] at hentries
  -- the walk of the last burst, put back at the first entry
  let left := ((first.afterBursts pending).under demands).burstWalk.2
  have hfinish : (Cycle.mk first pending demands).finish =
      completeCycle { left with sampler := { left.sampler with pointer := 0 } } := by
    show first.afterBursts (pending ++ [demands]) = _
    rw [hafter, SamplerScene.finish, if_pos (Nat.le_of_eq (by rw [hschedule, hpointer]))]
  obtain ⟨hstored, hturn⟩ := stored_bursts (pending ++ [demands]) first
  rw [hentries, Schedule.storedSlots_entries] at hstored
  rw [hentries, Schedule.turnBehind_entries] at hturn
  have hreadings : (Cycle.mk first pending demands).finish.board.samples =
      ((Cycle.mk first pending demands).deposits.foldl Deposit.put first.board.readings).samples :=
    congrArg Readings.samples (readings_bursts (pending ++ [demands]) first)
  refine ⟨by rw [hfinish, (completeCycle_eq _).2.1], ?_⟩
  exact {
    bursts := by
      have hlength : (pending ++ [demands]).length = pending.length + 1 := List.length_append
      exact Nat.le_trans (Nat.le_of_eq hlength) h.length_lt
    stored := (Cycle.stored_eq _).trans hstored
    refreshed := fun slot hslot => by
      rw [hreadings]
      exact Deposit.mem_of_foldl_put hslot _
    kept := fun slot hslot => by
      rw [hreadings]
      exact Deposit.get_foldl_put_of_notMem hslot _
    slowSlot := hturn
    colorPort := by
      show (first.afterBursts (pending ++ [demands])).sampler.colorPort = _
      rw [hafter, colorPort_finish, hserved]
    handshake := fun port => by
      rw [hfinish, handshake_completeCycle]
      dsimp only
      rw [hserved, (hsockets port).1]
      dsimp only
      rw [h.latched port]
    log := fun port => by
      rw [hfinish, samples_completeCycle, log_completeCycle]
      dsimp only
      rw [(hsockets port).1, (hsockets port).2] }

end Burst

end UnderWay

/-! ## Cycles in a row -/

/-- Cycles in a row: each begins where the one before it ended, and each is at its turns. -/
def Rotates : Nat → SamplerScene α → List (Cycle α) → Prop
  | _, _, [] => True
  | k, scene, cycle :: later =>
    cycle.start = scene ∧ cycle.Covers (slowTurn k) (portServed k) ∧
      Rotates (k + 1) cycle.finish later

namespace Rotates

variable {k : Nat} {scene : SamplerScene α} {cycles window : List (Cycle α)}

theorem of_append_left {later : List (Cycle α)} (h : Rotates k scene (cycles ++ later)) :
    Rotates k scene cycles := by
  induction cycles generalizing k scene with
  | nil => trivial
  | cons cycle rest ih => exact ⟨h.1, h.2.1, ih h.2.2⟩

theorem of_append_right {earlier : List (Cycle α)} (h : Rotates k scene (earlier ++ cycles)) :
    ∃ between, Rotates (k + earlier.length) between cycles := by
  induction earlier generalizing k scene with
  | nil => exact ⟨scene, h⟩
  | cons cycle rest ih =>
    rw [List.length_cons, show k + (rest.length + 1) = k + 1 + rest.length by omega]
    exact ih h.2.2

/-- Cycles out of a row are a row. -/
theorem of_infix (h : Rotates k scene cycles) (hwindow : window <:+: cycles) :
    ∃ k' between, Rotates k' between window := by
  obtain ⟨earlier, later, rfl⟩ := hwindow
  obtain ⟨between, hbetween⟩ := h.of_append_left.of_append_right
  exact ⟨_, between, hbetween⟩

/-- The number of a cycle says which slow slot it writes and which port it serves. -/
theorem covers (h : Rotates k scene cycles) {i : Nat} {cycle : Cycle α}
    (hi : cycles[i]? = some cycle) : cycle.Covers (slowTurn (k + i)) (portServed (k + i)) := by
  induction cycles generalizing k scene i with
  | nil => cases hi
  | cons first rest ih =>
    match i with
    | 0 =>
      cases hi
      exact h.2.1
    | i + 1 =>
      rw [show k + (i + 1) = k + 1 + i by omega]
      exact ih h.2.2 hi

/-- Eight cycles in a row write every slot. -/
theorem refreshes (h : Rotates k scene cycles) (hlength : cycles.length = 8) (slot : Slot) :
    ∃ cycle ∈ cycles, slot ∈ cycle.stored := by
  obtain ⟨i, hi, hmem⟩ : ∃ i < 8, slot ∈ [slowTurn (k + i), 0, 1, 2, 3, 4, 5, 6, 7] := by
    by_cases hslow : 8 ≤ slot.val
    · obtain ⟨i, hi, hturn⟩ := exists_slowTurn k hslow
      exact ⟨i, hi, List.mem_cons.mpr (.inl hturn.symm)⟩
    · have hfast : ∀ slot : Slot, slot.val < 8 → slot ∈ ([0, 1, 2, 3, 4, 5, 6, 7] : List Slot) := by
        decide
      exact ⟨0, by omega, List.mem_cons_of_mem _ (hfast slot (by omega))⟩
  have hat := List.getElem?_eq_getElem (show i < cycles.length by omega)
  exact ⟨_, List.mem_of_getElem? hat, (h.covers hat).stored ▸ hmem⟩

/-- A port that goes on asking for one command has it taken over, once it has been served. -/
theorem settles {port : Port} {command : UInt8} (h : Rotates k scene cycles)
    (hsame : ∀ cycle ∈ cycles, ∀ demands ∈ cycle.demands, (demands.get port).command = command)
    (hserved : (scene.board.inputs.get port).handshake.latched = command ∨
      ∃ i < cycles.length, portServed (k + i) = port) :
    ∀ last ∈ cycles.getLast?, (last.finish.board.inputs.get port).handshake.settled = true := by
  induction cycles generalizing k scene with
  | nil => intro last hlast; cases hlast
  | cons cycle rest ih =>
    obtain ⟨rfl, hcovers, hrest⟩ := h
    have hhandshake := hcovers.handshake port
    rw [hsame cycle List.mem_cons_self cycle.last (List.mem_append_right _ List.mem_cons_self)]
      at hhandshake
    have hnext : (cycle.finish.board.inputs.get port).handshake.latched = command ∨
        ∃ i < rest.length, portServed (k + 1 + i) = port := by
      by_cases hnow : port = portServed k
      · left
        rw [hhandshake]
        exact if_pos hnow
      · rcases hserved with hlatched | ⟨i, hi, hport⟩
        · left
          rw [hhandshake]
          exact (if_neg hnow).trans hlatched
        · -- the port is not served in this cycle, so in one of the rest
          match i with
          | 0 => exact absurd hport.symm hnow
          | i + 1 =>
            rw [show k + (i + 1) = k + 1 + i by omega] at hport
            exact .inr ⟨i, Nat.lt_of_succ_lt_succ hi, hport⟩
    cases rest with
    | nil =>
      rcases hnext with hlatched | ⟨i, hi, -⟩
      · intro last hlast
        obtain rfl : cycle = last := by simpa using hlast
        rw [ColorHandshake.settled, hlatched, hhandshake]
        exact decide_eq_true rfl
      · exact absurd hi (Nat.not_lt_zero i)
    | cons next later =>
      rw [List.getLast?_cons_cons]
      exact ih hrest (fun cycle hmem => hsame cycle (List.mem_cons_of_mem _ hmem)) hnext

end Rotates

/-! ## Runs -/

namespace SamplerScene

/-- The cycles of a run without faults are at their turns, and fewer than four bursts are left over. -/
theorem rotates_cyclesFrom {run : List (PerPort Demand)} {first : SamplerScene α}
    {pending : List (PerPort Demand)} {k : Nat} (h : UnderWay first pending)
    (hslow : first.sampler.slowSlot = slowTurn k)
    (hserved : first.sampler.colorPort.next = portServed k)
    (hworks : (first.afterBursts pending).Works run) :
    Rotates k first (cyclesFrom first pending run) ∧
      ∃ rest, pending ++ run = (cyclesFrom first pending run).flatMap Cycle.demands ++ rest ∧
        rest.length < 4 := by
  induction run generalizing first pending k with
  | nil => exact ⟨trivial, pending, List.append_nil _, h.length_lt⟩
  | cons demands run ih =>
    obtain ⟨hok, hlater⟩ := hworks
    rw [← afterBursts_concat] at hlater
    rw [cyclesFrom]
    rcases Nat.lt_or_ge (4 * (pending.length + 1)) first.sampler.schedule.entries.length
      with hmore | hend
    · have hgo := h.concat hok hmore
      have hne : (Cycle.mk first pending demands).finish.sampler.pointer ≠ 0 := by
        rw [show (Cycle.mk first pending demands).finish.sampler.pointer = _ from hgo.position,
          List.length_append, List.length_singleton]
        omega
      rw [if_neg hne]
      have hrest := ih hgo hslow hserved hlater
      rwa [List.append_assoc] at hrest
    · obtain ⟨hzero, hcovers⟩ := h.complete hok hend
      rw [hslow, hserved] at hcovers
      rw [if_pos hzero]
      obtain ⟨hrotates, rest, hsplit, hshort⟩ := ih (.start hzero)
        (hcovers.slowSlot.trans (nextSlow_slowTurn k))
        (by rw [hcovers.colorPort, portServed_succ]) hlater
      refine ⟨⟨rfl, hcovers, hrotates⟩, rest, ?_, hshort⟩
      rw [List.flatMap_cons, List.append_assoc, ← hsplit, List.nil_append, Cycle.demands,
        List.append_assoc]
      rfl

/-- **Every cycle covers every channel, and every port gets its turn.** A sampler with any configuration
starts over any converter and any board, and bursts are run without a fault, with any demands between
them. The run is cut into its completed cycles, with fewer than four bursts left over. Cycle number `k`
writes the slow slot `8 + k % 8` and each of the slots 0 to 7, each of them once, and no other sample; it
takes over the command of the next port in turn and of no other port; it sets clocking to colour mode for
every port; and it logs one pair of the samples it has just written for every port that is not in colour
mode. So any eight cycles in a row write all sixteen slots, and a port that asks for one command during
four cycles in a row is settled behind them. -/
theorem every_cycle_covers {start : SamplerScene α} {config : SamplerConfig}
    (hnew : start.sampler = { config }) {run : List (PerPort Demand)} (hworks : start.Works run) :
    Rotates 0 start (start.fullCycles run) ∧
      (∃ rest, run = (start.fullCycles run).flatMap Cycle.demands ++ rest ∧ rest.length < 4) ∧
      ∀ window, window <:+: start.fullCycles run →
        (window.length = 8 → ∀ slot, ∃ cycle ∈ window, slot ∈ cycle.stored) ∧
        (window.length = 4 → ∀ port command,
          (∀ cycle ∈ window, ∀ demands ∈ cycle.demands, (demands.get port).command = command) →
            ∀ last ∈ window.getLast?,
              (last.finish.board.inputs.get port).handshake.settled = true) := by
  have hunder : UnderWay start [] := .start (by rw [hnew])
  obtain ⟨hrotates, hrest⟩ := rotates_cyclesFrom (k := 0) hunder (by rw [hnew]; rfl)
    (by rw [hnew]; rfl) hworks
  refine ⟨hrotates, hrest, fun window hwindow => ?_⟩
  obtain ⟨k, between, hrow⟩ := hrotates.of_infix hwindow
  refine ⟨fun hlength => hrow.refreshes hlength, fun hlength port command hsame => ?_⟩
  obtain ⟨i, hi, hport⟩ := exists_portServed k port
  exact hrow.settles hsame (.inr ⟨i, by omega, hport⟩)

/-- A sampler over the simulated converter, whose second port enters colour mode after sixteen bursts
and asks for another command. -/
theorem every_cycle_covers_colored :
    let start : SamplerScene Multiplexer := ⟨{ config := {} }, {}, {}, #[]⟩
    let plain : PerPort Demand := .const { active := false, command := 0 }
    let run := List.replicate 16 plain
      ++ List.replicate 32 (plain.set .p2 { active := true, command := 13 })
    start.Works run ∧ Rotates 0 start (start.fullCycles run) ∧
      (∃ rest, run = (start.fullCycles run).flatMap Cycle.demands ++ rest ∧ rest.length < 4) ∧
      ∀ window, window <:+: start.fullCycles run →
        (window.length = 8 → ∀ slot, ∃ cycle ∈ window, slot ∈ cycle.stored) ∧
        (window.length = 4 → ∀ port command,
          (∀ cycle ∈ window, ∀ demands ∈ cycle.demands, (demands.get port).command = command) →
            ∀ last ∈ window.getLast?,
              (last.finish.board.inputs.get port).handshake.settled = true) := by
  intro start plain run
  have hworks : start.Works run := works_of_neverFails run (Multiplexer.neverFails rfl)
  exact ⟨hworks, every_cycle_covers rfl hworks⟩

/-- Eight bursts in colour mode: a cycle of three bursts, one of four, and one burst of the next. -/
example :
    let start : SamplerScene Multiplexer := ⟨{ config := {} }, {}, {}, #[]⟩
    let cycles := start.fullCycles (List.replicate 8 (.const { active := true, command := 13 }))
    cycles.map Cycle.stored = [[8, 0, 1, 2, 3, 4, 5, 6, 7], [9, 0, 1, 2, 3, 4, 5, 6, 7]] ∧
      cycles.map (fun cycle => cycle.demands.length) = [3, 4] := by
  decide +kernel

end SamplerScene

end PlugWatch
