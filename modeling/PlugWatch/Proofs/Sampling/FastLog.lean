import Mathlib.Data.List.Basic
import Mathlib.Data.List.Induction
import PlugWatch.Sampling.FastLog
/-!
# What a fast log keeps

The ring has three positions that go around on their own, and a reset leaves its cells as they are.
Still it is nothing but a queue: the readings pushed since the last reset decide what can be seen of
it, however often it has gone around before.

## Main Definitions

* `FastLog.Operation`, `FastLog.run` : what is done to a log, and the log behind it.
* `FastLog.pushed` : the readings pushed since the last reset.
* `FastLog.Holds` : where the positions and the latest readings lie, after so many pushes.

## Main Statements

* `FastLog.Holds.push` : a push keeps all in its place, also when the ring goes around or is full.
* `FastLog.keeps_newest` : a log shows the newest 299 of the readings pushed since the last reset.
-/

namespace PlugWatch

namespace FastLog

/-! ## Operations -/

/-- What is done to a log. -/
inductive Operation where
  | push (pair : PinPair)
  | reset
  deriving DecidableEq, Repr

/-- Carries out an operation. -/
def apply (log : FastLog) : Operation → FastLog
  | .push pair => log.push pair
  | .reset => log.reset

/-- Carries out operations, one behind the other. -/
def run (log : FastLog) (operations : List Operation) : FastLog := operations.foldl apply log

/-- The readings that are pushed behind the last reset. -/
def pushed (operations : List Operation) : List PinPair :=
  operations.foldl (fun readings operation =>
    match operation with
    | .push pair => readings ++ [pair]
    | .reset => []) []

theorem run_concat (log : FastLog) (operations : List Operation) (operation : Operation) :
    log.run (operations ++ [operation]) = (log.run operations).apply operation :=
  List.foldl_concat ..

@[simp]
theorem pushed_nil : pushed [] = [] := rfl

@[simp]
theorem pushed_concat_push (operations : List Operation) (pair : PinPair) :
    pushed (operations ++ [.push pair]) = pushed operations ++ [pair] :=
  List.foldl_concat ..

@[simp]
theorem pushed_concat_reset (operations : List Operation) :
    pushed (operations ++ [.reset]) = [] :=
  List.foldl_concat ..

/-! ## Positions -/

namespace Position

@[simp]
theorem val_first : Position.first.val = 0 := rfl

/-- A position goes on by one and around behind the last cell. -/
theorem val_advance (position : Position) : position.advance.val = (position.val + 1) % depth := by
  have hlt := position.val_lt
  have hnext : (position.word + 1).toNat = position.val + 1 := by
    unfold depth at hlt
    rw [UInt16.toNat_add, val]
    unfold val at hlt
    simp
    omega
  change (wrap (position.word + 1)).toNat = _
  unfold wrap
  split
  · have hlast : position.val + 1 = depth := by omega
    rw [hlast, Nat.mod_self]
    rfl
  · rw [hnext, Nat.mod_eq_of_lt (by omega)]

theorem eq_iff {position other : Position} : position = other ↔ position.val = other.val := by
  constructor
  · rintro rfl
    rfl
  · obtain ⟨word, _⟩ := position
    obtain ⟨word', _⟩ := other
    intro h
    have hword : word = word' := UInt16.toNat_inj.mp h
    subst hword
    rfl

end Position

/-! ## The readings in the ring -/

/-- The positions and the latest readings lie in the ring as pushing the readings into an empty one
puts them: the reading of a number lies in the cell of that number, counted around the ring. -/
structure Holds (log : FastLog) (readings : List PinPair) : Prop where
  next : log.next.val = readings.length % depth
  newest : log.newest.val = (readings.length - 1) % depth
  oldest : log.oldest.val = (readings.length - (depth - 1)) % depth
  cell : ∀ n, (h : n < readings.length) → readings.length < n + depth →
    log.cells[n % depth]? = some readings[n]

variable {log : FastLog} {readings : List PinPair}

theorem holds_default : ({} : FastLog).Holds [] where
  next := rfl
  newest := rfl
  oldest := rfl
  cell := by simp

theorem Holds.reset (log : FastLog) : log.reset.Holds [] where
  next := rfl
  newest := rfl
  oldest := rfl
  cell := by simp

/-- A push keeps all in its place. -/
theorem Holds.push (h : log.Holds readings) (pair : PinPair) :
    (log.push pair).Holds (readings ++ [pair]) where
  next := by
    change log.next.advance.val = _
    rw [Position.val_advance, h.next]
    simp
  newest := by
    change log.next.val = _
    rw [h.next]
    simp
  oldest := by
    have hnext : log.next.advance.val = (readings.length + 1) % depth := by
      rw [Position.val_advance, h.next]
      simp
    have holdest := h.oldest
    have hmeet : log.next.advance = log.oldest ↔ depth ≤ readings.length + 1 := by
      rw [Position.eq_iff, hnext, holdest]
      unfold depth
      omega
    change (if log.next.advance = log.oldest then log.oldest.advance else log.oldest).val = _
    rw [List.length_append, List.length_singleton]
    split
    · rename_i hfull
      rw [Position.val_advance, holdest, Nat.mod_add_mod]
      have := hmeet.mp hfull
      unfold depth at *
      omega
    · rename_i hroom
      rw [holdest]
      have := hmeet.not.mp hroom
      unfold depth at *
      omega
  cell n hn hlatest := by
    rw [List.length_append, List.length_singleton] at hn hlatest
    change (log.cells.set log.next.val pair log.next.val_lt)[n % depth]? = _
    rw [Vector.getElem?_set, h.next]
    split
    · rename_i hsame
      -- Of the latest 300 numbers only the last one lies in the cell that is written.
      have hlast : n = readings.length := by
        unfold depth at *
        omega
      subst hlast
      simp
    · rename_i hother
      have hearlier : n < readings.length := by
        rcases Nat.lt_succ_iff_lt_or_eq.mp hn with hn | rfl
        · exact hn
        · exact absurd rfl hother
      rw [h.cell n hearlier (by omega), List.getElem_append_left hearlier]

/-- **The log behind operations** holds the readings pushed behind the last reset. -/
theorem holds_run (operations : List Operation) :
    (({} : FastLog).run operations).Holds (pushed operations) := by
  induction operations using List.reverseRecOn with
  | nil => exact holds_default
  | append_singleton operations operation ih =>
    rw [run_concat]
    cases operation with
    | push pair =>
      rw [pushed_concat_push]
      exact ih.push pair
    | reset =>
      rw [pushed_concat_reset]
      exact .reset _

/-! ## What can be seen -/

theorem Holds.size (h : log.Holds readings) : log.size = min readings.length (depth - 1) := by
  rw [FastLog.size, h.next, h.oldest]
  unfold depth
  omega

theorem Holds.isEmpty_iff (h : log.Holds readings) : log.isEmpty = true ↔ readings = [] := by
  rw [isEmpty, decide_eq_true_iff, Position.eq_iff, h.next, h.oldest,
    ← List.length_eq_zero_iff]
  unfold depth
  omega

/-- One of the latest readings is read where its number says. -/
theorem Holds.get (h : log.Holds readings) {n : Nat} (hn : n < readings.length)
    (hlatest : readings.length < n + depth) {place : Fin depth} (hplace : place.val = n % depth) :
    log.cells.get place = readings[n] := by
  obtain ⟨hlt, hcell⟩ := Vector.getElem?_eq_some_iff.mp (h.cell n hn hlatest)
  obtain rfl : place = ⟨n % depth, hlt⟩ := Fin.ext hplace
  exact hcell

theorem Holds.latest? (h : log.Holds readings) : log.latest? = readings.getLast? := by
  unfold FastLog.latest?
  by_cases hempty : log.isEmpty = true
  · rw [if_pos hempty, h.isEmpty_iff.mp hempty]
    rfl
  · have hlength : 0 < readings.length :=
      List.length_pos_iff.mpr fun hnil => hempty (h.isEmpty_iff.mpr hnil)
    rw [if_neg hempty, h.get (n := readings.length - 1) (by omega) (by unfold depth; omega) h.newest,
      List.getLast?_eq_getElem?, List.getElem?_eq_getElem]

theorem Holds.toList (h : log.Holds readings) :
    log.toList = readings.drop (readings.length - (depth - 1)) := by
  have hsize := h.size
  refine List.ext_getElem ?_ fun i hi hi' => ?_
  · rw [FastLog.toList, List.length_map, List.length_range, List.length_drop, hsize]
    omega
  · rw [List.length_drop] at hi'
    have hplace : (log.oldest.val + i) % depth = (readings.length - (depth - 1) + i) % depth := by
      rw [h.oldest, Nat.mod_add_mod]
    simp only [FastLog.toList, List.getElem_map, List.getElem_range, List.getElem_drop, nth]
    exact h.get (by omega) (by unfold depth at *; omega) hplace

/-- **A fast log keeps the newest readings.** Whatever has been pushed, and however often the log was
reset, it shows the last 299 of the readings pushed since the last reset, or all of them, oldest first.
The three positions are the numbers of the next, the newest and the oldest reading, counted around the
ring, so that a cell lies at each of them. -/
theorem keeps_newest (operations : List Operation) :
    let log := ({} : FastLog).run operations
    let readings := pushed operations
    log.toList = readings.drop (readings.length - 299) ∧
      log.size = min readings.length 299 ∧
      (log.isEmpty = true ↔ readings.length = 0) ∧
      log.latest? = readings.getLast? ∧
      (log.next.val = readings.length % 300 ∧
        log.newest.val = (readings.length - 1) % 300 ∧
        log.oldest.val = (readings.length - 299) % 300) ∧
      log.next.val < depth ∧ log.newest.val < depth ∧ log.oldest.val < depth := by
  intro log readings
  have h : log.Holds readings := holds_run operations
  refine ⟨h.toList, h.size, ?_, h.latest?, ⟨h.next, h.newest, h.oldest⟩, ?_⟩
  · rw [h.isEmpty_iff, List.length_eq_zero_iff]
  · exact ⟨log.next.val_lt, log.newest.val_lt, log.oldest.val_lt⟩

end FastLog

end PlugWatch
