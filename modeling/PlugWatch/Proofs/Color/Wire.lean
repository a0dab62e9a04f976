import PlugWatch.Proofs.Run
/-!
# Colour sessions as seen from the wire

What a session does can be told from its calls on the two pins of its port. This file writes down
the calls of each period of the bit timer, and the calls that a whole session is to make.

## Main Definitions

* `PinCall`, `WireCall` : a call on a pin, and the step of the session that makes it.
* `Session.period` : the calls of a session in one period of the bit timer.
* `Script.whole` : the calls of a whole session, period by period.

## Main Statements

* `Session.play_period` : a period does to the lines what its calls do, and every level that it
  reads is the level of the line at that point.
* `Script.edges_transmit`, `Script.edges_receive`, `Script.readings_whole` : where the clock edges of a
  script are, what the data line carries there, and which levels are read.

## Design Notes

A script is a list of periods and not of calls, so that its length is the time a session takes.
Periods without calls are those in which a byte is begun or the session ends.
-/

namespace PlugWatch

/-! ## Calls -/

/-- A call on a pin of an input port. -/
inductive PinCall where
  /-- A pin is driven or released. -/
  | drive (role : InputRole) (wanted : Drive)
  /-- A look at a pin, and the level seen. -/
  | read (role : InputRole) (level : Bool)
  deriving DecidableEq, Repr

/-- Makes a call. A look that saw another level than the one of the line cannot have been. -/
def PinCall.play? (lines : InputLines) : PinCall → Option InputLines
  | .drive role wanted => some (lines.driveTo role wanted)
  | .read role level => if lines.read role = level then some lines else none

/-- A call of a session, with the step that the session is at. -/
structure WireCall where
  state : LinkState
  call : PinCall
  deriving DecidableEq, Repr

/-- The calls of a session in one period of the bit timer, in order. -/
abbrev Period := List WireCall

/-- Makes the calls of a period. -/
def Period.play? (period : Period) (lines : InputLines) : Option InputLines :=
  period.foldlM (fun lines wire => wire.call.play? lines) lines

namespace Session

/-- The calls of the first half of a period. -/
def advanceCalls (session : Session) (lines : InputLines) : List PinCall :=
  match session.state with
  | .release => [.drive .pin5 .float]
  | .sense =>
    if lines.read .pin5 && 0 < session.resetPulses then [.read .pin5 true]
    else [.read .pin5 (lines.read .pin5), .drive .pin5 .high]
  | .pulseHigh | .resetHold => [.drive .pin5 .low]
  | _ => []

/-- The calls of the second half of a period. -/
def clockCalls (session : Session) (lines : InputLines) : List PinCall :=
  if 0 < session.bitsLeft then
    if session.clockHigh then
      if session.transmit then [.drive .pin5 .low]
      else [.read .pin6 (lines.read .pin6), .drive .pin5 .low]
    else
      [.drive .pin6 (if session.transmit then .ofLevel (session.shift &&& 1 ≠ 0) else .float),
        .drive .pin5 .high]
  else []

/-- The calls of a session in one period of the bit timer. -/
def period (delay : UInt16) (session : Session) (lines : InputLines) : Period :=
  if session.state = .idle then []
  else
    let (moved, between) := session.advance delay lines
    (session.advanceCalls lines).map (WireCall.mk session.state) ++
      (moved.clockCalls between).map (WireCall.mk moved.state)

/-- The calls of a session in one period of the bit timer, if it is in use and not over. -/
def period? (delay : UInt16) (session : Session) (lines : InputLines) : Option Period :=
  if session.inUse && session.state ≠ .idle then some (session.period delay lines) else none

theorem play_advanceCalls (delay : UInt16) (session : Session) (lines : InputLines)
    (step : LinkState) :
    Period.play? ((session.advanceCalls lines).map (WireCall.mk step)) lines
      = some (session.advance delay lines).2 := by
  unfold advanceCalls advance
  cases session.state with
  | sense =>
    dsimp only
    split
    · rename_i hhigh
      have hlevel := (Bool.and_eq_true_iff.mp hhigh).1
      simp [Period.play?, PinCall.play?, hlevel]
    · simp [Period.play?, PinCall.play?]
  | transmit => dsimp only; split <;> rfl
  | receive => dsimp only; split <;> rfl
  | _ => rfl

theorem play_clockCalls (session : Session) (lines : InputLines) (step : LinkState) :
    Period.play? ((session.clockCalls lines).map (WireCall.mk step)) lines
      = some (session.clockBit lines).2 := by
  unfold clockCalls clockBit
  split
  · split
    · unfold lowerClock
      dsimp only
      split
      · rfl
      · split <;> simp [Period.play?, PinCall.play?]
    · unfold raiseClock
      split <;> rfl
  · split
    · rfl
    · rfl

/-- **A period does to the lines what its calls do**, and every level that it reads is the level of
the line at that point. -/
theorem play_period (delay : UInt16) (session : Session) (lines : InputLines) :
    (session.period delay lines).play? lines = some (session.step delay lines).2 := by
  unfold period step
  split
  · rfl
  · dsimp only
    rw [Period.play?, List.foldlM_append]
    have hfirst := play_advanceCalls delay session lines session.state
    rw [Period.play?] at hfirst
    rw [hfirst]
    exact play_clockCalls _ _ _

end Session

/-! ## What is seen of a session -/

namespace PinCall

/-- The pin of a call. -/
def role : PinCall → InputRole
  | drive role _ => role
  | read role _ => role

end PinCall

namespace WireCall

/-- The level that a call reads on the data line. -/
def reading? : WireCall → Option Bool
  | ⟨_, .read .pin6 level⟩ => some level
  | _ => none

/-- The levels that calls read on the data line. -/
def readings (calls : List WireCall) : List Bool := calls.filterMap reading?

/-- What the data line is driven to at each rising clock edge that is made in a step, given what it
is driven to at first. -/
def edges (state : LinkState) (data : Drive) : List WireCall → List Drive
  | [] => []
  | wire :: rest =>
    match wire.call with
    | .drive .pin6 wanted => edges state wanted rest
    | .drive .pin5 .high =>
      if wire.state = state then data :: edges state data rest else edges state data rest
    | _ => edges state data rest

/-- Calls on the clock line in other steps do not count. -/
theorem edges_append_of_clock {state : LinkState} (data : Drive) {calls : List WireCall}
    (h : ∀ wire ∈ calls, wire.call.role = .pin5 ∧ wire.state ≠ state) (rest : List WireCall) :
    edges state data (calls ++ rest) = edges state data rest := by
  induction calls with
  | nil => rfl
  | cons wire more ih =>
    obtain ⟨hrole, hstate⟩ := h wire List.mem_cons_self
    have hmore := ih fun other hmem => h other (List.mem_cons_of_mem _ hmem)
    rw [List.cons_append, edges]
    split
    · rename_i hcall
      rw [hcall] at hrole
      cases hrole
    · rw [if_neg hstate]
      exact hmore
    · exact hmore

theorem readings_append (before after : List WireCall) :
    readings (before ++ after) = readings before ++ readings after :=
  List.filterMap_append

/-- Calls on the clock line read nothing on the data line. -/
theorem readings_of_clock {calls : List WireCall}
    (h : ∀ wire ∈ calls, wire.call.role = .pin5) : readings calls = [] := by
  refine List.filterMap_eq_nil_iff.mpr fun wire hmem => ?_
  have hrole := h wire hmem
  unfold reading?
  split
  · cases hrole
  · rfl

end WireCall

/-! ## The calls that a session is to make -/

namespace Script

/-- A reset pulse, behind a look at the released clock line. -/
def pulse (level : Bool) : List Period :=
  [[⟨.release, .drive .pin5 .float⟩],
    [⟨.sense, .read .pin5 level⟩, ⟨.sense, .drive .pin5 .high⟩],
    [⟨.pulseHigh, .drive .pin5 .low⟩]]

/-- The reset pulses. The first one is made in any case, the second one unless the sensor holds the
clock line high again. -/
def pulses (first again : Bool) : List Period :=
  pulse first ++
    if again then [[⟨.release, .drive .pin5 .float⟩], [⟨.sense, .read .pin5 true⟩]]
    else pulse false

/-- A period of the reset hold. -/
def held : Period := [⟨.resetHold, .drive .pin5 .low⟩]

/-- The number of periods of the reset hold: there is one even if none is asked for. -/
def holdPeriods (delay : UInt16) : Nat := max 1 delay.toNat

theorem holdPeriods_pos (delay : UInt16) : 0 < holdPeriods delay :=
  Nat.lt_of_lt_of_le Nat.one_pos (Nat.le_max_left _ _)

/-- All that comes before the command: reset pulses, reset hold, and a period in which the command
byte is queued. -/
def lead (delay : UInt16) (first again : Bool) : List Period :=
  pulses first again ++ List.replicate (holdPeriods delay) held ++ [[]]

/-- The rising edge for a bit of the command. -/
def raised (command : UInt8) (k : Nat) : Period :=
  [⟨.transmit, .drive .pin6 (.ofLevel (command.toNat.testBit k))⟩,
    ⟨.transmit, .drive .pin5 .high⟩]

/-- The first bits of a command, the lowest one first. -/
def sent (command : UInt8) : Nat → List Period
  | 0 => []
  | k + 1 => sent command k ++ [raised command k, [⟨.transmit, .drive .pin5 .low⟩]]

/-- The period in which a byte of the answer is begun, in front of each eighth bit. -/
def gap (m : Nat) : List Period := if m % 8 = 0 then [[]] else []

/-- The rising edge for a bit of the answer. -/
def freed : Period := [⟨.receive, .drive .pin6 .float⟩, ⟨.receive, .drive .pin5 .high⟩]

/-- The falling edge for a bit of the answer. -/
def lowered (level : Bool) : Period := [⟨.receive, .read .pin6 level⟩, ⟨.receive, .drive .pin5 .low⟩]

/-- Bits of the answer, of which the first one has the given place. -/
def takenFrom (m : Nat) : List Bool → List Period
  | [] => []
  | level :: rest => gap m ++ [freed, lowered level] ++ takenFrom (m + 1) rest

/-- The first bits of the answer. -/
def taken (levels : List Bool) : List Period := takenFrom 0 levels

/-- The calls of a whole session. -/
def whole (delay : UInt16) (command : UInt8) (first again : Bool) (levels : List Bool) :
    List Period :=
  lead delay first again ++ sent command 8 ++ taken levels ++ [[], []]

theorem takenFrom_concat (m : Nat) (levels : List Bool) (level : Bool) :
    takenFrom m (levels ++ [level]) =
      takenFrom m levels ++ gap (m + levels.length) ++ [freed, lowered level] := by
  induction levels generalizing m with
  | nil => simp [takenFrom]
  | cons first rest ih =>
    have hplace : m + 1 + rest.length = m + (rest.length + 1) := by omega
    simp [takenFrom, ih, hplace]

theorem taken_concat (levels : List Bool) (level : Bool) :
    taken (levels ++ [level]) = taken levels ++ gap levels.length ++ [freed, lowered level] := by
  rw [taken, taken, takenFrom_concat, Nat.zero_add]

theorem length_pulsed (seen : List Bool) : (seen.flatMap pulse).length = 3 * seen.length := by
  induction seen with
  | nil => rfl
  | cons level rest ih => simp [ih, pulse]; omega

theorem length_pulses_le (first again : Bool) : (pulses first again).length ≤ 6 := by
  revert first again
  decide

theorem length_lead_le (delay : UInt16) (first again : Bool) :
    (lead delay first again).length ≤ 7 + holdPeriods delay := by
  have hpulses := length_pulses_le first again
  simp [lead]
  omega

theorem length_gap_le (m : Nat) : (gap m).length ≤ 1 := by
  unfold gap
  split <;> simp

theorem length_sent (command : UInt8) (k : Nat) : (sent command k).length = 2 * k := by
  induction k with
  | zero => rfl
  | succ k ih => simp [sent, ih]; omega

theorem length_takenFrom (m : Nat) (levels : List Bool) :
    (takenFrom m levels).length + (m + 7) / 8 = 2 * levels.length + (m + levels.length + 7) / 8 := by
  induction levels generalizing m with
  | nil => simp [takenFrom]
  | cons level rest ih =>
    have hrest := ih (m + 1)
    simp only [takenFrom, gap, List.length_append, List.length_cons, List.length_nil]
    split <;> simp <;> omega

/-- A bit of the answer takes two periods, and each byte one more. -/
theorem length_taken (levels : List Bool) :
    (taken levels).length = 2 * levels.length + (levels.length + 7) / 8 := by
  have h := length_takenFrom 0 levels
  simpa [taken] using h

theorem flatten_gap (m : Nat) : (gap m).flatten = [] := by
  unfold gap
  split <;> rfl

/-- In front of the command the clock line alone is used. -/
theorem clock_of_mem_lead {delay : UInt16} {first again : Bool} {wire : WireCall}
    (h : wire ∈ (lead delay first again).flatten) :
    wire.call.role = .pin5 ∧ wire.state ≠ .transmit ∧ wire.state ≠ .receive := by
  simp only [lead, List.flatten_append, List.mem_append] at h
  rcases h with (h | h) | h
  · revert wire
    cases first <;> cases again <;> decide
  · obtain ⟨period, hperiod, hmem⟩ := List.mem_flatten.mp h
    rw [List.eq_of_mem_replicate hperiod, held, List.mem_singleton] at hmem
    rw [hmem]
    decide
  · cases h

section Seen

open WireCall

variable (command : UInt8)

theorem flatten_sent_append (k : Nat) (rest : List WireCall) :
    (sent command (k + 1)).flatten ++ rest =
      (sent command k).flatten ++
        (raised command k ++ ⟨.transmit, .drive .pin5 .low⟩ :: rest) := by
  simp [sent]

theorem edges_sent_transmit (k : Nat) (data : Drive) (rest : List WireCall) :
    ∃ last, edges .transmit data ((sent command k).flatten ++ rest) =
      (List.range k).map (fun k => Drive.ofLevel (command.toNat.testBit k)) ++
        edges .transmit last rest := by
  induction k generalizing rest with
  | zero => exact ⟨data, rfl⟩
  | succ k ih =>
    obtain ⟨last, hsent⟩ := ih (raised command k ++ ⟨.transmit, .drive .pin5 .low⟩ :: rest)
    refine ⟨.ofLevel (command.toNat.testBit k), ?_⟩
    rw [flatten_sent_append, hsent, List.range_succ, List.map_append, List.append_assoc]
    rfl

theorem edges_sent_receive (k : Nat) (data : Drive) (rest : List WireCall) :
    ∃ last, edges .receive data ((sent command k).flatten ++ rest) = edges .receive last rest := by
  induction k generalizing rest with
  | zero => exact ⟨data, rfl⟩
  | succ k ih =>
    obtain ⟨last, hsent⟩ := ih (raised command k ++ ⟨.transmit, .drive .pin5 .low⟩ :: rest)
    exact ⟨.ofLevel (command.toNat.testBit k), by rw [flatten_sent_append, hsent]; rfl⟩

theorem edges_taken_transmit (levels : List Bool) (m : Nat) (data : Drive) :
    edges .transmit data (takenFrom m levels).flatten = [] := by
  induction levels generalizing m data with
  | nil => rfl
  | cons level rest ih =>
    rw [takenFrom, List.flatten_append, List.flatten_append, flatten_gap]
    exact ih (m + 1) .float

theorem edges_taken_receive (levels : List Bool) (m : Nat) (data : Drive) :
    edges .receive data (takenFrom m levels).flatten = List.replicate levels.length .float := by
  induction levels generalizing m data with
  | nil => rfl
  | cons level rest ih =>
    rw [takenFrom, List.flatten_append, List.flatten_append, flatten_gap]
    exact congrArg (Drive.float :: ·) (ih (m + 1) .float)

theorem readings_sent (k : Nat) : readings (sent command k).flatten = [] := by
  induction k with
  | zero => rfl
  | succ k ih =>
    rw [sent, List.flatten_append, readings_append, ih]
    rfl

theorem readings_taken (levels : List Bool) (m : Nat) :
    readings (takenFrom m levels).flatten = levels := by
  induction levels generalizing m with
  | nil => rfl
  | cons level rest ih =>
    rw [takenFrom, List.flatten_append, List.flatten_append, flatten_gap]
    exact congrArg (level :: ·) (ih (m + 1))

variable (delay : UInt16) (first again : Bool) (levels : List Bool) (data : Drive)

theorem flatten_whole : (whole delay command first again levels).flatten =
    (lead delay first again).flatten ++ ((sent command 8).flatten ++ (taken levels).flatten) := by
  simp [whole]

/-- The command goes out in eight rising edges, its lowest bit first. -/
theorem edges_transmit :
    edges .transmit data (whole delay command first again levels).flatten =
      (List.range 8).map fun k => Drive.ofLevel (command.toNat.testBit k) := by
  rw [flatten_whole, edges_append_of_clock data fun wire hmem =>
    ⟨(clock_of_mem_lead hmem).1, (clock_of_mem_lead hmem).2.1⟩]
  obtain ⟨last, hsent⟩ := edges_sent_transmit command 8 data (taken levels).flatten
  rw [hsent, taken, edges_taken_transmit, List.append_nil]

/-- The answer comes in at one rising edge for each level, with the data line released. -/
theorem edges_receive :
    edges .receive data (whole delay command first again levels).flatten =
      List.replicate levels.length .float := by
  rw [flatten_whole, edges_append_of_clock data fun wire hmem =>
    ⟨(clock_of_mem_lead hmem).1, (clock_of_mem_lead hmem).2.2⟩]
  obtain ⟨last, hsent⟩ := edges_sent_receive command 8 data (taken levels).flatten
  rw [hsent, taken, edges_taken_receive]

/-- Nothing but the levels of the answer is read on the data line. -/
theorem readings_whole : readings (whole delay command first again levels).flatten = levels := by
  have hlead : readings (lead delay first again).flatten = [] :=
    readings_of_clock fun wire hmem => (clock_of_mem_lead hmem).1
  rw [flatten_whole, readings_append, readings_append, hlead, readings_sent, taken, readings_taken]
  rfl

end Seen

end Script

end PlugWatch
