import PlugWatch.Proofs.Detection.OutputReturn
/-!
# The verdict on a steady load

While what is plugged into an output port does not change, the two measurements of pin 5 agree, and so
does the third one where it is taken. So the verdict is a function of the level on pin 5 and of pin 6,
it is there after a number of ticks that the delays say, and it stays.

## Main Definitions

* `OutputVerdict.settle` : what a decision of the output rules comes to if pin 5 shows one level.
* `loadVerdict` : the verdict on a load.
* `OutputState.Course` : a port on its way to the verdict, with the number of ticks that are left.

## Main Statements

* `OutputState.course_tick` : a tick brings the port one tick closer, or leaves it at its verdict.
* `OutputState.Course.shows` : at the end of the course stands the verdict.

## Design Notes

A loaded port starts the count of its release anew at every tick, and that tick counts. So a release
delay of one tick ends every connection at once, and the course asks for a longer one.
-/

namespace PlugWatch

/-! ## The verdict -/

/-- What is published about an output port: the classification, and the level of an actuator. -/
structure Load where
  verdict : Classification
  /-- The level on pin 5 that is published with it, in millivolts, if one is. -/
  actuatorMv : Option UInt16 := none
  deriving DecidableEq, Repr

/-- What a decision of the output rules comes to if every measurement of pin 5 gives one level. -/
def OutputVerdict.settle (mv : UInt16) : OutputVerdict → Load
  | .connect classification => { verdict := classification }
  | .actuator _ => { verdict := ⟨.unknown, .outputDumb⟩, actuatorMv := some mv }
  | .probeDriven => { verdict := ((firstMatch drivenRules ⟨mv⟩).map Rule.verdict).getD .none }

/-- The decision of the output rules on a port with a count on pin 5 and a level of pin 6. -/
def loadDecision (pin5 : UInt16) (pin6 : Bool) : Option OutputVerdict :=
  (firstMatch outputRules ⟨millivoltsOfCounts pin5, millivoltsOfCounts pin5, !pin6⟩).map Rule.verdict

/-- What is published about an output port with a count on pin 5 and a level of pin 6 that do not
change. -/
def loadVerdict (pin5 : UInt16) (pin6 : Bool) : Load :=
  if OutputScene.unbalanced pin5 || !pin6 then
    ((loadDecision pin5 pin6).map (OutputVerdict.settle (millivoltsOfCounts pin5))).getD
      { verdict := .none }
  else { verdict := .none }

/-- The conditions that a released port shows. -/
def loadConditions (pin5 : UInt16) (pin6 : Bool) : Conditions where
  pin6Low := !pin6
  loaded := OutputScene.unbalanced pin5

theorem loadConditions_isEmpty (pin5 : UInt16) (pin6 : Bool) :
    (loadConditions pin5 pin6).isEmpty = !(OutputScene.unbalanced pin5 || !pin6) := by
  unfold loadConditions
  cases OutputScene.unbalanced pin5 <;> cases pin6 <;> rfl

namespace OutputState

variable (config : DetectionConfig) (port : Port) (pin5 : UInt16) (pin6 : Bool)

/-- What is published about a port is the given load. -/
def Shows (load : Load) (state : OutputState) : Prop :=
  state.verdict = load.verdict ∧ ∀ mv ∈ load.actuatorMv, state.socket.actuatorMv = mv

/-! ## On the way to the verdict -/

/-- The ticks of the third measurement, where it is taken. -/
def drivenSpan : Nat :=
  if loadDecision pin5 pin6 = some .probeDriven then span config.lowTicks else 0

/-- The ticks from the first look at the released port to the verdict. -/
def loadTicks : Nat :=
  if (loadConditions pin5 pin6).isEmpty then 0
  else span config.connectTicks + span config.lowTicks + 1 + drivenSpan config pin5 pin6

/-- A port whose pin 6 is released and shows a level. -/
structure Open (state : OutputState) : Prop where
  level : state.lines.level.pin6 = pin6
  drive : state.lines.drive.pin6 = .float

/-- A port on its way to the verdict, with the number of ticks that are left. -/
inductive Course (n : Nat) (state : OutputState) : Prop where
  /-- Detection starts over. -/
  | start (hlevel : state.lines.level.pin6 = pin6) (hstage : state.stage = .init)
      (hn : n = 1 + span config.floatTicks + loadTicks config pin5 pin6)
  /-- The released pins settle. -/
  | settle (h : Open pin6 state) (hstage : state.stage = .floatingDelay)
      (hverdict : state.verdict = .none) (htimer : state.watch.timer.toNat < span config.floatTicks)
      (hn : n + state.watch.timer.toNat = span config.floatTicks + loadTicks config pin5 pin6)
  /-- The count of the conditions has not begun. -/
  | watch (h : Open pin6 state) (hstage : state.stage = .floating)
      (hverdict : state.verdict = .none) (htimer : state.watch.timer = 0)
      (hn : n = loadTicks config pin5 pin6)
  /-- The conditions of the load have been seen for some ticks. -/
  | hold (h : Open pin6 state) (hstage : state.stage = .floating)
      (hconditions : state.watch.conditions = loadConditions pin5 pin6)
      (hsome : (loadConditions pin5 pin6).isEmpty = false)
      (htimer : state.watch.timer.toNat < span config.connectTicks)
      (hn : n + state.watch.timer.toNat =
        span config.connectTicks + span config.lowTicks + 1 + drivenSpan config pin5 pin6)
  /-- Pin 5 has been measured once. -/
  | measure (h : Open pin6 state) (hstage : state.stage = .waitingForPin6Low)
      (hconditions : state.watch.conditions = loadConditions pin5 pin6)
      (hsome : (loadConditions pin5 pin6).isEmpty = false)
      (hfloat : state.watch.floatMv = millivoltsOfCounts pin5)
      (htimer : state.watch.timer.toNat < span config.lowTicks)
      (hn : n + state.watch.timer.toNat = span config.lowTicks + 1 + drivenSpan config pin5 pin6)
  /-- Pin 5 has been measured twice. -/
  | decide (h : Open pin6 state) (hstage : state.stage = .connection)
      (hsome : (loadConditions pin5 pin6).isEmpty = false)
      (hprobe : state.probe = ⟨millivoltsOfCounts pin5, millivoltsOfCounts pin5, !pin6⟩)
      (hn : n = 1 + drivenSpan config pin5 pin6)
  /-- Pin 5 is driven, to be measured a third time. -/
  | drive (h : Open pin6 state) (hstage : state.stage = .waitingForPin5Low)
      (hsome : (loadConditions pin5 pin6).isEmpty = false)
      (hdecision : loadDecision pin5 pin6 = some .probeDriven)
      (htimer : state.watch.timer.toNat < span config.lowTicks)
      (hn : n + state.watch.timer.toNat = span config.lowTicks)
  /-- The verdict is there, and the load does not look like a release. -/
  | stay (h : Open pin6 state) (hstage : state.stage = .connectedWaitingForPortOpen)
      (hsome : (loadConditions pin5 pin6).isEmpty = false)
      (hshows : state.Shows (loadVerdict pin5 pin6)) (hn : n = 0)

variable {config port pin5 pin6} {state : OutputState} {n : Nat}

theorem Open.reads (h : Open pin6 state) : state.socket.lines.read .pin6 = pin6 := by
  show (state.lines.drive.pin6).resolve state.lines.level.pin6 = pin6
  rw [h.drive, h.level]
  rfl

/-- An open port shows the conditions of its load. -/
theorem Open.conditionsNow (h : Open pin6 state) :
    state.conditionsNow pin5 = loadConditions pin5 pin6 := by
  unfold OutputState.conditionsNow OutputScene.conditionsNow
  rw [show (state.scene #[]).socket.lines.read .pin6 = pin6 from h.reads]
  rfl

/-- A port under a load looks as if a device were plugged. -/
theorem Open.loaded (h : Open pin6 state) :
    state.loaded pin5 = !(loadConditions pin5 pin6).isEmpty := by
  rw [OutputState.loaded, h.reads, loadConditions_isEmpty, Bool.not_not]

/-- Driving another pin leaves pin 6 open. -/
theorem Open.of_eq (h : Open pin6 state) {after : OutputState}
    (hlevel : after.lines.level = state.lines.level)
    (hdrive : after.lines.drive.pin6 = .float) : Open pin6 after :=
  ⟨by rw [hlevel, h.level], hdrive⟩

/-- A port without conditions has no verdict. -/
theorem loadVerdict_of_isEmpty (h : (loadConditions pin5 pin6).isEmpty = true) :
    loadVerdict pin5 pin6 = { verdict := .none } := by
  rw [loadConditions_isEmpty, Bool.not_eq_true'] at h
  rw [loadVerdict, h]
  rfl

/-- The verdict on a load is what the decision on it comes to. -/
theorem loadVerdict_of_decision (hsome : (loadConditions pin5 pin6).isEmpty = false)
    {decision : OutputVerdict} (hdecision : loadDecision pin5 pin6 = some decision) :
    loadVerdict pin5 pin6 = decision.settle (millivoltsOfCounts pin5) := by
  rw [loadConditions_isEmpty, Bool.not_eq_false'] at hsome
  rw [loadVerdict, hsome, hdecision]
  rfl

/-- At the end of the course stands the verdict. -/
theorem Course.shows (h : Course config pin5 pin6 0 state) :
    state.Shows (loadVerdict pin5 pin6) := by
  have hlow := span_pos config.lowTicks
  cases h with
  | start hlevel hstage hn => omega
  | settle h hstage hverdict htimer hn => omega
  | watch h hstage hverdict htimer hn =>
    unfold loadTicks at hn
    split at hn
    · rename_i hempty
      rw [loadVerdict_of_isEmpty hempty]
      exact ⟨hverdict, nofun⟩
    · omega
  | hold h hstage hconditions hsome htimer hn => omega
  | measure h hstage hconditions hsome hfloat htimer hn => omega
  | decide h hstage hsome hprobe hn => omega
  | drive h hstage hsome hdecision htimer hn => omega
  | stay h hstage hsome hshows hn => exact hshows

/-! ### One tick on the way -/

theorem course_start (hlevel : state.lines.level.pin6 = pin6) (hstage : state.stage = .init)
    (hn : n = 1 + span config.floatTicks + loadTicks config pin5 pin6) :
    Course config pin5 pin6 (n - 1) (state.tick config port pin5) := by
  have hspan := span_pos config.floatTicks
  rw [tick_init config port pin5 hstage]
  refine .settle ⟨hlevel, rfl⟩ rfl rfl hspan ?_
  show n - 1 + 0 = _
  omega

theorem course_settle (h : Open pin6 state) (hstage : state.stage = .floatingDelay)
    (hverdict : state.verdict = .none) (htimer : state.watch.timer.toNat < span config.floatTicks)
    (hn : n + state.watch.timer.toNat = span config.floatTicks + loadTicks config pin5 pin6) :
    Course config pin5 pin6 (n - 1) (state.tick config port pin5) := by
  rw [tick_floatingDelay config port pin5 hstage]
  rcases span_cases htimer with ⟨hover, hlast⟩ | ⟨hrest, hnext, hlt⟩
  · rw [if_pos hover]
    exact .watch (h.of_eq rfl h.drive) rfl hverdict rfl (by omega)
  · rw [if_neg hrest]
    refine .settle (h.of_eq rfl h.drive) hstage hverdict ?_ ?_
    · show (state.watch.timer + 1).toNat < _
      omega
    · show n - 1 + (state.watch.timer + 1).toNat = _
      omega

/-- A tick in which the conditions have been seen for a number of ticks that is not the last. -/
theorem course_seen (h : Open pin6 state) (hstage : state.stage = .floating)
    (hsome : (loadConditions pin5 pin6).isEmpty = false)
    (htimer : (state.see (loadConditions pin5 pin6)).watch.timer.toNat < span config.connectTicks)
    (hn : n + (state.see (loadConditions pin5 pin6)).watch.timer.toNat =
      span config.connectTicks + span config.lowTicks + 1 + drivenSpan config pin5 pin6) :
    Course config pin5 pin6 (n - 1) (state.tick config port pin5) := by
  have hlow := span_pos config.lowTicks
  rw [tick_floating config port pin5 hstage, h.conditionsNow]
  dsimp only
  rw [if_neg (by simp [hsome])]
  rcases span_cases htimer with ⟨hover, hlast⟩ | ⟨hrest, hnext, hlt⟩
  · rw [if_pos hover]
    refine .measure (h.of_eq rfl rfl) rfl rfl hsome rfl hlow ?_
    show n - 1 + 0 = _
    omega
  · rw [if_neg hrest]
    refine .hold (h.of_eq rfl h.drive) hstage rfl hsome ?_ ?_
    · show ((state.see (loadConditions pin5 pin6)).watch.timer + 1).toNat < _
      omega
    · show n - 1 + ((state.see (loadConditions pin5 pin6)).watch.timer + 1).toNat = _
      omega

theorem course_watch (h : Open pin6 state) (hstage : state.stage = .floating)
    (hverdict : state.verdict = .none)
    (htimer : state.watch.timer = 0) (hn : n = loadTicks config pin5 pin6) :
    Course config pin5 pin6 (n - 1) (state.tick config port pin5) := by
  have hspan := span_pos config.connectTicks
  have hsee : (state.see (loadConditions pin5 pin6)).watch.timer = 0 := by
    show (if _ then state.watch.timer else 0) = 0
    rw [htimer, ite_self]
  cases hempty : (loadConditions pin5 pin6).isEmpty with
  | true =>
    rw [loadTicks, if_pos hempty] at hn
    rw [tick_floating config port pin5 hstage, h.conditionsNow]
    dsimp only
    rw [if_pos hempty]
    refine .watch (h.of_eq rfl h.drive) hstage hverdict hsee ?_
    rw [loadTicks, if_pos hempty, hn]
  | false =>
    rw [loadTicks, if_neg (by simp [hempty])] at hn
    refine course_seen h hstage hempty ?_ ?_ <;> rw [hsee]
    · exact hspan
    · exact hn

theorem course_hold (h : Open pin6 state) (hstage : state.stage = .floating)
    (hconditions : state.watch.conditions = loadConditions pin5 pin6)
    (hsome : (loadConditions pin5 pin6).isEmpty = false)
    (htimer : state.watch.timer.toNat < span config.connectTicks)
    (hn : n + state.watch.timer.toNat =
      span config.connectTicks + span config.lowTicks + 1 + drivenSpan config pin5 pin6) :
    Course config pin5 pin6 (n - 1) (state.tick config port pin5) := by
  have hsee : (state.see (loadConditions pin5 pin6)).watch.timer = state.watch.timer :=
    if_pos hconditions.symm
  refine course_seen h hstage hsome ?_ ?_ <;> rw [hsee]
  · exact htimer
  · exact hn

/-- The second measurement agrees with the first one. -/
theorem course_measure (h : Open pin6 state) (hstage : state.stage = .waitingForPin6Low)
    (hconditions : state.watch.conditions = loadConditions pin5 pin6)
    (hsome : (loadConditions pin5 pin6).isEmpty = false)
    (hfloat : state.watch.floatMv = millivoltsOfCounts pin5)
    (htimer : state.watch.timer.toNat < span config.lowTicks)
    (hn : n + state.watch.timer.toNat = span config.lowTicks + 1 + drivenSpan config pin5 pin6) :
    Course config pin5 pin6 (n - 1) (state.tick config port pin5) := by
  rw [tick_waitingForPin6Low config port pin5 hstage]
  rcases span_cases htimer with ⟨hover, hlast⟩ | ⟨hrest, hnext, hlt⟩
  · rw [if_pos hover]
    refine .decide (h.of_eq rfl rfl) rfl hsome ?_ (by omega)
    show OutputProbe.mk state.watch.floatMv (millivoltsOfCounts pin5)
      state.watch.conditions.pin6Low = _
    rw [hfloat, hconditions]
    rfl
  · rw [if_neg hrest]
    refine .measure (h.of_eq rfl h.drive) hstage hconditions hsome hfloat ?_ ?_
    · show (state.watch.timer + 1).toNat < _
      omega
    · show n - 1 + (state.watch.timer + 1).toNat = _
      omega

/-- The rules decide, or ask for the third measurement. -/
theorem course_decide (h : Open pin6 state) (hstage : state.stage = .connection)
    (hsome : (loadConditions pin5 pin6).isEmpty = false)
    (hprobe : state.probe = ⟨millivoltsOfCounts pin5, millivoltsOfCounts pin5, !pin6⟩)
    (hn : n = 1 + drivenSpan config pin5 pin6) :
    Course config pin5 pin6 (n - 1) (state.tick config port pin5) := by
  have hlow := span_pos config.lowTicks
  obtain ⟨rule, -, hrule⟩ := exists_outputRule state.probe
  have hdecision : loadDecision pin5 pin6 = some rule.verdict := by
    rw [loadDecision, ← hprobe, hrule]
    rfl
  have hload := loadVerdict_of_decision hsome hdecision
  rw [tick_connection config port pin5 hstage hrule]
  unfold drivenSpan at hn
  cases hverdict : rule.verdict with
  | connect classification =>
    rw [hverdict] at hdecision hload
    rw [if_neg (by rw [hdecision]; nofun)] at hn
    refine .stay (h.of_eq rfl h.drive) rfl hsome ?_ (by omega)
    rw [hload]
    exact ⟨rfl, nofun⟩
  | actuator sample =>
    rw [hverdict] at hdecision hload
    rw [if_neg (by rw [hdecision]; nofun)] at hn
    refine .stay (h.of_eq rfl h.drive) rfl hsome ?_ (by omega)
    rw [hload]
    refine ⟨rfl, ?_⟩
    -- both measurements gave the level of pin 5
    rintro mv ⟨⟩
    show sample.of state.probe = millivoltsOfCounts pin5
    rw [hprobe]
    cases sample <;> rfl
  | probeDriven =>
    rw [hverdict] at hdecision
    rw [if_pos hdecision] at hn
    refine .drive (h.of_eq rfl h.drive) rfl hsome hdecision hlow ?_
    show n - 1 + 0 = _
    omega

/-- The third measurement finds the level of the first two. -/
theorem course_drive (h : Open pin6 state) (hstage : state.stage = .waitingForPin5Low)
    (hsome : (loadConditions pin5 pin6).isEmpty = false)
    (hdecision : loadDecision pin5 pin6 = some .probeDriven)
    (htimer : state.watch.timer.toNat < span config.lowTicks)
    (hn : n + state.watch.timer.toNat = span config.lowTicks) :
    Course config pin5 pin6 (n - 1) (state.tick config port pin5) := by
  obtain ⟨rule, -, hrule⟩ := exists_drivenRule ⟨millivoltsOfCounts pin5⟩
  rw [tick_waitingForPin5Low config port pin5 hstage hrule]
  rcases span_cases htimer with ⟨hover, hlast⟩ | ⟨hrest, hnext, hlt⟩
  · rw [if_pos hover]
    refine .stay (h.of_eq rfl h.drive) rfl hsome ?_ (by omega)
    rw [loadVerdict_of_decision hsome hdecision]
    refine ⟨?_, nofun⟩
    show rule.verdict = ((firstMatch drivenRules ⟨millivoltsOfCounts pin5⟩).map Rule.verdict).getD
      .none
    rw [hrule]
    rfl
  · rw [if_neg hrest]
    refine .drive (h.of_eq rfl h.drive) hstage hsome hdecision ?_ ?_
    · show (state.watch.timer + 1).toNat < _
      omega
    · show n - 1 + (state.watch.timer + 1).toNat = _
      omega

/-- A tick brings a port one tick closer to its verdict, or leaves it there. -/
theorem course_tick (hrelease : 1 < config.releaseTicks) (h : Course config pin5 pin6 n state) :
    Course config pin5 pin6 (n - 1) (state.tick config port pin5) := by
  cases h with
  | start hlevel hstage hn => exact course_start hlevel hstage hn
  | settle h hstage hverdict htimer hn =>
    exact course_settle h hstage hverdict htimer hn
  | watch h hstage hverdict htimer hn =>
    exact course_watch h hstage hverdict htimer hn
  | hold h hstage hconditions hsome htimer hn =>
    exact course_hold h hstage hconditions hsome htimer hn
  | measure h hstage hconditions hsome hfloat htimer hn =>
    exact course_measure h hstage hconditions hsome hfloat htimer hn
  | decide h hstage hsome hprobe hn => exact course_decide h hstage hsome hprobe hn
  | drive h hstage hsome hdecision htimer hn =>
    exact course_drive h hstage hsome hdecision htimer hn
  | stay h hstage hsome hshows hn =>
    rw [tick_connectedWaitingForPortOpen config port pin5 hstage]
    have hloaded : state.loaded pin5 = true := by rw [h.loaded, hsome]; rfl
    dsimp only
    rw [if_pos hloaded, if_neg (by
      rw [UInt16.le_iff_toNat_le]
      exact Nat.not_le.mpr hrelease)]
    exact .stay (h.of_eq rfl h.drive) rfl hsome hshows (by omega)

end OutputState

end PlugWatch
