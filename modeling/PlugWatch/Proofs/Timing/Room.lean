import PlugWatch.Proofs.Detection.Overflow
import PlugWatch.Proofs.Timing.Deadlines
/-!
# When a word is too short

A run stops where a word is too short for its next value. This file says when that can happen: a deadline
has no word only at instants less than 32 bits from the last one that there is, and a count of ticks is
full only with one of two limits set to the highest word there is. So with any other limits a run gets to
every instant that leaves room for one more period.

## Main Definitions

* `Overflow.Possible` : what it takes that a word is too short in a run up to an instant.
* `Controller.Bounded` : the counts of the manager are ones that it can have counted up to.

## Main Statements

* `Controller.Reachable.bounded` : the counts of every controller that can be reached are.
* `Controller.possible_of_runUntil` : a run that stops at a word that is too short had cause to.
* `Controller.runUntil_last_ne_ok` : no run gets to the last instant, since no deadline is past it.
-/

namespace PlugWatch

variable {α ε : Type}

/-- What it takes that a word is too short in a run up to an instant: an instant less than 32 bits from the
last one, or a count with a limit that is the highest word. -/
def Overflow.Possible (config : DetectionConfig) (target : UInt64) : Overflow → Prop
  | deadline => UInt64.size < target.toNat + UInt32.size
  | count => config.colorTimeoutTicks = 65535 ∨ config.lowTicks = 65535

theorem Overflow.Possible.mono {config : DetectionConfig} {first second : UInt64} {word : Overflow}
    (h : word.Possible config first) (hle : first ≤ second) : word.Possible config second := by
  cases word with
  | deadline =>
    have hle := UInt64.le_iff_toNat_le.mp hle
    exact Nat.lt_of_lt_of_le h (Nat.add_le_add_right hle _)
  | count => exact h

/-- With room for one more period and limits below the highest word no word is too short. -/
theorem Overflow.not_possible {config : DetectionConfig} {target : UInt64}
    (hroom : target.toNat + UInt32.size ≤ UInt64.size) (hcolor : config.colorTimeoutTicks ≠ 65535)
    (hlow : config.lowTicks ≠ 65535) (word : Overflow) : ¬ word.Possible config target := by
  cases word with
  | deadline => exact Nat.not_lt.mpr hroom
  | count => exact not_or.mpr ⟨hcolor, hlow⟩

theorem Clock.possible_of_overflow? {config : DetectionConfig} {instant : UInt64} {period : UInt32}
    {word : Overflow} (h : overflow? instant period = some word) : word.Possible config instant := by
  obtain ⟨rfl, hlate⟩ := overflow?_eq_some h
  exact Nat.lt_of_le_of_lt hlate (Nat.add_lt_add_left (UInt32.toNat_lt period) _)

namespace Station

variable {κ : Type} {s after : Station κ} {config : DetectionConfig}

/-- The bounds are a matter of the manager alone. -/
theorem Bounded.of_manager (h : s.Bounded config) (hmanager : after.1 = s.1) : after.Bounded config := by
  refine ⟨?_, ?_, ?_, fun port => ?_⟩
  · rw [hmanager]
    exact h.config_eq
  · rw [hmanager]
    exact h.holdoff
  · rw [hmanager]
    exact h.input
  · have hwatch : (after.output port).watch = (s.output port).watch :=
      congrArg (fun manager : Manager => manager.outputs.get port) hmanager
    have hport := h.output port
    unfold OutputState.Bounded OutputState.stage at hport ⊢
    rw [hwatch]
    exact hport

/-- Within the bounds a count can be full only with one of the two highest limits. -/
theorem possible_of_overflows [ColorProtocol κ] (h : s.Bounded config)
    (hfull : s.1.overflows s.2 = true) (target : UInt64) :
    Overflow.count.Possible config target := by
  rcases (overflows_eq_true_iff s).mp hfull with hgate | ⟨port, hinput | houtput⟩
  · exact absurd hgate (not_holdOffOverflows h)
  · exact .inl ((inputOverflows_iff h).mp hinput).2.1
  · exact .inr ((outputOverflows_iff h).mp houtput).2.1

end Station

namespace Controller

/-! ## The counts of a controller -/

/-- The manager of a controller with what it shares. -/
def station (c : Controller α) : Station ColorLink := (c.manager, ⟨c.board, c.link, c.journal⟩)

/-- The counts of the manager are ones that it can have counted up to. -/
def Bounded (c : Controller α) : Prop := c.station.Bounded c.manager.config

theorem Bounded.of_manager {c after : Controller α} (h : c.Bounded)
    (hmanager : after.manager = c.manager) : after.Bounded := by
  unfold Bounded at h ⊢
  rw [hmanager]
  exact Station.Bounded.of_manager h hmanager

/-- What happens to a manager keeps the bounds. -/
theorem Bounded.of_act {c after : Controller α} (h : c.Bounded) (act : Station.Act ColorLink)
    (hmanager : after.manager = (c.station.act act).1) : after.Bounded := by
  have hconfig : after.manager.config = c.manager.config :=
    (congrArg Manager.config hmanager).trans (Station.config_act act)
  unfold Bounded at h ⊢
  rw [hconfig]
  exact (Station.bounded_act h act).of_manager hmanager

variable [Converter α ε] {c after : Controller α}

/-- Every step keeps the bounds. -/
theorem bounded_step (h : c.Bounded) (step : Step α) : (c.step step).Bounded := by
  cases step with
  | manage => exact h.of_act .tick rfl
  | enable port on => exact h.of_act (.enable port on) rfl
  | request port command =>
    refine h.of_act (.request port command) ?_
    show (c.requestCommand port command).2.manager = _
    unfold Controller.requestCommand Station.act station
    dsimp only
    cases c.manager.requestCommand? port command <;> rfl
  | testMode on =>
    refine h.of_act (.testMode on) ?_
    cases on <;> rfl
  | color => exact h.of_manager (manager_colorTick c)
  | force port classification =>
    obtain ⟨inputs, hforce⟩ := force_frame c port classification
    refine h.of_manager ?_
    rw [Controller.step, hforce]
  | sample | time clock | note notice | release port | drive port role drive
  | driveOutput port role drive | plug port level sensor | plugOutput port level | convert adc =>
    exact h.of_manager rfl

theorem bounded_steps (h : c.Bounded) (run : List (Step α)) : (c.steps run).Bounded :=
  steps_preserves (P := Bounded) run (fun h step _ => bounded_step h step) h

theorem bounded_runJob (h : c.Bounded) (instant : UInt64) (job : Job) :
    (c.runJob instant job).2.Bounded := by
  obtain ⟨jobs, -, hsteps⟩ := runJob_eq_steps c instant job
  rw [hsteps]
  exact bounded_steps h jobs

theorem bounded_runUntil (h : c.Bounded) (target : UInt64) : (c.runUntil target).2.Bounded := by
  obtain ⟨jobs, -, hsteps⟩ := runUntil_eq_steps c target
  rw [hsteps]
  exact bounded_steps h jobs

/-- A fresh manager has counted nothing. -/
theorem bounded_of_fresh {config : DetectionConfig} (h : c.manager = { config := config }) :
    c.Bounded := by
  unfold Bounded
  rw [h]
  exact (Station.bounded_fresh config c.link).of_manager h

theorem Reachable.bounded (h : c.Reachable) : c.Bounded := by
  induction h with
  | @new adc board config c h =>
    refine bounded_of_fresh (show c.manager = { config := config.detection } from ?_)
    unfold Controller.new at h
    dsimp only at h
    split at h
    · cases h
    · cases h
      rfl
  | step h step ih => exact bounded_step ih step

/-! ## Jobs and runs that stop -/

theorem possible_of_managerOverflow? (h : c.Bounded) {word : Overflow}
    (hstop : c.managerOverflow? = some word) : word.Possible c.manager.config c.clock.now := by
  unfold managerOverflow? at hstop
  split at hstop
  · rename_i hfull
    cases hstop
    exact Station.possible_of_overflows (s := c.station) h hfull _
  · unfold Clock.syncOverflow? at hstop
    split at hstop
    · exact Clock.possible_of_overflow? hstop
    · cases hstop

/-- The first job finds a word too short only where that is possible at its instant. -/
theorem possible_of_runJob (h : c.Bounded) {word : Overflow}
    (hstop : Stop.overflow? (c.runJob c.clock.next.1 c.clock.next.2).1 = some word) :
    word.Possible c.manager.config c.clock.next.1 := by
  have hdue := c.clock.due?_next
  cases hjob : c.clock.next.2 with
  | sample =>
    rw [hjob] at hstop hdue
    dsimp only [runJob] at hstop
    split at hstop
    · rename_i period left hburst
      have hclock : left.clock = { c.clock with now := c.clock.next.1 } :=
        (congrArg (fun run => run.2.clock) hburst).symm
      rw [Stop.overflow?_check, hclock,
        show c.clock.sampleDue = c.clock.next.1 from Option.some.inj hdue] at hstop
      exact Clock.possible_of_overflow? hstop
    · cases hstop
  | manage =>
    rw [hjob] at hstop hdue
    rw [runJob, Stop.overflow?_check] at hstop
    rcases Option.or_eq_some_iff.mp hstop with htick | ⟨-, hlate⟩
    · exact possible_of_managerOverflow?
        (c := c.mapClock fun clock => { clock with now := c.clock.next.1 }) (h.of_manager rfl) htick
    · have hlate : Clock.overflow? c.clock.manageDue c.manager.config.tickMicros = some word := hlate
      rw [show c.clock.manageDue = c.clock.next.1 from Option.some.inj hdue] at hlate
      exact Clock.possible_of_overflow? hlate
  | color =>
    rw [hjob, runJob, Stop.overflow?_check] at hstop
    exact Clock.possible_of_overflow? hstop

/-- The limits of the counts are the same for ever. -/
theorem config_step (c : Controller α) (step : Step α) :
    (c.step step).manager.config = c.manager.config := by
  cases hjob : step.isJob with
  | false => exact (c.frame_request hjob).2.1
  | true =>
    cases step with
    | manage => exact (frame_managerTick c).1
    | color => exact congrArg Manager.config (manager_colorTick c)
    | sample | time clock => rfl
    | _ => cases hjob

theorem config_steps (c : Controller α) (run : List (Step α)) :
    (c.steps run).manager.config = c.manager.config :=
  steps_preserves (P := fun after : Controller α => after.manager.config = c.manager.config) run
    (fun {after} h step _ => (config_step after step).trans h) rfl

theorem config_runJob (c : Controller α) (instant : UInt64) (job : Job) :
    (c.runJob instant job).2.manager.config = c.manager.config := by
  obtain ⟨jobs, -, hsteps⟩ := runJob_eq_steps c instant job
  rw [hsteps]
  exact config_steps c jobs

theorem config_runUntil (c : Controller α) (target : UInt64) :
    (c.runUntil target).2.manager.config = c.manager.config := by
  obtain ⟨jobs, -, hsteps⟩ := runUntil_eq_steps c target
  rw [hsteps]
  exact config_steps c jobs

/-- **A run finds a word too short only where that is possible at its end.** -/
theorem possible_of_runUntil (h : c.Bounded) {target : UInt64} {word : Overflow}
    (hstop : Stop.overflow? (c.runUntil target).1 = some word) :
    word.Possible c.manager.config target := by
  fun_induction runUntil c target with
  | case1 c hle after hrun ih =>
    have hkept := bounded_runJob h c.clock.next.1 c.clock.next.2
    have hconfig := config_runJob c c.clock.next.1 c.clock.next.2
    rw [hrun] at hkept hconfig
    exact hconfig ▸ ih hkept hstop
  | case2 c hle stop after hrun =>
    refine (possible_of_runJob h ?_).mono hle
    rw [hrun]
    exact hstop
  | case3 c hle => cases hstop

/-- No run gets to the last instant: one over a converter that does not fail goes on until a word is too
short. -/
theorem runUntil_last_ne_ok (c : Controller α) :
    (c.runUntil 0xFFFFFFFFFFFFFFFF).1 ≠ .ok () := by
  intro hok
  have hlater := UInt64.lt_iff_toNat_lt.mp (clock_of_runUntil_ok hok).1
  exact absurd (UInt64.toNat_lt_size _) (Nat.not_lt.mpr hlater)

end Controller

end PlugWatch
