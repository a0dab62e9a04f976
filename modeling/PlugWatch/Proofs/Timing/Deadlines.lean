import PlugWatch.Proofs.Run
/-!
# Deadlines

A run up to an instant takes the first job again and again. This file says what a run does as long as
a job is due, what a job does to the deadlines, and what they are at the start.

## Main Definitions

* `Job.rank`, `Clock.Precedes` : the order of the jobs at one instant, and of jobs with their instants.

## Main Statements

* `Controller.runUntil_of_ok` and its neighbours : a run by cases on its first job.
* `Controller.clock_of_runUntil_ok` : a run that works gets to its end, and past every deadline up to it.
* `Clock.next_precedes` : once the first job has run and its deadline has moved on, the next job is
  due later, or at the same instant and comes after it.
* `Controller.fresh_of_new`, `Controller.frame_request` : the deadlines at the start, and what leaves
  them alone.
-/

namespace PlugWatch

variable {α ε : Type}

/-! ## The order of jobs -/

namespace Job

/-- The place of a job among those of one instant. -/
def rank : Job → Nat
  | sample => 0
  | manage => 1
  | color => 2

theorem rank_inj {first second : Job} (h : first.rank = second.rank) : first = second := by
  cases first <;> cases second <;> first | rfl | cases h

end Job

namespace Clock

/-- The deadline of a job does not lie before the first one. -/
theorem next_le_due? (clock : Clock) {job : Job} {due : UInt64} (h : clock.due? job = some due) :
    clock.next.1 ≤ due := by
  cases job with
  | sample => exact Option.some.inj h ▸ clock.next_le_sampleDue
  | manage => exact Option.some.inj h ▸ clock.next_le_manageDue
  | color => exact clock.next_le_colorDue h

/-- Of the jobs that are due first the one that is taken is the first in order. -/
theorem rank_next_le (clock : Clock) {job : Job} (h : clock.due? job = some clock.next.1) :
    clock.next.2.rank ≤ job.rank := by
  unfold next at h ⊢
  cases hcolor : clock.colorDue <;> cases job <;> grind [due?, Job.rank]

/-- The first of two jobs with their instants comes first: it is due earlier, or at the same instant
and is first in order. -/
def Precedes (first second : UInt64 × Job) : Prop :=
  first.1 < second.1 ∨ (first.1 = second.1 ∧ first.2.rank < second.2.rank)

theorem Precedes.trans {first second third : UInt64 × Job} (h : Precedes first second)
    (h' : Precedes second third) : Precedes first third := by
  unfold Precedes at h h' ⊢
  grind

/-- A deadline that the first job does not move, or moves past the instant, belongs to a job that
comes behind it. -/
theorem precedes_of_due? {before after : Clock} {job : Job} {due : UInt64}
    (h : MovesOn before after before.next.2) (hdue : after.due? job = some due) :
    Precedes before.next (due, job) := by
  by_cases hown : job = before.next.2
  · subst hown
    exact .inl (h.own due hdue)
  · -- the job is another one, so its deadline is as it was or has moved past the instant
    have hkept : before.due? job = some due ∨ before.next.1 < due := by
      cases job with
      | sample =>
        cases hdue
        exact h.sample.imp (congrArg some ·.symm) id
      | manage =>
        cases hdue
        exact h.manage.imp (congrArg some ·.symm) id
      | color => exact h.color.imp (·.symm.trans hdue) (· due hdue)
    rcases hkept with hsame | hlater
    · rcases UInt64.lt_or_eq_of_le (before.next_le_due? hsame) with hlt | heq
      · exact .inl hlt
      · refine .inr ⟨heq, Nat.lt_of_le_of_ne (before.rank_next_le (heq ▸ hsame)) ?_⟩
        exact fun hrank => hown (Job.rank_inj hrank).symm
    · exact .inl hlater

/-- Once the first job has run and its deadline has moved on, the next job comes behind it. -/
theorem next_precedes {before after : Clock} (h : MovesOn before after before.next.2) :
    Precedes before.next after.next :=
  precedes_of_due? h after.due?_next

end Clock

namespace SamplerScene

variable [Converter α ε]

/-- Sending setup words changes nothing but the converter. -/
theorem sendSetup_snd (n : Nat) (scene : SamplerScene α) :
    ∃ adc, (scene.sendSetup n).2 = { scene with adc := adc } := by
  induction n generalizing scene with
  | zero => exact ⟨scene.adc, rfl⟩
  | succ n ih =>
    have hsnd := exchange_snd scene setupWord
    unfold sendSetup
    split
    · rename_i counts after hx
      rw [hx] at hsnd
      dsimp only at hsnd
      subst hsnd
      exact ih _
    · rename_i fault after hx
      rw [hx] at hsnd
      exact ⟨_, hsnd⟩

/-- Configuring the converter changes nothing but the converter and the journal. -/
theorem init_snd (scene : SamplerScene α) :
    ∃ adc journal, scene.init.2 = { scene with adc := adc, journal := journal } := by
  obtain ⟨adc, hsent⟩ := scene.sendSetup_snd setupCount
  unfold init
  split
  · rename_i after hx
    rw [hx] at hsent
    dsimp only at hsent ⊢
    rw [hsent]
    exact ⟨_, _, rfl⟩
  · rename_i fault after hx
    rw [hx] at hsent
    exact ⟨_, _, hsent⟩

end SamplerScene

namespace Controller

section Runs

variable [Converter α ε] {c after : Controller α} {target : UInt64}

/-! ## A run by its first job -/

theorem runUntil_of_lt (h : target < c.clock.next.1) :
    c.runUntil target =
      (.ok (), c.mapClock fun clock => { clock with now := max target clock.now }) := by
  rw [runUntil, dif_neg (UInt64.not_le.mpr h)]

theorem runUntil_of_ok (hle : c.clock.next.1 ≤ target)
    (hrun : c.runJob c.clock.next.1 c.clock.next.2 = (.ok (), after)) :
    c.runUntil target = after.runUntil target := by
  rw [runUntil, dif_pos hle]
  split
  · rename_i left hleft
    rw [hrun] at hleft
    cases hleft
    rfl
  · rename_i stop left hleft
    rw [hrun] at hleft
    cases hleft

theorem runUntil_of_error {stop : Stop ε} (hle : c.clock.next.1 ≤ target)
    (hrun : c.runJob c.clock.next.1 c.clock.next.2 = (.error stop, after)) :
    c.runUntil target = (.error stop, after) := by
  rw [runUntil, dif_pos hle]
  split
  · rename_i left hleft
    rw [hrun] at hleft
    cases hleft
  · rename_i stop' left hleft
    rw [hrun] at hleft
    cases hleft
    rfl

/-- A run that works leaves every deadline behind its end, and has come to its end. -/
theorem clock_of_runUntil_ok (h : (c.runUntil target).1 = .ok ()) :
    target < (c.runUntil target).2.clock.next.1 ∧ target ≤ (c.runUntil target).2.clock.now := by
  fun_induction runUntil c target with
  | case1 c hle after hrun ih => exact ih h
  | case2 c hle stop after hrun => cases h
  | case3 c hle =>
    refine ⟨UInt64.not_le.mp hle, ?_⟩
    rw [UInt64.le_iff_toNat_le]
    show target.toNat ≤ (max target c.clock.now).toNat
    rw [Clock.toNat_max]
    exact Nat.le_max_left _ _

/-- A job runs at the instant that it is given. -/
theorem now_runJob (c : Controller α) (instant : UInt64) (job : Job) :
    (c.runJob instant job).2.clock.now = instant := by
  cases job with
  | sample =>
    dsimp only [runJob]
    have hclock := clock_sampleTick (c.mapClock fun clock => { clock with now := instant })
    split
    · rename_i period left hburst
      rw [hburst] at hclock
      exact congrArg Clock.now hclock
    · rename_i fault left hburst
      rw [hburst] at hclock
      exact congrArg Clock.now hclock
  | manage => exact Clock.syncColor_now _ _ _
  | color =>
    dsimp only [runJob, syncColorTimer, mapClock]
    rw [Clock.syncColor_now, Clock.rearmColor, clock_colorTick]

/-! ## What leaves the deadlines alone -/

/-- What is no job leaves the deadlines and the thresholds alone, and the converter too unless it
replaces it. -/
theorem frame_request (c : Controller α) {step : Step α} (hjob : step.isJob = false) :
    (c.step step).clock = c.clock ∧ (c.step step).manager.config = c.manager.config ∧
      ((c.step step).adc = c.adc ∨ ∃ adc, step = .convert adc ∧ (c.step step).adc = adc) := by
  cases step with
  | sample => cases hjob
  | manage => cases hjob
  | color => cases hjob
  | time clock => cases hjob
  | force port classification =>
    obtain ⟨inputs, h⟩ := force_frame c port classification
    rw [Controller.step, h]
    exact ⟨rfl, rfl, .inl rfl⟩
  | request port command =>
    obtain ⟨inputs, h⟩ := requestCommand_frame c port command
    rw [Controller.step, h]
    exact ⟨rfl, rfl, .inl rfl⟩
  | testMode on => cases on <;> exact ⟨rfl, rfl, .inl rfl⟩
  | convert adc => exact ⟨rfl, rfl, .inr ⟨adc, rfl, rfl⟩⟩
  | note notice => exact ⟨rfl, rfl, .inl rfl⟩
  | enable port on => exact ⟨rfl, rfl, .inl rfl⟩
  | release port => exact ⟨rfl, rfl, .inl rfl⟩
  | drive port role drive => exact ⟨rfl, rfl, .inl rfl⟩
  | driveOutput port role drive => exact ⟨rfl, rfl, .inl rfl⟩
  | plug port level sensor => exact ⟨rfl, rfl, .inl rfl⟩
  | plugOutput port level => exact ⟨rfl, rfl, .inl rfl⟩

/-! ## The start -/

/-- A fresh controller stands in front of a cycle of the normal table, has the board as it was, and has
a link if it is to have one. -/
theorem parts_of_new {adc : α} {board : Board} {config : Config}
    (h : Controller.new adc board config = .ok c) :
    c.sampler = { config := config.sampler } ∧ c.board = board ∧
      c.link = if config.detection.legacyColor then some (ColorLink.ofConfig config.link) else none := by
  obtain ⟨ready, journal, hinit⟩ := SamplerScene.init_snd (α := α)
    ⟨{ config := config.sampler }, adc, board, #[]⟩
  unfold Controller.new at h
  dsimp only at h
  split at h
  · cases h
  · rename_i left hready
    rw [hready] at hinit
    cases h
    dsimp only at hinit ⊢
    rw [hinit]
    exact ⟨rfl, rfl, rfl⟩

/-- A fresh controller has its first burst ahead by the first pause, its first tick of the manager by
the tick length, and no bit timer. -/
theorem fresh_of_new {adc : α} {board : Board} {config : Config}
    (h : Controller.new adc board config = .ok c) :
    c.clock = { sampleDue := config.sampler.normal.clamped.short.toUInt64
                manageDue := config.detection.tickMicros.toUInt64 } ∧
      c.manager.config = config.detection := by
  have hsampler := (parts_of_new h).1
  unfold Controller.new at h
  dsimp only at h
  split at h
  · cases h
  · cases h
    dsimp only at hsampler ⊢
    rw [hsampler]
    exact ⟨rfl, rfl⟩

end Runs

end Controller

end PlugWatch
