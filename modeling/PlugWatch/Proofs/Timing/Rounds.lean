import Mathlib.Algebra.GroupWithZero.Nat
import PlugWatch.Proofs.Sampling.Stint
import PlugWatch.Proofs.Timing.JobLog
/-!
# How many jobs a run takes

No single deadline shows that a run up to an instant comes to its end. The earliest one may stay where
it is for three jobs, the deadline of the bit timer vanishes and comes back, and it is set ahead of the
present instant and not of its old value. What holds of all of them is this: behind a job that worked
every deadline belongs to a job that comes later in order, and no later job of the run undoes that. So
the jobs of a run stand in strict order, and there are three places for them at each instant. All this is
about deadlines that have an instant; where one has none, the run stops.

## Main Definitions

* `Clock.place` : the place of a job with its instant among all jobs at all instants.
* `Clock.Behind` : every deadline belongs to a job behind a given one.
* `Controller.runWithin` : the loop of a run with a bound on its rounds.

## Main Statements

* `Controller.behind_runJob`, `Controller.behind_replay` : what lies behind a job stays behind it, job
  by job and in a run.
* `Controller.runWithin_eq` : the loop takes as many rounds as the log has jobs.
* `Controller.catching_up_ends` : how many jobs a run takes, when each is due again, and how many words
  a burst exchanges.
-/

namespace PlugWatch

variable {α ε : Type}

/-! ## The order of jobs -/

theorem Job.rank_lt (job : Job) : job.rank < 3 := by cases job <;> decide

namespace Clock

/-- The place of a job with its instant: there are three to an instant. -/
def place (slot : UInt64 × Job) : Nat := 3 * slot.1.toNat + slot.2.rank

theorem precedes_iff_place_lt {first second : UInt64 × Job} :
    Precedes first second ↔ place first < place second := by
  have hfirst := first.2.rank_lt
  have hsecond := second.2.rank_lt
  unfold Precedes place
  rw [UInt64.lt_iff_toNat_lt, ← UInt64.toNat_inj]
  omega

/-- Of one job only an earlier instant comes first. -/
theorem Precedes.lt {first second : UInt64 × Job} (h : Precedes first second)
    (hjob : first.2 = second.2) : first.1 < second.1 := by
  rcases h with hlt | ⟨-, hrank⟩
  · exact hlt
  · rw [hjob] at hrank
    exact absurd hrank (Nat.lt_irrefl _)

/-- Every deadline belongs to a job that comes behind the given one. -/
def Behind (slot : UInt64 × Job) (clock : Clock) : Prop :=
  ∀ job due, clock.due? job = some due → Precedes slot (due, job)

theorem Behind.next {slot : UInt64 × Job} {clock : Clock} (h : Behind slot clock) :
    Precedes slot clock.next :=
  h _ _ clock.due?_next

/-- Bringing the bit timer in line sets its deadline a period ahead, if it sets it. -/
theorem colorDue_syncColor (clock : Clock) {wanted : Bool} {period : UInt32} {due : UInt64}
    (hfits : clock.syncOverflow? wanted period = none)
    (h : (clock.syncColor wanted period).colorDue = some due) :
    clock.colorDue = some due ∨ due.toNat = clock.now.toNat + period.toNat := by
  unfold syncColor at h
  unfold syncOverflow? at hfits
  split at h
  · rename_i hwanted hidle
    rw [hidle] at hfits
    exact .inr (Option.some.inj h ▸ toNat_after hfits)
  · cases h
  · exact .inl h

end Clock

theorem JobRun.pause_lt (run : JobRun ε) : run.pause < UInt32.size := by
  unfold pause
  split
  · exact UInt32.toNat_lt _
  · decide

theorem JobRun.pause_eq_zero {run : JobRun ε} (h : run.outcome.job ≠ .sample) : run.pause = 0 := by
  unfold pause
  cases houtcome : run.outcome with
  | burst period => exact absurd (congrArg Outcome.job houtcome) h
  | _ => rfl

namespace Controller

variable [Converter α ε] {c after : Controller α} {target : UInt64}

/-! ## What one job does to the deadlines -/

/-- What lies behind a job stays behind it when the first job is run, whether that meets a fault or
not. -/
theorem behind_runJob {slot : UInt64 × Job} (h : c.clock.Behind slot)
    (hfits : c.nextRun.overflow? = none) :
    (c.runJob c.clock.next.1 c.clock.next.2).2.clock.Behind slot := by
  rcases hrun : c.runJob c.clock.next.1 c.clock.next.2 with ⟨(fault | word) | _, after⟩
  · intro job due hdue
    rw [(runJob_fault hrun).1] at hdue
    refine h job due ?_
    cases job <;> exact hdue
  · rw [nextRun, hrun] at hfits
    cases hfits
  · intro job due hdue
    exact h.next.trans (Clock.precedes_of_due? (runJob_movesOn hrun) hdue)

/-- When the first job works, every deadline lies behind it, its own one too. -/
theorem behind_of_ok (h : c.runJob c.clock.next.1 c.clock.next.2 = (.ok (), after)) :
    after.clock.Behind c.clock.next :=
  fun _ _ hdue => Clock.precedes_of_due? (runJob_movesOn h) hdue

/-- The deadline of the bit timer stays, vanishes, or is set a period ahead of the instant. -/
theorem colorDue_runJob {instant : UInt64} {job : Job} {due : UInt64}
    (hfits : Stop.overflow? (c.runJob instant job).1 = none)
    (h : (c.runJob instant job).2.clock.colorDue = some due) :
    c.clock.colorDue = some due ∨ due.toNat = instant.toNat + c.linkConfig.period.toNat := by
  cases job with
  | sample =>
    left
    rcases hburst : (c.mapClock fun clock => { clock with now := instant }).sampleTick
      with ⟨fault | period, left⟩
    · rw [(runJob_sample_error hburst).1] at h
      rwa [clock_of_sampleTick hburst] at h
    · rw [(runJob_sample_ok hburst).1] at h
      have hclock := congrArg Clock.colorDue (clock_of_sampleTick hburst)
      exact hclock.symm.trans h
  | manage =>
    rw [runJob, Stop.overflow?_check] at hfits
    have htick := syncOverflow?_of_managerOverflow? (Option.or_eq_none_iff.mp hfits).1
    exact Clock.colorDue_syncColor { c.clock with now := instant } htick h
  | color =>
    have hclock := clock_colorTick (c.mapClock fun clock => { clock with now := instant })
    have hconfig := linkConfig_colorTick (c.mapClock fun clock => { clock with now := instant })
    rw [runJob, Stop.overflow?_check] at hfits
    right
    dsimp only [runJob, syncColorTimer, mapClock] at h hclock hconfig
    have hset := Clock.colorDue_syncColor _ (Clock.syncOverflow?_of_armed rfl _ _) h
    rw [hclock, hconfig] at hset
    rcases hset with hrearmed | hset
    · exact Option.some.inj hrearmed ▸ Clock.toNat_after hfits
    · exact hset

/-- A deadline that the first job sets lies less than 32 bits ahead of its instant. -/
theorem due_runJob {job : Job} {due : UInt64} (hfits : c.nextRun.overflow? = none)
    (h : (c.runJob c.clock.next.1 c.clock.next.2).2.clock.due? job = some due) :
    c.clock.due? job = some due ∨ due.toNat < c.clock.next.1.toNat + UInt32.size := by
  obtain ⟨hsample, hmanage⟩ := c.dues_runJob c.clock.next.1 c.clock.next.2 hfits
  have hrun : c.nextRun = ⟨c.clock.next.1, c.outcome c.clock.next.1 c.clock.next.2, _⟩ := rfl
  have hjob : c.nextRun.outcome.job = c.clock.next.2 := congrArg Prod.snd c.slot_nextRun
  have hdue := c.clock.due?_next
  rw [← hrun] at hsample hmanage
  rw [← hjob] at hdue
  cases job with
  | sample =>
    cases h
    by_cases hburst : c.nextRun.outcome.job = .sample
    · right
      rw [hburst] at hdue
      rw [hsample, Option.some.inj hdue]
      exact Nat.add_lt_add_left (JobRun.pause_lt _) _
    · left
      rw [JobRun.pause_eq_zero hburst] at hsample
      exact congrArg some (UInt64.toNat_inj.mp hsample.symm)
  | manage =>
    cases h
    split at hmanage
    · rename_i htick
      right
      have hmanager : c.nextRun.outcome.job = .manage :=
        congrArg Prod.snd (JobRun.job_of_isTick htick)
      rw [hmanager] at hdue
      rw [hmanage, Option.some.inj hdue]
      exact Nat.add_lt_add_left (UInt32.toNat_lt _) _
    · exact .inl (congrArg some (UInt64.toNat_inj.mp hmanage.symm))
  | color =>
    refine (colorDue_runJob hfits h).imp_right fun heq => ?_
    rw [heq]
    exact Nat.add_lt_add_left (UInt32.toNat_lt _) _

/-! ## Runs -/

/-- The jobs of a run stand in strict order, from the first one due up to the end of the run. -/
theorem slots_log (c : Controller α) (target : UInt64) :
    (∀ run ∈ c.log target, Clock.place c.clock.next ≤ Clock.place run.slot ∧ run.due ≤ target) ∧
      (c.log target).Pairwise fun earlier later => Clock.Precedes earlier.slot later.slot := by
  fun_induction log c target with
  | case1 c hle after hrun ih =>
    have hplace := Clock.precedes_iff_place_lt.mp (behind_of_ok hrun).next
    refine ⟨fun run hmem => ?_, List.pairwise_cons.mpr ⟨fun run hmem => ?_, ih.2⟩⟩
    · rcases List.mem_cons.mp hmem with rfl | hrest
      · rw [slot_nextRun]
        exact ⟨Nat.le_refl _, hle⟩
      · obtain ⟨hlater, htarget⟩ := ih.1 run hrest
        exact ⟨by omega, htarget⟩
    · rw [slot_nextRun, Clock.precedes_iff_place_lt]
      exact Nat.lt_of_lt_of_le hplace (ih.1 run hmem).1
  | case2 c hle stop after hrun =>
    refine ⟨fun run hmem => ?_, List.pairwise_singleton _ _⟩
    rw [List.mem_singleton.mp hmem, slot_nextRun]
    exact ⟨Nat.le_refl _, hle⟩
  | case3 c hle => exact ⟨nofun, .nil⟩

/-- Each job of a run takes a place that no other job takes, and there are three places to an
instant. -/
theorem length_log_le (c : Controller α) (target : UInt64) :
    (c.log target).length ≤ 3 * (target.toNat + 1 - c.clock.next.1.toNat) := by
  suffices h : (c.log target).length ≤ 3 * (target.toNat + 1) - Clock.place c.clock.next by
    have hplace : 3 * c.clock.next.1.toNat ≤ Clock.place c.clock.next := Nat.le_add_right _ _
    omega
  fun_induction log c target with
  | case1 c hle after hrun ih =>
    have hplace := Clock.precedes_iff_place_lt.mp (behind_of_ok hrun).next
    have hrank := c.clock.next.2.rank_lt
    have hle := UInt64.le_iff_toNat_le.mp hle
    rw [List.length_cons]
    unfold Clock.place at *
    omega
  | case2 c hle stop after hrun =>
    have hrank := c.clock.next.2.rank_lt
    have hle := UInt64.le_iff_toNat_le.mp hle
    rw [List.length_singleton]
    unfold Clock.place
    omega
  | case3 c hle => exact Nat.zero_le _

/-- The loop of a run with a bound on its rounds; `none` if the bound is reached with jobs still due. -/
def runWithin (rounds : Nat) (c : Controller α) (target : UInt64) :
    Option (Except (Stop ε) Unit × Controller α) :=
  if c.clock.next.1 ≤ target then
    match rounds with
    | 0 => none
    | rounds + 1 =>
      match c.runJob c.clock.next.1 c.clock.next.2 with
      | (.ok (), after) => after.runWithin rounds target
      | (.error stop, after) => some (.error stop, after)
  else some (.ok (), c.mapClock fun clock => { clock with now := max target clock.now })

/-- The loop takes a round for each job of the log, and no more. -/
theorem runWithin_eq (rounds : Nat) (c : Controller α) (target : UInt64) :
    c.runWithin rounds target =
      if (c.log target).length ≤ rounds then some (c.runUntil target) else none := by
  induction rounds generalizing c with
  | zero =>
    unfold runWithin
    by_cases hle : c.clock.next.1 ≤ target
    · have hsome : ¬(c.log target).length ≤ 0 := by
        rcases hrun : c.runJob c.clock.next.1 c.clock.next.2 with ⟨stop | _, after⟩
        · rw [log_of_error hle hrun]
          exact Nat.not_succ_le_zero _
        · rw [log_of_ok hle hrun]
          exact Nat.not_succ_le_zero _
      rw [if_pos hle, if_neg hsome]
    · have hlt := UInt64.not_le.mp hle
      rw [if_neg hle, log_of_lt hlt, runUntil_of_lt hlt]
      rfl
  | succ rounds ih =>
    unfold runWithin
    by_cases hle : c.clock.next.1 ≤ target
    · rw [if_pos hle]
      rcases hrun : c.runJob c.clock.next.1 c.clock.next.2 with ⟨stop | _, after⟩
      · rw [log_of_error hle hrun, runUntil_of_error hle hrun, List.length_singleton,
          if_pos (Nat.le_add_left _ _)]
      · rw [log_of_ok hle hrun, runUntil_of_ok hle hrun, List.length_cons]
        dsimp only
        rw [ih]
        simp only [Nat.add_le_add_iff_right]
    · have hlt := UInt64.not_le.mp hle
      rw [if_neg hle, log_of_lt hlt, runUntil_of_lt hlt]
      rfl

/-! ## The deadlines throughout a run -/

/-- The first job of a log is the one that is due, and the rest is a part of the log behind it. -/
theorem cons_prefix_log {run : JobRun ε} {rest : List (JobRun ε)} (h : run :: rest <+: c.log target) :
    run = c.nextRun ∧ c.clock.next.1 ≤ target ∧
      rest <+: (c.runJob c.clock.next.1 c.clock.next.2).2.log target := by
  by_cases hle : c.clock.next.1 ≤ target
  · rcases hrun : c.runJob c.clock.next.1 c.clock.next.2 with ⟨stop | _, after⟩
    · -- what stops a run ends it, so there is nothing behind it
      rw [log_of_error hle hrun] at h
      obtain ⟨hfirst, hrest⟩ := List.cons_prefix_cons.mp h
      rw [List.prefix_nil.mp hrest]
      exact ⟨hfirst, hle, List.nil_prefix⟩
    · rw [log_of_ok hle hrun] at h
      obtain ⟨hfirst, hrest⟩ := List.cons_prefix_cons.mp h
      exact ⟨hfirst, hle, hrest⟩
  · rw [log_of_lt (UInt64.not_le.mp hle)] at h
    cases List.prefix_nil.mp h

/-- What the first job keeps, as long as all words are long enough, each part of a run keeps. -/
theorem replay_preserves {P : Controller α → Prop}
    (hjob : ∀ {c : Controller α}, P c → c.clock.next.1 ≤ target →
      (c.nextRun : JobRun ε).overflow? = none → P (c.runJob c.clock.next.1 c.clock.next.2).2)
    {jobs : List (JobRun ε)} (hjobs : jobs <+: c.log target)
    (hfits : ∀ run ∈ jobs, run.overflow? = none) (h : P c) : P (c.replay jobs) := by
  induction jobs generalizing c with
  | nil => exact h
  | cons run rest ih =>
    obtain ⟨rfl, hle, hrest⟩ := cons_prefix_log hjobs
    obtain ⟨hfirst, hfits⟩ := List.forall_mem_cons.mp hfits
    rw [replay_nextRun]
    exact ih hrest hfits (hjob h hle hfirst)

/-- A part of a log stands at the beginning of the log from there on. -/
theorem prefix_log_replay {before rest : List (JobRun ε)} (h : before ++ rest <+: c.log target) :
    rest <+: (c.replay before).log target := by
  induction before generalizing c with
  | nil => exact h
  | cons run before ih =>
    obtain ⟨rfl, -, hrest⟩ := cons_prefix_log h
    rw [replay_nextRun]
    exact ih hrest

theorem replay_append (c : Controller α) (before rest : List (JobRun ε)) :
    c.replay (before ++ rest) = (c.replay before).replay rest :=
  List.foldl_append

/-- What lies behind a job stays behind it throughout a run. -/
theorem behind_replay {slot : UInt64 × Job} {jobs : List (JobRun ε)} (hjobs : jobs <+: c.log target)
    (hfits : ∀ run ∈ jobs, run.overflow? = none) (h : c.clock.Behind slot) :
    (c.replay jobs).clock.Behind slot :=
  replay_preserves (P := fun c => c.clock.Behind slot) (fun h _ hfits => behind_runJob h hfits) hjobs
    hfits h

/-- The next deadline of a job that worked lies strictly behind the instant it ran at, however much
longer the run goes on. -/
theorem due_lt_of_worked {before seen : List (JobRun ε)} {run : JobRun ε}
    (hjobs : before ++ run :: seen <+: c.log target) (hworked : run.failed = false)
    (hfits : ∀ job ∈ run :: seen, job.overflow? = none) {due : UInt64}
    (hdue : (c.replay (before ++ run :: seen)).clock.due? run.outcome.job = some due) :
    run.due < due := by
  obtain ⟨rfl, hle, hseen⟩ := cons_prefix_log (prefix_log_replay hjobs)
  obtain ⟨hfirst, hfits⟩ := List.forall_mem_cons.mp hfits
  rw [replay_append, replay_nextRun] at hdue
  have hslot := (c.replay before).slot_nextRun
  rcases hrun : (c.replay before).runJob (c.replay before).clock.next.1
      (c.replay before).clock.next.2 with ⟨(fault | word) | _, after⟩
  · rw [(runJob_fault hrun).2] at hworked
    cases hworked
  · rw [nextRun, hrun] at hfirst
    cases hfirst
  · rw [hrun] at hdue hseen
    have hbehind := behind_replay hseen hfits (behind_of_ok hrun)
    rw [← hslot] at hbehind
    exact (hbehind _ _ hdue).lt rfl

/-- Every deadline in a run was there from the beginning, or lies less than 32 bits behind the end of the
run. -/
theorem due_lt_of_replay {jobs : List (JobRun ε)} (hjobs : jobs <+: c.log target)
    (hfits : ∀ run ∈ jobs, run.overflow? = none) {job : Job} {due : UInt64}
    (hdue : (c.replay jobs).clock.due? job = some due) :
    c.clock.due? job = some due ∨ due.toNat < target.toNat + UInt32.size := by
  refine replay_preserves (P := fun left => ∀ job due, left.clock.due? job = some due →
    c.clock.due? job = some due ∨ due.toNat < target.toNat + UInt32.size) ?_ hjobs hfits
    (fun _ _ h => .inl h) job due hdue
  intro left h hle hfits job due hdue
  have hle := UInt64.le_iff_toNat_le.mp hle
  rcases due_runJob hfits hdue with hsame | hset
  · exact h job due hsame
  · exact .inr (by omega)

/-- A word that was too short for a job of a run is what stopped the run. -/
theorem stop_of_overflow {run : JobRun ε} (hmem : run ∈ c.log target) {word : Overflow}
    (hword : run.overflow? = some word) : Stop.overflow? (c.runUntil target).1 = some word := by
  fun_induction log c target with
  | case1 c hle after hrun ih =>
    rw [runUntil_of_ok hle hrun]
    rcases List.mem_cons.mp hmem with rfl | hrest
    · rw [nextRun, hrun] at hword
      cases hword
    · exact ih hrest
  | case2 c hle stop after hrun =>
    rw [runUntil_of_error hle hrun]
    rw [List.mem_singleton.mp hmem, nextRun, hrun] at hword
    exact hword
  | case3 c hle => cases hmem

/-! ## Bursts of a run -/

theorem Reachable.replay (h : c.Reachable) (jobs : List (JobRun ε)) : (c.replay jobs).Reachable := by
  refine List.foldlRecOn jobs _ h fun left h run _ => ?_
  obtain ⟨steps, -, hsteps⟩ := runJob_eq_steps left run.due run.outcome.job
  rw [hsteps]
  exact h.steps steps

/-- The converter behind a burst of a run. -/
theorem adc_runJob_sample (c : Controller α) (instant : UInt64) :
    (c.runJob instant .sample).2.adc = c.samplerScene.burst.2.adc := by
  have hburst : (c.mapClock fun clock => { clock with now := instant }).sampleTick.2.adc =
      c.samplerScene.burst.2.adc := rfl
  rcases htick : (c.mapClock fun clock => { clock with now := instant }).sampleTick
    with ⟨fault | period, left⟩
  · rw [(runJob_sample_error htick).1, ← hburst, htick]
  · rw [(runJob_sample_ok htick).1, ← hburst, htick]
    rfl

/-- A burst of a run that did not fail worked. -/
theorem burst_of_not_failed {c : Controller α} (hnext : c.clock.next.2 = .sample)
    (hworked : c.nextRun.failed = false) : ∃ period, c.samplerScene.burst.1 = .ok period := by
  have hburst : (c.mapClock fun clock => { clock with now := c.clock.next.1 }).sampleTick.1 =
      c.samplerScene.burst.1 := rfl
  rcases htick : (c.mapClock fun clock => { clock with now := c.clock.next.1 }).sampleTick
    with ⟨fault | period, left⟩
  · have houtcome : c.nextRun.outcome = .fault fault := by
      rw [nextRun, hnext, (runJob_sample_error htick).2]
    rw [JobRun.failed, houtcome] at hworked
    cases hworked
  · rw [htick] at hburst
    exact ⟨period, hburst.symm⟩

/-- **Catching up always ends.** Take any controller that can be reached, with any configuration, and run
it up to any instant. The run takes at most three jobs for each microsecond from the earliest deadline to
that instant, one that stops it included, and a loop that is allowed as many rounds comes to its end. No
job runs twice at one instant: once it has worked, its next deadline is strictly later, at every later
point of the run, also if the bit timer is disarmed and armed again. No deadline is set more than 32 bits
behind the end of the run. A word that is too short for a job stops the run, and is possible only close to
the last instant or with a limit that is the highest word. And each burst exchanges at most fifteen words
with the converter, and stops at an entry that asks for a pause, if it works. -/
theorem catching_up_ends (h : c.Reachable) (target : UInt64) :
    let jobs : List (JobRun ε) := c.log target
    let rounds := 3 * (target.toNat + 1 - c.clock.next.1.toNat)
    c.runWithin rounds target = some (c.runUntil target) ∧ jobs.length ≤ rounds ∧
      (jobs.Pairwise fun earlier later =>
        earlier.outcome.job = later.outcome.job → earlier.due < later.due) ∧
      (∀ before run seen, before ++ run :: seen <+: jobs → run.failed = false →
        (∀ job ∈ run :: seen, job.overflow? = none) →
          ∀ due, (c.replay (before ++ run :: seen)).clock.due? run.outcome.job = some due →
            run.due < due) ∧
      (∀ seen, seen <+: jobs → (∀ run ∈ seen, run.overflow? = none) →
        ∀ job due, (c.replay seen).clock.due? job = some due →
          c.clock.due? job = some due ∨ due.toNat < target.toNat + UInt32.size) ∧
      (∀ run ∈ jobs, ∀ word, run.overflow? = some word →
        (c.runUntil target).1 = .error (.overflow word) ∧
          word.Possible c.manager.config target) ∧
      ∀ before run, before ++ [run] <+: jobs → run.outcome.job = .sample →
        let scene := (c.replay before).samplerScene
        (c.replay (before ++ [run])).adc = afterWords (c.replay before).adc scene.burstWords ∧
          scene.burstWords.length ≤ 15 ∧
          (run.failed = false →
            ∃ last, scene.burstDeliveries.getLast? = some last ∧ last.entry.pause ≠ .none) := by
  intro jobs rounds
  have hlength := c.length_log_le target
  refine ⟨?_, hlength, ?_, fun before run seen hjobs hworked hfits due =>
    due_lt_of_worked hjobs hworked hfits, fun seen hseen hfits job due =>
    due_lt_of_replay hseen hfits, fun run hmem word hword => ?_, ?_⟩
  · rw [runWithin_eq, if_pos hlength]
  · exact (slots_log c target).2.imp fun hprecedes => hprecedes.lt
  · have hstop := stop_of_overflow hmem hword
    exact ⟨Stop.overflow?_eq_some_iff.mp hstop, possible_of_runUntil h.bounded hstop⟩
  · intro before run hjobs hjob scene
    obtain ⟨rfl, -, -⟩ := cons_prefix_log (prefix_log_replay hjobs)
    obtain ⟨hadc, hwords, hpause⟩ := SamplerScene.burst_sends (h.replay before).onTable
    have hnext : (c.replay before).clock.next.2 = .sample :=
      (congrArg Prod.snd (c.replay before).slot_nextRun).symm.trans hjob
    refine ⟨?_, hwords, fun hworked => ?_⟩
    · rw [replay_append, replay_nextRun, hnext]
      exact (adc_runJob_sample _ _).trans hadc
    · obtain ⟨period, hok⟩ := burst_of_not_failed hnext hworked
      exact hpause period hok

/-- With every period at zero the clamps leave a burst for each microsecond, and the first tick of the
manager a millisecond ahead. The run up to the third microsecond stays within nine jobs. -/
theorem catching_up_ends_zero_periods :
    ∃ fresh : Controller Multiplexer,
      Controller.new {} {} {
        detection := { tickMs := 0 }
        sampler := { normal := ⟨0, 0⟩, color := ⟨0, 0⟩ }
        link := { timerMicros := 0 } } = .ok fresh ∧
        fresh.clock.next = (1, .sample) ∧ fresh.runWithin 9 3 = some (fresh.runUntil 3) ∧
        (fresh.log 3).length ≤ 9 := by
  obtain ⟨fresh, hnew, hnext⟩ : ∃ fresh : Controller Multiplexer,
      Controller.new {} {} {
        detection := { tickMs := 0 }
        sampler := { normal := ⟨0, 0⟩, color := ⟨0, 0⟩ }
        link := { timerMicros := 0 } } = .ok fresh ∧ fresh.clock.next = (1, .sample) :=
    ⟨_, rfl, rfl⟩
  obtain ⟨hloop, hlength, -⟩ := catching_up_ends (.new hnew) 3
  rw [hnext] at hloop hlength
  exact ⟨fresh, hnew, hnext, hloop, hlength⟩

end Controller

end PlugWatch
