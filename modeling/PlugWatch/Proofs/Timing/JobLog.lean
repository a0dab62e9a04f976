import PlugWatch.Proofs.Timing.Subdivision
/-!
# The log of the jobs

A controller catches up with the clock in many calls, and some of them end early with a fault of the
converter. This file writes down which jobs the calls run, and proves that over all calls together
the jobs keep to the deadlines: nothing is lost, repeated or out of order. A word that is too short is
the end of all calls; what was run up to there has kept to the deadlines as well.

## Main Definitions

* `JobRun` : a job that was run, with the instant at which it was due and what came of it.
* `Controller.log` : the jobs of one run up to an instant.
* `CatchUp` : a call to catch up, behind requests of user space and changes in the world.
* `Controller.catchUps`, `Controller.history` : what calls in a row leave, and their jobs.
* `Controller.InOrder` : a log in which no job is lost, repeated or out of order.
* `Controller.Accounts` : how the deadlines follow from the jobs so far.

## Main Statements

* `Controller.replay_log` : a run up to an instant does what its log says, and nothing else.
* `Controller.accounts_runJob`, `Controller.accounts_history` : a job, and so any number of calls,
  keeps the accounts, as long as all words are long enough.
* `Controller.inOrder_history` : the log is in order in any case.
* `Controller.jobs_keep_time` : the jobs are in order, a burst is due behind the pauses so far, and a
  call that works has run as many ticks of the manager as tick lengths have passed.
-/

namespace PlugWatch

variable {α ε : Type}

/-! ## Jobs that were run -/

/-- What came of a job. -/
inductive Outcome (ε : Type) where
  /-- A burst that worked, and the pause behind it. -/
  | burst (period : UInt32)
  /-- A burst that failed. -/
  | fault (fault : ε)
  | manage
  | color

/-- The job of an outcome. -/
def Outcome.job : Outcome ε → Job
  | burst _ | fault _ => .sample
  | manage => .manage
  | color => .color

/-- A job that was run. -/
structure JobRun (ε : Type) where
  /-- The instant at which the job was due. -/
  due : UInt64
  outcome : Outcome ε
  /-- The word that was too short for the job, if there was one. -/
  overflow? : Option Overflow

namespace JobRun

/-- The job, with the instant at which it was due. -/
def slot (run : JobRun ε) : UInt64 × Job := (run.due, run.outcome.job)

/-- By how much the job moves the next burst on. -/
def pause (run : JobRun ε) : Nat :=
  match run.outcome with
  | .burst period => period.toNat
  | _ => 0

/-- Whether the job is a tick of the manager. -/
def isTick (run : JobRun ε) : Bool :=
  match run.outcome with
  | .manage => true
  | _ => false

/-- Whether the job is a burst that failed. -/
def failed (run : JobRun ε) : Bool :=
  match run.outcome with
  | .fault _ => true
  | _ => false

/-- A job has its turn before another one: it was due earlier, or at the same instant and is first in
order. Only a burst that failed has its turn again. -/
def Leads (run : JobRun ε) (slot : UInt64 × Job) : Prop :=
  Clock.Precedes run.slot slot ∨ (run.failed = true ∧ run.slot = slot)

theorem job_of_isTick {run : JobRun ε} (h : run.isTick = true) : run.slot = (run.due, .manage) := by
  obtain ⟨due, outcome⟩ := run
  cases outcome with
  | manage => rfl
  | _ => cases h

theorem Leads.trans {run : JobRun ε} {first second : UInt64 × Job} (h : run.Leads first)
    (hprecedes : Clock.Precedes first second) : run.Leads second := by
  left
  rcases h with h | ⟨-, h⟩
  · exact h.trans hprecedes
  · rw [h]
    exact hprecedes

/-- The pauses behind the bursts of a log, taken together. -/
def pauses (log : List (JobRun ε)) : Nat := log.foldl (fun total run => total + run.pause) 0

/-- The number of ticks of the manager in a log. -/
def ticks (log : List (JobRun ε)) : Nat := log.countP isTick

theorem pauses_concat (log : List (JobRun ε)) (run : JobRun ε) :
    pauses (log ++ [run]) = pauses log + run.pause :=
  List.foldl_append

theorem ticks_concat (log : List (JobRun ε)) (run : JobRun ε) :
    ticks (log ++ [run]) = ticks log + if run.isTick then 1 else 0 := by
  simp [ticks, List.countP_append, List.countP_singleton]

end JobRun

namespace Controller

variable [Converter α ε]

/-! ## The log of a run -/

/-- What comes of a job at an instant. -/
def outcome (c : Controller α) (instant : UInt64) : Job → Outcome ε
  | .sample =>
    match (c.mapClock fun clock => { clock with now := instant }).sampleTick.1 with
    | .ok period => .burst period
    | .error fault => .fault fault
  | .manage => .manage
  | .color => .color

/-- The job that is due first, as it is about to be run. -/
def nextRun (c : Controller α) : JobRun ε :=
  ⟨c.clock.next.1, c.outcome c.clock.next.1 c.clock.next.2,
    Stop.overflow? (c.runJob c.clock.next.1 c.clock.next.2).1⟩

/-- The jobs of a run up to an instant. The one that stops a run is the last. -/
def log (c : Controller α) (target : UInt64) : List (JobRun ε) :=
  if _hle : c.clock.next.1 ≤ target then
    match _hr : c.runJob c.clock.next.1 c.clock.next.2 with
    | (.ok (), after) => c.nextRun :: after.log target
    | (.error _, _) => [c.nextRun]
  else []
termination_by (target.toNat + 1 - c.clock.next.1.toNat, c.clock.pendingAt c.clock.next.1)
decreasing_by exact Clock.measure_decreases (runJob_movesOn _hr) _hle

theorem slot_nextRun (c : Controller α) : c.nextRun.slot = c.clock.next := by
  unfold nextRun JobRun.slot outcome
  refine Prod.ext rfl ?_
  dsimp only
  split <;> rename_i hjob <;> rw [hjob]
  · split <;> rfl
  · rfl
  · rfl

section Log

variable {c after : Controller α} {target : UInt64}

theorem log_of_lt (h : target < c.clock.next.1) : c.log target = [] := by
  rw [log, dif_neg (UInt64.not_le.mpr h)]

theorem log_of_ok (hle : c.clock.next.1 ≤ target)
    (hrun : c.runJob c.clock.next.1 c.clock.next.2 = (.ok (), after)) :
    c.log target = c.nextRun :: after.log target := by
  rw [log, dif_pos hle]
  split
  · rename_i left hleft
    rw [hrun] at hleft
    cases hleft
    rfl
  · rename_i stop left hleft
    rw [hrun] at hleft
    cases hleft

theorem log_of_error {stop : Stop ε} (hle : c.clock.next.1 ≤ target)
    (hrun : c.runJob c.clock.next.1 c.clock.next.2 = (.error stop, after)) :
    c.log target = [c.nextRun] := by
  rw [log, dif_pos hle]
  split
  · rename_i left hleft
    rw [hrun] at hleft
    cases hleft
  · rfl

/-- Runs the jobs of a log, each at the instant at which it was due. -/
def replay (c : Controller α) (log : List (JobRun ε)) : Controller α :=
  log.foldl (fun c run => (c.runJob run.due run.outcome.job).2) c

theorem replay_nextRun (c : Controller α) (rest : List (JobRun ε)) :
    c.replay (c.nextRun :: rest) = (c.runJob c.clock.next.1 c.clock.next.2).2.replay rest := by
  have hjob : c.nextRun.outcome.job = c.clock.next.2 := congrArg Prod.snd c.slot_nextRun
  show ((c.runJob c.nextRun.due c.nextRun.outcome.job).2).replay rest = _
  rw [hjob]
  rfl

/-- A run up to an instant does what its log says. Behind that the present instant is the end of the
run, if the run works. -/
theorem replay_log (c : Controller α) (target : UInt64) :
    (c.runUntil target).2 =
      (c.replay (c.log target)).mapClock fun clock =>
        { clock with
          now := match (c.runUntil target).1 with
            | .ok () => max target clock.now
            | .error _ => clock.now } := by
  fun_induction runUntil c target with
  | case1 c hle after hrun ih =>
    rw [log_of_ok hle hrun, replay_nextRun, hrun]
    exact ih
  | case2 c hle stop after hrun =>
    rw [log_of_error hle hrun, replay_nextRun, hrun]
    rfl
  | case3 c hle =>
    rw [log_of_lt (UInt64.not_le.mp hle)]
    rfl

end Log

/-! ## Calls in a row -/

/-- What user space and the world do between two calls. -/
def Request (α : Type) : Type := { step : Step α // step.isJob = false }

/-- A call to catch up with the clock, behind requests of user space and changes in the world. -/
structure CatchUp (α : Type) where
  requests : List (Request α) := []
  target : UInt64

/-- Carries out requests, one after the other. -/
def request (c : Controller α) (requests : List (Request α)) : Controller α :=
  c.steps (requests.map Subtype.val)

/-- Carries out a call. -/
def catchUp (c : Controller α) (call : CatchUp α) : Except (Stop ε) Unit × Controller α :=
  (c.request call.requests).runUntil call.target

/-- What calls in a row leave. A call that meets a fault is followed by the next one; there is none behind
a word that is too short. -/
def catchUps : List (CatchUp α) → Controller α → Except Overflow (Controller α)
  | [], c => .ok c
  | call :: rest, c =>
    match Stop.overflow? (c.catchUp call).1 with
    | some word => .error word
    | none => catchUps rest (c.catchUp call).2

/-- The jobs of calls in a row. -/
def history : List (CatchUp α) → Controller α → List (JobRun ε)
  | [], _ => []
  | call :: rest, c =>
    (c.request call.requests).log call.target ++
      match Stop.overflow? (c.catchUp call).1 with
      | some _ => []
      | none => history rest (c.catchUp call).2

section Calls

variable {c left : Controller α} {call : CatchUp α}

theorem catchUps_of_overflow {word : Overflow} (h : Stop.overflow? (c.catchUp call).1 = some word)
    (rest : List (CatchUp α)) :
    catchUps (call :: rest) c = .error word ∧
      history (call :: rest) c = (c.request call.requests).log call.target := by
  rw [catchUps, history, h]
  exact ⟨rfl, List.append_nil _⟩

theorem catchUps_of_fits (h : Stop.overflow? (c.catchUp call).1 = none)
    (rest : List (CatchUp α)) :
    catchUps (call :: rest) c = catchUps rest (c.catchUp call).2 ∧
      history (call :: rest) c =
        (c.request call.requests).log call.target ++ history rest (c.catchUp call).2 := by
  rw [catchUps, history, h]
  exact ⟨rfl, rfl⟩

theorem history_concat {calls : List (CatchUp α)} (h : catchUps calls c = .ok left)
    (call : CatchUp α) :
    history (calls ++ [call]) c =
      history calls c ++ (left.request call.requests).log call.target := by
  induction calls generalizing c with
  | nil =>
    obtain rfl : c = left := Except.ok.inj h
    rw [List.nil_append]
    cases hstop : Stop.overflow? (c.catchUp call).1 with
    | some word => exact (catchUps_of_overflow hstop []).2
    | none =>
      rw [(catchUps_of_fits hstop []).2]
      exact List.append_nil _
  | cons first rest ih =>
    cases hstop : Stop.overflow? (c.catchUp first).1 with
    | some word =>
      rw [(catchUps_of_overflow hstop rest).1] at h
      cases h
    | none =>
      rw [(catchUps_of_fits hstop rest).1] at h
      rw [List.cons_append, (catchUps_of_fits hstop (rest ++ [call])).2,
        (catchUps_of_fits hstop rest).2, ih h, List.append_assoc]

end Calls

/-! ## Keeping the accounts -/

open JobRun

/-- A log in which nothing is lost, repeated or out of order, given the first pause: every job has its turn
before those behind it, and a burst is due behind the pauses so far. -/
structure InOrder (first : Nat) (log : List (JobRun ε)) : Prop where
  ordered : log.Pairwise fun earlier later => earlier.Leads later.slot
  punctual : ∀ before run after, log = before ++ run :: after → run.outcome.job = .sample →
    run.due.toNat = first + pauses before

/-- How the deadlines of a controller follow from the jobs that it has run, given the first pause and
the tick length. -/
structure Accounts (first tick : Nat) (c : Controller α) (log : List (JobRun ε)) : Prop where
  tickLength : c.manager.config.tickMicros.toNat = tick
  /-- The next burst is due behind the first pause and all pauses since. -/
  sample : c.clock.sampleDue.toNat = first + pauses log
  manage : c.clock.manageDue.toNat = (ticks log + 1) * tick
  /-- The present instant is not past a deadline, nor in front of a tick that was run. -/
  now : c.clock.now ≤ c.clock.next.1
  reached : ticks log * tick ≤ c.clock.now.toNat
  inOrder : InOrder first log
  /-- What was run has its turn before what is due. -/
  pending : ∀ run ∈ log, run.Leads c.clock.next

section Sample

variable {c left : Controller α} {instant : UInt64}

theorem runJob_sample_ok {period : UInt32}
    (h : (c.mapClock fun clock => { clock with now := instant }).sampleTick = (.ok period, left)) :
    c.runJob instant .sample =
        (Stop.check (Clock.overflow? left.clock.sampleDue period),
          left.mapClock fun clock => clock.delaySample period) ∧
      (c.outcome instant .sample : Outcome ε) = .burst period := by
  dsimp only [runJob, outcome]
  rw [h]
  exact ⟨rfl, rfl⟩

theorem runJob_sample_error {fault : ε}
    (h : (c.mapClock fun clock => { clock with now := instant }).sampleTick
      = (.error fault, left)) :
    c.runJob instant .sample = (.error (.fault fault), left) ∧
      (c.outcome instant .sample : Outcome ε) = .fault fault := by
  dsimp only [runJob, outcome]
  rw [h]
  exact ⟨rfl, rfl⟩

/-- A burst leaves the deadlines alone. -/
theorem clock_of_sampleTick {result : Except ε UInt32}
    (h : (c.mapClock fun clock => { clock with now := instant }).sampleTick = (result, left)) :
    left.clock = { c.clock with now := instant } := by
  have hleft := congrArg Prod.snd h
  dsimp only at hleft
  rw [← hleft]
  rfl

end Sample

/-- A job moves the next burst on by its pause, and the next tick by the tick length if it is a
tick. -/
theorem dues_runJob (c : Controller α) (instant : UInt64) (job : Job)
    (hfits : Stop.overflow? (c.runJob instant job).1 = none) :
    let run : JobRun ε := ⟨instant, c.outcome instant job, Stop.overflow? (c.runJob instant job).1⟩
    let after := (c.runJob instant job).2
    after.clock.sampleDue.toNat = c.clock.sampleDue.toNat + run.pause ∧
      after.clock.manageDue.toNat =
        c.clock.manageDue.toNat + (if run.isTick then c.manager.config.tickMicros.toNat else 0) := by
  intro run after
  cases job with
  | sample =>
    rcases hburst : (c.mapClock fun clock => { clock with now := instant }).sampleTick
      with ⟨fault | period, left⟩
    · have hclock := clock_of_sampleTick hburst
      obtain ⟨hrun, houtcome⟩ := runJob_sample_error hburst
      have hpause : run.pause = 0 := by simp only [run, pause, houtcome]
      have htick : run.isTick = false := by simp only [run, isTick, houtcome]
      simp only [after, hrun, hclock, hpause, htick]
      exact ⟨rfl, rfl⟩
    · have hclock := clock_of_sampleTick hburst
      obtain ⟨hrun, houtcome⟩ := runJob_sample_ok hburst
      have hpause : run.pause = period.toNat := by simp only [run, pause, houtcome]
      have htick : run.isTick = false := by simp only [run, isTick, houtcome]
      rw [hrun, Stop.overflow?_check, hclock] at hfits
      simp only [after, hrun, mapClock, hclock, hpause, htick]
      exact ⟨Clock.toNat_after hfits, rfl⟩
  | manage =>
    rw [runJob, Stop.overflow?_check] at hfits
    obtain ⟨-, hfits⟩ := Option.or_eq_none_iff.mp hfits
    have hmanage : after.clock.manageDue =
        Clock.after c.clock.manageDue c.manager.config.tickMicros :=
      congrArg (Clock.after · c.manager.config.tickMicros) (Clock.syncColor_manageDue _ _ _)
    refine ⟨congrArg UInt64.toNat (Clock.syncColor_sampleDue _ _ _), ?_⟩
    rw [hmanage]
    exact Clock.toNat_after hfits
  | color =>
    have hclock := clock_colorTick (c.mapClock fun clock => { clock with now := instant })
    have hsample := congrArg Clock.sampleDue hclock
    have hmanage := congrArg Clock.manageDue hclock
    refine ⟨congrArg UInt64.toNat ?_, congrArg UInt64.toNat ?_⟩
    · exact (Clock.syncColor_sampleDue _ _ _).trans hsample
    · exact (Clock.syncColor_manageDue _ _ _).trans hmanage

/-- A burst that fails leaves all deadlines as they are, so that its turn is taken again. -/
theorem runJob_fault {c left : Controller α} {fault : ε}
    (h : c.runJob c.clock.next.1 c.clock.next.2 = (.error (.fault fault), left)) :
    left.clock = { c.clock with now := c.clock.next.1 } ∧ c.nextRun.failed = true := by
  have hresult := congrArg Prod.fst h
  cases hjob : c.clock.next.2 with
  | sample =>
    rw [hjob] at h hresult
    rcases hburst : (c.mapClock fun clock => { clock with now := c.clock.next.1 }).sampleTick
      with ⟨fault' | period, walked⟩
    · obtain ⟨hrun, houtcome⟩ := runJob_sample_error hburst
      rw [hrun] at h
      cases h
      refine ⟨clock_of_sampleTick hburst, ?_⟩
      simp only [nextRun, JobRun.failed, hjob, houtcome]
    · rw [(runJob_sample_ok hburst).1] at hresult
      exact absurd hresult (Stop.check_ne_fault _ fault)
  | manage =>
    rw [hjob] at hresult
    exact absurd hresult (Stop.check_ne_fault _ fault)
  | color =>
    rw [hjob] at hresult
    exact absurd hresult (Stop.check_ne_fault _ fault)

/-- Of a log that has grown by one job, a part ends with that job or was there before. -/
theorem concat_eq_append_cons {β : Type} {log before after : List β} {latest entry : β}
    (h : log ++ [latest] = before ++ entry :: after) :
    (log = before ∧ latest = entry) ∨ ∃ after', log = before ++ entry :: after' := by
  rcases List.eq_nil_or_concat after with hnil | ⟨after', last, hlast⟩
  · subst hnil
    obtain ⟨hlog, hentry⟩ := List.append_inj' h rfl
    exact .inl ⟨hlog, List.head_eq_of_cons_eq hentry⟩
  · subst hlast
    rw [List.concat_eq_append, ← List.cons_append, ← List.append_assoc] at h
    exact .inr ⟨after', (List.append_inj' h rfl).1⟩

section Accounts

variable {first tick : Nat} {c : Controller α} {log : List (JobRun ε)}

/-- The job that is due first comes in its order, whatever comes of it. -/
theorem inOrder_nextRun (h : Accounts first tick c log) : InOrder first (log ++ [c.nextRun]) := by
  have hslot : c.nextRun.slot = c.clock.next := c.slot_nextRun
  refine ⟨?_, fun before run after hsplit hjob => ?_⟩
  · rw [List.pairwise_append]
    refine ⟨h.inOrder.ordered, List.pairwise_singleton _ _, fun run hmem latest hlatest => ?_⟩
    rw [List.mem_singleton.mp hlatest, hslot]
    exact h.pending run hmem
  · rcases concat_eq_append_cons hsplit with ⟨rfl, rfl⟩ | ⟨after', hlog⟩
    · -- a burst that is run is due at its deadline
      have hdue := c.clock.due?_next
      rw [← hslot, JobRun.slot, hjob] at hdue
      exact (congrArg UInt64.toNat (Option.some.inj hdue)).symm.trans h.sample
    · exact h.inOrder.punctual before run after' hlog hjob

/-- **A job keeps the accounts**, whether it meets a fault or not. -/
theorem accounts_runJob (h : Accounts first tick c log)
    (hfits : c.nextRun.overflow? = none) :
    Accounts first tick (c.runJob c.clock.next.1 c.clock.next.2).2 (log ++ [c.nextRun]) := by
  obtain ⟨hsample, hmanage⟩ := c.dues_runJob c.clock.next.1 c.clock.next.2 hfits
  have hnow := c.now_runJob c.clock.next.1 c.clock.next.2
  have hslot : c.nextRun.slot = c.clock.next := c.slot_nextRun
  -- the next job comes behind the one that was run, or is that one again
  have hturn : c.nextRun.Leads (c.runJob c.clock.next.1 c.clock.next.2).2.clock.next ∧
      ∀ run ∈ log, run.Leads (c.runJob c.clock.next.1 c.clock.next.2).2.clock.next := by
    rcases hrun : c.runJob c.clock.next.1 c.clock.next.2 with ⟨(fault | word) | _, left⟩
    · obtain ⟨hclock, hfailed⟩ := runJob_fault hrun
      dsimp only
      rw [hclock]
      exact ⟨.inr ⟨hfailed, hslot⟩, h.pending⟩
    · rw [nextRun, hrun] at hfits
      cases hfits
    · have hbehind := Clock.next_precedes (runJob_movesOn hrun)
      exact ⟨.inl (hslot ▸ hbehind), fun run hmem => (h.pending run hmem).trans hbehind⟩
  refine ⟨?_, ?_, ?_, ?_, ?_, inOrder_nextRun h, ?_⟩
  · rw [config_runJob]
    exact h.tickLength
  · rw [hsample, h.sample, pauses_concat, Nat.add_assoc]
    rfl
  · rw [hmanage, h.manage, h.tickLength, ticks_concat]
    show _ + (if c.nextRun.isTick then tick else 0) = _
    split
    · rw [Nat.add_mul (ticks log + 1), Nat.one_mul]
    · rfl
  · rw [hnow]
    rcases hturn.1 with (hlater | hsame) | ⟨-, hagain⟩
    · exact UInt64.le_of_lt hlater
    · exact UInt64.le_of_eq hsame.1
    · exact UInt64.le_of_eq (congrArg Prod.fst (hslot.symm.trans hagain))
  · rw [hnow, ticks_concat]
    split
    · -- a tick that is run is due at its deadline
      rename_i htick
      have hdue := c.clock.due?_next
      rw [← hslot, job_of_isTick htick] at hdue
      rw [← h.manage]
      exact Nat.le_of_eq (congrArg UInt64.toNat (Option.some.inj hdue))
    · exact Nat.le_trans h.reached (UInt64.le_iff_toNat_le.mp h.now)
  · intro run hmem
    rcases List.mem_append.mp hmem with hold | hnew
    · exact hturn.2 run hold
    · exact List.mem_singleton.mp hnew ▸ hturn.1

/-- A run up to an instant keeps the accounts, whether it meets a fault or not. -/
theorem accounts_runUntil {target : UInt64} (h : Accounts first tick c log)
    (hfits : Stop.overflow? (c.runUntil target).1 = none) :
    Accounts first tick (c.runUntil target).2 (log ++ c.log target) := by
  fun_induction runUntil c target generalizing log with
  | case1 c hle after hrun ih =>
    have hjob := accounts_runJob h (by rw [nextRun, hrun]; rfl)
    rw [hrun] at hjob
    rw [log_of_ok hle hrun, List.append_cons]
    exact ih hjob hfits
  | case2 c hle stop after hrun =>
    have hjob := accounts_runJob h (by rw [nextRun, hrun]; exact hfits)
    rw [hrun] at hjob
    rw [log_of_error hle hrun]
    exact hjob
  | case3 c hle =>
    have hdue := UInt64.not_le.mp hle
    rw [log_of_lt hdue, List.append_nil]
    refine ⟨h.tickLength, h.sample, h.manage, ?_, ?_, h.inOrder, h.pending⟩
    · exact (Std.LawfulOrderSup.max_le_iff _ _ _).mpr ⟨UInt64.le_of_lt hdue, h.now⟩
    · show _ ≤ (max target c.clock.now).toNat
      rw [Clock.toNat_max]
      exact Nat.le_trans h.reached (Nat.le_max_right _ _)

/-- The log of a run is in order in any case. -/
theorem inOrder_runUntil (target : UInt64) (h : Accounts first tick c log) :
    InOrder first (log ++ c.log target) := by
  fun_induction runUntil c target generalizing log with
  | case1 c hle after hrun ih =>
    have hjob := accounts_runJob h (by rw [nextRun, hrun]; rfl)
    rw [hrun] at hjob
    rw [log_of_ok hle hrun, List.append_cons]
    exact ih hjob
  | case2 c hle stop after hrun =>
    rw [log_of_error hle hrun]
    exact inOrder_nextRun h
  | case3 c hle =>
    rw [log_of_lt (UInt64.not_le.mp hle), List.append_nil]
    exact h.inOrder

/-- Requests leave the deadlines alone. -/
theorem clock_request (c : Controller α) (requests : List (Request α)) :
    (c.request requests).clock = c.clock := by
  unfold request
  induction requests generalizing c with
  | nil => rfl
  | cons request rest ih => exact (ih (c.step request.val)).trans (c.frame_request request.property).1

theorem accounts_request (requests : List (Request α)) (h : Accounts first tick c log) :
    Accounts first tick (c.request requests) log := by
  have hclock := c.clock_request requests
  refine ⟨?_, ?_, ?_, ?_, ?_, h.inOrder, ?_⟩
  · rw [request, config_steps]
    exact h.tickLength
  · rw [hclock]
    exact h.sample
  · rw [hclock]
    exact h.manage
  · rw [hclock]
    exact h.now
  · rw [hclock]
    exact h.reached
  · rw [hclock]
    exact h.pending

/-- Calls in a row keep the accounts. -/
theorem accounts_history {calls : List (CatchUp α)} {left : Controller α}
    (h : Accounts first tick c log) (hleft : catchUps calls c = .ok left) :
    Accounts first tick left (log ++ history calls c) := by
  induction calls generalizing c log with
  | nil =>
    cases hleft
    rw [history, List.append_nil]
    exact h
  | cons call rest ih =>
    have hready := accounts_request call.requests h
    cases hstop : Stop.overflow? (c.catchUp call).1 with
    | some word =>
      rw [(catchUps_of_overflow hstop rest).1] at hleft
      cases hleft
    | none =>
      obtain ⟨hcalls, hlog⟩ := catchUps_of_fits hstop rest
      rw [hlog, ← List.append_assoc]
      exact ih (accounts_runUntil hready hstop) (hcalls ▸ hleft)

/-- The log of calls in a row is in order in any case. -/
theorem inOrder_history (calls : List (CatchUp α)) (h : Accounts first tick c log) :
    InOrder first (log ++ history calls c) := by
  induction calls generalizing c log with
  | nil =>
    rw [history, List.append_nil]
    exact h.inOrder
  | cons call rest ih =>
    have hready := accounts_request call.requests h
    cases hstop : Stop.overflow? (c.catchUp call).1 with
    | some word =>
      rw [(catchUps_of_overflow hstop rest).2]
      exact inOrder_runUntil call.target hready
    | none =>
      rw [(catchUps_of_fits hstop rest).2, ← List.append_assoc]
      exact ih (accounts_runUntil hready hstop)

/-- Calls in a row find a word too short only where that is possible at the end of one of them. -/
theorem possible_of_catchUps {calls : List (CatchUp α)} {word : Overflow} (h : c.Bounded)
    (hstop : catchUps calls c = .error word) :
    ∃ call ∈ calls, word.Possible c.manager.config call.target := by
  induction calls generalizing c with
  | nil => cases hstop
  | cons call rest ih =>
    have hready : (c.request call.requests).Bounded := bounded_steps h _
    have hconfig : (c.request call.requests).manager.config = c.manager.config := config_steps c _
    cases hcall : Stop.overflow? (c.catchUp call).1 with
    | some word' =>
      rw [(catchUps_of_overflow hcall rest).1] at hstop
      cases hstop
      exact ⟨call, List.mem_cons_self, hconfig ▸ possible_of_runUntil hready hcall⟩
    | none =>
      rw [(catchUps_of_fits hcall rest).1] at hstop
      obtain ⟨later, hmem, hpossible⟩ := ih (bounded_runUntil hready call.target) hstop
      refine ⟨later, List.mem_cons_of_mem _ hmem, ?_⟩
      rw [← hconfig, ← config_runUntil (c.request call.requests) call.target]
      exact hpossible

/-- At the start nothing has been run. -/
theorem accounts_new {adc : α} {board : Board} {config : Config}
    (h : Controller.new adc board config = .ok c) :
    Accounts config.sampler.normal.clamped.short.toNat config.detection.tickMicros.toNat c
      ([] : List (JobRun ε)) := by
  obtain ⟨hclock, hconfig⟩ := fresh_of_new h
  refine ⟨by rw [hconfig], ?_, ?_, ?_, ?_, ⟨.nil, ?_⟩, nofun⟩
  · rw [hclock]
    exact UInt32.toNat_toUInt64 _
  · rw [hclock]
    simp [ticks]
  · rw [hclock]
    exact UInt64.zero_le
  · simp [ticks]
  · intro before run after hsplit
    simp at hsplit

end Accounts

/-- **The jobs keep time.** From a fresh controller calls are made in a row, some of which may fail,
with any requests and changes of the world between them. Then the jobs of all calls are in order:
each has its turn before those behind it, and none has its turn twice but a burst that failed. A
burst is due behind the first pause and the pauses of the bursts in front of it. And when a call
works whose instant is not in the past, the manager has ticked as often as the tick length goes into
that instant, and the next burst is due behind it. The calls come to an early end only at a word that is
too short, for which one of them must go close to the last instant, or a limit be the highest word. -/
theorem jobs_keep_time {adc : α} {board : Board} {config : Config} {c : Controller α}
    (h : Controller.new adc board config = .ok c) (calls : List (CatchUp α)) :
    let first := config.sampler.normal.clamped.short.toNat
    (history calls c).Pairwise (fun earlier later => earlier.Leads later.slot) ∧
      (∀ before run after, history calls c = before ++ run :: after →
        run.outcome.job = .sample → run.due.toNat = first + pauses before) ∧
      (∀ left call, catchUps calls c = .ok left → (left.catchUp call).1 = .ok () →
        left.clock.now ≤ call.target →
          ticks (history (calls ++ [call]) c)
              = call.target.toNat / config.detection.tickMicros.toNat ∧
            call.target.toNat < first + pauses (history (calls ++ [call]) c)) ∧
      ∀ word, catchUps calls c = .error word →
        ∃ call ∈ calls, word.Possible config.detection call.target := by
  intro first
  have hstart := accounts_new h
  have hinOrder := inOrder_history calls hstart
  rw [List.nil_append] at hinOrder
  refine ⟨hinOrder.ordered, hinOrder.punctual, fun left call hleft hok hfuture => ?_,
    fun word hstop => ?_⟩
  · have hkept := accounts_history hstart hleft
    rw [List.nil_append] at hkept
    have hready := accounts_request call.requests hkept
    have hcalled := accounts_runUntil hready (congrArg Stop.overflow? hok)
    rw [← history_concat hleft] at hcalled
    -- behind a call that works the present instant is the one it was made for
    rw [← left.clock_request call.requests] at hfuture
    have hnow := now_runUntil hok hfuture
    obtain ⟨hsample, hmanage, -⟩ := (Clock.lt_next_iff _ _).mp (clock_of_runUntil_ok hok).1
    rw [UInt64.lt_iff_toNat_lt] at hsample hmanage
    refine ⟨?_, ?_⟩
    · symm
      apply Nat.div_eq_of_lt_le
      · exact hnow ▸ hcalled.reached
      · exact hcalled.manage ▸ hmanage
    · exact hcalled.sample ▸ hsample
  · rw [← (fresh_of_new h).2]
    exact possible_of_catchUps (Reachable.new h).bounded hstop

/-- The converter is switched off for the first call and on again for the second one, which makes up
for all that was missed: two ticks of the manager in 25 milliseconds. -/
theorem jobs_keep_time_repaired :
    ∃ fresh : Controller Multiplexer,
      Controller.new {} {} {} = .ok fresh ∧
        let broken : CatchUp Multiplexer := ⟨[⟨.convert { failing := true }, rfl⟩], 1000⟩
        let repaired : CatchUp Multiplexer := ⟨[⟨.convert {}, rfl⟩], 25000⟩
        (fresh.catchUp broken).1 = .error (.fault .noAnswer) ∧
          ((fresh.catchUp broken).2.catchUp repaired).1 = .ok () ∧
          ticks (history [broken, repaired] fresh) = 2 := by
  obtain ⟨fresh, hfresh⟩ : ∃ fresh : Controller Multiplexer,
      Controller.new {} {} {} = .ok fresh := ⟨_, rfl⟩
  refine ⟨fresh, hfresh, ?_⟩
  intro broken repaired
  have hclock : (fresh.request broken.requests).clock.next = (200, .sample) := by
    rw [fresh.clock_request broken.requests, (fresh_of_new hfresh).1]
    rfl
  have hburst : ((Controller.new ({} : Multiplexer) {} {}).toOption.map fun c =>
      ((c.request broken.requests).runJob 200 .sample).1) = some (.error (.fault .noAnswer)) := by
    rfl
  rw [hfresh] at hburst
  have hbroken : (fresh.catchUp broken).1 = .error (.fault .noAnswer) ∧
      (fresh.catchUp broken).2.clock.now = 200 := by
    have hjob := now_runJob (fresh.request broken.requests) 200 .sample
    rcases hrun : (fresh.request broken.requests).runJob 200 .sample with ⟨result, left⟩
    obtain rfl : result = .error (.fault .noAnswer) :=
      (congrArg Prod.fst hrun).symm.trans (Option.some.inj hburst)
    rw [catchUp, runUntil_of_error (by rw [hclock]; decide) (by rw [hclock]; exact hrun)]
    rw [hrun] at hjob
    exact ⟨rfl, hjob⟩
  have hleft : catchUps [broken] fresh = .ok (fresh.catchUp broken).2 :=
    (catchUps_of_fits (congrArg Stop.overflow? hbroken.1) []).1
  have hrepaired : ((fresh.catchUp broken).2.catchUp repaired).1 = .ok () := by
    have hready : NeverFails ((fresh.catchUp broken).2.request repaired.requests).adc :=
      show NeverFails ({} : Multiplexer) from Multiplexer.neverFails rfl
    have hcalled : (fresh.catchUp broken).2.Bounded :=
      bounded_runUntil (bounded_steps (Reachable.new hfresh).bounded _) broken.target
    have hbounded : ((fresh.catchUp broken).2.request repaired.requests).Bounded :=
      bounded_steps hcalled _
    refine runUntil_ok_of_neverFails hready hbounded fun word => ?_
    rw [request, config_steps, catchUp, config_runUntil, request, config_steps,
      (fresh_of_new hfresh).2]
    exact Overflow.not_possible (by decide) (by decide) (by decide) word
  obtain ⟨-, -, hkept, -⟩ := jobs_keep_time hfresh [broken]
  have hcount := (hkept _ repaired hleft hrepaired (by rw [hbroken.2]; decide)).1
  exact ⟨hbroken.1, hrepaired, hcount.trans (by decide)⟩

end Controller

end PlugWatch
