import PlugWatch.Proofs.Timing.Room
/-!
# Time can be cut anywhere

A controller is run up to an instant. Running it up to one instant and then up to another is the
same as running it up to the later of the two at once, so that it does not matter how often, and at
which instants, a caller lets it catch up.

## Main Definitions

* `NeverFails` : a converter that answers every exchange, now and later.
* `Controller.andThen` : what comes behind a run that works.
* `Controller.runAll` : runs in a row, up to one that stops.
* `Controller.Operated` : the controllers that operation without faults leads to.

## Main Statements

* `Controller.runUntil_runUntil` : two runs in a row are one run.
* `Controller.runAll_eq_runUntil` : so are any number of runs.
* `Controller.Operated.ahead` : in operation without faults no job is due between two calls.
* `Controller.catching_up_subdivides` : the three together, and why a run may stop.

## Design Notes

Cutting a run in two changes nothing but the present instant at the cut, and the first thing a job
does is to set the present instant. So the first equation needs no invariant, and it holds of runs that
stop as well: they stop at the same job. Only that an instant in the past is without effect rests on all
deadlines lying ahead.
-/

namespace PlugWatch

variable {α ε : Type}

/-! ## Converters that never fail -/

/-- The converter behind a number of exchanges. -/
def afterWords [Converter α ε] (adc : α) (words : List UInt16) : α :=
  words.foldl (fun adc word => (Converter.exchange adc word).2) adc

/-- The converter answers every exchange, whatever was exchanged before. -/
def NeverFails [Converter α ε] (adc : α) : Prop :=
  ∀ words word, ∃ reply, (Converter.exchange (afterWords adc words) word).1 = .ok reply

section NeverFails

variable [Converter α ε]

theorem NeverFails.exchange {adc : α} (h : NeverFails adc) (word : UInt16) :
    NeverFails (Converter.exchange adc word).2 :=
  fun words => h (word :: words)

/-- A simulated converter that is not switched off never fails. -/
theorem Multiplexer.neverFails {adc : Multiplexer} (h : adc.failing = false) :
    NeverFails adc := by
  intro words
  induction words generalizing adc with
  | nil =>
    intro word
    exact ⟨adc.reply, by simp [afterWords, Converter.exchange, Multiplexer.exchange, h]⟩
  | cons first rest ih =>
    have hafter : (Converter.exchange adc first).2.failing = false := by
      simp [Converter.exchange, Multiplexer.exchange, h]
    exact ih hafter

end NeverFails

namespace SamplerScene

variable [Converter α ε]

theorem exchange_of_neverFails {scene : SamplerScene α} (h : NeverFails scene.adc)
    (word : UInt16) :
    ∃ counts left, scene.exchange word = (.ok counts, left) ∧ NeverFails left.adc := by
  obtain ⟨reply, hreply⟩ := h [] word
  have hleft := h.exchange word
  rcases hx : Converter.exchange scene.adc word with ⟨result, adc⟩
  have hresult : result = .ok reply := (congrArg Prod.fst hx).symm.trans hreply
  rw [hx] at hleft
  exact ⟨_, _, by rw [SamplerScene.exchange, hx, hresult], hleft⟩

theorem sendSetup_of_neverFails (n : Nat) :
    ∀ scene : SamplerScene α, NeverFails scene.adc → NeverFails (scene.sendSetup n).2.adc := by
  induction n with
  | zero => exact fun scene h => h
  | succ n ih =>
    intro scene h
    obtain ⟨counts, after, hx, hafter⟩ := exchange_of_neverFails h setupWord
    rw [sendSetup, hx]
    exact ih after hafter

theorem init_of_neverFails {scene : SamplerScene α} (h : NeverFails scene.adc) :
    NeverFails scene.init.2.adc := by
  have hsent := sendSetup_of_neverFails setupCount scene h
  unfold init
  split
  · rename_i after hx
    rw [hx] at hsent
    exact hsent
  · rename_i fault after hx
    rw [hx] at hsent
    exact hsent

/-- A walk over a converter that never fails works. -/
theorem walk_of_neverFails (periods : Periods) (entries : List Entry) :
    ∀ scene : SamplerScene α, NeverFails scene.adc →
      ∃ period left, walk periods entries scene = (.ok period, left) ∧ NeverFails left.adc := by
  induction entries with
  | nil => exact fun scene h => ⟨_, _, rfl, h⟩
  | cons entry rest ih =>
    intro scene h
    obtain ⟨counts, after, hx, hafter⟩ :=
      exchange_of_neverFails h (scene.sampler.requestWord entry)
    have happlied : NeverFails (after.apply entry counts).adc := by
      rw [adc_apply]
      exact hafter
    by_cases hpause : entry.pause = .none
    · obtain ⟨period, left, hwalk, hleft⟩ := ih _ happlied
      exact ⟨period, left, by rw [walk_cons_go rest hx hpause, hwalk], hleft⟩
    · exact ⟨_, _, walk_cons_stop rest hx hpause, happlied⟩

theorem burst_of_neverFails {scene : SamplerScene α} (h : NeverFails scene.adc) :
    ∃ period left, scene.burst = (.ok period, left) ∧ NeverFails left.adc := by
  rw [← adc_prepare] at h
  obtain ⟨period, left, hwalk, hleft⟩ :=
    walk_of_neverFails scene.prepare.sampler.periods scene.prepare.sampler.remaining _ h
  refine ⟨period, left.finish, burst_of_walk_ok hwalk, ?_⟩
  rw [adc_finish]
  exact hleft

end SamplerScene

/-! ## Deadlines ahead -/

namespace Clock

/-- No job is due: every deadline lies ahead of the present instant. -/
def Ahead (clock : Clock) : Prop := clock.now < clock.next.1

theorem lt_next_iff (clock : Clock) (instant : UInt64) :
    instant < clock.next.1 ↔
      instant < clock.sampleDue ∧ instant < clock.manageDue ∧
        ∀ due, clock.colorDue = some due → instant < due := by
  constructor
  · intro h
    exact ⟨UInt64.lt_of_lt_of_le h clock.next_le_sampleDue,
      UInt64.lt_of_lt_of_le h clock.next_le_manageDue,
      fun due hdue => UInt64.lt_of_lt_of_le h (clock.next_le_colorDue hdue)⟩
  · rintro ⟨hsample, hmanage, hcolor⟩
    -- the first deadline is one of the three
    have hdue := clock.due?_next
    cases hjob : clock.next.2 with
    | sample =>
      rw [hjob] at hdue
      exact Option.some.inj hdue ▸ hsample
    | manage =>
      rw [hjob] at hdue
      exact Option.some.inj hdue ▸ hmanage
    | color =>
      rw [hjob] at hdue
      exact hcolor _ hdue

/-- Arming or disarming the bit timer leaves no job due. -/
theorem Ahead.syncColor {clock : Clock} (h : clock.Ahead) {wanted : Bool} {period : UInt32}
    (hperiod : 0 < period.toNat) (hfits : clock.syncOverflow? wanted period = none) :
    (clock.syncColor wanted period).Ahead := by
  obtain ⟨hsample, hmanage, hcolor⟩ := (clock.lt_next_iff _).mp h
  rw [Ahead, lt_next_iff, syncColor_now, syncColor_sampleDue, syncColor_manageDue]
  refine ⟨hsample, hmanage, ?_⟩
  rcases clock.syncColor_colorDue wanted hperiod hfits with hsame | hlater
  · rw [hsame]
    exact hcolor
  · exact hlater

end Clock

namespace Controller

/-- What comes behind a run that works. -/
def andThen (run : Except (Stop ε) Unit × Controller α)
    (f : Controller α → Except (Stop ε) Unit × Controller α) : Except (Stop ε) Unit × Controller α :=
  match run with
  | (.ok (), c) => f c
  | (.error stop, c) => (.error stop, c)

theorem andThen_of_ok {run : Except (Stop ε) Unit × Controller α} (hok : run.1 = .ok ())
    (f : Controller α → Except (Stop ε) Unit × Controller α) : andThen run f = f run.2 := by
  obtain ⟨result, left⟩ := run
  cases hok
  rfl

variable [Converter α ε]

/-! ## One run or two -/

section Runs

variable {c after : Controller α} {target : UInt64}

/-- An instant that has passed, and up to which nothing is due, changes nothing. -/
theorem runUntil_of_le_now (hdue : target < c.clock.next.1) (hnow : target ≤ c.clock.now) :
    c.runUntil target = (.ok (), c) := by
  have hmax : max target c.clock.now = c.clock.now := if_pos hnow
  rw [runUntil_of_lt hdue, mapClock, hmax]

/-- A run that works ends at the instant it is made for, unless that has passed. -/
theorem now_runUntil (h : (c.runUntil target).1 = .ok ()) (hnow : c.clock.now ≤ target) :
    (c.runUntil target).2.clock.now = target := by
  fun_induction runUntil c target with
  | case1 c hle after hrun ih =>
    have hjob := c.now_runJob c.clock.next.1 c.clock.next.2
    rw [hrun] at hjob
    exact ih h (hjob ▸ hle)
  | case2 c hle stop after hrun => cases h
  | case3 c hle =>
    refine UInt64.toNat_inj.mp ((Clock.toNat_max _ _).trans (Nat.max_eq_left ?_))
    exact UInt64.le_iff_toNat_le.mp hnow

/-- What the present instant was is of no account to a run that reaches it. -/
theorem runUntil_mapClock_now (c : Controller α) {instant : UInt64} (hle : instant ≤ target) :
    (c.mapClock fun clock => { clock with now := max instant clock.now }).runUntil target =
      c.runUntil target := by
  by_cases hdue : c.clock.next.1 ≤ target
  · -- the first job sets the present instant anew
    rcases hrun : c.runJob c.clock.next.1 c.clock.next.2 with ⟨stop | _, after⟩
    · rw [runUntil_of_error hdue hrun]
      exact runUntil_of_error hdue hrun
    · rw [runUntil_of_ok hdue hrun]
      exact runUntil_of_ok hdue hrun
  · have hlater : target < c.clock.next.1 := UInt64.not_le.mp hdue
    have hlater' : target < (c.mapClock fun clock =>
        { clock with now := max instant clock.now }).clock.next.1 := hlater
    have hmax : max target (max instant c.clock.now) = max target c.clock.now := by
      have hle := UInt64.le_iff_toNat_le.mp hle
      rw [← UInt64.toNat_inj]
      simp only [Clock.toNat_max]
      omega
    rw [runUntil_of_lt hlater, runUntil_of_lt hlater']
    simp only [mapClock, hmax]

/-- **Two runs in a row are one run up to the later instant**, whether they get there or stop. -/
theorem runUntil_runUntil (c : Controller α) (first second : UInt64) :
    andThen (c.runUntil first) (fun left => left.runUntil second) =
      c.runUntil (max first second) := by
  by_cases hon : first ≤ second
  · rw [show max first second = second from if_pos hon]
    fun_induction runUntil c first with
    | case1 c hle after hrun ih => rw [ih, runUntil_of_ok (UInt64.le_trans hle hon) hrun]
    | case2 c hle stop after hrun => exact (runUntil_of_error (UInt64.le_trans hle hon) hrun).symm
    | case3 c hle => exact runUntil_mapClock_now c hon
  · -- the first run gets past the second instant, or stops
    have hback : second < first := UInt64.not_le.mp hon
    rw [show max first second = first from if_neg hon]
    rcases hrun : c.runUntil first with ⟨stop | _, left⟩
    · rfl
    · obtain ⟨hdue, hnow⟩ := clock_of_runUntil_ok (congrArg Prod.fst hrun)
      rw [hrun] at hdue hnow
      exact runUntil_of_le_now (UInt64.lt_trans hback hdue)
        (UInt64.le_trans (UInt64.le_of_lt hback) hnow)

/-- The controller behind runs up to one instant after the other, until one stops. -/
def runAll (c : Controller α) : List UInt64 → Except (Stop ε) Unit × Controller α
  | [] => (.ok (), c)
  | target :: rest => andThen (c.runUntil target) fun left => left.runAll rest

/-- Runs in a row are one run up to the latest of their instants. -/
theorem runAll_eq_runUntil (c : Controller α) (first : UInt64) (rest : List UInt64) :
    c.runAll (first :: rest) = c.runUntil (rest.foldl max first) := by
  have hassoc : ∀ (run : Except (Stop ε) Unit × Controller α)
      (f g : Controller α → Except (Stop ε) Unit × Controller α),
      andThen (andThen run f) g = andThen run fun left => andThen (f left) g := by
    rintro ⟨stop | _, left⟩ f g <;> rfl
  induction rest generalizing first with
  | nil =>
    show andThen (c.runUntil first) (fun left => (.ok (), left)) = c.runUntil first
    rcases c.runUntil first with ⟨stop | _, left⟩ <;> rfl
  | cons second rest ih =>
    rw [List.foldl_cons, ← ih, runAll, runAll, ← runUntil_runUntil, hassoc]
    rfl

/-- Runs in a row are a run up to an instant that is one of theirs and behind all of them. -/
theorem exists_runAll_eq_runUntil (c : Controller α) {targets : List UInt64} (h : targets ≠ []) :
    ∃ last ∈ targets, (∀ target ∈ targets, target ≤ last) ∧ c.runAll targets = c.runUntil last := by
  obtain ⟨first, rest, rfl⟩ := List.exists_cons_of_ne_nil h
  have hlast : (first :: rest).max? = some (rest.foldl max first) := List.max?_cons'
  obtain ⟨hmem, hle⟩ := List.max?_eq_some_iff.mp hlast
  exact ⟨_, hmem, hle, runAll_eq_runUntil c first rest⟩

end Runs

/-! ## Operation without faults -/

/-- A burst over a converter that never fails works, and leaves such a converter. -/
theorem sampleTick_of_neverFails {c : Controller α} (h : NeverFails c.adc) :
    (∃ period, c.sampleTick.1 = .ok period) ∧ NeverFails c.sampleTick.2.adc := by
  have hscene : NeverFails c.samplerScene.adc := h
  obtain ⟨period, left, hburst, hleft⟩ := SamplerScene.burst_of_neverFails hscene
  exact ⟨⟨period, congrArg Prod.fst hburst⟩, by
    show NeverFails c.samplerScene.burst.2.adc
    rw [hburst]
    exact hleft⟩

theorem adc_colorTick (c : Controller α) : c.colorTick.adc = c.adc := by
  unfold colorTick
  split <;> rfl

/-- Over a converter that never fails a job meets no fault. -/
theorem runJob_of_neverFails {c : Controller α} (h : NeverFails c.adc) (instant : UInt64)
    (job : Job) :
    (∀ fault, (c.runJob instant job).1 ≠ .error (.fault fault)) ∧
      NeverFails (c.runJob instant job).2.adc := by
  cases job with
  | sample =>
    have hat : NeverFails (c.mapClock fun clock => { clock with now := instant }).adc := h
    obtain ⟨⟨period, hok⟩, hleft⟩ := sampleTick_of_neverFails hat
    rcases hburst : (c.mapClock fun clock => { clock with now := instant }).sampleTick
      with ⟨result, left⟩
    rw [hburst] at hok hleft
    dsimp only at hok hleft
    subst hok
    dsimp only [runJob]
    rw [hburst]
    exact ⟨Stop.check_ne_fault _, hleft⟩
  | manage => exact ⟨Stop.check_ne_fault _, h⟩
  | color =>
    refine ⟨Stop.check_ne_fault _, ?_⟩
    show NeverFails (c.mapClock fun clock => { clock with now := instant }).colorTick.adc
    rw [adc_colorTick]
    exact h

/-- Over a converter that never fails no run meets a fault. -/
theorem runUntil_of_neverFails {c : Controller α} (h : NeverFails c.adc) (target : UInt64) :
    (∀ fault, (c.runUntil target).1 ≠ .error (.fault fault)) ∧
      NeverFails (c.runUntil target).2.adc := by
  fun_induction runUntil c target with
  | case1 c hle after hrun ih =>
    have hjob := runJob_of_neverFails h c.clock.next.1 c.clock.next.2
    rw [hrun] at hjob
    exact ih hjob.2
  | case2 c hle stop after hrun =>
    have hjob := runJob_of_neverFails h c.clock.next.1 c.clock.next.2
    rw [hrun] at hjob
    exact hjob
  | case3 c hle =>
    refine ⟨fun fault hfault => ?_, h⟩
    cases hfault

/-- Over a converter that never fails a run gets to its end, unless a word may be too short there. -/
theorem runUntil_ok_or_overflow {c : Controller α} (h : NeverFails c.adc) (hbounded : c.Bounded)
    (target : UInt64) :
    (c.runUntil target).1 = .ok () ∨ ∃ word, (c.runUntil target).1 = .error (.overflow word) ∧
      word.Possible c.manager.config target := by
  cases hrun : (c.runUntil target).1 with
  | ok _ => exact .inl rfl
  | error stop =>
    cases stop with
    | fault fault => exact absurd hrun ((runUntil_of_neverFails h target).1 fault)
    | overflow word =>
      exact .inr ⟨word, rfl, possible_of_runUntil hbounded (Stop.overflow?_eq_some_iff.mpr hrun)⟩

theorem runUntil_ok_of_neverFails {c : Controller α} (h : NeverFails c.adc) (hbounded : c.Bounded)
    {target : UInt64} (hroom : ∀ word : Overflow, ¬ word.Possible c.manager.config target) :
    (c.runUntil target).1 = .ok () :=
  (runUntil_ok_or_overflow h hbounded target).resolve_right fun ⟨word, _, hpossible⟩ =>
    hroom word hpossible

theorem neverFails_new {adc : α} {board : Board} {config : Config} {c : Controller α}
    (hadc : NeverFails adc) (h : Controller.new adc board config = .ok c) :
    NeverFails c.adc := by
  have hready : NeverFails
      (SamplerScene.init ⟨{ config := config.sampler }, adc, board, #[]⟩).2.adc :=
    SamplerScene.init_of_neverFails hadc
  unfold Controller.new at h
  dsimp only at h
  split at h
  · cases h
  · rename_i ready hinit
    rw [hinit] at hready
    cases h
    exact hready

/-- The controllers that operation without faults leads to: a fresh one over a converter that never
fails is run up to instants, its jobs are called by themselves, and user space and the world do
what they want, but for putting in a converter that may fail. Behind a word that is too short there is no
operation. -/
inductive Operated : Controller α → Prop
  | new {adc : α} {board : Board} {config : Config} {c : Controller α} (hadc : NeverFails adc)
      (h : Controller.new adc board config = .ok c) : Operated c
  | runUntil {c : Controller α} (h : Operated c) (target : UInt64)
      (hok : (c.runUntil target).1 = .ok ()) : Operated (c.runUntil target).2
  | step {c : Controller α} (h : Operated c) (step : Step α)
      (htime : ∀ clock, step ≠ .time clock)
      (hadc : ∀ adc, step = .convert adc → NeverFails adc)
      (hfits : step = .manage → c.managerOverflow? = none) : Operated (c.step step)

theorem Operated.neverFails {c : Controller α} (h : c.Operated) : NeverFails c.adc := by
  induction h with
  | new hadc h => exact neverFails_new hadc h
  | runUntil h target hok ih => exact (runUntil_of_neverFails ih target).2
  | @step c h step htime hadc hfits ih =>
    cases hjob : step.isJob with
    | false =>
      obtain ⟨-, -, hsame | ⟨adc, hconvert, hafter⟩⟩ := c.frame_request hjob
      · rw [hsame]
        exact ih
      · rw [hafter]
        exact hadc adc hconvert
    | true =>
      cases step with
      | sample => exact (sampleTick_of_neverFails ih).2
      | manage => exact ih
      | color =>
        rw [Controller.step, adc_colorTick]
        exact ih
      | time clock => exact absurd rfl (htime clock)
      | _ => cases hjob

theorem Operated.reachable {c : Controller α} (h : c.Operated) : c.Reachable := by
  induction h with
  | new hadc h => exact .new h
  | runUntil h target hok ih => exact ih.runUntil target
  | step h step htime hadc hfits ih => exact ih.step step

/-- A run that works leaves all deadlines ahead, if they were ahead or the run goes somewhere. -/
theorem ahead_runUntil {c : Controller α} {target : UInt64}
    (h : c.clock.Ahead ∨ c.clock.now ≤ target) (hok : (c.runUntil target).1 = .ok ()) :
    (c.runUntil target).2.clock.Ahead := by
  fun_induction runUntil c target with
  | case1 c hle after hrun ih =>
    have hnow := c.now_runJob c.clock.next.1 c.clock.next.2
    rw [hrun] at hnow
    exact ih (.inr (hnow ▸ hle)) hok
  | case2 c hle stop after hrun => cases hok
  | case3 c hle =>
    have hlater : target < c.clock.next.1 := UInt64.not_le.mp hle
    have hnow : c.clock.now < c.clock.next.1 :=
      h.elim id fun hnow => UInt64.lt_of_le_of_lt hnow hlater
    show max target c.clock.now < c.clock.next.1
    rw [UInt64.lt_iff_toNat_lt] at hlater hnow ⊢
    rw [Clock.toNat_max]
    exact Nat.max_lt.mpr ⟨hlater, hnow⟩

/-- In operation without faults no job is due between two calls. -/
theorem Operated.ahead {c : Controller α} (h : c.Operated) : c.clock.Ahead := by
  induction h with
  | @new adc board config c hadc h =>
    rw [(fresh_of_new h).1, Clock.Ahead, Clock.lt_next_iff]
    refine ⟨?_, ?_, nofun⟩ <;> rw [UInt64.lt_iff_toNat_lt, UInt32.toNat_toUInt64]
    · exact config.sampler.normal.short_pos
    · exact config.detection.tickMicros_pos
  | @runUntil c h target hok ih => exact ahead_runUntil (.inl ih) hok
  | @step c h step htime hadc hfits ih =>
    cases hjob : step.isJob with
    | false =>
      rw [(c.frame_request hjob).1]
      exact ih
    | true =>
      cases step with
      | sample => exact ih
      | manage =>
        exact ih.syncColor c.linkConfig.period_pos (syncOverflow?_of_managerOverflow? (hfits rfl))
      | color =>
        rw [Controller.step, clock_colorTick]
        exact ih
      | time clock => exact absurd rfl (htime clock)
      | _ => cases hjob

/-! ## Any subdivision -/

/-- **How often a caller lets the controller catch up makes no difference.** In operation without
faults a run up to one instant and a run up to another together are the run up to the later one: they
leave the very same controller, or stop at the same word. So do runs up to any number of instants; and a
run up to an instant that is not after the present one changes nothing. A run stops only where a word may
be too short: less than 32 bits in front of the last instant, or with the highest limit for a count. -/
theorem catching_up_subdivides {c : Controller α} (h : c.Operated) (first second : UInt64)
    (rest : List UInt64) :
    andThen (c.runUntil first) (fun left => left.runUntil second) = c.runUntil (max first second) ∧
      c.runAll (first :: rest) = c.runUntil (rest.foldl max first) ∧
      (first ≤ c.clock.now → c.runUntil first = (.ok (), c)) ∧
      ((c.runUntil first).1 = .ok () ∨ ∃ word, (c.runUntil first).1 = .error (.overflow word) ∧
        word.Possible c.manager.config first) := by
  refine ⟨runUntil_runUntil c first second, runAll_eq_runUntil c first rest,
    fun hpast => runUntil_of_le_now (UInt64.lt_of_le_of_lt hpast h.ahead) hpast, ?_⟩
  exact runUntil_ok_or_overflow h.neverFails h.reachable.bounded first

/-- The shortest of all periods, and a controller that was run for three milliseconds and whose
jobs were called by themselves as well: cutting a run at an instant between two deadlines leaves
no trace. -/
theorem catching_up_subdivides_shortest :
    ∃ fresh : Controller Multiplexer,
      Controller.new {} {}
          { detection := { tickMs := 0, resetMs := 0 }
            sampler := ⟨⟨0, 0⟩, ⟨0, 0⟩⟩
            link := { timerMicros := 0 } } = .ok fresh ∧
        let c := (fresh.runUntil 3000).2.steps [.manage, .sample, .color, .enable .p2 false]
        c.Operated ∧ (c.runUntil 3500).1 = .ok () ∧
          (c.runUntil 3500).2.runUntil 4700 = c.runUntil 4700 := by
  obtain ⟨fresh, hnew⟩ : ∃ fresh : Controller Multiplexer, Controller.new {} {}
      { detection := { tickMs := 0, resetMs := 0 }
        sampler := ⟨⟨0, 0⟩, ⟨0, 0⟩⟩
        link := { timerMicros := 0 } } = .ok fresh := ⟨_, rfl⟩
  refine ⟨fresh, hnew, ?_⟩
  intro c
  have hlimits := (fresh_of_new hnew).2
  have hroom : ∀ target : UInt64, target ≤ 4700 →
      ∀ word : Overflow, ¬ word.Possible fresh.manager.config target := by
    intro target hle
    have hle := UInt64.le_iff_toNat_le.mp hle
    rw [hlimits]
    refine Overflow.not_possible ?_ (by decide) (by decide)
    exact Nat.le_trans (Nat.add_le_add_right hle _) (by decide)
  have hfresh : fresh.Operated :=
    .new (show NeverFails ({} : Multiplexer) from Multiplexer.neverFails rfl) hnew
  -- three milliseconds of operation
  have hrun : (fresh.runUntil 3000).1 = .ok () :=
    runUntil_ok_of_neverFails hfresh.neverFails hfresh.reachable.bounded (hroom 3000 (by decide))
  have hran := hfresh.runUntil 3000 hrun
  have hnow : (fresh.runUntil 3000).2.clock.now = 3000 :=
    now_runUntil hrun ((fresh_of_new hnew).1 ▸ (by decide : (0 : UInt64) ≤ 3000))
  have hfits : (fresh.runUntil 3000).2.managerOverflow? = none := by
    rw [Option.eq_none_iff_forall_ne_some]
    intro word hword
    have hpossible := possible_of_managerOverflow? hran.reachable.bounded hword
    rw [hnow, config_runUntil] at hpossible
    exact hroom 3000 (by decide) word hpossible
  have hoperated : c.Operated :=
    (((hran.step .manage nofun nofun fun _ => hfits).step .sample nofun nofun nofun).step .color
      nofun nofun nofun).step (.enable .p2 false) nofun nofun nofun
  obtain ⟨hcut, -, -, hstop⟩ := catching_up_subdivides hoperated 3500 4700 []
  have hconfig : c.manager.config = fresh.manager.config :=
    (config_steps _ _).trans (config_runUntil fresh 3000)
  have hok : (c.runUntil 3500).1 = .ok () := by
    rcases hstop with hok | ⟨word, -, hpossible⟩
    · exact hok
    · exact absurd (hconfig ▸ hpossible) (hroom 3500 (by decide) word)
  refine ⟨hoperated, hok, ?_⟩
  rw [show max (3500 : UInt64) 4700 = 4700 from rfl] at hcut
  rw [← hcut, andThen_of_ok hok]

end Controller

end PlugWatch
