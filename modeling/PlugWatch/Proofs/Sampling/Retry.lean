import Mathlib.Algebra.GroupWithZero.Nat
import Mathlib.Logic.Function.Iterate
import PlugWatch.Proofs.Sampling.Burst
/-!
# Bursts over a bus that fails

When an exchange fails, the burst ends with the fault and is simply begun again later. The retried
burst goes on at the entry that failed, so nothing is done twice or left out, with one exception:
at the first entry of a table a burst begins a cycle before it exchanges anything. Each fault
there begins the cycle once more, so that a turn of a port is skipped and a cycle is counted that
never was.

## Main Definitions

* `Replier` : a converter that answers every exchange.
* `UnsteadyBus` : such a converter behind a bus on which chosen exchanges fail.
* `SamplerScene.Retried` : what is left when a burst is begun again until it works.
* `SamplerScene.lostBegins` : how often a cycle is begun in vain.

## Main Statements

* `SamplerScene.retried_burst` : retrying ends, in one way only, and leaves what one burst without
  faults leaves when the cycle was begun that many times before; so the faults go unnoticed
  exactly when that number is a multiple of 2 ^ 32, above all when it is zero.
-/

namespace PlugWatch

/-- A converter that answers every exchange. -/
class Replier (α : Type) where
  /-- The reply to a word, and the converter behind it. -/
  reply : α → UInt16 → UInt16 × α

/-- A converter behind a bus. Of each exchange to come `faults` says whether it fails and with which
fault; behind the end of the list every exchange works. What fails does not reach the converter. -/
structure UnsteadyBus (α ε : Type) where
  inner : α
  faults : List (Option ε) := []

namespace UnsteadyBus

variable {α ε : Type}

/-- Passes a word on, or fails as the next fault says. -/
def exchange [Replier α] (bus : UnsteadyBus α ε) (word : UInt16) :
    Except ε UInt16 × UnsteadyBus α ε :=
  match bus.faults with
  | some fault :: rest => (.error fault, { bus with faults := rest })
  | faults =>
    (.ok (Replier.reply bus.inner word).1, ⟨(Replier.reply bus.inner word).2, faults.tail⟩)

instance [Replier α] : Converter (UnsteadyBus α ε) ε := ⟨exchange⟩

/-- The same converter behind a bus that never fails. -/
def steady (bus : UnsteadyBus α ε) : UnsteadyBus α ε := { bus with faults := [] }

theorem exchange_error [Replier α] {bus after : UnsteadyBus α ε} {word : UInt16} {fault : ε}
    (h : bus.exchange word = (.error fault, after)) :
    bus.faults = some fault :: after.faults ∧ after.steady = bus.steady := by
  unfold exchange at h
  split at h
  · rename_i hf
    cases h
    exact ⟨hf, rfl⟩
  · cases h

/-- An exchange that works does what it does on the steady bus, and uses up at most one entry of
the list of faults, which was no fault. -/
theorem exchange_ok [Replier α] {bus after : UnsteadyBus α ε} {word counts : UInt16}
    (h : bus.exchange word = (.ok counts, after)) :
    bus.steady.exchange word = (.ok counts, after.steady) ∧
      after.faults.length ≤ bus.faults.length ∧ bus.faults.takeWhile Option.isSome = [] := by
  unfold exchange at h
  split at h
  · cases h
  · rename_i hf
    cases h
    refine ⟨rfl, ?_, ?_⟩
    · simp
    · rcases hfaults : bus.faults with - | ⟨- | fault, rest⟩
      · rfl
      · rfl
      · exact absurd hfaults (hf fault rest)

end UnsteadyBus

namespace Multiplexer

instance : Replier Multiplexer where
  reply adc word :=
    (adc.reply,
      { adc with
        due := adc.pending
        pending := requestedChannel? word
        exchanges := adc.exchanges + 1
        lastWord := word })

/-- The simulated converter answers so while it is not switched off, and is untouched by an
exchange while it is. -/
theorem exchange_eq (adc : Multiplexer) (word : UInt16) :
    adc.exchange word =
      if adc.failing then (.error .noAnswer, adc)
      else (.ok (Replier.reply adc word).1, (Replier.reply adc word).2) := rfl

end Multiplexer

namespace SamplerScene

variable {α ε : Type}

/-! ## Retried bursts -/

/-- A burst is begun again after every fault until it works: the pause it then answers, and the
scene it leaves. -/
inductive Retried [Converter α ε] : SamplerScene α → UInt32 → SamplerScene α → Prop
  | works {scene left : SamplerScene α} {period : UInt32}
      (h : scene.burst = (.ok period, left)) : Retried scene period left
  | again {scene middle left : SamplerScene α} {fault : ε} {period : UInt32}
      (h : scene.burst = (.error fault, middle)) (hrest : Retried middle period left) :
      Retried scene period left

/-- Retrying has one outcome. -/
theorem Retried.unique [Converter α ε] {scene left left' : SamplerScene α}
    {period period' : UInt32} (h : Retried scene period left) (h' : Retried scene period' left') :
    period = period' ∧ left = left' := by
  -- a burst has one outcome, so both sides retry in step
  induction h with
  | works hb =>
    cases h' with
    | works hb' =>
      rw [hb] at hb'
      simpa using hb'
    | again hb' _ =>
      rw [hb] at hb'
      cases hb'
  | again hb _ ih =>
    cases h' with
    | works hb' =>
      rw [hb] at hb'
      cases hb'
    | again hb' hrest' =>
      rw [hb] at hb'
      cases hb'
      exact ih hrest'

/-! ## The same scene on a steady bus -/

/-- The same scene with a bus that never fails. -/
def steady (scene : SamplerScene (UnsteadyBus α ε)) : SamplerScene (UnsteadyBus α ε) :=
  { scene with adc := scene.adc.steady }

theorem steady_store (scene : SamplerScene (UnsteadyBus α ε)) (reply : Reply) (counts : UInt16) :
    (scene.store reply counts).steady = scene.steady.store reply counts := by
  cases reply <;> rfl

theorem steady_clock (scene : SamplerScene (UnsteadyBus α ε)) (action : ClockAction) :
    (scene.clock action).steady = scene.steady.clock action := by
  unfold clock steady
  dsimp only
  split
  · split <;> rfl
  · rfl

theorem steady_apply (scene : SamplerScene (UnsteadyBus α ε)) (entry : Entry) (counts : UInt16) :
    (scene.apply entry counts).steady = scene.steady.apply entry counts := by
  unfold apply
  dsimp only
  rw [← steady_store, ← steady_clock]
  rfl

theorem steady_finish (scene : SamplerScene (UnsteadyBus α ε)) :
    scene.finish.steady = scene.steady.finish := by
  unfold finish completeCycle steady
  dsimp only
  split
  · split <;> split <;> rfl
  · rfl

theorem steady_prepare (scene : SamplerScene (UnsteadyBus α ε)) :
    scene.prepare.steady = scene.steady.prepare := by
  unfold prepare steady
  dsimp only
  split <;> rfl

section Exchange

variable [Replier α] {scene after : SamplerScene (UnsteadyBus α ε)} {word : UInt16}

theorem exchange_steady_error {fault : ε} (h : scene.exchange word = (.error fault, after)) :
    scene.adc.faults = some fault :: after.adc.faults ∧ after.steady = scene.steady ∧
      after.sampler = scene.sampler := by
  unfold exchange at h
  split at h
  · cases h
  · rename_i fault' bus hb
    cases h
    obtain ⟨hfaults, hsteady⟩ := UnsteadyBus.exchange_error hb
    refine ⟨hfaults, ?_, rfl⟩
    simp only [steady, hsteady]

theorem exchange_steady_ok {counts : UInt16} (h : scene.exchange word = (.ok counts, after)) :
    scene.steady.exchange word = (.ok counts, after.steady) ∧
      after.adc.faults.length ≤ scene.adc.faults.length ∧
      scene.adc.faults.takeWhile Option.isSome = [] := by
  unfold exchange at h
  split at h
  · rename_i reply bus hb
    cases h
    obtain ⟨hsteady, hlength, hfirst⟩ := UnsteadyBus.exchange_ok hb
    refine ⟨?_, hlength, hfirst⟩
    have hs : Converter.exchange scene.steady.adc word = (.ok reply, bus.steady) := hsteady
    unfold exchange
    rw [hs]
    rfl
  · cases h

end Exchange

/-! ## Walks over an unsteady bus -/

section Walk

variable [Replier α] {periods : Periods}

/-- A walk that works is the walk on the steady bus. -/
theorem walk_steady_ok (entries : List Entry) :
    ∀ {scene left : SamplerScene (UnsteadyBus α ε)} {period : UInt32},
      walk periods entries scene = (.ok period, left) →
        walk periods entries scene.steady = (.ok period, left.steady) ∧
          (entries ≠ [] → scene.adc.faults.takeWhile Option.isSome = []) := by
  induction entries with
  | nil =>
    intro scene left period h
    cases h
    exact ⟨rfl, fun hne => absurd rfl hne⟩
  | cons entry rest ih =>
    intro scene left period h
    rcases heq : scene.exchange (scene.sampler.requestWord entry) with ⟨fault | counts, after⟩
    · rw [walk_cons_error rest heq] at h
      cases h
    · -- the exchange worked, so no fault was in front of it and the steady bus answers the same
      obtain ⟨hsteady, -, hfirst⟩ := exchange_steady_ok heq
      refine ⟨?_, fun _ => hfirst⟩
      by_cases hp : entry.pause = .none
      · rw [walk_cons_go rest heq hp] at h
        rw [walk_cons_go rest hsteady hp, ← steady_apply]
        exact (ih h).1
      · rw [walk_cons_stop rest heq hp] at h
        cases h
        rw [walk_cons_stop rest hsteady hp, ← steady_apply]

/-- A walk that fails has got through the entries in front of the fault; walking on from there on
the steady bus gives what the whole walk gives on the steady bus. -/
theorem walk_resume (entries : List Entry) :
    ∀ {scene middle : SamplerScene (UnsteadyBus α ε)} {fault : ε},
      walk periods entries scene = (.error fault, middle) →
        ∃ before rest, entries = before ++ rest ∧
          middle.sampler.pointer = scene.sampler.pointer + before.length ∧
          walk periods entries scene.steady = walk periods rest middle.steady ∧
          middle.adc.faults.length < scene.adc.faults.length ∧
          (before = [] → scene.adc.faults = some fault :: middle.adc.faults ∧
            middle.steady = scene.steady) ∧
          (before ≠ [] → scene.adc.faults.takeWhile Option.isSome = []) := by
  induction entries with
  | nil =>
    intro scene middle fault h
    cases h
  | cons entry rest ih =>
    intro scene middle fault h
    rcases heq : scene.exchange (scene.sampler.requestWord entry) with ⟨fault' | counts, after⟩
    · -- the fault comes at this entry: nothing is got through
      rw [walk_cons_error rest heq] at h
      cases h
      obtain ⟨hfaults, hsteady, hsampler⟩ := exchange_steady_error heq
      refine ⟨[], entry :: rest, rfl, ?_, ?_, ?_, fun _ => ⟨hfaults, hsteady⟩,
        fun hne => absurd rfl hne⟩
      · rw [hsampler]
        rfl
      · rw [hsteady]
      · rw [hfaults]
        exact Nat.lt_succ_self _
    · -- this entry is got through, and the fault comes in the rest
      have hsampler := sampler_exchange scene (scene.sampler.requestWord entry)
      rw [heq] at hsampler
      obtain ⟨hsteady, hlength, hfirst⟩ := exchange_steady_ok heq
      by_cases hp : entry.pause = .none
      · rw [walk_cons_go rest heq hp] at h
        obtain ⟨before, rest', hsplit, hpointer, hwalk, hless, -, -⟩ := ih h
        refine ⟨entry :: before, rest', by rw [hsplit]; rfl, ?_, ?_, ?_,
          fun hnil => absurd hnil (List.cons_ne_nil _ _), fun _ => hfirst⟩
        · rw [hpointer, pointer_apply, hsampler, List.length_cons]
          omega
        · rw [walk_cons_go rest hsteady hp, ← steady_apply]
          exact hwalk
        · rw [adc_apply] at hless
          omega
      · rw [walk_cons_stop rest heq hp] at h
        cases h

end Walk

/-- How often a cycle is begun in vain: once for each fault that comes before the first exchange of
a cycle has worked. -/
def lostBegins (scene : SamplerScene (UnsteadyBus α ε)) : Nat :=
  if scene.sampler.pointer = 0 then (scene.adc.faults.takeWhile Option.isSome).length else 0

theorem remaining_ne_nil {sampler : Sampler} (h : sampler.pointer = 0) :
    sampler.remaining ≠ [] := by
  rw [Sampler.remaining, h, List.drop_zero]
  cases sampler.schedule <;> exact List.cons_ne_nil _ _

/-- A burst that works loses no beginning, and is the burst on the steady bus. -/
theorem burst_steady_ok [Replier α] {scene left : SamplerScene (UnsteadyBus α ε)}
    {period : UInt32} (h : scene.burst = (.ok period, left)) :
    scene.steady.burst = (.ok period, left.steady) ∧ scene.lostBegins = 0 := by
  rcases hw : scene.burstWalk with ⟨fault | period', walked⟩
  · rw [burst_of_walk_error hw] at h
    cases h
  · rw [burst_of_walk_ok hw] at h
    cases h
    obtain ⟨hsteady, hfirst⟩ := walk_steady_ok _ hw
    refine ⟨?_, ?_⟩
    · rw [steady_finish]
      apply burst_of_walk_ok
      rw [burstWalk, ← steady_prepare]
      exact hsteady
    · unfold lostBegins
      split
      · rename_i hpointer
        rw [← adc_prepare, hfirst (remaining_ne_nil (by rw [pointer_prepare, hpointer]))]
        rfl
      · rfl

/-- A burst that failed behind the start of its cycle is picked up at the entry it failed at. -/
theorem burst_resume [Replier α] {scene middle : SamplerScene (UnsteadyBus α ε)} {fault : ε}
    {before rest : List Entry} (hw : scene.burstWalk = (.error fault, middle))
    (hsplit : scene.prepare.sampler.remaining = before ++ rest)
    (hpointer : middle.sampler.pointer = scene.sampler.pointer + before.length)
    (hnonzero : middle.sampler.pointer ≠ 0)
    (hwalk : walk scene.prepare.sampler.periods scene.prepare.sampler.remaining
        scene.prepare.steady
      = walk scene.prepare.sampler.periods rest middle.steady) :
    scene.steady.burst = middle.steady.burst := by
  have hturn := turn_walk scene.prepare.sampler.periods scene.prepare.sampler.remaining
    scene.prepare
  rw [← burstWalk, hw] at hturn
  obtain ⟨hconfig, hschedule, -, -⟩ := hturn
  have hperiods : middle.sampler.periods = scene.prepare.sampler.periods := by
    unfold Sampler.periods
    rw [hconfig, hschedule]
  have hremaining : middle.sampler.remaining = rest := by
    unfold Sampler.remaining at hsplit ⊢
    rw [hschedule, hpointer, ← List.drop_drop, ← pointer_prepare, hsplit, List.drop_left]
  have hprepared : middle.steady.prepare = middle.steady := prepare_of_pointer_ne hnonzero
  apply burst_congr
  rw [burstWalk, burstWalk, ← steady_prepare, hprepared]
  show walk scene.prepare.sampler.periods scene.prepare.sampler.remaining scene.prepare.steady
    = walk middle.sampler.periods middle.sampler.remaining middle.steady
  rw [hperiods, hremaining]
  exact hwalk

/-- A burst that fails at the first exchange of a cycle leaves the scene with the cycle begun and
the fault used up. A burst that fails anywhere else can be picked up where it ended. -/
theorem burst_steady_error [Replier α] {scene middle : SamplerScene (UnsteadyBus α ε)} {fault : ε}
    (h : scene.burst = (.error fault, middle)) :
    middle.adc.faults.length < scene.adc.faults.length ∧
      ((scene.lostBegins = middle.lostBegins + 1 ∧ middle.steady = scene.steady.beginCycle) ∨
        (scene.lostBegins = 0 ∧ middle.lostBegins = 0 ∧
          scene.steady.burst = middle.steady.burst)) := by
  rcases hw : scene.burstWalk with ⟨fault' | period, walked⟩
  · rw [burst_of_walk_error hw] at h
    cases h
    obtain ⟨before, rest, hsplit, hpointer, hwalk, hless, hnone, hsome⟩ := walk_resume _ hw
    rw [adc_prepare] at hless hnone hsome
    rw [pointer_prepare] at hpointer
    refine ⟨hless, ?_⟩
    by_cases hstart : scene.sampler.pointer = 0 ∧ before = []
    · -- the fault came before anything was exchanged, so the retry begins the cycle again
      obtain ⟨hzero, hnil⟩ := hstart
      obtain ⟨hfaults, hsteady⟩ := hnone hnil
      left
      refine ⟨?_, ?_⟩
      · simp only [lostBegins, hpointer, hzero, hnil, List.length_nil, Nat.add_zero, if_true,
          hfaults]
        rfl
      · rw [hsteady, steady_prepare]
        exact prepare_of_pointer_eq hzero
    · -- the pointer has left the start, so the retry begins no cycle and walks on behind it
      right
      have hmiddle : scene.sampler.pointer ≠ 0 → middle.sampler.pointer ≠ 0 := by
        rw [hpointer]
        omega
      have hbefore : before ≠ [] → middle.sampler.pointer ≠ 0 := by
        intro hne
        rw [hpointer]
        have := List.length_pos_iff.mpr hne
        omega
      have hnonzero : middle.sampler.pointer ≠ 0 := by
        by_cases hzero : scene.sampler.pointer = 0
        · exact hbefore fun hnil => hstart ⟨hzero, hnil⟩
        · exact hmiddle hzero
      refine ⟨?_, if_neg hnonzero, ?_⟩
      · unfold lostBegins
        split
        · rename_i hzero
          rw [hsome fun hnil => hstart ⟨hzero, hnil⟩]
          rfl
        · rfl
      · exact burst_resume hw hsplit hpointer hnonzero hwalk
  · rw [burst_of_walk_ok hw] at h
    cases h

/-- Retrying ends, with what one burst on the steady bus leaves when the cycle was begun as often
before as it was begun in vain. -/
theorem exists_retried [Replier α] (n : Nat) :
    ∀ scene : SamplerScene (UnsteadyBus α ε), scene.adc.faults.length ≤ n →
      ∃ period left, Retried scene period left ∧
        (beginCycle^[scene.lostBegins] scene.steady).burst = (.ok period, left.steady) := by
  -- every retry shortens the list of faults, so its length bounds their number
  induction n with
  | zero =>
    intro scene hn
    rcases hb : scene.burst with ⟨fault | period, left⟩
    · have := (burst_steady_error hb).1
      omega
    · obtain ⟨hsteady, hlost⟩ := burst_steady_ok hb
      exact ⟨period, left, .works hb, by rw [hlost]; exact hsteady⟩
  | succ n ih =>
    intro scene hn
    rcases hb : scene.burst with ⟨fault | period, left⟩
    · obtain ⟨hless, hcases⟩ := burst_steady_error hb
      obtain ⟨period, left', hretried, hburst⟩ := ih left (by omega)
      refine ⟨period, left', .again hb hretried, ?_⟩
      rcases hcases with ⟨hlost, hsteady⟩ | ⟨hlost, hlost', hsame⟩
      · rw [hlost, Function.iterate_succ_apply, ← hsteady]
        exact hburst
      · rw [hlost'] at hburst
        rw [hlost]
        exact hsame.trans hburst
    · obtain ⟨hsteady, hlost⟩ := burst_steady_ok hb
      exact ⟨period, left, .works hb, by rw [hlost]; exact hsteady⟩

/-! ## Cycles begun in vain -/

/-- Four turns bring the turn back to the same port. -/
theorem next_iterate_four_mul (m : Nat) : Port.next^[4 * m] = id := by
  have hfour : Port.next^[4] = id := by
    funext port
    cases port <;> rfl
  rw [Function.iterate_mul, hfour, Function.iterate_id]

/-- Beginning a cycle many times passes the turn on and counts as often, and does nothing else. -/
theorem beginCycle_iterate (n : Nat) (scene : SamplerScene α) :
    beginCycle^[n] scene =
      { scene with
        sampler := { scene.sampler with colorPort := Port.next^[n] scene.sampler.colorPort }
        board := { scene.board with cycles := scene.board.cycles + UInt32.ofNat n } } := by
  induction n with
  | zero =>
    simp
  | succ n ih =>
    rw [Function.iterate_succ_apply', ih, Function.iterate_succ_apply']
    simp only [beginCycle, UInt32.ofNat_add, UInt32.add_assoc]
    rfl

/-- Cycles begun in vain go unnoticed exactly when both the count of cycles and the turn of the ports
have come full circle. -/
theorem beginCycle_iterate_burst_iff [Converter α ε] {n : Nat} {scene left : SamplerScene α}
    {period : UInt32} (hstart : n ≠ 0 → scene.sampler.pointer = 0)
    (h : (beginCycle^[n] scene).burst = (.ok period, left)) :
    scene.burst = (.ok period, left) ↔ 2 ^ 32 ∣ n := by
  constructor
  · intro hburst
    by_cases hn : n = 0
    · rw [hn]
      exact Nat.dvd_zero _
    -- the counts of cycles alone tell the two bursts apart
    have hsame : (beginCycle^[n] scene).burst.2.board.cycles = scene.burst.2.board.cycles := by
      rw [h, hburst]
    have hpointer : (beginCycle^[n] scene).sampler.pointer = 0 := by
      rw [beginCycle_iterate]
      exact hstart hn
    rw [cycles_burst, cycles_burst, prepare_of_pointer_eq hpointer,
      prepare_of_pointer_eq (hstart hn), beginCycle_iterate] at hsame
    have hcount : scene.board.cycles + UInt32.ofNat n = scene.board.cycles := by
      simpa [beginCycle] using hsame
    have hzero : UInt32.ofNat n = 0 := by simpa using hcount
    have hmod := congrArg UInt32.toNat hzero
    rw [UInt32.toNat_ofNat'] at hmod
    exact Nat.dvd_of_mod_eq_zero hmod
  · -- the count wraps around, and so does the turn: four divides 2 ^ 32
    rintro ⟨m, rfl⟩
    have hturn : Port.next^[2 ^ 32 * m] = id := by
      rw [show 2 ^ 32 * m = 4 * (2 ^ 30 * m) by omega]
      exact next_iterate_four_mul _
    have hcount : UInt32.ofNat (2 ^ 32 * m) = 0 := by
      apply UInt32.toNat_inj.mp
      rw [UInt32.toNat_ofNat', Nat.mul_mod_right]
      rfl
    rw [beginCycle_iterate, hturn, hcount] at h
    simpa using h

/-- **Faults on the bus go unnoticed, but for those at the beginning of a cycle.** Over any
converter and any faults, a burst that is begun again until it works has exactly one outcome. It is
what one burst on a bus without faults leaves, pause and all, when the cycle was begun `lostBegins`
times before; and it is what that burst leaves of the scene as it stands exactly when `lostBegins`
is a multiple of 2 ^ 32. -/
theorem retried_burst [Replier α] (scene : SamplerScene (UnsteadyBus α ε)) :
    ∃ period left,
      (∀ period' left', Retried scene period' left' ↔ period' = period ∧ left' = left) ∧
        (beginCycle^[scene.lostBegins] scene.steady).burst = (.ok period, left.steady) ∧
          (scene.steady.burst = (.ok period, left.steady) ↔ 2 ^ 32 ∣ scene.lostBegins) := by
  obtain ⟨period, left, hretried, hburst⟩ := exists_retried _ scene (Nat.le_refl _)
  refine ⟨period, left, ?_, hburst, ?_⟩
  · intro period' left'
    constructor
    · intro h
      exact h.unique hretried
    · rintro ⟨rfl, rfl⟩
      exact hretried
  · refine beginCycle_iterate_burst_iff (fun hlost => ?_) hburst
    by_contra hpointer
    exact hlost (if_neg hpointer)

/-- One fault at the very first exchange: the retried burst serves the port after the next and has
counted two cycles. -/
example :
    let scene : SamplerScene (UnsteadyBus Multiplexer BusFault) :=
      ⟨{ config := {} }, { inner := {}, faults := [some .noAnswer] }, {}, #[]⟩
    scene.lostBegins = 1 ∧ scene.burst.2.burst.2.board.cycles = 2 ∧
      scene.burst.2.burst.2.sampler.colorPort = .p3 ∧
      scene.steady.burst.2.board.cycles = 1 ∧ scene.steady.burst.2.sampler.colorPort = .p2 := by
  decide

end SamplerScene

end PlugWatch
