/-!
# Deadlines of the periodic jobs

Instants are microseconds in a word of 64 bits. A deadline that lies past the last instant has no word,
so moving a deadline on comes with the question whether that is possible.

## Main Definitions

* `Job` : the periodic jobs, in the order in which they run at one instant.
* `Overflow` : the words that can turn out to be too short.
* `Clock` : the present instant and the deadlines, in microseconds.
* `Clock.overflow?` : whether an instant and a period together are no instant any more.
* `Clock.next` : the job that is due first.
* `Clock.pendingAt` : how many jobs are due at an instant.

## Main Statements

* `Clock.toNat_after` : where the sum of an instant and a period is an instant, it is the exact one.
* `Clock.next_le_sampleDue`, `Clock.next_le_manageDue`, `Clock.next_le_colorDue` : no deadline lies
  before the first one.
* `Clock.measure_decreases` : once the first job has run and its deadline has moved on, either the
  first deadline has moved on too, or one job fewer is pending there.
-/

namespace PlugWatch

/-- The periodic jobs, in the order in which they run at one instant. -/
inductive Job where
  /-- A burst of the sampler. -/
  | sample
  /-- A tick of the connection manager. -/
  | manage
  /-- A period of the bit timer. -/
  | color
  deriving DecidableEq, Repr

/-- A word that is too short for its next value. -/
inductive Overflow where
  /-- A deadline past the last instant. -/
  | deadline
  /-- A count of ticks. -/
  | count
  deriving DecidableEq, Repr

/-- The present instant and the deadlines of the jobs, in microseconds. -/
structure Clock where
  now : UInt64 := 0
  sampleDue : UInt64
  manageDue : UInt64
  /-- The deadline of the bit timer, while it is armed. -/
  colorDue : Option UInt64 := none
  deriving DecidableEq, Repr

namespace Clock

/-! ## Instants and periods -/

/-- The instant a period behind another one, round the end of the word. -/
def after (instant : UInt64) (period : UInt32) : UInt64 := instant + period.toUInt64

/-- The overflow of a deadline a period behind an instant, where there is no such instant. -/
def overflow? (instant : UInt64) (period : UInt32) : Option Overflow :=
  if instant.toNat + period.toNat < UInt64.size then none else some .deadline

theorem overflow?_eq_none_iff {instant : UInt64} {period : UInt32} :
    overflow? instant period = none ↔ instant.toNat + period.toNat < UInt64.size := by
  unfold overflow?
  split <;> simp_all

theorem overflow?_eq_some {instant : UInt64} {period : UInt32} {word : Overflow}
    (h : overflow? instant period = some word) :
    word = .deadline ∧ UInt64.size ≤ instant.toNat + period.toNat := by
  unfold overflow? at h
  split at h
  · cases h
  · rename_i hlate
    exact ⟨(Option.some.inj h).symm, Nat.not_lt.mp hlate⟩

theorem toNat_after {instant : UInt64} {period : UInt32} (h : overflow? instant period = none) :
    (after instant period).toNat = instant.toNat + period.toNat := by
  rw [after, UInt64.toNat_add, UInt32.toNat_toUInt64]
  exact Nat.mod_eq_of_lt (overflow?_eq_none_iff.mp h)

theorem lt_after {instant : UInt64} {period : UInt32} (h : overflow? instant period = none)
    (hperiod : 0 < period.toNat) : instant < after instant period := by
  rw [UInt64.lt_iff_toNat_lt, toNat_after h]
  omega

theorem toNat_max (a b : UInt64) : (max a b).toNat = max a.toNat b.toNat := by
  show (if a ≤ b then b else a).toNat = _
  split
  · rename_i h
    rw [UInt64.le_iff_toNat_le] at h
    omega
  · rename_i h
    rw [UInt64.le_iff_toNat_le] at h
    omega

instance : Std.LawfulOrderMax UInt64 where
  max_le_iff a b c := by
    simp only [UInt64.le_iff_toNat_le, toNat_max, Nat.max_le]
  max_eq_or a b := by
    show (if a ≤ b then b else a) = a ∨ (if a ≤ b then b else a) = b
    split
    · exact .inr rfl
    · exact .inl rfl

/-! ## Deadlines -/

/-- The deadline of a job, if it has one. -/
def due? (clock : Clock) : Job → Option UInt64
  | .sample => some clock.sampleDue
  | .manage => some clock.manageDue
  | .color => clock.colorDue

/-- The job that is due first, and when. Of jobs due at the same instant the sampler comes first
and the bit timer last. -/
def next (clock : Clock) : UInt64 × Job :=
  let first :=
    if clock.manageDue < clock.sampleDue then (clock.manageDue, Job.manage)
    else (clock.sampleDue, Job.sample)
  match clock.colorDue with
  | none => first
  | some due => if due < first.1 then (due, .color) else first

/-- Number of jobs due at an instant. -/
def pendingAt (clock : Clock) (instant : UInt64) : Nat :=
  (if clock.sampleDue = instant then 1 else 0) + (if clock.manageDue = instant then 1 else 0)
    + (if clock.colorDue = some instant then 1 else 0)

/-- Moves the deadline of the sampler on by a pause. -/
def delaySample (clock : Clock) (period : UInt32) : Clock :=
  { clock with sampleDue := after clock.sampleDue period }

/-- Moves the deadline of the connection manager on by a tick. -/
def delayManage (clock : Clock) (tick : UInt32) : Clock :=
  { clock with manageDue := after clock.manageDue tick }

/-- Sets the deadline of the bit timer a period ahead of the present instant. -/
def rearmColor (clock : Clock) (period : UInt32) : Clock :=
  { clock with colorDue := some (after clock.now period) }

/-- Arms the bit timer when it is wanted and not armed, and disarms it when it is not wanted. -/
def syncColor (clock : Clock) (wanted : Bool) (period : UInt32) : Clock :=
  match wanted, clock.colorDue with
  | true, none => clock.rearmColor period
  | false, some _ => { clock with colorDue := none }
  | _, _ => clock

/-- The overflow of bringing the bit timer in line, where it has to be armed and cannot be. -/
def syncOverflow? (clock : Clock) (wanted : Bool) (period : UInt32) : Option Overflow :=
  match wanted, clock.colorDue with
  | true, none => overflow? clock.now period
  | _, _ => none

theorem next_le_sampleDue (clock : Clock) : clock.next.1 ≤ clock.sampleDue := by
  unfold next
  cases clock.colorDue <;> grind

theorem next_le_manageDue (clock : Clock) : clock.next.1 ≤ clock.manageDue := by
  unfold next
  cases clock.colorDue <;> grind

theorem next_le_colorDue (clock : Clock) {due : UInt64} (h : clock.colorDue = some due) :
    clock.next.1 ≤ due := by
  unfold next
  rw [h]
  grind

/-- The first job is due at the instant that is answered with it. -/
theorem due?_next (clock : Clock) : clock.due? clock.next.2 = some clock.next.1 := by
  unfold next due?
  cases h : clock.colorDue <;> grind

theorem syncColor_sampleDue (clock : Clock) (wanted : Bool) (period : UInt32) :
    (clock.syncColor wanted period).sampleDue = clock.sampleDue := by
  unfold syncColor
  split <;> rfl

theorem syncColor_manageDue (clock : Clock) (wanted : Bool) (period : UInt32) :
    (clock.syncColor wanted period).manageDue = clock.manageDue := by
  unfold syncColor
  split <;> rfl

theorem syncColor_now (clock : Clock) (wanted : Bool) (period : UInt32) :
    (clock.syncColor wanted period).now = clock.now := by
  unfold syncColor
  split <;> rfl

/-- Bringing the bit timer in line keeps its deadline, or leaves one that lies ahead. -/
theorem syncColor_colorDue (clock : Clock) (wanted : Bool) {period : UInt32}
    (h : 0 < period.toNat) (hfits : clock.syncOverflow? wanted period = none) :
    (clock.syncColor wanted period).colorDue = clock.colorDue ∨
      ∀ due, (clock.syncColor wanted period).colorDue = some due → clock.now < due := by
  unfold syncColor
  unfold syncOverflow? at hfits
  split
  · rename_i hwanted hidle
    rw [hidle] at hfits
    right
    intro due hd
    exact Option.some.inj hd ▸ lt_after hfits h
  · right
    intro due hd
    simp at hd
  · left
    rfl

/-- An armed bit timer is not armed again. -/
theorem syncOverflow?_of_armed {clock : Clock} (h : clock.colorDue.isSome = true) (wanted : Bool)
    (period : UInt32) : clock.syncOverflow? wanted period = none := by
  obtain ⟨due, hdue⟩ := Option.isSome_iff_exists.mp h
  unfold syncOverflow?
  rw [hdue]
  cases wanted <;> rfl

/-- How the deadlines may change when the first job runs: its own moves past the instant, and the
others stay or move past it too. -/
structure MovesOn (before after : Clock) (job : Job) : Prop where
  sample : after.sampleDue = before.sampleDue ∨ before.next.1 < after.sampleDue
  manage : after.manageDue = before.manageDue ∨ before.next.1 < after.manageDue
  color : after.colorDue = before.colorDue ∨
    ∀ due, after.colorDue = some due → before.next.1 < due
  own : ∀ due, after.due? job = some due → before.next.1 < due

/-- The sampler's deadline moves past the instant it was due. -/
theorem movesOn_sample {clock : Clock} {period : UInt32} (h : 0 < period.toNat)
    (hfits : overflow? clock.sampleDue period = none) :
    MovesOn clock (Clock.delaySample { clock with now := clock.next.1 } period) .sample := by
  have hlater : clock.next.1 < after clock.sampleDue period :=
    UInt64.lt_of_le_of_lt clock.next_le_sampleDue (lt_after hfits h)
  refine ⟨Or.inr hlater, Or.inl rfl, Or.inl rfl, fun due hd => ?_⟩
  exact Option.some.inj hd ▸ hlater

/-- The manager's deadline moves past the instant it was due, whatever becomes of the bit
timer. -/
theorem movesOn_manage {clock : Clock} {tick period : UInt32} (ht : 0 < tick.toNat)
    (hp : 0 < period.toNat) {wanted : Bool}
    (harmed : syncOverflow? { clock with now := clock.next.1 } wanted period = none)
    (hfits : overflow? clock.manageDue tick = none) :
    MovesOn clock
      ((Clock.syncColor { clock with now := clock.next.1 } wanted period).delayManage tick)
      .manage := by
  have hlater : clock.next.1 < after clock.manageDue tick :=
    UInt64.lt_of_le_of_lt clock.next_le_manageDue (lt_after hfits ht)
  have hdue : ((Clock.syncColor { clock with now := clock.next.1 } wanted period).delayManage
      tick).manageDue = after clock.manageDue tick := by
    simp only [delayManage, syncColor_manageDue]
  refine ⟨Or.inl ?_, Or.inr (hdue ▸ hlater), ?_, fun due hd => ?_⟩
  · simp only [delayManage, syncColor_sampleDue]
  · exact syncColor_colorDue { clock with now := clock.next.1 } wanted hp harmed
  · simp only [due?, hdue, Option.some.injEq] at hd
    exact hd ▸ hlater

/-- The bit timer's deadline moves past the instant it was due, or the timer is disarmed. -/
theorem movesOn_color {clock : Clock} {period : UInt32} (hp : 0 < period.toNat)
    (wanted : Bool) (hfits : overflow? clock.next.1 period = none) :
    MovesOn clock
      ((Clock.rearmColor { clock with now := clock.next.1 } period).syncColor wanted period)
      .color := by
  have hcolor : ∀ due,
      ((Clock.rearmColor { clock with now := clock.next.1 } period).syncColor wanted
        period).colorDue = some due → clock.next.1 < due := by
    intro due hd
    rcases syncColor_colorDue (Clock.rearmColor { clock with now := clock.next.1 } period) wanted
      hp (syncOverflow?_of_armed rfl wanted period) with h | h
    · rw [h] at hd
      exact Option.some.inj hd ▸ lt_after hfits hp
    · exact h due hd
  refine ⟨Or.inl ?_, Or.inl ?_, Or.inr hcolor, hcolor⟩
  · simp only [syncColor_sampleDue, rearmColor]
  · simp only [syncColor_manageDue, rearmColor]

theorem measure_decreases {before after : Clock} {target : UInt64}
    (h : MovesOn before after before.next.2) (hle : before.next.1 ≤ target) :
    Prod.Lex (· < ·) (· < ·)
      (target.toNat + 1 - after.next.1.toNat, after.pendingAt after.next.1)
      (target.toNat + 1 - before.next.1.toNat, before.pendingAt before.next.1) := by
  have hs := next_le_sampleDue before
  have hm := next_le_manageDue before
  have hk := fun (due : UInt64) (hd : before.colorDue = some due) => next_le_colorDue before hd
  have hd := due?_next before
  obtain ⟨h1, h2, h3, h4⟩ := h
  have hge : before.next.1 ≤ after.next.1 := by
    have hd' := due?_next after
    cases hj : after.next.2 with
    | sample => rw [hj] at hd'; simp only [due?, Option.some.injEq] at hd'; grind
    | manage => rw [hj] at hd'; simp only [due?, Option.some.injEq] at hd'; grind
    | color =>
      rw [hj] at hd'
      simp only [due?] at hd'
      rcases h3 with h3 | h3
      · exact hk _ (h3 ▸ hd')
      · exact UInt64.le_of_lt (h3 _ hd')
  by_cases hlt : before.next.1 < after.next.1
  · rw [UInt64.le_iff_toNat_le] at hle
    rw [UInt64.lt_iff_toNat_lt] at hlt
    exact Prod.Lex.left _ _ (by omega)
  · have heq : before.next.1 = after.next.1 := by grind
    rw [← heq]
    refine Prod.Lex.right _ ?_
    unfold pendingAt
    cases hj : before.next.2 with
    | sample =>
      rw [hj] at hd h4
      simp only [due?, Option.some.injEq] at hd h4
      have := h4 _ rfl
      grind
    | manage =>
      rw [hj] at hd h4
      simp only [due?, Option.some.injEq] at hd h4
      have := h4 _ rfl
      grind
    | color =>
      rw [hj] at hd h4
      simp only [due?] at hd h4
      grind

end Clock

end PlugWatch
