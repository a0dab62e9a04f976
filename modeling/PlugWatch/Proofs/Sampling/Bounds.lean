import PlugWatch.Proofs.Sampling.Coverage
/-!
# The sampler stays within its tables

Two tables of different lengths share one position, and whether the next cycle walks the one or the other
is up to flags that others set. A burst that fails leaves the position in the middle. All the same the
position is always within the running table: it goes back to the first entry before the table changes, and
it never passes an entry that has not worked.

The sampler walks the entries that are left of the table, and cannot leave that list. A sampler that has a
position only has to look every entry up. Here is its loop, in which a look-up that finds nothing is a
fault, and it is shown to do what the walk does.

## Main Definitions

* `SamplerScene.loop?`, `SamplerScene.burstAt?` : a walk and a burst that look every entry up.
* `Sampler.Surroundings`, `Sampler.behind` : what a burst is called with, and the sampler behind any number
  of calls.
* `Sampler.InTables` : the bounds of the position and of the turn of the slow slots.

## Main Statements

* `SamplerScene.burstAt?_eq` : a burst that looks every entry up has no faults.
* `SamplerScene.inTables_burst` : a burst keeps the bounds, whether it works or not.
* `Sampler.never_leaves_tables` : what is so in front of and behind every call.
-/

namespace PlugWatch

/-- The bounds of the sampler: the position is within the running table, and the turn is that of a slow
slot. -/
structure Sampler.InTables (sampler : Sampler) : Prop where
  pointer : sampler.pointer < sampler.schedule.entries.length
  slow : Slot.slowBase.val ≤ sampler.slowSlot.val

theorem Slot.slowBase_le_nextSlow {slot : Slot} (h : slowBase.val ≤ slot.val) :
    slowBase.val ≤ slot.nextSlow.val := by
  unfold nextSlow
  split
  · exact Nat.le_succ_of_le h
  · exact Nat.le_refl _

namespace SamplerScene

variable {α ε : Type} [Converter α ε]

/-! ## Looking every entry up -/

omit [Converter α ε] in
/-- What is done with an entry moves the position on and keeps the table. -/
theorem left_lt_of_apply {scene after : SamplerScene α} {entry : Entry} {counts : UInt16}
    (hsampler : after.sampler = scene.sampler)
    (h : scene.sampler.pointer < scene.sampler.schedule.entries.length) :
    (after.apply entry counts).sampler.schedule.entries.length -
        (after.apply entry counts).sampler.pointer <
      scene.sampler.schedule.entries.length - scene.sampler.pointer := by
  rw [schedule_apply, pointer_apply, hsampler]
  omega

/-- Works through entries up to the first pause or fault. Every entry is looked up at the position, and
one that is not there is a fault of the loop. -/
def loop? (periods : Periods) (scene : SamplerScene α) :
    Option (Except ε UInt32 × SamplerScene α) :=
  match _ : scene.sampler.schedule.entries[scene.sampler.pointer]? with
  | none => none
  | some entry =>
    match _ : scene.exchange (scene.sampler.requestWord entry) with
    | (.error fault, after) => some (.error fault, after)
    | (.ok counts, after) =>
      match entry.pause with
      | .none =>
        if scene.sampler.pointer + 1 < scene.sampler.schedule.entries.length then
          loop? periods (after.apply entry counts)
        else some (.ok periods.short, after.apply entry counts)
      | .short => some (.ok periods.short, after.apply entry counts)
      | .long => some (.ok periods.long, after.apply entry counts)
termination_by scene.sampler.schedule.entries.length - scene.sampler.pointer
decreasing_by
  rename_i hentry hexchange _
  exact left_lt_of_apply (sampler_of_exchange hexchange)
    (List.getElem?_eq_some_iff.mp hentry).1

/-- One burst that looks every entry up. -/
def burstAt? (scene : SamplerScene α) : Option (Except ε UInt32 × SamplerScene α) :=
  match loop? scene.prepare.sampler.periods scene.prepare with
  | none => none
  | some (.ok period, left) => some (.ok period, left.finish)
  | some (.error fault, left) => some (.error fault, left)

section Loop

variable {scene after : SamplerScene α} {entry : Entry} {counts : UInt16} {periods : Periods}

omit [Converter α ε] in
/-- An entry that is found at the position is the first one that is left. -/
theorem remaining_of_getElem?
    (h : scene.sampler.schedule.entries[scene.sampler.pointer]? = some entry) :
    scene.sampler.remaining =
      entry :: scene.sampler.schedule.entries.drop (scene.sampler.pointer + 1) := by
  obtain ⟨hlt, rfl⟩ := List.getElem?_eq_some_iff.mp h
  exact List.drop_eq_getElem_cons hlt

omit [Converter α ε] in
/-- Behind an entry the ones behind it are left. -/
theorem remaining_apply (hsampler : after.sampler = scene.sampler) :
    (after.apply entry counts).sampler.remaining =
      scene.sampler.schedule.entries.drop (scene.sampler.pointer + 1) := by
  rw [Sampler.remaining, schedule_apply, pointer_apply, hsampler]

/-- Within the table the loop has no faults, and does what the walk does. -/
theorem loop?_eq (h : scene.OnTable) :
    loop? periods scene = some (walk periods scene.sampler.remaining scene) := by
  fun_induction loop? periods scene with
  | case1 scene hentry =>
    rw [List.getElem?_eq_none_iff] at hentry
    exact absurd h (Nat.not_lt.mpr hentry)
  | case2 scene entry hentry fault after hexchange =>
    rw [remaining_of_getElem? hentry, walk_cons_error _ hexchange]
  | case3 scene entry hentry counts after hexchange hpause hmore ih =>
    have hnext : (after.apply entry counts).OnTable := by
      rw [OnTable, schedule_apply, pointer_apply, sampler_of_exchange hexchange]
      exact hmore
    rw [remaining_of_getElem? hentry, walk_cons_go _ hexchange hpause, ih hnext,
      remaining_apply (sampler_of_exchange hexchange)]
  | case4 scene entry hentry counts after hexchange hpause hend =>
    rw [remaining_of_getElem? hentry, walk_cons_go _ hexchange hpause,
      List.drop_eq_nil_of_le (Nat.not_lt.mp hend), walk]
  | case5 scene entry hentry counts after hexchange hpause =>
    rw [remaining_of_getElem? hentry, walk_cons_stop _ hexchange (by rw [hpause]; decide), hpause,
      if_pos rfl]
  | case6 scene entry hentry counts after hexchange hpause =>
    rw [remaining_of_getElem? hentry, walk_cons_stop _ hexchange (by rw [hpause]; decide), hpause,
      if_neg (by decide)]

/-- A burst looks up what its walk works through. -/
theorem loop?_prepare (h : scene.OnTable) :
    loop? scene.prepare.sampler.periods scene.prepare = some scene.burstWalk := by
  refine loop?_eq ?_
  rw [OnTable, schedule_prepare, pointer_prepare]
  exact h

/-- **A burst that looks every entry up has no faults** if it starts within the table, and does what a
burst does. -/
theorem burstAt?_eq (h : scene.OnTable) : scene.burstAt? = some scene.burst := by
  rw [burstAt?, loop?_prepare h]
  rcases hwalk : scene.burstWalk with ⟨fault | period, left⟩
  · rw [burst_of_walk_error hwalk]
  · rw [burst_of_walk_ok hwalk]

/-- A loop that works ends with the table, or behind an entry that asks for a pause. -/
theorem loop?_ends {period : UInt32} {left : SamplerScene α}
    (h : loop? periods scene = some (.ok period, left)) :
    left.sampler.schedule.entries.length ≤ left.sampler.pointer ∨
      ∃ k entry, left.sampler.pointer = k + 1 ∧ left.sampler.schedule.entries[k]? = some entry ∧
        entry.pause ≠ .none := by
  -- behind an exchange that works the entry stands in front of the position
  have hbehind : ∀ {scene after : SamplerScene α} {entry : Entry} {word counts : UInt16},
      scene.sampler.schedule.entries[scene.sampler.pointer]? = some entry →
      scene.exchange word = (.ok counts, after) → entry.pause ≠ .none →
      ∃ k entry', (after.apply entry counts).sampler.pointer = k + 1 ∧
        (after.apply entry counts).sampler.schedule.entries[k]? = some entry' ∧
        entry'.pause ≠ .none := by
    intro scene after entry word counts hentry hexchange hpause
    have hsampler := sampler_of_exchange hexchange
    refine ⟨scene.sampler.pointer, entry, ?_, ?_, hpause⟩
    · rw [pointer_apply, hsampler]
    · rw [schedule_apply, hsampler]
      exact hentry
  fun_induction loop? periods scene with
  | case1 => cases h
  | case2 => cases h
  | case3 scene entry hentry counts after hexchange hpause hmore ih => exact ih h
  | case4 scene entry hentry counts after hexchange hpause hend =>
    cases h
    rw [schedule_apply, pointer_apply, sampler_of_exchange hexchange]
    exact .inl (Nat.not_lt.mp hend)
  | case5 scene entry hentry counts after hexchange hpause =>
    cases h
    exact .inr (hbehind hentry hexchange (by rw [hpause]; decide))
  | case6 scene entry hentry counts after hexchange hpause =>
    cases h
    exact .inr (hbehind hentry hexchange (by rw [hpause]; decide))

end Loop

/-! ## The bounds -/

section Bounds

variable {scene : SamplerScene α}

/-- A burst leaves the turn with a slow slot. -/
theorem slow_burst (h : Slot.slowBase.val ≤ scene.sampler.slowSlot.val) :
    Slot.slowBase.val ≤ scene.burst.2.sampler.slowSlot.val := by
  have hwalk : Slot.slowBase.val ≤ scene.burstWalk.2.sampler.slowSlot.val := by
    refine walk_preserves (P := fun left => Slot.slowBase.val ≤ left.sampler.slowSlot.val) ?_ ?_ _ _
      (by rwa [slowSlot_prepare])
    · intro left word hleft
      rwa [sampler_exchange]
    · intro left entry counts hleft
      rw [slowSlot_apply, Entry.turnBehind]
      split
      · exact Slot.slowBase_le_nextSlow hleft
      · exact hleft
  rcases burst_snd scene with hburst | hburst
  · rwa [hburst]
  · rwa [hburst, slowSlot_finish]

/-- **A burst keeps the bounds**, whether it works or not. -/
theorem inTables_burst (h : scene.sampler.InTables) : scene.burst.2.sampler.InTables :=
  ⟨onTable_burst h.pointer, slow_burst h.slow⟩

/-- A burst that works ends with the cycle, or behind an entry that asks for a pause. -/
theorem pointer_burst_ok (h : scene.OnTable) {period : UInt32} (hok : scene.burst.1 = .ok period) :
    scene.burst.2.sampler.pointer = 0 ∨
      ∃ k entry, scene.burst.2.sampler.pointer = k + 1 ∧
        scene.burst.2.sampler.schedule.entries[k]? = some entry ∧ entry.pause ≠ .none := by
  rcases hwalk : scene.burstWalk with ⟨fault | period', left⟩
  · rw [burst_of_walk_error hwalk] at hok
    cases hok
  · rw [burst_of_walk_ok hwalk]
    dsimp only
    unfold finish
    split
    · exact .inl (completeCycle_eq _).2.1
    · rename_i hwithin
      have hends := loop?_ends ((loop?_prepare h).trans (congrArg some hwalk))
      exact .inr (hends.resolve_left hwithin)

/-- A burst changes the table only if it leaves the position at the first entry. -/
theorem schedule_burst_of_pointer_ne (hpointer : scene.burst.2.sampler.pointer ≠ 0) :
    scene.burst.2.sampler.schedule = scene.sampler.schedule := by
  have hwalk := (position_burstWalk scene).2
  rcases burst_snd scene with hburst | hburst
  · rw [hburst, hwalk]
  · rw [hburst, finish] at hpointer ⊢
    split
    · rename_i hend
      rw [if_pos hend, (completeCycle_eq _).2.1] at hpointer
      exact absurd rfl hpointer
    · exact hwalk

end Bounds

end SamplerScene

/-! ## Calls -/

namespace Sampler

/-- What a burst is called with: a converter, a board, and what was written down so far. -/
structure Surroundings (α : Type) where
  adc : α
  board : Board
  journal : Journal

variable {α ε : Type} [Converter α ε]

/-- The sampler in its surroundings. -/
def within (sampler : Sampler) (around : Surroundings α) : SamplerScene α :=
  ⟨sampler, around.adc, around.board, around.journal⟩

/-- The sampler behind a call. -/
def call (sampler : Sampler) (around : Surroundings α) : Sampler :=
  (sampler.within around).burst.2.sampler

/-- The sampler behind calls, one after the other, each of them in surroundings of its own. -/
def behind (sampler : Sampler) (calls : List (Surroundings α)) : Sampler := calls.foldl call sampler

omit [Converter α ε] in
theorem inTables_new (config : SamplerConfig) : InTables { config := config } :=
  ⟨Schedule.length_entries_pos _, Nat.le_refl _⟩

theorem inTables_behind {sampler : Sampler} (h : sampler.InTables) (calls : List (Surroundings α)) :
    (sampler.behind calls).InTables := by
  induction calls generalizing sampler with
  | nil => exact h
  | cons around rest ih => exact ih (SamplerScene.inTables_burst h)

/-- **The sampler never leaves its tables.** A new sampler is called any number of times. Between two calls
the converter, which may answer or fail as it likes, the board and with it the handshakes become whatever
they like.

* In front of a call the position is within the running table, the turn is that of a slow slot, and the
  port served is one of four.
* In the call every entry that is looked up is there.
* The call changes the table only if it leaves the position at the first entry.
* If the call works, it leaves the position at the first entry or right behind one that asks for a
  pause. -/
theorem never_leaves_tables (config : SamplerConfig) (calls : List (Surroundings α))
    (around : Surroundings α) :
    let before : Sampler := Sampler.behind { config := config } calls
    let scene := before.within around
    let after := before.call around
    (before.pointer < before.schedule.entries.length ∧
        8 ≤ before.slowSlot.val ∧ before.slowSlot.val ≤ 15 ∧ before.colorPort.index < 4) ∧
      scene.burstAt? = some scene.burst ∧
      (after.schedule ≠ before.schedule → after.pointer = 0) ∧
      (∀ period, scene.burst.1 = .ok period →
        after.pointer = 0 ∨
          ∃ k entry, after.pointer = k + 1 ∧ after.schedule.entries[k]? = some entry ∧
            entry.pause ≠ .none) := by
  intro before scene after
  have hbounds : before.InTables := inTables_behind (inTables_new config) calls
  have htable : scene.OnTable := hbounds.pointer
  refine ⟨⟨hbounds.pointer, hbounds.slow, Nat.le_of_lt_succ before.slowSlot.isLt,
    before.colorPort.index_lt⟩, SamplerScene.burstAt?_eq htable, fun hchanged => ?_,
    fun period hok => SamplerScene.pointer_burst_ok htable hok⟩
  exact Decidable.byContradiction fun hpointer =>
    hchanged (SamplerScene.schedule_burst_of_pointer_ne hpointer)

end Sampler

end PlugWatch
