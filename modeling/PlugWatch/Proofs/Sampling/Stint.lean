import PlugWatch.Proofs.Timing.Subdivision
/-!
# How far a burst gets

A burst works through entries until one of them asks for a pause or its exchange fails. That it ends at
all is a matter of the tables: the position stays within the running table, and the last entry of either
table asks for a pause, so a burst never runs off the end.

## Main Definitions

* `stint` : the entries of a table up to the first pause.
* `SamplerScene.words` : the words that a walk sends, also the one that fails.
* `SamplerScene.OnTable` : the position is within the running table.

## Main Statements

* `SamplerScene.entries_deliveries` : a walk that works gets through a stint.
* `SamplerScene.onTable_burst` : a burst leaves the position within the table.
* `SamplerScene.burst_sends` : what a burst sends, and where it ends.
* `Controller.Reachable.onTable` : the position is always within the table.
-/

namespace PlugWatch

/-! ## Stints -/

/-- The entries up to the first one that asks for a pause, that one included. -/
def stint : List Entry → List Entry
  | [] => []
  | entry :: rest => if entry.pause = .none then entry :: stint rest else [entry]

theorem stint_cons_go {entry : Entry} (rest : List Entry) (h : entry.pause = .none) :
    stint (entry :: rest) = entry :: stint rest := if_pos h

theorem stint_cons_stop {entry : Entry} (rest : List Entry) (h : entry.pause ≠ .none) :
    stint (entry :: rest) = [entry] := if_neg h

/-- Wherever a stint begins within a table, it ends with a pause. -/
theorem stint_pauses (schedule : Schedule) {k : Nat} (h : k < schedule.entries.length) :
    ∃ last, (stint (schedule.entries.drop k)).getLast? = some last ∧ last.pause ≠ .none := by
  have hall : ∀ k < schedule.entries.length,
      ((stint (schedule.entries.drop k)).getLast?.any fun last => last.pause ≠ .none) = true := by
    cases schedule <;> decide
  obtain ⟨last, hlast, hpause⟩ := (Option.any_eq_true _ _).mp (hall k h)
  exact ⟨last, hlast, of_decide_eq_true hpause⟩

theorem Schedule.length_entries_pos (schedule : Schedule) : 0 < schedule.entries.length := by
  cases schedule <;> decide

theorem Schedule.length_entries_le (schedule : Schedule) : schedule.entries.length ≤ 15 := by
  cases schedule <;> decide

namespace SamplerScene

variable {α ε : Type} [Converter α ε]

/-- The words that a walk sends: one for each entry up to the first pause or fault, and the one that
fails. -/
def words : List Entry → SamplerScene α → List UInt16
  | [], _ => []
  | entry :: rest, scene =>
    scene.sampler.requestWord entry ::
      match scene.exchange (scene.sampler.requestWord entry) with
      | (.error _, _) => []
      | (.ok counts, after) =>
        if entry.pause = .none then words rest (after.apply entry counts) else []

section Cons

variable {scene after : SamplerScene α} {entry : Entry}

theorem words_cons_error {fault : ε} (rest : List Entry)
    (h : scene.exchange (scene.sampler.requestWord entry) = (.error fault, after)) :
    words (entry :: rest) scene = [scene.sampler.requestWord entry] := by
  rw [words, h]

theorem words_cons_go {counts : UInt16} (rest : List Entry)
    (h : scene.exchange (scene.sampler.requestWord entry) = (.ok counts, after))
    (hpause : entry.pause = .none) :
    words (entry :: rest) scene =
      scene.sampler.requestWord entry :: words rest (after.apply entry counts) := by
  rw [words, h]
  dsimp only
  rw [if_pos hpause]

theorem words_cons_stop {counts : UInt16} (rest : List Entry)
    (h : scene.exchange (scene.sampler.requestWord entry) = (.ok counts, after))
    (hpause : entry.pause ≠ .none) :
    words (entry :: rest) scene = [scene.sampler.requestWord entry] := by
  rw [words, h]
  dsimp only
  rw [if_neg hpause]

end Cons

/-- A walk exchanges its words with the converter, and nothing else. -/
theorem adc_walk (periods : Periods) (entries : List Entry) (scene : SamplerScene α) :
    (walk periods entries scene).2.adc = afterWords scene.adc (words entries scene) := by
  induction entries generalizing scene with
  | nil => rfl
  | cons entry rest ih =>
    have hadc := congrArg SamplerScene.adc (exchange_snd scene (scene.sampler.requestWord entry))
    rcases heq : scene.exchange (scene.sampler.requestWord entry) with ⟨fault | counts, after⟩
    · rw [heq] at hadc
      rw [walk_cons_error rest heq, words_cons_error rest heq]
      exact hadc
    · rw [heq] at hadc
      by_cases hp : entry.pause = .none
      · rw [walk_cons_go rest heq hp, words_cons_go rest heq hp, ih, adc_apply, hadc]
        rfl
      · rw [walk_cons_stop rest heq hp, words_cons_stop rest heq hp, adc_apply]
        exact hadc

theorem length_words_le (entries : List Entry) (scene : SamplerScene α) :
    (words entries scene).length ≤ entries.length := by
  induction entries generalizing scene with
  | nil => exact Nat.le_refl _
  | cons entry rest ih =>
    rcases heq : scene.exchange (scene.sampler.requestWord entry) with ⟨fault | counts, after⟩
    · rw [words_cons_error rest heq]
      exact Nat.le_add_left _ _
    · by_cases hp : entry.pause = .none
      · rw [words_cons_go rest heq hp]
        exact Nat.succ_le_succ (ih _)
      · rw [words_cons_stop rest heq hp]
        exact Nat.le_add_left _ _

/-- A walk that works gets through a stint: an exchange for each entry up to the first pause. -/
theorem entries_deliveries {periods : Periods} {entries : List Entry}
    {scene left : SamplerScene α} {period : UInt32}
    (h : walk periods entries scene = (.ok period, left)) :
    (deliveries entries scene).map Delivery.entry = stint entries := by
  induction entries generalizing scene with
  | nil => rfl
  | cons entry rest ih =>
    rcases heq : scene.exchange (scene.sampler.requestWord entry) with ⟨fault | counts, after⟩
    · rw [walk_cons_error rest heq] at h
      cases h
    · by_cases hp : entry.pause = .none
      · rw [walk_cons_go rest heq hp] at h
        rw [deliveries_cons_go rest heq hp, stint_cons_go rest hp, List.map_cons, ih h]
      · rw [deliveries_cons_stop rest heq hp, stint_cons_stop rest hp]
        rfl

/-- The word of a walk that fails is that of an entry which has no delivery. -/
theorem length_deliveries_lt {periods : Periods} {entries : List Entry}
    {scene left : SamplerScene α} {fault : ε}
    (h : walk periods entries scene = (.error fault, left)) :
    (deliveries entries scene).length < entries.length := by
  induction entries generalizing scene with
  | nil => cases h
  | cons entry rest ih =>
    rcases heq : scene.exchange (scene.sampler.requestWord entry) with ⟨fault' | counts, after⟩
    · rw [deliveries_cons_error rest heq]
      exact Nat.succ_pos _
    · by_cases hp : entry.pause = .none
      · rw [walk_cons_go rest heq hp] at h
        rw [deliveries_cons_go rest heq hp]
        exact Nat.succ_lt_succ (ih h)
      · rw [walk_cons_stop rest heq hp] at h
        cases h

/-- Every delivery moves the position on by one entry. -/
theorem pointer_walk (periods : Periods) (entries : List Entry) (scene : SamplerScene α) :
    (walk periods entries scene).2.sampler.pointer =
      scene.sampler.pointer + (deliveries entries scene).length := by
  induction entries generalizing scene with
  | nil => rfl
  | cons entry rest ih =>
    have hs := sampler_exchange scene (scene.sampler.requestWord entry)
    rcases heq : scene.exchange (scene.sampler.requestWord entry) with ⟨fault | counts, after⟩
    · rw [heq] at hs
      rw [walk_cons_error rest heq, deliveries_cons_error rest heq]
      exact congrArg Sampler.pointer hs
    · rw [heq] at hs
      dsimp only at hs
      by_cases hp : entry.pause = .none
      · rw [walk_cons_go rest heq hp, deliveries_cons_go rest heq hp, ih, pointer_apply, hs,
          List.length_cons]
        omega
      · rw [walk_cons_stop rest heq hp, deliveries_cons_stop rest heq hp, pointer_apply, hs]
        rfl

/-! ## Whole bursts -/

/-- The position is within the table. -/
def OnTable (scene : SamplerScene α) : Prop :=
  scene.sampler.pointer < scene.sampler.schedule.entries.length

omit [Converter α ε] in
theorem schedule_prepare (scene : SamplerScene α) :
    scene.prepare.sampler.schedule = scene.sampler.schedule := by
  unfold prepare
  split <;> rfl

/-- The words that a burst begun now sends. -/
def burstWords (scene : SamplerScene α) : List UInt16 :=
  words scene.prepare.sampler.remaining scene.prepare

section Burst

variable {scene : SamplerScene α}

omit [Converter α ε] in
/-- What is left of the table begins at the position. -/
theorem remaining_prepare (scene : SamplerScene α) :
    scene.prepare.sampler.remaining =
      scene.sampler.schedule.entries.drop scene.sampler.pointer := by
  rw [Sampler.remaining, schedule_prepare, pointer_prepare]

/-- A walk of a burst moves the position on by its deliveries and keeps the table. -/
theorem position_burstWalk (scene : SamplerScene α) :
    scene.burstWalk.2.sampler.pointer = scene.sampler.pointer + scene.burstDeliveries.length ∧
      scene.burstWalk.2.sampler.schedule = scene.sampler.schedule := by
  constructor
  · rw [burstWalk, pointer_walk, pointer_prepare]
    rfl
  · exact (turn_walk _ _ scene.prepare).2.1.trans (schedule_prepare scene)

/-- A burst leaves the position within the table. -/
theorem onTable_burst (h : scene.OnTable) : scene.burst.2.OnTable := by
  obtain ⟨hpointer, hschedule⟩ := position_burstWalk scene
  unfold OnTable at h
  rcases hwalk : scene.burstWalk with ⟨fault | period, left⟩
  · rw [burst_of_walk_error hwalk]
    have hshort := length_deliveries_lt hwalk
    rw [hwalk] at hpointer hschedule
    rw [remaining_prepare, List.length_drop] at hshort
    dsimp only at hpointer hschedule
    unfold OnTable
    dsimp only
    rw [hpointer, hschedule]
    unfold burstDeliveries
    rw [remaining_prepare]
    omega
  · rw [burst_of_walk_ok hwalk]
    unfold OnTable finish
    dsimp only
    split
    · rw [(completeCycle_eq _).2.1]
      exact Schedule.length_entries_pos _
    · rename_i hwithin
      exact Nat.not_le.mp hwithin

/-- What a burst sends, and where it ends. It exchanges at most as many words as the longest table has
entries, and if it works, it ends at an entry that asks for a pause. -/
theorem burst_sends (h : scene.OnTable) :
    scene.burst.2.adc = afterWords scene.adc scene.burstWords ∧ scene.burstWords.length ≤ 15 ∧
      ∀ period, scene.burst.1 = .ok period →
        ∃ last, scene.burstDeliveries.getLast? = some last ∧ last.entry.pause ≠ .none := by
  refine ⟨?_, ?_, fun period hok => ?_⟩
  · have hwalk : scene.burstWalk.2.adc = afterWords scene.adc scene.burstWords := by
      rw [burstWalk, adc_walk, adc_prepare]
      rfl
    rcases burst_snd scene with hburst | hburst
    · rw [hburst, hwalk]
    · rw [hburst, adc_finish, hwalk]
  · have hwords := length_words_le scene.prepare.sampler.remaining scene.prepare
    have hlong := scene.sampler.schedule.length_entries_le
    rw [remaining_prepare, List.length_drop] at hwords
    unfold burstWords
    rw [remaining_prepare]
    omega
  · rcases hwalk : scene.burstWalk with ⟨fault | period', left⟩
    · rw [burst_of_walk_error hwalk] at hok
      cases hok
    · obtain ⟨last, hlast, hpause⟩ := stint_pauses scene.sampler.schedule h
      rw [← remaining_prepare, ← entries_deliveries hwalk, List.getLast?_map] at hlast
      obtain ⟨delivery, hdelivery, rfl⟩ := Option.map_eq_some_iff.mp hlast
      exact ⟨delivery, hdelivery, hpause⟩

end Burst

end SamplerScene

namespace Controller

variable {α ε : Type} [Converter α ε]

/-- In every controller that can be reached the position is within the table. -/
theorem Reachable.onTable {c : Controller α} (h : c.Reachable) : c.samplerScene.OnTable := by
  induction h with
  | new hnew =>
    show _ < _
    rw [samplerScene, (parts_of_new hnew).1]
    exact Schedule.length_entries_pos _
  | @step c h step ih =>
    cases step with
    | sample => exact SamplerScene.onTable_burst ih
    | manage => exact ih
    | color =>
      have hsampler : c.colorTick.sampler = c.sampler := by
        unfold colorTick
        split <;> rfl
      unfold SamplerScene.OnTable samplerScene at ih ⊢
      rwa [Controller.step, hsampler]
    | time clock => exact ih
    | _ =>
      unfold SamplerScene.OnTable samplerScene at ih ⊢
      rwa [sampler_request c rfl]

end Controller

end PlugWatch
