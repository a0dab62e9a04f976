import PlugWatch.Hardware.Converter
/-!
# The converter in a world that changes

The converter answers two exchanges late. This file puts the simulated converter in a world that
may set its slots and take it off the bus before every single attempt, records what worked, and
proves what its pipeline holds.

## Main Definitions

* `Moment` : what the world does before an attempt.
* `LiveConverter` : the converter in its world, with the history of the exchanges that worked.
* `LiveConverter.Piped` : the pipeline holds what the last two words asked for.

## Main Statements

* `LiveConverter.piped_exchange` : every exchange keeps that, whether it works or not.
* `LiveConverter.exchange_answers` : so the reply is the value of the channel that the exchange
  before last asked for.
-/

namespace PlugWatch

/-! ## The converter in its world -/

/-- What the world does to the converter before an exchange is tried. -/
structure Moment where
  /-- The slots that are set, one after the other. -/
  settings : List (Slot × UInt16) := []
  /-- Whether the converter answers. -/
  failing : Bool := false

namespace Moment

/-- The converter as a moment leaves it. -/
def reach (moment : Moment) (adc : Multiplexer) : Multiplexer :=
  { moment.settings.foldl (fun adc setting => adc.setSlot setting.1 setting.2) adc with
    failing := moment.failing }

end Moment

/-- An exchange that worked: the word, and the converter it was taken by. -/
structure Exchange where
  word : UInt16
  adc : Multiplexer

/-- The simulated converter in a world that may set slots and pull the plug before every single
attempt, with the history of what worked. -/
structure LiveConverter where
  adc : Multiplexer
  /-- What happens before each attempt. -/
  world : Nat → Moment
  /-- Number of attempts so far. -/
  attempts : Nat := 0
  /-- The exchanges that worked, the latest first. -/
  history : List Exchange := []

namespace LiveConverter

/-- Lets the world act, then tries the exchange. -/
def exchange (live : LiveConverter) (word : UInt16) : Except BusFault UInt16 × LiveConverter :=
  let adc := (live.world live.attempts).reach live.adc
  match adc.exchange word with
  | (.ok reply, after) =>
    (.ok reply,
      { live with
        adc := after
        attempts := live.attempts + 1
        history := ⟨word, adc⟩ :: live.history })
  | (.error fault, after) =>
    (.error fault, { live with adc := after, attempts := live.attempts + 1 })

instance : Converter LiveConverter BusFault := ⟨exchange⟩

/-- The words taken so far, the latest first. -/
def words (live : LiveConverter) : List UInt16 := live.history.map Exchange.word

end LiveConverter

/-! ## The pipeline -/

/-- No channel holds more than full scale. -/
def Multiplexer.InRange (adc : Multiplexer) : Prop :=
  ∀ counts ∈ adc.channels, counts ≤ fullScale

namespace Multiplexer

theorem inRange_default : ({} : Multiplexer).InRange := by
  intro counts hcounts
  have hzero : counts = 0 := by simpa using hcounts
  rw [hzero]
  decide

theorem inRange_setSlot {adc : Multiplexer} (h : adc.InRange) (slot : Slot) (counts : UInt16) :
    (adc.setSlot slot counts).InRange := by
  intro stored hstored
  have hstored : stored ∈ adc.channels.set (channelOf slot) (min counts fullScale) := hstored
  rcases Vector.mem_or_eq_of_mem_set hstored with hkept | hset
  · exact h stored hkept
  · rw [hset]
    show (if counts ≤ fullScale then counts else fullScale) ≤ fullScale
    split
    · assumption
    · exact UInt16.le_refl _

/-- A moment sets channels only: it keeps them in range and leaves the pipeline alone. -/
theorem reach_inRange {adc : Multiplexer} (moment : Moment) (h : adc.InRange) :
    (moment.reach adc).InRange := by
  have hfold : ∀ (settings : List (Slot × UInt16)) (adc : Multiplexer), adc.InRange →
      (settings.foldl (fun adc setting => adc.setSlot setting.1 setting.2) adc).InRange := by
    intro settings
    induction settings with
    | nil => intro adc h; exact h
    | cons setting rest ih =>
      intro adc h
      exact ih _ (inRange_setSlot h setting.1 setting.2)
  exact hfold moment.settings adc h

theorem reach_pipeline (moment : Moment) (adc : Multiplexer) :
    (moment.reach adc).due = adc.due ∧ (moment.reach adc).pending = adc.pending := by
  have hfold : ∀ (settings : List (Slot × UInt16)) (adc : Multiplexer),
      (settings.foldl (fun adc setting => adc.setSlot setting.1 setting.2) adc).due = adc.due ∧
      (settings.foldl (fun adc setting => adc.setSlot setting.1 setting.2) adc).pending
        = adc.pending := by
    intro settings
    induction settings with
    | nil => intro adc; exact ⟨rfl, rfl⟩
    | cons setting rest ih => intro adc; exact ih (adc.setSlot setting.1 setting.2)
  exact hfold moment.settings adc

/-- The mask keeps a value that is in range. -/
theorem mask_slot {adc : Multiplexer} (h : adc.InRange) (slot : Slot) :
    adc.slot slot &&& sampleMask = adc.slot slot := by
  have hle : (adc.slot slot).toNat ≤ 4095 := h _ (Vector.getElem_mem _)
  apply UInt16.toNat_inj.mp
  rw [UInt16.toNat_and]
  show (adc.slot slot).toNat &&& (2 ^ 12 - 1) = _
  rw [Nat.and_two_pow_sub_one_eq_mod, Nat.mod_eq_of_lt (by omega)]

end Multiplexer

/-- A word that asks for the channel of a slot is understood so. -/
theorem requestedChannel?_request (slot : Slot) :
    requestedChannel? slot.request = some (channelOf slot) := by
  revert slot
  decide

theorem requestedChannel?_setupWord : requestedChannel? setupWord = none := by decide

namespace LiveConverter

/-- The pipeline holds what the last two words asked for. As long as fewer words were taken, the
rest of it is unknown. -/
structure Piped (live : LiveConverter) : Prop where
  range : live.adc.InRange
  pending : ∀ latest ∈ live.words[0]?, live.adc.pending = requestedChannel? latest
  due : ∀ earlier ∈ live.words[1]?, live.adc.due = requestedChannel? earlier

theorem piped_exchange {live : LiveConverter} (word : UInt16) (h : live.Piped) :
    (live.exchange word).2.Piped := by
  have hrange := Multiplexer.reach_inRange (live.world live.attempts) h.range
  obtain ⟨hdue, hpending⟩ := Multiplexer.reach_pipeline (live.world live.attempts) live.adc
  unfold exchange Multiplexer.exchange
  dsimp only
  by_cases hf : ((live.world live.attempts).reach live.adc).failing = true
  · -- a failed exchange leaves the pipeline, and the words, as they are
    rw [if_pos hf]
    refine ⟨hrange, ?_, ?_⟩
    · intro latest hlatest
      exact hpending.trans (h.pending latest hlatest)
    · intro earlier hearlier
      exact hdue.trans (h.due earlier hearlier)
  · -- what was pending is due next, and the word is pending
    rw [if_neg hf]
    refine ⟨hrange, ?_, ?_⟩
    · rintro latest ⟨⟩
      rfl
    · intro earlier hearlier
      exact hpending.trans (h.pending earlier hearlier)

/-- An exchange that works is recorded, and replies with the value of the channel that the word
before last asked for. -/
theorem exchange_ok {live after : LiveConverter} {word reply : UInt16}
    (hx : live.exchange word = (.ok reply, after)) :
    after.history = ⟨word, (live.world live.attempts).reach live.adc⟩ :: live.history ∧
      reply = ((live.world live.attempts).reach live.adc).reply := by
  unfold exchange Multiplexer.exchange at hx
  dsimp only at hx
  by_cases hf : ((live.world live.attempts).reach live.adc).failing = true
  · rw [if_pos hf] at hx
    cases hx
  · rw [if_neg hf] at hx
    cases hx
    exact ⟨rfl, rfl⟩

theorem exchange_error {live after : LiveConverter} {word : UInt16} {fault : BusFault}
    (hx : live.exchange word = (.error fault, after)) : after.history = live.history := by
  unfold exchange Multiplexer.exchange at hx
  dsimp only at hx
  by_cases hf : ((live.world live.attempts).reach live.adc).failing = true
  · rw [if_pos hf] at hx
    cases hx
    rfl
  · rw [if_neg hf] at hx
    cases hx

/-- If the word before last asked for the channel of a slot, the reply is the value of that
channel. -/
theorem exchange_answers {live after : LiveConverter} {word reply : UInt16} {slot : Slot}
    (h : live.Piped) (hx : live.exchange word = (.ok reply, after))
    (hasked : live.words[1]? = some slot.request) :
    ∃ now between asked earlier, after.history = now :: between :: asked :: earlier ∧
      asked.word = slot.request ∧ reply &&& sampleMask = now.adc.slot slot := by
  obtain ⟨hhistory, hreply⟩ := exchange_ok hx
  have hdue : ((live.world live.attempts).reach live.adc).due = some (channelOf slot) := by
    rw [(Multiplexer.reach_pipeline _ _).1, h.due _ hasked, requestedChannel?_request]
  have hvalue : reply = ((live.world live.attempts).reach live.adc).slot slot := by
    rw [hreply, Multiplexer.reply, hdue, Multiplexer.slot]
  unfold words at hasked
  rcases hlive : live.history with - | ⟨between, - | ⟨asked, earlier⟩⟩
  · simp [hlive] at hasked
  · simp [hlive] at hasked
  · rw [hlive] at hasked hhistory
    refine ⟨_, between, asked, earlier, hhistory, ?_, ?_⟩
    · simpa using hasked
    · rw [hvalue, Multiplexer.mask_slot (Multiplexer.reach_inRange _ h.range)]

/-- If the word before last was a word of the start-up, the reply is zero. -/
theorem exchange_setup {live after : LiveConverter} {word reply : UInt16}
    (h : live.Piped) (hx : live.exchange word = (.ok reply, after))
    (hasked : live.words[1]? = some setupWord) : reply = 0 := by
  obtain ⟨-, hreply⟩ := exchange_ok hx
  have hdue : ((live.world live.attempts).reach live.adc).due = none := by
    rw [(Multiplexer.reach_pipeline _ _).1, h.due _ hasked, requestedChannel?_setupWord]
  rw [hreply, Multiplexer.reply, hdue]

end LiveConverter

end PlugWatch
