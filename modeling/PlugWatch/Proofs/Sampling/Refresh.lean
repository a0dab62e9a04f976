import PlugWatch.Proofs.Sampling.Deposits
import PlugWatch.Proofs.Sampling.Pipeline
/-!
# How old the samples are

While no port is in colour mode the sampler walks one table again and again, three bursts in a
millisecond. Counted over all cycles its entries form one sequence: what an entry stores is what the
entry two before it asked for. So a slot that was asked for once the converter had settled holds the
value of its channel from then on, and after eight cycles this is so for every slot.

## Main Definitions

* `asked` : the slot that an entry of the sequence asks for.
* `SamplerScene.Settled` : the sampler behind a number of entries, with channels that stand still.
* `SamplerScene.Paced` : the sampler in front of a burst that is due at an instant.

## Main Statements

* `SamplerScene.settled_advance` : an entry keeps the sequence.
* `SamplerScene.paced_burst` : a burst works, keeps the channels, and leaves the sampler in front of
  the next burst.
* `SamplerScene.Paced.fresh` : behind eight cycles every slot holds the value of its channel.

## Design Notes

What is stored for the first time in the first slow slot answers the start-up. The invariant says
nothing about it, so it holds of a fresh sampler too.
-/

namespace PlugWatch

/-! ## The table as a sequence -/

/-- The slow slot whose turn it is after a number of turns. -/
def slowTurn (n : Nat) : Slot := ⟨8 + n % 8, by omega⟩

theorem nextSlow_slowTurn (n : Nat) : (slowTurn n).nextSlow = slowTurn (n + 1) := by
  unfold Slot.nextSlow slowTurn Slot.slowBase
  split
  · rename_i h
    refine Fin.ext ?_
    dsimp only at h ⊢
    omega
  · rename_i h
    refine Fin.ext ?_
    show 8 = 8 + (n + 1) % 8
    dsimp only at h
    omega

/-- The slot that an entry asks for, the entries counted over all cycles. -/
def asked (n : Nat) : Slot :=
  if h : n % 10 < 8 then ⟨n % 10, by omega⟩ else slowTurn (n / 10 + 1)

/-- Every slot is asked for in the first eight cycles, by an entry whose reply is not dropped. -/
theorem exists_asked (slot : Slot) : ∃ n < 80, (n + 2) % 10 ≠ 0 ∧ asked n = slot := by
  rcases Nat.lt_trichotomy slot.val 8 with hlow | heq | hhigh
  · refine ⟨slot.val, by omega, by omega, ?_⟩
    rw [asked, dif_pos (by omega)]
    exact Fin.ext (Nat.mod_eq_of_lt (by omega))
  · refine ⟨79, by decide, by decide, ?_⟩
    exact Fin.ext heq.symm
  · refine ⟨10 * (slot.val - 9) + 9, by omega, by omega, ?_⟩
    rw [asked, dif_neg (by omega)]
    refine Fin.ext ?_
    show 8 + ((10 * (slot.val - 9) + 9) / 10 + 1) % 8 = slot.val
    omega

namespace Schedule

/-- The number of entries of a cycle that are done at the end of a burst. -/
def burstEnd (pointer : Nat) : Nat := if pointer < 4 then 4 else if pointer < 8 then 8 else 10

theorem burstEnd_le (pointer : Nat) : burstEnd pointer ≤ 10 := by
  unfold burstEnd
  split
  · omega
  · split <;> omega

theorem lt_burstEnd {pointer : Nat} (h : pointer < 10) : pointer < burstEnd pointer := by
  unfold burstEnd
  split
  · omega
  · split <;> omega

/-- Within a burst its end stays the same. -/
theorem burstEnd_succ {pointer : Nat} (h : pointer + 1 < burstEnd pointer) :
    burstEnd (pointer + 1) = burstEnd pointer := by
  unfold burstEnd at h ⊢
  split at h
  · rw [if_pos (by omega), if_pos (by omega)]
  · split at h
    · rw [if_neg (by omega), if_pos (by omega), if_neg (by omega), if_pos (by omega)]
    · rw [if_neg (by omega), if_neg (by omega), if_neg (by omega), if_neg (by omega)]

/-- What the normal table says of an entry, by its position. -/
structure NormalEntry (pointer : Nat) (entry : Entry) : Prop where
  request : entry.request =
    if h : pointer < 8 then .slot ⟨pointer, by omega⟩ else .slow
  reply : entry.reply =
    if pointer = 0 then .discard
    else if pointer = 1 then .slow
    else if h : pointer - 2 < 16 then .slot ⟨pointer - 2, h⟩ else .discard
  clock : entry.clock = .hold
  pause : entry.pause =
    if pointer + 1 = burstEnd pointer then (if pointer = 7 then .long else .short) else .none

theorem normalEntry_of_getElem? {pointer : Nat} {entry : Entry}
    (h : normalEntries[pointer]? = some entry) : NormalEntry pointer entry := by
  match pointer with
  | 0 | 1 | 2 | 3 | 4 | 5 | 6 | 7 | 8 | 9 =>
    cases h
    exact ⟨rfl, rfl, rfl, rfl⟩
  | n + 10 => cases h

/-- The entries left of the normal table are the next one and those behind it. -/
theorem drop_normalEntries {pointer : Nat} (h : pointer < 10) :
    ∃ entry, normalEntries.drop pointer = entry :: normalEntries.drop (pointer + 1) ∧
      NormalEntry pointer entry := by
  have hlen : pointer < normalEntries.length := h
  exact ⟨normalEntries[pointer], List.drop_eq_getElem_cons hlen,
    normalEntry_of_getElem? (List.getElem?_eq_getElem hlen)⟩

end Schedule

/-! ## One entry -/

namespace Multiplexer

/-- The converter once it has taken a word. -/
def taking (adc : Multiplexer) (word : UInt16) : Multiplexer :=
  { adc with
    due := adc.pending
    pending := requestedChannel? word
    exchanges := adc.exchanges + 1
    lastWord := word }

end Multiplexer

namespace SamplerScene

/-- The scene behind an entry whose exchange works. -/
def advance (scene : SamplerScene Multiplexer) (entry : Entry) : SamplerScene Multiplexer :=
  ({ scene with adc := scene.adc.taking (scene.sampler.requestWord entry) } :
    SamplerScene Multiplexer).apply entry (scene.adc.reply &&& sampleMask)

theorem exchange_of_on {scene : SamplerScene Multiplexer} (hon : scene.adc.failing = false)
    (word : UInt16) :
    scene.exchange word =
      (.ok (scene.adc.reply &&& sampleMask), { scene with adc := scene.adc.taking word }) := by
  unfold exchange
  rw [show Converter.exchange scene.adc word = (.ok scene.adc.reply, scene.adc.taking word) from
    if_neg (by rw [hon]; exact Bool.false_ne_true)]

/-- The sampler behind a number of entries, with channels that stand still and no colour mode. -/
structure Settled (n : Nat) (scene : SamplerScene Multiplexer) : Prop where
  schedule : scene.sampler.schedule = .normal
  config : scene.sampler.config = {}
  turn : scene.sampler.slowSlot = slowTurn ((n + 8) / 10)
  on : scene.adc.failing = false
  range : scene.adc.InRange
  pending : ∀ k, k + 1 = n → scene.adc.pending = some (channelOf (asked k))
  due : ∀ k, k + 2 = n → scene.adc.due = some (channelOf (asked k))
  /-- What an entry asked for is stored two entries later, unless that entry drops its reply. -/
  fresh : ∀ k, k + 2 < n → (k + 2) % 10 ≠ 0 →
    scene.board.samples.get (asked k) = scene.adc.slot (asked k)

variable {scene : SamplerScene Multiplexer} {cycle pointer n : Nat} {entry : Entry}

/-- The next entry asks for its slot of the sequence. -/
theorem Settled.requestSlot (h : Settled (10 * cycle + pointer) scene) (hp : pointer < 10)
    (hentry : Schedule.NormalEntry pointer entry) :
    scene.sampler.requestSlot entry.request = asked (10 * cycle + pointer) := by
  unfold asked
  rw [hentry.request]
  by_cases hslow : pointer < 8
  · rw [dif_pos hslow, dif_pos (by omega)]
    refine Fin.ext ?_
    show pointer = (10 * cycle + pointer) % 10
    omega
  · rw [dif_neg hslow, dif_neg (by omega)]
    show scene.sampler.slowSlot = _
    rw [h.turn]
    congr 1
    omega

/-- The next entry stores nothing, or what the entry two before it asked for; the second entry of all
stores what answers the start-up. -/
theorem reply_normalEntry (cycle : Nat) (hp : pointer < 10)
    (hentry : Schedule.NormalEntry pointer entry) :
    (pointer = 0 ∧ entry.reply = .discard) ∨ (pointer = 1 ∧ entry.reply = .slow) ∨
      ∃ k, k + 2 = 10 * cycle + pointer ∧ 2 ≤ pointer ∧ entry.reply = .slot (asked k) := by
  have hreply := hentry.reply
  match pointer, hp with
  | 0, _ => exact .inl ⟨rfl, hreply⟩
  | 1, _ => exact .inr (.inl ⟨rfl, hreply⟩)
  | p + 2, hp =>
    refine .inr (.inr ⟨10 * cycle + p, by omega, by omega, ?_⟩)
    rw [hreply, if_neg (by omega), if_neg (by omega), dif_pos (by omega), asked, dif_pos (by omega)]
    congr 1
    refine Fin.ext ?_
    show p + 2 - 2 = (10 * cycle + p) % 10
    omega

/-- A reply is the value of the channel that is due. -/
theorem Settled.counts (h : Settled n scene) {k : Nat} (hk : k + 2 = n) :
    scene.adc.reply &&& sampleMask = scene.adc.slot (asked k) := by
  rw [← Multiplexer.mask_slot h.range (asked k)]
  unfold Multiplexer.reply
  rw [h.due k hk]
  rfl

/-- Once its reply is stored the slot that was asked for is fresh too. -/
theorem Settled.fresh_set (h : Settled n scene) {stored : Nat} (hstored : stored + 2 = n) :
    ∀ k, k + 2 < n + 1 → (k + 2) % 10 ≠ 0 →
      (scene.board.samples.set (asked stored) (scene.adc.reply &&& sampleMask)).get (asked k) =
        scene.adc.slot (asked k) := by
  intro k hk hkept
  by_cases hsame : asked k = asked stored
  · rw [hsame, Samples.get_set_self, h.counts hstored]
  · rw [Samples.get_set_ne _ _ hsame]
    refine h.fresh k ?_ hkept
    -- the slot is another one, so the entry is an earlier one
    rcases Nat.lt_or_ge (k + 2) n with hlt | hge
    · exact hlt
    · exact absurd (congrArg asked (show k = stored by omega)) hsame

/-- Holding the clock, an entry stores its reply and goes on. -/
theorem advance_eq (hclock : entry.clock = .hold) :
    scene.advance entry =
      let stored := ({ scene with adc := scene.adc.taking (scene.sampler.requestWord entry) } :
        SamplerScene Multiplexer).store entry.reply (scene.adc.reply &&& sampleMask)
      { stored with sampler := { stored.sampler with pointer := stored.sampler.pointer + 1 } } := by
  have hold : ∀ scene : SamplerScene Multiplexer, scene.clock .hold = scene := by
    intro scene
    unfold clock
    exact ite_self _
  unfold advance apply
  rw [hclock, hold]

/-- An entry keeps the sequence. -/
theorem settled_advance (h : Settled (10 * cycle + pointer) scene) (hp : pointer < 10)
    (hentry : Schedule.NormalEntry pointer entry) :
    Settled (10 * cycle + (pointer + 1)) (scene.advance entry) := by
  have hword : requestedChannel? (scene.sampler.requestWord entry) =
      some (channelOf (asked (10 * cycle + pointer))) := by
    rw [Sampler.requestWord, requestedChannel?_request, h.requestSlot hp hentry]
  have hpending : ∀ k, k + 1 = 10 * cycle + (pointer + 1) →
      requestedChannel? (scene.sampler.requestWord entry) = some (channelOf (asked k)) := by
    intro k hk
    rw [hword, show k = 10 * cycle + pointer by omega]
  have hdue : ∀ k, k + 2 = 10 * cycle + (pointer + 1) →
      scene.adc.pending = some (channelOf (asked k)) := fun k hk => h.pending k (by omega)
  rw [advance_eq hentry.clock]
  rcases reply_normalEntry cycle hp hentry with ⟨rfl, hreply⟩ | ⟨rfl, hreply⟩ |
    ⟨stored, hstored, hlate, hreply⟩
  · rw [hreply]
    refine ⟨h.schedule, h.config, ?_, h.on, h.range, hpending, hdue, ?_⟩
    · rw [show (10 * cycle + (0 + 1) + 8) / 10 = (10 * cycle + 0 + 8) / 10 by omega]
      exact h.turn
    · -- the entry in front of this one ended the cycle before
      intro k hk hkept
      exact h.fresh k (by omega) hkept
  · rw [hreply]
    refine ⟨h.schedule, h.config, ?_, h.on, h.range, hpending, hdue, ?_⟩
    · show scene.sampler.slowSlot.nextSlow = _
      rw [h.turn, nextSlow_slowTurn]
      congr 1
      omega
    · match cycle with
      | 0 =>
        intro k hk
        omega
      | c + 1 =>
        have hslot : scene.sampler.slowSlot = asked (10 * c + 9) := by
          rw [h.turn, asked, dif_neg (by omega)]
          congr 1
          omega
        have hstored : 10 * c + 9 + 2 = 10 * (c + 1) + 1 := by omega
        show ∀ k, k + 2 < 10 * (c + 1) + (1 + 1) → (k + 2) % 10 ≠ 0 →
          (scene.board.samples.set scene.sampler.slowSlot
            (scene.adc.reply &&& sampleMask)).get (asked k) = scene.adc.slot (asked k)
        rw [hslot]
        exact h.fresh_set hstored
  · rw [hreply]
    refine ⟨h.schedule, h.config, ?_, h.on, h.range, hpending, hdue, h.fresh_set hstored⟩
    rw [show (10 * cycle + (pointer + 1) + 8) / 10 = (10 * cycle + pointer + 8) / 10 by omega]
    exact h.turn

/-! ## A burst -/

/-- The sampler does not look at its position between two entries. -/
theorem Settled.of_sampler (h : Settled n scene) {after : SamplerScene Multiplexer}
    (hschedule : after.sampler.schedule = scene.sampler.schedule)
    (hconfig : after.sampler.config = scene.sampler.config)
    (hturn : after.sampler.slowSlot = scene.sampler.slowSlot) (hadc : after.adc = scene.adc)
    (hsamples : after.board.samples = scene.board.samples) : Settled n after := by
  refine ⟨hschedule.trans h.schedule, hconfig.trans h.config, hturn.trans h.turn, ?_, ?_, ?_, ?_, ?_⟩
  · rw [hadc]
    exact h.on
  · rw [hadc]
    exact h.range
  · rw [hadc]
    exact h.pending
  · rw [hadc]
    exact h.due
  · rw [hadc, hsamples]
    exact h.fresh

theorem pointer_advance (scene : SamplerScene Multiplexer) (entry : Entry) :
    (scene.advance entry).sampler.pointer = scene.sampler.pointer + 1 :=
  pointer_apply _ _ _

theorem channels_advance (scene : SamplerScene Multiplexer) (entry : Entry) :
    (scene.advance entry).adc.channels = scene.adc.channels := by
  rw [advance, adc_apply]
  rfl

/-- The rest of a burst works and stops in front of the entry where it is meant to. -/
theorem walk_settled (periods : Periods) (rest : Nat) :
    ∀ {pointer : Nat} {scene : SamplerScene Multiplexer}, pointer < 10 →
      pointer + 1 + rest = Schedule.burstEnd pointer → scene.sampler.pointer = pointer →
      Settled (10 * cycle + pointer) scene →
      ∃ left, walk periods (Schedule.normalEntries.drop pointer) scene =
          (.ok (if Schedule.burstEnd pointer = 8 then periods.long else periods.short), left) ∧
        left.sampler.pointer = Schedule.burstEnd pointer ∧
        Settled (10 * cycle + Schedule.burstEnd pointer) left ∧
        left.adc.channels = scene.adc.channels := by
  induction rest with
  | zero =>
    intro pointer scene hp hend hpointer h
    obtain ⟨entry, hdrop, hentry⟩ := Schedule.drop_normalEntries hp
    have hpause := hentry.pause
    rw [if_pos (by omega)] at hpause
    refine ⟨scene.advance entry, ?_, ?_, ?_, channels_advance scene entry⟩
    · rw [hdrop, walk_cons_stop _ (exchange_of_on h.on _) (by rw [hpause]; split <;> decide), hpause]
      by_cases hlong : pointer = 7
      · subst hlong
        rfl
      · rw [if_neg hlong, if_pos rfl, if_neg (by omega)]
        rfl
    · rw [pointer_advance, hpointer, ← hend]
    · rw [← hend]
      exact settled_advance h hp hentry
  | succ rest ih =>
    intro pointer scene hp hend hpointer h
    obtain ⟨entry, hdrop, hentry⟩ := Schedule.drop_normalEntries hp
    have hpause := hentry.pause
    rw [if_neg (by omega)] at hpause
    have hle := Schedule.burstEnd_le pointer
    have hnext := Schedule.burstEnd_succ (show pointer + 1 < Schedule.burstEnd pointer by omega)
    obtain ⟨left, hwalk, hleft, hsettled, hchannels⟩ :=
      ih (show pointer + 1 < 10 by omega) (by omega) (by rw [pointer_advance, hpointer])
        (settled_advance h hp hentry)
    rw [hnext] at hwalk hleft hsettled
    refine ⟨left, ?_, hleft, hsettled, hchannels.trans (channels_advance scene entry)⟩
    rw [hdrop, walk_cons_go _ (exchange_of_on h.on _) hpause]
    exact hwalk

/-- Behind the last entry the sampler goes back to the first one, and to the same table. -/
theorem settled_finish (h : Settled n scene)
    (hcalm : ∀ port, (scene.board.inputs.get port).handshake.active = false) :
    Settled n scene.finish ∧
      scene.finish.sampler.pointer = if 10 ≤ scene.sampler.pointer then 0 else scene.sampler.pointer := by
  have hlength : scene.sampler.schedule.entries.length = 10 := by
    rw [h.schedule]
    rfl
  unfold finish
  rw [hlength]
  by_cases hend : 10 ≤ scene.sampler.pointer
  · rw [if_pos hend, if_pos hend]
    -- the position is the one thing that is set before the cycle ends
    generalize hback : ({ scene with sampler := { scene.sampler with pointer := 0 } } :
      SamplerScene Multiplexer) = back
    have hboard : back.board = scene.board := by rw [← hback]
    have hpointer : back.sampler.pointer = 0 := by rw [← hback]
    obtain ⟨hadc, hstart, hturn, hconfig⟩ := completeCycle_eq back
    have hnormal : back.completeCycle.sampler.schedule = .normal :=
      schedule_completeCycle_of_inactive fun port => by rw [hboard, hcalm port]
    refine ⟨h.of_sampler ?_ ?_ ?_ ?_ ?_, hstart.trans hpointer⟩
    · rw [hnormal, h.schedule]
    · rw [hconfig, ← hback]
    · rw [hturn, ← hback]
    · rw [hadc, ← hback]
    · rw [samples_completeCycle, hboard]
  · rw [if_neg hend, if_neg hend]
    exact ⟨h, rfl⟩

theorem settled_prepare (h : Settled n scene) : Settled n scene.prepare := by
  unfold prepare
  split
  · exact h.of_sampler rfl rfl rfl rfl rfl
  · exact h

/-- A burst works and stops where it is meant to. -/
theorem burst_settled (hp : pointer < 10) (hpointer : scene.sampler.pointer = pointer)
    (h : Settled (10 * cycle + pointer) scene)
    (hcalm : ∀ port, (scene.board.inputs.get port).handshake.active = false) :
    ∃ left, scene.burst = (.ok (if Schedule.burstEnd pointer = 8 then 600 else 200), left) ∧
      left.sampler.pointer = Schedule.burstEnd pointer % 10 ∧
      Settled (10 * cycle + Schedule.burstEnd pointer) left ∧
      left.adc.channels = scene.adc.channels := by
  have hprepared := settled_prepare h
  have hstart : scene.prepare.sampler.pointer = pointer := by rw [pointer_prepare, hpointer]
  have hperiods : scene.prepare.sampler.periods = ⟨200, 600⟩ := by
    rw [Sampler.periods, hprepared.schedule, hprepared.config]
    rfl
  have hremaining : scene.prepare.sampler.remaining = Schedule.normalEntries.drop pointer := by
    rw [Sampler.remaining, hprepared.schedule, hstart]
    rfl
  have hend : pointer + 1 + (Schedule.burstEnd pointer - (pointer + 1)) =
      Schedule.burstEnd pointer := by
    have := Schedule.lt_burstEnd hp
    omega
  obtain ⟨left, hwalk, hstop, hsettled, hchannels⟩ :=
    walk_settled ⟨200, 600⟩ _ hp hend hstart hprepared
  have hburst : scene.burstWalk =
      (.ok (if Schedule.burstEnd pointer = 8 then 600 else 200), left) := by
    rw [burstWalk, hperiods, hremaining]
    exact hwalk
  have hquiet : ∀ port, (left.board.inputs.get port).handshake.active = false := by
    intro port
    have hkept := handshake_walk scene.prepare.sampler.periods scene.prepare.sampler.remaining
      scene.prepare port
    rw [hperiods, hremaining, hwalk, inputs_prepare] at hkept
    rw [hkept]
    exact hcalm port
  obtain ⟨hfinish, hback⟩ := settled_finish hsettled hquiet
  refine ⟨left.finish, burst_of_walk_ok hburst, ?_, hfinish, ?_⟩
  · have hle := Schedule.burstEnd_le pointer
    rw [hback, hstop]
    split
    · rw [show Schedule.burstEnd pointer = 10 by omega]
    · rw [Nat.mod_eq_of_lt (by omega)]
  · rw [adc_finish, hchannels, adc_prepare]

/-! ## In time -/

/-- The sampler in front of the burst that is due at an instant: each cycle of a millisecond has three
of them. -/
inductive Paced (due : Nat) (scene : SamplerScene Multiplexer) : Prop where
  | first (cycle : Nat) (hpointer : scene.sampler.pointer = 0) (hdue : due = 1000 * cycle + 200)
      (h : Settled (10 * cycle + 0) scene)
  | second (cycle : Nat) (hpointer : scene.sampler.pointer = 4) (hdue : due = 1000 * cycle + 400)
      (h : Settled (10 * cycle + 4) scene)
  | third (cycle : Nat) (hpointer : scene.sampler.pointer = 8) (hdue : due = 1000 * cycle + 1000)
      (h : Settled (10 * cycle + 8) scene)

/-- A burst works, keeps the channels, and leaves the sampler in front of the next burst. -/
theorem paced_burst {due : Nat} (h : Paced due scene)
    (hcalm : ∀ port, (scene.board.inputs.get port).handshake.active = false) :
    ∃ period left, scene.burst = (.ok period, left) ∧ Paced (due + period.toNat) left ∧
      left.adc.channels = scene.adc.channels := by
  cases h with
  | first cycle hpointer hdue h =>
    obtain ⟨left, hburst, hstop, hsettled, hchannels⟩ := burst_settled (by decide) hpointer h hcalm
    refine ⟨_, left, hburst, .second cycle hstop ?_ hsettled, hchannels⟩
    rw [hdue]
    rfl
  | second cycle hpointer hdue h =>
    obtain ⟨left, hburst, hstop, hsettled, hchannels⟩ := burst_settled (by decide) hpointer h hcalm
    refine ⟨_, left, hburst, .third cycle hstop ?_ hsettled, hchannels⟩
    rw [hdue]
    rfl
  | third cycle hpointer hdue h =>
    obtain ⟨left, hburst, hstop, hsettled, hchannels⟩ := burst_settled (by decide) hpointer h hcalm
    refine ⟨_, left, hburst, .first (cycle + 1) hstop ?_ hsettled, hchannels⟩
    rw [hdue]
    show 1000 * cycle + 1000 + 200 = 1000 * (cycle + 1) + 200
    omega

/-- Behind eight cycles every slot holds the value of its channel. -/
theorem Paced.fresh {due : Nat} (h : Paced due scene) (hdue : 9000 < due) (slot : Slot) :
    scene.board.samples.get slot = scene.adc.slot slot := by
  obtain ⟨k, hlt, hkept, rfl⟩ := exists_asked slot
  cases h with
  | first cycle hpointer hnow h => exact h.fresh k (by omega) hkept
  | second cycle hpointer hnow h => exact h.fresh k (by omega) hkept
  | third cycle hpointer hnow h => exact h.fresh k (by omega) hkept

/-- Between two bursts the handshakes and lines may change. -/
theorem Paced.of_eq {due : Nat} (h : Paced due scene) {after : SamplerScene Multiplexer}
    (hsampler : after.sampler = scene.sampler) (hadc : after.adc = scene.adc)
    (hsamples : after.board.samples = scene.board.samples) : Paced due after := by
  have hsettled : ∀ {n}, Settled n scene → Settled n after := fun h =>
    h.of_sampler (by rw [hsampler]) (by rw [hsampler]) (by rw [hsampler]) hadc hsamples
  cases h with
  | first cycle hpointer hdue h => exact .first cycle (by rw [hsampler, hpointer]) hdue (hsettled h)
  | second cycle hpointer hdue h => exact .second cycle (by rw [hsampler, hpointer]) hdue (hsettled h)
  | third cycle hpointer hdue h => exact .third cycle (by rw [hsampler, hpointer]) hdue (hsettled h)

end SamplerScene

end PlugWatch
