import PlugWatch.Proofs.Sampling.Deposits
import PlugWatch.Proofs.Sampling.Pipeline
/-!
# Where the replies go

The converter answers two exchanges late, and the tables are laid out for that: the reply column
of an entry belongs to the request column two entries above it. This file proves that the lag is
kept over everything that may come between the two: the end of a burst, the end of a cycle, the
change to the other table, the turn of the next port, and exchanges that fail.

## Main Definitions

* `Sampler.sent` : the words of the running cycle and the word in front of them.
* `SamplerScene.InFlight` : the invariant, which ties the history of the converter to the position
  in the table.
* `SamplerScene.runBursts`, `SamplerScene.runDeliveries` : bursts with changing demands between
  them, and their deliveries.

## Main Statements

* `SamplerScene.deposits_routed` : behind a successful start-up every deposit of every run holds
  the value of the channel that was asked for exactly two exchanges earlier. Only the first slow
  deposit answers the start-up: it puts zero in the first slow slot.
-/

namespace PlugWatch

/-- What a delivery writes is the value of the channel behind its slot, and the exchange before
last asked for that channel. -/
def Delivery.Routed (delivery : Delivery LiveConverter) : Prop :=
  ∀ deposit ∈ delivery.deposit?, ∃ now between asked earlier,
    delivery.scene.adc.history = now :: between :: asked :: earlier ∧
      asked.word = deposit.slot.request ∧ deposit.counts = now.adc.slot deposit.slot

/-- What the watch of a port asks of the sampler. -/
structure Demand where
  active : Bool
  command : UInt8
  deriving DecidableEq, Repr

/-! ## The tables -/

/-- Whether a reply belongs to a request. Nothing belongs to a slow reply here: it answers the
cycle before. -/
def Reply.answers : Reply → Request → Bool
  | .discard, _ => true
  | .slot s, request => request = .slot s
  | .slow, _ => false
  | .colorRaw _, request => request = .colorPort

namespace Schedule

/-- The replies of both tables trail the requests by two entries. -/
theorem answers_entries (schedule : Schedule) {k : Nat} {asking replying : Entry}
    (ha : schedule.entries[k]? = some asking) (hr : schedule.entries[k + 2]? = some replying) :
    replying.reply.answers asking.request = true := by
  have hall : ∀ pair ∈ schedule.entries.zip (schedule.entries.drop 2),
      pair.2.reply.answers pair.1.request = true := by
    cases schedule <;> decide
  refine hall (asking, replying) (List.mem_of_getElem? (i := k) ?_)
  rw [List.getElem?_zip_eq_some, List.getElem?_drop, Nat.add_comm 2 k]
  exact ⟨ha, hr⟩

/-- The first entry drops its reply, and the second one keeps it for the slow slot whose turn it
is. -/
theorem reply_head (schedule : Schedule) :
    schedule.entries[0]?.map Entry.reply = some .discard ∧
      schedule.entries[1]?.map Entry.reply = some .slow := by
  cases schedule <;> decide

/-- The first two entries ask for no slow slot. -/
theorem request_head (schedule : Schedule) {k : Nat} {entry : Entry} (hk : k < 2)
    (he : schedule.entries[k]? = some entry) : entry.request ≠ .slow := by
  have hall : ∀ entry ∈ schedule.entries.take 2, entry.request ≠ .slow := by
    cases schedule <;> decide
  refine hall entry (List.mem_of_getElem? (i := k) ?_)
  rw [List.getElem?_take_of_lt hk]
  exact he

/-- Only the second entry has a slow reply. -/
theorem slow_position (schedule : Schedule) {k : Nat} {entry : Entry}
    (he : schedule.entries[k]? = some entry) (hslow : entry.reply = .slow) : k = 1 := by
  match k with
  | 0 =>
    have hhead := schedule.reply_head.1
    rw [he] at hhead
    simp [hslow] at hhead
  | 1 => rfl
  | k + 2 =>
    have hlt : k < schedule.entries.length := by
      have := (List.getElem?_eq_some_iff.mp he).1
      omega
    have hanswers := schedule.answers_entries (List.getElem?_eq_getElem hlt) he
    rw [hslow] at hanswers
    cases hanswers

/-- The last entry asks for the slow slot whose turn it is. -/
theorem request_last (schedule : Schedule) :
    ∃ k last, schedule.entries.length = k + 1 ∧ schedule.entries[k]? = some last ∧
      last.request = .slow := by
  cases schedule with
  | normal => exact ⟨9, _, rfl, rfl, rfl⟩
  | color => exact ⟨14, _, rfl, rfl, rfl⟩

theorem two_lt_length (schedule : Schedule) : 2 < schedule.entries.length := by
  cases schedule <;> decide

end Schedule

/-! ## The words of a cycle -/

namespace Sampler

/-- The word in front of a cycle. The last word of the cycle before asked for the slow slot whose
turn it still is; before the first slow store, `first`, it was a word of the start-up. -/
def lead (sampler : Sampler) (first : Bool) : UInt16 :=
  if first then setupWord else sampler.slowSlot.request

/-- The words of the running cycle, the latest first, and the word in front of them. -/
def sent (sampler : Sampler) (first : Bool) : List UInt16 :=
  ((sampler.schedule.entries.take sampler.pointer).map sampler.requestWord).reverse
    ++ [sampler.lead first]

theorem sent_zero (sampler : Sampler) (first : Bool) (h : sampler.pointer = 0) :
    sampler.sent first = [sampler.lead first] := by
  rw [sent, h]
  rfl

/-- Behind an entry its word is the latest one. -/
theorem sent_succ (sampler : Sampler) (first : Bool) {k : Nat} {entry : Entry}
    (hp : sampler.pointer = k + 1) (he : sampler.schedule.entries[k]? = some entry) :
    sampler.sent first
      = sampler.requestWord entry :: ({ sampler with pointer := k } : Sampler).sent first := by
  unfold sent
  rw [hp, List.take_add_one, he, Option.toList_some, List.map_append, List.reverse_append]
  rfl

/-- Behind two entries their words are the two latest ones. -/
theorem take_sent {sampler : Sampler} (first : Bool) {k : Nat} {asking between : Entry}
    (hp : sampler.pointer = k + 2) (ha : sampler.schedule.entries[k]? = some asking)
    (hb : sampler.schedule.entries[k + 1]? = some between) :
    (sampler.sent first).take 2 = [sampler.requestWord between, sampler.requestWord asking] := by
  rw [sent_succ sampler first hp hb,
    sent_succ { sampler with pointer := k + 1 } first rfl ha]
  rfl

end Sampler

/-! ## The invariant -/

namespace SamplerScene

/-- The words of the cycle and the history of the converter agree as far back as replies are still
due. While no slow store was made, `first`, the turn is at the first slow slot. -/
structure InFlight (first : Bool) (scene : SamplerScene LiveConverter) : Prop where
  piped : scene.adc.Piped
  position : scene.sampler.pointer ≤ scene.sampler.schedule.entries.length
  trail : (scene.sampler.sent first).take 2 <+: scene.adc.words
  fresh : first = true → scene.sampler.pointer ≤ 1 ∧ scene.sampler.slowSlot = .slowBase

/-- The outcome of an exchange in a scene is that of the converter. -/
theorem exchange_live {scene after : SamplerScene LiveConverter} {word counts : UInt16}
    (hx : scene.exchange word = (.ok counts, after)) :
    ∃ reply, scene.adc.exchange word = (.ok reply, after.adc) ∧ counts = reply &&& sampleMask := by
  unfold exchange at hx
  split at hx
  · rename_i reply adc h
    cases hx
    exact ⟨reply, h, rfl⟩
  · cases hx

theorem inFlight_exchange_error {first : Bool} {scene after : SamplerScene LiveConverter}
    {word : UInt16} {fault : BusFault} (h : scene.InFlight first)
    (hx : scene.exchange word = (.error fault, after)) : after.InFlight first := by
  have hsnd := exchange_snd scene word
  have hlive : scene.adc.exchange word = (.error fault, after.adc) := by
    unfold exchange at hx
    split at hx
    · cases hx
    · rename_i h
      cases hx
      exact h
  rw [hx] at hsnd
  dsimp only at hsnd
  have hpiped := LiveConverter.piped_exchange word h.piped
  rw [hlive] at hpiped
  have hwords : after.adc.words = scene.adc.words := by
    unfold LiveConverter.words
    rw [LiveConverter.exchange_error hlive]
  have hsampler : after.sampler = scene.sampler := by rw [hsnd]
  refine ⟨hpiped, ?_, ?_, ?_⟩
  · rw [hsampler]
    exact h.position
  · rw [hsampler, hwords]
    exact h.trail
  · rw [hsampler]
    exact h.fresh

/-- A delivery is right: it is routed, but for the first slow one, which puts zero in the first
slow slot. -/
def Right (first : Bool) (delivery : Delivery LiveConverter) : Prop :=
  if first = true ∧ delivery.entry.reply = .slow then
    delivery.deposit? = some (.sample .slowBase 0)
  else delivery.Routed

section Step

variable {first : Bool} {scene after : SamplerScene LiveConverter} {entry : Entry}
  {counts : UInt16}

theorem second_word {a b : UInt16} {words : List UInt16} (h : [a, b] <+: words) :
    words[1]? = some b := by
  obtain ⟨rest, rfl⟩ := h
  rfl

/-- At the second entry the word before last stands in front of the cycle. -/
theorem InFlight.asked_lead (h : scene.InFlight first) (hp : scene.sampler.pointer = 1) :
    scene.adc.words[1]? = some (scene.sampler.lead first) := by
  have hlt : 0 < scene.sampler.schedule.entries.length := by
    have := scene.sampler.schedule.two_lt_length
    omega
  have htrail := h.trail
  rw [Sampler.sent_succ _ first hp (List.getElem?_eq_getElem hlt),
    Sampler.sent_zero _ first rfl] at htrail
  exact second_word htrail

/-- At a later entry the word before last is that of the entry two above. -/
theorem InFlight.asked_above {k : Nat} {asking : Entry} (h : scene.InFlight first)
    (hp : scene.sampler.pointer = k + 2)
    (ha : scene.sampler.schedule.entries[k]? = some asking) :
    scene.adc.words[1]? = some (scene.sampler.requestWord asking) := by
  have hlt : k + 1 < scene.sampler.schedule.entries.length := by
    have := h.position
    omega
  have htrail := h.trail
  rw [Sampler.take_sent first hp ha (List.getElem?_eq_getElem hlt)] at htrail
  exact second_word htrail

/-- A delivery is routed if the word before last asked for what it writes. -/
theorem InFlight.routed {deposit : Deposit} {word : UInt16} (h : scene.InFlight first)
    (hx : scene.exchange word = (.ok counts, after))
    (hdeposit : Delivery.deposit? ⟨entry, counts, after⟩ = some deposit)
    (hcounts : deposit.counts = counts)
    (hasked : scene.adc.words[1]? = some deposit.slot.request) :
    Delivery.Routed ⟨entry, counts, after⟩ := by
  obtain ⟨reply, hlive, hreply⟩ := exchange_live hx
  intro other hother
  rw [hdeposit, Option.mem_some_iff] at hother
  subst hother
  rw [hcounts, hreply]
  exact LiveConverter.exchange_answers h.piped hlive hasked

/-- The slow delivery of a cycle answers the word in front of the cycle. -/
theorem right_slow (h : scene.InFlight first) (hp : scene.sampler.pointer = 1)
    (hreply : entry.reply = .slow)
    (hx : scene.exchange (scene.sampler.requestWord entry) = (.ok counts, after)) :
    Right first ⟨entry, counts, after⟩ := by
  have hasked := h.asked_lead hp
  have hdeposit : Delivery.deposit? ⟨entry, counts, after⟩ =
      some (.sample scene.sampler.slowSlot counts) := by
    rw [Delivery.deposit?]
    dsimp only
    rw [hreply, sampler_of_exchange hx]
  unfold Right
  cases first with
  | true =>
    -- in front of the first cycle stands a word of the start-up, which asks for no channel
    obtain ⟨reply, hlive, hcounts⟩ := exchange_live hx
    have hzero : reply = 0 := LiveConverter.exchange_setup h.piped hlive hasked
    rw [if_pos ⟨rfl, hreply⟩, hdeposit, (h.fresh rfl).2, hcounts, hzero]
    rfl
  | false =>
    rw [if_neg (by simp)]
    exact h.routed hx hdeposit rfl hasked

/-- A delivery behind the first two entries of a cycle answers the entry two above. -/
theorem right_above {k : Nat} (h : scene.InFlight first) (hp : scene.sampler.pointer = k + 2)
    (he : scene.sampler.schedule.entries[k + 2]? = some entry)
    (hx : scene.exchange (scene.sampler.requestWord entry) = (.ok counts, after)) :
    Right first ⟨entry, counts, after⟩ := by
  have hlt : k < scene.sampler.schedule.entries.length := by
    have := (List.getElem?_eq_some_iff.mp he).1
    omega
  have ha := List.getElem?_eq_getElem hlt
  have hasked := h.asked_above hp ha
  have hanswers := scene.sampler.schedule.answers_entries ha he
  have hsampler := sampler_of_exchange hx
  unfold Right
  cases hreply : entry.reply with
  | discard =>
    rw [if_neg (by simp)]
    intro deposit hd
    simp [Delivery.deposit?, hreply] at hd
  | slow =>
    rw [hreply] at hanswers
    cases hanswers
  | slot s =>
    rw [if_neg (by simp)]
    have hrequest : scene.sampler.schedule.entries[k].request = .slot s := by
      simpa [hreply, Reply.answers] using hanswers
    rw [Sampler.requestWord, hrequest] at hasked
    refine h.routed hx (show _ = some (Deposit.sample s counts) from ?_) rfl hasked
    simp [Delivery.deposit?, hreply]
  | colorRaw color =>
    rw [if_neg (by simp)]
    have hrequest : scene.sampler.schedule.entries[k].request = .colorPort := by
      simpa [hreply, Reply.answers] using hanswers
    rw [Sampler.requestWord, hrequest] at hasked
    refine h.routed hx
      (show _ = some (Deposit.raw scene.sampler.colorPort color counts) from ?_) rfl hasked
    simp [Delivery.deposit?, hreply, hsampler]

/-- The delivery of the entry at the pointer is right. -/
theorem right_delivery (h : scene.InFlight first)
    (he : scene.sampler.schedule.entries[scene.sampler.pointer]? = some entry)
    (hx : scene.exchange (scene.sampler.requestWord entry) = (.ok counts, after)) :
    Right first ⟨entry, counts, after⟩ := by
  obtain ⟨hdiscard, hslow⟩ := scene.sampler.schedule.reply_head
  rcases hp : scene.sampler.pointer with - | - | k
  · rw [hp] at he
    rw [he] at hdiscard
    have hreply : entry.reply = .discard := by simpa using hdiscard
    rw [Right, if_neg (by simp [hreply])]
    intro deposit hd
    simp [Delivery.deposit?, hreply] at hd
  · rw [hp] at he
    rw [he] at hslow
    exact right_slow h hp (by simpa using hslow) hx
  · rw [hp] at he
    exact right_above h hp he hx

theorem sampler_apply_of_ne (scene : SamplerScene LiveConverter) (counts : UInt16)
    (hne : entry.reply ≠ .slow) :
    (scene.apply entry counts).sampler =
      { scene.sampler with pointer := scene.sampler.pointer + 1 } := by
  unfold apply
  dsimp only
  rw [sampler_clock, pointer_store]
  unfold store
  cases hreply : entry.reply with
  | slow => exact absurd hreply hne
  | discard => rfl
  | slot slot => rfl
  | colorRaw color => rfl

/-- A word that asks for no slow slot depends on the port served only. -/
theorem requestWord_congr {sampler sampler' : Sampler}
    (hport : sampler'.colorPort = sampler.colorPort) (hne : entry.request ≠ .slow) :
    sampler'.requestWord entry = sampler.requestWord entry := by
  unfold Sampler.requestWord
  cases hrequest : entry.request with
  | slow => exact absurd hrequest hne
  | slot s => rfl
  | colorPort => rw [Sampler.requestSlot, Sampler.requestSlot, hport]

/-- Behind an entry the words and the history agree again. -/
theorem trail_apply (h : scene.InFlight first)
    (he : scene.sampler.schedule.entries[scene.sampler.pointer]? = some entry)
    (hwords : after.adc.words = scene.sampler.requestWord entry :: scene.adc.words)
    (hsampler : after.sampler = scene.sampler) :
    ((after.apply entry counts).sampler.sent (first && entry.reply != .slow)).take 2
      <+: after.adc.words := by
  by_cases hslow : entry.reply = .slow
  · -- the turn passes on, but neither of the two latest words depends on it
    have hone := scene.sampler.schedule.slow_position he hslow
    have hlt : 0 < scene.sampler.schedule.entries.length := by
      have := scene.sampler.schedule.two_lt_length
      omega
    obtain ⟨head, hzero⟩ : ∃ head, scene.sampler.schedule.entries[0]? = some head :=
      ⟨_, List.getElem?_eq_getElem hlt⟩
    rw [hone] at he
    have hpointer : (after.apply entry counts).sampler.pointer = 0 + 2 := by
      rw [pointer_apply, hsampler, hone]
    have hschedule : (after.apply entry counts).sampler.schedule = scene.sampler.schedule := by
      rw [schedule_apply, hsampler]
    have hport : (after.apply entry counts).sampler.colorPort = scene.sampler.colorPort := by
      rw [colorPort_apply, hsampler]
    have htrail := h.trail
    rw [Sampler.sent_succ _ first hone hzero, Sampler.sent_zero _ first rfl] at htrail
    obtain ⟨older, holder⟩ := htrail
    have htake := Sampler.take_sent (first && entry.reply != .slow) hpointer
      (by rw [hschedule]; exact hzero) (by rw [hschedule]; exact he)
    rw [htake, requestWord_congr hport (scene.sampler.schedule.request_head (by omega) he),
      requestWord_congr hport (scene.sampler.schedule.request_head (by omega) hzero), hwords,
      ← holder]
    exact ⟨_ :: older, rfl⟩
  · -- the turn stays, so the word of the entry comes in front of the words so far
    have hfirst : (first && entry.reply != .slow) = first := by simp [hslow]
    have hsent : (after.apply entry counts).sampler.sent first
        = scene.sampler.requestWord entry :: scene.sampler.sent first := by
      rw [sampler_apply_of_ne after counts hslow, hsampler]
      exact Sampler.sent_succ _ first rfl he
    rw [hfirst, hsent, hwords, List.take_succ_cons, List.cons_prefix_cons]
    exact ⟨rfl, (List.take_prefix_take_left (by omega)).trans h.trail⟩

/-- An entry keeps the invariant. -/
theorem inFlight_apply (h : scene.InFlight first)
    (he : scene.sampler.schedule.entries[scene.sampler.pointer]? = some entry)
    (hx : scene.exchange (scene.sampler.requestWord entry) = (.ok counts, after)) :
    (after.apply entry counts).InFlight (first && entry.reply != .slow) := by
  obtain ⟨reply, hlive, -⟩ := exchange_live hx
  have hsampler := sampler_of_exchange hx
  have hpiped := LiveConverter.piped_exchange (scene.sampler.requestWord entry) h.piped
  rw [hlive] at hpiped
  have hwords : after.adc.words = scene.sampler.requestWord entry :: scene.adc.words := by
    unfold LiveConverter.words
    rw [(LiveConverter.exchange_ok hlive).1]
    rfl
  refine ⟨?_, ?_, ?_, ?_⟩
  · rw [adc_apply]
    exact hpiped
  · rw [pointer_apply, schedule_apply, hsampler]
    exact (List.getElem?_eq_some_iff.mp he).1
  · rw [adc_apply]
    exact trail_apply h he hwords hsampler
  · intro hfirst
    obtain ⟨hstill, hne⟩ : first = true ∧ entry.reply ≠ .slow := by simpa using hfirst
    obtain ⟨hle, hbase⟩ := h.fresh hstill
    -- the entry at position one is slow, and this one is not
    have hzero : scene.sampler.pointer ≠ 1 := by
      intro hone
      have hslow := scene.sampler.schedule.reply_head.2
      rw [hone] at he
      rw [he] at hslow
      exact hne (by simpa using hslow)
    rw [sampler_apply_of_ne after counts hne, hsampler]
    exact ⟨by dsimp only; omega, hbase⟩

end Step

/-! ## Walks and bursts -/

/-- Whether no slow store is made up to the end of a list of deliveries. -/
def stillFirst (first : Bool) (deliveries : List (Delivery LiveConverter)) : Bool :=
  first && deliveries.all fun delivery => delivery.entry.reply != .slow

/-- Every delivery of a list is right. -/
def AllRight : Bool → List (Delivery LiveConverter) → Prop
  | _, [] => True
  | first, delivery :: later =>
    Right first delivery ∧ AllRight (first && delivery.entry.reply != .slow) later

theorem stillFirst_cons (first : Bool) (delivery : Delivery LiveConverter)
    (later : List (Delivery LiveConverter)) :
    stillFirst first (delivery :: later)
      = stillFirst (first && delivery.entry.reply != .slow) later := by
  simp [stillFirst, Bool.and_assoc]

theorem allRight_append {before after : List (Delivery LiveConverter)} :
    ∀ {first : Bool}, AllRight first (before ++ after) ↔
      AllRight first before ∧ AllRight (stillFirst first before) after := by
  induction before with
  | nil => intro first; simp [AllRight, stillFirst]
  | cons delivery later ih =>
    intro first
    rw [List.cons_append, AllRight, AllRight, ih, and_assoc, stillFirst_cons]

/-- The deliveries of a walk are right, and the walk keeps the invariant. -/
theorem inFlight_walk (periods : Periods) (entries : List Entry) :
    ∀ {first : Bool} {scene : SamplerScene LiveConverter}, scene.InFlight first →
      scene.sampler.remaining = entries →
      AllRight first (deliveries entries scene) ∧
        (walk periods entries scene).2.InFlight
          (stillFirst first (deliveries entries scene)) := by
  induction entries with
  | nil =>
    intro first scene h _
    refine ⟨trivial, ?_⟩
    simpa [walk, deliveries, stillFirst] using h
  | cons entry rest ih =>
    intro first scene h hremaining
    -- what remains begins at the pointer
    have he : scene.sampler.schedule.entries[scene.sampler.pointer]? = some entry := by
      have hhead := congrArg List.head? hremaining
      rwa [Sampler.remaining, List.head?_drop, List.head?_cons] at hhead
    have hrest : scene.sampler.schedule.entries.drop (scene.sampler.pointer + 1) = rest := by
      have htail := congrArg List.tail hremaining
      rwa [Sampler.remaining, List.tail_drop, List.tail_cons] at htail
    rcases heq : scene.exchange (scene.sampler.requestWord entry) with ⟨fault | counts, after⟩
    · rw [walk_cons_error rest heq, deliveries_cons_error rest heq]
      refine ⟨trivial, ?_⟩
      simpa [stillFirst] using inFlight_exchange_error h heq
    · have hright := right_delivery h he heq
      have hnext := inFlight_apply h he heq
      by_cases hp : entry.pause = .none
      · rw [walk_cons_go rest heq hp, deliveries_cons_go rest heq hp, AllRight, stillFirst_cons]
        have hremaining' : (after.apply entry counts).sampler.remaining = rest := by
          rw [Sampler.remaining, schedule_apply, pointer_apply, sampler_of_exchange heq, hrest]
        obtain ⟨hlater, hwalk⟩ := ih hnext hremaining'
        exact ⟨⟨hright, hlater⟩, hwalk⟩
      · rw [walk_cons_stop rest heq hp, deliveries_cons_stop rest heq hp]
        refine ⟨⟨hright, trivial⟩, ?_⟩
        simpa [stillFirst] using hnext

/-- Beginning a cycle keeps the invariant: the port served changes where no word of the cycle has
been sent. -/
theorem inFlight_prepare {first : Bool} {scene : SamplerScene LiveConverter}
    (h : scene.InFlight first) : scene.prepare.InFlight first := by
  unfold prepare
  split
  · rename_i hp
    refine ⟨h.piped, h.position, ?_, h.fresh⟩
    have htrail := h.trail
    rw [Sampler.sent_zero _ first hp] at htrail
    have hsent : scene.beginCycle.sampler.sent first = [scene.sampler.lead first] :=
      Sampler.sent_zero _ first hp
    rw [hsent]
    exact htrail
  · exact h

/-- The end of a cycle keeps the invariant: the last word asked for the slow slot whose turn it
is, so it is the word in front of the next cycle, whichever table that one walks. -/
theorem inFlight_finish {first : Bool} {scene : SamplerScene LiveConverter}
    (h : scene.InFlight first) : scene.finish.InFlight first := by
  unfold finish
  split
  · rename_i hend
    obtain ⟨hadc, hpointer, hslot, -⟩ := completeCycle_eq
      { scene with sampler := { scene.sampler with pointer := 0 } }
    have hlong := scene.sampler.schedule.two_lt_length
    -- a cycle that ends is past its second entry, which made the slow store
    have hlater : first = false := by
      cases first with
      | false => rfl
      | true =>
        have := (h.fresh rfl).1
        omega
    subst hlater
    obtain ⟨k, last, hk, hlast, hrequest⟩ := scene.sampler.schedule.request_last
    have hp : scene.sampler.pointer = k + 1 := by
      have := h.position
      omega
    have htrail := h.trail
    rw [Sampler.sent_succ _ false hp hlast, List.take_succ_cons] at htrail
    refine ⟨?_, ?_, ?_, ?_⟩
    · rw [hadc]
      exact h.piped
    · rw [hpointer]
      exact Nat.zero_le _
    · rw [Sampler.sent_zero _ false hpointer, hadc]
      have hlead : (completeCycle { scene with
          sampler := { scene.sampler with pointer := 0 } }).sampler.lead false
          = scene.sampler.requestWord last := by
        rw [Sampler.lead, hslot, Sampler.requestWord, hrequest]
        rfl
      rw [hlead]
      exact (List.cons_prefix_cons.mpr ⟨rfl, List.nil_prefix⟩).trans htrail
    · intro hfirst
      cases hfirst
  · exact h

/-- The deliveries of a burst are right, and the burst keeps the invariant. -/
theorem inFlight_burst {first : Bool} {scene : SamplerScene LiveConverter}
    (h : scene.InFlight first) :
    AllRight first scene.burstDeliveries ∧
      scene.burst.2.InFlight (stillFirst first scene.burstDeliveries) := by
  obtain ⟨hright, hwalk⟩ : AllRight first scene.burstDeliveries ∧
      scene.burstWalk.2.InFlight (stillFirst first scene.burstDeliveries) :=
    inFlight_walk _ _ (inFlight_prepare h) rfl
  refine ⟨hright, ?_⟩
  rcases burst_snd scene with hburst | hburst
  · rw [hburst]
    exact hwalk
  · rw [hburst]
    exact inFlight_finish hwalk

/-! ## Runs -/

/-- The watches make their demands. -/
def demand (scene : SamplerScene LiveConverter) (demands : PerPort Demand) :
    SamplerScene LiveConverter :=
  { scene with
    board := { scene.board with
      inputs := .ofFn fun port =>
        let socket := scene.board.inputs.get port
        { socket with
          handshake := { socket.handshake with
            active := (demands.get port).active
            command := (demands.get port).command } } } }

/-- Bursts one after the other, whether they work or not, with new demands before each of them. -/
def runBursts : List (PerPort Demand) → SamplerScene LiveConverter → SamplerScene LiveConverter
  | [], scene => scene
  | demands :: rest, scene => runBursts rest (scene.demand demands).burst.2

/-- The deliveries of these bursts. -/
def runDeliveries :
    List (PerPort Demand) → SamplerScene LiveConverter → List (Delivery LiveConverter)
  | [], _ => []
  | demands :: rest, scene =>
    (scene.demand demands).burstDeliveries ++ runDeliveries rest (scene.demand demands).burst.2

/-- Demands change no reading. -/
theorem readings_demand (scene : SamplerScene LiveConverter) (demands : PerPort Demand) :
    (scene.demand demands).board.readings = scene.board.readings := by
  have hinputs : ((scene.demand demands).board.inputs.map fun socket => socket.color.adRaw)
      = scene.board.inputs.map fun socket => socket.color.adRaw := by
    refine PerPort.ext_get fun port => ?_
    rw [PerPort.get_map, PerPort.get_map, demand, PerPort.get_ofFn]
  rw [Board.readings, Board.readings, hinputs]
  rfl

theorem inFlight_demand {first : Bool} {scene : SamplerScene LiveConverter}
    (h : scene.InFlight first) (demands : PerPort Demand) :
    (scene.demand demands).InFlight first :=
  ⟨h.piped, h.position, h.trail, h.fresh⟩

/-- A run writes the deposits of its deliveries and no other reading. -/
theorem readings_runBursts (run : List (PerPort Demand)) :
    ∀ scene : SamplerScene LiveConverter, (runBursts run scene).board.readings =
      ((runDeliveries run scene).filterMap Delivery.deposit?).foldl Deposit.put
        scene.board.readings := by
  induction run with
  | nil => intro scene; rfl
  | cons demands rest ih =>
    intro scene
    rw [runBursts, runDeliveries, ih, readings_burst, readings_demand, List.filterMap_append,
      List.foldl_append]

/-- Every delivery of a run is right. -/
theorem allRight_runDeliveries (run : List (PerPort Demand)) :
    ∀ {first : Bool} {scene : SamplerScene LiveConverter}, scene.InFlight first →
      AllRight first (runDeliveries run scene) := by
  induction run with
  | nil => intro first scene _; trivial
  | cons demands rest ih =>
    intro first scene h
    obtain ⟨hright, hburst⟩ := inFlight_burst (inFlight_demand h demands)
    rw [runDeliveries, allRight_append]
    exact ⟨hright, ih hburst⟩

/-! ## The start-up -/

/-- A start-up that works sends its words and changes nothing but the converter. -/
theorem sendSetup_ok {n : Nat} :
    ∀ {scene ready : SamplerScene LiveConverter}, scene.adc.Piped →
      scene.sendSetup n = (.ok (), ready) →
      ready.adc.Piped ∧ ready.sampler = scene.sampler ∧
        ready.adc.words = List.replicate n setupWord ++ scene.adc.words := by
  induction n with
  | zero =>
    intro scene ready h hsent
    cases hsent
    exact ⟨h, rfl, rfl⟩
  | succ n ih =>
    intro scene ready h hsent
    unfold sendSetup at hsent
    rcases heq : scene.exchange setupWord with ⟨fault | counts, after⟩
    · rw [heq] at hsent
      cases hsent
    · rw [heq] at hsent
      obtain ⟨reply, hlive, -⟩ := exchange_live heq
      have hpiped := LiveConverter.piped_exchange setupWord h
      rw [hlive] at hpiped
      have hwords : after.adc.words = setupWord :: scene.adc.words := by
        unfold LiveConverter.words
        rw [(LiveConverter.exchange_ok hlive).1]
        rfl
      obtain ⟨hready, hsampler, hsetup⟩ := ih hpiped hsent
      refine ⟨hready, hsampler.trans (sampler_of_exchange heq), ?_⟩
      rw [hsetup, hwords, List.replicate_succ', List.append_assoc]
      rfl

/-- Behind a start-up that works a new sampler keeps the invariant, whatever the converter held
before. -/
theorem inFlight_init {config : SamplerConfig} {adc : Multiplexer} {world : Nat → Moment}
    {board : Board} {journal : Journal} {ready : SamplerScene LiveConverter}
    (hrange : adc.InRange)
    (hinit : init ⟨{ config }, { adc, world }, board, journal⟩ = (.ok (), ready)) :
    ready.InFlight true := by
  have hpiped : ({ adc, world } : LiveConverter).Piped := by
    refine ⟨hrange, ?_, ?_⟩
    · intro latest hlatest
      cases hlatest
    · intro earlier hearlier
      cases hearlier
  unfold init at hinit
  split at hinit
  · rename_i sent hsent
    cases hinit
    obtain ⟨hready, hsampler, hwords⟩ := sendSetup_ok hpiped hsent
    refine ⟨hready, ?_, ?_, ?_⟩
    · dsimp only
      rw [hsampler]
      exact Nat.zero_le _
    · dsimp only
      rw [hsampler, hwords]
      exact ⟨_, rfl⟩
    · intro _
      dsimp only
      rw [hsampler]
      exact ⟨Nat.zero_le _, rfl⟩
  · cases hinit

/-- **Where the replies go.** Behind a successful start-up, whatever the converter held before,
bursts are run with any demands between them, any settings of the converter before any exchange,
and any pattern of exchanges that fail. The readings change by the deposits of the deliveries and by
nothing else, and every delivery is routed: what it writes to a sample slot, or to the raw
conversions of the port served, is the value of the channel behind that slot, or behind pin 6 of
that port, and the sampler asked for it exactly two successful exchanges earlier. Only the first
slow delivery is not: it puts zero in the first slow slot. -/
theorem deposits_routed {config : SamplerConfig} {adc : Multiplexer} {world : Nat → Moment}
    {board : Board} {journal : Journal} {ready : SamplerScene LiveConverter}
    (hrange : adc.InRange)
    (hinit : init ⟨{ config }, { adc, world }, board, journal⟩ = (.ok (), ready))
    (run : List (PerPort Demand)) :
    (ready.runBursts run).board.readings =
        ((ready.runDeliveries run).filterMap Delivery.deposit?).foldl Deposit.put
          ready.board.readings ∧
      ∀ before delivery after, ready.runDeliveries run = before ++ delivery :: after →
        if delivery.entry.reply = .slow ∧ ∀ d ∈ before, d.entry.reply ≠ .slow then
          delivery.deposit? = some (.sample .slowBase 0)
        else delivery.Routed := by
  refine ⟨readings_runBursts run ready, ?_⟩
  intro before delivery after hsplit
  have hall := allRight_runDeliveries run (inFlight_init hrange hinit)
  rw [hsplit, allRight_append] at hall
  -- the deliveries in front say whether this one may be the first slow one
  have hright : Right (stillFirst true before) delivery := hall.2.1
  have hfirst : stillFirst true before = true ↔ ∀ d ∈ before, d.entry.reply ≠ .slow := by
    simp [stillFirst]
  unfold Right at hright
  split
  · rename_i hslow
    rw [if_pos ⟨hfirst.mpr hslow.2, hslow.1⟩] at hright
    exact hright
  · rename_i hslow
    rw [if_neg fun h => hslow ⟨h.2, hfirst.mp h.1⟩] at hright
    exact hright

/-- A converter that held a request before, has slot 0 at 123 and loses one exchange: the start-up
works, and nine bursts over both tables are routed. -/
theorem deposits_routed_unsteady :
    let adc : Multiplexer := { pending := some 3, due := some 5 }
    let world : Nat → Moment := fun n => { settings := [(0, 123)], failing := n == 9 }
    let start : SamplerScene LiveConverter := ⟨{ config := {} }, { adc, world }, {}, #[]⟩
    let run : List (PerPort Demand) := List.replicate 9 (.const { active := true, command := 13 })
    adc.InRange ∧ start.init.1 = .ok () ∧
      (start.init.2.runBursts run).board.readings =
          ((start.init.2.runDeliveries run).filterMap Delivery.deposit?).foldl Deposit.put
            start.init.2.board.readings ∧
        ∀ before delivery after, start.init.2.runDeliveries run = before ++ delivery :: after →
          if delivery.entry.reply = .slow ∧ ∀ d ∈ before, d.entry.reply ≠ .slow then
            delivery.deposit? = some (.sample .slowBase 0)
          else delivery.Routed := by
  intro adc world start run
  have hrange : adc.InRange := Multiplexer.inRange_default
  have hstart : start.init.1 = .ok () := rfl
  have hinit : start.init = (.ok (), start.init.2) := Prod.ext hstart rfl
  exact ⟨hrange, hstart, deposits_routed hrange hinit run⟩

end SamplerScene

end PlugWatch
