import PlugWatch.Proofs.Wire.Bits
import PlugWatch.Wire.BitBang
/-!
# The calls of an exchange

Lines may fail at any call. What an exchange answers and which calls it makes is therefore not one
sequence but a choice of sequences, one for each call that may be the first to fail.

## Main Definitions

* `Wire.Traced` : what an action answers on some wiring, and the calls that it makes there.
* `Wire.shiftBits` : shifts bits out one by one, and takes the bits in that come back.
* `Wire.beat` : the calls that move one bit.
* `Wire.Shifting`, `Wire.Exchanging` : the ways in which shifting bits and exchanging a word can go.

## Main Statements

* `Wire.shift_sixteen` : what the two registers do is to shift the bits of the word.
* `Wire.exists_exchanging` : every exchange goes in one of these ways.
-/

namespace PlugWatch

namespace Wire

variable {α β : Type} {action : Wire α} {next : α → Wire β}
variable {wiring middle after : Wiring} {calls later : List LineEvent}

/-- On a wiring the action gives the result, makes the calls and leaves the wiring behind it. -/
structure Traced (action : Wire α) (wiring : Wiring) (result : Except Line α)
    (calls : List LineEvent) (after : Wiring) : Prop where
  run : action.run wiring = (result, after)
  events : after.events = wiring.events ++ calls

/-! ### Actions one behind the other -/

theorem run_bind (action : Wire α) (next : α → Wire β) (wiring : Wiring) :
    (action >>= next).run wiring =
      match action.run wiring with
      | (.ok a, after) => (next a).run after
      | (.error fault, after) => (.error fault, after) := by
  unfold ExceptT.run
  simp only [bind, ExceptT.bind, ExceptT.mk, StateT.bind, ExceptT.bindCont]
  rcases action wiring with ⟨_ | _, after⟩ <;> rfl

/-- An action that leaves the wiring as it is makes no calls. -/
theorem Traced.silent {result : Except Line α} (h : action.run wiring = (result, wiring)) :
    Traced action wiring result [] wiring :=
  ⟨h, (List.append_nil _).symm⟩

theorem Traced.bind {a : α} {result : Except Line β}
    (hfirst : Traced action wiring (.ok a) calls middle)
    (hnext : Traced (next a) middle result later after) :
    Traced (action >>= next) wiring result (calls ++ later) after where
  run := by rw [run_bind, hfirst.run, ← hnext.run]
  events := by rw [hnext.events, hfirst.events, List.append_assoc]

/-- A fault ends what is done. -/
theorem Traced.bind_error {fault : Line}
    (hfirst : Traced action wiring (.error fault) calls after) :
    Traced (action >>= next) wiring (.error fault) calls after where
  run := by rw [run_bind, hfirst.run]
  events := hfirst.events

/-- What is made of an answer needs no call. -/
theorem Traced.map {result : Except Line α} (f : α → β)
    (h : Traced action wiring result calls after) :
    Traced (f <$> action) wiring (result.map f) calls after := by
  rw [map_eq_pure_bind]
  cases result with
  | ok a =>
    rw [← List.append_nil calls]
    exact h.bind (.silent rfl)
  | error fault => exact h.bind_error

/-- A fault of something attempted ends nothing. -/
theorem Traced.attempt {result : Except Line α} (h : Traced action wiring result calls after) :
    Traced (attempt action) wiring (.ok result) calls after where
  run := by
    change (Except.ok (action.run wiring).1, (action.run wiring).2) = _
    rw [h.run]
  events := h.events

/-! ### Single calls -/

/-- What an action is traced to, read off its run. -/
theorem Traced.of_run {result : Except Line α} (hresult : (action.run wiring).1 = result)
    (hevents : (action.run wiring).2.events = wiring.events ++ calls) :
    Traced action wiring result calls (action.run wiring).2 :=
  ⟨Prod.ext hresult rfl, hevents⟩

theorem run_drive (line : Line) (level : Bool) (wiring : Wiring) :
    (drive line level).run wiring =
      if wiring.failsNext line then (.error line, wiring.record line none)
      else (.ok (), if line = .mosi then { wiring.record line (some level) with data := level }
        else wiring.record line (some level)) :=
  rfl

/-- Setting a line is recorded as a fault of that line, or it works. -/
theorem traced_drive (line : Line) (level : Bool) (wiring : Wiring) :
    (∃ after, Traced (drive line level) wiring (.error line) [⟨line, none⟩] after) ∨
      ∃ after, Traced (drive line level) wiring (.ok ()) [⟨line, some level⟩] after := by
  cases hfails : wiring.failsNext line with
  | true =>
    refine .inl ⟨_, .of_run ?_ ?_⟩ <;> rw [run_drive, hfails] <;> rfl
  | false =>
    refine .inr ⟨_, .of_run ?_ ?_⟩ <;> rw [run_drive, hfails]
    · rfl
    · simp only [Bool.false_eq_true, ↓reduceIte]
      split <;> rfl

theorem run_sense (wiring : Wiring) :
    sense.run wiring =
      if wiring.failsNext .miso then (.error .miso, wiring.record .miso none)
      else (.ok wiring.answer,
        if wiring.loopback then wiring.record .miso (some wiring.answer)
        else { wiring.record .miso (some wiring.answer) with answers := wiring.answers.tail }) :=
  rfl

/-- Reading the answer line is recorded as a fault, or it gives the level that is recorded. -/
theorem traced_sense (wiring : Wiring) :
    (∃ after, Traced sense wiring (.error .miso) [⟨.miso, none⟩] after) ∨
      ∃ level after, Traced sense wiring (.ok level) [⟨.miso, some level⟩] after := by
  cases hfails : wiring.failsNext .miso with
  | true =>
    refine .inl ⟨_, .of_run ?_ ?_⟩ <;> rw [run_sense, hfails] <;> rfl
  | false =>
    refine .inr ⟨wiring.answer, _, .of_run ?_ ?_⟩ <;> rw [run_sense, hfails]
    · rfl
    · simp only [Bool.false_eq_true, ↓reduceIte]
      split <;> rfl

/-- Parking that works has set three lines to their idle levels. -/
theorem traced_park (hpark : park.run wiring = (.ok (), after)) :
    Traced park wiring (.ok ())
      [⟨.select, some true⟩, ⟨.clock, some false⟩, ⟨.mosi, some false⟩] after := by
  obtain ⟨failed, hselect⟩ | ⟨released, hselect⟩ := traced_drive .select true wiring
  · cases hpark.symm.trans (hselect.bind_error : Traced park wiring _ _ failed).run
  obtain ⟨failed, hclock⟩ | ⟨lowered, hclock⟩ := traced_drive .clock false released
  · cases hpark.symm.trans (hselect.bind hclock.bind_error : Traced park wiring _ _ failed).run
  obtain ⟨failed, hdata⟩ | ⟨parked, hdata⟩ := traced_drive .mosi false lowered
  · cases hpark.symm.trans (hselect.bind (hclock.bind hdata) : Traced park wiring _ _ failed).run
  have hall : Traced park wiring _ _ parked := hselect.bind (hclock.bind hdata)
  cases hpark.symm.trans hall.run
  exact hall

/-! ### Shifting -/

/-- Shifts bits out and answers the bits that come back. -/
def shiftBits : List Bool → Wire (List Bool)
  | [] => return []
  | bit :: rest => do
    drive .mosi bit
    drive .clock true
    let level ← sense
    drive .clock false
    return level :: (← shiftBits rest)

/-- What the registers do is said by bits: the highest ones of the first register go out, and those
that come back are moved into the second. -/
theorem shift_eq (n : Nat) (hn : n ≤ 16) (out reply : UInt16) :
    shift n out reply =
      (fun levels => levels.foldl Word.shiftIn reply) <$> shiftBits (Word.topBits n out) := by
  induction n generalizing out reply with
  | zero => rfl
  | succ n ih =>
    rw [Word.topBits_succ hn, shift, shiftBits]
    simp only [map_bind, map_pure]
    simp only [ih (Nat.le_of_lt hn), List.foldl_cons]
    rfl

/-- Sixteen rounds send the bits of a word, and make a word of those that come back. -/
theorem shift_sixteen (word : UInt16) :
    shift 16 word 0 = Word.ofBits <$> shiftBits (Word.bits word) :=
  shift_eq 16 le_rfl word 0

/-- The calls that move one bit out and one in. -/
def beat (bit level : Bool) : List LineEvent :=
  [⟨.mosi, some bit⟩, ⟨.clock, some true⟩, ⟨.miso, some level⟩, ⟨.clock, some false⟩]

/-- The ways in which shifting bits can go: what it answers, and its calls. Any of the four calls of
a bit may be the first to fail. -/
inductive Shifting : List Bool → Except Line (List Bool) → List LineEvent → Prop
  | done : Shifting [] (.ok []) []
  | moved (bit level : Bool) {rest : List Bool} {result : Except Line (List Bool)}
      {calls : List LineEvent} (behind : Shifting rest result calls) :
      Shifting (bit :: rest) (result.map (level :: ·)) (beat bit level ++ calls)
  | unset (bit : Bool) (rest : List Bool) :
      Shifting (bit :: rest) (.error .mosi) [⟨.mosi, none⟩]
  | unraised (bit : Bool) (rest : List Bool) :
      Shifting (bit :: rest) (.error .clock) [⟨.mosi, some bit⟩, ⟨.clock, none⟩]
  | unread (bit : Bool) (rest : List Bool) :
      Shifting (bit :: rest) (.error .miso)
        [⟨.mosi, some bit⟩, ⟨.clock, some true⟩, ⟨.miso, none⟩]
  | unlowered (bit level : Bool) (rest : List Bool) :
      Shifting (bit :: rest) (.error .clock)
        [⟨.mosi, some bit⟩, ⟨.clock, some true⟩, ⟨.miso, some level⟩, ⟨.clock, none⟩]

/-- Whatever the lines do, shifting goes in one of its ways. -/
theorem exists_shifting (bits : List Bool) (wiring : Wiring) :
    ∃ result calls after,
      Traced (shiftBits bits) wiring result calls after ∧ Shifting bits result calls := by
  induction bits generalizing wiring with
  | nil => exact ⟨_, _, _, .silent rfl, .done⟩
  | cons bit rest ih =>
    obtain ⟨after, hset⟩ | ⟨set, hset⟩ := traced_drive .mosi bit wiring
    · exact ⟨_, _, _, hset.bind_error, .unset bit rest⟩
    obtain ⟨after, hraise⟩ | ⟨raised, hraise⟩ := traced_drive .clock true set
    · exact ⟨_, _, _, hset.bind hraise.bind_error, .unraised bit rest⟩
    obtain ⟨after, hread⟩ | ⟨level, read, hread⟩ := traced_sense raised
    · exact ⟨_, _, _, hset.bind (hraise.bind hread.bind_error), .unread bit rest⟩
    obtain ⟨after, hlower⟩ | ⟨lowered, hlower⟩ := traced_drive .clock false read
    · exact ⟨_, _, _, hset.bind (hraise.bind (hread.bind hlower.bind_error)),
        .unlowered bit level rest⟩
    obtain ⟨result, calls, after, hrest, hshifting⟩ := ih lowered
    refine ⟨_, _, after, ?_, .moved bit level hshifting⟩
    refine hset.bind (hraise.bind (hread.bind (hlower.bind ?_)))
    cases result with
    | ok levels =>
      rw [← List.append_nil calls]
      exact hrest.bind (.silent rfl)
    | error fault => exact hrest.bind_error

/-- The calls that move bits out and levels in, one behind the other. -/
def beats (bits levels : List Bool) : List LineEvent := (List.zipWith beat bits levels).flatten

/-- Shifting that fails nowhere moves every bit, and answers a level for each. -/
theorem Shifting.eq_beats {bits levels : List Bool} {result : Except Line (List Bool)}
    (h : Shifting bits result calls) (hresult : result = .ok levels) :
    levels.length = bits.length ∧ calls = beats bits levels := by
  induction h generalizing levels with
  | done =>
    cases hresult
    exact ⟨rfl, rfl⟩
  | @moved bit level rest result calls behind ih =>
    cases result with
    | error fault => cases hresult
    | ok read =>
      cases hresult
      obtain ⟨hlength, rfl⟩ := ih rfl
      exact ⟨congrArg Nat.succ hlength, rfl⟩
  | unset | unraised | unread | unlowered => cases hresult

/-! ### The exchange -/

/-- The ways in which the exchange of a word can go: the line is not selected, or bits are shifted,
and behind them the line is released or that fails, too. -/
inductive Exchanging (word : UInt16) : Except Line UInt16 → List LineEvent → Prop
  | unselected : Exchanging word (.error .select) [⟨.select, none⟩]
  | released {result : Except Line (List Bool)} {calls : List LineEvent}
      (shifting : Shifting (Word.bits word) result calls) :
      Exchanging word (result.map Word.ofBits)
        (⟨.select, some false⟩ :: calls ++ [⟨.select, some true⟩])
  | unreleased {result : Except Line (List Bool)} {calls : List LineEvent}
      (shifting : Shifting (Word.bits word) result calls) :
      Exchanging word (result.bind fun _ => .error .select)
        (⟨.select, some false⟩ :: calls ++ [⟨.select, none⟩])

/-- An exchange that gives a reply moves all bits of the word out and all bits of the reply in while
the line is selected. -/
theorem Exchanging.eq_beats {word reply : UInt16} {result : Except Line UInt16}
    (h : Exchanging word result calls) (hresult : result = .ok reply) :
    calls = ⟨.select, some false⟩ :: beats (Word.bits word) (Word.bits reply) ++
      [⟨.select, some true⟩] := by
  cases h with
  | unselected => cases hresult
  | @released result calls shifting =>
    cases result with
    | error fault => cases hresult
    | ok levels =>
      cases hresult
      obtain ⟨hlength, rfl⟩ := shifting.eq_beats rfl
      rw [Word.bits_ofBits (by rw [hlength, Word.length_bits])]
  | @unreleased result _ _ => cases result <;> cases hresult

/-- Whatever the lines do, an exchange goes in one of its ways. -/
theorem exists_exchanging (word : UInt16) (wiring : Wiring) :
    ∃ result calls after,
      Traced (exchange word) wiring result calls after ∧ Exchanging word result calls := by
  obtain ⟨after, hselect⟩ | ⟨selected, hselect⟩ := traced_drive .select false wiring
  · exact ⟨_, _, _, hselect.bind_error, .unselected⟩
  obtain ⟨result, calls, shifted, hbits, hshifting⟩ := exists_shifting (Word.bits word) selected
  have hshift : Traced (shift 16 word 0) selected (result.map Word.ofBits) calls shifted := by
    rw [shift_sixteen]
    exact hbits.map _
  -- The release is attempted with the result of the shift at hand, and only then is that looked at.
  obtain ⟨after, hrelease⟩ | ⟨after, hrelease⟩ := traced_drive .select true shifted
  · refine ⟨_, _, after, hselect.bind (hshift.attempt.bind ?_), .unreleased hshifting⟩
    cases result with
    | ok levels => exact hrelease.attempt.bind (.silent rfl)
    | error fault => exact hrelease.attempt.bind (.silent rfl)
  · refine ⟨_, _, after, hselect.bind (hshift.attempt.bind ?_), .released hshifting⟩
    cases result with
    | ok levels => exact hrelease.attempt.bind (.silent rfl)
    | error fault => exact hrelease.attempt.bind (.silent rfl)

end Wire

end PlugWatch
