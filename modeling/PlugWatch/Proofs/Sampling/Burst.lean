import PlugWatch.Sampling.Sampler
/-!
# What a burst changes

A burst works through entries of the running table. This file says once what each of its steps
does to the sampler, to the handshakes and to the lines, so that nobody has to open a burst again.

## Main Definitions

* `ClockAction.onLines` : a clock action as a change of the lines of a port.
* `Delivery` : a reply that has arrived and is about to be put away.
* `SamplerScene.deliveries` : the deliveries of a walk, up to its first pause or fault.
* `SamplerScene.clockActions` : what a burst does to pin 5 of a port.

## Main Statements

* `SamplerScene.walk_preserves` : what every exchange and every entry preserve, a walk preserves.
* `SamplerScene.lines_burst` : a burst touches the lines of the port it serves, and those only if
  the port is clocked; then it carries out the clock actions of the entries it gets through.
* `SamplerScene.handshake_burst` : a burst leaves the handshake of a port alone, or ends a cycle and
  brings it up to date.
-/

namespace PlugWatch

/-- A clock action as a change of the lines of a port. -/
def ClockAction.onLines (action : ClockAction) (lines : InputLines) : InputLines :=
  match action.drive? with
  | some drive => lines.driveTo .pin5 drive
  | none => lines

/-- A reply that has arrived and is about to be put away: the entry it arrived with, the count, and
the scene right behind the exchange. -/
structure Delivery (α : Type) where
  entry : Entry
  counts : UInt16
  scene : SamplerScene α

namespace SamplerScene

variable {α ε : Type}

/-! ## The steps of a burst -/

/-- An exchange changes the converter and nothing else, whether it works or not. -/
theorem exchange_snd [Converter α ε] (scene : SamplerScene α) (word : UInt16) :
    (scene.exchange word).2 = { scene with adc := (Converter.exchange scene.adc word).2 } := by
  unfold exchange
  split <;> rename_i h <;> simp [h]

theorem sampler_exchange [Converter α ε] (scene : SamplerScene α) (word : UInt16) :
    (scene.exchange word).2.sampler = scene.sampler := by
  rw [exchange_snd]

/-- The sampler is as it was, whether an exchange works or not. -/
theorem sampler_of_exchange [Converter α ε] {scene after : SamplerScene α} {word : UInt16}
    {result : Except ε UInt16} (h : scene.exchange word = (result, after)) :
    after.sampler = scene.sampler := by
  have hsampler := sampler_exchange scene word
  rwa [h] at hsampler

theorem board_exchange [Converter α ε] (scene : SamplerScene α) (word : UInt16) :
    (scene.exchange word).2.board = scene.board := by
  rw [exchange_snd]

@[simp] theorem adc_store (scene : SamplerScene α) (reply : Reply) (counts : UInt16) :
    (scene.store reply counts).adc = scene.adc := by
  cases reply <;> rfl

@[simp] theorem config_store (scene : SamplerScene α) (reply : Reply) (counts : UInt16) :
    (scene.store reply counts).sampler.config = scene.sampler.config := by
  cases reply <;> rfl

@[simp] theorem schedule_store (scene : SamplerScene α) (reply : Reply) (counts : UInt16) :
    (scene.store reply counts).sampler.schedule = scene.sampler.schedule := by
  cases reply <;> rfl

@[simp] theorem pointer_store (scene : SamplerScene α) (reply : Reply) (counts : UInt16) :
    (scene.store reply counts).sampler.pointer = scene.sampler.pointer := by
  cases reply <;> rfl

@[simp] theorem colorPort_store (scene : SamplerScene α) (reply : Reply) (counts : UInt16) :
    (scene.store reply counts).sampler.colorPort = scene.sampler.colorPort := by
  cases reply <;> rfl

@[simp] theorem cycles_store (scene : SamplerScene α) (reply : Reply) (counts : UInt16) :
    (scene.store reply counts).board.cycles = scene.board.cycles := by
  cases reply <;> rfl

/-- Storing a count leaves the handshake and the lines of every port alone. -/
theorem socket_store (scene : SamplerScene α) (reply : Reply) (counts : UInt16) (port : Port) :
    ((scene.store reply counts).board.inputs.get port).handshake
        = (scene.board.inputs.get port).handshake ∧
      ((scene.store reply counts).board.inputs.get port).lines
        = (scene.board.inputs.get port).lines := by
  cases reply with
  | discard => exact ⟨rfl, rfl⟩
  | slot slot => exact ⟨rfl, rfl⟩
  | slow => exact ⟨rfl, rfl⟩
  | colorRaw color =>
    simp only [store]
    by_cases h : port = scene.sampler.colorPort
    · subst h
      simp
    · simp [PerPort.get_modify_ne _ _ h]

@[simp] theorem adc_clock (scene : SamplerScene α) (action : ClockAction) :
    (scene.clock action).adc = scene.adc := by
  unfold clock
  dsimp only
  split
  · split <;> rfl
  · rfl

@[simp] theorem sampler_clock (scene : SamplerScene α) (action : ClockAction) :
    (scene.clock action).sampler = scene.sampler := by
  unfold clock
  dsimp only
  split
  · split <;> rfl
  · rfl

@[simp] theorem samples_clock (scene : SamplerScene α) (action : ClockAction) :
    (scene.clock action).board.samples = scene.board.samples := by
  unfold clock
  dsimp only
  split
  · split <;> rfl
  · rfl

@[simp] theorem cycles_clock (scene : SamplerScene α) (action : ClockAction) :
    (scene.clock action).board.cycles = scene.board.cycles := by
  unfold clock
  dsimp only
  split
  · split <;> rfl
  · rfl

/-- The clock changes the lines of the port served, if that port is clocked, and no other thing of
any port. -/
theorem inputs_clock (scene : SamplerScene α) (action : ClockAction) (port : Port) :
    (scene.clock action).board.inputs.get port =
      if port = scene.sampler.colorPort ∧ clocks (scene.board.inputs.get port).handshake = true then
        { scene.board.inputs.get port with
          lines := action.onLines (scene.board.inputs.get port).lines }
      else scene.board.inputs.get port := by
  unfold clock ClockAction.onLines
  dsimp only
  by_cases hp : port = scene.sampler.colorPort
  · subst hp
    by_cases hc : clocks (scene.board.inputs.get scene.sampler.colorPort).handshake = true
    · simp only [hc, if_true, and_self]
      cases action.drive? with
      | some drive => simp [Board.modifyInputLines]
      | none => rfl
    · simp only [hc, and_false, if_false, Bool.false_eq_true]
  · simp only [hp, false_and, if_false]
    split
    · cases action.drive? with
      | some drive => simp [Board.modifyInputLines, PerPort.get_modify_ne _ _ hp]
      | none => rfl
    · rfl

@[simp] theorem adc_apply (scene : SamplerScene α) (entry : Entry) (counts : UInt16) :
    (scene.apply entry counts).adc = scene.adc := by
  simp [apply]

@[simp] theorem config_apply (scene : SamplerScene α) (entry : Entry) (counts : UInt16) :
    (scene.apply entry counts).sampler.config = scene.sampler.config := by
  simp [apply]

@[simp] theorem schedule_apply (scene : SamplerScene α) (entry : Entry) (counts : UInt16) :
    (scene.apply entry counts).sampler.schedule = scene.sampler.schedule := by
  simp [apply]

@[simp] theorem pointer_apply (scene : SamplerScene α) (entry : Entry) (counts : UInt16) :
    (scene.apply entry counts).sampler.pointer = scene.sampler.pointer + 1 := by
  simp [apply]

@[simp] theorem colorPort_apply (scene : SamplerScene α) (entry : Entry) (counts : UInt16) :
    (scene.apply entry counts).sampler.colorPort = scene.sampler.colorPort := by
  simp [apply]

@[simp] theorem cycles_apply (scene : SamplerScene α) (entry : Entry) (counts : UInt16) :
    (scene.apply entry counts).board.cycles = scene.board.cycles := by
  simp [apply]

@[simp] theorem handshake_apply (scene : SamplerScene α) (entry : Entry) (counts : UInt16)
    (port : Port) :
    ((scene.apply entry counts).board.inputs.get port).handshake
      = (scene.board.inputs.get port).handshake := by
  simp only [apply, inputs_clock]
  split <;> exact (socket_store scene entry.reply counts port).1

/-- An entry carries out its clock action on the port served, if that port is clocked. -/
theorem lines_apply (scene : SamplerScene α) (entry : Entry) (counts : UInt16) (port : Port) :
    ((scene.apply entry counts).board.inputs.get port).lines =
      if port = scene.sampler.colorPort ∧ clocks (scene.board.inputs.get port).handshake = true then
        entry.clock.onLines (scene.board.inputs.get port).lines
      else (scene.board.inputs.get port).lines := by
  obtain ⟨hhand, hlines⟩ := socket_store scene entry.reply counts port
  simp only [apply, inputs_clock, hhand, colorPort_store]
  split <;> simp [hlines]

/-! ## Walks -/

/-- The deliveries of a walk: one for each entry up to the first pause or fault. -/
def deliveries [Converter α ε] : List Entry → SamplerScene α → List (Delivery α)
  | [], _ => []
  | entry :: rest, scene =>
    match scene.exchange (scene.sampler.requestWord entry) with
    | (.error _, _) => []
    | (.ok counts, scene) =>
      ⟨entry, counts, scene⟩ ::
        if entry.pause = .none then deliveries rest (scene.apply entry counts) else []

section Cons

variable [Converter α ε] {scene after : SamplerScene α} {entry : Entry}

theorem walk_cons_error {periods : Periods} {fault : ε} (rest : List Entry)
    (h : scene.exchange (scene.sampler.requestWord entry) = (.error fault, after)) :
    walk periods (entry :: rest) scene = (.error fault, after) := by
  rw [walk, h]

theorem walk_cons_go {periods : Periods} {counts : UInt16} (rest : List Entry)
    (h : scene.exchange (scene.sampler.requestWord entry) = (.ok counts, after))
    (hpause : entry.pause = .none) :
    walk periods (entry :: rest) scene = walk periods rest (after.apply entry counts) := by
  rw [walk, h]
  dsimp only
  rw [hpause]

/-- An entry with a pause ends the walk with the length of the pause. -/
theorem walk_cons_stop {periods : Periods} {counts : UInt16} (rest : List Entry)
    (h : scene.exchange (scene.sampler.requestWord entry) = (.ok counts, after))
    (hpause : entry.pause ≠ .none) :
    walk periods (entry :: rest) scene =
      (.ok (if entry.pause = .short then periods.short else periods.long),
        after.apply entry counts) := by
  rw [walk, h]
  dsimp only
  cases hp : entry.pause with
  | none => exact absurd hp hpause
  | short => rfl
  | long => rfl

theorem deliveries_cons_error {fault : ε} (rest : List Entry)
    (h : scene.exchange (scene.sampler.requestWord entry) = (.error fault, after)) :
    deliveries (entry :: rest) scene = [] := by
  rw [deliveries, h]

theorem deliveries_cons_go {counts : UInt16} (rest : List Entry)
    (h : scene.exchange (scene.sampler.requestWord entry) = (.ok counts, after))
    (hpause : entry.pause = .none) :
    deliveries (entry :: rest) scene =
      ⟨entry, counts, after⟩ :: deliveries rest (after.apply entry counts) := by
  rw [deliveries, h]
  dsimp only
  rw [if_pos hpause]

theorem deliveries_cons_stop {counts : UInt16} (rest : List Entry)
    (h : scene.exchange (scene.sampler.requestWord entry) = (.ok counts, after))
    (hpause : entry.pause ≠ .none) :
    deliveries (entry :: rest) scene = [⟨entry, counts, after⟩] := by
  rw [deliveries, h]
  dsimp only
  rw [if_neg hpause]

end Cons

/-- What every exchange and every entry preserve, a walk preserves. -/
theorem walk_preserves [Converter α ε] {P : SamplerScene α → Prop} {periods : Periods}
    (hexchange : ∀ scene word, P scene → P (scene.exchange word).2)
    (happly : ∀ scene entry counts, P scene → P (scene.apply entry counts)) :
    ∀ (entries : List Entry) (scene : SamplerScene α), P scene →
      P (walk periods entries scene).2 := by
  intro entries
  induction entries with
  | nil => intro scene h; exact h
  | cons entry rest ih =>
    intro scene h
    have hx := hexchange scene (scene.sampler.requestWord entry) h
    rcases heq : scene.exchange (scene.sampler.requestWord entry) with ⟨fault | counts, after⟩
    · rw [walk_cons_error rest heq]
      rw [heq] at hx
      exact hx
    · rw [heq] at hx
      have ha := happly after entry counts hx
      by_cases hp : entry.pause = .none
      · rw [walk_cons_go rest heq hp]
        exact ih _ ha
      · rw [walk_cons_stop rest heq hp]
        exact ha

/-- A walk keeps the configuration, the table, the port served and the count of cycles. -/
theorem turn_walk [Converter α ε] (periods : Periods) (entries : List Entry)
    (scene : SamplerScene α) :
    (walk periods entries scene).2.sampler.config = scene.sampler.config ∧
      (walk periods entries scene).2.sampler.schedule = scene.sampler.schedule ∧
      (walk periods entries scene).2.sampler.colorPort = scene.sampler.colorPort ∧
      (walk periods entries scene).2.board.cycles = scene.board.cycles := by
  refine walk_preserves
    (P := fun left => left.sampler.config = scene.sampler.config ∧
      left.sampler.schedule = scene.sampler.schedule ∧
      left.sampler.colorPort = scene.sampler.colorPort ∧ left.board.cycles = scene.board.cycles)
    ?_ ?_ entries scene ⟨rfl, rfl, rfl, rfl⟩
  · intro left word h
    rw [sampler_exchange, board_exchange]
    exact h
  · intro left entry counts h
    simpa using h

/-- A walk keeps every handshake. -/
theorem handshake_walk [Converter α ε] (periods : Periods) (entries : List Entry)
    (scene : SamplerScene α) (port : Port) :
    ((walk periods entries scene).2.board.inputs.get port).handshake
      = (scene.board.inputs.get port).handshake := by
  refine walk_preserves
    (P := fun left => (left.board.inputs.get port).handshake
      = (scene.board.inputs.get port).handshake) ?_ ?_ entries scene rfl
  · intro left word h
    rw [board_exchange]
    exact h
  · intro left entry counts h
    rw [handshake_apply]
    exact h

/-- A walk carries out the clock actions of the entries it gets through on the port served, if
that port is clocked, and leaves the lines of every other port alone. -/
theorem lines_walk [Converter α ε] (periods : Periods) (entries : List Entry) (port : Port) :
    ∀ scene : SamplerScene α,
      ((walk periods entries scene).2.board.inputs.get port).lines =
        if port = scene.sampler.colorPort ∧
            clocks (scene.board.inputs.get port).handshake = true then
          (deliveries entries scene).foldl
            (fun lines delivery => delivery.entry.clock.onLines lines)
            (scene.board.inputs.get port).lines
        else (scene.board.inputs.get port).lines := by
  induction entries with
  | nil =>
    intro scene
    simp [walk, deliveries]
  | cons entry rest ih =>
    intro scene
    have hs := sampler_exchange scene (scene.sampler.requestWord entry)
    have hb := board_exchange scene (scene.sampler.requestWord entry)
    rcases heq : scene.exchange (scene.sampler.requestWord entry) with ⟨fault | counts, after⟩
    · rw [walk_cons_error rest heq, deliveries_cons_error rest heq]
      rw [heq] at hb
      dsimp only at hb ⊢
      rw [hb]
      simp
    · rw [heq] at hs hb
      dsimp only at hs hb
      -- the exchange in front of the entry has touched neither the turn nor a handshake
      have hl := lines_apply after entry counts port
      rw [hs, hb] at hl
      by_cases hp : entry.pause = .none
      · rw [walk_cons_go rest heq hp, deliveries_cons_go rest heq hp, ih, colorPort_apply,
          handshake_apply, hs, hb, hl]
        split <;> simp
      · rw [walk_cons_stop rest heq hp, deliveries_cons_stop rest heq hp, hl]
        simp

/-! ## Whole bursts -/

/-- The end of a cycle as it concerns one port. -/
theorem get_completeCycle (scene : SamplerScene α) (port : Port) :
    scene.completeCycle.board.inputs.get port =
      if port = scene.sampler.colorPort then
        latch (completePort scene.board.samples port (scene.board.inputs.get port))
      else completePort scene.board.samples port (scene.board.inputs.get port) := by
  -- every port is brought up to date once, and the port served latches behind that
  have hall : ∀ inputs : PerPort InputSocket,
      (Port.all.foldl (fun inputs port => inputs.modify port
        (completePort scene.board.samples port)) inputs).get port
      = completePort scene.board.samples port (inputs.get port) := by
    intro inputs
    cases port <;> rfl
  have hboard : scene.completeCycle.board.inputs.get port =
      ((Port.all.foldl (fun inputs port => inputs.modify port
        (completePort scene.board.samples port)) scene.board.inputs).modify
          scene.sampler.colorPort latch).get port := by
    unfold completeCycle
    dsimp only
    split <;> split <;> rfl
  rw [hboard]
  by_cases h : port = scene.sampler.colorPort
  · subst h
    rw [PerPort.get_modify_self, hall, if_pos rfl]
  · rw [PerPort.get_modify_ne _ _ h, hall, if_neg h]

/-- The end of a cycle leaves the lines of every port alone. -/
theorem lines_completeCycle (scene : SamplerScene α) (port : Port) :
    (scene.completeCycle.board.inputs.get port).lines
      = (scene.board.inputs.get port).lines := by
  rw [get_completeCycle]
  split <;> rfl

/-- At the end of a cycle clocking follows colour mode, and the port served takes its command
over. -/
theorem handshake_completeCycle (scene : SamplerScene α) (port : Port) :
    (scene.completeCycle.board.inputs.get port).handshake =
      { (scene.board.inputs.get port).handshake with
        clocking := (scene.board.inputs.get port).handshake.active
        latched :=
          if port = scene.sampler.colorPort then (scene.board.inputs.get port).handshake.command
          else (scene.board.inputs.get port).handshake.latched } := by
  rw [get_completeCycle]
  split <;> rfl

theorem cycles_completeCycle (scene : SamplerScene α) :
    scene.completeCycle.board.cycles = scene.board.cycles := by
  unfold completeCycle
  dsimp only
  split <;> split <;> rfl

/-- The end of a cycle changes the table and the position only. -/
theorem completeCycle_eq (scene : SamplerScene α) :
    scene.completeCycle.adc = scene.adc ∧
      scene.completeCycle.sampler.pointer = scene.sampler.pointer ∧
      scene.completeCycle.sampler.slowSlot = scene.sampler.slowSlot ∧
      scene.completeCycle.sampler.config = scene.sampler.config := by
  unfold completeCycle
  dsimp only
  split <;> split <;> exact ⟨rfl, rfl, rfl, rfl⟩

/-- The table of the next cycle is the one for colour mode if some port is in it. -/
theorem schedule_completeCycle (scene : SamplerScene α) :
    scene.completeCycle.sampler.schedule =
      if scene.completeCycle.board.anyActive then .color else .normal := by
  unfold completeCycle
  dsimp only
  by_cases hsame : (if Board.anyActive { scene.board with
      inputs := (Port.all.foldl (fun inputs port =>
        inputs.modify port (completePort scene.board.samples port))
        scene.board.inputs).modify scene.sampler.colorPort latch } = true
      then Schedule.color else Schedule.normal) = scene.sampler.schedule
  · rw [if_pos hsame]
    exact hsame.symm
  · rw [if_neg hsame]

/-- While no port is in colour mode, a cycle leads to the normal table. -/
theorem schedule_completeCycle_of_inactive {scene : SamplerScene α}
    (h : ∀ port, (scene.board.inputs.get port).handshake.active = false) :
    scene.completeCycle.sampler.schedule = .normal := by
  have hactive : scene.completeCycle.board.anyActive = false := by
    refine PerPort.any_eq_false fun port => ?_
    rw [handshake_completeCycle]
    exact h port
  rw [schedule_completeCycle, hactive]
  rfl

theorem prepare_of_pointer_ne {scene : SamplerScene α} (h : scene.sampler.pointer ≠ 0) :
    scene.prepare = scene := if_neg h

theorem prepare_of_pointer_eq {scene : SamplerScene α} (h : scene.sampler.pointer = 0) :
    scene.prepare = scene.beginCycle := if_pos h

theorem pointer_prepare (scene : SamplerScene α) :
    scene.prepare.sampler.pointer = scene.sampler.pointer := by
  unfold prepare
  split <;> rfl

theorem adc_prepare (scene : SamplerScene α) : scene.prepare.adc = scene.adc := by
  unfold prepare
  split <;> rfl

/-- Beginning a cycle changes no port. -/
theorem inputs_prepare (scene : SamplerScene α) :
    scene.prepare.board.inputs = scene.board.inputs := by
  unfold prepare
  split <;> rfl

theorem lines_finish (scene : SamplerScene α) (port : Port) :
    (scene.finish.board.inputs.get port).lines = (scene.board.inputs.get port).lines := by
  unfold finish
  split
  · rw [lines_completeCycle]
  · rfl

theorem cycles_finish (scene : SamplerScene α) :
    scene.finish.board.cycles = scene.board.cycles := by
  unfold finish
  split
  · rw [cycles_completeCycle]
  · rfl

theorem adc_finish (scene : SamplerScene α) : scene.finish.adc = scene.adc := by
  unfold finish
  split
  · rw [(completeCycle_eq _).1]
  · rfl

section Burst

variable [Converter α ε] {scene left : SamplerScene α}

/-- The walk of a burst begun now. -/
def burstWalk (scene : SamplerScene α) : Except ε UInt32 × SamplerScene α :=
  walk scene.prepare.sampler.periods scene.prepare.sampler.remaining scene.prepare

/-- A burst whose walk works ends with the walk, or with the end of the cycle behind it. -/
theorem burst_of_walk_ok {period : UInt32} (h : scene.burstWalk = (.ok period, left)) :
    scene.burst = (.ok period, left.finish) := by
  unfold burstWalk at h
  unfold burst
  dsimp only
  rw [h]

theorem burst_of_walk_error {fault : ε} (h : scene.burstWalk = (.error fault, left)) :
    scene.burst = (.error fault, left) := by
  unfold burstWalk at h
  unfold burst
  dsimp only
  rw [h]

/-- Bursts that walk the same way are the same. -/
theorem burst_congr {other : SamplerScene α} (h : scene.burstWalk = other.burstWalk) :
    scene.burst = other.burst := by
  rcases hwalk : other.burstWalk with ⟨fault | period, left⟩
  · rw [burst_of_walk_error hwalk, burst_of_walk_error (h.trans hwalk)]
  · rw [burst_of_walk_ok hwalk, burst_of_walk_ok (h.trans hwalk)]

/-- What a burst does to a scene: it prepares, walks, and may finish. -/
theorem burst_snd (scene : SamplerScene α) :
    scene.burst.2 = scene.burstWalk.2 ∨ scene.burst.2 = scene.burstWalk.2.finish := by
  rcases h : scene.burstWalk with ⟨fault | period, left⟩
  · exact Or.inl (by rw [burst_of_walk_error h])
  · exact Or.inr (by rw [burst_of_walk_ok h])

theorem cycles_burst (scene : SamplerScene α) :
    scene.burst.2.board.cycles = scene.prepare.board.cycles := by
  have hturn : scene.burstWalk.2.board.cycles = scene.prepare.board.cycles :=
    (turn_walk _ _ scene.prepare).2.2.2
  rcases burst_snd scene with h | h
  · rw [h, hturn]
  · rw [h, cycles_finish, hturn]

/-- The deliveries of a burst begun now. -/
def burstDeliveries (scene : SamplerScene α) : List (Delivery α) :=
  deliveries scene.prepare.sampler.remaining scene.prepare

/-- The clock actions a burst begun now carries out on a port: those of the entries it gets
through, if it serves the port and the port is clocked, and none otherwise. -/
def clockActions (scene : SamplerScene α) (port : Port) : List ClockAction :=
  if port = scene.prepare.sampler.colorPort ∧
      clocks (scene.board.inputs.get port).handshake = true then
    scene.burstDeliveries.map fun delivery => delivery.entry.clock
  else []

theorem clockActions_of_not_clocks (scene : SamplerScene α) {port : Port}
    (h : clocks (scene.board.inputs.get port).handshake = false) :
    scene.clockActions port = [] := by
  refine if_neg fun hclocked => ?_
  rw [h] at hclocked
  cases hclocked.2

/-- A burst does nothing to the lines of a port but its clock actions. -/
theorem lines_burst (scene : SamplerScene α) (port : Port) :
    (scene.burst.2.board.inputs.get port).lines =
      (scene.clockActions port).foldl (fun lines action => action.onLines lines)
        (scene.board.inputs.get port).lines := by
  have hwalk := lines_walk scene.prepare.sampler.periods scene.prepare.sampler.remaining port
    scene.prepare
  rw [inputs_prepare] at hwalk
  have hlines : (scene.burst.2.board.inputs.get port).lines =
      (scene.burstWalk.2.board.inputs.get port).lines := by
    rcases burst_snd scene with h | h
    · rw [h]
    · rw [h, lines_finish]
  rw [hlines, burstWalk, hwalk, clockActions]
  split
  · rw [List.foldl_map]
    rfl
  · rfl

/-- A burst leaves the handshake of a port as it is, or ends the cycle and brings it up to date. -/
theorem handshake_burst (scene : SamplerScene α) (port : Port) :
    (scene.burst.2.board.inputs.get port).handshake
        = (scene.board.inputs.get port).handshake ∨
      (scene.burst.2.board.inputs.get port).handshake =
        { (scene.board.inputs.get port).handshake with
          clocking := (scene.board.inputs.get port).handshake.active
          latched :=
            if port = scene.prepare.sampler.colorPort then
              (scene.board.inputs.get port).handshake.command
            else (scene.board.inputs.get port).handshake.latched } := by
  have hhand : (scene.burstWalk.2.board.inputs.get port).handshake
      = (scene.prepare.board.inputs.get port).handshake :=
    handshake_walk _ _ scene.prepare port
  have hturn : scene.burstWalk.2.sampler.colorPort = scene.prepare.sampler.colorPort :=
    (turn_walk _ _ scene.prepare).2.2.1
  rw [inputs_prepare] at hhand
  rcases burst_snd scene with h | h
  · rw [h]
    exact Or.inl hhand
  · rw [h]
    unfold finish
    split
    · right
      rw [handshake_completeCycle]
      dsimp only
      rw [hhand, hturn]
    · exact Or.inl hhand

end Burst

end SamplerScene

end PlugWatch
