import PlugWatch.Proofs.Run
/-!
# The sampler and the colour link keep out of each other's way

Both the sampler and the link can drive pin 5 of an input port. They agree on who may through the
handshake: before a session begins, the watch asks the sampler for no command and waits until the
sampler has taken that over; the next command is asked for when the session is over.

## Main Definitions

* `PortState.Exclusive` : the invariant of one port.
* `Controller.sessionInUse` : the link holds a session on a port.

## Main Statements

* `PortState.exclusive_move`, `Controller.exclusive_step` : no step breaks the invariant.
* `Controller.session_excludes_clock` : while the link holds a session on a port, the sampler
  drives no pin of that port.
-/

namespace PlugWatch

namespace Session

theorem inUse_advance (delay : UInt16) (session : Session) (lines : InputLines) :
    (session.advance delay lines).1.inUse = session.inUse := by
  unfold advance
  split
  · rfl
  · rfl
  · split <;> rfl
  · rfl
  · rfl
  · rfl
  · split <;> rfl
  · split <;> rfl
  · rfl

theorem inUse_clockBit (session : Session) (lines : InputLines) :
    (session.clockBit lines).1.inUse = session.inUse := by
  unfold clockBit
  split
  · split
    · unfold lowerClock
      dsimp only
      split
      · rfl
      · split <;> rfl
    · unfold raiseClock
      split <;> rfl
  · split
    · unfold beginByte
      split <;> rfl
    · rfl

/-- A period of the bit timer neither begins nor ends the use of a session. -/
theorem inUse_step (delay : UInt16) (session : Session) (lines : InputLines) :
    (session.step delay lines).1.inUse = session.inUse := by
  unfold step
  split
  · rfl
  · dsimp only
    rw [inUse_clockBit, inUse_advance]

end Session

namespace PortState

/-- Who may drive the clock line. While a session is in use the sampler has no command for the
port, and is about to take over none; while a session is waited for, none is asked for. -/
structure Exclusive (state : PortState) : Prop where
  parked : ∀ session ∈ state.session, session.inUse = true →
    state.handshake.command = 0 ∧ state.handshake.latched = 0
  waiting : state.stage = .nxtColorWait → state.handshake.command = 0

/-- No move of a watch breaks the invariant. -/
theorem exclusive_move {before after : PortState} (move : Move before after)
    (h : before.Exclusive) : after.Exclusive := by
  -- a session that was stopped has nothing to be parked for
  have hstopped : after.session = before.session.map Session.stop →
      ∀ session ∈ after.session, session.inUse = true →
        after.handshake.command = 0 ∧ after.handshake.latched = 0 := by
    intro heq session hmem hin
    rw [heq] at hmem
    rw [not_inUse_of_mem_stop hmem] at hin
    cases hin
  have hordinary : after.stage.ordinary = true → after.stage ≠ .nxtColorWait := by
    intro hstage hwait
    rw [hwait] at hstage
    cases hstage
  cases move with
  | look hlines hhandshake hsession hstage =>
    refine ⟨?_, ?_⟩
    · rw [hsession, hhandshake]
      exact h.parked
    · intro hwait
      rw [hhandshake]
      rcases hstage with hstage | hstage | ⟨-, hstage⟩
      · exact absurd hwait (hordinary hstage)
      · exact h.waiting (hstage ▸ hwait)
      · rw [hwait] at hstage
        cases hstage
  | release hlines hhandshake hsession hstage =>
    refine ⟨?_, fun hwait => absurd hwait (hordinary hstage)⟩
    rw [hsession, hhandshake]
    exact h.parked
  | restart hlines hhandshake hsession hstage =>
    refine ⟨hstopped hsession, fun hwait => ?_⟩
    rw [hstage] at hwait
    cases hwait
  | prepare hlines hhandshake hsession hstage =>
    refine ⟨hstopped hsession, fun _ => ?_⟩
    rw [hhandshake]
  | start hlines hhandshake hsession hbefore hsettled hstage =>
    -- what is asked for is nothing, and it is settled
    have hcommand := h.waiting hbefore
    have hlatched : before.handshake.command = before.handshake.latched := by
      simpa [ColorHandshake.settled] using hsettled
    refine ⟨fun _ _ _ => ?_, fun hwait => ?_⟩
    · rw [hhandshake]
      exact ⟨hcommand, hlatched ▸ hcommand⟩
    · rw [hstage] at hwait
      cases hwait
  | collect hlines hhandshake hsession hbefore hstage =>
    refine ⟨hstopped hsession, fun hwait => ?_⟩
    rw [hstage] at hwait
    cases hwait
  | abandon hlines hhandshake hsession hstage =>
    exact ⟨hstopped hsession, fun hwait => absurd hwait (hordinary hstage)⟩

theorem inUse_colorTick (delay : UInt16) (state : PortState) :
    (state.colorTick delay).session.map Session.inUse = state.session.map Session.inUse := by
  unfold colorTick
  split
  · rfl
  · rename_i session hsession
    split
    · rw [hsession]
      exact congrArg some (session.inUse_step delay state.socket.lines)
    · rfl

/-- Whoever neither starts a session nor asks for a command, and takes over at most what is asked
for, keeps the invariant. -/
theorem Exclusive.of_frame {before after : PortState} (h : before.Exclusive)
    (hsession : after.session = before.session)
    (hstage : after.stage = .nxtColorWait → before.stage = .nxtColorWait)
    (hcommand : after.handshake.command = before.handshake.command)
    (hlatched : after.handshake.latched = before.handshake.latched ∨
      after.handshake.latched = before.handshake.command) : after.Exclusive := by
  refine ⟨?_, ?_⟩
  · intro session hmem hin
    rw [hsession] at hmem
    obtain ⟨hzero, hzero'⟩ := h.parked session hmem hin
    refine ⟨hcommand.trans hzero, ?_⟩
    rcases hlatched with hlatched | hlatched
    · exact hlatched.trans hzero'
    · exact hlatched.trans hzero
  · intro hwait
    rw [hcommand]
    exact h.waiting (hstage hwait)

theorem exclusive_colorTick (delay : UInt16) {state : PortState} (h : state.Exclusive) :
    (state.colorTick delay).Exclusive := by
  obtain ⟨hhandshake, hwatch⟩ := colorTick_frame delay state
  have hinUse := inUse_colorTick delay state
  refine ⟨?_, ?_⟩
  · -- a session in use behind the period was in use in front of it
    rw [hhandshake]
    intro session hsession hin
    rw [Option.mem_def] at hsession
    rw [hsession, Option.map_some, hin] at hinUse
    obtain ⟨before, hbefore, hin'⟩ := Option.map_eq_some_iff.mp hinUse.symm
    exact h.parked before hbefore hin'
  · rw [hhandshake, stage, hwatch]
    exact h.waiting

end PortState

namespace Controller

variable {α ε : Type}

/-- Whether the link holds a session on a port. -/
def sessionInUse (c : Controller α) (port : Port) : Bool :=
  (ColorLink.session? c.link port).any Session.inUse

variable [Converter α ε]

theorem exclusive_sampleTick {c : Controller α} {port : Port}
    (h : (c.portState port).Exclusive) : (c.sampleTick.2.portState port).Exclusive := by
  refine h.of_frame rfl (fun hwait => hwait) ?_ ?_
  · rcases handshake_sampleTick c port with hsame | hlatch
    · rw [hsame]
    · rw [hlatch]
  · rcases handshake_sampleTick c port with hsame | hlatch
    · rw [hsame]
      exact .inl rfl
    · rw [hlatch]
      dsimp only
      split
      · exact .inr rfl
      · exact .inl rfl

/-- No step breaks the invariant of a port. -/
theorem exclusive_step {c : Controller α} {port : Port} (step : Step α)
    (h : (c.portState port).Exclusive) : ((c.step step).portState port).Exclusive := by
  -- requests touch neither handshake nor session, and lead to no stage that waits
  have hrequest : step.isJob = false → ((c.step step).portState port).Exclusive := by
    intro hjob
    obtain ⟨hhandshake, hsession, hstage⟩ := shared_step c hjob port
    refine h.of_frame hsession (fun hwait => ?_) (by rw [hhandshake]) (.inl (by rw [hhandshake]))
    rcases hstage with hstage | hstage | hstage
    · exact hstage ▸ hwait
    · rw [hwait] at hstage
      cases hstage
    · rw [hwait] at hstage
      cases hstage
  cases step with
  | sample => exact exclusive_sampleTick h
  | manage =>
    rw [Controller.step, portState_managerTick]
    split
    · exact PortState.exclusive_move (PortState.move_tick _ _ _ _) h
    · exact h
  | color =>
    rw [Controller.step, portState_colorTick]
    exact PortState.exclusive_colorTick _ h
  | time clock => exact h
  | _ => exact hrequest rfl

/-- A fresh controller has no session in use, and its watches wait for none. -/
theorem exclusive_new {adc : α} {board : Board} {config : Config} {c : Controller α}
    (h : Controller.new adc board config = .ok c) (port : Port) :
    (c.portState port).Exclusive := by
  obtain ⟨hwatch, hsession⟩ := portState_new h port
  refine ⟨?_, ?_⟩
  · intro session hmem hin
    rw [hsession session hmem] at hin
    cases hin
  · intro hwait
    rw [PortState.stage, hwatch] at hwait
    cases hwait

theorem Reachable.exclusive {c : Controller α} (h : c.Reachable) (port : Port) :
    (c.portState port).Exclusive := by
  induction h with
  | new h => exact exclusive_new h port
  | step _ step ih => exact exclusive_step step ih

/-- A burst drives no pin of a port without a latched command. -/
theorem lines_sampleTick_of_latched {c : Controller α} {port : Port}
    (h : (c.portState port).handshake.latched = 0) :
    (c.sampleTick.2.portState port).lines = (c.portState port).lines := by
  refine lines_sampleTick_of_not_clocks ?_
  rw [SamplerScene.clocks, h]
  rfl

/-- **The sampler and the colour link never drive the clock line of the same port.** In a reachable
controller, while the link holds a session on a port, the port asks the sampler for no command and
the sampler has taken none over; and whatever happens from there, as long as the session is held, a
burst leaves the lines of the port as they are, even the count of drive calls. -/
theorem session_excludes_clock {c : Controller α} (h : c.Reachable) {port : Port}
    (hsession : c.sessionInUse port = true) :
    (c.board.inputs.get port).handshake.command = 0 ∧
      (c.board.inputs.get port).handshake.latched = 0 ∧
      ∀ run : List (Step α), (c.steps run).sessionInUse port = true →
        ((c.steps run).sampleTick.2.board.inputs.get port).lines
          = ((c.steps run).board.inputs.get port).lines := by
  have hparked : ∀ {c : Controller α}, c.Reachable → c.sessionInUse port = true →
      (c.portState port).handshake.command = 0 ∧ (c.portState port).handshake.latched = 0 := by
    intro c h hsession
    unfold sessionInUse at hsession
    cases hlink : ColorLink.session? c.link port with
    | none =>
      rw [hlink] at hsession
      cases hsession
    | some session =>
      rw [hlink] at hsession
      exact (h.exclusive port).parked session hlink hsession
  obtain ⟨hcommand, hlatched⟩ := hparked h hsession
  refine ⟨hcommand, hlatched, fun run hheld => ?_⟩
  exact lines_sampleTick_of_latched (hparked (h.steps run) hheld).2

/-- On a board with a loaded pin 1 the first port is connected after eight ticks. It is asked for a
colour command, prepares a session in the next tick and starts it in the one after. -/
theorem session_excludes_clock_started :
    ∃ fresh : Controller Multiplexer,
      Controller.new {} {} { detection := { resetMs := 0, floatMs := 0, connectMs := 0 } }
          = .ok fresh ∧
        let c := fresh.steps (List.replicate 8 .manage ++ [.request .p1 0x0D, .manage, .manage])
        c.sessionInUse .p1 = true ∧
          (c.board.inputs.get .p1).handshake.command = 0 ∧
          (c.board.inputs.get .p1).handshake.latched = 0 ∧
          ∀ run : List (Step Multiplexer), (c.steps run).sessionInUse .p1 = true →
            ((c.steps run).sampleTick.2.board.inputs.get .p1).lines
              = ((c.steps run).board.inputs.get .p1).lines := by
  refine ⟨_, rfl, ?_⟩
  intro c
  have hfresh : Controller.new ({} : Multiplexer) {}
    { detection := { resetMs := 0, floatMs := 0, connectMs := 0 } } = .ok _ := rfl
  have hreachable : c.Reachable := (Reachable.new hfresh).steps _
  have hsession : c.sessionInUse .p1 = true := rfl
  exact ⟨hsession, session_excludes_clock hreachable hsession⟩

end Controller

end PlugWatch
