import PlugWatch.Proofs.Color.Exchange
/-!
# What a colour session sends and receives

The sessions of four ports share one bit timer. This file takes the link with everything that can
happen to it, and proves that a session which is neither started again nor stopped sends its command
and takes the answer in bit by bit, whatever goes on at the other ports and on the lines.

## Main Definitions

* `LinkEvent` : one thing that happens to the link and the lines.
* `LinkWorld` : the link and the board; `LinkWorld.events` carries events out.
* `LinkWorld.wire` : what the session of a port does on the wire meanwhile.

## Main Statements

* `LinkWorld.exchange_events` : any number of events go on with the exchange of a port.
* `LinkWorld.play_event` : a period of the bit timer does to the lines of a port what the log of the
  wire says.
* `LinkWorld.wire_prefix_whole`, `LinkWorld.ready_of_ticks` : a session keeps to its script, and is over
  after its periods.
* `LinkWorld.session_transfers` : what has gone over the wire when a session is over.
-/

namespace PlugWatch

/-- One thing that happens to the link and to the lines of the input ports. -/
inductive LinkEvent where
  | start (port : Port) (command : UInt8)
  | stop (port : Port)
  /-- A period of the bit timer. -/
  | tick
  /-- The lines of a port change, by whoever drives them, on the near side or on the far one. -/
  | change (port : Port) (lines : InputLines)

namespace LinkEvent

/-- Whether an event is a period of the bit timer. -/
def isTick : LinkEvent → Bool
  | tick => true
  | _ => false

theorem eq_tick {event : LinkEvent} (h : event.isTick = true) : event = .tick := by
  cases event with
  | tick => rfl
  | _ => cases h

/-- Whether an event starts or stops the session of a port. -/
def restarts (port : Port) : LinkEvent → Bool
  | start other _ | stop other => other = port
  | _ => false

end LinkEvent

/-- The link and the board it works on. -/
structure LinkWorld where
  link : ColorLink
  board : Board

namespace LinkWorld

/-- Carries out an event. -/
def event (world : LinkWorld) : LinkEvent → LinkWorld
  | .start port command => { world with link := (world.link.start port command).1 }
  | .stop port => { world with link := (world.link.stop port).1 }
  | .tick => ⟨(world.link.tick world.board).1, (world.link.tick world.board).2.1⟩
  | .change port lines =>
    { world with board := world.board.modifyInputLines port fun _ => lines }

/-- Carries out events, one after the other. -/
def events (world : LinkWorld) (run : List LinkEvent) : LinkWorld := run.foldl event world

/-- The session of a port. -/
def session (world : LinkWorld) (port : Port) : Session := world.link.sessions.get port

/-- The lines of a port. -/
def lines (world : LinkWorld) (port : Port) : InputLines := (world.board.inputs.get port).lines

theorem ready_iff (world : LinkWorld) (port : Port) :
    world.link.ready port = true ↔ (world.session port).state = .idle :=
  decide_eq_true_iff

/-- What the session of a port does on the wire in an event. -/
def during (world : LinkWorld) (port : Port) : LinkEvent → List Period
  | .tick => ((world.session port).period? world.link.initDelay (world.lines port)).toList
  | _ => []

/-- What the session of a port does on the wire in events, period by period. -/
def wire (port : Port) : LinkWorld → List LinkEvent → List Period
  | _, [] => []
  | world, event :: rest => world.during port event ++ (world.event event).wire port rest

theorem wire_append (world : LinkWorld) (port : Port) (before after : List LinkEvent) :
    world.wire port (before ++ after) =
      world.wire port before ++ (world.events before).wire port after := by
  induction before generalizing world with
  | nil => rfl
  | cons event rest ih =>
    rw [List.cons_append, wire, wire, ih, List.append_assoc]
    rfl

/-- All that belongs to a port, but for a watch. -/
def portState (world : LinkWorld) (port : Port) : PortState :=
  ColorLink.portState default (world.link, world.board) port

theorem portState_tick (world : LinkWorld) (port : Port) :
    (world.event .tick).portState port =
      (world.portState port).colorTick world.link.initDelay :=
  ColorLink.portState_tick world.link world.board default port

/-- Whatever happens, the reset hold keeps its length. -/
theorem initDelay_event (world : LinkWorld) (event : LinkEvent) :
    (world.event event).link.initDelay = world.link.initDelay := by
  cases event with
  | tick =>
    have hframe := (ColorLink.stepPorts_frame Port.all (world.link, world.board)).1
    rw [← ColorLink.tick_eq] at hframe
    exact hframe
  | _ => rfl

/-- A period of the bit timer does to the lines of a port what the log of the wire says, and every
level in the log is the level of the line at that point. -/
theorem play_event (world : LinkWorld) (port : Port) :
    Period.play? (world.during port .tick).flatten (world.lines port) =
      some ((world.event .tick).lines port) := by
  have hlines : (world.event .tick).lines port =
      ((world.portState port).colorTick world.link.initDelay).socket.lines := by
    rw [← portState_tick]
    rfl
  rw [hlines]
  exact (world.portState port).play_colorTick world.link.initDelay

section Exchanges

variable {world : LinkWorld} {port : Port} {command : UInt8} {before : List Period}

/-- What is no period of the bit timer leaves a session alone, unless it starts or stops it. -/
theorem session_event (world : LinkWorld) {event : LinkEvent} (hevent : event.restarts port = false)
    (htick : event.isTick = false) :
    (world.event event).session port = world.session port ∧ world.during port event = [] := by
  have hother : ∀ (other : Port) (f : Session → Session), decide (other = port) = false →
      (world.link.sessions.modify other f).get port = world.session port := by
    intro other f hne
    refine PerPort.get_modify_ne _ _ ?_
    rintro rfl
    simp at hne
  cases event with
  | start other command => exact ⟨hother other _ hevent, rfl⟩
  | stop other => exact ⟨hother other _ hevent, rfl⟩
  | tick => cases htick
  | change other lines => exact ⟨rfl, rfl⟩

/-- An event goes on with the exchange of a port, unless it starts or stops the session. -/
theorem exchange_event {event : LinkEvent} (hevent : event.restarts port = false)
    (h : (world.session port).Exchange world.link.initDelay command before) :
    ((world.event event).session port).Exchange world.link.initDelay command
      (before ++ world.during port event) := by
  cases htick : event.isTick with
  | false =>
    obtain ⟨hsame, hquiet⟩ := world.session_event hevent htick
    rw [hsame, hquiet, List.append_nil]
    exact h
  | true =>
    obtain rfl := LinkEvent.eq_tick htick
    have hsession : (world.portState port).session = some (world.session port) := rfl
    obtain ⟨stepped, hstepped, hexchange⟩ := PortState.exchange_colorTick hsession h
    rw [← portState_tick] at hstepped
    obtain rfl : (world.event .tick).session port = stepped := Option.some.inj hstepped
    exact hexchange

/-- **Any number of events go on with the exchange of a port**, if none of them starts or stops the
session. -/
theorem exchange_events {run : List LinkEvent} (hrun : ∀ event ∈ run, event.restarts port = false)
    (h : (world.session port).Exchange world.link.initDelay command before) :
    ((world.events run).session port).Exchange world.link.initDelay command
      (before ++ world.wire port run) := by
  induction run generalizing world before with
  | nil =>
    rw [wire, List.append_nil]
    exact h
  | cons event rest ih =>
    have hnext := exchange_event (hrun event List.mem_cons_self) h
    rw [← initDelay_event world event] at hnext
    have hrest := ih (fun other hmem => hrun other (List.mem_cons_of_mem _ hmem)) hnext
    rw [initDelay_event, List.append_assoc] at hrest
    exact hrest

/-- A session that is over stays so, and does nothing on the wire. -/
theorem session_event_of_idle {event : LinkEvent} (hevent : event.restarts port = false)
    (hidle : (world.session port).state = .idle) :
    (world.event event).session port = world.session port ∧ world.during port event = [] := by
  cases htick : event.isTick with
  | false => exact world.session_event hevent htick
  | true =>
    obtain rfl := LinkEvent.eq_tick htick
    have hsession : (world.portState port).session = some (world.session port) := rfl
    obtain ⟨hkept, hquiet⟩ :=
      PortState.colorTick_of_idle world.link.initDelay hsession hidle
    rw [← portState_tick] at hkept
    exact ⟨Option.some.inj hkept, congrArg Option.toList hquiet⟩

/-- A session that is over stays so. -/
theorem session_events_of_idle {run : List LinkEvent}
    (hrun : ∀ event ∈ run, event.restarts port = false)
    (hidle : (world.session port).state = .idle) :
    (world.events run).session port = world.session port ∧ world.wire port run = [] := by
  induction run generalizing world with
  | nil => exact ⟨rfl, rfl⟩
  | cons event rest ih =>
    obtain ⟨hsame, hquiet⟩ := session_event_of_idle (hrun event List.mem_cons_self) hidle
    rw [← hsame] at hidle ⊢
    obtain ⟨hsame', hquiet'⟩ := ih (fun other hmem => hrun other (List.mem_cons_of_mem _ hmem)) hidle
    refine ⟨hsame', ?_⟩
    rw [wire, hquiet, hquiet']
    rfl

/-- Every period of the bit timer is in the log of a session, until the session is over. -/
theorem ticks_le_length_wire {run : List LinkEvent}
    (hrun : ∀ event ∈ run, event.restarts port = false)
    (h : (world.session port).Exchange world.link.initDelay command before) :
    run.countP LinkEvent.isTick ≤ (world.wire port run).length ∨
      ((world.events run).session port).state = .idle := by
  induction run generalizing world before with
  | nil => exact .inl (Nat.le_refl 0)
  | cons event rest ih =>
    by_cases hidle : (world.session port).state = .idle
    · right
      rw [(session_events_of_idle hrun hidle).1]
      exact hidle
    · have hrest : ∀ other ∈ rest, other.restarts port = false :=
        fun other hmem => hrun other (List.mem_cons_of_mem _ hmem)
      have hnext := exchange_event (hrun event List.mem_cons_self) h
      rw [← initDelay_event world event] at hnext
      refine (ih hrest hnext).imp_left fun hticks => ?_
      -- the period at hand is in the log
      have hlogged : event.isTick = true → (world.during port event).length = 1 := by
        intro htick
        obtain rfl := LinkEvent.eq_tick htick
        simp [during, Session.period?, h.inUse hidle, hidle]
      rw [List.countP_cons, wire, List.length_append]
      split
      · rename_i htick
        rw [hlogged htick]
        omega
      · omega

end Exchanges

/-! ## Whole sessions -/

section Sessions

open WireCall

variable (world : LinkWorld) (port : Port) (command : UInt8) {run : List LinkEvent}

theorem exchange_begun :
    ((world.event (.start port command)).session port).Exchange
      (world.event (.start port command)).link.initDelay command [] := by
  have hstarted : (world.event (.start port command)).session port =
      (world.session port).start command :=
    PerPort.get_modify_self _ _ _
  rw [hstarted]
  exact Session.exchange_start _ command _

/-- A session that is started goes on with its exchange, whatever was before. -/
theorem exchange_started (hrun : ∀ event ∈ run, event.restarts port = false) :
    (((world.event (.start port command)).events run).session port).Exchange world.link.initDelay
      command ((world.event (.start port command)).wire port run) := by
  have hgone := exchange_events hrun (exchange_begun world port command)
  rwa [List.nil_append, initDelay_event] at hgone

/-- A session is over after its periods, unless it is started again or stopped. -/
theorem ready_of_ticks (hrun : ∀ event ∈ run, event.restarts port = false)
    (hticks : 943 + Script.holdPeriods world.link.initDelay ≤ run.countP LinkEvent.isTick) :
    ((world.event (.start port command)).events run).link.ready port = true := by
  rw [ready_iff]
  by_cases hidle : (((world.event (.start port command)).events run).session port).state = .idle
  · exact hidle
  · exfalso
    have hlogged :=
      (ticks_le_length_wire hrun (exchange_begun world port command)).resolve_right hidle
    have hshort := (exchange_started world port command hrun).length_lt hidle
    omega

/-- What a session does on the wire is a part of a script from the beginning. -/
theorem wire_prefix_whole (hrun : ∀ event ∈ run, event.restarts port = false) :
    ∃ first again levels, levels.length = 432 ∧
      (world.event (.start port command)).wire port run <+:
        Script.whole world.link.initDelay command first again levels := by
  -- enough further periods complete the session
  let begun := world.event (.start port command)
  let rest := List.replicate (943 + Script.holdPeriods world.link.initDelay) LinkEvent.tick
  have hlonger : ∀ event ∈ run ++ rest, event.restarts port = false := by
    intro event hmem
    rcases List.mem_append.mp hmem with hmem | hmem
    · exact hrun event hmem
    · rw [List.eq_of_mem_replicate hmem]
      rfl
  have hticks : 943 + Script.holdPeriods world.link.initDelay ≤
      (run ++ rest).countP LinkEvent.isTick := by
    rw [List.countP_append, List.countP_replicate]
    exact Nat.le_add_left _ _
  have hidle := (ready_iff _ port).mp (ready_of_ticks world port command hlonger hticks)
  obtain ⟨first, again, levels, hanswered, hwhole⟩ :=
    (exchange_started world port command hlonger).whole_of_idle hidle
  refine ⟨first, again, levels, hanswered.count, (begun.events run).wire port rest, ?_⟩
  rw [← hwhole, wire_append]

/-- **What a colour session sends and receives.** A session is started, and anything may happen then
but that it is started again or stopped. What it does on the wire is a part of a script from the
beginning; after its periods it is over. When it is over it has made eight rising edges to send, at
which the data line carried the command, the lowest bit first, and 432 to receive, at which the data
line was released; and the answer is made of the levels that were read on the data line behind
those. -/
theorem session_transfers (hrun : ∀ event ∈ run, event.restarts port = false) :
    let begun := world.event (.start port command)
    let calls := (begun.wire port run).flatten
    (∃ first again levels, levels.length = 432 ∧
        begun.wire port run <+: Script.whole world.link.initDelay command first again levels) ∧
      (943 + Script.holdPeriods world.link.initDelay ≤ run.countP LinkEvent.isTick →
        (begun.events run).link.ready port = true) ∧
      ((begun.events run).link.ready port = true →
        (∃ first again, begun.wire port run =
            Script.whole world.link.initDelay command first again (readings calls)) ∧
          (∀ data, edges .transmit data calls =
            (List.range 8).map fun k => Drive.ofLevel (command.toNat.testBit k)) ∧
          (∀ data, edges .receive data calls = List.replicate 432 .float) ∧
          (readings calls).length = 432 ∧
          ∀ (place : Fin 54) (i : Fin 8), (readings calls)[8 * place.val + i.val]? =
            some (((begun.events run).link.response port).bit place i)) := by
  intro begun calls
  refine ⟨?_, ?_, ?_⟩
  · exact wire_prefix_whole world port command hrun
  · exact ready_of_ticks world port command hrun
  · intro hready
    have hidle := (ready_iff _ port).mp hready
    obtain ⟨first, again, levels, hanswered, hwhole⟩ :=
      (exchange_started world port command hrun).whole_of_idle hidle
    have hcalls : calls =
        (Script.whole world.link.initDelay command first again levels).flatten :=
      congrArg List.flatten hwhole
    have hlevels : readings calls = levels := by
      rw [hcalls, Script.readings_whole]
    refine ⟨⟨first, again, by rw [hlevels]; exact hwhole⟩, fun data => ?_, fun data => ?_, ?_, ?_⟩
    · rw [hcalls, Script.edges_transmit]
    · rw [hcalls, Script.edges_receive, hanswered.count]
    · rw [hlevels, hanswered.count]
    · intro place i
      rw [hlevels]
      exact hanswered.holds place place.isLt i i.isLt

end Sessions

/-- While the session of the first port runs, one is started on the second port. The first one is
over after 944 periods, and the answer is made of 432 levels. -/
theorem session_transfers_beside :
    let world : LinkWorld := ⟨{}, {}⟩
    let begun := world.event (.start .p1 0x0D)
    let run := .start .p2 0x0E :: List.replicate 944 .tick
    (begun.events run).link.ready .p1 = true ∧
      (WireCall.readings (begun.wire .p1 run).flatten).length = 432 := by
  intro world begun run
  have hrun : ∀ event ∈ run, event.restarts .p1 = false := by
    intro event hmem
    rcases List.mem_cons.mp hmem with rfl | hmem
    · rfl
    · rw [List.eq_of_mem_replicate hmem]
      rfl
  have hticks : 943 + Script.holdPeriods world.link.initDelay ≤ run.countP LinkEvent.isTick := by
    rw [List.countP_cons, List.countP_replicate]
    decide
  obtain ⟨-, hover, htransferred⟩ := session_transfers world .p1 0x0D hrun
  exact ⟨hover hticks, (htransferred (hover hticks)).2.2.2.1⟩

end LinkWorld

end PlugWatch
