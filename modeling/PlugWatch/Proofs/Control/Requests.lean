import PlugWatch.Proofs.Control.InPlace
import PlugWatch.Proofs.Detection.Detector
import PlugWatch.Proofs.Detection.Release
/-!
# What requests do, and when they are turned down

A control write and a raw-pin write carry one byte for each input port, and go through the ports one
after the other. None of that may begin before all checks are passed, and no byte may reach a port that
is not its own. What a byte does is said here by acts on a port alone, without the order of the ports
and without the controller around them.

## Main Definitions

* `controlFault?`, `pinFault?`, `testPinFault?` : why a request is turned down, the checks in order.
* `controlActs`, `pinActs` : what the bytes of a write do at an input port.
* `PortState.Requested` : the parts of an input port that such a write may change.
* `Controller.ActedOn` : a controller in which nothing has changed but input ports, each by its acts.

## Main Statements

* `PortState.requested_onPort`, `PortState.requested_acts` : acts of a write stay within these parts.
* `Controller.actedOn_eachPort` : steps for each port in a row are acts on each port by itself.
* `Controller.requests_whole_or_nothing` : every request is turned down for exactly these reasons, with
  the controller as it was, or is carried out port by port.
-/

namespace PlugWatch

/-! ## Why a request is turned down -/

/-- Why a control write is turned down, if it is. -/
def controlFault? : List UInt8 → Option ControlError
  | [] => some .empty
  | command :: rest =>
    if rest.length < 4 then some (.tooShort 5 (rest.length + 1))
    else if command = byteOf 'e' ∨ command = byteOf 't' then none
    else some (.unknownCommand command)

/-- Why a raw-pin write is turned down, if it is. -/
def pinFault? (bytes : List UInt8) : Option ControlError :=
  if bytes.length < 4 then some (.tooShort 4 bytes.length) else none

/-- Why a test-pin request is turned down, if it is. A read takes lengths up to 16 and a write takes 1
to 15 bytes; the ports have the numbers 0 to 7. -/
def testPinFault? : TestPinRequest → Option ControlError
  | .off | .on => none
  | .read raw length =>
    if 16 < length then some (.invalidLength length)
    else if 7 < raw.toNat then some (.portOutOfRange raw)
    else none
  | .write raw data =>
    if data.length = 0 ∨ 16 ≤ data.length then some (.invalidLength data.length)
    else if 7 < raw.toNat then some (.portOutOfRange raw)
    else none

theorem portBytes?_eq_none_iff {bytes : List UInt8} : portBytes? bytes = none ↔ bytes.length < 4 := by
  unfold portBytes?
  split
  · simp
  · rename_i hfew
    refine ⟨fun _ => ?_, fun _ => rfl⟩
    match bytes, hfew with
    | [], _ | [_], _ | [_, _], _ | [_, _, _], _ => simp
    | a :: b :: c :: d :: rest, hfew => exact absurd rfl (hfew a b c d rest)

/-- The byte of a port is the one in its place. -/
theorem get_of_portBytes? {bytes : List UInt8} {ports : PerPort UInt8}
    (h : portBytes? bytes = some ports) (port : Port) :
    ports.get port = bytes.getD port.index 0 := by
  unfold portBytes? at h
  split at h
  · cases h
    cases port <;> rfl
  · cases h

/-- Bytes behind the fourth do not count. -/
theorem portBytes?_take (bytes : List UInt8) : portBytes? (bytes.take 4) = portBytes? bytes := by
  match bytes with
  | [] | [_] | [_, _] | [_, _, _] | _ :: _ :: _ :: _ :: _ => rfl

theorem Port.ofIndex?_eq_none_iff {n : Nat} : ofIndex? n = none ↔ 4 ≤ n := by
  match n with
  | 0 | 1 | 2 | 3 | n + 4 => simp [ofIndex?]

namespace TestPort

/-- The number of a port: the input ports come first. -/
def number : TestPort → Nat
  | input port => port.index
  | output port => 4 + port.index

/-- Eight numbers stand for ports. -/
theorem exists_ofRaw {raw : UInt8} (h : raw.toNat < 8) :
    ∃ port : TestPort, ofRaw raw = .ok port ∧ port.number = raw.toNat := by
  unfold ofRaw
  match hraw : raw.toNat, h with
  | 0, _ => exact ⟨input .p1, rfl, rfl⟩
  | 1, _ => exact ⟨input .p2, rfl, rfl⟩
  | 2, _ => exact ⟨input .p3, rfl, rfl⟩
  | 3, _ => exact ⟨input .p4, rfl, rfl⟩
  | 4, _ => exact ⟨output .p1, rfl, rfl⟩
  | 5, _ => exact ⟨output .p2, rfl, rfl⟩
  | 6, _ => exact ⟨output .p3, rfl, rfl⟩
  | 7, _ => exact ⟨output .p4, rfl, rfl⟩

/-- Other numbers are out of range. -/
theorem ofRaw_of_le {raw : UInt8} (h : 8 ≤ raw.toNat) :
    ofRaw raw = .error (.portOutOfRange raw) := by
  have hinput : Port.ofIndex? raw.toNat = none := Port.ofIndex?_eq_none_iff.mpr (by omega)
  have houtput : Port.ofIndex? (raw.toNat - 4) = none := Port.ofIndex?_eq_none_iff.mpr (by omega)
  unfold ofRaw
  rw [hinput, houtput]
  dsimp only
  rw [if_neg (by omega)]

end TestPort

/-! ## What bytes do at a port -/

/-- What an enable byte does at its port. -/
def enableActs (byte : UInt8) : List InputAct :=
  if byte = byteOf '0' then [.enable false]
  else if byte = byteOf '1' then [.enable true]
  else []

/-- What a connection code does at its port. -/
def forceActs (code : UInt8) : List InputAct := (Classification.forced? code).toList.map .force

/-- What the byte of a port in a control write does there, depending on the first byte. -/
def controlActs (command byte : UInt8) : List InputAct :=
  if command = byteOf 'e' then enableActs byte else forceActs byte

/-- What a raw-pin byte does at its port. Everything but a release needs a connected port, and a colour
command needs a link. -/
def pinActs (byte : UInt8) (state : PortState) : List InputAct :=
  if byte = byteOf '-' then []
  else if byte = byteOf 'f' then
    [.drive .pin5 .float, .drive .pin6 .float, .drive .buffer .high]
  else if !state.watch.connected then []
  else if byte &&& 0xF8 = byteOf '0' then [.drive .pin5 (.ofLevel (byte &&& 2 ≠ 0))]
  else if 0x0D ≤ byte ∧ byte ≤ 0x11 ∧ state.session.isSome then [.request byte]
  else []

namespace InputAct

/-- Whether a write of bytes can do this to an input port. -/
def ofWrite : InputAct → Bool
  | enable _ | force _ | request _ => true
  | drive role _ => role = .pin5 || role = .pin6 || role = .buffer
  | _ => false

end InputAct

namespace PortState

/-- Nothing of an input port has changed but whether detection is on, the classification, stage, timer
and command, and the pins 5 and 6 and the buffer. The level on the far side of pin 6 belongs to that pin:
a sensor presents it at a rising edge of the clock. -/
structure Requested (before after : PortState) : Prop where
  watch : ∃ enabled stage timer command,
    after.watch =
      { before.watch with enabled := enabled, stage := stage, timer := timer, command := command }
  socket : ∃ verdict lines, after.socket = { before.socket with verdict := verdict, lines := lines }
  session : after.session = before.session
  drive : ∀ role, role = .pin1 ∨ role = .pin2 →
    after.lines.drive.get role = before.lines.drive.get role
  level : ∀ role, role ≠ .pin6 → after.lines.level.get role = before.lines.level.get role

theorem Requested.refl (state : PortState) : Requested state state where
  watch := ⟨_, _, _, _, rfl⟩
  socket := ⟨_, _, rfl⟩
  session := rfl
  drive _ _ := rfl
  level _ _ := rfl

theorem Requested.trans {a b c : PortState} (hab : Requested a b) (hbc : Requested b c) :
    Requested a c where
  watch := by
    obtain ⟨_, _, _, _, hab⟩ := hab.watch
    obtain ⟨enabled, stage, timer, command, hbc⟩ := hbc.watch
    exact ⟨enabled, stage, timer, command, by rw [hbc, hab]⟩
  socket := by
    obtain ⟨_, _, hab⟩ := hab.socket
    obtain ⟨verdict, lines, hbc⟩ := hbc.socket
    exact ⟨verdict, lines, by rw [hbc, hab]⟩
  session := hbc.session.trans hab.session
  drive role hrole := (hbc.drive role hrole).trans (hab.drive role hrole)
  level role hrole := (hbc.level role hrole).trans (hab.level role hrole)

end PortState

/-- Driving a pin leaves the levels on the far side alone, but for that of pin 6. -/
theorem InputLines.level_driveTo_ne (lines : InputLines) (role : InputRole) (drive : Drive)
    {other : InputRole} (hne : other ≠ .pin6) :
    (lines.driveTo role drive).level.get other = lines.level.get other := by
  unfold driveTo
  dsimp only
  split
  · unfold clockSensor
    split
    · rfl
    · split
      · rfl
      · exact InputPins.get_set_ne _ _ hne
  · rfl

namespace PortState

/-- Acts of a write stay within what they may change. -/
theorem requested_onPort {act : InputAct} (hact : act.ofWrite = true) (state : PortState) :
    Requested state (act.onPort state) := by
  have hrefl := Requested.refl state
  cases act with
  | latch => cases hact
  | setLatched command => cases hact
  | plug level sensor => cases hact
  | enable on => exact { hrefl with watch := ⟨on, _, _, _, rfl⟩ }
  | force classification =>
    unfold InputAct.onPort
    dsimp only
    split
    · exact { hrefl with socket := ⟨classification, _, rfl⟩ }
    · exact hrefl
  | request command =>
    unfold InputAct.onPort
    dsimp only
    split
    · exact { hrefl with watch := ⟨_, .nxtColorInit, 0, command, rfl⟩ }
    · exact hrefl
  | drive role level =>
    refine { hrefl with socket := ⟨_, _, rfl⟩, drive := fun other hother => ?_, level := ?_ }
    · have hne : other ≠ role := by
        rintro rfl
        rcases hother with rfl | rfl <;> cases hact
      simp only [lines, InputAct.onPort, InputLines.drive_driveTo, InputPins.get_set_ne _ _ hne]
    · exact fun other hother => InputLines.level_driveTo_ne _ role level hother

theorem requested_acts {acts : List InputAct} (hacts : ∀ act ∈ acts, act.ofWrite = true)
    (state : PortState) : Requested state (acts.foldl InputAct.onPort state) :=
  List.foldlRecOn acts InputAct.onPort (Requested.refl state) fun _ h act hmem =>
    h.trans (requested_onPort (hacts act hmem) _)

end PortState

/-! ## Port by port -/

namespace Controller

variable {α : Type}

/-- Nothing has changed but input ports, each by its acts, and something may have been reported. The
sessions of the link belong to ports too, but no request reaches them. -/
structure ActedOn (acts : Port → PortState → List InputAct) (before after : Controller α) : Prop where
  frame : ∃ watches sockets notices,
    after =
      { before with
        manager := { before.manager with inputs := watches }
        board := { before.board with inputs := sockets }
        journal := before.journal ++ notices }
  port : ∀ port,
    after.portState port =
      (acts port (before.portState port)).foldl InputAct.onPort (before.portState port)

/-- Acts on one port only. -/
def onlyAt (port : Port) (acts : PortState → List InputAct) (other : Port) (state : PortState) :
    List InputAct :=
  if other = port then acts state else []

theorem ActedOn.refl (c : Controller α) : ActedOn (fun _ _ => []) c c where
  frame := ⟨c.manager.inputs, c.board.inputs, #[], by rw [Array.append_empty]⟩
  port _ := rfl

/-- A report is no act on a port. -/
theorem ActedOn.note {acts : Port → PortState → List InputAct} {before after : Controller α}
    (h : ActedOn acts before after) (notice : Notice) : ActedOn acts before (after.note notice) where
  frame := by
    obtain ⟨watches, sockets, notices, heq⟩ := h.frame
    refine ⟨watches, sockets, notices.push notice, ?_⟩
    rw [heq, Array.append_push]
    rfl
  port := h.port

/-- Acts on one port, read off what happens to that port and to the others. -/
theorem ActedOn.of_port {port : Port} {acts : PortState → List InputAct} {before after : Controller α}
    (hframe : ∃ watches sockets notices,
      after =
        { before with
          manager := { before.manager with inputs := watches }
          board := { before.board with inputs := sockets }
          journal := before.journal ++ notices })
    (hport : after.portState port =
      (acts (before.portState port)).foldl InputAct.onPort (before.portState port))
    (hother : ∀ other, other ≠ port → after.portState other = before.portState other) :
    ActedOn (onlyAt port acts) before after where
  frame := hframe
  port other := by
    unfold onlyAt
    split
    · rename_i h
      subst h
      exact hport
    · rename_i h
      exact hother other h

theorem ActedOn.nothing (c : Controller α) (port : Port) : ActedOn (onlyAt port fun _ => []) c c :=
  .of_port (ActedOn.refl c).frame rfl fun _ _ => rfl

/-- Steps for each of several ports, each of which acts on its port, act on each of these ports by
itself. -/
theorem actedOn_foldl {step : Controller α → Port → UInt8 → Controller α}
    {acts : UInt8 → PortState → List InputAct}
    (hstep : ∀ c port byte, ActedOn (onlyAt port (acts byte)) c (step c port byte))
    (bytes : PerPort UInt8) (ports : List Port) (hports : ports.Nodup) (c : Controller α) :
    ActedOn (fun port state => if port ∈ ports then acts (bytes.get port) state else []) c
      (ports.foldl (fun c port => step c port (bytes.get port)) c) := by
  induction ports generalizing c with
  | nil => simpa using ActedOn.refl c
  | cons first rest ih =>
    obtain ⟨hfirst, hrest⟩ := List.nodup_cons.mp hports
    have hone := hstep c first (bytes.get first)
    have hlater := ih hrest (step c first (bytes.get first))
    rw [List.foldl_cons]
    refine ⟨?_, fun port => ?_⟩
    · obtain ⟨_, _, earlier, heq⟩ := hone.frame
      obtain ⟨watches, sockets, later, hafter⟩ := hlater.frame
      exact ⟨watches, sockets, earlier ++ later, by rw [hafter, heq, Array.append_assoc]⟩
    · rw [hlater.port port, hone.port port]
      by_cases h : port = first
      · -- the first port is not among the rest, and is acted on at once
        subst h
        simp [onlyAt, hfirst]
      · simp [onlyAt, h]

/-- Steps for each port in a row are acts on each port by itself. -/
theorem actedOn_eachPort {step : Controller α → Port → UInt8 → Controller α}
    {acts : UInt8 → PortState → List InputAct}
    (hstep : ∀ c port byte, ActedOn (onlyAt port (acts byte)) c (step c port byte))
    (bytes : PerPort UInt8) (c : Controller α) :
    ActedOn (fun port => acts (bytes.get port)) c (c.eachPort step bytes) := by
  have h := actedOn_foldl hstep bytes Port.all (by decide) c
  simp only [Port.mem_all, if_true] at h
  exact h

/-! ## What a byte does -/

theorem actedOn_applyEnable (c : Controller α) (port : Port) (byte : UInt8) :
    ActedOn (onlyAt port fun _ => enableActs byte) c (c.applyEnable port byte) := by
  have hswitch : ∀ on, ActedOn (onlyAt port fun _ => [.enable on]) c (c.setEnabled port on) :=
    fun on => .of_port ⟨_, _, #[], by rw [Array.append_empty]; rfl⟩ (portState_setEnabled_self c port on)
      fun _ hne => portState_setEnabled_ne c on hne
  unfold applyEnable enableActs
  split
  · exact hswitch false
  · split
    · exact hswitch true
    · exact .nothing c port

theorem actedOn_applyForce (c : Controller α) (port : Port) (code : UInt8) :
    ActedOn (onlyAt port fun _ => forceActs code) c (c.applyForce port code) := by
  unfold applyForce forceActs
  cases hcode : Classification.forced? code with
  | none => exact .nothing c port
  | some classification =>
    have hforce : ActedOn (onlyAt port fun _ => [.force classification]) c
        (c.force port classification).2 := by
      obtain ⟨sockets, hframe⟩ := force_frame c port classification
      refine .of_port ⟨_, sockets, #[], by rw [Array.append_empty]; exact hframe⟩ ?_ ?_
      · rw [portState_force_eq]
        simp only [true_and]
        rfl
      · intro other hne
        rw [portState_force_eq, if_neg fun h => hne h.1]
    dsimp only
    generalize c.force port classification = outcome at hforce ⊢
    rcases outcome with ⟨_ | _, after⟩
    · exact hforce
    · exact hforce.note _

theorem actedOn_applyPin (c : Controller α) (port : Port) (byte : UInt8) :
    ActedOn (onlyAt port (pinActs byte)) c (c.applyPin port byte) := by
  have hlines : ∀ (acts : List InputAct) (f : InputLines → InputLines),
      (∀ state : PortState, acts.foldl InputAct.onPort state =
        { state with socket := { state.socket with lines := f state.lines } }) →
      ActedOn (onlyAt port fun _ => acts) c (c.modifyInputLines port f) := by
    intro acts f hacts
    refine .of_port ⟨_, _, #[], by rw [Array.append_empty]; rfl⟩ ?_
      fun _ hne => portState_modifyInputLines_ne c f hne
    rw [portState_modifyInputLines_self, hacts]
  have hrequest : ActedOn (onlyAt port fun _ => [.request byte]) c
      (c.requestCommand port byte).2 := by
    obtain ⟨watches, hframe⟩ := requestCommand_frame c port byte
    refine .of_port ⟨watches, _, #[], by rw [Array.append_empty]; exact hframe⟩ ?_ ?_
    · rw [portState_requestCommand]
      simp only [true_and]
      rfl
    · intro other hne
      rw [portState_requestCommand, if_neg fun h => hne h.1]
  have hconnected : (c.portState port).watch.connected = (c.manager.inputs.get port).connected :=
    rfl
  have hlink : (c.portState port).session.isSome = c.link.isSome := Option.isSome_map
  -- the acts depend on the port only through what the step itself looks at
  suffices h : ActedOn (onlyAt port fun _ => pinActs byte (c.portState port)) c
      (c.applyPin port byte) from
    .of_port h.frame (by simpa [onlyAt] using h.port port)
      fun other hne => by simpa [onlyAt, hne] using h.port other
  unfold applyPin pinActs
  rw [hlink, hconnected]
  split
  · exact .nothing c port
  · split
    · exact hlines _ _ fun state => rfl
    · split
      · exact .nothing c port
      · split
        · exact hlines _ _ fun state => rfl
        · split
          · exact hrequest.note _
          · exact .nothing c port

theorem ofWrite_controlActs {command byte : UInt8} :
    ∀ act ∈ controlActs command byte, act.ofWrite = true := by
  intro act hact
  unfold controlActs enableActs forceActs at hact
  split at hact
  · split at hact
    · cases List.mem_singleton.mp hact
      rfl
    · split at hact
      · cases List.mem_singleton.mp hact
        rfl
      · cases hact
  · obtain ⟨classification, -, rfl⟩ := List.mem_map.mp hact
    rfl

theorem ofWrite_pinActs {byte : UInt8} {state : PortState} :
    ∀ act ∈ pinActs byte state, act.ofWrite = true := by
  intro act hact
  unfold pinActs at hact
  repeat' split at hact
  · cases hact
  · simp only [List.mem_cons, List.not_mem_nil, or_false] at hact
    rcases hact with rfl | rfl | rfl <;> rfl
  · cases hact
  · cases List.mem_singleton.mp hact
    rfl
  · cases List.mem_singleton.mp hact
    rfl
  · cases hact

/-! ## Whole or not at all -/

/-- How a write goes that is carried out whole or not at all: a fault comes with the controller as it
was. Without one all bytes are taken, and every input port is acted on by itself, within what a write
may change. -/
def WholeOrNothing (c : Controller α) (fault? : Option ControlError) (length : Nat)
    (acts : Port → PortState → List InputAct) (outcome : Except ControlError Nat × Controller α) :
    Prop :=
  match fault? with
  | some fault => outcome = (.error fault, c)
  | none => ∃ after, outcome = (.ok length, after) ∧ ActedOn acts c after ∧
      ∀ port, (c.portState port).Requested (after.portState port)

theorem wholeOrNothing_of_actedOn {c after : Controller α} {length : Nat}
    {acts : Port → PortState → List InputAct} (h : ActedOn acts c after)
    (hacts : ∀ port state, ∀ act ∈ acts port state, act.ofWrite = true) :
    c.WholeOrNothing none length acts (.ok length, after) := by
  refine ⟨after, rfl, h, fun port => ?_⟩
  rw [h.port port]
  exact PortState.requested_acts (hacts port _) _

theorem wholeOrNothing_writeControl (c : Controller α) (bytes : List UInt8) :
    c.WholeOrNothing (controlFault? bytes) bytes.length
      (fun port _ => controlActs (bytes.getD 0 0) (bytes.getD (port.index + 1) 0))
      ((InPlace.writeControl bytes).run c) := by
  rw [InPlace.run_writeControl]
  unfold writeControl controlFault?
  cases bytes with
  | nil => rfl
  | cons command rest =>
    dsimp only
    cases hports : portBytes? rest with
    | none =>
      rw [if_pos (portBytes?_eq_none_iff.mp hports)]
      rfl
    | some ports =>
      have hlong : ¬rest.length < 4 := by
        rw [← portBytes?_eq_none_iff, hports]
        exact Option.some_ne_none _
      have hbyte : ∀ port : Port, (command :: rest).getD (port.index + 1) 0 = ports.get port :=
        fun port => (get_of_portBytes? hports port).symm
      have hcommand : (command :: rest).getD 0 0 = command := rfl
      simp only [if_neg hlong, hbyte, hcommand]
      by_cases henable : command = byteOf 'e'
      · rw [if_pos (Or.inl henable), if_pos henable]
        refine wholeOrNothing_of_actedOn ?_ fun port state => ofWrite_controlActs
        simp only [controlActs, if_pos henable]
        exact actedOn_eachPort actedOn_applyEnable ports c
      · rw [if_neg henable]
        by_cases hforce : command = byteOf 't'
        · rw [if_pos (Or.inr hforce), if_pos hforce]
          refine wholeOrNothing_of_actedOn ?_ fun port state => ofWrite_controlActs
          simp only [controlActs, if_neg henable]
          exact actedOn_eachPort actedOn_applyForce ports c
        · rw [if_neg (not_or.mpr ⟨henable, hforce⟩), if_neg hforce]
          rfl

theorem wholeOrNothing_writePins (c : Controller α) (bytes : List UInt8) :
    c.WholeOrNothing (pinFault? bytes) bytes.length
      (fun port => pinActs (bytes.getD port.index 0)) ((InPlace.writePins bytes).run c) := by
  rw [InPlace.run_writePins]
  unfold writePins pinFault?
  cases hports : portBytes? bytes with
  | none =>
    rw [if_pos (portBytes?_eq_none_iff.mp hports)]
    rfl
  | some ports =>
    have hlong : ¬bytes.length < 4 := by
      rw [← portBytes?_eq_none_iff, hports]
      exact Option.some_ne_none _
    simp only [if_neg hlong, ← get_of_portBytes? hports]
    exact wholeOrNothing_of_actedOn (actedOn_eachPort actedOn_applyPin ports c)
      fun port state => ofWrite_pinActs

/-- Of control bytes nothing counts behind the fifth, but for the number that is answered. -/
theorem run_writeControl_take (c : Controller α) (bytes : List UInt8) :
    (InPlace.writeControl bytes).run c =
      Prod.map (Except.map fun _ => bytes.length) id
        ((InPlace.writeControl (bytes.take 5)).run c) := by
  simp only [InPlace.run_writeControl]
  unfold writeControl
  cases bytes with
  | nil => rfl
  | cons command rest =>
    simp only [List.take_succ_cons, portBytes?_take]
    cases hports : portBytes? rest with
    | none =>
      have hshort := portBytes?_eq_none_iff.mp hports
      rw [List.take_of_length_le (by omega)]
      rfl
    | some ports =>
      dsimp only
      by_cases henable : command = byteOf 'e'
      · simp only [if_pos henable]
        rfl
      · by_cases hforce : command = byteOf 't'
        · simp only [if_neg henable, if_pos hforce]
          rfl
        · simp only [if_neg henable, if_neg hforce]
          rfl

/-- Of raw-pin bytes nothing counts behind the fourth, but for the number that is answered. -/
theorem run_writePins_take (c : Controller α) (bytes : List UInt8) :
    (InPlace.writePins bytes).run c =
      Prod.map (Except.map fun _ => bytes.length) id
        ((InPlace.writePins (bytes.take 4)).run c) := by
  simp only [InPlace.run_writePins]
  unfold writePins
  rw [portBytes?_take]
  cases hports : portBytes? bytes with
  | none =>
    have hshort := portBytes?_eq_none_iff.mp hports
    rw [List.take_of_length_le (by omega)]
    rfl
  | some ports => rfl

/-- A test-pin request fails for its length or else for its port. -/
theorem wholeOrNothing_testPin (c : Controller α) (request : TestPinRequest) :
    match testPinFault? request with
    | some fault => (InPlace.testPin request).run c = (.error fault, c)
    | none => ∃ answer after, (InPlace.testPin request).run c = (.ok answer, after) := by
  rw [InPlace.run_testPin]
  cases request with
  | off => exact ⟨_, _, rfl⟩
  | on => exact ⟨_, _, rfl⟩
  | read raw length =>
    unfold testPinFault? testPin testPinLength
    dsimp only
    by_cases hlength : 16 < length
    · simp only [if_pos hlength]
      rfl
    · simp only [if_neg hlength]
      by_cases hraw : 7 < raw.toNat
      · rw [if_pos hraw, TestPort.ofRaw_of_le hraw]
        rfl
      · obtain ⟨port, hport, -⟩ := TestPort.exists_ofRaw (Nat.lt_succ_of_le (Nat.not_lt.mp hraw))
        rw [if_neg hraw, hport]
        exact ⟨_, _, rfl⟩
  | write raw data =>
    unfold testPinFault? testPin testPinLength
    dsimp only
    by_cases hlength : data.length = 0 ∨ 16 ≤ data.length
    · simp only [if_pos hlength]
      rfl
    · simp only [if_neg hlength]
      by_cases hraw : 7 < raw.toNat
      · rw [if_pos hraw, TestPort.ofRaw_of_le hraw]
        rfl
      · obtain ⟨port, hport, -⟩ := TestPort.exists_ofRaw (Nat.lt_succ_of_le (Nat.not_lt.mp hraw))
        rw [if_neg hraw, hport]
        cases port <;> exact ⟨_, _, rfl⟩

/-- **Requests are carried out whole or not at all, and port by port.** In any controller, a control
write, a raw-pin write or a test-pin request that is done in place, check by check and change by change,
comes to what the controller answers. It fails for the reasons listed and for no other, the first of
them that holds, and leaves the controller as it was, with all pins. A write that does not fail takes all
bytes, though only those of the ports count. The byte of a port reaches nothing but that port. -/
theorem requests_whole_or_nothing (c : Controller α) :
    (∀ bytes,
      (InPlace.writeControl bytes).run c = c.allOrNothing (c.writeControl bytes) ∧
        c.WholeOrNothing (controlFault? bytes) bytes.length
          (fun port _ => controlActs (bytes.getD 0 0) (bytes.getD (port.index + 1) 0))
          ((InPlace.writeControl bytes).run c) ∧
        (InPlace.writeControl bytes).run c =
          Prod.map (Except.map fun _ => bytes.length) id
            ((InPlace.writeControl (bytes.take 5)).run c)) ∧
    (∀ bytes,
      (InPlace.writePins bytes).run c = c.allOrNothing (c.writePins bytes) ∧
        c.WholeOrNothing (pinFault? bytes) bytes.length
          (fun port => pinActs (bytes.getD port.index 0)) ((InPlace.writePins bytes).run c) ∧
        (InPlace.writePins bytes).run c =
          Prod.map (Except.map fun _ => bytes.length) id
            ((InPlace.writePins (bytes.take 4)).run c)) ∧
    ∀ request,
      (InPlace.testPin request).run c = c.allOrNothing (c.testPin request) ∧
        match testPinFault? request with
        | some fault => (InPlace.testPin request).run c = (.error fault, c)
        | none => ∃ answer after, (InPlace.testPin request).run c = (.ok answer, after) := by
  refine ⟨fun bytes => ?_, fun bytes => ?_, fun request => ?_⟩
  · exact ⟨InPlace.run_writeControl c bytes, wholeOrNothing_writeControl c bytes,
      run_writeControl_take c bytes⟩
  · exact ⟨InPlace.run_writePins c bytes, wholeOrNothing_writePins c bytes,
      run_writePins_take c bytes⟩
  · exact ⟨InPlace.run_testPin c request, wholeOrNothing_testPin c request⟩

end Controller

end PlugWatch
