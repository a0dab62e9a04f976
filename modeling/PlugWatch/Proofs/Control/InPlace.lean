import PlugWatch.Proofs.Calls
/-!
# Requests in place

The requests of user space answer either an error or a new controller, so what they turn down cannot
leave a trace. The hardware is not replaced but changed: switch by switch and pin by pin, and a check
that comes too late would leave standing what was done before it. This file writes the requests as
sequences of checks and changes on one controller that stays in its place, and shows that they come to
the same.

## Main Definitions

* `InPlace` : what is done to a controller in its place, until a check fails.
* `InPlace.writeControl`, `InPlace.writePins`, `InPlace.testPin` : the requests, change by change.
* `Controller.allOrNothing` : an answer as it reads in place.

## Main Statements

* `InPlace.run_writeControl`, `InPlace.run_writePins`, `InPlace.run_testPin` : in place, every request
  is carried out whole or leaves the controller as it was.
-/

namespace PlugWatch

/-- What is done to a controller in its place. A check that fails ends it, and what was changed before
stays changed. -/
abbrev InPlace (α : Type) := ExceptT ControlError (StateM (Controller α))

namespace InPlace

variable {α β γ : Type}

/-! ## The requests, change by change -/

/-- Gives a value that is there, or fails. -/
def require (value? : Option β) (fault : ControlError) : InPlace α β :=
  match value? with
  | some value => pure value
  | none => throw fault

/-- The enable byte of a port. -/
def enable (port : Port) (byte : UInt8) : InPlace α Unit :=
  if byte = byteOf '0' then modify fun c => c.setEnabled port false
  else if byte = byteOf '1' then modify fun c => c.setEnabled port true
  else pure ()

/-- The connection code of a port. What is forced is reported afterwards. -/
def force (port : Port) (code : UInt8) : InPlace α Unit :=
  match Classification.forced? code with
  | none => pure ()
  | some classification => do
    let forced ← modifyGet fun c => c.force port classification
    if forced then modify fun c => c.note (.classificationForced port classification)

/-- The raw-pin byte of a port. -/
def pin (port : Port) (byte : UInt8) : InPlace α Unit := do
  let c ← get
  if byte = byteOf '-' then pure ()
  else if byte = byteOf 'f' then modify fun c => c.modifyInputLines port .release
  else if !(c.manager.inputs.get port).connected then pure ()
  else if byte &&& 0xF8 = byteOf '0' then
    modify fun c =>
      c.modifyInputLines port fun lines => lines.driveTo .pin5 (.ofLevel (byte &&& 2 ≠ 0))
  else if 0x0D ≤ byte ∧ byte ≤ 0x11 ∧ c.link.isSome then do
    let _ ← modifyGet fun c => c.requestCommand port byte
    modify fun c => c.note (.commandQueued port byte)
  else pure ()

/-- A change for each port in port order, each with its byte. -/
def forEachPort (change : Port → UInt8 → InPlace α Unit) (bytes : PerPort UInt8) :
    InPlace α Unit :=
  forM Port.all fun port => change port (bytes.get port)

/-- A control write. -/
def writeControl (bytes : List UInt8) : InPlace α Nat := do
  let command ← require bytes.head? .empty
  let ports ← require (portBytes? bytes.tail) (.tooShort 5 bytes.length)
  if command = byteOf 'e' then forEachPort enable ports
  else if command = byteOf 't' then forEachPort force ports
  else throw (.unknownCommand command)
  return bytes.length

/-- A raw-pin write. -/
def writePins (bytes : List UInt8) : InPlace α Nat := do
  let ports ← require (portBytes? bytes) (.tooShort 4 bytes.length)
  forEachPort pin ports
  return bytes.length

/-- The port with a number, or a fault. -/
def testPort (raw : UInt8) : InPlace α TestPort :=
  match TestPort.ofRaw raw with
  | .ok port => pure port
  | .error fault => throw fault

/-- Drives pins one by one, each as its byte says. The lines of the port are changed by `change`. -/
def drivePins {κ ι : Type} (change : (κ → κ) → Controller α → Controller α)
    (driveTo : κ → ι → Drive → κ) (pins : List (ι × UInt8)) : InPlace α Unit :=
  forM pins fun (role, byte) =>
    match driveOfByte? byte with
    | some drive => modify (change fun lines => driveTo lines role drive)
    | none => pure ()

/-- A test-pin request. -/
def testPin : TestPinRequest → InPlace α (Option (List UInt8))
  | .off => do
    modify fun c => c.setTestMode false
    return none
  | .on => do
    modify fun c => c.setTestMode true
    return none
  | .read raw length => do
    if testPinLength < length then throw (.invalidLength length)
    let port ← testPort raw
    let c ← get
    return some (Controller.terminated length (c.levelText port))
  | .write raw data => do
    if data.length = 0 ∨ testPinLength ≤ data.length then throw (.invalidLength data.length)
    match ← testPort raw with
    | .input port =>
      drivePins (fun f c => c.modifyInputLines port f) InputLines.driveTo (InputRole.all.zip data)
    | .output port =>
      drivePins (fun f c => c.modifyOutputLines port f) OutputLines.driveTo (OutputRole.all.zip data)
    return none

/-! ## Changes that nothing stops -/

theorem run_bind (action : InPlace α β) (next : β → InPlace α γ) (c : Controller α) :
    (action >>= next).run c =
      match action.run c with
      | (.ok b, after) => (next b).run after
      | (.error fault, after) => (.error fault, after) := by
  unfold ExceptT.run
  simp only [bind, ExceptT.bind, ExceptT.mk, StateT.bind, ExceptT.bindCont]
  rcases action c with ⟨_ | _, after⟩ <;> rfl

/-- No check of the action fails, and it does to a controller what a function does. -/
def Does (action : InPlace α Unit) (change : Controller α → Controller α) : Prop :=
  ∀ c, action.run c = (.ok (), change c)

theorem does_pure : Does (pure () : InPlace α Unit) id := fun _ => rfl

theorem does_modify (change : Controller α → Controller α) :
    Does (modify change : InPlace α Unit) change := fun _ => rfl

theorem Does.run_bind {action : InPlace α Unit} {change : Controller α → Controller α}
    (h : action.Does change) (next : InPlace α β) (c : Controller α) :
    (action >>= fun _ => next).run c = next.run (change c) := by
  rw [InPlace.run_bind, h c]

/-- Changes in a row, one for each item of a list. -/
theorem Does.forM {action : γ → InPlace α Unit} {change : γ → Controller α → Controller α}
    (h : ∀ item, (action item).Does (change item)) (items : List γ) :
    Does (forM items action) fun c => items.foldl (fun c item => change item c) c := by
  induction items with
  | nil => exact does_pure
  | cons item rest ih =>
    intro c
    rw [List.forM_cons, (h item).run_bind, ih]
    rfl

theorem does_enable (port : Port) (byte : UInt8) :
    Does (enable port byte) fun c : Controller α => c.applyEnable port byte := by
  intro c
  unfold enable Controller.applyEnable
  split
  · rfl
  · split <;> rfl

theorem does_force (port : Port) (code : UInt8) :
    Does (force port code) fun c : Controller α => c.applyForce port code := by
  intro c
  unfold force Controller.applyForce
  cases Classification.forced? code with
  | none => rfl
  | some classification =>
    have hget : (modifyGet fun c => c.force port classification : InPlace α Bool).run c =
        (.ok (c.force port classification).1, (c.force port classification).2) := rfl
    dsimp only
    rw [run_bind, hget]
    rcases c.force port classification with ⟨_ | _, after⟩ <;> rfl

theorem does_pin (port : Port) (byte : UInt8) :
    Does (pin port byte) fun c : Controller α => c.applyPin port byte := by
  intro c
  have hget : (get : InPlace α (Controller α)).run c = (.ok c, c) := rfl
  unfold pin Controller.applyPin
  rw [run_bind, hget]
  dsimp only
  repeat' split
  all_goals rfl

/-- Driving pins one by one is one change of the lines they belong to. -/
theorem does_drivePins {κ ι : Type} {change : (κ → κ) → Controller α → Controller α}
    (hid : ∀ c, change (fun lines => lines) c = c)
    (hcomp : ∀ (f g : κ → κ) (c), change (fun lines => g (f lines)) c = change g (change f c))
    (driveTo : κ → ι → Drive → κ) (pins : List (ι × UInt8)) :
    Does (drivePins change driveTo pins) (change fun lines =>
      pins.foldl (fun lines (role, byte) =>
        match driveOfByte? byte with
        | some drive => driveTo lines role drive
        | none => lines) lines) := by
  unfold drivePins
  induction pins with
  | nil => exact fun c => congrArg (Except.ok (), ·) (hid c).symm
  | cons pin rest ih =>
    obtain ⟨role, byte⟩ := pin
    intro c
    rw [List.forM_cons]
    simp only [List.foldl_cons]
    cases driveOfByte? byte with
    | none => exact ih c
    | some drive =>
      refine ((does_modify _).run_bind _ c).trans ((ih _).trans ?_)
      exact congrArg (Except.ok (), ·) (hcomp (fun lines => driveTo lines role drive) _ c).symm

theorem does_forEachPort {action : Port → UInt8 → InPlace α Unit}
    {change : Controller α → Port → UInt8 → Controller α}
    (h : ∀ port byte, (action port byte).Does fun c => change c port byte)
    (bytes : PerPort UInt8) : (forEachPort action bytes).Does (Controller.eachPort change bytes) :=
  Does.forM (fun port => h port (bytes.get port)) Port.all

end InPlace

/-! ## Whole or not at all -/

namespace Controller

variable {α β : Type}

/-- An answer as it reads in place: an error comes with the controller as it was. -/
def allOrNothing (c : Controller α) :
    Except ControlError (β × Controller α) → Except ControlError β × Controller α
  | .ok (answer, after) => (.ok answer, after)
  | .error fault => (.error fault, c)

end Controller

namespace InPlace

variable {α β : Type}

/-- In place, a control write is carried out whole or not at all. -/
theorem run_writeControl (c : Controller α) (bytes : List UInt8) :
    (writeControl bytes).run c = c.allOrNothing (c.writeControl bytes) := by
  unfold writeControl Controller.writeControl
  cases bytes with
  | nil => rfl
  | cons command rest =>
    dsimp only [List.head?_cons, List.tail_cons, require]
    cases portBytes? rest with
    | none => rfl
    | some ports =>
      rw [pure_bind, pure_bind]
      dsimp only
      by_cases henable : command = byteOf 'e'
      · simp only [if_pos henable]
        exact (does_forEachPort does_enable ports).run_bind _ c
      · by_cases hforce : command = byteOf 't'
        · simp only [if_neg henable, if_pos hforce]
          exact (does_forEachPort does_force ports).run_bind _ c
        · simp only [if_neg henable, if_neg hforce]
          rfl

/-- In place, a raw-pin write is carried out whole or not at all. -/
theorem run_writePins (c : Controller α) (bytes : List UInt8) :
    (writePins bytes).run c = c.allOrNothing (c.writePins bytes) := by
  unfold writePins Controller.writePins require
  cases portBytes? bytes with
  | none => rfl
  | some ports =>
    rw [pure_bind]
    exact (does_forEachPort does_pin ports).run_bind _ c

theorem run_testPort (raw : UInt8) (c : Controller α) :
    (testPort raw).run c = (TestPort.ofRaw raw, c) := by
  unfold testPort
  cases TestPort.ofRaw raw <;> rfl

/-- In place, a test-pin request is carried out whole or not at all. -/
theorem run_testPin (c : Controller α) (request : TestPinRequest) :
    (testPin request).run c = c.allOrNothing (c.testPin request) := by
  cases request with
  | off => rfl
  | on => rfl
  | read raw length =>
    unfold testPin Controller.testPin
    by_cases hlength : testPinLength < length
    · simp only [if_pos hlength]
      rfl
    · simp only [if_neg hlength]
      rw [run_bind, run_testPort]
      cases TestPort.ofRaw raw <;> rfl
  | write raw data =>
    unfold testPin Controller.testPin
    by_cases hlength : data.length = 0 ∨ testPinLength ≤ data.length
    · simp only [if_pos hlength]
      rfl
    · simp only [if_neg hlength]
      rw [run_bind, run_testPort]
      cases TestPort.ofRaw raw with
      | error fault => rfl
      | ok port =>
        cases port with
        | input port =>
          exact (does_drivePins (fun c => Controller.modifyInputLines_id c port)
            (fun f g c => Controller.modifyInputLines_comp c port f g) InputLines.driveTo
            (InputRole.all.zip data)).run_bind (pure none) c
        | output port =>
          exact (does_drivePins (fun c => Controller.modifyOutputLines_id c port)
            (fun f g c => Controller.modifyOutputLines_comp c port f g) OutputLines.driveTo
            (OutputRole.all.zip data)).run_bind (pure none) c

end InPlace

end PlugWatch
