import PlugWatch.Control.Write
import PlugWatch.Proofs.Run
/-!
# Calls from outside

User space and the surroundings of a controller act on it through calls: a run of all jobs up to an
instant, one job, a single step, or one of the byte-level requests, which is turned down or carried out
port by port. Every call is a sequence of steps, and its bytes say which steps these can be.

## Main Definitions

* `Call` : the calls; `Controller.call`, `Controller.calls` carry them out.
* `Call.Includes` : the steps that a call may consist of.
* `Controller.LeadsTo` : steps of a kind lead from one controller to another.

## Main Statements

* `Controller.leadsTo_call` : a call is a sequence of the steps it includes.
* `Controller.calls_preserves` : what each call keeps, a sequence of calls keeps.
* `Controller.Reachable.calls` : no call leads out of the reachable controllers.
-/

namespace PlugWatch

/-- One call from outside. -/
inductive Call (α : Type) where
  /-- A single step. The deadlines are not for anyone to set. -/
  | act (step : Step α) (htime : ∀ clock, step ≠ .time clock)
  /-- One job at an instant. -/
  | runJob (instant : UInt64) (job : Job)
  /-- Every job that is due up to an instant. -/
  | runUntil (target : UInt64)
  | writeControl (bytes : List UInt8)
  | writePins (bytes : List UInt8)
  | testPin (request : TestPinRequest)

/-- The byte that a control write with a command has for a port. -/
def controlByte? (command : Char) (port : Port) : List UInt8 → Option UInt8
  | [] => none
  | first :: rest =>
    if first = byteOf command then (portBytes? rest).map fun bytes => bytes.get port else none

namespace Call

variable {α : Type}

/-- A tick of the manager by itself. -/
def manage : Call α := .act .manage (by rintro clock ⟨⟩)

/-- A colour command that is asked for. -/
def request (port : Port) (command : UInt8) : Call α :=
  .act (.request port command) (by rintro clock ⟨⟩)

/-- The steps that a call may consist of. -/
inductive Includes : Call α → Step α → Prop where
  | act {step : Step α} {htime : ∀ clock, step ≠ .time clock} : Includes (.act step htime) step
  | runJob {instant : UInt64} {job : Job} {step : Step α} (h : step.isJob = true) :
      Includes (.runJob instant job) step
  | runUntil {target : UInt64} {step : Step α} (h : step.isJob = true) :
      Includes (.runUntil target) step
  | disable {bytes : List UInt8} {port : Port}
      (h : controlByte? 'e' port bytes = some (byteOf '0')) :
      Includes (.writeControl bytes) (.enable port false)
  | enable {bytes : List UInt8} {port : Port}
      (h : controlByte? 'e' port bytes = some (byteOf '1')) :
      Includes (.writeControl bytes) (.enable port true)
  | force {bytes : List UInt8} {port : Port} {byte : UInt8} {classification : Classification}
      (h : controlByte? 't' port bytes = some byte)
      (hforced : Classification.forced? byte = some classification) :
      Includes (.writeControl bytes) (.force port classification)
  | forced {bytes : List UInt8} {port : Port} {byte : UInt8} {classification : Classification}
      (h : controlByte? 't' port bytes = some byte)
      (hforced : Classification.forced? byte = some classification) :
      Includes (.writeControl bytes) (.note (.classificationForced port classification))
  | release {bytes : List UInt8} {port : Port} : Includes (.writePins bytes) (.release port)
  | pin5 {bytes : List UInt8} {port : Port} {drive : Drive} :
      Includes (.writePins bytes) (.drive port .pin5 drive)
  | command {bytes : List UInt8} {port : Port} {command : UInt8} :
      Includes (.writePins bytes) (.request port command)
  | queued {bytes : List UInt8} {port : Port} {command : UInt8} :
      Includes (.writePins bytes) (.note (.commandQueued port command))
  | leaveTestMode : Includes (.testPin .off) (.testMode false)
  | enterTestMode : Includes (.testPin .on) (.testMode true)
  | drive {raw : UInt8} {data : List UInt8} {port : Port} {role : InputRole} {drive : Drive} :
      Includes (.testPin (.write raw data)) (.drive port role drive)
  | driveOutput {raw : UInt8} {data : List UInt8} {port : Port} {role : OutputRole}
      {drive : Drive} : Includes (.testPin (.write raw data)) (.driveOutput port role drive)

end Call

namespace Controller

variable {α ε : Type} [Converter α ε]

/-- Carries out a call. A request that is turned down leaves no trace. -/
def call (c : Controller α) : Call α → Controller α
  | .act step _ => c.step step
  | .runJob instant job => (c.runJob instant job).2
  | .runUntil target => (c.runUntil target).2
  | .writeControl bytes =>
    match c.writeControl bytes with
    | .ok (_, after) => after
    | .error _ => c
  | .writePins bytes =>
    match c.writePins bytes with
    | .ok (_, after) => after
    | .error _ => c
  | .testPin request =>
    match c.testPin request with
    | .ok (_, after) => after
    | .error _ => c

/-- Carries out calls, one after the other. -/
def calls (c : Controller α) (calls : List (Call α)) : Controller α := calls.foldl call c

@[simp] theorem calls_nil (c : Controller α) : c.calls [] = c := rfl

@[simp] theorem calls_cons (c : Controller α) (first : Call α) (rest : List (Call α)) :
    c.calls (first :: rest) = (c.call first).calls rest := rfl

theorem calls_append (c : Controller α) (before after : List (Call α)) :
    c.calls (before ++ after) = (c.calls before).calls after :=
  List.foldl_append

/-- What each call of a sequence keeps, the sequence keeps. -/
theorem calls_preserves {P : Controller α → Prop} (calls : List (Call α))
    (hcall : ∀ {c : Controller α}, P c → ∀ call ∈ calls, P (c.call call))
    {c : Controller α} (h : P c) : P (c.calls calls) :=
  List.foldlRecOn calls call h fun _ h call hmem => hcall h call hmem

/-! ## Steps of a kind -/

/-- Steps of a kind lead from one controller to another. -/
def LeadsTo (kind : Step α → Prop) (c after : Controller α) : Prop :=
  ∃ run : List (Step α), (∀ step ∈ run, kind step) ∧ after = c.steps run

section LeadsTo

variable {kind kind' : Step α → Prop} {c middle after : Controller α}

theorem LeadsTo.refl (c : Controller α) : LeadsTo kind c c := ⟨[], by simp, rfl⟩

theorem LeadsTo.step (step : Step α) (h : kind step) : LeadsTo kind c (c.step step) :=
  ⟨[step], by simpa using h, rfl⟩

theorem LeadsTo.trans (h : LeadsTo kind c middle) (h' : LeadsTo kind middle after) :
    LeadsTo kind c after := by
  obtain ⟨run, hrun, rfl⟩ := h
  obtain ⟨run', hrun', rfl⟩ := h'
  refine ⟨run ++ run', fun step hmem => ?_, (steps_append c run run').symm⟩
  rcases List.mem_append.mp hmem with hmem | hmem
  · exact hrun step hmem
  · exact hrun' step hmem

theorem LeadsTo.mono (h : LeadsTo kind c after) (hkind : ∀ step, kind step → kind' step) :
    LeadsTo kind' c after := by
  obtain ⟨run, hrun, hafter⟩ := h
  exact ⟨run, fun step hmem => hkind step (hrun step hmem), hafter⟩

/-- What every step of the kind keeps, such steps keep. -/
theorem LeadsTo.preserves {P : Controller α → Prop} (h : LeadsTo kind c after)
    (hstep : ∀ {c : Controller α}, P c → ∀ step, kind step → P (c.step step)) (hP : P c) :
    P after := by
  obtain ⟨run, hrun, rfl⟩ := h
  exact steps_preserves (P := P) run (fun h step hmem => hstep h step (hrun step hmem)) hP

end LeadsTo

variable {c : Controller α}

theorem leadsTo_runJob (c : Controller α) (instant : UInt64) (job : Job) :
    LeadsTo (fun step => step.isJob = true) c (c.runJob instant job).2 :=
  runJob_eq_steps c instant job

theorem leadsTo_runUntil (c : Controller α) (target : UInt64) :
    LeadsTo (fun step => step.isJob = true) c (c.runUntil target).2 :=
  runUntil_eq_steps c target

/-! ## Byte-level requests -/

/-- A round of all ports is the steps of the ports with their bytes. -/
theorem leadsTo_eachPort {kind : Step α → Prop} {bytes : PerPort UInt8}
    {f : Controller α → Port → UInt8 → Controller α}
    (hf : ∀ (c : Controller α) port, LeadsTo kind c (f c port (bytes.get port)))
    (c : Controller α) : LeadsTo kind c (c.eachPort f bytes) := by
  unfold Controller.eachPort
  induction Port.all generalizing c with
  | nil => exact .refl c
  | cons port rest ih => exact (hf c port).trans (ih _)

theorem leadsTo_applyEnable {kind : Step α → Prop} {port : Port} {byte : UInt8}
    (hoff : byte = byteOf '0' → kind (.enable port false))
    (hon : byte = byteOf '1' → kind (.enable port true)) (c : Controller α) :
    LeadsTo kind c (c.applyEnable port byte) := by
  unfold Controller.applyEnable
  split
  · rename_i hbyte
    exact .step (.enable port false) (hoff hbyte)
  · split
    · rename_i hbyte
      exact .step (.enable port true) (hon hbyte)
    · exact .refl c

theorem leadsTo_applyForce {kind : Step α → Prop} {port : Port} {byte : UInt8}
    (hforce : ∀ classification, Classification.forced? byte = some classification →
      kind (.force port classification) ∧ kind (.note (.classificationForced port classification)))
    (c : Controller α) : LeadsTo kind c (c.applyForce port byte) := by
  unfold Controller.applyForce
  split
  · exact .refl c
  · rename_i classification hbyte
    obtain ⟨hkind, hnote⟩ := hforce classification hbyte
    have hstep : LeadsTo kind c (c.force port classification).2 :=
      .step (.force port classification) hkind
    split
    · rename_i after heq
      rw [heq] at hstep
      exact hstep.trans (.step (.note _) hnote)
    · rename_i after heq
      rw [heq] at hstep
      exact hstep

theorem leadsTo_applyPin {bytes : List UInt8} (c : Controller α) (port : Port) (byte : UInt8) :
    LeadsTo (Call.writePins bytes).Includes c (c.applyPin port byte) := by
  unfold Controller.applyPin
  split
  · exact .refl c
  · split
    · exact .step (.release port) .release
    · split
      · exact .refl c
      · split
        · exact .step (.drive port .pin5 _) .pin5
        · split
          · exact (LeadsTo.step (.request port byte) .command).trans
              (.step (.note _) .queued)
          · exact .refl c

theorem controlByte?_of_command {command : UInt8} {rest : List UInt8} {bytes : PerPort UInt8}
    (hbytes : portBytes? rest = some bytes) {char : Char} (hchar : command = byteOf char)
    (port : Port) : controlByte? char port (command :: rest) = some (bytes.get port) := by
  rw [controlByte?, if_pos hchar, hbytes]
  rfl

/-- A control write switches detection, or forces classifications, as the bytes of the ports say. -/
theorem leadsTo_writeControl {after : Controller α} {bytes : List UInt8} {n : Nat}
    (h : c.writeControl bytes = .ok (n, after)) :
    LeadsTo (Call.writeControl bytes).Includes c after := by
  unfold Controller.writeControl at h
  split at h
  · cases h
  · split at h
    · cases h
    · rename_i command rest _ ports hports
      have hbyte : ∀ char, command = byteOf char → ∀ port,
          controlByte? char port (command :: rest) = some (ports.get port) :=
        fun char hchar port => controlByte?_of_command hports hchar port
      split at h
      · rename_i hcommand
        cases h
        refine leadsTo_eachPort (fun c port => ?_) c
        refine leadsTo_applyEnable (fun hoff => .disable ?_) (fun hon => .enable ?_) c
        · rw [hbyte 'e' hcommand port, hoff]
        · rw [hbyte 'e' hcommand port, hon]
      · split at h
        · rename_i hcommand
          cases h
          refine leadsTo_eachPort (fun c port => ?_) c
          exact leadsTo_applyForce (fun classification hforced =>
            ⟨.force (hbyte 't' hcommand port) hforced,
              .forced (hbyte 't' hcommand port) hforced⟩) c
        · cases h

theorem leadsTo_writePins {after : Controller α} {bytes : List UInt8} {n : Nat}
    (h : c.writePins bytes = .ok (n, after)) :
    LeadsTo (Call.writePins bytes).Includes c after := by
  unfold Controller.writePins at h
  split at h
  · cases h
  · cases h
    exact leadsTo_eachPort (fun c port => leadsTo_applyPin c port _) c

omit [Converter α ε] in
theorem modifyInputLines_id (c : Controller α) (port : Port) :
    c.modifyInputLines port (fun lines => lines) = c := by
  obtain ⟨adc, ⟨inputs, outputs, samples, cycles⟩, sampler, manager, link, config, clock,
    journal⟩ := c
  cases port <;> rfl

omit [Converter α ε] in
theorem modifyOutputLines_id (c : Controller α) (port : Port) :
    c.modifyOutputLines port (fun lines => lines) = c := by
  obtain ⟨adc, ⟨inputs, outputs, samples, cycles⟩, sampler, manager, link, config, clock,
    journal⟩ := c
  cases port <;> rfl

omit [Converter α ε] in
theorem modifyInputLines_comp (c : Controller α) (port : Port) (f g : InputLines → InputLines) :
    c.modifyInputLines port (fun lines => g (f lines))
      = (c.modifyInputLines port f).modifyInputLines port g := by
  cases port <;> rfl

omit [Converter α ε] in
theorem modifyOutputLines_comp (c : Controller α) (port : Port)
    (f g : OutputLines → OutputLines) :
    c.modifyOutputLines port (fun lines => g (f lines))
      = (c.modifyOutputLines port f).modifyOutputLines port g := by
  cases port <;> rfl

/-- What is done to the lines of an input port item by item is done in a row. -/
theorem leadsTo_modifyInputs {β : Type} {kind : Step α → Prop} {port : Port}
    {f : InputLines → β → InputLines}
    (hf : ∀ (c : Controller α) item,
      LeadsTo kind c (c.modifyInputLines port fun lines => f lines item)) (items : List β)
    (c : Controller α) :
    LeadsTo kind c (c.modifyInputLines port fun lines => items.foldl f lines) := by
  induction items generalizing c with
  | nil =>
    simp only [List.foldl_nil]
    rw [modifyInputLines_id]
    exact .refl c
  | cons item rest ih =>
    simp only [List.foldl_cons]
    rw [modifyInputLines_comp c port (fun lines => f lines item) fun lines => rest.foldl f lines]
    exact (hf c item).trans (ih _)

theorem leadsTo_modifyOutputs {β : Type} {kind : Step α → Prop} {port : Port}
    {f : OutputLines → β → OutputLines}
    (hf : ∀ (c : Controller α) item,
      LeadsTo kind c (c.modifyOutputLines port fun lines => f lines item)) (items : List β)
    (c : Controller α) :
    LeadsTo kind c (c.modifyOutputLines port fun lines => items.foldl f lines) := by
  induction items generalizing c with
  | nil =>
    simp only [List.foldl_nil]
    rw [modifyOutputLines_id]
    exact .refl c
  | cons item rest ih =>
    simp only [List.foldl_cons]
    rw [modifyOutputLines_comp c port (fun lines => f lines item) fun lines =>
      rest.foldl f lines]
    exact (hf c item).trans (ih _)

/-- Driving the pins of an input port by characters is driving one after the other. -/
theorem leadsTo_driveAll {kind : Step α → Prop} {port : Port}
    (hdrive : ∀ role drive, kind (.drive port role drive)) (data : List UInt8)
    (c : Controller α) :
    LeadsTo kind c (c.modifyInputLines port fun lines => lines.driveAll data) := by
  refine leadsTo_modifyInputs (fun c pair => ?_) _ c
  obtain ⟨role, byte⟩ := pair
  dsimp only
  cases driveOfByte? byte with
  | none =>
    rw [modifyInputLines_id]
    exact .refl c
  | some drive => exact .step (.drive port role drive) (hdrive role drive)

theorem leadsTo_driveAllOutput {kind : Step α → Prop} {port : Port}
    (hdrive : ∀ role drive, kind (.driveOutput port role drive)) (data : List UInt8)
    (c : Controller α) :
    LeadsTo kind c (c.modifyOutputLines port fun lines => lines.driveAll data) := by
  refine leadsTo_modifyOutputs (fun c pair => ?_) _ c
  obtain ⟨role, byte⟩ := pair
  dsimp only
  cases driveOfByte? byte with
  | none =>
    rw [modifyOutputLines_id]
    exact .refl c
  | some drive => exact .step (.driveOutput port role drive) (hdrive role drive)

/-- A test-pin request switches test mode, drives pins, or only looks. -/
theorem leadsTo_testPin {after : Controller α} {request : TestPinRequest}
    {text : Option (List UInt8)} (h : c.testPin request = .ok (text, after)) :
    LeadsTo (Call.testPin request).Includes c after := by
  unfold Controller.testPin at h
  split at h
  · cases h
    exact .step (.testMode false) .leaveTestMode
  · cases h
    exact .step (.testMode true) .enterTestMode
  · split at h
    · cases h
    · split at h
      · cases h
      · cases h
        exact .refl c
  · split at h
    · cases h
    · split at h
      · cases h
      · cases h
        exact leadsTo_driveAll (fun _ _ => .drive) _ c
      · cases h
        exact leadsTo_driveAllOutput (fun _ _ => .driveOutput) _ c

/-! ## Every call -/

/-- **A call is a sequence of the steps it includes.** -/
theorem leadsTo_call (c : Controller α) (call : Call α) :
    LeadsTo call.Includes c (c.call call) := by
  cases call with
  | act step htime => exact .step step .act
  | runJob instant job => exact (leadsTo_runJob c instant job).mono fun _ => .runJob
  | runUntil target => exact (leadsTo_runUntil c target).mono fun _ => .runUntil
  | writeControl bytes =>
    unfold Controller.call
    dsimp only
    split
    · rename_i hwrite
      exact leadsTo_writeControl hwrite
    · exact .refl c
  | writePins bytes =>
    unfold Controller.call
    dsimp only
    split
    · rename_i hwrite
      exact leadsTo_writePins hwrite
    · exact .refl c
  | testPin request =>
    unfold Controller.call
    dsimp only
    split
    · rename_i htest
      exact leadsTo_testPin htest
    · exact .refl c

/-- What every step keeps, every sequence of calls keeps. -/
theorem calls_preserves_of_step {P : Controller α → Prop}
    (hstep : ∀ {c : Controller α} (step : Step α), P c → P (c.step step)) (calls : List (Call α))
    (h : P c) : P (c.calls calls) :=
  calls_preserves calls
    (fun h call _ => (leadsTo_call _ call).preserves (fun h step _ => hstep step h) h) h

theorem Reachable.calls (h : c.Reachable) (calls : List (Call α)) : (c.calls calls).Reachable :=
  calls_preserves_of_step (fun step h => h.step step) calls h

end Controller

end PlugWatch
