import PlugWatch.Bench.Plug
import PlugWatch.Proofs.Detection.LeftAlone
import PlugWatch.Proofs.Threshold
/-!
# Recognising plugged devices

A fresh brick with simulated devices on its ports is a brick that is left alone, as long as nothing but
time goes by. So every device comes to its verdict, which a table gives by the count that its voltage
converts to.

## Main Definitions

* `plugCounts` : the count that a voltage converts to on a simulated converter.
* `InputDevice.verdict`, `OutputDevice.load` : the verdict on each device.
* `Devices` : a simulated device on every port.
* `Controller.Fresh` : a controller that has done nothing yet.

## Main Statements

* `Controller.Fresh.leftAlone_plugAll` : with devices on its ports it is left alone.
* `Controller.plugged_devices_recognised` : half a second behind the hold-off every port publishes the
  verdict on its device, and goes on to do so.
-/

namespace PlugWatch

/-! ## The verdict on each device -/

/-- The count that a voltage converts to on a simulated converter: rounded down, and at most full
scale. -/
def plugCounts (mv : UInt16) : UInt16 := UInt16.ofNat (min 4095 (mv.toNat * 4095 / 5000))

/-- The verdict on a device that does nothing but load pin 1. -/
def pin1Verdict (counts : UInt16) : Classification :=
  if countsOfMillivolts 4800 ≤ counts then .none
  else if countsOfMillivolts 3100 < counts then .error
  else if counts < countsOfMillivolts 100 then ⟨.unknown, .inputUart⟩
  else ⟨.unknown, .inputDumb⟩

/-- The verdict on an input device. -/
def InputDevice.verdict : InputDevice → Classification
  | .empty => .none
  | .uart => pin1Verdict (plugCounts 0)
  | .analog mv => pin1Verdict (plugCounts mv)
  | .iic => ⟨.nxtIic, .nxtIic⟩
  | .shortedPin5 => .error

/-- What is published about an output device: nothing in the balance band, and elsewhere what the rules
decide on the level that all measurements show. -/
def OutputDevice.load (device : OutputDevice) : Load :=
  let counts := plugCounts device.pin5Mv
  let mv := millivoltsOfCounts counts
  if countsOfMillivolts 2400 ≤ counts ∧ counts ≤ countsOfMillivolts 2600 then { verdict := .none }
  else
    match firstMatch outputRules ⟨mv, mv, false⟩ with
    | some rule => rule.verdict.settle mv
    | none => { verdict := .none }

/-- The far side of an input port with a device. -/
def InputDevice.level : InputDevice → InputPins Bool
  | .iic => InputLines.emptyLevel.set .pin6 true
  | .shortedPin5 => InputLines.emptyLevel.set .pin5 false
  | .empty | .uart | .analog _ => InputLines.emptyLevel

/-- The verdict on a device is the one on its count and its levels. -/
theorem InputDevice.steadyVerdict_eq (resetMs : UInt16) (device : InputDevice) :
    steadyVerdict { resetMs := resetMs } (plugCounts device.pin1Mv) device.level = device.verdict := by
  have hloads : ∀ counts : UInt16,
      steadyVerdict { resetMs := resetMs } counts InputLines.emptyLevel = pin1Verdict counts := by
    intro counts
    unfold steadyVerdict pin1Verdict
    rw [if_neg (show ¬pin2Pulled { resetMs := resetMs } InputLines.emptyLevel = true from
      Bool.false_ne_true)]
    by_cases hloaded : counts < countsOfMillivolts 4800
    · rw [if_pos hloaded, if_neg (UInt16.not_le.mpr hloaded)]
    · rw [if_neg hloaded, if_pos (UInt16.not_lt.mp hloaded)]
      rfl
  cases device with
  | empty => exact hloads _
  | uart => exact hloads _
  | analog mv => exact hloads _
  | iic => rfl
  | shortedPin5 => rfl

/-- What is published about a device is the verdict on the load that it is. -/
theorem OutputDevice.loadVerdict_eq (device : OutputDevice) :
    loadVerdict (plugCounts device.pin5Mv) true = device.load := by
  unfold loadVerdict load
  dsimp only
  generalize plugCounts device.pin5Mv = counts
  by_cases hbalance : countsOfMillivolts 2400 ≤ counts ∧ counts ≤ countsOfMillivolts 2600
  · rw [if_pos hbalance, OutputScene.unbalanced_eq, decide_eq_true hbalance]
    rfl
  · rw [if_neg hbalance, OutputScene.unbalanced_eq, decide_eq_false hbalance, Bool.not_false,
      Bool.true_or, if_pos rfl, loadDecision, Bool.not_true]
    cases firstMatch outputRules ⟨millivoltsOfCounts counts, millivoltsOfCounts counts, false⟩ <;> rfl

/-- Plugging a device changes the far side of the lines only. -/
theorem InputDevice.plugLines_empty (device : InputDevice) :
    (device.plugLines .empty).level = device.level ∧
      (device.plugLines .empty).drive = .const .float := by
  cases device <;> exact ⟨rfl, rfl⟩

/-! ## Devices on every port -/

/-- A simulated device on every port. -/
structure Devices where
  inputs : PerPort InputDevice
  outputs : PerPort OutputDevice

/-- The devices as plugs. -/
def Devices.plugs (devices : Devices) : List Plug :=
  Port.all.map (fun port => .input port (devices.inputs.get port)) ++
    Port.all.map fun port => .output port (devices.outputs.get port)

namespace Multiplexer

theorem slot_setSlot (adc : Multiplexer) (slot other : Slot) (counts : UInt16) :
    (adc.setSlot slot counts).slot other =
      if other = slot then min counts fullScale else adc.slot other := by
  have hinj : ∀ a b : Slot, channelOf a = channelOf b → a = b := by decide
  unfold setSlot Multiplexer.slot
  by_cases h : other = slot
  · subst h
    rw [if_pos rfl]
    exact Vector.getElem_set_self (channelOf other).isLt
  · rw [if_neg h]
    exact Vector.getElem_set_ne (channelOf slot).isLt (channelOf other).isLt
      fun hsame => h (hinj other slot (Fin.ext hsame.symm))

/-- A slot set in millivolts shows the count of the voltage. -/
theorem min_countsOfMillivolts (mv : UInt16) :
    min (countsOfMillivolts mv) fullScale = plugCounts mv := by
  have hcounts := toNat_countsOfMillivolts mv
  have hplug : (plugCounts mv).toNat = min 4095 (mv.toNat * 4095 / 5000) := by
    rw [plugCounts, UInt16.toNat_ofNat', Nat.mod_eq_of_lt (by omega)]
  rw [← UInt16.toNat_inj, hplug, ← hcounts]
  show (if countsOfMillivolts mv ≤ fullScale then countsOfMillivolts mv else fullScale).toNat = _
  have hfull : fullScale.toNat = 4095 := rfl
  split
  · rename_i hle
    rw [UInt16.le_iff_toNat_le, hfull] at hle
    omega
  · rename_i hgt
    rw [UInt16.le_iff_toNat_le, hfull] at hgt
    omega

end Multiplexer

namespace Controller

/-- Plugs a device into a controller. -/
def plug (c : Controller Multiplexer) (plug : Plug) : Controller Multiplexer :=
  { c with adc := plug.plugAnalog c.adc, board := plug.plugBoard c.board }

/-- Plugs a device into every port. -/
def plugAll (c : Controller Multiplexer) (devices : Devices) : Controller Multiplexer :=
  devices.plugs.foldl plug c

/-- What a controller stands in. -/
def surroundings (c : Controller Multiplexer) : Surroundings where
  counts := c.adc.slot
  inputs port := (c.portState port).lines.level
  outputs port := (c.outputState port).lines.level.pin6

variable (c : Controller Multiplexer) (devices : Devices) (port : Port)

theorem slot_plugAll :
    (c.plugAll devices).adc.slot (.inPin1 port) = plugCounts (devices.inputs.get port).pin1Mv ∧
      (c.plugAll devices).adc.slot (.outPin5 port) =
        plugCounts (devices.outputs.get port).pin5Mv := by
  cases port <;>
    simp [plugAll, Devices.plugs, Port.all, plug, Plug.plugAnalog, InputDevice.plugAnalog,
      OutputDevice.plugAnalog, Multiplexer.setSlotMillivolts, Multiplexer.slot_setSlot,
      Multiplexer.min_countsOfMillivolts, Slot.inPin1, Slot.inPin6, Slot.outPin5]

/-- Plugging devices changes the converter and the board only. -/
theorem frame_plugAll :
    (c.plugAll devices).manager = c.manager ∧ (c.plugAll devices).sampler = c.sampler ∧
      (c.plugAll devices).clock = c.clock ∧ (c.plugAll devices).link = c.link ∧
      (c.plugAll devices).adc.failing = c.adc.failing := by
  refine List.foldlRecOn
    (motive := fun after => after.manager = c.manager ∧ after.sampler = c.sampler ∧
      after.clock = c.clock ∧ after.link = c.link ∧ after.adc.failing = c.adc.failing)
    devices.plugs plug ⟨rfl, rfl, rfl, rfl, rfl⟩ fun after h next _ => ?_
  cases next <;> exact h

theorem portState_plugAll :
    (c.plugAll devices).portState port =
      { c.portState port with
        socket := { (c.portState port).socket with
          lines := (devices.inputs.get port).plugLines (c.portState port).lines } } := by
  obtain ⟨hmanager, -, -, hlink, -⟩ := frame_plugAll c devices
  have hsocket : (c.plugAll devices).board.inputs.get port =
      { c.board.inputs.get port with
        lines := (devices.inputs.get port).plugLines (c.board.inputs.get port).lines } := by
    cases port <;> rfl
  rw [portState, hmanager, hlink, hsocket]
  rfl

theorem outputState_plugAll :
    (c.plugAll devices).outputState port =
      { c.outputState port with
        socket := { (c.outputState port).socket with
          lines := (c.outputState port).lines.unplug } } := by
  have hsocket : (c.plugAll devices).board.outputs.get port =
      { c.board.outputs.get port with lines := (c.board.outputs.get port).lines.unplug } := by
    cases port <;> rfl
  rw [outputState, (frame_plugAll c devices).1, hsocket]
  rfl

theorem inRange_plugAll (h : c.adc.InRange) : (c.plugAll devices).adc.InRange := by
  refine List.foldlRecOn (motive := fun c => c.adc.InRange) devices.plugs plug h fun c h next _ => ?_
  cases next with
  | input port device =>
    exact Multiplexer.inRange_setSlot (Multiplexer.inRange_setSlot h _ _) _ _
  | output port device => exact Multiplexer.inRange_setSlot h _ _

theorem inRange_empty : Multiplexer.empty.InRange := by
  refine List.foldlRecOn (motive := Multiplexer.InRange) Port.all _ Multiplexer.inRange_default
    fun adc h port _ => ?_
  exact Multiplexer.inRange_setSlot
    (Multiplexer.inRange_setSlot (Multiplexer.inRange_setSlot h _ _) _ _) _ _

/-- A controller with the usual delays but for the hold-off that has done nothing yet, on a brick with
nothing on its ports. -/
structure Fresh (resetMs : UInt16) (c : Controller Multiplexer) : Prop where
  board : c.board = {}
  manager : c.manager = { config := { resetMs := resetMs } }
  sampler : c.sampler = { config := {} }
  on : c.adc.failing = false
  channels : c.adc.channels = Multiplexer.empty.channels
  clock : c.clock = { sampleDue := 200, manageDue := 10000 }
  unused : ∀ port, ∀ session ∈ (c.portState port).session, session.inUse = false

theorem exists_fresh (resetMs : UInt16) :
    ∃ fresh,
      Controller.new Multiplexer.empty {} { detection := { resetMs := resetMs } } = .ok fresh ∧
        fresh.Fresh resetMs := by
  have hfresh : ∃ fresh,
      Controller.new Multiplexer.empty {} { detection := { resetMs := resetMs } } = .ok fresh ∧
        fresh.board = {} ∧ fresh.manager = { config := { resetMs := resetMs } } ∧
        fresh.sampler = { config := {} } ∧ fresh.adc.failing = false ∧
        fresh.adc.channels = Multiplexer.empty.channels := ⟨_, rfl, rfl, rfl, rfl, rfl, rfl⟩
  obtain ⟨fresh, hnew, hboard, hmanager, hsampler, hon, hchannels⟩ := hfresh
  refine ⟨fresh, hnew, hboard, hmanager, hsampler, hon, hchannels, ?_, fun port =>
    (portState_new hnew port).2⟩
  rw [(fresh_of_new hnew).1, DetectionConfig.tickMicros, DetectionConfig.tickLength_usual]
  rfl

namespace Fresh

variable {c} {resetMs : UInt16} (h : c.Fresh resetMs)

include h

theorem socket : (c.portState port).socket = {} := by
  show c.board.inputs.get port = {}
  rw [h.board]
  exact PerPort.get_const _ port

theorem watch : (c.portState port).watch = {} := by
  show c.manager.inputs.get port = {}
  rw [h.manager]
  exact PerPort.get_const _ port

theorem outputState : c.outputState port = ⟨{}, {}⟩ := by
  show OutputState.mk (c.manager.outputs.get port) (c.board.outputs.get port) = _
  rw [h.manager, h.board]
  cases port <;> rfl

theorem lines_plugAll :
    ((c.plugAll devices).portState port).lines = (devices.inputs.get port).plugLines .empty := by
  rw [portState_plugAll]
  exact congrArg (fun socket => (devices.inputs.get port).plugLines socket.lines) (h.socket port)

theorem config_plugAll : (c.plugAll devices).manager.config = { resetMs := resetMs } :=
  congrArg Manager.config ((frame_plugAll c devices).1.trans h.manager)

/-- The sampler is in front of its first burst. -/
theorem paced_plugAll :
    (c.plugAll devices).samplerScene.Paced (c.plugAll devices).clock.sampleDue.toNat := by
  obtain ⟨-, hsampler, hclock, -, hon⟩ := frame_plugAll c devices
  have hrange : (c.plugAll devices).adc.InRange := by
    refine inRange_plugAll c devices fun counts hmem => ?_
    exact inRange_empty counts (h.channels ▸ hmem)
  rw [samplerScene, hsampler, hclock, h.sampler, h.clock]
  exact .first 0 rfl rfl ⟨rfl, rfl, rfl, hon.trans h.on, hrange, nofun, nofun, nofun⟩

theorem colorless_plugAll : ((c.plugAll devices).portState port).Colorless := by
  rw [portState_plugAll]
  exact ⟨h.unused port, congrArg (fun socket => socket.handshake.active) (h.socket port),
    congrArg (fun socket => socket.handshake.clocking) (h.socket port)⟩

/-- Every input port with a device is about to start. -/
theorem input_plugAll :
    ∃ k ≤ courseLeft { resetMs := resetMs } 0,
      PortState.Course { resetMs := resetMs } ((c.plugAll devices).adc.slot (.inPin1 port))
        ((c.plugAll devices).portState port).lines.level k ((c.plugAll devices).portState port) := by
  refine ⟨_, courseTicks_le_courseLeft resetMs _ _, .start ⟨?_, rfl, ?_, .inr rfl⟩ ?_ rfl⟩
  · rw [portState_plugAll]
    exact congrArg InputWatch.enabled (h.watch port)
  · rw [h.lines_plugAll devices port, (InputDevice.plugLines_empty _).2]
    rfl
  · rw [portState_plugAll]
    exact congrArg InputWatch.stage (h.watch port)

/-- So is every output port. -/
theorem output_plugAll :
    ∃ k ≤ courseLeft { resetMs := resetMs } 0,
      OutputState.Course { resetMs := resetMs } ((c.plugAll devices).adc.slot (.outPin5 port))
        ((c.plugAll devices).outputState port).lines.level.pin6 k
        ((c.plugAll devices).outputState port) := by
  refine ⟨_, loadTicks_le_courseLeft resetMs _ _, .start rfl ?_ rfl⟩
  rw [outputState_plugAll, h.outputState port]
  rfl

/-- A fresh controller with devices on its ports is left alone. -/
theorem leftAlone_plugAll :
    LeftAlone (c.plugAll devices).surroundings resetMs 0 (c.plugAll devices) := by
  obtain ⟨hmanager, -, hclock, -⟩ := frame_plugAll c devices
  have hconfig := h.config_plugAll devices
  refine ⟨hconfig, ?_, ?_, ?_, ?_, h.paced_plugAll devices, fun _ => rfl,
    h.colorless_plugAll devices, ?_, ?_⟩
  · rw [hmanager, h.manager]
  · rw [hmanager, h.manager]
    rfl
  · rw [hclock, h.clock]
    rfl
  · rw [hclock, h.clock]
  · rw [hconfig]
    exact h.input_plugAll devices
  · rw [hconfig]
    exact h.output_plugAll devices

theorem ahead_plugAll : (c.plugAll devices).clock.Ahead := by
  rw [(frame_plugAll c devices).2.2.1, h.clock]
  show (0 : UInt64) < _
  decide

/-- A run with devices on the ports stops nowhere but at a deadline that may have no instant any more. -/
theorem stop_plugAll {targets : List UInt64} {target : UInt64} (hmem : target ∈ targets) :
    ((c.plugAll devices).runUntil target).1 = .ok () ∨
      ((c.plugAll devices).runUntil target).1 = .error (.overflow .deadline) ∧
        ∃ instant ∈ targets, UInt64.size < instant.toNat + UInt32.size := by
  have hnever := (h.leftAlone_plugAll devices).neverFails
  have hbounded := bounded_of_fresh ((frame_plugAll c devices).1.trans h.manager)
  refine (runUntil_ok_or_overflow hnever hbounded target).imp_right fun ⟨word, hstop, hpossible⟩ => ?_
  cases word with
  | deadline => exact ⟨hstop, target, hmem, hpossible⟩
  | count =>
    -- the usual limits are far below the highest count
    rw [h.config_plugAll devices] at hpossible
    obtain ⟨hcolor, hlow⟩ := DetectionConfig.limits_usual resetMs
    exact absurd hpossible (not_or.mpr ⟨hcolor, hlow⟩)

/-- What the devices show on the digital lines. -/
theorem levels_plugAll :
    (c.plugAll devices).surroundings.inputs port = (devices.inputs.get port).level ∧
      (c.plugAll devices).surroundings.outputs port = true := by
  refine ⟨?_, ?_⟩
  · show ((c.plugAll devices).portState port).lines.level = _
    rw [h.lines_plugAll devices port, (InputDevice.plugLines_empty _).1]
  · show ((c.plugAll devices).outputState port).lines.level.pin6 = true
    rw [outputState_plugAll, h.outputState port]
    rfl

end Fresh

/-- **A plugged device is recognised, and stays so.** Take a fresh controller with the usual delays but
for any hold-off, and plug any simulated device into every port. Run it up to any instants, one after
the other. All runs work, unless one is to get so close to the last instant that a deadline may have no
instant any more. Runs that work get to their instants, and from half a second behind the hold-off on
every port publishes the verdict on its device: the one on an input device goes by the count on pin 1 or
by its levels, and the one on an output device is what the rules decide on a level of pin 5 that all
measurements show. -/
theorem plugged_devices_recognised (resetMs : UInt16) (devices : Devices) :
    ∃ fresh,
      Controller.new Multiplexer.empty {} { detection := { resetMs := resetMs } } = .ok fresh ∧
        ∀ (targets : List UInt64) (target : UInt64),
          let run := (fresh.plugAll devices).runAll (targets ++ [target])
          (run.1 = .ok () ∨ run.1 = .error (.overflow .deadline) ∧
            ∃ instant ∈ targets ++ [target], UInt64.size < instant.toNat + UInt32.size) ∧
          (run.1 = .ok () → target ≤ run.2.clock.now ∧
            ((resetMs.toNat + 500) * 1000 ≤ run.2.clock.now.toNat → ∀ port,
              (run.2.board.inputs.get port).verdict = (devices.inputs.get port).verdict ∧
                (run.2.board.outputs.get port).verdict = (devices.outputs.get port).load.verdict ∧
                ∀ mv ∈ (devices.outputs.get port).load.actuatorMv,
                  (run.2.board.outputs.get port).actuatorMv = mv)) := by
  obtain ⟨fresh, hnew, hfresh⟩ := exists_fresh resetMs
  refine ⟨fresh, hnew, fun targets target => ?_⟩
  obtain ⟨last, hmem, hle, hruns⟩ :=
    exists_runAll_eq_runUntil (fresh.plugAll devices)
      (List.append_ne_nil_of_right_ne_nil targets (List.cons_ne_nil target []))
  intro run
  have hrun : run = (fresh.plugAll devices).runUntil last := hruns
  rw [hrun]
  refine ⟨hfresh.stop_plugAll devices hmem, fun hok => ?_⟩
  have hleft := hfresh.leftAlone_plugAll devices
  obtain ⟨n, hafter⟩ := leftAlone_runUntil hleft hok
  have htarget : target ≤ last := hle target (List.mem_append_right _ List.mem_cons_self)
  refine ⟨UInt64.le_trans htarget (clock_of_runUntil_ok hok).2, fun hnow port => ?_⟩
  have hahead := ahead_runUntil (.inl (hfresh.ahead_plugAll devices)) hok
  obtain ⟨hinput, houtput⟩ := hafter.verdicts hahead hnow port
  obtain ⟨hlevel, hpin6⟩ := hfresh.levels_plugAll devices port
  have hpin1 : (fresh.plugAll devices).surroundings.counts (.inPin1 port) = _ :=
    (slot_plugAll fresh devices port).1
  have hpin5 : (fresh.plugAll devices).surroundings.counts (.outPin5 port) = _ :=
    (slot_plugAll fresh devices port).2
  rw [hafter.config, hpin1, hlevel, InputDevice.steadyVerdict_eq] at hinput
  rw [hpin5, hpin6, OutputDevice.loadVerdict_eq] at houtput
  exact ⟨hinput, houtput⟩

/-- A brick with a device of every kind of verdict, a second after the start and again after a pause. The
level that the first actuator publishes is its own rounded down. -/
theorem plugged_devices_recognised_full :
    let devices : Devices :=
      { inputs := ⟨.uart, .analog 2000, .iic, .shortedPin5⟩
        outputs := ⟨.largeMotor, .intelligent, .actuator 1500, .actuator 4000⟩ }
    ∃ fresh,
      Controller.new Multiplexer.empty {} { detection := { resetMs := 20 } } = .ok fresh ∧
        let run := (fresh.plugAll devices).runAll ([300000, 1000000] ++ [2000000])
        run.1 = .ok () ∧ 520000 ≤ run.2.clock.now.toNat ∧
          (Port.all.map fun port => (run.2.board.inputs.get port).verdict) =
            [⟨.unknown, .inputUart⟩, ⟨.unknown, .inputDumb⟩, ⟨.nxtIic, .nxtIic⟩, .error] ∧
          (Port.all.map fun port => (run.2.board.outputs.get port).verdict) =
            [⟨.tacho, .outputTacho⟩, ⟨.unknown, .outputIntelligent⟩, ⟨.unknown, .outputDumb⟩,
              ⟨.tacho, .outputTacho⟩] ∧
          (run.2.board.outputs.get .p3).actuatorMv = 1499 := by
  intro devices
  obtain ⟨fresh, hnew, hruns⟩ := plugged_devices_recognised 20 devices
  obtain ⟨hstop, hverdicts⟩ := hruns [300000, 1000000] 2000000
  have hroom : ¬∃ instant ∈ [300000, 1000000] ++ [(2000000 : UInt64)],
      UInt64.size < instant.toNat + UInt32.size := by decide
  have hok := hstop.resolve_right fun hlate => hroom hlate.2
  obtain ⟨hnow, hverdicts⟩ := hverdicts hok
  have hlate := Nat.le_trans (show 520000 ≤ 2000000 by decide) (UInt64.le_iff_toNat_le.mp hnow)
  have hports := hverdicts hlate
  refine ⟨fresh, hnew, hok, hlate, ?_, ?_, ?_⟩
  · rw [List.map_congr_left fun port _ => (hports port).1]
    decide +kernel
  · rw [List.map_congr_left fun port _ => (hports port).2.1]
    decide +kernel
  · exact (hports .p3).2.2 1499 (by decide +kernel)

end Controller

end PlugWatch
