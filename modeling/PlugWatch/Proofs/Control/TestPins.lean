import PlugWatch.Proofs.Control.Report
import PlugWatch.Proofs.Control.Requests
/-!
# What a test-pin read shows of a write

A test-pin write goes through the pins of a port by the roles of that side, while a read takes the
levels of all pins out of the bits of a byte, fills the text with blanks and ends it with a NUL. Both
sides meet in the pins themselves: what is done to each of them, and the level on its far side. A write
is a change of what is done to them, a read resolves it.

## Main Definitions

* `Controller.pins` : the pins of a port, each with what is done to it and the level on its far side.
* `echoByte` : what a read shows of a pin behind a write.

## Main Statements

* `drive_foldl_zip` : driving the pins of a port one by one drives each of them by its own byte.
* `Controller.terminated_eq` : the text that is answered, place by place.
* `Controller.pins_drivePort` : what a write does to the pins of its port.
* `Controller.read_behind_write` : what a read answers behind a write.
-/

namespace PlugWatch

/-! ## Driving pins by bytes -/

/-- What bytes ask of the pin at a place, if anything. -/
def driveAt? (data : List UInt8) (place : Nat) : Option Drive := data[place]?.bind driveOfByte?

section Pins

variable {κ ι : Type} {driveTo : κ → ι → Drive → κ} (drive : κ → ι → Drive)

/-- Pins that are not among those driven stay as they are. -/
theorem drive_foldl_zip_of_notMem
    (hother : ∀ lines role level other, other ≠ role →
      drive (driveTo lines role level) other = drive lines other)
    {roles : List ι} (data : List UInt8) (lines : κ) {other : ι} (h : other ∉ roles) :
    drive ((roles.zip data).foldl (fun lines (role, byte) =>
      match driveOfByte? byte with
      | some level => driveTo lines role level
      | none => lines) lines) other = drive lines other := by
  induction roles generalizing data lines with
  | nil => rfl
  | cons role rest ih =>
    cases data with
    | nil => rfl
    | cons byte later =>
      obtain ⟨hne, hrest⟩ := not_or.mp (List.mem_cons.not.mp h)
      rw [List.zip_cons_cons, List.foldl_cons, ih later _ hrest]
      dsimp only
      split
      · exact hother lines role _ other hne
      · rfl

/-- Driving distinct pins one by one drives each of them by its own byte. -/
theorem drive_foldl_zip
    (hself : ∀ lines role level, drive (driveTo lines role level) role = level)
    (hother : ∀ lines role level other, other ≠ role →
      drive (driveTo lines role level) other = drive lines other)
    {roles : List ι} (hroles : roles.Nodup) (data : List UInt8) (lines : κ) {place : Nat}
    (h : place < roles.length) :
    drive ((roles.zip data).foldl (fun lines (role, byte) =>
      match driveOfByte? byte with
      | some level => driveTo lines role level
      | none => lines) lines) roles[place] =
      (driveAt? data place).getD (drive lines roles[place]) := by
  induction roles generalizing data lines place with
  | nil => exact absurd h (Nat.not_lt_zero _)
  | cons role rest ih =>
    obtain ⟨hrole, hrest⟩ := List.nodup_cons.mp hroles
    cases data with
    | nil => rfl
    | cons byte later =>
      rw [List.zip_cons_cons, List.foldl_cons]
      cases place with
      | zero =>
        -- the later pins are other pins
        rw [List.getElem_cons_zero, drive_foldl_zip_of_notMem drive hother later _ hrole]
        dsimp only [driveAt?, List.getElem?_cons_zero, Option.bind_some]
        cases driveOfByte? byte with
        | none => rfl
        | some level => exact hself lines role level
      | succ place =>
        have hplace : place < rest.length := Nat.lt_of_succ_lt_succ h
        have hne : rest[place] ≠ role := fun heq => hrole (heq ▸ List.getElem_mem hplace)
        rw [List.getElem_cons_succ, ih hrest later _ hplace]
        dsimp only [driveAt?, List.getElem?_cons_succ]
        congr 1
        split
        · exact hother lines role _ _ hne
        · rfl

end Pins

namespace InputLines

theorem drive_driveAll (lines : InputLines) (data : List UInt8) {place : Nat}
    (h : place < InputRole.all.length) :
    (lines.driveAll data).drive.get InputRole.all[place] =
      (driveAt? data place).getD (lines.drive.get InputRole.all[place]) := by
  refine drive_foldl_zip (fun lines role => InputPins.get lines.drive role) ?_ ?_ (by decide)
    data lines h
  · intro lines role level
    rw [drive_driveTo, InputPins.get_set_self]
  · intro lines role level other hne
    rw [drive_driveTo, InputPins.get_set_ne _ _ hne]

/-- Without a sensor nothing answers to what is done to a pin. -/
theorem driveTo_of_plain {lines : InputLines} (h : lines.sensor = none) (role : InputRole)
    (drive : Drive) :
    (lines.driveTo role drive).sensor = none ∧ (lines.driveTo role drive).level = lines.level := by
  obtain ⟨drives, level, writes, sensor⟩ := lines
  cases h
  unfold driveTo clockSensor
  dsimp only
  split <;> exact ⟨rfl, rfl⟩

theorem level_driveAll {lines : InputLines} (h : lines.sensor = none) (data : List UInt8) :
    (lines.driveAll data).level = lines.level := by
  suffices hall : (lines.driveAll data).sensor = none ∧ (lines.driveAll data).level = lines.level
    from hall.2
  unfold driveAll
  refine List.foldlRecOn (motive := fun after : InputLines =>
    after.sensor = none ∧ after.level = lines.level) _ _ ⟨h, rfl⟩ ?_
  rintro after ⟨hsensor, hlevel⟩ ⟨role, byte⟩ -
  dsimp only
  cases driveOfByte? byte with
  | none => exact ⟨hsensor, hlevel⟩
  | some drive =>
    obtain ⟨hplain, hsame⟩ := driveTo_of_plain hsensor role drive
    exact ⟨hplain, hsame.trans hlevel⟩

end InputLines

namespace OutputLines

theorem drive_driveAll (lines : OutputLines) (data : List UInt8) {place : Nat}
    (h : place < OutputRole.all.length) :
    (lines.driveAll data).drive.get OutputRole.all[place] =
      (driveAt? data place).getD (lines.drive.get OutputRole.all[place]) := by
  refine drive_foldl_zip (fun lines role => OutputPins.get lines.drive role) ?_ ?_ (by decide)
    data lines h
  · intro lines role level
    exact OutputPins.get_set_self _ role level
  · intro lines role level other hne
    exact OutputPins.get_set_ne _ level hne

theorem level_driveAll (lines : OutputLines) (data : List UInt8) :
    (lines.driveAll data).level = lines.level := by
  unfold driveAll
  refine List.foldlRecOn (motive := fun after : OutputLines => after.level = lines.level) _ _ rfl ?_
  rintro after hlevel ⟨role, byte⟩ -
  dsimp only
  cases driveOfByte? byte <;> exact hlevel

end OutputLines

/-! ## The text of a read -/

/-- What a read shows at a place behind a write: a level that was asked for, the level on the far side
of a pin that was released, and what was shown before where the write asks for nothing. -/
def echoByte (data : List UInt8) (far : List Bool) (before : List UInt8) (place : Nat) : UInt8 :=
  let byte := data.getD place 0
  if byte = byteOf '0' ∨ byte = byteOf '1' then byte
  else if byte = byteOf 'x' ∨ byte = byteOf 'X' then byteOf (levelChar (far.getD place false))
  else before.getD place 0

/-- What a driven pin shows, in terms of the byte that is asked for. -/
theorem echoByte_eq {data : List UInt8} {far : List Bool} {before : List UInt8} {place : Nat}
    {drive : Drive} {level : Bool} (hfar : far.getD place false = level)
    (hbefore : before.getD place 0 = byteOf (levelChar (drive.resolve level))) :
    byteOf (levelChar (((driveAt? data place).getD drive).resolve level)) =
      echoByte data far before place := by
  unfold echoByte driveAt? driveOfByte?
  dsimp only
  rw [hfar, hbefore, List.getD_eq_getElem?_getD]
  cases data[place]? with
  | none => rfl
  | some byte =>
    dsimp only [Option.bind_some, Option.getD_some]
    by_cases hlow : byte = byteOf '0'
    · rw [if_pos hlow, if_pos (Or.inl hlow), hlow]
      rfl
    · by_cases hhigh : byte = byteOf '1'
      · rw [if_neg hlow, if_pos hhigh, if_pos (Or.inr hhigh), hhigh]
        rfl
      · rw [if_neg hlow, if_neg hhigh, if_neg (not_or.mpr ⟨hlow, hhigh⟩)]
        split <;> rfl

namespace Controller

variable {α : Type}

/-- Text filled up with blanks, place by place. -/
theorem take_append_replicate (text : List Char) (n : Nat) :
    (text ++ List.replicate n ' ').take n = (List.range n).map fun place => text.getD place ' ' := by
  refine List.ext_getElem (by simp) fun place _ _ => ?_
  rw [List.getElem_take, List.getElem_map, List.getElem_range, List.getElem_append]
  split
  · rename_i hin
    exact (List.getD_eq_getElem _ _ hin).symm
  · rename_i hout
    rw [List.getElem_replicate]
    exact (List.getD_eq_default _ _ (Nat.not_lt.mp hout)).symm

/-- The text that is answered, place by place. -/
theorem terminated_eq (length : Nat) (text : List Char) :
    terminated length text = (List.range length).map fun place =>
      if place + 1 = length then 0 else byteOf (text.getD place ' ') := by
  cases length with
  | zero => rfl
  | succ n =>
    rw [terminated, List.range_succ, List.map_append, take_append_replicate, List.map_map]
    congr 1
    · refine List.map_congr_left fun place hplace => ?_
      have hlt := List.mem_range.mp hplace
      rw [if_neg (by omega)]
      rfl
    · simp

/-- The pins of a port in the order of their roles, each with what is done to it and the level on its
far side. -/
def pins (c : Controller α) : TestPort → List (Drive × Bool)
  | .input port =>
    let lines := (c.board.inputs.get port).lines
    InputRole.all.map fun role => (lines.drive.get role, lines.level.get role)
  | .output port =>
    let lines := (c.board.outputs.get port).lines
    OutputRole.all.map fun role => (lines.drive.get role, lines.level.get role)

theorem length_pins (c : Controller α) (port : TestPort) : (c.pins port).length = 5 := by
  cases port <;> rfl

theorem levelText_eq_pins (c : Controller α) (port : TestPort) :
    c.levelText port = (c.pins port).map fun pin => levelChar (pin.1.resolve pin.2) := by
  cases port with
  | input port => exact InputLines.levelText_eq _
  | output port => exact OutputLines.levelText_eq _

/-- Drives the pins of a port of either side, one byte for each pin. -/
def drivePort (c : Controller α) (data : List UInt8) : TestPort → Controller α
  | .input port => c.modifyInputLines port fun lines => lines.driveAll data
  | .output port => c.modifyOutputLines port fun lines => lines.driveAll data

/-- A write drives the pins of its port. -/
theorem testPin_write (c : Controller α) {raw : UInt8} {data : List UInt8} {port : TestPort}
    (hraw : TestPort.ofRaw raw = .ok port) (hsome : 1 ≤ data.length) (hroom : data.length ≤ 15) :
    c.testPin (.write raw data) = .ok (none, c.drivePort data port) := by
  unfold testPin testPinLength
  dsimp only
  rw [if_neg (by omega), hraw]
  cases port <;> rfl

/-- A read answers the levels of its port and changes nothing. -/
theorem testPin_read (c : Controller α) {raw : UInt8} {length : Nat} {port : TestPort}
    (hraw : TestPort.ofRaw raw = .ok port) (hroom : length ≤ 16) :
    c.testPin (.read raw length) = .ok (some (terminated length (c.levelText port)), c) := by
  unfold testPin testPinLength
  dsimp only
  rw [if_neg (by omega), hraw]

/-- Behind a write every pin of the port is driven as its byte says, and its far side is as it was. -/
theorem pins_drivePort {c : Controller α}
    (hplain : ∀ port, (c.board.inputs.get port).lines.sensor = none) (data : List UInt8)
    (port : TestPort) :
    (c.drivePort data port).pins port =
      (c.pins port).mapIdx fun place pin => ((driveAt? data place).getD pin.1, pin.2) := by
  refine List.ext_getElem (by cases port <;> rfl) fun place hplace _ => ?_
  cases port with
  | input port =>
    simp only [pins, drivePort, modifyInputLines, Board.modifyInputLines, PerPort.get_modify_self,
      List.getElem_map, List.getElem_mapIdx, InputLines.drive_driveAll,
      InputLines.level_driveAll (hplain port)]
  | output port =>
    simp only [pins, drivePort, modifyOutputLines, Board.modifyOutputLines, PerPort.get_modify_self,
      List.getElem_map, List.getElem_mapIdx, OutputLines.drive_driveAll, OutputLines.level_driveAll]

/-- A write drives no pin of any other port. -/
theorem pins_drivePort_ne (c : Controller α) (data : List UInt8) {port other : TestPort}
    (hne : other ≠ port) : (c.drivePort data port).pins other = c.pins other := by
  cases port <;> cases other
  · rename_i port other
    have h : other ≠ port := fun heq => hne (congrArg TestPort.input heq)
    simp only [pins, drivePort, modifyInputLines, Board.modifyInputLines, PerPort.get_modify_ne _ _ h]
  · rfl
  · rfl
  · rename_i port other
    have h : other ≠ port := fun heq => hne (congrArg TestPort.output heq)
    simp only [pins, drivePort, modifyOutputLines, Board.modifyOutputLines,
      PerPort.get_modify_ne _ _ h]

/-- What the text of a port shows behind a write, place by place. -/
theorem shown_drivePort {c : Controller α}
    (hplain : ∀ port, (c.board.inputs.get port).lines.sensor = none) (data : List UInt8)
    (port : TestPort) {before : List UInt8} {place : Nat}
    (hbefore : before.getD place 0 = byteOf ((c.levelText port).getD place ' ')) :
    byteOf (((c.drivePort data port).levelText port).getD place ' ') =
      if place < 5 then echoByte data ((c.pins port).map Prod.snd) before place else byteOf ' ' := by
  rw [levelText_eq_pins] at hbefore
  rw [levelText_eq_pins, pins_drivePort hplain]
  split
  · rename_i hpin
    have hpins : place < (c.pins port).length := by rwa [length_pins]
    have hshown : ∀ {pins : List (Drive × Bool)} (h : place < pins.length),
        (pins.map fun pin => levelChar (pin.1.resolve pin.2)).getD place ' ' =
          levelChar (pins[place].1.resolve pins[place].2) := by
      intro pins h
      rw [List.getD_eq_getElem _ _ (by rwa [List.length_map]), List.getElem_map]
    rw [hshown hpins] at hbefore
    rw [hshown (by rwa [List.length_mapIdx]), List.getElem_mapIdx]
    refine echoByte_eq ?_ hbefore
    rw [List.getD_eq_getElem _ _ (by rwa [List.length_map]), List.getElem_map]
  · rename_i hpin
    rw [List.getD_eq_default]
    rw [List.length_map, List.length_mapIdx, length_pins]
    exact Nat.not_lt.mp hpin

/-- **What a test-pin read shows of a write.** Take any controller without a simulated sensor on its
input ports, a port of either side, 1 to 15 bytes to write there and a length up to 16 to read. The
write drives the pins of that port and of no other. The read then answers just as many bytes: a byte for
each of the five pins, as far as there is room, then blanks, and a NUL in the last place. A pin shows
what was written to it, if that was a level; the level on its far side, if it was released; and what a
read would have shown before the write, if there was neither. A longer read fails, and so does a write
of nothing or of more bytes, with nothing changed. -/
theorem read_behind_write {c : Controller α}
    (hplain : ∀ port, (c.board.inputs.get port).lines.sensor = none) :
    (∀ (raw : UInt8) (data : List UInt8) (length : Nat),
      raw.toNat < 8 → 1 ≤ data.length → data.length ≤ 15 → length ≤ 16 →
        ∃ port after before reply,
          TestPort.ofRaw raw = .ok port ∧ port.number = raw.toNat ∧
          c.testPin (.write raw data) = .ok (none, after) ∧
          c.testPin (.read raw length) = .ok (some before, c) ∧
          after.testPin (.read raw length) = .ok (some reply, after) ∧
          reply.length = length ∧
          (reply = (List.range length).map fun place =>
            if place + 1 = length then 0
            else if place < 5 then echoByte data ((c.pins port).map Prod.snd) before place
            else byteOf ' ') ∧
          ∀ other, other ≠ port → after.pins other = c.pins other) ∧
    (∀ raw length, 16 < length →
      (InPlace.testPin (.read raw length)).run c = (.error (.invalidLength length), c)) ∧
    ∀ raw data, data.length = 0 ∨ 16 ≤ data.length →
      (InPlace.testPin (.write raw data)).run c = (.error (.invalidLength data.length), c) := by
  refine ⟨fun raw data length hraw hsome hroom hlength => ?_, fun raw length hlength => ?_,
    fun raw data hdata => ?_⟩
  · obtain ⟨port, hport, hnumber⟩ := TestPort.exists_ofRaw hraw
    refine ⟨port, _, _, _, hport, hnumber, testPin_write c hport hsome hroom,
      testPin_read c hport hlength, testPin_read _ hport hlength, ?_, ?_,
      fun other hne => pins_drivePort_ne c data hne⟩
    · rw [terminated_eq, List.length_map, List.length_range]
    · rw [terminated_eq]
      refine List.map_congr_left fun place hplace => ?_
      split
      · rfl
      · rename_i hlast
        refine shown_drivePort hplain data port ?_
        rw [terminated_eq, List.getD_eq_getElem _ _ (by simpa using hplace), List.getElem_map,
          List.getElem_range, if_neg hlast]
  · have h := wholeOrNothing_testPin c (.read raw length)
    unfold testPinFault? at h
    dsimp only at h
    rwa [if_pos hlength] at h
  · have h := wholeOrNothing_testPin c (.write raw data)
    unfold testPinFault? at h
    dsimp only at h
    rwa [if_pos hdata] at h

/-- Four bytes for an output port of a fresh controller, where the pin 5 sense and pin 6 are pulled up.
The first and the third are levels, the second asks for nothing, the fourth releases its pin, and the
last pin gets no byte. -/
theorem read_behind_write_mixed :
    ∃ fresh : Controller Multiplexer,
      Controller.new {} {} {} = .ok fresh ∧
        (∀ port, (fresh.board.inputs.get port).lines.sensor = none) ∧
        ∃ after,
          fresh.testPin (.write 5 ("1-0x".toList.map byteOf)) = .ok (none, after) ∧
          after.testPin (.read 5 8) = .ok (some ("10011  \x00".toList.map byteOf), after) := by
  obtain ⟨fresh, hnew, hinputs, houtputs⟩ : ∃ fresh : Controller Multiplexer,
      Controller.new {} {} {} = .ok fresh ∧ fresh.board.inputs = .const {} ∧
        fresh.board.outputs = .const {} := ⟨_, rfl, rfl, rfl⟩
  have hplain : ∀ port, (fresh.board.inputs.get port).lines.sensor = none := by
    intro port
    rw [hinputs, PerPort.get_const]
    rfl
  refine ⟨fresh, hnew, hplain, ?_⟩
  obtain ⟨port, after, before, reply, hport, -, hwrite, hbefore, hread, -, hreply, -⟩ :=
    (read_behind_write hplain).1 5 ("1-0x".toList.map byteOf) 8 (by decide) (by decide) (by decide)
      (by decide)
  cases hport
  have hpins : fresh.pins (.output .p2) =
      [(.float, false), (.float, false), (.float, false), (.float, true), (.float, true)] := by
    rw [pins, houtputs, PerPort.get_const]
    rfl
  rw [testPin_read fresh rfl (by decide), levelText_eq_pins, hpins] at hbefore
  cases hbefore
  have htext : reply = "10011  \x00".toList.map byteOf := by
    rw [hreply, hpins]
    decide
  exact ⟨after, hwrite, htext ▸ hread⟩

end Controller

end PlugWatch
