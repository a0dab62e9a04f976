import PlugWatch.Bench.Plug
import PlugWatch.Proofs.Text.Unsigned
/-!
# Which texts name a plug

A plug is named by a port and a device with an equals sign between them, and some devices need a voltage
behind a colon. The reader cuts at the first equals sign and at the first colon behind it, whatever else
there is of either, and looks at the port before it looks at the device. Here is the grammar that it
accepts, said without any cutting.

## Main Definitions

* `Plug.CutAt` : a text in front of the first separator, and what is behind it.
* `Port.InputName`, `Port.OutputName` : the names of a port.
* `InputDevice.Spelled`, `OutputDevice.Spelled` : the kinds of devices, with the voltage that some need.
* `Plug.Spelled` : the grammar.
* `Plug.wrongPort`, `Plug.Defect.ofDevice` : the defects of a port and of a device.

## Main Statements

* `Plug.ofParts_eq_ok_iff` : which parts make a plug.
* `Plug.parse_grammar` : the reader accepts the grammar, and what it says of all other texts.
-/

namespace PlugWatch

/-! ## The grammar -/

/-- The text of an input port: `in`, and its number counted from one. -/
def Port.InputName (port : Port) (name : List Char) : Prop :=
  ∃ number, name = "in".toList ++ number ∧ Decimal.Unsigned number port.number

/-- The characters that stand for an output port. -/
def Port.outputMarks : Port → List Char
  | p1 => ['a', 'A', '1']
  | p2 => ['b', 'B', '2']
  | p3 => ['c', 'C', '3']
  | p4 => ['d', 'D', '4']

/-- The text of an output port: `out`, and a character for it. -/
def Port.OutputName (port : Port) (name : List Char) : Prop :=
  ∃ mark ∈ port.outputMarks, name = "out".toList ++ [mark]

/-- The kind of an input device, and what stands behind the colon if there is one. -/
inductive InputDevice.Spelled : List Char → Option (List Char) → InputDevice → Prop
  | empty (argument : Option (List Char)) : Spelled "open".toList argument .empty
  | uart (argument : Option (List Char)) : Spelled "uart".toList argument .uart
  | iic (argument : Option (List Char)) : Spelled "iic".toList argument .iic
  | short (argument : Option (List Char)) : Spelled "short".toList argument .shortedPin5
  | analog {number : List Char} {mv : UInt16} (h : Decimal.Unsigned number mv.toNat) :
    Spelled "analog".toList (some number) (.analog mv)

/-- The kind of an output device, and what stands behind the colon if there is one. -/
inductive OutputDevice.Spelled : List Char → Option (List Char) → OutputDevice → Prop
  | empty (argument : Option (List Char)) : Spelled "open".toList argument .empty
  | largeMotor (argument : Option (List Char)) : Spelled "large-motor".toList argument .largeMotor
  | mediumMotor (argument : Option (List Char)) :
    Spelled "medium-motor".toList argument .mediumMotor
  | newLargeMotor (argument : Option (List Char)) :
    Spelled "new-large-motor".toList argument .newLargeMotor
  | intelligent (argument : Option (List Char)) :
    Spelled "intelligent".toList argument .intelligent
  | actuator {number : List Char} {mv : UInt16} (h : Decimal.Unsigned number mv.toNat) :
    Spelled "actuator".toList (some number) (.actuator mv)

namespace Plug

/-- A text is cut at its first separator, or has none. -/
def CutAt (separator : Char) (before text : List Char) : Option (List Char) → Prop
  | none => separator ∉ before ∧ text = before
  | some behind => separator ∉ before ∧ text = before ++ separator :: behind

/-- The texts that name a plug: a port in front of the first equals sign, and behind it a device of that
side, whose kind is what stands in front of the first colon. -/
inductive Spelled (text : List Char) : Plug → Prop
  | input {name device kind : List Char} {argument : Option (List Char)} {port : Port}
      {plugged : InputDevice} (hcut : CutAt '=' name text (some device)) (hport : port.InputName name)
      (hkind : CutAt ':' kind device argument) (hdevice : plugged.Spelled kind argument) :
    Spelled text (.input port plugged)
  | output {name device kind : List Char} {argument : Option (List Char)} {port : Port}
      {plugged : OutputDevice} (hcut : CutAt '=' name text (some device))
      (hport : port.OutputName name) (hkind : CutAt ':' kind device argument)
      (hdevice : plugged.Spelled kind argument) :
    Spelled text (.output port plugged)

/-- The defect of a text that is the name of no port. -/
def wrongPort (name : List Char) : Defect :=
  if "in".toList <+: name then .unknownInputPort name
  else if "out".toList <+: name then .unknownOutputPort name
  else .unknownPort name

/-- The defects that lie in the device. -/
def Defect.ofDevice : Defect → Bool
  | unknownInputDevice _ | unknownOutputDevice _ | noMillivolts | badMillivolts _ => true
  | noEquals _ | unknownPort _ | unknownInputPort _ | unknownOutputPort _ => false

/-! ## Cutting -/

variable {separator : Char} {before text behind : List Char}

theorem cut_of_notMem (h : separator ∉ before) : cut separator before = (before, none) := by
  induction before with
  | nil => rfl
  | cons c rest ih =>
    rw [List.mem_cons, not_or] at h
    rw [cut, if_neg (Ne.symm h.1), ih h.2]

theorem cut_append (h : separator ∉ before) (behind : List Char) :
    cut separator (before ++ separator :: behind) = (before, some behind) := by
  induction before with
  | nil => exact if_pos rfl
  | cons c rest ih =>
    rw [List.mem_cons, not_or] at h
    rw [List.cons_append, cut, if_neg (Ne.symm h.1), ih h.2]

theorem cutAt_cut (separator : Char) (text : List Char) :
    CutAt separator (cut separator text).1 text (cut separator text).2 := by
  induction text with
  | nil => exact ⟨List.not_mem_nil, rfl⟩
  | cons c rest ih =>
    rw [cut]
    split
    · rename_i hc
      exact ⟨List.not_mem_nil, by rw [hc]; rfl⟩
    · rename_i hc
      rcases hcut : cut separator rest with ⟨before, - | behind⟩
      · rw [hcut] at ih
        exact ⟨by simpa [Ne.symm hc] using ih.1, congrArg (c :: ·) ih.2⟩
      · rw [hcut] at ih
        exact ⟨by simpa [Ne.symm hc] using ih.1, congrArg (c :: ·) ih.2⟩

/-- The reader cuts a text where it is to be cut. -/
theorem cut_eq_iff {behind : Option (List Char)} :
    cut separator text = (before, behind) ↔ CutAt separator before text behind := by
  constructor
  · intro h
    have hcut := cutAt_cut separator text
    rwa [h] at hcut
  · intro h
    rcases behind with - | behind
    · rw [h.2, cut_of_notMem h.1]
    · rw [h.2, cut_append h.1]

/-! ## Devices -/

/-- A result that is mapped is good exactly if what is mapped is good. -/
theorem map_eq_ok_iff {α β : Type} {f : α → β} {result : Except Defect α} {y : β} :
    result.map f = .ok y ↔ ∃ x, result = .ok x ∧ f x = y := by
  cases result <;> simp [Except.map]

/-- A result that is mapped keeps its defect. -/
theorem map_eq_error_iff {α β : Type} {f : α → β} {result : Except Defect α} {defect : Defect} :
    result.map f = .error defect ↔ result = .error defect := by
  cases result <;> simp [Except.map]

theorem millivolts_eq_ok_iff {argument : Option (List Char)} {mv : UInt16} :
    millivolts argument = .ok mv ↔
      ∃ number, argument = some number ∧ Decimal.Unsigned number mv.toNat := by
  rcases argument with - | number
  · simp [millivolts]
  · have hread : millivolts (some number) = .ok mv ↔
        Decimal.readUnsigned 65535 number = .ok mv.toNat := by
      unfold millivolts
      dsimp only
      split
      · rename_i n hn
        have hlimit := (Decimal.readUnsigned_eq_ok_iff.mp hn).2
        have hfits : n < UInt16.size := Nat.lt_succ_of_le hlimit
        rw [hn, Except.ok.injEq, Except.ok.injEq, ← UInt16.toNat_inj,
          UInt16.toNat_ofNat_of_lt' hfits]
      · rename_i defect hn
        rw [hn]
        simp
    have hfits : mv.toNat ≤ 65535 := Nat.le_of_lt_succ mv.toNat_lt
    rw [hread, Decimal.readUnsigned_eq_ok_iff]
    simp [hfits]

theorem ofDevice_of_millivolts {argument : Option (List Char)} {defect : Defect}
    (h : millivolts argument = .error defect) : defect.ofDevice = true := by
  unfold millivolts at h
  split at h
  · cases h
    rfl
  · split at h
    · cases h
    · cases h
      rfl

/-- The input devices that are read are those that are spelled. -/
theorem inputDevice_eq_ok_iff {kind : List Char} {argument : Option (List Char)}
    {plugged : InputDevice} :
    inputDevice kind argument = .ok plugged ↔ plugged.Spelled kind argument := by
  constructor
  · intro h
    unfold inputDevice at h
    split_ifs at h with hopen huart hiic hshort hanalog
    · cases h
      exact hopen ▸ .empty argument
    · cases h
      exact huart ▸ .uart argument
    · cases h
      exact hiic ▸ .iic argument
    · cases h
      exact hshort ▸ .short argument
    · obtain ⟨mv, hmv, rfl⟩ := map_eq_ok_iff.mp h
      obtain ⟨number, rfl, hnumber⟩ := millivolts_eq_ok_iff.mp hmv
      exact hanalog ▸ .analog hnumber
  · intro h
    cases h with
    | empty => rfl
    | uart => rfl
    | iic => rfl
    | short => rfl
    | @analog number mv hnumber =>
      exact map_eq_ok_iff.mpr ⟨mv, millivolts_eq_ok_iff.mpr ⟨number, rfl, hnumber⟩, rfl⟩

theorem ofDevice_of_inputDevice {kind : List Char} {argument : Option (List Char)}
    {defect : Defect} (h : inputDevice kind argument = .error defect) :
    defect.ofDevice = true := by
  unfold inputDevice at h
  split_ifs at h
  · exact ofDevice_of_millivolts (map_eq_error_iff.mp h)
  · cases h
    rfl

/-- The output devices that are read are those that are spelled. -/
theorem outputDevice_eq_ok_iff {kind : List Char} {argument : Option (List Char)}
    {plugged : OutputDevice} :
    outputDevice kind argument = .ok plugged ↔ plugged.Spelled kind argument := by
  constructor
  · intro h
    unfold outputDevice at h
    split_ifs at h with hopen hlarge hmedium hnew hintelligent hactuator
    · cases h
      exact hopen ▸ .empty argument
    · cases h
      exact hlarge ▸ .largeMotor argument
    · cases h
      exact hmedium ▸ .mediumMotor argument
    · cases h
      exact hnew ▸ .newLargeMotor argument
    · cases h
      exact hintelligent ▸ .intelligent argument
    · obtain ⟨mv, hmv, rfl⟩ := map_eq_ok_iff.mp h
      obtain ⟨number, rfl, hnumber⟩ := millivolts_eq_ok_iff.mp hmv
      exact hactuator ▸ .actuator hnumber
  · intro h
    cases h with
    | empty => rfl
    | largeMotor => rfl
    | mediumMotor => rfl
    | newLargeMotor => rfl
    | intelligent => rfl
    | @actuator number mv hnumber =>
      exact map_eq_ok_iff.mpr ⟨mv, millivolts_eq_ok_iff.mpr ⟨number, rfl, hnumber⟩, rfl⟩

theorem ofDevice_of_outputDevice {kind : List Char} {argument : Option (List Char)}
    {defect : Defect} (h : outputDevice kind argument = .error defect) :
    defect.ofDevice = true := by
  unfold outputDevice at h
  split_ifs at h
  · exact ofDevice_of_millivolts (map_eq_error_iff.mp h)
  · cases h
    rfl

/-! ## Ports -/

theorem ofIndex?_eq_some_iff {n : Nat} {port : Port} :
    Port.ofIndex? n = some port ↔ n = port.index := by
  constructor
  · intro h
    unfold Port.ofIndex? at h
    split at h <;> cases h <;> rfl
  · rintro rfl
    exact Port.ofIndex?_index port

/-- An input port is read from its number, however that is written. -/
theorem inputPort?_eq_some_iff {number : List Char} {port : Port} :
    inputPort? number = some port ↔ Decimal.Unsigned number port.number := by
  have hlimit : port.number ≤ portLimit :=
    Nat.le_trans port.index_lt (show 4 ≤ portLimit by decide)
  constructor
  · intro h
    unfold inputPort? at h
    split at h
    · rename_i n hn
      rw [Port.number, ← ofIndex?_eq_some_iff.mp h]
      exact (Decimal.readUnsigned_eq_ok_iff.mp hn).1
    · cases h
  · intro h
    have hread := Decimal.readUnsigned_eq_ok_iff.mpr ⟨h, hlimit⟩
    rw [inputPort?, hread]
    exact Port.ofIndex?_index port

theorem outputPort?_eq_some_iff {mark : List Char} {port : Port} :
    outputPort? mark = some port ↔ ∃ c ∈ port.outputMarks, mark = [c] := by
  constructor
  · intro h
    unfold outputPort? at h
    split at h <;> cases h <;> exact ⟨_, by decide, rfl⟩
  · rintro ⟨c, hc, rfl⟩
    cases port
    all_goals
      simp only [Port.outputMarks, List.mem_cons, List.not_mem_nil, or_false] at hc
      rcases hc with rfl | rfl | rfl <;> rfl

/-! ## Parts -/

variable {name device kind : List Char} {argument : Option (List Char)} {port : Port}

theorem ofParts_of_inputName (hport : port.InputName name) (hkind : CutAt ':' kind device argument) :
    ofParts name device = (inputDevice kind argument).map (.input port) := by
  obtain ⟨number, rfl, hnumber⟩ := hport
  show ofParts ('i' :: 'n' :: number) device = _
  simp only [ofParts, inputPort?_eq_some_iff.mpr hnumber, cut_eq_iff.mpr hkind]

theorem ofParts_of_outputName (hport : port.OutputName name)
    (hkind : CutAt ':' kind device argument) :
    ofParts name device = (outputDevice kind argument).map (.output port) := by
  obtain ⟨mark, hmark, rfl⟩ := hport
  show ofParts ['o', 'u', 't', mark] device = _
  simp only [ofParts, outputPort?_eq_some_iff.mpr ⟨mark, hmark, rfl⟩, cut_eq_iff.mpr hkind]

/-- A name that no port has is reported whatever the device is. -/
theorem ofParts_of_wrong (hinput : ∀ port : Port, ¬ port.InputName name)
    (houtput : ∀ port : Port, ¬ port.OutputName name) (device : List Char) :
    ofParts name device = .error (wrongPort name) := by
  unfold ofParts
  dsimp only
  split
  · rename_i number
    split
    · rfl
    · rename_i port hport
      exact absurd ⟨number, rfl, inputPort?_eq_some_iff.mp hport⟩ (hinput port)
  · rename_i mark
    split
    · rfl
    · rename_i port hport
      obtain ⟨c, hc, rfl⟩ := outputPort?_eq_some_iff.mp hport
      exact absurd ⟨c, hc, rfl⟩ (houtput port)
  · rename_i hin hout
    have hin' : ¬ "in".toList <+: name := fun ⟨number, h⟩ => hin number h.symm
    have hout' : ¬ "out".toList <+: name := fun ⟨mark, h⟩ => hout mark h.symm
    rw [wrongPort, if_neg hin', if_neg hout']

/-- The parts that make a plug are the name of a port and a device of its side. -/
theorem ofParts_eq_ok_iff {plug : Plug} :
    ofParts name device = .ok plug ↔
      ∃ kind argument, CutAt ':' kind device argument ∧
        ((∃ port plugged, port.InputName name ∧ InputDevice.Spelled kind argument plugged ∧
          plug = .input port plugged) ∨
        ∃ port plugged, port.OutputName name ∧ OutputDevice.Spelled kind argument plugged ∧
          plug = .output port plugged) := by
  have hkind := cutAt_cut ':' device
  constructor
  · intro h
    refine ⟨_, _, hkind, ?_⟩
    by_cases hinput : ∃ port : Port, port.InputName name
    · obtain ⟨port, hport⟩ := hinput
      rw [ofParts_of_inputName hport hkind] at h
      obtain ⟨plugged, hplugged, rfl⟩ := map_eq_ok_iff.mp h
      exact .inl ⟨port, plugged, hport, inputDevice_eq_ok_iff.mp hplugged, rfl⟩
    by_cases houtput : ∃ port : Port, port.OutputName name
    · obtain ⟨port, hport⟩ := houtput
      rw [ofParts_of_outputName hport hkind] at h
      obtain ⟨plugged, hplugged, rfl⟩ := map_eq_ok_iff.mp h
      exact .inr ⟨port, plugged, hport, outputDevice_eq_ok_iff.mp hplugged, rfl⟩
    · rw [ofParts_of_wrong (not_exists.mp hinput) (not_exists.mp houtput)] at h
      cases h
  · rintro ⟨kind, argument, hkind, ⟨port, plugged, hport, hplugged, rfl⟩ |
      ⟨port, plugged, hport, hplugged, rfl⟩⟩
    · rw [ofParts_of_inputName hport hkind]
      exact map_eq_ok_iff.mpr ⟨plugged, inputDevice_eq_ok_iff.mpr hplugged, rfl⟩
    · rw [ofParts_of_outputName hport hkind]
      exact map_eq_ok_iff.mpr ⟨plugged, outputDevice_eq_ok_iff.mpr hplugged, rfl⟩

/-- Behind the name of a port only the device can be wrong. -/
theorem ofDevice_of_ofParts {defect : Defect}
    (hport : ∃ port : Port, port.InputName name ∨ port.OutputName name)
    (h : ofParts name device = .error defect) : defect.ofDevice = true := by
  have hkind := cutAt_cut ':' device
  obtain ⟨port, hport | hport⟩ := hport
  · rw [ofParts_of_inputName hport hkind] at h
    exact ofDevice_of_inputDevice (map_eq_error_iff.mp h)
  · rw [ofParts_of_outputName hport hkind] at h
    exact ofDevice_of_outputDevice (map_eq_error_iff.mp h)

/-! ## Texts -/

theorem parse_of_notMem {text : String} (h : '=' ∉ text.toList) :
    parse text = .error (.noEquals text.toList) := by
  rw [parse, parseChars, cut_of_notMem h]

theorem parse_of_cut {text : String} (h : CutAt '=' name text.toList (some device)) :
    parse text = ofParts name device := by
  rw [parse, parseChars, cut_eq_iff.mpr h]

/-- The texts that are read as a plug are those that spell it. -/
theorem parse_eq_ok_iff {text : String} {plug : Plug} :
    parse text = .ok plug ↔ Spelled text.toList plug := by
  constructor
  · intro h
    rcases hcut : cut '=' text.toList with ⟨name, - | device⟩
    · have hnone := cut_eq_iff.mp hcut
      rw [parse_of_notMem (hnone.2 ▸ hnone.1)] at h
      cases h
    · have hsome := cut_eq_iff.mp hcut
      rw [parse_of_cut hsome, ofParts_eq_ok_iff] at h
      obtain ⟨kind, argument, hkind, ⟨port, plugged, hport, hplugged, rfl⟩ |
        ⟨port, plugged, hport, hplugged, rfl⟩⟩ := h
      · exact .input hsome hport hkind hplugged
      · exact .output hsome hport hkind hplugged
  · rintro (⟨hcut, hport, hkind, hplugged⟩ | ⟨hcut, hport, hkind, hplugged⟩)
    · exact parse_of_cut hcut ▸ ofParts_eq_ok_iff.mpr
        ⟨_, _, hkind, .inl ⟨_, _, hport, hplugged, rfl⟩⟩
    · exact parse_of_cut hcut ▸ ofParts_eq_ok_iff.mpr
        ⟨_, _, hkind, .inr ⟨_, _, hport, hplugged, rfl⟩⟩

/-- **The reader of plugs accepts exactly its grammar.** A text is read as a plug exactly if it spells that
plug. A text without an equals sign is refused as a whole. Of any other text the port is looked at before
the device: a name that no port has is reported whatever stands behind the equals sign, and once the port
is right and there is still no plug, what is reported lies in the device. -/
theorem parse_grammar (text : String) :
    (∀ plug, parse text = .ok plug ↔ Spelled text.toList plug) ∧
    ('=' ∉ text.toList → parse text = .error (.noEquals text.toList)) ∧
    ∀ name device, CutAt '=' name text.toList (some device) →
      ((∀ port : Port, ¬ port.InputName name ∧ ¬ port.OutputName name) →
        parse text = .error (wrongPort name)) ∧
      ((∃ port : Port, port.InputName name ∨ port.OutputName name) →
        (∀ plug, ¬ Spelled text.toList plug) →
          ∃ defect, parse text = .error defect ∧ defect.ofDevice = true) := by
  refine ⟨fun plug => parse_eq_ok_iff, parse_of_notMem, fun name device hcut => ⟨?_, ?_⟩⟩
  · intro hwrong
    rw [parse_of_cut hcut]
    exact ofParts_of_wrong (fun port => (hwrong port).1) (fun port => (hwrong port).2) device
  · intro hport hnone
    cases hparse : parse text with
    | ok plug => exact absurd (parse_eq_ok_iff.mp hparse) (hnone plug)
    | error defect =>
      exact ⟨defect, rfl, ofDevice_of_ofParts hport (parse_of_cut hcut ▸ hparse)⟩

example : parse "in+02=analog:0700" = .ok (.input .p2 (.analog 700)) := by rfl

example : parse "in5=motor" = .error (.unknownInputPort "in5".toList) := by rfl

end Plug

end PlugWatch
