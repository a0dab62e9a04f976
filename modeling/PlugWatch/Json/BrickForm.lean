import PlugWatch.Json.Form
import PlugWatch.Snapshot
/-!
# JSON forms of ports, devices and snapshots

Ports, device types, connections and stages are written by their names, everything else is a
record.
-/

namespace PlugWatch

open JsonForm (encode decode?)

instance : JsonForm Port := .ofKeys Port.all Port.label

instance : JsonForm DeviceType := .ofKeys DeviceType.all DeviceType.key

instance : JsonForm Connection := .ofKeys Connection.all Connection.key

instance : JsonForm Stage := .ofKeys Stage.all Stage.key

instance : JsonForm Classification where
  encode c := .object [("device", encode c.device), ("connection", encode c.connection)]
  decode? json := do
    match ← json.fields? ["device", "connection"] with
    | [device, connection] => return ⟨← decode? device, ← decode? connection⟩
    | _ => none

instance : JsonForm ColorData where
  encode data := .object
    [ ("calibration", encode data.calibration),
      ("cal_limits", encode data.calLimits),
      ("crc", encode data.crc),
      ("ad_raw", encode data.adRaw),
      ("sensor_raw", encode data.sensorRaw) ]
  decode? json := do
    match ← json.fields? ["calibration", "cal_limits", "crc", "ad_raw", "sensor_raw"] with
    | [calibration, calLimits, crc, adRaw, sensorRaw] =>
      return ⟨← decode? calibration, ← decode? calLimits, ← decode? crc, ← decode? adRaw,
        ← decode? sensorRaw⟩
    | _ => none

instance : JsonForm PortSnapshot where
  encode s := .object
    [ ("port", encode s.port),
      ("state", encode s.stage),
      ("classification", encode s.classification),
      ("connected", encode s.connected),
      ("fsm_enabled", encode s.enabled),
      ("millivolts", encode s.millivolts) ]
  decode? json := do
    let names := ["port", "state", "classification", "connected", "fsm_enabled", "millivolts"]
    match ← json.fields? names with
    | [port, stage, classification, connected, enabled, millivolts] =>
      return ⟨← decode? port, ← decode? stage, ← decode? classification, ← decode? connected,
        ← decode? enabled, ← decode? millivolts⟩
    | _ => none

/-- The fields of a snapshot of the brick, in order. -/
def BrickSnapshot.fields (s : BrickSnapshot) : List (String × Json) :=
  [ ("running", encode s.running),
    ("test_mode", encode s.testMode),
    ("sampler_cycles", encode s.cycles),
    ("color_schedule", encode s.colorSchedule),
    ("inputs", encode s.inputs),
    ("outputs", encode s.outputs) ]

end PlugWatch
