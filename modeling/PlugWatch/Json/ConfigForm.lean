import PlugWatch.Config
import PlugWatch.Json.Form
/-!
# JSON forms of the configuration

Each part of the configuration is a record; the two pauses of a schedule are a list.
-/

namespace PlugWatch

open JsonForm (encode decode?)

instance : JsonForm DetectionConfig where
  encode config := .object
    [ ("timer_resolution_ms", encode config.tickMs),
      ("device_reset_ms", encode config.resetMs),
      ("float_delay_ms", encode config.floatMs),
      ("low_delay_ms", encode config.lowMs),
      ("touch_delay_ms", encode config.touchMs),
      ("connect_stable_ms", encode config.connectMs),
      ("event_stable_ms", encode config.releaseMs),
      ("color_timeout_ms", encode config.colorTimeoutMs),
      ("pin2_detection", encode config.pin2Detection),
      ("legacy_color", encode config.legacyColor) ]
  decode? json := do
    let names := ["timer_resolution_ms", "device_reset_ms", "float_delay_ms", "low_delay_ms",
      "touch_delay_ms", "connect_stable_ms", "event_stable_ms", "color_timeout_ms",
      "pin2_detection", "legacy_color"]
    match ← json.fields? names with
    | [tick, reset, float, low, touch, connect, release, colorTimeout, pin2, legacy] =>
      return {
        tickMs := ← decode? tick
        resetMs := ← decode? reset
        floatMs := ← decode? float
        lowMs := ← decode? low
        touchMs := ← decode? touch
        connectMs := ← decode? connect
        releaseMs := ← decode? release
        colorTimeoutMs := ← decode? colorTimeout
        pin2Detection := ← decode? pin2
        legacyColor := ← decode? legacy }
    | _ => none

instance : JsonForm Periods where
  encode periods := .list [encode periods.short, encode periods.long]
  decode?
    | .list [short, long] => return ⟨← decode? short, ← decode? long⟩
    | _ => none

instance : JsonForm SamplerConfig where
  encode config := .object
    [ ("normal_periods_us", encode config.normal),
      ("color_periods_us", encode config.color) ]
  decode? json := do
    match ← json.fields? ["normal_periods_us", "color_periods_us"] with
    | [normal, color] => return ⟨← decode? normal, ← decode? color⟩
    | _ => none

instance : JsonForm LinkConfig where
  encode config := .object
    [ ("timer_us", encode config.timerMicros),
      ("init_delay_ms", encode config.initDelayMs) ]
  decode? json := do
    match ← json.fields? ["timer_us", "init_delay_ms"] with
    | [timer, initDelay] => return ⟨← decode? timer, ← decode? initDelay⟩
    | _ => none

instance : JsonForm WebConfig where
  encode config := .object
    [ ("host", encode config.host),
      ("port", encode config.port),
      ("cors_permissive", encode config.corsPermissive),
      ("enabled", encode config.enabled) ]
  decode? json := do
    match ← json.fields? ["host", "port", "cors_permissive", "enabled"] with
    | [host, port, cors, enabled] =>
      return ⟨← decode? host, ← decode? port, ← decode? cors, ← decode? enabled⟩
    | _ => none

instance : JsonForm Config where
  encode config := .object
    [ ("dcm", encode config.detection),
      ("sampler", encode config.sampler),
      ("color", encode config.link),
      ("web", encode config.web) ]
  decode? json := do
    match ← json.fields? ["dcm", "sampler", "color", "web"] with
    | [detection, sampler, link, web] =>
      return ⟨← decode? detection, ← decode? sampler, ← decode? link, ← decode? web⟩
    | _ => none

end PlugWatch
