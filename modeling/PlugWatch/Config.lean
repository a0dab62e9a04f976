import PlugWatch.Text.Short
/-!
# Configuration

Timing of the three jobs and options of the web surface. Delays are given in milliseconds and
counted in ticks of the connection manager.

## Main Definitions

* `DetectionConfig` : delays of the port watches, with one `…Ticks` count for each.
* `Periods`, `SamplerConfig` : the pauses between sampler bursts.
* `LinkConfig` : bit timer of the colour link.
* `WebConfig`, `Config` : web surface, and the whole.
-/

namespace PlugWatch

/-- Delays of the connection manager and options of the board. -/
structure DetectionConfig where
  /-- Time between two ticks. -/
  tickMs : UInt16 := 10
  /-- Hold-off after power-up. -/
  resetMs : UInt16 := 2000
  /-- Settle time of a released port. -/
  floatMs : UInt16 := 20
  /-- Settle time of a sense pin. -/
  lowMs : UInt16 := 20
  /-- Confirmation time of a pressed touch sensor. -/
  touchMs : UInt16 := 20
  /-- How long connect conditions hold before they count. -/
  connectMs : UInt16 := 350
  /-- How long a release condition holds before it counts. -/
  releaseMs : UInt16 := 100
  /-- Give-up time of a colour session. -/
  colorTimeoutMs : UInt16 := 500
  /-- Whether input pin 2 can be read. -/
  pin2Detection : Bool := false
  /-- Whether the colour link exists. -/
  legacyColor : Bool := true
  deriving DecidableEq, Repr, Inhabited

namespace DetectionConfig

/-- The tick length in milliseconds, at least one. -/
def tickLength (config : DetectionConfig) : UInt16 := max config.tickMs 1

/-- Whole ticks in a number of milliseconds. -/
def ticks (config : DetectionConfig) (ms : UInt16) : UInt16 := ms / config.tickLength

/-- The tick length in microseconds. -/
def tickMicros (config : DetectionConfig) : UInt32 := config.tickLength.toUInt32 * 1000

/-- Hold-off in ticks. -/
def resetTicks (config : DetectionConfig) : UInt16 := config.ticks config.resetMs

/-- Settle time of a released port in ticks. -/
def floatTicks (config : DetectionConfig) : UInt16 := config.ticks config.floatMs

/-- Settle time of a sense pin in ticks. -/
def lowTicks (config : DetectionConfig) : UInt16 := config.ticks config.lowMs

/-- Touch confirmation time in ticks. -/
def touchTicks (config : DetectionConfig) : UInt16 := config.ticks config.touchMs

/-- Connect debounce in ticks. -/
def connectTicks (config : DetectionConfig) : UInt16 := config.ticks config.connectMs

/-- Release debounce in ticks. -/
def releaseTicks (config : DetectionConfig) : UInt16 := config.ticks config.releaseMs

/-- Give-up time of a colour session in ticks. -/
def colorTimeoutTicks (config : DetectionConfig) : UInt16 := config.ticks config.colorTimeoutMs

/-- The tick length is the number of its milliseconds, a thousand microseconds each. -/
theorem toNat_tickMicros (config : DetectionConfig) :
    config.tickMicros.toNat = 1000 * config.tickLength.toNat := by
  have h : (1000 : UInt32).toNat = 1000 := rfl
  have := config.tickLength.toNat_lt
  rw [tickMicros, UInt32.toNat_mul, UInt16.toNat_toUInt32, h]
  omega

theorem tickLength_pos (config : DetectionConfig) : 0 < config.tickLength.toNat := by
  show 0 < (if config.tickMs ≤ 1 then 1 else config.tickMs).toNat
  split
  · decide
  · rename_i h
    rw [UInt16.le_iff_toNat_le] at h
    have : (1 : UInt16).toNat = 1 := rfl
    omega

theorem tickMicros_pos (config : DetectionConfig) : 0 < config.tickMicros.toNat := by
  have := config.tickLength_pos
  rw [toNat_tickMicros]
  omega

end DetectionConfig

/-- A word kept to at least one is positive. -/
theorem toNat_max_one_pos (n : UInt32) : 0 < (max n 1).toNat := by
  show 0 < (if n ≤ 1 then 1 else n).toNat
  split
  · decide
  · rename_i h
    rw [UInt32.le_iff_toNat_le] at h
    have : (1 : UInt32).toNat = 1 := rfl
    omega

/-- The two pauses a schedule chooses from, in microseconds. -/
structure Periods where
  short : UInt32
  long : UInt32
  deriving DecidableEq, Repr, Inhabited

namespace Periods

/-- The same pauses, each at least one microsecond. -/
def clamped (periods : Periods) : Periods := ⟨max periods.short 1, max periods.long 1⟩

theorem short_pos (periods : Periods) : 0 < periods.clamped.short.toNat :=
  toNat_max_one_pos periods.short

theorem long_pos (periods : Periods) : 0 < periods.clamped.long.toNat :=
  toNat_max_one_pos periods.long

end Periods

/-- Pauses between sampler bursts. -/
structure SamplerConfig where
  /-- Pauses while no colour sensor is active. -/
  normal : Periods := ⟨200, 600⟩
  /-- Pauses while a colour sensor is active. -/
  color : Periods := ⟨200, 400⟩
  deriving DecidableEq, Repr, Inhabited

/-- Timing of the colour link. -/
structure LinkConfig where
  /-- Period of the bit timer, in microseconds. -/
  timerMicros : UInt32 := 200
  /-- How long the sensor is held in reset, in milliseconds. -/
  initDelayMs : UInt32 := 100
  deriving DecidableEq, Repr, Inhabited

namespace LinkConfig

/-- The bit timer period, at least one microsecond. -/
def period (config : LinkConfig) : UInt32 := max config.timerMicros 1

theorem period_pos (config : LinkConfig) : 0 < config.period.toNat :=
  toNat_max_one_pos config.timerMicros

/-- The reset hold in bit-timer ticks, computed in 32 bits and kept to 16. -/
def initDelayTicks (config : LinkConfig) : UInt16 :=
  (config.initDelayMs * 1000 / config.period).toUInt16

end LinkConfig

/-- Options of the web surface. -/
structure WebConfig where
  /-- Address to serve on. -/
  host : ShortText := ShortText.ofString "0.0.0.0"
  /-- TCP port to serve on. -/
  port : UInt16 := 8080
  /-- Whether pages of any origin may use the surface. -/
  corsPermissive : Bool := true
  /-- Whether the surface is served at all. -/
  enabled : Bool := true
  deriving DecidableEq, Repr, Inhabited

/-- The whole configuration. -/
structure Config where
  detection : DetectionConfig := {}
  sampler : SamplerConfig := {}
  link : LinkConfig := {}
  web : WebConfig := {}
  deriving DecidableEq, Repr, Inhabited

end PlugWatch
