import PlugWatch.Sampling.Samples
import PlugWatch.Threshold
/-!
# The multiplexed converter

The analog inputs hang on one converter that exchanges a 16-bit word for a 16-bit reply. It is
pipelined: the reply to an exchange is the value of the channel asked for two exchanges earlier.

## Main Definitions

* `Converter` : anything that answers exchanges, possibly with a fault.
* `requestWord`, `channelOf` : the word that asks for a channel, and the channel of a slot.
* `Multiplexer` : the simulated converter, with settable channels and a fault switch.
* `BusFault` : the fault of the simulated bus.
-/

namespace PlugWatch

/-- A converter: one exchange answers a word or fails, and leaves the converter changed. -/
class Converter (α : Type) (ε : outParam Type) where
  exchange : α → UInt16 → Except ε UInt16 × α

/-- A physical channel of the converter. -/
abbrev Channel := Fin 16

/-- The channel that a slot is wired to. -/
def channelOf (slot : Slot) : Channel :=
  (#v[14, 12, 11, 9, 15, 13, 10, 8, 0, 1, 2, 3, 5, 4, 6, 7] : Vector Channel 16).get slot

/-- The fixed bits of a word that asks for a channel. -/
def requestBase : UInt16 := 0x1840

/-- The bits of a word that name the channel. -/
def channelField : UInt16 := 0x0780

/-- The word that asks for a channel, given by the low four bits of a number. -/
def requestWord (channel : UInt8) : UInt16 :=
  requestBase ||| ((channel &&& 0x0F).toUInt16 <<< 7)

/-- The word that asks for the channel of a slot. -/
def Slot.request (slot : Slot) : UInt16 := requestWord (UInt8.ofNat (channelOf slot).val)

/-- The channel that a word asks for; other words ask for none. -/
def requestedChannel? (word : UInt16) : Option Channel :=
  if word &&& ~~~channelField = requestBase then
    some (Fin.ofNat 16 ((word >>> 7) &&& 0x0F).toNat)
  else none

/-- The word that configures the converter. -/
def setupWord : UInt16 := 0x400F

/-- How often the setup word is sent at start-up. -/
def setupCount : Nat := 6

/-- The bits of a reply that carry the sample. -/
def sampleMask : UInt16 := 0x0FFF

/-- The simulated bus did not answer. -/
inductive BusFault where
  | noAnswer
  deriving DecidableEq, Repr

namespace BusFault

/-- The wording of a bus fault. -/
def message : BusFault → String
  | noAnswer => "mock ADC bus fault"

end BusFault

/-- A simulated multiplexed converter. -/
structure Multiplexer where
  /-- The value of each physical channel. -/
  channels : Vector UInt16 16 := Vector.replicate 16 0
  /-- What the exchange before last asked for; its value is the next reply. -/
  due : Option Channel := none
  /-- What the last exchange asked for. -/
  pending : Option Channel := none
  /-- Number of exchanges that worked. -/
  exchanges : Nat := 0
  /-- The last word that was taken. -/
  lastWord : UInt16 := 0
  /-- While set, every exchange fails. -/
  failing : Bool := false
  deriving DecidableEq, Repr

namespace Multiplexer

/-- The value of the channel behind a slot. -/
def slot (adc : Multiplexer) (slot : Slot) : UInt16 := adc.channels[channelOf slot]

/-- Sets the value of the channel behind a slot, at most full scale. -/
def setSlot (adc : Multiplexer) (slot : Slot) (counts : UInt16) : Multiplexer :=
  { adc with channels := adc.channels.set (channelOf slot) (min counts fullScale) }

/-- Sets a slot in millivolts. -/
def setSlotMillivolts (adc : Multiplexer) (slot : Slot) (mv : UInt16) : Multiplexer :=
  adc.setSlot slot (countsOfMillivolts mv)

/-- The value of a slot in millivolts. -/
def slotMillivolts (adc : Multiplexer) (slot : Slot) : UInt16 :=
  millivoltsOfCounts (adc.slot slot)

/-- The reply that the next exchange gives. -/
def reply (adc : Multiplexer) : UInt16 :=
  match adc.due with
  | some channel => adc.channels[channel]
  | none => 0

/-- Takes a word and gives the reply that is due; a failing converter takes nothing. -/
def exchange (adc : Multiplexer) (word : UInt16) : Except BusFault UInt16 × Multiplexer :=
  if adc.failing then (.error .noAnswer, adc)
  else
    (.ok adc.reply,
      { adc with
        due := adc.pending
        pending := requestedChannel? word
        exchanges := adc.exchanges + 1
        lastWord := word })

instance : Converter Multiplexer BusFault := ⟨exchange⟩

end Multiplexer

end PlugWatch
