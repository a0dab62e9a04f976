import PlugWatch.Text.Hex
/-!
# Rejected requests

## Main Definitions

* `ControlError` : why a control, raw-pin or test-pin request is turned down.
* `ControlError.message` : its wording.
-/

namespace PlugWatch

/-- Why a request is turned down. -/
inductive ControlError where
  /-- Nothing was written. -/
  | empty
  /-- The bytes do not cover every port. -/
  | tooShort (expected actual : Nat)
  /-- The first byte is no command. -/
  | unknownCommand (command : UInt8)
  /-- The port number belongs to neither side. -/
  | portOutOfRange (port : UInt8)
  /-- The length is not accepted. -/
  | invalidLength (length : Nat)
  deriving DecidableEq, Repr

namespace ControlError

/-- The wording of an error. -/
def message : ControlError → String
  | empty => "empty control buffer"
  | tooShort expected actual =>
    "control buffer too short: expected at least " ++ toString expected ++ " bytes, got "
      ++ toString actual
  | unknownCommand command => "unknown control command 0x" ++ Hex.encode [command]
  | portOutOfRange port => "port " ++ toString port.toNat ++ " out of range"
  | invalidLength length => "invalid length " ++ toString length

end ControlError

end PlugWatch
