import ChannelWatch.Window
import ChannelWatch.Error
import ChannelWatch.Text.Blank

/-!
# Settings

The bounds of a scan and the checkpoint are kept as text under fixed keys. Text counts as a
number if, without the white space around it, it is a decimal number of 64 bits with an
optional plus sign.
-/

namespace ChannelWatch.Settings
set_option autoImplicit false

/-- How many blocks have to follow a block before its logs are collected. -/
def minConfirmationsKey : String := "eth.min.confirmations"

/-- How far behind the confirmed end a scan may start. -/
def freshBlocksKey : String := "eth.event.freshblocks"

/-- How wide one scan may be. -/
def blockLimitKey : String := "eth.event.blocklimit"

/-- The last block whose logs are in the store. -/
def checkpointKey : String := "eth.event.lastProcessedBlock"

/-- The number that a setting's text spells. -/
def number? (text : String) : Option BlockNumber :=
  (Numeral.unsigned? UInt64.size (Text.trim text.toList)).map UInt64.ofNat

/-- The number of a setting that may be missing. -/
def optional (key : String) : Option String → Except CycleError (Option BlockNumber)
  | none => .ok none
  | some text =>
    match number? text with
    | some n => .ok (some n)
    | none => .error (.invalidSetting key text)

/-- The number of a setting that has to be there. -/
def required (key : String) (text : Option String) : Except CycleError BlockNumber :=
  match optional key text with
  | .ok (some n) => .ok n
  | .ok none => .error (.missingSetting key)
  | .error e => .error e

/-- The number of a setting that counts as zero where it is missing. -/
def orZero (key : String) (text : Option String) : Except CycleError BlockNumber :=
  (optional key text).map fun n => n.getD 0

end ChannelWatch.Settings
