import StoreTrial.Disk.Path
import StoreTrial.Entropy.Basic
import StoreTrial.Trial.Settings

/-! # Storage locations

The names of storage locations: the beginning that the settings ask for, the time
of day in nanoseconds, and the digits of random bytes, with dashes between.
-/

namespace StoreTrial.Location

/-- The number of random bytes in a name. -/
def suffixSize : Nat := 8

/-- The name of a location. -/
def name (stem : String) (nanos : Nat) (suffix : Filled suffixSize) : String :=
  stem ++ "-" ++ toString nanos ++ "-" ++ Bytes.hex suffix.val

/-- The path of a location. -/
def path (settings : Settings) (nanos : Nat) (suffix : Filled suffixSize) : String :=
  Path.join settings.tempRoot (name settings.stem nanos suffix)

end StoreTrial.Location
