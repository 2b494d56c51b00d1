import RecordMapper.Engine.Connection
import RecordMapper.Engine.Location

set_option autoImplicit false

/-!
Opening a database. The engine keeps databases in memory only; there is no file that it could
open.
-/

namespace RecordMapper.Engine

structure OpenFlags where
  readOnly : Bool := false
  readWrite : Bool := false
  create : Bool := false
deriving DecidableEq, Repr

def OpenFlags.createReadWrite : OpenFlags :=
  { readWrite := true, create := true }

/-- The access that flags ask for. Without a flag a database may be created. -/
def OpenFlags.access (flags : OpenFlags) : Access :=
  if flags.readOnly then .readOnly
  else if flags.readWrite && !flags.create then .readWrite
  else .create

structure Configuration where
  path : String := ":memory:"
  flags : OpenFlags := .createReadWrite
  /-- How long to wait for a lock, in milliseconds. -/
  busyTimeout : UInt32 := 5000
deriving DecidableEq, Repr

namespace Configuration

def maxTimeout : Nat :=
  2147483647

def nullInPath : Error :=
  .configuration { message := "Invalid path: contains null byte" }

def timeoutTooLong (milliseconds : UInt32) : Error :=
  .configuration
    { message := s!"busy_timeout_ms {milliseconds} exceeds the maximum of {maxTimeout} ms"
      source := some "number too large to fit in target type" }

def cannotOpen (reason : String) : Error :=
  .connection { kind := .connect, message := s!"Failed to open database: {reason}" }

/-- Opens an empty database. The path is checked before the timeout. -/
def openDatabase (configuration : Configuration) : Except Error World :=
  if configuration.path.toList.contains '\x00' then .error nullInPath
  else if maxTimeout < configuration.busyTimeout.toNat then
    .error (timeoutTooLong configuration.busyTimeout)
  else
    match Location.ofPath configuration.flags.access configuration.path with
    | .error fault => .error (cannotOpen fault.message)
    | .ok location =>
        if location.isInMemory then .ok { path := configuration.path }
        else .error (cannotOpen "unable to open database file")

end Configuration

end RecordMapper.Engine
