import RecordMapper.Text.Hexadecimal
import RecordMapper.Text.Utf8

set_option autoImplicit false

/-!
Where a database is kept. A path that starts with `file:` names a place and, behind a question
mark, options for it: how the place is accessed, which storage holds it and whether its cache is
shared. In names and values `%` stands before the two digits of an octet, and a `#` ends the path.
Any other path is a name as it stands.
-/

namespace RecordMapper.Engine

/-- How a place is accessed; in memory there is no file to access. -/
inductive Access where
  | readOnly
  | readWrite
  | create
  | memory
deriving DecidableEq, Repr

namespace Access

def ofName? : String → Option Access
  | "ro" => some .readOnly
  | "rw" => some .readWrite
  | "rwc" => some .create
  | "memory" => some .memory
  | _ => none

/-- Whether an access grants another. Memory may be given up, and taken, for any other. -/
def grants : Access → Access → Bool
  | .memory, _ => true
  | _, .memory => true
  | .create, _ => true
  | .readWrite, wanted => wanted != .create
  | .readOnly, wanted => wanted == .readOnly

end Access

/-- Why a path names no place. -/
inductive LocationFault where
  /-- Places on other machines cannot be opened. -/
  | foreign (authority : String)
  | unknownAccess (name : String)
  | deniedAccess (name : String)
  | unknownCache (name : String)
  | unknownStorage (name : String)
deriving DecidableEq, Repr

def LocationFault.message : LocationFault → String
  | .foreign authority => s!"invalid uri authority: {authority}"
  | .unknownAccess name => s!"no such access mode: {name}"
  | .deniedAccess name => s!"access mode not allowed: {name}"
  | .unknownCache name => s!"no such cache mode: {name}"
  | .unknownStorage name => s!"no such vfs: {name}"

structure Location where
  /-- The octets of the name. -/
  name : List UInt8
  access : Access
  storage : String := "unix"
deriving DecidableEq, Repr

namespace Location

/-! ## Parts of a path -/

def isOctetDigit (char : Char) : Bool :=
  char.isDigit || ('a' ≤ char && char ≤ 'f') || ('A' ≤ char && char ≤ 'F')

/-- The octets that characters stand for. The octet zero ends them. -/
def octets : List Char → List UInt8
  | [] => []
  | '%' :: high :: low :: rest =>
      if isOctetDigit high && isOctetDigit low then
        match Text.Hexadecimal.number [high.toLower, low.toLower] with
        | 0 => []
        | octet => UInt8.ofNat octet :: octets rest
      else Text.Utf8.encode "%" ++ octets (high :: low :: rest)
  | char :: rest => Text.Utf8.encode (String.singleton char) ++ octets rest

def text (chars : List Char) : String :=
  Text.Utf8.decodeMended (octets chars)

/-- What stands before the first of a mark, and what follows it. -/
def splitAtFirst (mark : Char) (chars : List Char) : List Char × List Char :=
  (chars.takeWhile (· != mark), (chars.dropWhile (· != mark)).drop 1)

def parts (mark : Char) : List Char → List (List Char)
  | [] => [[]]
  | char :: rest =>
      if char = mark then [] :: parts mark rest
      else
        match parts mark rest with
        | [] => [[char]]
        | first :: others => (char :: first) :: others

/-- The options of a path with their values. Those without a name are left out. -/
def options (chars : List Char) : List (String × String) :=
  (parts '&' chars).filterMap fun part =>
    let (name, value) := splitAtFirst '=' part
    if (octets name).isEmpty then none else some (text name, text value)

/-! ## Options -/

def storages : List String :=
  ["unix", "unix-none", "unix-dotfile", "unix-excl", "memdb"]

def withOption (location : Location) : String × String → Except LocationFault Location
  | ("vfs", storage) => .ok { location with storage }
  | ("cache", cache) =>
      if ["shared", "private"].contains cache then .ok location
      else .error (.unknownCache cache)
  | ("mode", mode) =>
      match Access.ofName? mode with
      | none => .error (.unknownAccess mode)
      | some access =>
          if location.access.grants access then .ok { location with access }
          else .error (.deniedAccess mode)
  | _ => .ok location

/-- Refuses a storage that does not exist. -/
def checked (location : Location) : Except LocationFault Location :=
  if storages.contains location.storage then .ok location
  else .error (.unknownStorage location.storage)

/-! ## Paths -/

/-- The path behind an authority, which may only be this machine. -/
def behindAuthority : List Char → Except LocationFault (List Char)
  | '/' :: '/' :: rest =>
      let authority := String.ofList (rest.takeWhile (· != '/'))
      if ["", "localhost"].contains authority then .ok (rest.dropWhile (· != '/'))
      else .error (.foreign authority)
  | chars => .ok chars

/-- The place of a path behind `file:`. -/
def ofReference (access : Access) (chars : List Char) : Except LocationFault Location := do
  let path ← behindAuthority chars
  let (name, given) := splitAtFirst '?' (path.takeWhile (· != '#'))
  let location ← (options given).foldlM withOption { name := octets name, access }
  location.checked

def ofPath (access : Access) (path : String) : Except LocationFault Location :=
  match path.toList with
  | 'f' :: 'i' :: 'l' :: 'e' :: ':' :: rest => ofReference access rest
  | _ => .ok { name := Text.Utf8.encode path, access }

/-- Whether a place is in memory: by its access, its storage or its name. -/
def isInMemory (location : Location) : Bool :=
  location.access == .memory || location.storage == "memdb"
    || location.name == Text.Utf8.encode ":memory:" || location.name.isEmpty

end Location

end RecordMapper.Engine
