set_option autoImplicit false

/-!
Text as UTF-8 bytes. Bytes that are not UTF-8 are refused with the place where the valid text
ends and the length of the sequence that no continuation could repair; that length is absent
when the bytes merely stop in the middle of a character.
-/

namespace RecordMapper.Text.Utf8

/-- Where bytes stop being UTF-8 text. -/
structure Fault where
  validUpTo : Nat
  badLength : Option Nat
deriving DecidableEq, Repr

def Fault.message (fault : Fault) : String :=
  match fault.badLength with
  | some length => s!"invalid utf-8 sequence of {length} bytes from index {fault.validUpTo}"
  | none => s!"incomplete utf-8 byte sequence from index {fault.validUpTo}"

def encode (text : String) : List UInt8 :=
  text.toUTF8.toList

/-- What a lead byte demands: the range of the second byte and the number of bytes after it.
A byte that is a character by itself demands none. -/
structure Lead where
  lower : UInt8
  upper : UInt8
  tails : Nat

def Lead.of? (byte : UInt8) : Option Lead :=
  if 0xC2 ≤ byte ∧ byte ≤ 0xDF then some ⟨0x80, 0xBF, 1⟩
  else if byte = 0xE0 then some ⟨0xA0, 0xBF, 2⟩
  else if byte = 0xED then some ⟨0x80, 0x9F, 2⟩
  else if 0xE1 ≤ byte ∧ byte ≤ 0xEF then some ⟨0x80, 0xBF, 2⟩
  else if byte = 0xF0 then some ⟨0x90, 0xBF, 3⟩
  else if byte = 0xF4 then some ⟨0x80, 0x8F, 3⟩
  else if 0xF1 ≤ byte ∧ byte ≤ 0xF3 then some ⟨0x80, 0xBF, 3⟩
  else none

/-- How far a character reaches: its length, or the length of its bad start, if any. -/
inductive Extent where
  | complete (length : Nat)
  | bad (length : Option Nat)
deriving DecidableEq, Repr

/-- Follows the bytes that a lead byte demands; `seen` counts those already accepted. -/
def Extent.follow (lower upper : UInt8) (seen : Nat) : Nat → List UInt8 → Extent
  | 0, _ => .complete seen
  | _ + 1, [] => .bad none
  | owed + 1, byte :: rest =>
      if lower ≤ byte ∧ byte ≤ upper then follow 0x80 0xBF (seen + 1) owed rest
      else .bad (some seen)

def Extent.ofFirst (byte : UInt8) (rest : List UInt8) : Extent :=
  if byte < 0x80 then .complete 1
  else
    match Lead.of? byte with
    | some lead => follow lead.lower lead.upper 1 lead.tails rest
    | none => .bad (some 1)

/-- The first fault at or after a character boundary; `skip` bytes still belong to the
character before. Bytes without a fault end in an incomplete one. -/
def firstFault (position skip : Nat) : List UInt8 → Fault
  | [] => ⟨position, none⟩
  | byte :: rest =>
      match skip with
      | pending + 1 => firstFault (position + 1) pending rest
      | 0 =>
          match Extent.ofFirst byte rest with
          | .complete length => firstFault (position + 1) (length - 1) rest
          | .bad length => ⟨position, length⟩

def decode (bytes : List UInt8) : Except Fault String :=
  match String.fromUTF8? bytes.toByteArray with
  | some text => .ok text
  | none => .error (firstFault 0 0 bytes)

/-- What stands for bytes that are no text: U+FFFD. -/
def replacement : List UInt8 :=
  [0xEF, 0xBF, 0xBD]

/-- Puts the replacement in the place of every bad sequence. The counts say how many of the next
bytes still belong to a character, and how many to a bad sequence. -/
def mend (kept dropped : Nat) : List UInt8 → List UInt8
  | [] => []
  | byte :: rest =>
      match kept, dropped with
      | pending + 1, _ => byte :: mend pending dropped rest
      | 0, pending + 1 => mend 0 pending rest
      | 0, 0 =>
          match Extent.ofFirst byte rest with
          | .complete length => byte :: mend (length - 1) 0 rest
          | .bad (some length) => replacement ++ mend 0 (length - 1) rest
          | .bad none => replacement

/-- The text of any bytes. -/
def decodeMended (bytes : List UInt8) : String :=
  (String.fromUTF8? (mend 0 0 bytes).toByteArray).getD ""

end RecordMapper.Text.Utf8
