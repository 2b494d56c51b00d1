import RecordMapper.Engine.Arithmetic
import RecordMapper.Engine.Failure
import RecordMapper.Engine.Pattern
import RecordMapper.Text.Hexadecimal

set_option autoImplicit false

/-!
The functions of the engine. A scalar function computes a value from its arguments; an aggregate
computes one from the values of an expression over a group of rows. Names are told in lower case.
-/

namespace RecordMapper.Engine

/-- A function of so many arguments; without an upper bound there may be any number. -/
structure ScalarFunction where
  least : Nat
  most : Option Nat
  evaluate : List Stored → Except Failure Stored

namespace ScalarFunction

def takes (function : ScalarFunction) (count : Nat) : Bool :=
  function.least ≤ count && function.most.all (count ≤ ·)

/-- A function of a fixed number of arguments that never fails. -/
def total (count : Nat) (evaluate : List Stored → Stored) : ScalarFunction :=
  { least := count, most := some count, evaluate := fun arguments => .ok (evaluate arguments) }

def unary (evaluate : Stored → Stored) : ScalarFunction :=
  total 1 fun arguments => evaluate (arguments.headD .null)

/-- A function of one argument that gives NULL for NULL. -/
def strict (evaluate : Stored → Stored) : ScalarFunction :=
  unary fun stored => if stored.isNull then .null else evaluate stored

end ScalarFunction

namespace Stored

/-- The text of a value as bytes; NULL has none. -/
def textBytes : Stored → List UInt8
  | .null => []
  | .text bytes => bytes
  | .blob bytes => bytes
  | stored =>
      match stored.toText with
      | .text bytes => bytes
      | _ => []

def ofString (text : String) : Stored :=
  .text (Text.Utf8.encode text)

def ofNat (number : Nat) : Stored :=
  .integer (.ofInt number)

/-! ## Scalar functions -/

/-- The size of a number; that of the smallest integer is out of range. -/
def absolute (stored : Stored) : Except Failure Stored :=
  match stored with
  | .null => .ok .null
  | .integer whole =>
      if whole = Int64.minValue then .error .integerOverflow
      else .ok (.integer (.ofInt whole.toInt.natAbs))
  | stored => .ok (.ofFloat stored.toFloat.abs)

/-- Characters of a text, bytes of a blob, and characters of what a number is written as. -/
def length (stored : Stored) : Stored :=
  match stored with
  | .blob bytes => ofNat bytes.length
  | stored => ofNat (Glyph.split (stored.textBytes.takeWhile (· != 0))).length

/-- The part of a list from a place on, counted from one, or from the end when it is negative. A
negative count takes what stands before the place. -/
def slice {Item : Type} (items : List Item) (place : Int) (count : Option Int) : List Item :=
  let size : Int := items.length
  let start := if 0 < place then place - 1 else if place < 0 then size + place else -1
  let stop := (count.map (start + ·)).getD size
  let first := max 0 (min start stop)
  let last := max 0 (max start stop)
  (items.take last.toNat).drop first.toNat

def substring (arguments : List Stored) : Stored :=
  match arguments with
  | stored :: place :: rest =>
      if arguments.any isNull then .null
      else
        let count := rest.head?.map toInt
        match stored with
        | .blob bytes => .blob (slice bytes place.toInt count)
        | stored => .text (slice (Glyph.split stored.textBytes) place.toInt count).flatten
  | _ => .null

/-- A text without the listed characters at its start, at its end, or at both. -/
def trim (atStart atEnd : Bool) (arguments : List Stored) : Stored :=
  if arguments.any isNull then .null
  else
    let listed :=
      match arguments.drop 1 with
      | [] => [Glyph.ofChar ' ']
      | characters :: _ => Glyph.split characters.textBytes
    let drop (glyphs : List Glyph) := glyphs.dropWhile listed.contains
    let glyphs := Glyph.split (arguments.headD .null).textBytes
    let glyphs := if atStart then drop glyphs else glyphs
    .text (if atEnd then (drop glyphs.reverse).reverse else glyphs).flatten

/-- Puts a text in the place of each occurrence of another. -/
def replaceIn (old new : List UInt8) : Nat → List UInt8 → List UInt8
  | 0, bytes => bytes
  | _, [] => []
  | fuel + 1, byte :: rest =>
      if old.isPrefixOf (byte :: rest) then
        new ++ replaceIn old new fuel ((byte :: rest).drop old.length)
      else byte :: replaceIn old new fuel rest

def replaced (arguments : List Stored) : Stored :=
  match arguments with
  | [stored, old, new] =>
      if arguments.any isNull then .null
      else
        let bytes := stored.textBytes
        if old.textBytes.isEmpty then .text bytes
        else .text (replaceIn old.textBytes new.textBytes bytes.length bytes)
  | _ => .null

/-- The place of a text within another, counted from one, or zero. -/
def placeIn {Item : Type} [BEq Item] (wanted : List Item) : Nat → List Item → Nat
  | place, [] => if wanted.isEmpty then place else 0
  | place, item :: rest =>
      if wanted.isPrefixOf (item :: rest) then place else placeIn wanted (place + 1) rest

def position (arguments : List Stored) : Stored :=
  match arguments with
  | [.blob bytes, .blob wanted] => ofNat (placeIn wanted 1 bytes)
  | [stored, wanted] =>
      if arguments.any isNull then .null
      else ofNat (placeIn (Glyph.split wanted.textBytes) 1 (Glyph.split stored.textBytes))
  | _ => .null

def hexadecimal (stored : Stored) : Stored :=
  ofString ((Text.Hexadecimal.ofOctets stored.textBytes).map Char.toUpper)

/-- The first of values by an order; NULL comes out as soon as it is among them. -/
def extreme (isBetter : Ordering → Bool) (arguments : List Stored) : Stored :=
  if arguments.any isNull then .null
  else
    match arguments with
    | [] => .null
    | first :: rest => rest.foldl (fun best stored =>
        if isBetter (stored.order best) then stored else best) first

def classWord : Stored → String
  | .null => "null"
  | .integer _ => "integer"
  | .real _ => "real"
  | .text _ => "text"
  | .blob _ => "blob"

/-- A match of a text, behind its pattern, with an escape perhaps. -/
def like (arguments : List Stored) : Except Failure Stored :=
  match arguments with
  | pattern :: stored :: rest =>
      match rest.map fun escape => Glyph.split escape.textBytes with
      | [] => .ok (matched pattern stored none)
      | [[escape]] => .ok (matched pattern stored (some escape))
      | _ => if rest.any isNull then .ok .null else .error .escapeLength
  | _ => .ok .null
where
  matched (pattern stored : Stored) (escape : Option Glyph) : Stored :=
    if pattern.isNull || stored.isNull then .null
    else
      .ofTruth (some ((Pattern.ofLike escape (Glyph.split pattern.textBytes)).accepts
        (Glyph.split stored.textBytes)))

def glob (arguments : List Stored) : Stored :=
  match arguments with
  | [pattern, stored] =>
      if arguments.any isNull then .null
      else
        let glyphs := Glyph.split pattern.textBytes
        .ofTruth (some ((Pattern.ofGlob glyphs.length glyphs).accepts
          (Glyph.split stored.textBytes)))
  | _ => .null

end Stored

namespace ScalarFunction

open Stored in
/-- The functions by their names. -/
def all : List (String × ScalarFunction) :=
  [("abs", { least := 1, most := some 1, evaluate := fun given => absolute (given.headD .null) }),
    ("coalesce", atLeast 2 coalesce),
    ("glob", total 2 glob),
    ("hex", unary hexadecimal),
    ("ifnull", total 2 coalesce),
    ("iif", total 3 fun given =>
      if (given.headD .null).truth == some true then given.getD 1 .null
      else given.getD 2 .null),
    ("instr", total 2 position),
    ("length", strict length),
    ("like", { least := 2, most := some 3, evaluate := like }),
    ("lower", strict fun stored => .text (stored.textBytes.map Glyph.lowerByte)),
    ("ltrim", between 1 2 (trim true false)),
    ("max", atLeast 2 (extreme (· == .gt))),
    ("min", atLeast 2 (extreme (· == .lt))),
    ("nullif", total 2 fun given =>
      if (given.headD .null).order (given.getD 1 .null) == .eq then .null
      else given.headD .null),
    ("replace", total 3 replaced),
    ("rtrim", between 1 2 (trim false true)),
    ("substr", between 2 3 substring),
    ("substring", between 2 3 substring),
    ("trim", between 1 2 (trim true true)),
    ("typeof", unary fun stored => ofString stored.classWord),
    ("upper", strict fun stored => .text (stored.textBytes.map Glyph.upperByte)),
    ("zeroblob", unary fun stored => .blob (List.replicate stored.toInt.toNat 0))]
where
  atLeast (least : Nat) (evaluate : List Stored → Stored) : ScalarFunction :=
    { least, most := none, evaluate := fun arguments => .ok (evaluate arguments) }
  between (least most : Nat) (evaluate : List Stored → Stored) : ScalarFunction :=
    { least, most := some most, evaluate := fun arguments => .ok (evaluate arguments) }
  /-- The first value that is not NULL. -/
  coalesce (arguments : List Stored) : Stored :=
    (arguments.find? fun stored => !stored.isNull).getD .null

def find? (name : String) : Option ScalarFunction :=
  all.lookup (name.map Char.toLower)

end ScalarFunction

/-! ## Aggregates -/

inductive Aggregate where
  | count
  | sum
  | total
  | average
  | least
  | greatest
  | joined
deriving DecidableEq, Repr

namespace Aggregate

/-- The aggregate of a name and a number of arguments. With more arguments the least and the
greatest are scalar. -/
def find? (name : String) (arguments : Nat) : Option Aggregate :=
  match name.map Char.toLower with
  | "count" => some .count
  | "sum" => some .sum
  | "total" => some .total
  | "avg" => some .average
  | "group_concat" => some .joined
  | "min" => if arguments ≤ 1 then some .least else none
  | "max" => if arguments ≤ 1 then some .greatest else none
  | _ => none

def takes (aggregate : Aggregate) (arguments : Nat) : Bool :=
  match aggregate with
  | .count => arguments ≤ 1
  | .joined => arguments == 1 || arguments == 2
  | _ => arguments == 1

def realSum (values : List Stored) : Float :=
  values.foldl (fun sum stored => sum + stored.toFloat) 0

/-- The sum of whole numbers is whole and must be in range. -/
def sumOf (values : List Stored) : Except Failure Stored :=
  let wholes := values.filterMap fun stored =>
    match stored.toOperand with
    | .integer whole => some whole.toInt
    | _ => none
  if wholes.length = values.length then
    let sum := wholes.foldl (· + ·) 0
    if Stored.inRange sum then .ok (.ofInt sum) else .error .integerOverflow
  else .ok (.ofFloat (realSum values))

/-- The value of an aggregate over the values that are not NULL. -/
def evaluate (aggregate : Aggregate) (separator : List UInt8) (values : List Stored) :
    Except Failure Stored :=
  match aggregate, values with
  | .count, _ => .ok (.ofNat values.length)
  | .total, _ => .ok (.ofFloat (realSum values))
  | _, [] => .ok .null
  | .sum, _ => sumOf values
  | .average, _ => .ok (.ofFloat (realSum values / values.length.toFloat))
  | .least, _ => .ok (Stored.extreme (· == .lt) values)
  | .greatest, _ => .ok (Stored.extreme (· == .gt) values)
  | .joined, _ => .ok (.text (separator.intercalate (values.map Stored.textBytes)))

end Aggregate

end RecordMapper.Engine
