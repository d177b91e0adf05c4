import PlayerAccounts.Text.Blank
import PlayerAccounts.Text.Utf8
import PlayerAccounts.Time.Instant
/-!
# Timestamps as text

Instants in the form of RFC 3339. The writer uses UTC and as few groups of three fraction digits as
lose nothing; a year outside 0 to 9999 has a sign. The reader allows blanks between the parts and any
offset, and names the first thing that is wrong.
-/
namespace PlayerAccounts.Time
set_option autoImplicit false

open PlayerAccounts.Text

/-! ## Writing -/

/-- The last `width` decimal digits of a number. -/
def padded : Nat → Nat → List Char
  | 0, _ => []
  | width + 1, n => padded width (n / 10) ++ [Char.ofNat (48 + n % 10)]

/-- A number with at least four digits. -/
def atLeastFour (n : Nat) : List Char := if n < 10000 then padded 4 n else Nat.toDigits 10 n

/-- A year: four digits, or a sign and at least four digits. -/
def writeYear (year : Int) : List Char :=
  if 0 ≤ year && year ≤ 9999 then padded 4 year.toNat
  else (if year < 0 then '-' else '+') :: atLeastFour year.natAbs

/-- The fraction of a second: nothing, or a point and three, six or nine digits. -/
def writeFraction (nanos : Nat) : List Char :=
  if nanos == 0 then []
  else if nanos % 1000000 == 0 then '.' :: padded 3 (nanos / 1000000)
  else if nanos % 1000 == 0 then '.' :: padded 6 (nanos / 1000)
  else '.' :: padded 9 nanos

def writeInstant (t : Instant) : List Char :=
  let date := t.date
  let second := t.secondOfDay
  writeYear date.year ++ '-' :: padded 2 date.month ++ '-' :: padded 2 date.day ++
    'T' :: padded 2 (second / 3600) ++ ':' :: padded 2 (second / 60 % 60) ++
    ':' :: padded 2 (second % 60 + t.nanos / nanosPerSecond) ++
    writeFraction (t.nanos % nanosPerSecond) ++ ['Z']

def Instant.text (t : Instant) : String := String.ofList (writeInstant t)

/-! ## Faults -/

inductive TimestampFault where
  /-- The text ends too early. -/
  | premature
  /-- A character stands where none of its kind may. -/
  | invalid
  /-- A part has a value that no date, time or offset has. -/
  | outOfRange
  /-- Something follows the offset. -/
  | trailing
  /-- The instant in UTC lies outside the range of years. -/
  | impossible
deriving DecidableEq, Repr

def TimestampFault.message : TimestampFault → String
  | premature => "premature end of input"
  | invalid => "input contains invalid characters"
  | outOfRange => "input is out of range"
  | trailing => "trailing input"
  | impossible => "no possible date and time matching input"

/-! ## Reading the parts -/

/-- A reader of one part: its value and the text behind it. -/
abbrev PartReader (α : Type) := StateT (List Char) (Except TimestampFault) α

def maxPart : Nat := 0x7FFFFFFFFFFFFFFF

/-- Digits up to a number of them, after `n` was read; no digit at all is a fault. -/
def readDigits (limit : Nat) (first : Bool) (n : Nat) :
    List Char → Except TimestampFault (Nat × List Char)
  | [] => if first then .error .premature else .ok (n, [])
  | c :: rest =>
    match limit with
    | 0 => .ok (n, c :: rest)
    | limit + 1 =>
      if '0' ≤ c && c ≤ '9' then
        let n := n * 10 + (c.toNat - 48)
        if n ≤ maxPart then readDigits limit false n rest else .error .outOfRange
      else if first then .error .invalid
      else .ok (n, c :: rest)

/-- A number of at least one and at most `limit` digits. -/
def number (limit : Nat) : PartReader Nat := readDigits limit true 0

/-- A number as above that has to lie between two bounds. -/
def boundedNumber (low high : Nat) : PartReader Nat := do
  modify trimStart
  let n ← number 2
  if low ≤ n ∧ n ≤ high then return n else throw .outOfRange

def mark (c : Char) : PartReader Unit := do
  modify trimStart
  match ← get with
  | [] => throw .premature
  | d :: rest => if d == c then set rest else throw .invalid

/-- At most four digits, or a sign and any number of digits. -/
def signedNumber : PartReader Int := do
  match ← get with
  | '-' :: rest => do set rest; return -(Int.ofNat (← number rest.length))
  | '+' :: rest => do set rest; return Int.ofNat (← number rest.length)
  | _ => Int.ofNat <$> number 4

def year : PartReader Int := do
  modify trimStart
  let value ← signedNumber
  if -0x80000000 ≤ value ∧ value < 0x80000000 then return value else throw .outOfRange

/-- The fraction of a second, in nanoseconds; digits after the ninth are dropped. -/
def fraction : PartReader Nat := do
  match ← get with
  | '.' :: rest =>
    set rest
    let value ← number 9
    let behind ← get
    modify (·.dropWhile fun c => '0' ≤ c && c ≤ '9')
    return value * Nat.pow 10 (9 - (rest.length - behind.length))
  | _ => return 0

def offsetPair : PartReader (Char × Char) := do
  match ← get with
  | a :: b :: rest => do
    if ('0' ≤ a && a ≤ '9') && ('0' ≤ b && b ≤ '9') then set rest; return (a, b)
    else throw .invalid
  | s => throw (if utf8Length s < 2 then .premature else .invalid)

def pairValue (pair : Char × Char) : Nat := (pair.1.toNat - 48) * 10 + (pair.2.toNat - 48)

def offsetSeconds : PartReader Nat := do
  let hours ← offsetPair
  modify (·.dropWhile fun c => c == ':' || isBlank c)
  let minutes ← offsetPair
  if 60 ≤ pairValue minutes then throw .outOfRange
  return pairValue hours * 3600 + pairValue minutes * 60

/-- Whether a text begins with the name of universal time, in any case. -/
def startsWithUtc (s : List Char) : Bool := (s.take 3).map Char.toLower == ['u', 't', 'c']

/-- The offset from UTC in seconds: a letter or name for zero, or a sign with hours and minutes. -/
def offset : PartReader Int := do
  modify trimStart
  let s ← get
  if startsWithUtc s then set (s.drop 3); return 0
  match s with
  | [] => throw .premature
  | c :: rest =>
    set rest
    if c == 'Z' || c == 'z' then return 0
    else if c == '+' then return Int.ofNat (← offsetSeconds)
    else if c == '-' || c == '\u2212' then return -(Int.ofNat (← offsetSeconds))
    else throw .invalid

/-! ## Reading a timestamp -/

/-- The letter or the blank between date and time. -/
def separator : PartReader Unit := do
  match ← get with
  | [] => throw .premature
  | c :: rest => if c == 'T' || c == 't' || c == ' ' then set rest else throw .invalid

/-- The parts of a timestamp as written. -/
structure Written where
  date : Date
  hour : Nat
  minute : Nat
  second : Nat
  nanos : Nat
  offset : Int

/-- All parts up to the end of the text. -/
def parts : PartReader Written := do
  let year ← year
  mark '-'
  let month ← boundedNumber 1 12
  mark '-'
  let day ← boundedNumber 1 31
  separator
  let hour ← boundedNumber 0 23
  mark ':'
  let minute ← boundedNumber 0 59
  mark ':'
  let second ← boundedNumber 0 60
  let nanos ← fraction
  let offset ← offset
  modify trimStart
  if !(← get).isEmpty then throw .trailing
  return ⟨⟨year, month, day⟩, hour, minute, second, nanos, offset⟩

/-- The first and the last year of an instant. -/
def firstYear : Int := -262143
def lastYear : Int := 262142

/-- The instant that the parts name. A second 60 is the second 59 with a second of nanoseconds more. -/
def Written.instant (w : Written) : Except TimestampFault Instant :=
  if ¬(w.date.IsValid ∧ firstYear ≤ w.date.year ∧ w.date.year ≤ lastYear) then .error .outOfRange
  else if (secondsPerDay : Int) ≤ w.offset.natAbs then .error .outOfRange
  else
    let local' := w.date.toDays * secondsPerDay +
      (w.hour * 3600 + w.minute * 60 + min w.second 59 : Nat)
    let nanos := w.nanos + if w.second = 60 then nanosPerSecond else 0
    match Instant.ofParts? (local' - w.offset) nanos with
    | some t => .ok t
    | none => .error .impossible

def readInstant (s : List Char) : Except TimestampFault Instant := do
  let (written, _) ← parts.run s
  written.instant

end PlayerAccounts.Time
