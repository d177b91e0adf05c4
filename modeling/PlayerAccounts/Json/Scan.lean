import PlayerAccounts.Decimal.Shortest
import PlayerAccounts.Json.Fault
import PlayerAccounts.Text.Percent
import PlayerAccounts.Text.Unsigned
/-!
# The leaves of a document

Blanks, literals, strings and numbers, each read from the front of a source with the rest handed on,
and passing over a value that nobody wants.
-/
namespace PlayerAccounts.Json
set_option autoImplicit false

open PlayerAccounts.Text

/-- What is left to read. -/
abbrev Source := List Glyph

/-! ## Blanks and literals -/

def isSpace : Glyph → Bool
  | .char c => c == ' ' || c == '\n' || c == '\t' || c == '\r'
  | .broken _ => false

/-- The source from its first part on. -/
def skipSpace (s : Source) : Source := s.dropWhile isSpace

def scanLiteral : List Char → Source → Except Cause Source
  | [], s => .ok s
  | _ :: _, [] => .error (.unfinished .value)
  | c :: cs, g :: s => if g = .char c then scanLiteral cs s else .error (.malformed .literal)

/-! ## Strings -/

def scanHex : Source → Except Cause (Nat × Source)
  | .char a :: .char b :: .char c :: .char d :: rest =>
    match hexValue? a, hexValue? b, hexValue? c, hexValue? d with
    | some a, some b, some c, some d => .ok (((a * 16 + b) * 16 + c) * 16 + d, rest)
    | _, _, _, _ => .error (.malformed .escape)
  | s =>
    if glyphBytes (s.take 4) < 4 then .error (.unfinished .string)
    else .error (.malformed .escape)

/-- The first half of a pair that spells a character beyond the first plane. -/
def isHighSurrogate (n : Nat) : Bool := 0xD800 ≤ n && n ≤ 0xDBFF

/-- The second half of such a pair. -/
def isLowSurrogate (n : Nat) : Bool := 0xDC00 ≤ n && n ≤ 0xDFFF

def ofSurrogates (high low : Nat) : Char :=
  Char.ofNat ((high - 0xD800) * 1024 + (low - 0xDC00) + 0x10000)

/-- The second half behind the first one. -/
def scanLowSurrogate (high : Nat) : Source → Except Cause (Char × Source)
  | [] => .error (.unfinished .string)
  | [.char '\\'] => .error (.unfinished .string)
  | .char '\\' :: .char 'u' :: rest => do
    let (low, rest) ← scanHex rest
    if isLowSurrogate low then .ok (ofSurrogates high low, rest) else .error (.malformed .loneSurrogate)
  | _ => .error (.malformed .shortEscape)

/-- The character of an escape, behind its backslash. -/
def scanEscape : Source → Except Cause (Char × Source)
  | [] => .error (.unfinished .string)
  | .char '"' :: rest => .ok ('"', rest)
  | .char '\\' :: rest => .ok ('\\', rest)
  | .char '/' :: rest => .ok ('/', rest)
  | .char 'b' :: rest => .ok ('\x08', rest)
  | .char 'f' :: rest => .ok ('\x0c', rest)
  | .char 'n' :: rest => .ok ('\n', rest)
  | .char 'r' :: rest => .ok ('\r', rest)
  | .char 't' :: rest => .ok ('\t', rest)
  | .char 'u' :: rest => do
    let (n, rest) ← scanHex rest
    if isLowSurrogate n then .error (.malformed .loneSurrogate)
    else if isHighSurrogate n then scanLowSurrogate n rest
    else .ok (Char.ofNat n, rest)
  | _ => .error (.malformed .escape)

/-- Characters up to the closing quote, collected last one first. Broken pieces are refused only at the
end of the string. Every step takes at least one piece, so the source itself is long enough to count
the steps. -/
def scanStringFrom : (steps : Source) → List Char → Bool → Source → Except Cause (String × Source)
  | [], _, _, _ => .error (.unfinished .string)
  | _ :: _, _, _, [] => .error (.unfinished .string)
  | _ :: steps, read, sound, .char c :: rest =>
    if c == '"' then
      if sound then .ok (String.ofList read.reverse, rest) else .error (.malformed .codePoint)
    else if c == '\\' then do
      let (c, rest) ← scanEscape rest
      scanStringFrom steps (c :: read) sound rest
    else if c.toNat < 0x20 then .error (.malformed .controlCharacter)
    else scanStringFrom steps (c :: read) sound rest
  | _ :: steps, read, _, .broken _ :: rest => scanStringFrom steps read false rest

def scanString (s : Source) : Except Cause (String × Source) := scanStringFrom s [] true s

/-- The rest behind an escape whose character nobody wants. -/
def skipEscape : Source → Except Cause Source
  | [] => .error (.unfinished .string)
  | .char 'u' :: rest => (·.2) <$> scanHex rest
  | .char c :: rest =>
    if ['"', '\\', '/', 'b', 'f', 'n', 'r', 't'].contains c then .ok rest
    else .error (.malformed .escape)
  | .broken _ :: _ => .error (.malformed .escape)

/-- The rest behind a string that nobody wants; surrogates need no partner in it, and broken pieces
are passed over. The source itself is long enough to count the steps. -/
def skipStringFrom : (steps : Source) → Source → Except Cause Source
  | [], _ => .error (.unfinished .string)
  | _ :: _, [] => .error (.unfinished .string)
  | _ :: steps, .char c :: rest =>
    if c == '"' then .ok rest
    else if c == '\\' then do skipStringFrom steps (← skipEscape rest)
    else if c.toNat < 0x20 then .error (.malformed .controlCharacter)
    else skipStringFrom steps rest
  | _ :: steps, .broken _ :: rest => skipStringFrom steps rest

/-- The rest behind a string, from behind its opening quote. -/
def skipString (s : Source) : Except Cause Source := skipStringFrom s s

/-! ## Numbers -/

/-- A number as a document has it: an integer of 64 bits, or a binary fraction. -/
inductive Number where
  | integer (n : Int)
  | fraction (x : Float)

/-- The kind of value a number is. -/
def Number.found : Number → Found
  | integer n => .integer n
  | fraction x => .fraction (Decimal.shortest x)

def leadingDigit? : Source → Option (Nat × Source)
  | .char c :: rest => if '0' ≤ c && c ≤ '9' then some (c.toNat - 48, rest) else none
  | _ => none

def scanDigits (s : Source) : List Nat × Source :=
  let digit (g : Glyph) : Bool := match g with
    | .char c => '0' ≤ c && c ≤ '9'
    | .broken _ => false
  let value (g : Glyph) : Nat := match g with
    | .char c => c.toNat - 48
    | .broken _ => 0
  ((s.takeWhile digit).map value, s.dropWhile digit)

def maxWord64 : Nat := 0xFFFFFFFFFFFFFFFF

/-- Digits taken into a significand of 64 bits: the significand, and the digits that found no room from
the first such digit on. -/
def takeDigits (significand : Nat) : List Nat → Nat × List Nat
  | [] => (significand, [])
  | d :: digits =>
    if significand * 10 + d ≤ maxWord64 then takeDigits (significand * 10 + d) digits
    else (significand, d :: digits)

def isInfinite (x : Float) : Bool := x.toBits.toNat % 0x8000000000000000 == 0x7FF0000000000000

/-- The power of ten as a float, for exponents up to 308. -/
def powerOfTen (exponent : Nat) : Float := Float.ofScientific 1 false exponent

/-- A significand scaled down step by step while the exponent is beyond the powers of ten there are. -/
def scaleDown : Nat → Float → Nat → Float
  | 0, x, exponent => x / powerOfTen exponent
  | steps + 1, x, exponent =>
    if exponent ≤ 308 then x / powerOfTen exponent
    else if x == 0.0 then x
    else scaleDown steps (x / powerOfTen 308) (exponent - 308)

/-- The magnitude `significand · 10^exponent` as a float; a magnitude beyond all floats is refused. -/
def magnitude (significand : Nat) (exponent : Int) : Except Cause Float :=
  let x := (UInt64.ofNat significand).toFloat
  if exponent < 0 then .ok (scaleDown 4 x exponent.natAbs)
  else if 308 < exponent then
    if x == 0.0 then .ok x else .error (.malformed .numberRange)
  else
    let y := x * powerOfTen exponent.toNat
    if isInfinite y then .error (.malformed .numberRange) else .ok y

def signedFraction (negative : Bool) (significand : Nat) (exponent : Int) : Except Cause Number := do
  let x ← magnitude significand exponent
  return .fraction (if negative then -x else x)

/-- The number of the digits of an exponent, cut off where every larger one means the same. -/
def exponentOf (digits : List Nat) : Nat := digits.foldl (fun n d => min (n * 10 + d) 0x80000000) 0

def scanExponent (negative : Bool) (significand : Nat) (exponent : Int) (s : Source) :
    Except Cause (Number × Source) := do
  let (down, s) := match s with
    | .char '+' :: rest => (false, rest)
    | .char '-' :: rest => (true, rest)
    | s => (false, s)
  match leadingDigit? s with
  | none => .error (if s.isEmpty then .unfinished .value else .malformed .number)
  | some _ =>
    let (digits, rest) := scanDigits s
    let n : Int := exponentOf digits
    return (← signedFraction negative significand (if down then exponent - n else exponent + n), rest)

/-- What may follow the digits of a fraction. -/
def scanAfterFraction (negative : Bool) (significand : Nat) (exponent : Int) (s : Source) :
    Except Cause (Number × Source) := do
  match s with
  | .char 'e' :: rest => scanExponent negative significand exponent rest
  | .char 'E' :: rest => scanExponent negative significand exponent rest
  | s => return (← signedFraction negative significand exponent, s)

def scanFraction (negative : Bool) (significand : Nat) (exponent : Int) (s : Source) :
    Except Cause (Number × Source) :=
  match leadingDigit? s with
  | none => .error (if s.isEmpty then .unfinished .value else .malformed .number)
  | some _ =>
    let (digits, rest) := scanDigits s
    let (significand, dropped) := takeDigits significand digits
    scanAfterFraction negative significand (exponent - (digits.length - dropped.length : Nat)) rest

/-- An integer that has no fraction and no exponent. Beyond 64 bits, and for a negative zero, it is a
binary fraction. -/
def plainNumber (negative : Bool) (significand : Nat) (dropped : Nat) : Except Cause Number :=
  if dropped ≠ 0 then signedFraction negative significand dropped
  else if !negative then .ok (.integer significand)
  else if significand = 0 ∨ 0x8000000000000000 < significand then signedFraction true significand 0
  else .ok (.integer (-(significand : Int)))

/-- What follows the sign of a number. -/
def scanMagnitude (negative : Bool) (s : Source) : Except Cause (Number × Source) := do
  match leadingDigit? s with
  | none => .error (if s.isEmpty then .unfinished .value else .malformed .number)
  | some (d, behind) =>
    if d = 0 ∧ (leadingDigit? behind).isSome then .error (.malformed .number)
    else
      let (digits, rest) := scanDigits s
      let (significand, dropped) := takeDigits 0 digits
      match rest with
      | .char '.' :: rest => scanFraction negative significand dropped.length rest
      | .char 'e' :: rest => scanExponent negative significand dropped.length rest
      | .char 'E' :: rest => scanExponent negative significand dropped.length rest
      | rest => return (← plainNumber negative significand dropped.length, rest)

def scanNumber : Source → Except Cause (Number × Source)
  | .char '-' :: rest => scanMagnitude true rest
  | s => scanMagnitude false s

end PlayerAccounts.Json
