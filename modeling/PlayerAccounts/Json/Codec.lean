import PlayerAccounts.Json.Scan
/-!
# Values in documents

A codec writes the values of a type and reads them back from the front of a source. Here are the codecs
of single values; a value of another kind is a mismatch that names what was found.
-/
namespace PlayerAccounts.Json
set_option autoImplicit false

open PlayerAccounts.Text
open PlayerAccounts.Time

/-! ## Codecs -/

/-- How the values of a type stand in a document. -/
structure Codec (α : Type) where
  write : α → List Char
  read : Source → Except Fault (α × Source)

/-- A fault of a leaf concerns the value itself. -/
def located {α : Type} (scanned : Except Cause α) : Except Fault α := scanned.mapError Cause.here

/-- The kind of the value at the front of a source, which is read as far as its kind is its text. -/
def scanFound : Source → Except Cause Found
  | .char 'n' :: rest => do let _ ← scanLiteral ['u', 'l', 'l'] rest; return .null
  | .char 't' :: rest => do let _ ← scanLiteral ['r', 'u', 'e'] rest; return .flag true
  | .char 'f' :: rest => do let _ ← scanLiteral ['a', 'l', 's', 'e'] rest; return .flag false
  | .char '"' :: rest => do let (s, _) ← scanString rest; return .text s
  | .char '[' :: _ => .ok .list
  | .char '\x7b' :: _ => .ok .object
  | .char c :: rest =>
    if c == '-' || ('0' ≤ c && c ≤ '9') then do
      let (n, _) ← scanNumber (.char c :: rest)
      return n.found
    else .error (.malformed .value)
  | _ => .error (.malformed .value)

/-- The fault of a value of another kind than the wanted one. -/
def wrongKind {α : Type} (wanted : String) (s : Source) : Except Fault α :=
  located do .error (.mismatch (.wrongKind (← scanFound s) wanted))

/-! ## Texts -/

/-- One character of a string in a document. -/
def escapeChar (c : Char) : List Char :=
  if c == '"' then ['\\', '"']
  else if c == '\\' then ['\\', '\\']
  else if c == '\x08' then ['\\', 'b']
  else if c == '\t' then ['\\', 't']
  else if c == '\n' then ['\\', 'n']
  else if c == '\x0c' then ['\\', 'f']
  else if c == '\r' then ['\\', 'r']
  else if c.toNat < 0x20 then ['\\', 'u', '0', '0', hexDigit (c.toNat / 16), hexDigit (c.toNat % 16)]
  else [c]

/-- A string of a document: controls, quotes and backslashes are escaped, nothing else is. -/
def writeString (s : String) : List Char := '"' :: s.toList.flatMap escapeChar ++ ['"']

def text : Codec String where
  write := writeString
  read s := match skipSpace s with
    | [] => .error (Cause.unfinished .value).here
    | .char '"' :: rest => located (scanString rest)
    | s => wrongKind "a string" s

/-! ## Flags and numbers -/

def flag : Codec Bool where
  write b := (if b then "true" else "false").toList
  read s := match skipSpace s with
    | [] => .error (Cause.unfinished .value).here
    | .char 't' :: rest => located do return (true, ← scanLiteral ['r', 'u', 'e'] rest)
    | .char 'f' :: rest => located do return (false, ← scanLiteral ['a', 'l', 's', 'e'] rest)
    | s => wrongKind "a boolean" s

/-- An integer of 32 bits out of a number. -/
def toInt32 (n : Number) : Except Cause Int32 :=
  match n with
  | .integer n =>
    if Int32.minValue.toInt ≤ n ∧ n ≤ Int32.maxValue.toInt then .ok (Int32.ofInt n)
    else .error (.mismatch (.outOfRange n "i32"))
  | .fraction x => .error (.mismatch (.wrongKind (Number.fraction x).found "i32"))

def writeInt (n : Int) : List Char :=
  if n < 0 then '-' :: Nat.toDigits 10 n.natAbs else Nat.toDigits 10 n.natAbs

def int32 : Codec Int32 where
  write n := writeInt n.toInt
  read s := match skipSpace s with
    | [] => .error (Cause.unfinished .value).here
    | .char c :: rest =>
      if c == '-' || ('0' ≤ c && c ≤ '9') then located do
        let (n, rest) ← scanNumber (.char c :: rest)
        return (← toInt32 n, rest)
      else wrongKind "i32" (.char c :: rest)
    | s => wrongKind "i32" s

/-! ## Instants -/

/-- Instants, as texts in the form of RFC 3339. -/
def instant : Codec Instant where
  write t := writeString t.text
  read s := match skipSpace s with
    | [] => .error (Cause.unfinished .value).here
    | .char '"' :: rest => located do
      let (s, rest) ← scanString rest
      match readInstant s.toList with
      | .ok t => return (t, rest)
      | .error fault => throw (.mismatch (.timestamp fault))
    | s => wrongKind "an RFC 3339 formatted date and time string" s

/-! ## Values that may be absent -/

/-- Values of a type or `null`. -/
def nullable {α : Type} (codec : Codec α) : Codec (Option α) where
  write
    | none => "null".toList
    | some a => codec.write a
  read s := match skipSpace s with
    | .char 'n' :: rest => located do return (none, ← scanLiteral ['u', 'l', 'l'] rest)
    | s => do
      let (a, rest) ← codec.read s
      return (some a, rest)

/-! ## Whole documents -/

def Codec.decode {α : Type} (codec : Codec α) (s : Source) : Except Fault α := do
  let (a, rest) ← codec.read s
  if (skipSpace rest).isEmpty then return a else throw (Cause.malformed .trailingCharacters).here

def Codec.decodeText {α : Type} (codec : Codec α) (s : String) : Except Fault α :=
  codec.decode (glyphs s.toList)

def Codec.encode {α : Type} (codec : Codec α) (a : α) : String := String.ofList (codec.write a)

end PlayerAccounts.Json
