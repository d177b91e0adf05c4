import PlayerAccounts.Json.Scan
/-!
# Passing over a value

The value of a field that nobody wants is still read, to any depth, but only as far as its form goes:
surrogates need no partner, and numbers have no range.
-/
namespace PlayerAccounts.Json
set_option autoImplicit false

open PlayerAccounts.Text

/-! ## Leaves -/

def skipDigits (s : Source) : Except Cause Source :=
  match leadingDigit? s with
  | none => .error (.malformed .number)
  | some _ => .ok (scanDigits s).2

def skipExponent : Source → Except Cause Source
  | .char '+' :: rest => skipDigits rest
  | .char '-' :: rest => skipDigits rest
  | s => skipDigits s

/-- The rest behind whatever follows the integer part of a number. -/
def skipAfterInteger : Source → Except Cause Source
  | .char '.' :: rest => do
    match ← skipDigits rest with
    | .char 'e' :: rest => skipExponent rest
    | .char 'E' :: rest => skipExponent rest
    | rest => .ok rest
  | .char 'e' :: rest => skipExponent rest
  | .char 'E' :: rest => skipExponent rest
  | s => .ok s

/-- The rest behind a number, from behind its sign. -/
def skipMagnitude (s : Source) : Except Cause Source :=
  match leadingDigit? s with
  | none => .error (.malformed .number)
  | some (d, behind) =>
    if d = 0 then
      if (leadingDigit? behind).isSome then .error (.malformed .number) else skipAfterInteger behind
    else skipAfterInteger (scanDigits s).2

/-! ## Lists and objects -/

/-- A value that is open around the place of reading. -/
inductive Enclosing where
  | list | object
deriving DecidableEq, Repr

/-- The open value in words of what is unfinished. -/
def Enclosing.unfinished : Enclosing → Cause
  | list => .unfinished .list
  | object => .unfinished .object

/-- What is missing where neither a comma nor the end of the open value stands. -/
def Enclosing.separator : Enclosing → Cause
  | list => .malformed .listSeparator
  | object => .malformed .objectSeparator

/-- The character that ends the open value. -/
def Enclosing.close : Enclosing → Char
  | list => ']'
  | object => '\x7d'

/-- A value at the front: either the rest behind it, or the list or object that it opens. -/
def skipOpening (s : Source) : Except Cause (Option Enclosing × Source) :=
  match s with
  | [] => .error (.unfinished .value)
  | .broken _ :: _ => .error (.malformed .value)
  | .char c :: rest =>
    if c == 'n' then return (none, ← scanLiteral ['u', 'l', 'l'] rest)
    else if c == 't' then return (none, ← scanLiteral ['r', 'u', 'e'] rest)
    else if c == 'f' then return (none, ← scanLiteral ['a', 'l', 's', 'e'] rest)
    else if c == '"' then return (none, ← skipString rest)
    else if c == '-' then return (none, ← skipMagnitude rest)
    else if '0' ≤ c && c ≤ '9' then return (none, ← skipMagnitude s)
    else if c == '[' then .ok (some .list, rest)
    else if c == '\x7b' then .ok (some .object, rest)
    else .error (.malformed .value)

def skipKey (s : Source) : Except Cause Source :=
  match skipSpace s with
  | [] => .error (.unfinished .object)
  | .char '"' :: rest => do
    match skipSpace (← skipString rest) with
    | [] => .error (.unfinished .object)
    | .char ':' :: rest => .ok rest
    | _ => .error (.malformed .colon)
  | _ => .error (.malformed .key)

/-- The rest up to the next value of the innermost open value. -/
def skipToItem (enclosing : Enclosing) (s : Source) : Except Cause Source :=
  match enclosing with
  | .list => .ok s
  | .object => skipKey s

/-- What comes behind a value: ends of open values, then a comma and the way to the next value, if any
value is still open. -/
def closeOpen : List Enclosing → Source → Except Cause (List Enclosing × Source)
  | [], s => .ok ([], s)
  | innermost :: outer, s =>
    match skipSpace s with
    | [] => .error innermost.unfinished
    | .char c :: rest =>
      if c == ',' then return (innermost :: outer, ← skipToItem innermost rest)
      else if c == innermost.close then closeOpen outer rest
      else .error innermost.separator
    | _ => .error innermost.separator

/-- What comes behind the opening of a list or object: its end, or the way to its first value. -/
def enter (opened : Enclosing) (outer : List Enclosing) (s : Source) :
    Except Cause (List Enclosing × Source) :=
  match skipSpace s with
  | [] => .error opened.unfinished
  | .char c :: rest =>
    if c == opened.close then closeOpen outer rest
    else return (opened :: outer, ← skipToItem opened s)
  | _ => return (opened :: outer, ← skipToItem opened s)

/-- The rest behind a value within open ones. Every step takes at least one piece, so the source itself is
long enough to count the steps. -/
def skipValueFrom : (steps : Source) → List Enclosing → Source → Except Cause Source
  | [], _, _ => .error (.unfinished .value)
  | _ :: steps, stack, s => do
    let (stack, rest) ← match ← skipOpening (skipSpace s) with
      | (none, rest) => closeOpen stack rest
      | (some opened, rest) => enter opened stack rest
    if stack.isEmpty then return rest else skipValueFrom steps stack rest

/-- The rest behind a value that nobody wants. -/
def skipValue (s : Source) : Except Cause Source := skipValueFrom s [] s

end PlayerAccounts.Json
