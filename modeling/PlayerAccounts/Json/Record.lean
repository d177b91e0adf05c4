import PlayerAccounts.Json.Codec
import PlayerAccounts.Json.Skip
/-!
# Records in documents

A record is written as an object of its fields in order and is read from such an object, with its
fields in any order, or from a list of them in order. A field says what its value is when the object
lacks it or the list ends before it, and which values are left out when it is written.
-/
namespace PlayerAccounts.Json
set_option autoImplicit false

open PlayerAccounts.Text

/-! ## Fields -/

structure Field where
  Value : Type
  name : String
  codec : Codec Value
  /-- The value where an object lacks the field; without one the field is required there. -/
  whenMissing : Option Value
  /-- The value where a list ends before the field; without one the field is required there. -/
  whenShort : Option Value
  /-- Values that are not written. -/
  isSilent : Value → Bool

namespace Field

def required {α : Type} (name : String) (codec : Codec α) : Field :=
  ⟨α, name, codec, none, none, fun _ => false⟩

/-- A field with a value to fall back on. -/
def defaulted {α : Type} (name : String) (codec : Codec α) (value : α) : Field :=
  ⟨α, name, codec, some value, some value, fun _ => false⟩

/-- A field that an object may lack but a list may not; it is always written. -/
def optional {α : Type} (name : String) (codec : Codec α) : Field :=
  ⟨Option α, name, nullable codec, some none, none, fun _ => false⟩

/-- A field that an object may lack but a list may not; it is written only with a value. -/
def optionalSilent {α : Type} (name : String) (codec : Codec α) : Field :=
  ⟨Option α, name, nullable codec, some none, none, Option.isNone⟩

/-- A field that objects and lists may lack; it is written only with a value. -/
def omissible {α : Type} (name : String) (codec : Codec α) : Field :=
  ⟨Option α, name, nullable codec, some none, some none, Option.isNone⟩

end Field

def Values : List Field → Type
  | [] => Unit
  | f :: fs => f.Value × Values fs

/-- The values that were read so far. -/
def Draft : List Field → Type
  | [] => Unit
  | f :: fs => Option f.Value × Draft fs

def Draft.empty : (fs : List Field) → Draft fs
  | [] => ()
  | _ :: fs => (none, Draft.empty fs)

/-! ## Writing -/

/-- The fields that are written, each with its name. -/
def writeFields : (fs : List Field) → Values fs → List (List Char)
  | [], _ => []
  | f :: fs, (v, vs) =>
    let rest := writeFields fs vs
    if f.isSilent v then rest else (writeString f.name ++ ':' :: f.codec.write v) :: rest

def commaSeparated : List (List Char) → List Char
  | [] => []
  | [item] => item
  | item :: items => item ++ ',' :: commaSeparated items

def writeRecord (fs : List Field) (vs : Values fs) : List Char :=
  '\x7b' :: commaSeparated (writeFields fs vs) ++ ['\x7d']

/-! ## Reading an object -/

def scanColon (s : Source) : Except Cause Source :=
  match skipSpace s with
  | [] => .error (.unfinished .object)
  | .char ':' :: rest => .ok rest
  | _ => .error (.malformed .colon)

/-- The value of the field with this name, put into its place. A name that was met before is refused
before its value is looked at; `none` means that no field has the name. -/
def readField (key : String) (s : Source) :
    (fs : List Field) → Draft fs → Except Fault (Option (Draft fs × Source))
  | [], _ => .ok none
  | f :: fs, (value, draft) =>
    if f.name = key then
      if value.isSome then .error (Cause.mismatch (.duplicateField key)).here
      else do
        let rest ← located (scanColon s)
        let (v, rest) ← (f.codec.read rest).mapError (Fault.under (.key key))
        return some ((some v, draft), rest)
    else do
      match ← readField key s fs draft with
      | some (draft, rest) => return some ((value, draft), rest)
      | none => return none

/-- The value of a name that no field has. A strict record refuses the name itself. -/
def readUnknown (fs : List Field) (isStrict : Bool) (key : String) (s : Source) : Except Fault Source :=
  if isStrict then
    .error ((Cause.mismatch (.unknownField key (fs.map Field.name))).here.under (.key key))
  else do
    let rest ← located (scanColon s)
    (located (skipValue rest)).mapError (Fault.under (.key key))

/-- The way to the next key of an object, behind its opening quote, or `none` at the end of the
object. -/
def scanToKey (isFirst : Bool) (s : Source) : Except Cause (Option Source) :=
  match skipSpace s with
  | [] => .error (.unfinished .object)
  | .char c :: rest =>
    if c == '\x7d' then .ok none
    else if isFirst then if c == '"' then .ok (some rest) else .error (.malformed .key)
    else if c == ',' then
      match skipSpace rest with
      | [] => .error (.unfinished .value)
      | .char '"' :: rest => .ok (some rest)
      | .char '\x7d' :: _ => .error (.malformed .trailingComma)
      | _ => .error (.malformed .key)
    else .error (.malformed .objectSeparator)
  | _ => .error (if isFirst then .malformed .key else .malformed .objectSeparator)

/-- The members of an object up to its end. Every member takes at least one piece, so the source itself
is long enough to count the steps. -/
def readMembers (fs : List Field) (isStrict : Bool) :
    (steps : Source) → Bool → Draft fs → Source → Except Fault (Draft fs × Source)
  | [], _, _, _ => .error (Cause.unfinished .object).here
  | _ :: steps, isFirst, draft, s => do
    match ← located (scanToKey isFirst s) with
    | none => return (draft, s)
    | some rest =>
      let (key, rest) ← located (scanString rest)
      match ← readField key rest fs draft with
      | some (draft, rest) => readMembers fs isStrict steps false draft rest
      | none => readMembers fs isStrict steps false draft (← readUnknown fs isStrict key rest)

/-- The values of all fields, once the object is at its end. -/
def Draft.finish : (fs : List Field) → Draft fs → Except Fault (Values fs)
  | [], _ => .ok ()
  | f :: fs, (value, draft) =>
    match value.or f.whenMissing with
    | some v => do return (v, ← Draft.finish fs draft)
    | none => .error (Cause.mismatch (.missingField f.name)).here

def scanObjectEnd (s : Source) : Except Cause Source :=
  match skipSpace s with
  | [] => .error (.unfinished .object)
  | .char '\x7d' :: rest => .ok rest
  | .char ',' :: _ => .error (.malformed .trailingComma)
  | _ => .error (.malformed .trailingCharacters)

/-- A record as an object, from behind its opening. -/
def readObject (fs : List Field) (isStrict : Bool) (s : Source) : Except Fault (Values fs × Source) := do
  let (draft, rest) ← readMembers fs isStrict s true (Draft.empty fs) s
  let values ← Draft.finish fs draft
  return (values, ← located (scanObjectEnd rest))

/-! ## Reading a list -/

/-- The way to the next item of a list, or `none` at the end of the list. -/
def scanToItem (isFirst : Bool) (s : Source) : Except Cause (Option Source) :=
  match skipSpace s with
  | [] => .error (.unfinished .list)
  | .char ']' :: _ => .ok none
  | .char ',' :: rest =>
    if isFirst then .ok (some (.char ',' :: rest))
    else match skipSpace rest with
      | [] => .error (.unfinished .value)
      | .char ']' :: _ => .error (.malformed .trailingComma)
      | rest => .ok (some rest)
  | rest => if isFirst then .ok (some rest) else .error (.malformed .listSeparator)

/-- The items of a list, one for each field from the one at this index on; `record` and `count` name the
whole record. -/
def readItems (record : String) (count : Nat) :
    (fs : List Field) → Nat → Source → Except Fault (Values fs × Source)
  | [], _, s => .ok ((), s)
  | f :: fs, index, s => do
    match ← located (scanToItem (index == 0) s) with
    | some rest =>
      let (v, rest) ← (f.codec.read rest).mapError (Fault.under (.index index))
      let (vs, rest) ← readItems record count fs (index + 1) rest
      return ((v, vs), rest)
    | none =>
      match f.whenShort with
      | none => .error (Cause.mismatch (.wrongLength index record count)).here
      | some v =>
        let (vs, rest) ← readItems record count fs (index + 1) s
        return ((v, vs), rest)

def scanListEnd (s : Source) : Except Cause Source :=
  match skipSpace s with
  | [] => .error (.unfinished .list)
  | .char ']' :: rest => .ok rest
  | .char ',' :: rest =>
    match skipSpace rest with
    | .char ']' :: _ => .error (.malformed .trailingComma)
    | _ => .error (.malformed .trailingCharacters)
  | _ => .error (.malformed .trailingCharacters)

/-- A record as a list, from behind its opening. -/
def readList (record : String) (fs : List Field) (s : Source) : Except Fault (Values fs × Source) := do
  let (values, rest) ← readItems record fs.length fs 0 s
  return (values, ← located (scanListEnd rest))

/-! ## Records -/

/-- A record as an object or a list. -/
def readRecord (record : String) (fs : List Field) (isStrict : Bool) (s : Source) :
    Except Fault (Values fs × Source) :=
  match skipSpace s with
  | [] => .error (Cause.unfinished .value).here
  | .char '\x7b' :: rest => readObject fs isStrict rest
  | .char '[' :: rest => readList record fs rest
  | s => wrongKind ("struct " ++ record) s

/-- The codec of a type whose values are records with these fields. A strict one refuses names that no
field has. -/
def record {α : Type} (name : String) (fs : List Field) (isStrict : Bool) (toValues : α → Values fs)
    (ofValues : Values fs → α) : Codec α where
  write a := writeRecord fs (toValues a)
  read s := do
    let (values, rest) ← readRecord name fs isStrict s
    return (ofValues values, rest)

end PlayerAccounts.Json
