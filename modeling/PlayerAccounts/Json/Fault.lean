import PlayerAccounts.Text.Quoted
import PlayerAccounts.Time.Rfc3339
/-!
# What can be wrong with a document

A document is read in one pass, and the first thing that is wrong is the answer. A fault has a cause
and the place of the value where it arose.
-/
namespace PlayerAccounts.Json
set_option autoImplicit false

open PlayerAccounts.Text (quote)
open PlayerAccounts.Time (TimestampFault)

/-! ## Causes -/

/-- What was being read when the text ended. -/
inductive Unfinished where
  | value | list | object | string
deriving DecidableEq, Repr

/-- How a text fails to be a document. -/
inductive Malformed where
  | value | literal | colon | listSeparator | objectSeparator | key | trailingComma
  | trailingCharacters | number | numberRange | escape | codePoint | controlCharacter
  | loneSurrogate | shortEscape
deriving DecidableEq, Repr

/-- The kind of value that stands where another kind is wanted. -/
inductive Found where
  | flag (b : Bool)
  | integer (n : Int)
  | fraction (text : String)
  | text (s : String)
  | null
  | list
  | object
deriving DecidableEq, Repr

/-- How a document fails to be a value of the wanted type. -/
inductive Mismatch where
  | wrongKind (found : Found) (wanted : String)
  | outOfRange (n : Int) (wanted : String)
  | wrongLength (length : Nat) (record : String) (fields : Nat)
  | missingField (name : String)
  | duplicateField (name : String)
  | unknownField (name : String) (known : List String)
  | timestamp (fault : TimestampFault)
deriving DecidableEq, Repr

inductive Cause where
  | unfinished (what : Unfinished)
  | malformed (what : Malformed)
  | mismatch (what : Mismatch)
deriving DecidableEq, Repr

/-! ## Places -/

/-- One step from a value to a value within it. -/
inductive Step where
  | key (name : String)
  | index (n : Nat)
deriving DecidableEq, Repr

/-- A cause and the way from the whole document to the value where it arose. -/
structure Fault where
  place : List Step
  cause : Cause
deriving DecidableEq, Repr

/-- A cause that concerns the value being read itself. -/
def Cause.here (cause : Cause) : Fault := ⟨[], cause⟩

/-- The same fault seen from one step further out. -/
def Fault.under (step : Step) (fault : Fault) : Fault := { fault with place := step :: fault.place }

/-! ## Words -/

def Unfinished.message : Unfinished → String
  | value => "EOF while parsing a value"
  | list => "EOF while parsing a list"
  | object => "EOF while parsing an object"
  | string => "EOF while parsing a string"

def Malformed.message : Malformed → String
  | value => "expected value"
  | literal => "expected ident"
  | colon => "expected `:`"
  | listSeparator => "expected `,` or `]`"
  | objectSeparator => "expected `,` or `\x7d`"
  | key => "key must be a string"
  | trailingComma => "trailing comma"
  | trailingCharacters => "trailing characters"
  | number => "invalid number"
  | numberRange => "number out of range"
  | escape => "invalid escape"
  | codePoint => "invalid unicode code point"
  | controlCharacter => "control character (\\u0000-\\u001F) found while parsing a string"
  | loneSurrogate => "lone leading surrogate in hex escape"
  | shortEscape => "unexpected end of hex escape"

def Found.message : Found → String
  | flag b => "boolean `" ++ (if b then "true" else "false") ++ "`"
  | integer n => "integer `" ++ toString n ++ "`"
  | fraction shown => "floating point `" ++ shown ++ "`"
  | text s => "string " ++ quote s
  | null => "null"
  | list => "sequence"
  | object => "map"

/-- The names that an object may use. -/
def knownFields : List String → String
  | [] => "there are no fields"
  | [name] => "expected `" ++ name ++ "`"
  | [first, second] => "expected `" ++ first ++ "` or `" ++ second ++ "`"
  | names => "expected one of " ++ String.intercalate ", " (names.map fun n => "`" ++ n ++ "`")

def Mismatch.message : Mismatch → String
  | wrongKind found wanted => "invalid type: " ++ found.message ++ ", expected " ++ wanted
  | outOfRange n wanted =>
    "invalid value: " ++ (Found.integer n).message ++ ", expected " ++ wanted
  | wrongLength length record fields =>
    "invalid length " ++ toString length ++ ", expected struct " ++ record ++ " with " ++
      toString fields ++ (if fields = 1 then " element" else " elements")
  | missingField name => "missing field `" ++ name ++ "`"
  | duplicateField name => "duplicate field `" ++ name ++ "`"
  | unknownField name known => "unknown field `" ++ name ++ "`, " ++ knownFields known
  | timestamp fault => fault.message

def Cause.message : Cause → String
  | unfinished what => what.message
  | malformed what => what.message
  | mismatch what => what.message

/-- Steps behind other steps, in words: names behind dots, positions in brackets. -/
def furtherText : List Step → String
  | [] => ""
  | .key name :: rest => "." ++ name ++ furtherText rest
  | .index n :: rest => "[" ++ toString n ++ "]" ++ furtherText rest

/-- A place in words: no dot stands in front. -/
def placeText : List Step → String
  | .key name :: rest => name ++ furtherText rest
  | place => furtherText place

/-- The fault in words, with its place in front unless it concerns the whole document. -/
def Fault.locatedMessage (fault : Fault) : String :=
  match fault.place with
  | [] => fault.cause.message
  | place => placeText place ++ ": " ++ fault.cause.message

end PlayerAccounts.Json
