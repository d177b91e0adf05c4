import PlayerAccounts.Decimal.Shortest
import PlayerAccounts.Json.Record
/-!
# Free documents

Documents of any shape, and how they are written: without blanks, the members of an object by name.
-/
namespace PlayerAccounts.Json
set_option autoImplicit false

/-! ## The type -/

inductive Document where
  | null
  | flag (b : Bool)
  | integer (n : Int)
  | fraction (x : Float)
  | text (s : String)
  | list (items : List Document)
  | object (members : List (String × Document))
deriving Inhabited

namespace Document

def ofNumber : Number → Document
  | .integer n => integer n
  | .fraction x => fraction x

/-! ## Writing -/

/-- The members of an object in the order of their names. -/
def byName (members : List (String × List Char)) : List (String × List Char) :=
  members.mergeSort fun a b => a.1 ≤ b.1

def writeMember (member : String × List Char) : List Char := writeString member.1 ++ ':' :: member.2

mutual

def write : Document → List Char
  | null => "null".toList
  | flag b => (if b then "true" else "false").toList
  | integer n => writeInt n
  | fraction x => (Decimal.shortest x).toList
  | text s => writeString s
  | list items => '[' :: commaSeparated (writeAll items) ++ [']']
  | object members => '\x7b' :: commaSeparated ((byName (writeMembers members)).map writeMember) ++ ['\x7d']

def writeAll : List Document → List (List Char)
  | [] => []
  | item :: items => item.write :: writeAll items

def writeMembers : List (String × Document) → List (String × List Char)
  | [] => []
  | (name, value) :: members => (name, value.write) :: writeMembers members

end

def encode (d : Document) : String := String.ofList d.write

end Document
end PlayerAccounts.Json
