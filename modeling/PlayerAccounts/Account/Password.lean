import PlayerAccounts.Account.Credential
import PlayerAccounts.Bcrypt.Text
import PlayerAccounts.Text.Unsigned
/-!
# Passwords

Sealing a password with a salt at a cost, and checking a password against a stored hash and its salt.
A check reads the cost out of the stored text by its place, computes the hash anew and compares what
follows the cost in both.
-/
namespace PlayerAccounts.Account
set_option autoImplicit false

open PlayerAccounts.Text

/-! ## Faults -/

/-- Why a password could not be sealed or checked. -/
inductive PasswordFault where
  /-- There is no such cost to seal at. -/
  | sealingCost (cost : Nat)
  /-- The stored cost is none. -/
  | checkingCost (cost : Nat)
  /-- The salt has not the right number of bytes. -/
  | saltLength (bytes : Nat)
  /-- The stored text is no hash. -/
  | notAHash
  /-- The password has more bytes than count. -/
  | tooLong (bytes : Nat)
deriving DecidableEq, Repr

def saltBytes : Nat := 16

def maxPasswordBytes : Nat := Bcrypt.keyBytes

def costMessage (cost : Nat) : String :=
  "Cost needs to be between " ++ toString Bcrypt.minCost ++ " and " ++ toString Bcrypt.maxCost ++
    ", got " ++ toString cost

def PasswordFault.message : PasswordFault → String
  | sealingCost cost => "Password hashing failed: " ++ costMessage cost
  | checkingCost cost => "Password verification failed: " ++ costMessage cost
  | saltLength bytes =>
    "Stored salt must be " ++ toString saltBytes ++ " bytes, got " ++ toString bytes
  | notAHash => "Stored hash is not a bcrypt hash"
  | tooLong bytes =>
    "Password is " ++ toString bytes ++ " bytes, bcrypt keeps only " ++ toString maxPasswordBytes

/-! ## Sealing -/

def bytesOf (s : String) : List UInt8 := utf8Bytes s.toList

/-- The bytes of a salt, if it has the right number of them. -/
def rawSalt (salt : String) : Except PasswordFault (List UInt8) :=
  if salt.utf8ByteSize = saltBytes then .ok (bytesOf salt) else .error (.saltLength salt.utf8ByteSize)

def isCost (cost : Nat) : Bool := Bcrypt.minCost ≤ cost && cost ≤ Bcrypt.maxCost

def hashPassword (cost : Nat) (password salt : String) : Except PasswordFault String := do
  if maxPasswordBytes < password.utf8ByteSize then throw (.tooLong password.utf8ByteSize)
  let raw ← rawSalt salt
  if isCost cost then return String.ofList (Bcrypt.hashText cost (bytesOf password) raw)
  else throw (.sealingCost cost)

def sealPassword (cost : Nat) (password salt : String) : Except PasswordFault SealedPassword := do
  return ⟨← hashPassword cost password salt, salt⟩

/-! ## Places in a text -/

/-- The text behind its first bytes, if a character ends there. -/
def dropBytes? : Nat → List Char → Option (List Char)
  | 0, s => some s
  | _ + 1, [] => none
  | n + 1, c :: s => if c.utf8Size ≤ n + 1 then dropBytes? (n + 1 - c.utf8Size) s else none
termination_by _ s => s.length

/-- The first bytes of a text, if a character ends there. -/
def takeBytes? (n : Nat) (s : List Char) : Option (List Char) :=
  (dropBytes? n s).map fun rest => s.take (s.length - rest.length)

/-! ## Checking -/

/-- Whether two byte sequences are the same, told by a difference that is gathered over all of them. -/
def sameBytes (left right : List UInt8) : Bool :=
  left.length == right.length &&
    (left.zip right).foldl (fun difference (l, r) => difference ||| (l ^^^ r)) (0 : UInt8) == 0

/-- The cost that a stored hash names in its fifth and sixth byte. -/
def storedCost? (hash : List Char) : Option Nat := do
  readUnsigned? maxWord32 (← takeBytes? 2 (← dropBytes? 4 hash))

def hasVersion (hash : List Char) : Bool := hash.take 2 == ['$', '2']

/-- What a stored hash has behind its cost. -/
def storedTail? (hash : List Char) : Option (List Char) := dropBytes? 7 hash

def checkPassword (password hash salt : String) : Except PasswordFault Bool := do
  let raw ← rawSalt salt
  -- A longer password was never sealed, so it does not fit; that is no fault of the hash.
  if maxPasswordBytes < password.utf8ByteSize then return false
  let hash := hash.toList
  match storedCost? hash, hasVersion hash, storedTail? hash with
  | some cost, true, some stored =>
    if isCost cost then
      let computed := Bcrypt.hashText cost (bytesOf password) raw
      return sameBytes (utf8Bytes ((storedTail? computed).getD [])) (utf8Bytes stored)
    else throw (.checkingCost cost)
  | _, _, _ => throw .notAHash

/-! ## The sealer -/

structure Sealer where
  cost : Nat
deriving DecidableEq, Repr

def defaultCost : Nat := 12

/-- A sealer as diagnostics show it. -/
def Sealer.describe (s : Sealer) : String :=
  "PasswordManager \x7b cost: " ++ toString s.cost ++ " \x7d"

end PlayerAccounts.Account
