import PlayerAccounts.Bcrypt.Blowfish
import PlayerAccounts.Text.Utf8
/-!
# The text of a bcrypt hash

A hash is written as its version, the cost in two digits, and salt and digest in an alphabet of 64
characters, six bits a character. The key is the password with a closing zero byte, cut to 72 bytes and
repeated up to 72 bytes.
-/
namespace PlayerAccounts.Bcrypt
set_option autoImplicit false

open PlayerAccounts.Text

/-! ## Six bits a character -/

def alphabet : List Char :=
  "./ABCDEFGHIJKLMNOPQRSTUVWXYZabcdefghijklmnopqrstuvwxyz0123456789".toList

/-- The character for six bits. -/
def digit64 (n : Nat) : Char := alphabet.getD (n % 64) '.'

/-- Bytes in the alphabet, three of them in four characters; what is left over ends in zero bits. -/
def encode64 : List UInt8 → List Char
  | a :: b :: c :: rest =>
    let n := (a.toNat * 256 + b.toNat) * 256 + c.toNat
    digit64 (n / 262144) :: digit64 (n / 4096) :: digit64 (n / 64) :: digit64 n :: encode64 rest
  | [a, b] =>
    let n := (a.toNat * 256 + b.toNat) * 4
    [digit64 (n / 4096), digit64 (n / 64), digit64 n]
  | [a] =>
    let n := a.toNat * 16
    [digit64 (n / 64), digit64 n]
  | [] => []

/-! ## Keys -/

def keyBytes : Nat := 72

/-- The first `count` bytes of a sequence that is repeated without end. -/
def cyclic (count : Nat) (bytes : List UInt8) : List UInt8 :=
  (List.range count).map fun i => bytes.getD (i % bytes.length) 0

/-- The key of a password: its bytes and a zero byte, cut. -/
def key (password : List UInt8) : List UInt8 := (password ++ [0]).take keyBytes

/-- The key as the schedule takes it. -/
def keyStream (password : List UInt8) : List UInt8 := cyclic keyBytes (key password)

/-! ## Hashes -/

def keptBytes : Nat := 23

/-- Salt and digest in the alphabet. -/
def tail (cost : Nat) (password salt : List UInt8) : List Char :=
  encode64 salt ++ encode64 ((digest cost salt (keyStream password)).take keptBytes)

/-- A cost in two digits. -/
def costText (cost : Nat) : List Char :=
  [Char.ofNat (48 + cost / 10 % 10), Char.ofNat (48 + cost % 10)]

def hashText (cost : Nat) (password salt : List UInt8) : List Char :=
  '$' :: '2' :: 'b' :: '$' :: costText cost ++ '$' :: tail cost password salt

def minCost : Nat := 4

def maxCost : Nat := 31

end PlayerAccounts.Bcrypt
