/-!
# Bounded decimal numbers

A number as settings and stored texts write it: at least one decimal digit, at most one plus sign in
front, and no more than a given bound.
-/
namespace PlayerAccounts.Text
set_option autoImplicit false

def digitValue? (c : Char) : Option Nat :=
  if '0' ≤ c && c ≤ '9' then some (c.toNat - 48) else none

/-- The number that the digits spell, most significant first. -/
def ofDigits (digits : List Nat) : Nat := digits.foldl (fun n d => n * 10 + d) 0

def dropPlus : List Char → List Char
  | '+' :: rest => rest
  | s => s

/-- The number, if the text is one and it is at most `bound`. -/
def readUnsigned? (bound : Nat) (s : List Char) : Option Nat :=
  match (dropPlus s).mapM digitValue? with
  | some (d :: digits) =>
    let n := ofDigits (d :: digits)
    if n ≤ bound then some n else none
  | _ => none

def maxWord32 : Nat := 0xFFFFFFFF

def maxWord16 : Nat := 0xFFFF

end PlayerAccounts.Text
