import PlayerAccounts.Account.Rules
/-!
# Drawn identifiers and secrets

User ids, session tokens and salts are writings of drawn numbers: different numbers below the count of
possible texts have different texts, so a uniform number gives a uniform text.
-/
namespace PlayerAccounts.Account
set_option autoImplicit false

/-! ## Digits -/

/-- The lowest digits of a number over an alphabet, lowest first. -/
def lowDigits (alphabet : List Char) : Nat → Nat → List Char
  | 0, _ => []
  | count + 1, n =>
    alphabet.getD (n % alphabet.length) '0' :: lowDigits alphabet count (n / alphabet.length)

def alphanumerics : List Char :=
  "0123456789ABCDEFGHIJKLMNOPQRSTUVWXYZabcdefghijklmnopqrstuvwxyz".toList

def hexadecimals : List Char := "0123456789abcdef".toList

/-! ## Tokens and salts -/

def tokenLength : Nat := 64

def drawnToken (n : Nat) : String := String.ofList (lowDigits alphanumerics tokenLength n)

def isToken (s : String) : Bool := s.length == tokenLength && s.toList.all isAlphanumeric

def drawnSalt (n : Nat) : String := String.ofList (lowDigits alphanumerics saltBytes n)

def isSalt (s : String) : Bool := s.length == saltBytes && s.toList.all isAlphanumeric

/-! ## User ids -/

/-- The four digits that may stand for the variant of a random identifier. -/
def variantDigits : List Char := ['8', '9', 'a', 'b']

/-- The user id of a drawn number: a random identifier of version 4, without hyphens. Of its 32
digits the thirteenth is the version and the seventeenth the variant. -/
def drawnUserId (n : Nat) : String :=
  String.ofList <|
    lowDigits hexadecimals 12 n ++ '4' :: lowDigits hexadecimals 3 (n / Nat.pow 16 12) ++
      lowDigits variantDigits 1 (n / Nat.pow 16 15) ++ lowDigits hexadecimals 15 (n / Nat.pow 16 15 / 4)

/-- A hexadecimal digit in lower case. -/
def isHexadecimal (c : Char) : Bool := ('0' ≤ c && c ≤ '9') || ('a' ≤ c && c ≤ 'f')

def isUserId (s : String) : Bool :=
  s.length == 32 && s.toList.all isHexadecimal && s.toList[12]? == some '4' &&
    s.toList[16]?.any variantDigits.contains

end PlayerAccounts.Account
