import PlayerAccounts.Account.Password
import PlayerAccounts.Text.Blank
/-!
# Rules for logins, passwords and emails

What a new login, password or email has to look like. The first rule that is broken is the answer.
-/
namespace PlayerAccounts.Account
set_option autoImplicit false

open PlayerAccounts.Text

/-! ## Broken rules -/

def maxLoginBytes : Nat := 32

def minPasswordLength : Nat := 5

def maxPasswordLength : Nat := 100

def maxEmailBytes : Nat := 255

inductive BrokenRule where
  | loginLength
  | loginCharacters
  | passwordLength
  | passwordBytes
  | emailForm
deriving DecidableEq, Repr

def BrokenRule.message : BrokenRule → String
  | loginLength => "Login must be 1 to " ++ toString maxLoginBytes ++ " characters"
  | loginCharacters => "Login may only contain letters, digits, '_', '.' and '-'"
  | passwordLength =>
    "Password must be " ++ toString minPasswordLength ++ " to " ++ toString maxPasswordLength ++
      " characters"
  | passwordBytes => "Password must not exceed " ++ toString maxPasswordBytes ++ " bytes"
  | emailForm => "Invalid email format"

/-! ## Logins -/

/-- A letter or digit of ASCII. -/
def isAlphanumeric (c : Char) : Bool :=
  ('a' ≤ c && c ≤ 'z') || ('A' ≤ c && c ≤ 'Z') || ('0' ≤ c && c ≤ '9')

def isLoginCharacter (c : Char) : Bool := isAlphanumeric c || c == '_' || c == '.' || c == '-'

def brokenByLogin? (login : String) : Option BrokenRule :=
  if login.utf8ByteSize = 0 ∨ maxLoginBytes < login.utf8ByteSize then some .loginLength
  else if login.toList.all isLoginCharacter then none
  else some .loginCharacters

/-! ## Passwords -/

/-- The rule that a new password breaks, if any. It is counted in characters, but what is sealed is
limited in bytes. -/
def brokenByPassword? (password : String) : Option BrokenRule :=
  if password.length < minPasswordLength ∨ maxPasswordLength < password.length then some .passwordLength
  else if maxPasswordBytes < password.utf8ByteSize then some .passwordBytes
  else none

/-! ## Emails -/

/-- Whether a text has something in front of its first at sign and a point behind it. -/
def hasDomain (s : List Char) : Bool :=
  match s.dropWhile (· != '@') with
  | [] => false
  | _ :: domain => !(s.takeWhile (· != '@')).isEmpty && domain.contains '.'

def brokenByEmail? (email : String) : Option BrokenRule :=
  if email.utf8ByteSize ≤ maxEmailBytes ∧ !email.toList.any isBlank ∧ hasDomain email.toList then none
  else some .emailForm

end PlayerAccounts.Account
