import PlayerAccounts.Text.Quoted
/-!
# Credentials

The login of a user together with the hash of the password and the salt it was made with.
-/
namespace PlayerAccounts.Account
set_option autoImplicit false

open PlayerAccounts.Text (quote)

/-- A user's way to log in with a password. -/
structure Credential where
  userId : String
  login : String
  hash : String
  salt : String
deriving DecidableEq, Repr

/-- A credential as diagnostics show it: without hash and salt. -/
def Credential.describe (c : Credential) : String :=
  "UserAuthentication \x7b user_id: " ++ quote c.userId ++ ", login_user: " ++ quote c.login ++ ", .. \x7d"

/-- A password's hash together with its salt. -/
structure SealedPassword where
  hash : String
  salt : String
deriving DecidableEq, Repr

/-- A sealed password as diagnostics show it: without its content. -/
def SealedPassword.describe (_ : SealedPassword) : String := "SaltedHash(..)"

end PlayerAccounts.Account
