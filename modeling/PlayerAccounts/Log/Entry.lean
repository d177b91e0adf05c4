/-!
# Log entries

What the log keeps of something that happened: how urgent it is, what it is in words, and particulars.
-/
namespace PlayerAccounts.Log
set_option autoImplicit false

inductive Level where
  | debug | info | warning | error
deriving DecidableEq, Repr

def Level.name : Level → String
  | debug => "DEBUG"
  | info => "INFO"
  | warning => "WARN"
  | error => "ERROR"

structure Entry where
  level : Level
  message : String
  /-- Particulars, each with its name. -/
  fields : List (String × String)
deriving DecidableEq, Repr

end PlayerAccounts.Log
