import PlayerAccounts.Log.Entry
import PlayerAccounts.Service.Error
/-!
# Events

What is noted in the log while requests are served.
-/
namespace PlayerAccounts.Service
set_option autoImplicit false

open PlayerAccounts.Account
open PlayerAccounts.Store

/-- Something worth noting. -/
inductive Event where
  /-- A stored credential cannot be checked against. -/
  | unusableCredential (userId : String) (fault : PasswordFault)
  /-- A user whose registration failed halfway could not be removed. -/
  | leftover (userId : String) (error : StoreError)
  /-- A request failed within the service. -/
  | failure (code detail : String)
deriving DecidableEq, Repr

def Event.entry : Event → Log.Entry
  | unusableCredential userId fault =>
    ⟨.warning, "Unusable credential row", [("user_id", userId), ("error", fault.message)]⟩
  | leftover userId error =>
    ⟨.warning, "Failed to remove half-registered user",
      [("user_id", userId), ("error", error.message)]⟩
  | failure code detail =>
    ⟨.error, "Internal server error",
      [("error_code", code), ("status", "500 Internal Server Error"), ("detail", detail)]⟩

/-- The event of telling a client about a refusal, if it is a failure within the service. -/
def ServiceError.event? (e : ServiceError) : Option Event := e.detail?.map (.failure e.code)

end PlayerAccounts.Service
