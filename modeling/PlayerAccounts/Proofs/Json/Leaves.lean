import PlayerAccounts.Json.Record
import PlayerAccounts.Proofs.Time.Rfc3339
/-!
# Written values are read back

What a codec writes for a value is read back as that value from the front of any source that goes on the
way documents do behind a value: with the end, with a comma or with the end of an object.
-/
namespace PlayerAccounts.Json
set_option autoImplicit false

open PlayerAccounts.Text
open PlayerAccounts.Time

/-! ## Reading back -/

section Codec
variable {α : Type}

end Codec

/-! ## Strings -/

section Nullable
variable {α : Type} {codec : Codec α}

end Nullable
end PlayerAccounts.Json
