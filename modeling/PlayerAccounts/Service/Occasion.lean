import PlayerAccounts.Account.Draw
import PlayerAccounts.Time.Instant
/-!
# Occasions

What chance and the clock contribute to one request. A request reads the clock at most twice and draws
each kind of text at most once.
-/
namespace PlayerAccounts.Service
set_option autoImplicit false

open PlayerAccounts.Account
open PlayerAccounts.Time (Instant)

/-- The readings of the clock and the drawn texts of one request. -/
structure Occasion where
  /-- The first reading of the clock. -/
  first : Instant
  /-- The second reading of the clock. -/
  second : Instant
  userId : String
  token : String
  salt : String
deriving DecidableEq, Repr, Inhabited

namespace Occasion

/-- The occasion of a request that draws these numbers. -/
def drawn (first second : Instant) (userId token salt : Nat) : Occasion :=
  ⟨first, second, drawnUserId userId, drawnToken token, drawnSalt salt⟩

/-- The occasion from its second reading of the clock on. -/
def later (o : Occasion) : Occasion := { o with first := o.second }

end Occasion
end PlayerAccounts.Service
