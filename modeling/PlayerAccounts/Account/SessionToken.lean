import PlayerAccounts.Text.Quoted
import PlayerAccounts.Time.Rfc3339
/-!
# Session tokens

A user has at most one session token. It remembers when it was issued and when it was last used.
-/
namespace PlayerAccounts.Account
set_option autoImplicit false

open PlayerAccounts.Text (quote)
open PlayerAccounts.Time (Instant)

/-- A session that can be resumed with a token. -/
structure SessionToken where
  userId : String
  created : Instant
  lastUsed : Instant
  token : String
deriving DecidableEq, Repr

namespace SessionToken

def issued (userId token : String) (now : Instant) : SessionToken := ⟨userId, now, now, token⟩

/-- The time of the last use after a use at `now`: never earlier than before, nor than the issue. -/
def lastUsedAfter (t : SessionToken) (now : Instant) : Instant := max (max now t.lastUsed) t.created

def used (t : SessionToken) (now : Instant) : SessionToken := { t with lastUsed := t.lastUsedAfter now }

/-- A token as diagnostics show it: without its secret. -/
def describe (t : SessionToken) : String :=
  "UserAuthenticationToken \x7b user_id: " ++ quote t.userId ++ ", timestamp_created: " ++
    t.created.text ++ ", timestamp_last_used: " ++ t.lastUsed.text ++ ", .. \x7d"

end SessionToken
end PlayerAccounts.Account
