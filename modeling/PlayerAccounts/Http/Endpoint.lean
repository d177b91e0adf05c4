import PlayerAccounts.Http.Request
/-!
# Endpoints

Which paths there are and which methods each of them has. The path is compared as it arrives; only a
user's id in it is decoded later.
-/
namespace PlayerAccounts.Http
set_option autoImplicit false

/-- What a path stands for; an id is as it stands in the path. -/
inductive Endpoint where
  | health
  | loginAvailable
  | register
  | login
  | tokenLogin
  | logout
  | me
  | account (id : List Char)
  | password (id : List Char)
deriving DecidableEq, Repr

namespace Endpoint

/-- The parts of a path between its slashes, from behind the first one. -/
def segments : List Char → List (List Char)
  | [] => [[]]
  | c :: rest =>
    if c == '/' then [] :: segments rest
    else match segments rest with
      | segment :: more => (c :: segment) :: more
      | [] => [[c]]

/-- The endpoint that the parts of a path name. An id at the end of a path is never empty; one that has
something behind it may be. -/
def ofSegments? : List String → Option Endpoint
  | ["health"] => some health
  | ["auth", "login-available"] => some loginAvailable
  | ["auth", "register"] => some register
  | ["auth", "login"] => some login
  | ["auth", "token"] => some tokenLogin
  | ["auth", "logout"] => some logout
  | ["users", id] => if id = "" then none else if id = "me" then some me else some (account id.toList)
  | ["users", id, "change-password"] => some (password id.toList)
  | _ => none

def ofPath? : List Char → Option Endpoint
  | '/' :: path => ofSegments? ((segments path).map String.ofList)
  | _ => none

def methods : Endpoint → List Method
  | health | loginAvailable | me => [.get, .head]
  | register | login | tokenLogin | logout | password _ => [.post]
  | account _ => [.get, .head, .patch, .delete]

/-- The methods of an endpoint as one header has them. -/
def allow (e : Endpoint) : String := String.intercalate "," (e.methods.map Method.name)

end Endpoint
end PlayerAccounts.Http
