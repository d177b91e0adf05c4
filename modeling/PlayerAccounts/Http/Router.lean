import PlayerAccounts.Http.Endpoint
import PlayerAccounts.Http.Input
import PlayerAccounts.Http.Response
import PlayerAccounts.Service.Accounts
/-!
# Serving requests

From a request to a response, as a program over the store. What is wrong with a request is told in a
fixed order: path, method, the id in the path or the query, session, ownership, body, and then what the
service makes of it.
-/
namespace PlayerAccounts.Http
set_option autoImplicit false

open PlayerAccounts.Account
open PlayerAccounts.Json
open PlayerAccounts.Service
open PlayerAccounts.Store

/-! ## Refusals -/

/-- The response to a refused request; a failure within the service is noted. -/
def refuse (e : ServiceError) : Program Response :=
  match e.event? with
  | some event => .note event (.done (Response.ofError e))
  | none => .done (Response.ofError e)

def respond (action : Action Response) : Program Response := do
  match ← action.run with
  | .ok response => return response
  | .error e => refuse e

/-! ## Steps of actions -/

/-- The user whose session the request belongs to. -/
def sessionUser (o : Occasion) (r : Request) : Action String := do
  match r.bearer with
  | .ok token => validateToken o.first token
  | .error e => throw e

def bodyOf {α : Type} (r : Request) (codec : Codec α) : Action α :=
  match r.document codec with
  | .ok a => pure a
  | .error f => throw f.error

/-- Goes on only for the owner of the account. -/
def owning (sessionUserId userId action : String) : Action Unit :=
  match ensureOwner sessionUserId userId action with
  | .ok () => pure ()
  | .error e => throw e

/-! ## Endpoints without a session -/

def health : Response := Response.ok (Document.object [("status", .text "ok")]).encode

def loginAvailable (r : Request) : Program Response :=
  match r.queriedLogin with
  | .error fault =>
    .done (Response.complaint ("Failed to deserialize query string: " ++ fault.message))
  | .ok login => respond do
    let available ← isLoginFree login
    return Response.ok (Api.availability.encode ⟨login, available⟩)

def registration (sealer : Sealer) (o : Occasion) (r : Request) : Action Response := do
  let session ← register sealer o (← bodyOf r Api.registration)
  return Response.created (Api.session.encode session)

def passwordLogin (o : Occasion) (r : Request) : Action Response := do
  let session ← loginWithPassword o (← bodyOf r Api.passwordLogin)
  return Response.ok (Api.session.encode session)

def tokenLogin (o : Occasion) (r : Request) : Action Response := do
  let session ← loginWithToken o (← bodyOf r Api.tokenLogin).token
  return Response.ok (Api.session.encode session)

/-! ## Endpoints with a session -/

def endSession (o : Occasion) (r : Request) : Action Response := do
  logout (← sessionUser o r)
  return Response.noContent

def ownAccount (o : Occasion) (r : Request) : Action Response := do
  let user ← getUser (← sessionUser o r)
  return Response.ok (Api.user.encode user)

def readAccount (o : Occasion) (r : Request) (id : String) : Action Response := do
  let _ ← sessionUser o r
  return Response.ok (Api.user.encode (← getUser id))

def editAccount (o : Occasion) (r : Request) (id : String) : Action Response := do
  owning (← sessionUser o r) id "update"
  let user ← updateProfile id (← bodyOf r Api.profileEdit)
  return Response.ok (Api.user.encode user)

def removeAccount (o : Occasion) (r : Request) (id : String) : Action Response := do
  owning (← sessionUser o r) id "delete"
  deleteUser id
  return Response.noContent

def passwordChanged : Response :=
  Response.ok (Document.object [("message", .text "Password changed successfully")]).encode

def editPassword (sealer : Sealer) (o : Occasion) (r : Request) (id : String) : Action Response := do
  owning (← sessionUser o r) id "change the password of"
  changePassword sealer o id (← bodyOf r Api.passwordChange)
  return passwordChanged

/-! ## Requests -/

/-- What needs the id in the path, once it is decoded. -/
def withId (segment : List Char) (action : String → Action Response) : Program Response :=
  match decodedId? segment with
  | some id => respond (action id)
  | none => .done (Response.complaint "Invalid URL: Invalid UTF-8 in `id`")

/-- The endpoint's answer to a request with one of its methods. -/
def dispatch (sealer : Sealer) (o : Occasion) (r : Request) : Endpoint → Program Response
  | .health => .done health
  | .loginAvailable => loginAvailable r
  | .register => respond (registration sealer o r)
  | .login => respond (passwordLogin o r)
  | .tokenLogin => respond (tokenLogin o r)
  | .logout => respond (endSession o r)
  | .me => respond (ownAccount o r)
  | .account id => withId id fun id =>
    match r.method with
    | .patch => editAccount o r id
    | .delete => removeAccount o r id
    | _ => readAccount o r id
  | .password id => withId id (editPassword sealer o r)

/-- The response without its body, if the request wants none. -/
def trimmed (r : Request) (response : Response) : Response :=
  if r.method = .head then response.withoutBody else response

def handle (sealer : Sealer) (o : Occasion) (r : Request) : Program Response :=
  match Endpoint.ofPath? r.path with
  | none => .done Response.unknownPath
  | some endpoint =>
    if r.method ∈ endpoint.methods then do
      let response ← dispatch sealer o r endpoint
      return trimmed r response
    else .done (Response.wrongMethod endpoint.allow)

/-! ## Serving -/

def crashed (crash : Crash) : ServiceError :=
  .internal ("Blocking task failed: task " ++ crash.task ++ " panicked with message " ++
    Text.quote crash.message)

structure Served (σ : Type) where
  response : Response
  state : σ
  events : List Event

/-- Serves a request on a backend. A task that breaks down is a failure within the service. -/
def serve {σ : Type} (b : Backend σ) (sealer : Sealer) (o : Occasion) (r : Request) (state : σ) :
    Served σ :=
  let outcome := (handle sealer o r).run b state
  match outcome.result with
  | .ok response => ⟨response, outcome.state, outcome.events⟩
  | .error crash =>
    let e := crashed crash
    ⟨trimmed r (Response.ofError e), outcome.state, outcome.events ++ e.event?.toList⟩

end PlayerAccounts.Http
