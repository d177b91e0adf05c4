import PlayerAccounts.Proofs.Http.Evaluation
import PlayerAccounts.Http.Router
import PlayerAccounts.Proofs.Service.Wording
/-!
# Responses and the wording of refusals

A database words its refusals as it likes, and these texts are for the log. Two scripts of replies that
differ in them only lead to responses that differ at most in the message of the body, and not at all where
no refusal is told.

A refusal is told where it is for a key or a reference and the store does not say in its own words what is
taken or missing. This is so in particular for a session token that another user has.
-/
namespace PlayerAccounts.Http
set_option autoImplicit false

open PlayerAccounts.Account
open PlayerAccounts.Json
open PlayerAccounts.Service
open PlayerAccounts.Service.Action
open PlayerAccounts.Sql

variable {α : Type} {told : Prop}

/-! ## Responses that are alike -/

/-- The same response, unless something was `told`; even then the body is all that differs. -/
structure AlikeResponses (told : Prop) (response response' : Response) : Prop where
  head : response'.withoutBody = response.withoutBody
  body : ¬ told → response' = response

theorem AlikeResponses.refl (response : Response) : AlikeResponses told response response :=
  ⟨rfl, fun _ => rfl⟩

theorem withoutBody_ofError (e : ServiceError) :
    (Response.ofError e).withoutBody = Response.document e.status "" := rfl

theorem alike_ofError {e e' : ServiceError} (h : AlikeRefusals told e e') :
    AlikeResponses told (Response.ofError e) (Response.ofError e') := by
  have hstatus : e'.status = e.status := by cases h <;> rfl
  constructor
  · rw [withoutBody_ofError, withoutBody_ofError, hstatus]
  · intro hno
    cases h with
    | same e => rfl
    | storeFailed detail detail' => rfl
    | duplicate what what' htold => exact absurd htold hno
    | unknownUser what what' htold => exact absurd htold hno

theorem AlikeResponses.trimmed {response response' : Response} (h : AlikeResponses told response response')
    (r : Request) : AlikeResponses told (trimmed r response) (trimmed r response') := by
  unfold Http.trimmed
  split
  · exact ⟨congrArg Response.withoutBody h.head, fun _ => h.head⟩
  · exact h

/-! ## Requests in step -/

/-- A program that goes on in the same way whatever texts the database uses, up to a response that is
alike. -/
def RespondsAlike (told : Prop) (p : Program Response) : Prop :=
  Program.InStep told (AlikeResponses told) p p

theorem respondsAlike_done (response : Response) : RespondsAlike told (.done response) :=
  .done (.refl response)

theorem inStep_refuse {e e' : ServiceError} (h : AlikeRefusals told e e') :
    Program.InStep told (AlikeResponses told) (refuse e) (refuse e') := by
  have hended : Program.InStep told (AlikeResponses told) (.done (Response.ofError e))
      (.done (Response.ofError e')) := .done (alike_ofError h)
  cases h with
  | same e =>
    unfold refuse
    cases e.event? with
    | none => exact hended
    | some event => exact .note hended
  | storeFailed detail detail' => exact .note hended
  | duplicate what what' htold => exact hended
  | unknownUser what what' htold => exact hended

theorem respondsAlike_respond {a : Action Response} (h : Action.InStep told a a) :
    RespondsAlike told (respond a) := by
  refine Program.InStep.bind h fun result result' hresult => ?_
  cases hresult with
  | ok response => exact respondsAlike_done response
  | error he => exact inStep_refuse he

section Steps
variable (sealer : Sealer) (o : Occasion) (r : Request)

theorem inStep_bodyOf (codec : Codec α) : InStep told (bodyOf r codec) (bodyOf r codec) := by
  unfold bodyOf
  cases r.document codec with
  | ok doc => exact inStep_pure doc
  | error fault => exact inStep_throw (.same _)

theorem inStep_owning (user id action : String) :
    InStep told (owning user id action) (owning user id action) := by
  unfold owning
  cases ensureOwner user id action with
  | ok _ => exact inStep_pure ()
  | error e => exact inStep_throw (.same _)

theorem inStep_sessionUser : InStep told (sessionUser o r) (sessionUser o r) := by
  unfold sessionUser
  cases r.bearer with
  | ok token => exact inStep_validateToken o.first token
  | error e => exact inStep_throw (.same _)

theorem respondsAlike_withId {segment : List Char} {action : String → Action Response}
    (h : ∀ id, Action.InStep told (action id) (action id)) :
    RespondsAlike told (withId segment action) := by
  unfold withId
  cases decodedId? segment with
  | none => exact respondsAlike_done _
  | some id => exact respondsAlike_respond (h id)

theorem respondsAlike_dispatch (endpoint : Endpoint) :
    RespondsAlike told (dispatch sealer o r endpoint) := by
  cases endpoint with
  | health => exact respondsAlike_done _
  | loginAvailable =>
    change RespondsAlike told (loginAvailable r)
    unfold loginAvailable
    cases r.queriedLogin with
    | error fault => exact respondsAlike_done _
    | ok login =>
      exact respondsAlike_respond ((inStep_isLoginFree login).bind fun available => inStep_pure _)
  | register =>
    refine respondsAlike_respond ((inStep_bodyOf r _).bind fun doc => ?_)
    exact (inStep_register sealer o doc).bind fun session => inStep_pure _
  | login =>
    refine respondsAlike_respond ((inStep_bodyOf r _).bind fun doc => ?_)
    exact (inStep_loginWithPassword o doc).bind fun session => inStep_pure _
  | tokenLogin =>
    refine respondsAlike_respond ((inStep_bodyOf r _).bind fun doc => ?_)
    exact (inStep_loginWithToken o doc.token).bind fun session => inStep_pure _
  | logout =>
    refine respondsAlike_respond ((inStep_sessionUser o r).bind fun user => ?_)
    exact (inStep_demand _).bind fun _ => inStep_pure _
  | me =>
    refine respondsAlike_respond ((inStep_sessionUser o r).bind fun user => ?_)
    exact (inStep_demand _).bind fun found => inStep_pure _
  | account segment =>
    refine respondsAlike_withId fun id => ?_
    have hedit : InStep told (editAccount o r id) (editAccount o r id) := by
      refine (inStep_sessionUser o r).bind fun user => (inStep_owning user id _).bind fun _ => ?_
      exact (inStep_bodyOf r _).bind fun doc =>
        (inStep_updateUser id doc.update).bind fun found => inStep_pure _
    have hremove : InStep told (removeAccount o r id) (removeAccount o r id) := by
      refine (inStep_sessionUser o r).bind fun user => (inStep_owning user id _).bind fun _ => ?_
      exact (inStep_demand _).bind fun _ => inStep_pure _
    have hread : InStep told (readAccount o r id) (readAccount o r id) :=
      (inStep_sessionUser o r).bind fun user => (inStep_demand _).bind fun found => inStep_pure _
    cases r.method with
    | patch => exact hedit
    | delete => exact hremove
    | _ => exact hread
  | password segment =>
    refine respondsAlike_withId fun id => ?_
    refine (inStep_sessionUser o r).bind fun user => (inStep_owning user id _).bind fun _ => ?_
    refine (inStep_bodyOf r _).bind fun doc => ?_
    exact (inStep_changePassword sealer o id doc).bind fun _ => inStep_pure _

theorem respondsAlike_handle : RespondsAlike told (handle sealer o r) := by
  unfold handle
  cases Endpoint.ofPath? r.path with
  | none => exact respondsAlike_done _
  | some endpoint =>
    change RespondsAlike told (if _ then _ else _)
    split
    · exact Program.InStep.bind (respondsAlike_dispatch sealer o r endpoint) fun _ _ h =>
        .done (h.trimmed r)
    · exact respondsAlike_done _

end Steps

/-! ## The result -/

theorem serve_of_ok {σ : Type} {b : Store.Backend σ} {sealer : Sealer} {o : Occasion} {r : Request}
    {state : σ} {response : Response} (h : ((handle sealer o r).run b state).result = .ok response) :
    (serve b sealer o r state).response = response ∧
      (serve b sealer o r state).state = ((handle sealer o r).run b state).state := by
  unfold serve
  simp only [h, and_self]

/-- Over scripts that differ only in the texts of refusals, the same statements are sent and the responses
differ at most in their bodies. They are the same if no refusal of the run is told. -/
theorem texts_not_told (pool : Pool) (sealer : Sealer) (o : Occasion) (r : Request) {s s' : Script}
    (hsame : s.silenced = s'.silenced) :
    let result := serve (pool.backend Script.connection) sealer o r s
    let result' := serve (pool.backend Script.connection) sealer o r s'
    result'.response.withoutBody = result.response.withoutBody ∧
      result'.state.silenced = result.state.silenced ∧
      ((pool.exchanges Script.connection (handle sealer o r) s).any Exchange.isTold = false →
        result'.response = result.response) := by
  intro result result'
  have halike : RespondsAlike
      (∃ e ∈ pool.exchanges Script.connection (handle sealer o r) s, e.isTold = true)
      (handle sealer o r) := respondsAlike_handle sealer o r
  obtain ⟨⟨response, response', hr, hr', hresponses⟩, hstate⟩ :=
    halike.run pool hsame fun e he htold => ⟨e, he, htold⟩
  obtain ⟨hresponse, hafter⟩ := serve_of_ok hr
  obtain ⟨hresponse', hafter'⟩ := serve_of_ok hr'
  refine ⟨?_, ?_, ?_⟩
  · rw [hresponse, hresponse']
    exact hresponses.head
  · rw [hafter, hafter']
    exact hstate.symm
  · intro hnone
    rw [hresponse, hresponse']
    refine hresponses.body ?_
    rintro ⟨e, he, htold⟩
    exact absurd htold (List.any_eq_false.mp hnone e he)

/-- A session token is looked up while the database is shutting down. Where that is said, and how, is not
told. -/
theorem shutdown_not_told :
    let s := fun text text' : String =>
      (⟨[.error ⟨.unknown, text⟩], [(.rollback, ⟨.closed, text'⟩)], []⟩ : Script)
    let r : Request := ⟨.get, "/users/me", [("authorization", Text.utf8Bytes "Bearer A".toList)], []⟩
    let result := fun text text' =>
      serve (Pool.backend ⟨5, true⟩ Script.connection) ⟨4⟩ default r (s text text')
    ((s "shutting down" "closed").silenced = (s "FATAL: 10.0.0.7" "gone").silenced ∧
      (Pool.exchanges ⟨5, true⟩ Script.connection (handle ⟨4⟩ default r)
        (s "shutting down" "closed")).any Exchange.isTold = false) ∧
    (result "shutting down" "closed").response.status = 500 ∧
    (result "FATAL: 10.0.0.7" "gone").response = (result "shutting down" "closed").response := by
  intro s r result
  have hsame : (s "shutting down" "closed").silenced = (s "FATAL: 10.0.0.7" "gone").silenced := rfl
  have hnone : (Pool.exchanges ⟨5, true⟩ Script.connection (handle ⟨4⟩ default r)
      (s "shutting down" "closed")).any Exchange.isTold = false := by
    subst s r
    decide +kernel
  have hstatus : (result "shutting down" "closed").response.status = 500 := by
    subst result s r
    decide +kernel
  have hsilent := texts_not_told ⟨5, true⟩ ⟨4⟩ default r hsame
  exact ⟨⟨hsame, hnone⟩, hstatus, hsilent.2.2 hnone⟩

/-! ## A text that is told -/

/-- What is drawn for Ann, who registers. -/
def annsOccasion : Occasion :=
  { (default : Occasion) with userId := "ann", token := drawnToken 7, salt := drawnSalt 7 }

/-- Ann wants to stay logged in. -/
def annsRegistration : Api.Registration := ⟨"Ann", "correct horse", none, true⟩

def annsRequest : Request where
  method := .post
  target := "/auth/register"
  headers := [("content-type", Text.utf8Bytes "application/json".toList)]
  body := Text.utf8Bytes (Api.registration.encode annsRegistration).toList

/-- A database in which somebody has the token that is drawn for Ann. -/
def takenToken (text : String) : Script where
  replies :=
    [.ok (.rows []), .ok (.rows [userRow (User.fresh "ann" annsOccasion.first none)]),
      .ok (.rows [credentialRow ⟨"ann", "Ann", "hash", annsOccasion.salt⟩]), .error ⟨.unique, text⟩]
  refusals := []
  sent := []

theorem document_annsRequest : annsRequest.document Api.registration = .ok annsRegistration :=
  ok_of_toOption (by decide +kernel)

/-- Ann is told what the database says of the token, whatever that is. -/
theorem response_takenToken (text : String) :
    (serve (Pool.backend ⟨5, true⟩ Script.connection) ⟨4⟩ annsOccasion annsRequest
      (takenToken text)).response = Response.ofError (.duplicate text) := by
  have hpath : Endpoint.ofPath? annsRequest.path = some .register := by decide +kernel
  have hregister : dispatch ⟨4⟩ annsOccasion annsRequest .register =
      respond (register ⟨4⟩ annsOccasion annsRegistration >>= fun session =>
        pure (Response.created (Api.session.encode session))) := by
    change respond (bodyOf annsRequest _ >>= _) = _
    rw [bodyOf, document_annsRequest]
    rfl
  rw [serve, handle, hpath]
  dsimp only
  rw [hregister]
  rfl

/-- Two scripts that differ in one text, and two different responses. -/
theorem taken_token_told :
    (takenToken "Key (token) exists").silenced = (takenToken "duplicate value").silenced ∧
      (serve (Pool.backend ⟨5, true⟩ Script.connection) ⟨4⟩ annsOccasion annsRequest
        (takenToken "Key (token) exists")).response ≠
      (serve (Pool.backend ⟨5, true⟩ Script.connection) ⟨4⟩ annsOccasion annsRequest
        (takenToken "duplicate value")).response := by
  refine ⟨rfl, ?_⟩
  rw [response_takenToken, response_takenToken]
  decide +kernel

end PlayerAccounts.Http
