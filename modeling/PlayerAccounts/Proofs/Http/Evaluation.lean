import PlayerAccounts.Http.Router
import PlayerAccounts.Proofs.Service.AccountOutcomes
/-!
# Requests on the store in memory

What serving a request comes to on that store, step by step: the endpoint that it hits, the session that
it shows, the document that it brings along, and the response that an action ends in.
-/
namespace PlayerAccounts.Http
set_option autoImplicit false

open PlayerAccounts.Account
open PlayerAccounts.Json
open PlayerAccounts.Service
open PlayerAccounts.Service.Action
open PlayerAccounts.Store

variable {α : Type} {t t' : Tables}

/-! ## Serving -/

/-- The request is for this endpoint, with one of its methods. -/
structure Hits (r : Request) (endpoint : Endpoint) : Prop where
  path : Endpoint.ofPath? r.path = some endpoint
  method : r.method ∈ endpoint.methods

theorem Hits.unique {r : Request} {endpoint other : Endpoint} (hr : Hits r endpoint) (ho : Hits r other) :
    endpoint = other := Option.some.inj (hr.path.symm.trans ho.path)

section Serve
variable (sealer : Sealer) (o : Occasion) (r : Request) (t : Tables)

/-- The response to a request on the store in memory, and the tables after it. -/
def served : Response × Tables :=
  ((serve Tables.backend sealer o r t).response, (serve Tables.backend sealer o r t).state)

theorem served_eq : served sealer o r t = (handle sealer o r).eval t := by
  have hrun := Program.run_backend (handle sealer o r) t
  unfold served serve
  simp only [hrun.1, hrun.2]

variable {r}

theorem served_of_hit {endpoint : Endpoint} (hr : Hits r endpoint) :
    served sealer o r t =
      (trimmed r ((dispatch sealer o r endpoint).eval t).1, ((dispatch sealer o r endpoint).eval t).2) := by
  rw [served_eq, handle, hr.path]
  change Program.eval (if _ then _ else _) t = _
  rw [if_pos hr.method, Program.eval_bind]
  rfl

theorem served_of_wrongMethod {endpoint : Endpoint} (hp : Endpoint.ofPath? r.path = some endpoint)
    (hm : r.method ∉ endpoint.methods) : served sealer o r t = (Response.wrongMethod endpoint.allow, t) := by
  rw [served_eq, handle, hp]
  change Program.eval (if _ then _ else _) t = _
  rw [if_neg hm]
  rfl

end Serve

/-! ## Runs of requests -/

section Run
variable (sealer : Sealer)

/-- The tables after requests that arrive one after the other, each on its occasion. -/
def afterRequests : Tables → List (Occasion × Request) → Tables :=
  List.foldl fun t (o, r) => (serve Tables.backend sealer o r t).state

theorem sound_serve (h : t.Sound) (o : Occasion) (r : Request) :
    (serve Tables.backend sealer o r t).state.Sound := by
  have hs : (serve Tables.backend sealer o r t).state = ((handle sealer o r).eval t).2 :=
    congrArg Prod.snd (served_eq sealer o r t)
  rw [hs]
  exact Program.sound_eval (handle sealer o r) h

theorem sound_afterRequests (h : t.Sound) (run : List (Occasion × Request)) :
    (afterRequests sealer t run).Sound := by
  induction run generalizing t with
  | nil => exact h
  | cons first run ih => exact ih (sound_serve sealer h first.1 first.2)

end Run

/-! ## Responses -/

theorem status_trimmed (r : Request) (response : Response) :
    (trimmed r response).status = response.status := by
  unfold trimmed
  split <;> rfl

/-- A response without a body is sent as it is. -/
theorem trimmed_of_bodyless (r : Request) {response : Response} (hb : response.body = "") :
    trimmed r response = response := by
  unfold trimmed
  split
  · rw [Response.withoutBody, ← hb]
  · rfl

theorem trimmed_of_ne_head {r : Request} (hm : r.method ≠ .head) (response : Response) :
    trimmed r response = response := if_neg hm

theorem eval_refuse (e : ServiceError) (t : Tables) : (refuse e).eval t = (Response.ofError e, t) := by
  unfold refuse
  cases e.event? with
  | none => rfl
  | some event => rfl

theorem eval_respond_ok {a : Action Response} {response : Response} (h : a.eval t = (.ok response, t')) :
    (respond a).eval t = (response, t') := by
  have h' : Program.eval a.run t = (.ok response, t') := h
  rw [respond, Program.eval_bind, h']
  rfl

theorem eval_respond_error {a : Action Response} {e : ServiceError} (h : a.eval t = (.error e, t')) :
    (respond a).eval t = (Response.ofError e, t') := by
  have h' : Program.eval a.run t = (.error e, t') := h
  rw [respond, Program.eval_bind, h']
  exact eval_refuse e t'

theorem eval_respond_congr {a b : Action Response} (h : a.eval t = b.eval t') :
    (respond a).eval t = (respond b).eval t' := by
  have h' : Program.eval a.run t = Program.eval b.run t' := h
  rw [respond, respond, Program.eval_bind, Program.eval_bind, h']

/-! ## What a request brings along -/

theorem ok_of_toOption {ε : Type} {result : Except ε α} {a : α} (h : result.toOption = some a) :
    result = .ok a := by
  cases result with
  | error e => cases h
  | ok found => exact congrArg Except.ok (Option.some.inj h)

theorem eval_bodyOf_ok {r : Request} {codec : Codec α} {doc : α} (hd : r.document codec = .ok doc)
    (t : Tables) : (bodyOf r codec).eval t = (.ok doc, t) := by
  rw [bodyOf, hd]
  rfl

theorem eval_bodyOf_error {r : Request} {codec : Codec α} {fault : BodyFault}
    (hd : r.document codec = .error fault) (t : Tables) :
    (bodyOf r codec).eval t = (.error fault.error, t) := by
  rw [bodyOf, hd]
  rfl

theorem eval_owning_self (id action : String) (t : Tables) : (owning id id action).eval t = (.ok (), t) := by
  rw [owning, ensureOwner, if_pos rfl]
  rfl

theorem eval_owning_other {user id : String} (hid : user ≠ id) (action : String) (t : Tables) :
    (owning user id action).eval t =
      (.error (.unauthorized ("You can only " ++ action ++ " your own account")), t) := by
  rw [owning, ensureOwner, if_neg hid]
  rfl

/-! ## Sessions -/

/-- The request shows the token of this row, which lets in the user with this id. -/
def Bears (t : Tables) (r : Request) (id : String) (row : SessionToken) : Prop :=
  ∃ token, r.bearer = .ok token ∧ Opens t token id row

theorem Bears.used_sound {r : Request} {id : String} {row : SessionToken} (hb : Bears t r id row)
    (h : t.Sound) (now : Time.Instant) : (t.putToken (row.used now)).Sound := by
  obtain ⟨token, -, ho⟩ := hb
  exact h.putUsed ho.found now

/-- Who shows no session token at all is told so. -/
theorem bearer_error {r : Request} {e : ServiceError} (hb : r.bearer = .error e) :
    e = .invalidTokenFormat := by
  unfold Request.bearer at hb
  split at hb <;> cases hb
  rfl

theorem eval_sessionUser {o : Occasion} {r : Request} {token : String} (hb : r.bearer = .ok token)
    (t : Tables) : (sessionUser o r).eval t = (validateToken o.first token).eval t := by
  rw [sessionUser, hb]

/-! ## Endpoints with a session -/

/-- What a request does for the user of its session, where its endpoint needs one. -/
def forUser? (sealer : Sealer) (o : Occasion) (r : Request) : Endpoint → Option (String → Action Response)
  | .logout => some fun user => do
    logout user
    return Response.noContent
  | .me => some fun user => do return Response.ok (Api.user.encode (← getUser user))
  | .account segment => (decodedId? segment).map fun id user =>
    match r.method with
    | .patch => do
      owning user id "update"
      return Response.ok (Api.user.encode (← updateProfile id (← bodyOf r Api.profileEdit)))
    | .delete => do
      owning user id "delete"
      deleteUser id
      return Response.noContent
    | _ => do return Response.ok (Api.user.encode (← getUser id))
  | .password segment => (decodedId? segment).map fun id user => do
    owning user id "change the password of"
    changePassword sealer o id (← bodyOf r Api.passwordChange)
    return passwordChanged
  | _ => none

section Session
variable {sealer : Sealer} {o : Occasion} {r : Request} {endpoint : Endpoint}
  {action : String → Action Response}

theorem dispatch_of_session (ha : forUser? sealer o r endpoint = some action) :
    dispatch sealer o r endpoint = respond (sessionUser o r >>= action) := by
  cases endpoint with
  | logout =>
    cases ha
    rfl
  | me =>
    cases ha
    rfl
  | account segment =>
    obtain ⟨id, hid, rfl⟩ := Option.map_eq_some_iff.mp ha
    rw [dispatch, withId, hid]
    cases r.method <;> rfl
  | password segment =>
    obtain ⟨id, hid, rfl⟩ := Option.map_eq_some_iff.mp ha
    rw [dispatch, withId, hid]
    rfl
  | _ => cases ha

theorem served_in_session (h : t.Sound) (hr : Hits r endpoint) (ha : forUser? sealer o r endpoint = some action)
    {id : String} {row : SessionToken} (hb : Bears t r id row) :
    served sealer o r t = (trimmed r ((respond (action id)).eval (t.putToken (row.used o.first))).1,
      ((respond (action id)).eval (t.putToken (row.used o.first))).2) := by
  obtain ⟨token, hbearer, ho⟩ := hb
  have hsession : (sessionUser o r).eval t = (.ok id, t.putToken (row.used o.first)) := by
    rw [eval_sessionUser hbearer, validateToken_granted h o.first ho]
  have hshown : (sessionUser o r >>= action).eval t = (action id).eval (t.putToken (row.used o.first)) :=
    eval_bind_ok hsession
  rw [served_of_hit sealer o t hr, dispatch_of_session ha, eval_respond_congr hshown]

theorem served_without_session (hr : Hits r endpoint) (ha : forUser? sealer o r endpoint = some action)
    {e : ServiceError} (hsession : (sessionUser o r).eval t = (.error e, t)) :
    served sealer o r t = (trimmed r (Response.ofError e), t) := by
  have hrefused : (sessionUser o r >>= action).eval t = (.error e, t) := eval_bind_error hsession
  rw [served_of_hit sealer o t hr, dispatch_of_session ha, eval_respond_error hrefused]

end Session

end PlayerAccounts.Http
