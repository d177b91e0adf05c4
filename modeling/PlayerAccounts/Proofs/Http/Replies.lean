import PlayerAccounts.Proofs.Http.Answers
import PlayerAccounts.Proofs.Service.OrderlyEnds
/-!
# Replies that are not failures

Where every user has a credential that can be checked against, and passwords are sealed at a possible cost
and with a salt as it is drawn, a request is granted or its reply tells what is wrong with the request. No
refusal is a failure within the service, and nothing is noted.
-/
namespace PlayerAccounts.Http
set_option autoImplicit false

open PlayerAccounts.Account
open PlayerAccounts.Json
open PlayerAccounts.Service
open PlayerAccounts.Service.Action
open PlayerAccounts.Store

variable {α : Type} {t t' : Tables} {o : Occasion} {r : Request} {e : ServiceError}

/-! ## Refusals -/

/-- The refusals that a request deserves or chance brings about. A user is missing only where an account
is looked at. -/
inductive Deserved (o : Occasion) (r : Request) (t : Tables) : ServiceError → Prop where
  | warranted {e : ServiceError} : Warranted o t e → Deserved o r t e
  | tokenFormat : Deserved o r t .invalidTokenFormat
  | body {α : Type} {codec : Codec α} {fault : BodyFault} :
    r.document codec = .error fault → Deserved o r t fault.error
  | notOwner {verb : String} : verb ∈ ownersActions →
    Deserved o r t (.unauthorized ("You can only " ++ verb ++ " your own account"))
  | noUser {segment : List Char} {id : String} : Hits r (.account segment) →
    r.method = .get ∨ r.method = .head → decodedId? segment = some id → id ∉ t.users →
    Deserved o r t (.notFound (userNamed id))

namespace Deserved

theorem status_lt (h : Deserved o r t e) : e.status < 500 := by
  cases h with
  | warranted hw => cases hw <;> exact Nat.le_of_ble_eq_true rfl
  | _ => exact Nat.le_of_ble_eq_true rfl

theorem event?_eq_none (h : Deserved o r t e) : e.event? = none := by
  cases h with
  | warranted hw => cases hw <;> rfl
  | _ => rfl

theorem of_used {id : String} {row : SessionToken} (hr : t.tokens[id]? = some row) {now : Time.Instant}
    (h : Deserved o r (t.putToken (row.used now)) e) : Deserved o r t e := by
  cases h with
  | warranted hw => exact .warranted (hw.of_used hr)
  | tokenFormat => exact .tokenFormat
  | body hd => exact .body hd
  | notOwner hverb => exact .notOwner hverb
  | noUser hhits hm hid hn => exact .noUser hhits hm hid hn

end Deserved

/-! ## Steps -/

def Response.IsGrant (response : Response) : Prop := response.status < 400

theorem isGrant_ok (text : String) : (Response.ok text).IsGrant := Nat.le_of_ble_eq_true rfl

theorem isGrant_created (text : String) : (Response.created text).IsGrant := Nat.le_of_ble_eq_true rfl

theorem isGrant_noContent : Response.noContent.IsGrant := Nat.le_of_ble_eq_true rfl

section Steps
variable {P : Response → Prop}

theorem ends_owning {user id verb : String} (hverb : verb ∈ ownersActions)
    {next : Unit → Action Response} (hnext : user = id → EndsWell (Deserved o r t) P (next ()) t) :
    EndsWell (Deserved o r t) P (owning user id verb >>= next) t := by
  have hquiet : Quiet (owning user id verb) t := by
    unfold owning
    split <;> rfl
  by_cases hown : user = id
  · subst hown
    exact .bind_ok hquiet (eval_owning_self user verb t) (hnext rfl)
  · exact .bind_error hquiet (eval_owning_other hown verb t) (.notOwner hverb)

theorem ends_sessionUser (h : t.Sound) : EndsWell (Deserved o r t) (fun _ => True) (sessionUser o r) t := by
  unfold sessionUser
  cases hb : r.bearer with
  | ok token => exact (ends_validateToken o h o.first token).weaken fun _ he => .warranted he
  | error e => exact .throw (bearer_error hb ▸ .tokenFormat) t

theorem ends_bodyOf (codec : Codec α) {next : α → Action Response}
    (hnext : ∀ doc, EndsWell (Deserved o r t) P (next doc) t) :
    EndsWell (Deserved o r t) P (bodyOf r codec >>= next) t := by
  unfold bodyOf
  cases hd : r.document codec with
  | ok doc => exact .bind_ok (quiet_pure doc t) (eval_pure doc t) (hnext doc)
  | error fault => exact .bind_error (quiet_throw _ t) (eval_throw _ t) (.body hd)

theorem ends_told {a : Action α} (ha : EndsWell (Warranted o t) (fun _ => True) a t) {tell : α → Response}
    (htell : ∀ x, P (tell x)) :
    EndsWell (Deserved o r t) P (a >>= fun x => (pure (tell x) : Action Response)) t :=
  (ha.weaken fun _ he => .warranted he).bind fun x t' _ => .pure (htell x) t'

end Steps

/-! ## Endpoints -/

section Endpoints
variable {sealer : Sealer} {user : String} {endpoint : Endpoint} {action : String → Action Response}

theorem ends_forUser (h : Tended t) (hcost : isCost sealer.cost = true) (hsalt : isSalt o.salt = true)
    (hr : Hits r endpoint) (ha : forUser? sealer o r endpoint = some action) (hm : user ∈ t.users) :
    EndsWell (Deserved o r t) Response.IsGrant (action user) t := by
  cases endpoint with
  | logout =>
    cases ha
    exact ends_told (ends_logout o user t) fun _ => isGrant_noContent
  | me =>
    cases ha
    exact ends_told (ends_getUser fun hn => absurd hm hn) fun _ => isGrant_ok _
  | account segment =>
    obtain ⟨id, hid, rfl⟩ := Option.map_eq_some_iff.mp ha
    have hread : r.method = .get ∨ r.method = .head →
        EndsWell (Deserved o r t) Response.IsGrant (getUser id >>= fun found =>
          (pure (Response.ok (Api.user.encode found)) : Action Response)) t := fun hlooks =>
      (ends_getUser fun hn => .noUser hr hlooks hid hn).bind fun _ t' _ => .pure (isGrant_ok _) t'
    cases hmethod : r.method with
    | patch =>
      refine ends_owning (by decide) fun hown => ends_bodyOf _ fun doc => ?_
      exact ends_told (ends_updateUser o h.toSound (hown ▸ hm) doc.update) fun _ => isGrant_ok _
    | delete =>
      refine ends_owning (by decide) fun hown => ?_
      exact ends_told (ends_deleteUser o (hown ▸ hm)) fun _ => isGrant_noContent
    | get => exact hread (.inl hmethod)
    | head => exact hread (.inr hmethod)
    | post => exact absurd hr.method (by simp [Endpoint.methods, hmethod])
    | other => exact absurd hr.method (by simp [Endpoint.methods, hmethod])
  | password segment =>
    obtain ⟨id, hid, rfl⟩ := Option.map_eq_some_iff.mp ha
    refine ends_owning (by decide) fun hown => ends_bodyOf _ fun doc => ?_
    exact ends_told (ends_changePassword sealer o h hcost hsalt (hown ▸ hm) doc) fun _ => isGrant_ok _
  | _ => cases ha

theorem ends_of_session (h : Tended t) (hcost : isCost sealer.cost = true) (hsalt : isSalt o.salt = true)
    (hr : Hits r endpoint) (ha : forUser? sealer o r endpoint = some action) :
    EndsWell (Deserved o r t) Response.IsGrant (sessionUser o r >>= action) t := by
  refine (ends_sessionUser h.toSound).bind fun id t' hres => ?_
  rcases sessionUser_cases (o := o) (r := r) h.toSound with ⟨e, _, herror⟩ | ⟨user, row, hb, hok⟩
  · rw [herror] at hres
    cases hres
  · rw [hok] at hres
    cases hres
    obtain ⟨token, -, hopens⟩ := hb
    -- What comes after the session runs on tables where its token was used just now.
    have hfor : EndsWell (Deserved o r (t.putToken (row.used o.first))) Response.IsGrant (action id)
        (t.putToken (row.used o.first)) :=
      ends_forUser (h.putUsed hopens.found o.first) hcost hsalt hr ha (h.token_user hopens.found)
    exact hfor.weaken fun _ he => he.of_used hopens.found

end Endpoints

/-! ## Requests -/

/-- What a request may be told: that it is granted, or what is wrong with it. -/
inductive ProperReply (o : Occasion) (r : Request) (t : Tables) : Response → Prop where
  | granted {response : Response} : response.IsGrant → ProperReply o r t response
  | unknownPath : Endpoint.ofPath? r.path = none → ProperReply o r t Response.unknownPath
  | wrongMethod {endpoint : Endpoint} : Endpoint.ofPath? r.path = some endpoint →
    r.method ∉ endpoint.methods → ProperReply o r t (Response.wrongMethod endpoint.allow)
  | badQuery {fault : Mismatch} : r.queriedLogin = .error fault →
    ProperReply o r t (Response.complaint ("Failed to deserialize query string: " ++ fault.message))
  | badId {segment : List Char} : decodedId? segment = none →
    ProperReply o r t (Response.complaint "Invalid URL: Invalid UTF-8 in `id`")
  | refused {e : ServiceError} : Deserved o r t e → ProperReply o r t (Response.ofError e)

theorem ProperReply.status_lt {response : Response} (h : ProperReply o r t response) :
    response.status < 500 := by
  cases h with
  | granted hg => exact Nat.lt_trans hg (by decide)
  | refused hd => exact hd.status_lt
  | _ => exact Nat.le_of_ble_eq_true rfl

structure RepliesProperly (o : Occasion) (r : Request) (t : Tables) (p : Program Response) : Prop where
  noted : p.noted t = []
  reply : ProperReply o r t (p.eval t).1

theorem replies_respond {a : Action Response} (h : EndsWell (Deserved o r t) Response.IsGrant a t) :
    RepliesProperly o r t (respond a) := by
  generalize hres : a.eval t = result
  have hprogram : Program.eval a.run t = result := hres
  have hquiet : Program.noted a.run t = [] := h.quiet
  constructor
  · rw [respond, Program.noted_bind, hquiet, hprogram, List.nil_append]
    obtain ⟨e | response, t'⟩ := result
    · have hnoted : (refuse e).noted t' = [] := by
        rw [refuse, (h.refused (congrArg Prod.fst hres)).event?_eq_none]
        rfl
      exact hnoted
    · rfl
  · rw [eval_respond, hres]
    obtain ⟨e | response, t'⟩ := result
    · exact .refused (h.refused (congrArg Prod.fst hres))
    · exact .granted (h.granted (congrArg Prod.fst hres))

section Requests
variable {sealer : Sealer} (h : Tended t) (hcost : isCost sealer.cost = true) (hsalt : isSalt o.salt = true)
include h hcost hsalt

theorem replies_dispatch {endpoint : Endpoint} (hr : Hits r endpoint) :
    RepliesProperly o r t (dispatch sealer o r endpoint) := by
  cases ha : forUser? sealer o r endpoint with
  | some action =>
    rw [dispatch_of_session ha]
    exact replies_respond (ends_of_session h hcost hsalt hr ha)
  | none =>
    cases endpoint with
    | health => exact ⟨rfl, .granted (isGrant_ok _)⟩
    | loginAvailable =>
      rw [dispatch, loginAvailable]
      cases hq : r.queriedLogin with
      | error fault => exact ⟨rfl, .badQuery hq⟩
      | ok login =>
        exact replies_respond (ends_told (ends_isLoginFree o h.toSound login) fun _ => isGrant_ok _)
    | register =>
      refine replies_respond (ends_bodyOf _ fun doc => ?_)
      exact ends_told (ends_register sealer o h.toSound hcost hsalt doc) fun _ => isGrant_created _
    | login =>
      refine replies_respond (ends_bodyOf _ fun doc => ?_)
      exact ends_told (ends_loginWithPassword o h doc) fun _ => isGrant_ok _
    | tokenLogin =>
      refine replies_respond (ends_bodyOf _ fun doc => ?_)
      exact ends_told (ends_loginWithToken o h.toSound doc.token) fun _ => isGrant_ok _
    | logout => cases ha
    | me => cases ha
    | account segment =>
      have hid : decodedId? segment = none := Option.map_eq_none_iff.mp ha
      rw [dispatch, withId, hid]
      exact ⟨rfl, .badId hid⟩
    | password segment =>
      have hid : decodedId? segment = none := Option.map_eq_none_iff.mp ha
      rw [dispatch, withId, hid]
      exact ⟨rfl, .badId hid⟩

theorem replies_handle : (handle sealer o r).noted t = [] ∧
    ∃ reply, ProperReply o r t reply ∧ ((handle sealer o r).eval t).1 = trimmed r reply := by
  cases hp : Endpoint.ofPath? r.path with
  | none =>
    rw [handle, hp]
    exact ⟨rfl, _, .unknownPath hp, (trimmed_of_bodyless r rfl).symm⟩
  | some endpoint =>
    by_cases hm : r.method ∈ endpoint.methods
    · have hhandle : handle sealer o r = dispatch sealer o r endpoint >>= fun response =>
          pure (trimmed r response) := by
        rw [handle, hp]
        exact if_pos hm
      have hreplies := replies_dispatch h hcost hsalt ⟨hp, hm⟩
      rw [hhandle, Program.noted_bind, Program.eval_bind, hreplies.noted]
      exact ⟨rfl, _, hreplies.reply, rfl⟩
    · have hhandle : handle sealer o r = .done (Response.wrongMethod endpoint.allow) := by
        rw [handle, hp]
        exact if_neg hm
      rw [hhandle]
      exact ⟨rfl, _, .wrongMethod hp hm, (trimmed_of_bodyless r rfl).symm⟩

/-- A request that is served is told no failure within the service, and nothing is noted. -/
theorem replies_serve : (serve Tables.backend sealer o r t).events = [] ∧
    ∃ reply, ProperReply o r t reply ∧ (serve Tables.backend sealer o r t).response = trimmed r reply := by
  obtain ⟨hnoted, reply, hreply, hres⟩ := replies_handle h hcost hsalt
  have hevents : (serve Tables.backend sealer o r t).events = (handle sealer o r).noted t := by
    rw [← Program.events_run]
    unfold serve
    simp only [(Program.run_backend (handle sealer o r) t).1]
  have hresponse := congrArg Prod.fst (served_eq sealer o r t)
  exact ⟨hevents.trans hnoted, reply, hreply, hresponse.trans hres⟩

end Requests
end PlayerAccounts.Http
