import PlayerAccounts.Proofs.Http.Secrecy
/-!
# Outsiders

Whose token lets nobody in, and who shows none, is an outsider at the endpoints that need a session. The
reply to an outsider depends on the request alone. Who is in a session is an outsider at the accounts of
others, and is told so before the body is read.
-/
namespace PlayerAccounts.Http
set_option autoImplicit false

open PlayerAccounts.Account
open PlayerAccounts.Service
open PlayerAccounts.Service.Action
open PlayerAccounts.Store

variable {t : Tables} {sealer : Sealer} {o : Occasion} {r r' : Request} {endpoint endpoint' : Endpoint}

/-! ## Without a session -/

def NeedsSession : Endpoint → Prop
  | .logout | .me | .account _ | .password _ => True
  | _ => False

/-- The token that the request shows, if it shows one, lets nobody in. -/
def Outside (t : Tables) (r : Request) : Prop :=
  ∀ token, r.bearer = .ok token → ∀ id row, ¬ Opens t token id row

/-- The id in the path, where there is one, can be decoded. -/
def idReadable : Endpoint → Bool
  | .account segment | .password segment => (decodedId? segment).isSome
  | _ => true

def outsideError (r : Request) : ServiceError :=
  match r.bearer with
  | .ok _ => .invalidToken
  | .error e => e

def outsideReply (r : Request) (endpoint : Endpoint) : Response :=
  if r.method ∈ endpoint.methods then
    trimmed r (if idReadable endpoint then Response.ofError (outsideError r)
      else Response.complaint "Invalid URL: Invalid UTF-8 in `id`")
  else Response.wrongMethod endpoint.allow

theorem outside_of_tokenFree {token : String} (hb : r.bearer = .ok token) (hfree : t.TokenFree token) :
    Outside t r := by
  intro shown hshown id row ho
  obtain rfl : token = shown := Except.ok.inj (hb.symm.trans hshown)
  exact hfree ho.found ho.token_eq

theorem outside_of_bearer_error {e : ServiceError} (hb : r.bearer = .error e) (t : Tables) : Outside t r :=
  fun _ hshown => nomatch hb.symm.trans hshown

theorem sessionUser_outside (hout : Outside t r) (o : Occasion) :
    (sessionUser o r).eval t = (.error (outsideError r), t) := by
  cases hb : r.bearer with
  | error e =>
    rw [sessionUser, outsideError, hb]
    rfl
  | ok token => rw [eval_sessionUser hb, validateToken_refused o.first (hout token hb), outsideError, hb]

theorem exists_forUser (hs : NeedsSession endpoint) (hid : idReadable endpoint = true) (sealer : Sealer)
    (o : Occasion) (r : Request) : ∃ action, forUser? sealer o r endpoint = some action := by
  cases endpoint with
  | logout => exact ⟨_, rfl⟩
  | me => exact ⟨_, rfl⟩
  | account segment =>
    obtain ⟨id, hsome⟩ := Option.isSome_iff_exists.mp hid
    exact ⟨_, Option.map_eq_some_iff.mpr ⟨id, hsome, rfl⟩⟩
  | password segment =>
    obtain ⟨id, hsome⟩ := Option.isSome_iff_exists.mp hid
    exact ⟨_, Option.map_eq_some_iff.mpr ⟨id, hsome, rfl⟩⟩
  | _ => exact hs.elim

theorem dispatch_of_unreadable (hid : idReadable endpoint ≠ true) (sealer : Sealer) (o : Occasion)
    (r : Request) :
    dispatch sealer o r endpoint = .done (Response.complaint "Invalid URL: Invalid UTF-8 in `id`") := by
  cases endpoint with
  | account segment => rw [dispatch, withId, Option.not_isSome_iff_eq_none.mp hid]
  | password segment => rw [dispatch, withId, Option.not_isSome_iff_eq_none.mp hid]
  | _ => exact absurd rfl hid

theorem served_outside (hp : Endpoint.ofPath? r.path = some endpoint) (hs : NeedsSession endpoint)
    (hout : Outside t r) : served sealer o r t = (outsideReply r endpoint, t) := by
  rw [outsideReply]
  -- Method and id are complained of before the token is looked at.
  by_cases hm : r.method ∈ endpoint.methods
  · rw [if_pos hm]
    by_cases hid : idReadable endpoint = true
    · obtain ⟨action, ha⟩ := exists_forUser hs hid sealer o r
      rw [if_pos hid, served_without_session ⟨hp, hm⟩ ha (sessionUser_outside hout o)]
    · rw [if_neg hid, served_of_hit sealer o t ⟨hp, hm⟩, dispatch_of_unreadable hid]
      rfl
  · rw [if_neg hm, served_of_wrongMethod sealer o t hp hm]

theorem outsideReply_of_readable (hr : Hits r endpoint) (hid : idReadable endpoint = true) :
    outsideReply r endpoint = trimmed r (Response.ofError (outsideError r)) := by
  rw [outsideReply, if_pos hr.method, if_pos hid]

/-- All that the reply to an outsider depends on. -/
theorem outsideReply_congr (hr : Hits r endpoint) (hr' : Hits r' endpoint') (hm : r.method = r'.method)
    (hb : r.bearer = r'.bearer) (hid : idReadable endpoint = idReadable endpoint') :
    outsideReply r endpoint = outsideReply r' endpoint' := by
  have herror : outsideError r = outsideError r' := by
    rw [outsideError, outsideError, hb]
  rw [outsideReply, outsideReply, if_pos hr.method, if_pos hr'.method, hid, herror, trimmed, trimmed, hm]

/-! ## In the session of another -/

/-- The request asks for what only the owner of this account may do, as refusals call it. -/
inductive OwnersRequest (r : Request) (id : String) : String → Prop where
  | edit {segment : List Char} : Hits r (.account segment) → r.method = .patch →
    decodedId? segment = some id → OwnersRequest r id "update"
  | remove {segment : List Char} : Hits r (.account segment) → r.method = .delete →
    decodedId? segment = some id → OwnersRequest r id "delete"
  | password {segment : List Char} : Hits r (.password segment) → decodedId? segment = some id →
    OwnersRequest r id "change the password of"

def notOwner (verb : String) : Response :=
  Response.ofError (.unauthorized ("You can only " ++ verb ++ " your own account"))

variable {id user verb : String} {row : SessionToken}

/-- Ownership is the first thing that such a request is checked for in a session. -/
theorem OwnersRequest.refused (hr : OwnersRequest r id verb) (sealer : Sealer) (o : Occasion) :
    r.method ≠ .head ∧ ∃ endpoint action, Hits r endpoint ∧ forUser? sealer o r endpoint = some action ∧
      ∀ user t, id ≠ user → (action user).eval t =
        (.error (.unauthorized ("You can only " ++ verb ++ " your own account")), t) := by
  cases hr with
  | edit hr hm hid =>
    refine ⟨by rw [hm]; decide, _, _, hr, Option.map_eq_some_iff.mpr ⟨id, hid, rfl⟩, ?_⟩
    intro user t hne
    simp only [hm]
    exact eval_bind_error (eval_owning_other hne.symm "update" t)
  | remove hr hm hid =>
    refine ⟨by rw [hm]; decide, _, _, hr, Option.map_eq_some_iff.mpr ⟨id, hid, rfl⟩, ?_⟩
    intro user t hne
    simp only [hm]
    exact eval_bind_error (eval_owning_other hne.symm "delete" t)
  | password hr hid =>
    have hm : r.method = .post := List.mem_singleton.mp hr.method
    refine ⟨by rw [hm]; decide, _, _, hr, Option.map_eq_some_iff.mpr ⟨id, hid, rfl⟩, ?_⟩
    intro user t hne
    exact eval_bind_error (eval_owning_other hne.symm "change the password of" t)

theorem served_notOwner (h : t.Sound) (hr : OwnersRequest r id verb) (hb : Bears t r user row)
    (hne : id ≠ user) : served sealer o r t = (notOwner verb, t.putToken (row.used o.first)) := by
  obtain ⟨hm, endpoint, action, hits, ha, hrefused⟩ := hr.refused sealer o
  rw [served_in_session h hits ha hb, eval_respond_error (hrefused user _ hne), trimmed_of_ne_head hm]
  rfl

/-! ## The result -/

/-- An outsider is replied to without regard to the tables, and they stay as they are. The reply, that there
is no token or that it is no good, does not tell ids apart either, nor bodies. In a session, what only its
owner may do to an account is refused to all others in the same words, with no regard to the account, the
body or the tables. -/
theorem outsiders_learn_nothing (sealer sealer' : Sealer) (o o' : Occasion) :
    (∀ r endpoint, Endpoint.ofPath? r.path = some endpoint → NeedsSession endpoint →
      ∀ t t', Outside t r → Outside t' r →
        (served sealer o r t).1 = (served sealer' o' r t').1 ∧
          (served sealer o r t).2 = t ∧ (served sealer' o' r t').2 = t') ∧
      (∀ r r' endpoint endpoint', Hits r endpoint → Hits r' endpoint' → NeedsSession endpoint →
        NeedsSession endpoint' → r.method = r'.method → r.bearer = r'.bearer →
        idReadable endpoint = idReadable endpoint' → ∀ t t', Outside t r → Outside t' r' →
          (served sealer o r t).1 = (served sealer' o' r' t').1 ∧
            (idReadable endpoint = true →
              (served sealer o r t).1 = trimmed r (Response.ofError (outsideError r)))) ∧
      ∀ verb, (notOwner verb).status = 401 ∧
        ∀ r id user row t, t.Sound → OwnersRequest r id verb → Bears t r user row → id ≠ user →
          served sealer o r t = (notOwner verb, t.putToken (row.used o.first)) := by
  refine ⟨?_, ?_, fun verb => ⟨rfl, fun _ _ _ _ _ => served_notOwner⟩⟩
  · intro r endpoint hp hs t t' hout hout'
    rw [served_outside hp hs hout, served_outside hp hs hout']
    exact ⟨rfl, rfl, rfl⟩
  · intro r r' endpoint endpoint' hr hr' hs hs' hm hb hid t t' hout hout'
    rw [served_outside hr.path hs hout, served_outside hr'.path hs' hout']
    exact ⟨outsideReply_congr hr hr' hm hb hid, outsideReply_of_readable hr⟩

/-! ## A dead token, and somebody else's account -/

/-- A request with a token, and with a body that no document begins with. -/
def asking (method : Method) (path token : String) : Request :=
  ⟨method, path, [("authorization", Text.utf8Bytes ("Bearer " ++ token).toList)], [255]⟩

theorem tokenFree_annInSession {token : String} (hne : token ≠ "A") : annInSession.TokenFree token := by
  intro id row hr
  rw [annInSession, Tables.tokens_putToken] at hr
  split at hr
  · rw [← Option.some.inj hr]
    exact hne.symm
  · simp [Tables.empty] at hr

theorem bears_annInSession (hb : r.bearer = .ok "A") :
    Bears annInSession r "ann" (SessionToken.issued "ann" "A" default) := by
  have hr : annInSession.tokens["ann"]? = some (SessionToken.issued "ann" "A" default) :=
    (Tables.tokens_putToken ..).trans (if_pos rfl)
  exact ⟨"A", hb, hr, rfl, by decide +kernel, by decide +kernel⟩

/-- A logout without a token and readings with a dead one tell nothing of Ann and Bob. Ann is refused Bob's
account as she is refused one that there is not. -/
theorem anns_neighbours_not_told :
    let logout : Request := ⟨.post, "/auth/logout", [], []⟩
    let bob := asking .get "/users/bob" "Z"
    let nobody := asking .get "/users/nobody" "Z"
    let removal := asking .delete "/users/bob" "A"
    let removal' := asking .delete "/users/nobody" "A"
    (Outside annInSession logout ∧ Outside annInSession bob ∧ Outside .empty nobody ∧ annInSession.Sound ∧
      OwnersRequest removal "bob" "delete" ∧ OwnersRequest removal' "nobody" "delete" ∧
      ∃ row, Bears annInSession removal "ann" row ∧ Bears annInSession removal' "ann" row) ∧
    (served ⟨4⟩ default logout annInSession).1 = (served ⟨12⟩ default logout .empty).1 ∧
    (served ⟨4⟩ default logout annInSession).2 = annInSession ∧
    (served ⟨4⟩ default bob annInSession).1 = (served ⟨12⟩ default nobody .empty).1 ∧
    (served ⟨4⟩ default bob annInSession).1 = Response.ofError .invalidToken ∧
    (served ⟨4⟩ default removal annInSession).1 = notOwner "delete" ∧
    (served ⟨4⟩ default removal' annInSession).1 = notOwner "delete" := by
  intro logout bob nobody removal removal'
  have hlogout : ∀ t, Outside t logout := outside_of_bearer_error rfl
  have hshown : bob.bearer = .ok "Z" := ok_of_toOption (by decide +kernel)
  have hbob : Outside annInSession bob := outside_of_tokenFree hshown (tokenFree_annInSession (by decide))
  have hnobody : Outside .empty nobody :=
    outside_of_tokenFree (ok_of_toOption (by decide +kernel) : nobody.bearer = .ok "Z") fun hr => nomatch hr
  have hbears : Bears annInSession removal "ann" (SessionToken.issued "ann" "A" default) :=
    bears_annInSession (ok_of_toOption (by decide +kernel))
  have hbears' : Bears annInSession removal' "ann" (SessionToken.issued "ann" "A" default) :=
    bears_annInSession (ok_of_toOption (by decide +kernel))
  have hpath : Endpoint.ofPath? bob.path = some (.account "bob".toList) := by decide +kernel
  have hpath' : Endpoint.ofPath? nobody.path = some (.account "nobody".toList) := by decide +kernel
  have hreads : Hits bob (.account "bob".toList) ∧ Hits nobody (.account "nobody".toList) :=
    ⟨⟨hpath, by decide⟩, ⟨hpath', by decide⟩⟩
  have hremoves : OwnersRequest removal "bob" "delete" := .remove ⟨hpath, by decide⟩ rfl (by decide +kernel)
  have hremoves' : OwnersRequest removal' "nobody" "delete" :=
    .remove ⟨hpath', by decide⟩ rfl (by decide +kernel)
  obtain ⟨hsame, hids, howner⟩ := outsiders_learn_nothing ⟨4⟩ ⟨12⟩ default default
  obtain ⟨hresponse, hunchanged, -⟩ :=
    hsame logout .logout (by decide +kernel) trivial annInSession .empty (hlogout _) (hlogout _)
  obtain ⟨halike, hreply⟩ := hids bob nobody _ _ hreads.1 hreads.2 trivial trivial rfl rfl
    (by decide +kernel) annInSession .empty hbob hnobody
  rw [outsideError, hshown] at hreply
  have hrefused := (howner "delete").2 removal "bob" "ann" _ _ sound_annInSession hremoves hbears (by decide)
  have hrefused' :=
    (howner "delete").2 removal' "nobody" "ann" _ _ sound_annInSession hremoves' hbears' (by decide)
  exact ⟨⟨hlogout _, hbob, hnobody, sound_annInSession, hremoves, hremoves', _, hbears, hbears'⟩, hresponse,
    hunchanged, halike, hreply (by decide +kernel), congrArg Prod.fst hrefused, congrArg Prod.fst hrefused'⟩

end PlayerAccounts.Http
