import PlayerAccounts.Proofs.Http.Effects
import PlayerAccounts.Proofs.Service.Lifecycle
/-!
# Session tokens in requests

A session token comes in behind the name of a scheme in a header, or in the body of a login. Both ways let
in the same tokens, those that are live by what was performed, and for the same users.
-/
namespace PlayerAccounts.Http
set_option autoImplicit false

open PlayerAccounts.Account
open PlayerAccounts.Json
open PlayerAccounts.Service
open PlayerAccounts.Service.Action
open PlayerAccounts.Store
open PlayerAccounts.Text
open PlayerAccounts.Time (Instant)

/-! ## Tokens in headers -/

/-- A token that a header can carry between blanks. -/
structure Presentable (token : String) : Prop where
  visible : ∀ c ∈ token.toList, 32 ≤ c.toNat ∧ c.toNat < 127
  trimmed : Trimmed token.toList
  nonempty : token ≠ ""

/-- The value of a header with a token, and so many spaces before and after it. -/
def bearerHeader (before : Nat) (token : String) (after : Nat) : List UInt8 :=
  utf8Bytes ("Bearer ".toList ++
    (List.replicate before ' ' ++ (token.toList ++ List.replicate after ' ')))

theorem headerText?_of_visible {s : List Char} (hs : ∀ c ∈ s, 32 ≤ c.toNat ∧ c.toNat < 127) :
    headerText? (utf8Bytes s) = some s := by
  have hbyte : ∀ c ∈ s, c.toUInt8.toNat = c.toNat := fun c hc =>
    toNat_byte_of_ascii (Nat.lt_succ_of_lt (hs c hc).2)
  have hbytes : utf8Bytes s = s.map Char.toUInt8 :=
    utf8Bytes_of_ascii fun c hc => Nat.lt_succ_of_lt (hs c hc).2
  have hvisible : (s.map Char.toUInt8).all isVisible = true := by
    rw [List.all_map, List.all_eq_true]
    intro c hc
    simp [isVisible, UInt8.le_iff_toNat_le, UInt8.lt_iff_toNat_lt, hbyte c hc, hs c hc]
  have hback : (s.map Char.toUInt8).map (fun b => Char.ofNat b.toNat) = s := by
    rw [List.map_map]
    refine (List.map_congr_left fun c hc => ?_).trans (List.map_id s)
    change Char.ofNat c.toUInt8.toNat = c
    rw [hbyte c hc, Char.ofNat_toNat]
  rw [headerText?, hbytes, if_pos hvisible, hback]

theorem bearerToken?_padded {token : String} (ht : Trimmed token.toList) (hne : token ≠ "")
    (before after : Nat) :
    bearerToken? ("Bearer ".toList ++
      (List.replicate before ' ' ++ (token.toList ++ List.replicate after ' '))) = some token := by
  have hblank : ∀ n, ∀ c ∈ List.replicate n ' ', isBlank c = true := by
    intro n c hc
    rw [List.eq_of_mem_replicate hc]
    decide
  have hnil : token.toList ≠ [] := fun hnil => hne (String.toList_eq_nil_iff.mp hnil)
  have htrim := trim_padded (hblank before) (hblank after) ht hnil
  have hscheme : ∀ rest, "Bearer ".toList.isPrefixOf ("Bearer ".toList ++ rest) = true := fun rest =>
    List.isPrefixOf_iff_prefix.mpr (List.prefix_append _ rest)
  have hfull : token.toList.isEmpty ≠ true := fun he => hnil (List.isEmpty_iff.mp he)
  unfold bearerToken?
  simp only [hscheme, if_true, List.drop_left, htrim, if_neg hfull, String.ofList_toList]

theorem bearer_of_header {r : Request} {token : String} {before after : Nat} (ht : Presentable token)
    (hr : r.header? "authorization" = some (bearerHeader before token after)) : r.bearer = .ok token := by
  have hscheme : "Bearer ".toList.all (fun c => decide (32 ≤ c.toNat ∧ c.toNat < 127)) = true := by decide
  have hspaces : ∀ n, ∀ c ∈ List.replicate n ' ', 32 ≤ c.toNat ∧ c.toNat < 127 := by
    intro n c hc
    rw [List.eq_of_mem_replicate hc]
    decide
  have hvisible : ∀ c ∈ "Bearer ".toList ++
      (List.replicate before ' ' ++ (token.toList ++ List.replicate after ' ')),
      32 ≤ c.toNat ∧ c.toNat < 127 := by
    intro c hc
    simp only [List.mem_append] at hc
    rcases hc with hc | hc | hc | hc
    · exact of_decide_eq_true (List.all_eq_true.mp hscheme c hc)
    · exact hspaces before c hc
    · exact ht.visible c hc
    · exact hspaces after c hc
  rw [Request.bearer, hr, Option.bind_some, bearerHeader, headerText?_of_visible hvisible,
    Option.bind_some, bearerToken?_padded ht.trimmed ht.nonempty]

/-! ## The refusal of a token -/

/-- The response to a request whose token lets nobody in. -/
def tokenRefused (r : Request) : Response := trimmed r (Response.ofError .invalidToken)

theorem write_errorBody (code message : String) :
    Api.errorBody.write ⟨code, message, none⟩ = '\x7b' :: (writeString "error" ++ ':' :: writeString code) ++
      (',' :: (writeString "message" ++ ':' :: writeString message) ++ ['\x7d']) := by
  simp [Api.errorBody, record, writeRecord, writeFields, commaSeparated, Field.required,
    Field.optionalSilent, text]

/-- Responses tell apart refusals by their codes. -/
theorem writeString_code {e e' : ServiceError} (he : Response.ofError e = Response.ofError e') :
    ∃ rest rest', writeString e.code ++ rest = writeString e'.code ++ rest' := by
  have hbody := String.ofList_injective (congrArg Response.body he)
  simp only [write_errorBody, List.cons_append, List.append_assoc] at hbody
  exact ⟨_, _, List.tail_eq_of_cons_eq (List.append_cancel_left (List.tail_eq_of_cons_eq hbody))⟩

theorem unauthorized_ne_invalidToken (why : String) :
    Response.ofError (.unauthorized why) ≠ Response.ofError .invalidToken := by
  intro he
  obtain ⟨rest, rest', hcode⟩ := writeString_code he
  have hleft : writeString "UNAUTHORIZED" = '"' :: 'U' :: "NAUTHORIZED\"".toList := by decide
  have hright : writeString "INVALID_TOKEN" = '"' :: 'I' :: "NVALID_TOKEN\"".toList := by decide
  change writeString "UNAUTHORIZED" ++ rest = writeString "INVALID_TOKEN" ++ rest' at hcode
  rw [hleft, hright] at hcode
  simp at hcode

theorem invalidCredentials_ne_invalidToken :
    Response.ofError .invalidCredentials ≠ Response.ofError .invalidToken := by
  intro he
  obtain ⟨rest, rest', hcode⟩ := writeString_code he
  have hleft : writeString "INVALID_CREDENTIALS" = "\"INVALID_".toList ++ 'C' :: "REDENTIALS\"".toList := by
    decide
  have hright : writeString "INVALID_TOKEN" = "\"INVALID_".toList ++ 'T' :: "OKEN\"".toList := by decide
  change writeString "INVALID_CREDENTIALS" ++ rest = writeString "INVALID_TOKEN" ++ rest' at hcode
  rw [hleft, hright, List.append_assoc, List.append_assoc, List.append_cancel_left_eq] at hcode
  simp at hcode

theorem ofError_eq_tokenRefused {e : ServiceError}
    (he : Response.ofError e = Response.ofError .invalidToken) : e = .invalidToken := by
  have hstatus : e.status = 401 := congrArg Response.status he
  cases e with
  | invalidToken => rfl
  | invalidCredentials => exact absurd he invalidCredentials_ne_invalidToken
  | unauthorized why => exact absurd he (unauthorized_ne_invalidToken why)
  | _ => simp [ServiceError.status] at hstatus

/-- The result of an action is no refusal of a token, as far as the response to the request tells. Where
the response loses its body, its status has to tell. -/
def NotRefused (r : Request) : Except ServiceError Response → Prop
  | .ok response => response.status ≠ 401
  | .error e => e ≠ .invalidToken ∧ (r.method = .head → e.status ≠ 401)

theorem response_of_notRefused {r : Request} {action : Action Response} {t : Tables}
    (hn : NotRefused r (action.eval t).1) : trimmed r ((respond action).eval t).1 ≠ tokenRefused r := by
  intro heq
  have hstatus := congrArg Response.status heq
  rw [tokenRefused, status_trimmed, status_trimmed] at hstatus
  generalize hres : action.eval t = result at hn
  obtain ⟨answer, t'⟩ := result
  cases answer with
  | ok response =>
    rw [eval_respond_ok hres] at hstatus
    exact hn hstatus
  | error e =>
    rw [eval_respond_error hres] at hstatus heq
    by_cases hm : r.method = .head
    · exact hn.2 hm hstatus
    · rw [tokenRefused, trimmed, trimmed, if_neg hm, if_neg hm] at heq
      exact hn.1 (ofError_eq_tokenRefused heq)

/-! ## What follows on a session -/

section Session
variable {t : Tables} {r : Request} {sealer : Sealer} {o : Occasion}

theorem notRefused_error {e : ServiceError} (he : e.status ≠ 401) : NotRefused r (.error e) := by
  refine ⟨?_, fun _ => he⟩
  rintro rfl
  exact he rfl

theorem notRefused_getUser (t : Tables) (r : Request) (id : String) :
    NotRefused r ((getUser id >>= fun user => (pure (Response.ok (Api.user.encode user)) :
      Action Response)).eval t).1 := by
  rcases getUser_outcome t id with ⟨user, _, hres⟩ | ⟨_, hres⟩
  · rw [eval_bind_ok hres]
    exact (by decide : 200 ≠ 401)
  · rw [eval_bind_error hres]
    exact notRefused_error (by decide : 404 ≠ 401)

theorem notRefused_owning {user id verb : String} {next : Unit → Action Response}
    (hm : r.method ≠ .head) (hnext : NotRefused r ((next ()).eval t).1) :
    NotRefused r ((owning user id verb >>= next).eval t).1 := by
  by_cases hown : user = id
  · subst hown
    rw [eval_bind_ok (eval_owning_self user verb t)]
    exact hnext
  · rw [eval_bind_error (eval_owning_other hown verb t)]
    exact ⟨nofun, fun hhead => absurd hhead hm⟩

theorem notRefused_bodyOf {α : Type} {codec : Codec α} {next : α → Action Response}
    (hnext : ∀ doc, NotRefused r ((next doc).eval t).1) :
    NotRefused r ((bodyOf r codec >>= next).eval t).1 := by
  cases hd : r.document codec with
  | ok doc =>
    rw [eval_bind_ok (eval_bodyOf_ok hd t)]
    exact hnext doc
  | error fault =>
    rw [eval_bind_error (eval_bodyOf_error hd t)]
    exact notRefused_error (by decide : 400 ≠ 401)

theorem notRefused_edit (h : t.Sound) (id : String) :
    NotRefused r ((bodyOf r Api.profileEdit >>= fun edit => updateProfile id edit >>= fun user =>
      (pure (Response.ok (Api.user.encode user)) : Action Response)).eval t).1 := by
  refine notRefused_bodyOf fun edit => ?_
  have hout := updateUser_outcome h id edit.update
  generalize hres : (updateUser id edit.update).eval t = result at hout
  cases hout with
  | ruleBroken _ =>
    rw [updateProfile, eval_bind_error hres]
    exact notRefused_error (by decide : 400 ≠ 401)
  | absent _ _ =>
    rw [updateProfile, eval_bind_error hres]
    exact notRefused_error (by decide : 404 ≠ 401)
  | updated _ _ =>
    rw [updateProfile, eval_bind_ok hres]
    exact (by decide : 200 ≠ 401)

theorem notRefused_remove (t : Tables) (r : Request) (id : String) :
    NotRefused r ((deleteUser id >>= fun _ => (pure Response.noContent : Action Response)).eval t).1 := by
  rcases deleteUser_outcome t id with ⟨_, hres⟩ | ⟨_, hres⟩
  · rw [eval_bind_ok hres]
    exact (by decide : 204 ≠ 401)
  · rw [eval_bind_error hres]
    exact notRefused_error (by decide : 404 ≠ 401)

theorem notRefused_editPassword (h : t.Sound) (hm : r.method ≠ .head) (id : String) :
    NotRefused r ((bodyOf r Api.passwordChange >>= fun doc => changePassword sealer o id doc >>= fun _ =>
      (pure passwordChanged : Action Response)).eval t).1 := by
  refine notRefused_bodyOf fun doc => ?_
  have hout := changePassword_outcome h sealer o id doc
  generalize hres : (changePassword sealer o id doc).eval t = result at hout
  cases hout with
  | ruleBroken _ =>
    rw [eval_bind_error hres]
    exact notRefused_error (by decide : 400 ≠ 401)
  | absent _ _ =>
    rw [eval_bind_error hres]
    exact notRefused_error (by decide : 404 ≠ 401)
  | wrong _ _ _ =>
    rw [eval_bind_error hres]
    exact ⟨nofun, fun hhead => absurd hhead hm⟩
  | unsealed _ _ _ _ =>
    rw [eval_bind_error hres]
    exact notRefused_error (by decide : 500 ≠ 401)
  | changed _ _ _ _ =>
    rw [eval_bind_ok hres]
    exact (by decide : 200 ≠ 401)

/-- Once a session is shown, the response never is that the token was refused. -/
theorem notRefused_forUser (h : t.Sound) {endpoint : Endpoint} {action : String → Action Response}
    (hr : Hits r endpoint) (ha : forUser? sealer o r endpoint = some action) (user : String) :
    NotRefused r ((action user).eval t).1 := by
  cases endpoint with
  | logout =>
    cases ha
    exact (by decide : 204 ≠ 401)
  | me =>
    cases ha
    exact notRefused_getUser t r user
  | account segment =>
    obtain ⟨id, hid, rfl⟩ := Option.map_eq_some_iff.mp ha
    cases hm : r.method with
    | patch => exact notRefused_owning (by rw [hm]; decide) (notRefused_edit h id)
    | delete => exact notRefused_owning (by rw [hm]; decide) (notRefused_remove t r id)
    | _ => exact notRefused_getUser t r id
  | password segment =>
    obtain ⟨id, hid, rfl⟩ := Option.map_eq_some_iff.mp ha
    have hpost : r.method = .post := List.mem_singleton.mp hr.method
    have hm : r.method ≠ .head := by
      rw [hpost]
      decide
    exact notRefused_owning hm (notRefused_editPassword h hm id)
  | _ => cases ha

end Session

end PlayerAccounts.Http
