import PlayerAccounts.Proofs.Http.Evaluation
import PlayerAccounts.Proofs.Service.PassedOn
import PlayerAccounts.Sql.Script
/-!
# Texts of clients in the database

A database refuses texts with U+0000. Logins that are asked for or registered have no such character, nor
has what comes out of a header, and ids of owners come back from the database. Five kinds of texts are left
that a client can send and that are passed on with it; each goes by a check that does not look for it, or
by none.
-/
namespace PlayerAccounts.Http
set_option autoImplicit false

open PlayerAccounts.Account
open PlayerAccounts.Json
open PlayerAccounts.Service
open PlayerAccounts.Service.Action
open PlayerAccounts.Sql
open PlayerAccounts.Store

variable {α σ : Type} {K : String → Prop}

/-! ## Texts that are passed on -/

/-- The texts of a request that are passed on to the database whatever characters they have. -/
inductive Unchecked (r : Request) : String → Prop where
  | login {doc : Api.PasswordLogin} : Hits r .login → r.document Api.passwordLogin = .ok doc →
    Unchecked r doc.login
  | token {doc : Api.TokenLogin} : Hits r .tokenLogin → r.document Api.tokenLogin = .ok doc →
    doc.token.utf8ByteSize ≤ tokenLength → Unchecked r doc.token
  | id {segment : List Char} {id : String} : Hits r (.account segment) → r.method = .get ∨ r.method = .head →
    decodedId? segment = some id → Unchecked r id
  | newEmail {doc : Api.Registration} {email : String} : Hits r .register →
    r.document Api.registration = .ok doc → doc.email = some email → brokenByEmail? email = none →
    Unchecked r email
  | otherEmail {segment : List Char} {edit : ProfileEdit} {email : String} : Hits r (.account segment) →
    r.method = .patch → r.document Api.profileEdit = .ok edit → edit.email = .set email →
    brokenByEmail? email = none → Unchecked r email

/-! ## Texts of headers -/

theorem mem_of_mem_trim {s : List Char} {c : Char} (h : c ∈ Text.trim s) : c ∈ s := by
  have hstart : c ∈ Text.trimStart s := by
    have hend := (List.dropWhile_sublist _).mem (List.mem_reverse.mp h)
    exact List.mem_reverse.mp hend
  exact (List.dropWhile_sublist _).mem hstart

theorem mem_of_bearerToken? {text : List Char} {token : String} (h : bearerToken? text = some token) {c : Char}
    (hc : c ∈ token.toList) : c ∈ text := by
  unfold bearerToken? at h
  dsimp only at h
  split at h
  · split at h
    · cases h
    · cases h
      rw [String.toList_ofList] at hc
      exact List.mem_of_mem_drop (mem_of_mem_trim hc)
  · cases h

theorem ne_zero_of_isVisible {b : UInt8} (h : isVisible b = true) : Char.ofNat b.toNat ≠ '\x00' := by
  have hbyte : ∀ n < 256, isVisible (UInt8.ofNat n) = true → Char.ofNat n ≠ '\x00' := by decide +kernel
  refine hbyte b.toNat b.toNat_lt ?_
  rwa [UInt8.ofNat_toNat]

theorem not_mem_of_headerText? {bytes : List UInt8} {text : List Char} (h : headerText? bytes = some text) :
    '\x00' ∉ text := by
  unfold headerText? at h
  split at h
  · rename_i hall
    cases h
    intro hm
    obtain ⟨b, hb, he⟩ := List.mem_map.mp hm
    exact ne_zero_of_isVisible (List.all_eq_true.mp hall b hb) he
  · cases h

theorem isSendable_of_bearer {r : Request} {token : String} (h : r.bearer = .ok token) : IsSendable token := by
  unfold Request.bearer at h
  split at h
  · rename_i found hfound
    obtain ⟨bytes, -, hbytes⟩ := Option.bind_eq_some_iff.mp hfound
    obtain ⟨text, htext, hbearer⟩ := Option.bind_eq_some_iff.mp hbytes
    cases h
    exact fun hm => not_mem_of_headerText? htext (mem_of_bearerToken? hbearer hm)
  · cases h

/-! ## Steps -/

/-- An action that makes calls with texts of one kind only, as long as the answers have such texts. -/
def PassesOn (K : String → Prop) (a : Action α) : Prop :=
  Asks (AskingWith K) (AnsweringWith K) (fun _ => True) a

/-- The same for what is left of a request. -/
def HandsOn (K : String → Prop) (p : Program Response) : Prop :=
  p.Asks (AskingWith K) (AnsweringWith K) fun _ => True

theorem passesOn_action (hK : ∀ s, IsSendable s → K s) (sealer : Sealer) (d : Draw) {op : Operation}
    (h : Are K op.passedOn) : PassesOn K (op.action sealer d.occasion) :=
  (asks_action sealer d.occasion op).weaken (fun _ hcall => asking_of_makes hK h hcall) fun _ h => h

theorem handsOn_refuse (e : ServiceError) : HandsOn K (refuse e) := by
  unfold refuse
  cases e.event? with
  | none => exact trivial
  | some event => exact trivial

theorem handsOn_respond {a : Action Response} (h : PassesOn K a) : HandsOn K (respond a) := by
  refine Program.Asks.bind h fun result _ => ?_
  cases result with
  | ok response => exact trivial
  | error e => exact handsOn_refuse e

section Steps
variable (r : Request)

theorem asks_bodyOf {P : Call → Prop} {A : AnswerKind} (codec : Codec α) :
    Asks P A (fun doc => r.document codec = .ok doc) (bodyOf r codec) := by
  unfold bodyOf
  cases r.document codec with
  | ok doc => exact Asks.pure rfl
  | error fault => exact Asks.refusal _

theorem asks_owning {P : Call → Prop} {A : AnswerKind} (user id action : String) :
    Asks P A (fun _ => user = id) (owning user id action) := by
  unfold owning ensureOwner
  by_cases hsame : user = id
  · rw [if_pos hsame]
    exact Asks.pure hsame
  · rw [if_neg hsame]
    exact Asks.refusal _

theorem asks_sessionUser (hK : ∀ s, IsSendable s → K s) (o : Occasion) :
    Asks (AskingWith K) (AnsweringWith K) K (sessionUser o r) := by
  unfold sessionUser
  cases hbearer : r.bearer with
  | error e => exact Asks.refusal _
  | ok token =>
    have htoken : K token := hK _ (isSendable_of_bearer hbearer)
    have hask : AskingWith K (.useToken token o.first) := are_singleton.mpr htoken
    refine (asks_validateToken fun _ => hask).weaken (fun _ h => h) ?_
    rintro user ⟨row, hrow, rfl⟩
    exact (are_cons.mp (hrow row rfl)).1

theorem handsOn_withId {segment : List Char} {action : String → Action Response}
    (h : ∀ id, decodedId? segment = some id → PassesOn K (action id)) :
    HandsOn K (withId segment action) := by
  unfold withId
  cases hid : decodedId? segment with
  | none => trivial
  | some id => exact handsOn_respond (h id hid)

end Steps

/-! ## Requests -/

section Requests
variable {r : Request} (hK : ∀ s, IsSendable s → K s) (hunchecked : ∀ s, Unchecked r s → K s)
  (sealer : Sealer) (d : Draw)

include hK in
theorem passesOn_told (op : Operation) (h : Are K op.passedOn) (tell : op.Answer → Response) :
    PassesOn K (op.action sealer d.occasion >>= fun x => pure (tell x)) :=
  (passesOn_action hK sealer d h).bind fun _ _ => Asks.pure trivial

include hK in
/-- What only the owner of an account may do with it. The id is the one that the session has told. -/
theorem passesOn_owning {id verb : String} {next : Action Response} (h : K id → PassesOn K next) :
    PassesOn K (sessionUser d.occasion r >>= fun user => owning user id verb >>= fun _ => next) := by
  refine (asks_sessionUser r hK d.occasion).bind fun user huser => ?_
  refine (asks_owning user id verb).bind fun _ hsame => h ?_
  exact hsame ▸ huser

include hK in
theorem passesOn_ofSession {next : String → Action Response} (h : ∀ user, K user → PassesOn K (next user)) :
    PassesOn K (sessionUser d.occasion r >>= next) :=
  (asks_sessionUser r hK d.occasion).bind h

include hunchecked in
theorem are_keptEmails {email? : Option String}
    (h : ∀ email, email? = some email → brokenByEmail? email = none → Unchecked r email) :
    Are K (keptEmails email?.toList) := by
  intro email hm
  obtain ⟨hmem, hrule⟩ := List.mem_filter.mp hm
  exact hunchecked email (h email (Option.mem_toList.mp hmem) (beq_iff_eq.mp hrule))

include hK hunchecked

theorem handsOn_account {segment : List Char} (hr : Hits r (.account segment)) :
    HandsOn K (dispatch sealer d.occasion r (.account segment)) := by
  refine handsOn_withId fun id hid => ?_
  have hread (hm : r.method = .get ∨ r.method = .head) : PassesOn K (readAccount d.occasion r id) := by
    have hid : K id := hunchecked id (.id hr hm hid)
    exact passesOn_ofSession hK d fun _ _ =>
      passesOn_told hK sealer d (.getUser id) (are_singleton.mpr hid) _
  have hedit (hm : r.method = .patch) : PassesOn K (editAccount d.occasion r id) := by
    refine passesOn_owning hK d fun hid => (asks_bodyOf r _).bind fun edit hdoc => ?_
    have hemail : Are K (keptEmails edit.email.target?.join.toList) := by
      refine are_keptEmails hunchecked fun email he hrule => ?_
      cases hset : edit.email with
      | keep => rw [hset] at he; cases he
      | clear => rw [hset] at he; cases he
      | set new =>
        rw [hset] at he
        cases he
        exact .otherEmail hr hm hdoc hset hrule
    exact passesOn_told hK sealer d (.updateProfile id edit) (are_cons.mpr ⟨hid, hemail⟩) _
  have hremove : PassesOn K (removeAccount d.occasion r id) :=
    passesOn_owning hK d fun hid =>
      passesOn_told hK sealer d (.deleteUser id) (are_singleton.mpr hid) _
  have hmethod := hr.method
  cases hm : r.method with
  | get => exact hread (.inl hm)
  | head => exact hread (.inr hm)
  | patch => exact hedit hm
  | delete => exact hremove
  | post | other =>
    rw [hm] at hmethod
    simp [Endpoint.methods] at hmethod

theorem handsOn_dispatch {endpoint : Endpoint} (hr : Hits r endpoint) :
    HandsOn K (dispatch sealer d.occasion r endpoint) := by
  cases endpoint with
  | health => exact trivial
  | loginAvailable =>
    change HandsOn K (loginAvailable r)
    unfold loginAvailable
    cases r.queriedLogin with
    | error fault => exact trivial
    | ok login =>
      exact handsOn_respond (passesOn_told hK sealer d (.isLoginFree login) are_nil _)
  | register =>
    refine handsOn_respond ((asks_bodyOf r _).bind fun doc hdoc => ?_)
    have hemail := are_keptEmails hunchecked fun email he hrule => .newEmail hr hdoc he hrule
    exact passesOn_told hK sealer d (.register doc) hemail _
  | login =>
    refine handsOn_respond ((asks_bodyOf r _).bind fun doc hdoc => ?_)
    have hlogin : K doc.login := hunchecked _ (.login hr hdoc)
    exact passesOn_told hK sealer d (.loginWithPassword doc) (are_singleton.mpr hlogin) _
  | tokenLogin =>
    refine handsOn_respond ((asks_bodyOf r _).bind fun doc hdoc => ?_)
    have htoken : Are K (keptTokens [doc.token]) := by
      intro token hm
      obtain ⟨hmem, hshort⟩ := List.mem_filter.mp hm
      cases List.mem_singleton.mp hmem
      exact hunchecked _ (.token hr hdoc (of_decide_eq_true hshort))
    exact passesOn_told hK sealer d (.loginWithToken doc.token) htoken _
  | logout =>
    exact handsOn_respond (passesOn_ofSession hK d fun user huser =>
      passesOn_told hK sealer d (.logout user) (are_singleton.mpr huser) _)
  | me =>
    exact handsOn_respond (passesOn_ofSession hK d fun user huser =>
      passesOn_told hK sealer d (.getUser user) (are_singleton.mpr huser) _)
  | account segment => exact handsOn_account hK hunchecked sealer d hr
  | password segment =>
    refine handsOn_withId fun id _ => passesOn_owning hK d fun hid => ?_
    refine (asks_bodyOf r _).bind fun doc _ => ?_
    exact passesOn_told hK sealer d (.changePassword id doc) (are_singleton.mpr hid) _

theorem handsOn_handle : HandsOn K (handle sealer d.occasion r) := by
  unfold handle
  cases hpath : Endpoint.ofPath? r.path with
  | none => exact trivial
  | some endpoint =>
    change HandsOn K (if _ then _ else _)
    split
    · rename_i hmethod
      exact Program.Asks.bind (handsOn_dispatch hK hunchecked sealer d ⟨hpath, hmethod⟩) fun _ _ => trivial
    · exact trivial

end Requests

/-! ## The result -/

/-- A database whose rows have no U+0000 is sent none, but for texts of the request that go by no check for
it. So where those have none either, it makes no difference that the database refuses such texts. -/
theorem unchecked_texts_only (pool : Pool) (c : Connection σ) (sealer : Sealer) (d : Draw) (r : Request)
    {state : σ}
    (hreplies : ∀ e ∈ pool.exchanges c (handle sealer d.occasion r) state, RepliedWith IsSendable e.reply) :
    (∀ e ∈ pool.exchanges c (handle sealer d.occasion r) state, ∀ s ∈ e.statement.texts,
        IsSendable s ∨ Unchecked r s) ∧
      ((∀ s, Unchecked r s → IsSendable s) → ∀ refusal,
        serve (pool.backend (c.strict refusal)) sealer d.occasion r state =
          serve (pool.backend c) sealer d.occasion r state) := by
  constructor
  · -- The replies have texts of the first kind only, and so those of the second are texts of the request.
    have hprogram : HandsOn (fun s => IsSendable s ∨ Unchecked r s) (handle sealer d.occasion r) :=
      handsOn_handle (fun _ hs => .inl hs) (fun _ hs => .inr hs) sealer d
    exact exchanges_of_asks hprogram pool c fun e he => (hreplies e he).weaken fun _ => .inl
  · intro hchecked refusal
    have hprogram : HandsOn IsSendable (handle sealer d.occasion r) :=
      handsOn_handle (fun _ hs => hs) hchecked sealer d
    have hsent := exchanges_of_asks hprogram pool c hreplies
    unfold serve
    rw [run_strict hsent]

/-- Somebody with a session asks for an account, and the id in the path has such a character. -/
theorem id_with_zero_is_sent :
    let r : Request := ⟨.get, "/users/a%00b", [("authorization", Text.utf8Bytes "Bearer A".toList)], []⟩
    let session : Reply := .rows [tokenRow (.issued "ann" "A" default)]
    let s : Script := ⟨[.ok session, .ok session, .ok (.rows [])], [], []⟩
    let exchanges :=
      Pool.exchanges ⟨5, true⟩ Script.connection (handle ⟨4⟩ (default : Draw).occasion r) s
    (∀ e ∈ exchanges, RepliedWith IsSendable e.reply) ∧ (∃ e ∈ exchanges, "a\x00b" ∈ e.statement.texts) ∧
      ∀ e ∈ exchanges, ∀ s ∈ e.statement.texts, IsSendable s ∨ Unchecked r s := by
  intro r session s exchanges
  have hreplies : ∀ e ∈ exchanges, RepliedWith IsSendable e.reply := by
    subst exchanges s session r
    decide +kernel
  have hsent : ∃ e ∈ exchanges, "a\x00b" ∈ e.statement.texts := by
    subst exchanges s session r
    decide +kernel
  exact ⟨hreplies, hsent, (unchecked_texts_only ⟨5, true⟩ Script.connection ⟨4⟩ default r hreplies).1⟩

/-- Nobody has the login, and it has such a character. The client is told of a failure within the service,
and not that the credentials are wrong. -/
theorem login_with_zero_fails :
    let r : Request := ⟨.post, "/auth/login", [("content-type", Text.utf8Bytes "application/json".toList)],
      Text.utf8Bytes (Api.passwordLogin.encode ⟨"a\x00b", "correct horse", false⟩).toList⟩
    let s : Script := ⟨[.ok (.rows [])], [], []⟩
    let database :=
      Script.connection.strict ⟨.unknown, "invalid byte sequence for encoding \"UTF8\": 0x00"⟩
    let pool : Pool := ⟨5, true⟩
    let o : Occasion := (default : Draw).occasion
    (∃ e ∈ pool.exchanges database (handle ⟨4⟩ o r) s, "a\x00b" ∈ e.statement.texts) ∧
      (serve (pool.backend database) ⟨4⟩ o r s).response.status = 500 ∧
      (serve (pool.backend Script.connection) ⟨4⟩ o r s).response.status = 401 := by
  decide +kernel

end PlayerAccounts.Http
