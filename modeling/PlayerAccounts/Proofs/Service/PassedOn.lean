import PlayerAccounts.Proofs.Service.StoredRows
import PlayerAccounts.Proofs.Sql.Texts
/-!
# Texts that operations pass on

Some arguments of an operation go to the store as they are, others only if they keep a rule. The rules for
logins leave nothing that cannot be sent to a database; the rule for emails and the limit for session tokens
do. All other texts of a call are drawn, sealed, or out of the store.
-/
namespace PlayerAccounts.Service
set_option autoImplicit false

open PlayerAccounts.Account
open PlayerAccounts.Sql
open PlayerAccounts.Store

/-! ## Texts that can be sent -/

theorem isSendable_of_all {s : String} {p : Char → Bool} (hno : p '\x00' = false)
    (h : ∀ c ∈ s.toList, p c = true) : IsSendable s := fun hc => by
  rw [h _ hc] at hno
  cases hno

theorem isSendable_of_isUserId {id : String} (h : isUserId id = true) : IsSendable id := by
  simp only [isUserId, Bool.and_eq_true, List.all_eq_true] at h
  exact isSendable_of_all (by decide) h.1.1.2

theorem isSendable_of_isToken {token : String} (h : isToken token = true) : IsSendable token := by
  simp only [isToken, Bool.and_eq_true, List.all_eq_true] at h
  exact isSendable_of_all (by decide) h.2

theorem isSendable_of_isSalt {salt : String} (h : isSalt salt = true) : IsSendable salt := by
  simp only [isSalt, Bool.and_eq_true, List.all_eq_true] at h
  exact isSendable_of_all (by decide) h.2

theorem isSendable_of_brokenByLogin? {login : String} (h : brokenByLogin? login = none) : IsSendable login :=
  isSendable_of_all (by decide) (isLogin_of_unbroken h).characters

/-! ## Operations -/

/-- The emails among these that keep the rule. -/
def keptEmails (emails : List String) : List String := emails.filter fun email => brokenByEmail? email == none

/-- The tokens among these that are not too long. -/
def keptTokens (tokens : List String) : List String :=
  tokens.filter fun token => token.utf8ByteSize ≤ tokenLength

/-- What an operation passes on to the store as it is given, as far as it may be anything that cannot be
sent. -/
def Operation.passedOn : Operation → List String
  | isLoginFree _ => []
  | register r => keptEmails r.email.toList
  | loginWithPassword r => [r.login]
  | loginWithToken token | validateToken token => keptTokens [token]
  | issueToken id | logout id | getUser id | deleteUser id | changePassword id _ => [id]
  | updateUser id request => id :: keptEmails request.email.target?.join.toList
  | updateProfile id edit => id :: keptEmails edit.email.target?.join.toList

section Operations
variable {K : String → Prop} {sealer : Sealer} {d : Draw}

theorem sendable_of_seal {password : String} {secret : SealedPassword}
    (h : sealPassword sealer.cost password d.occasion.salt = .ok secret) :
    IsSendable secret.hash ∧ IsSendable secret.salt := by
  obtain ⟨hsalt, hhash⟩ := sealed_of_draw h
  exact ⟨isSendable_of_all (by decide) hhash.printable, isSendable_of_isSalt hsalt⟩

theorem are_of_keptEmails {email? : Option String} (h : Are K (keptEmails email?.toList))
    (hrule : email?.bind brokenByEmail? = none) : Are K email?.toList := by
  cases email? with
  | none => exact are_nil
  | some email =>
    have hrule : brokenByEmail? email = none := hrule
    simpa [keptEmails, hrule] using h

theorem asking_amended {id : String} {request : UserUpdate} {confirmed : Option Bool}
    (h : Are K (id :: keptEmails request.email.target?.join.toList))
    (hrule : brokenByEdit? request.email = none) :
    AskingWith K (.amendUser id { request.changes with emailConfirmed := confirmed }) := by
  obtain ⟨hid, hemails⟩ := are_cons.mp h
  have hkept : request.email.target?.join.bind brokenByEmail? = none := by
    cases hedit : request.email with
    | keep => rfl
    | clear => rfl
    | set email =>
      rw [hedit] at hrule
      exact hrule
  exact are_cons.mpr ⟨hid, are_of_keptEmails hemails hkept⟩

theorem asking_useToken {token : String} {now : Time.Instant} (h : Are K (keptTokens [token]))
    (hshort : token.utf8ByteSize ≤ tokenLength) : AskingWith K (.useToken token now) :=
  are_singleton.mpr (h token (by simpa [keptTokens] using hshort))

theorem asking_setCredential {id login password : String} {secret : SealedPassword}
    (hK : ∀ s, IsSendable s → K s) (hid : K id) (hlogin : K login)
    (hseal : sealPassword sealer.cost password d.occasion.salt = .ok secret) :
    AskingWith K (.setCredential ⟨id, login, secret.hash, secret.salt⟩) := by
  obtain ⟨hhash, hsalt⟩ := sendable_of_seal hseal
  simp [AskingWith, Call.texts, Credential.texts, hid, hlogin, hK _ hhash, hK _ hsalt]

/-- The texts of every call are passed on, can be sent, or come out of the store. -/
theorem asking_of_makes (hK : ∀ s, IsSendable s → K s) {op : Operation} (h : Are K op.passedOn) {call : Call}
    (hcall : Makes (AnsweringWith K) sealer d.occasion op call) : AskingWith K call := by
  have hdrawnId : K d.occasion.userId := hK _ (isSendable_of_isUserId (isUserId_drawnUserId d.userId))
  have hdrawnToken : K d.occasion.token := hK _ (isSendable_of_isToken (isToken_drawnToken d.token))
  cases hcall with
  | loginAsked hlogin | newLoginAsked hlogin =>
    exact are_singleton.mpr (hK _ (isSendable_of_brokenByLogin? hlogin))
  | newUser hemail => exact are_cons.mpr ⟨hdrawnId, are_of_keptEmails h hemail⟩
  | newCredential hlogin hseal huser =>
    exact asking_setCredential hK (are_cons.mp (huser _ rfl)).1
      (hK _ (isSendable_of_brokenByLogin? hlogin)) hseal
  | newUserRemoved huser => exact are_singleton.mpr (are_cons.mp (huser _ rfl)).1
  | newToken huser | loginToken huser =>
    exact are_cons.mpr ⟨(are_cons.mp (huser _ rfl)).1, are_singleton.mpr hdrawnToken⟩
  | loginTouched hc => exact are_singleton.mpr (are_cons.mp (hc _ rfl)).1
  | tokenTouched hrow => exact are_singleton.mpr (are_cons.mp (hrow _ rfl)).1
  | tokenUsed hshort | tokenValidated hshort => exact asking_useToken h hshort
  | tokenIssued => exact are_cons.mpr ⟨(are_cons.mp h).1, are_singleton.mpr hdrawnToken⟩
  | emailCompared => exact are_singleton.mpr (are_cons.mp h).1
  | userAmended hrule => exact asking_amended h hrule
  | profileAmended hupdate =>
    cases hupdate with
    | emailCompared => exact are_singleton.mpr (are_cons.mp h).1
    | userAmended hrule => exact asking_amended h hrule
  | credentialSealed hc hseal =>
    have hlogin := (are_cons.mp (are_cons.mp (hc _ rfl)).2).1
    exact asking_setCredential hK (are_cons.mp h).1 hlogin hseal
  | loginLookedUp | tokenRevoked | userRead | userRemoved | credentialRead | sessionEnded => exact h

end Operations
end PlayerAccounts.Service
