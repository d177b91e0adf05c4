import PlayerAccounts.Proofs.Service.Operations
/-!
# What operations ask the store

`Makes` lists the calls of each operation, with what was found in order before a call is made: the rules
that are kept, the password that was sealed, and the answer that tells whom the call is for. Nothing is
taken for granted about the store but that its answers are of some kind, so the list serves every backend.
-/
namespace PlayerAccounts.Service
set_option autoImplicit false

open PlayerAccounts.Account
open PlayerAccounts.Store
open PlayerAccounts.Time (Instant)

variable {α β : Type}

/-- A kind of answers to each call. -/
abbrev AnswerKind : Type := (call : Call) → Except StoreError call.Answer → Prop

/-! ## Programs -/

namespace Program

/-- As long as the answers are of their kind, the program makes calls of one kind only, and comes to
results of one kind. -/
def Asks (P : Call → Prop) (A : AnswerKind) (Q : α → Prop) : Program α → Prop
  | done a => Q a
  | ask call next => P call ∧ ∀ answer, A call answer → (next answer).Asks P A Q
  | note _ next => next.Asks P A Q

namespace Asks
variable {P P' : Call → Prop} {A : AnswerKind} {Q Q' : α → Prop} {R : β → Prop} {p : Program α}
  {f : α → Program β}

theorem bind (h : p.Asks P A Q) (hf : ∀ a, Q a → (f a).Asks P A R) : (p >>= f).Asks P A R := by
  change (p.bind f).Asks P A R
  induction p with
  | done a => exact hf a h
  | ask call next ih => exact ⟨h.1, fun answer ha => ih answer (h.2 answer ha)⟩
  | note event next ih => exact ih h

theorem weaken (h : p.Asks P A Q) (hP : ∀ call, P call → P' call) (hQ : ∀ a, Q a → Q' a) :
    p.Asks P' A Q' := by
  induction p with
  | done a => exact hQ a h
  | ask call next ih => exact ⟨hP call h.1, fun answer ha => ih answer (h.2 answer ha)⟩
  | note event next ih => exact ih h

/-- What calls of this kind keep, and what makes the answers be of theirs, a program keeps. -/
theorem eval {I : Tables → Prop}
    (hcall : ∀ {t call}, I t → P call → A call (t.answer call).1 ∧ I (t.answer call).2)
    (h : p.Asks P A Q) {t : Tables} (ht : I t) : Q (p.eval t).1 ∧ I (p.eval t).2 := by
  induction p generalizing t with
  | done a => exact ⟨h, ht⟩
  | ask call next ih =>
    obtain ⟨hanswer, hafter⟩ := hcall ht h.1
    exact ih _ (h.2 _ hanswer) hafter
  | note event next ih => exact ih h ht

end Asks
end Program

/-! ## Actions -/

namespace Action

def Asks (P : Call → Prop) (A : AnswerKind) (Q : α → Prop) (a : Action α) : Prop :=
  Program.Asks P A (fun result => ∀ x, result = .ok x → Q x) a.run

namespace Asks
variable {P P' : Call → Prop} {A : AnswerKind} {Q Q' : α → Prop} {R : β → Prop} {a : Action α}

theorem pure {x : α} (h : Q x) : Asks P A Q (pure x) := fun _ he => Except.ok.inj he ▸ h

theorem refusal (e : ServiceError) : Asks P A Q (throw e) := fun _ he => nomatch he

theorem bind {f : α → Action β} (h : Asks P A Q a) (hf : ∀ x, Q x → Asks P A R (f x)) :
    Asks P A R (a >>= f) := by
  refine Program.Asks.bind h fun result hresult => ?_
  cases result with
  | ok x => exact hf x (hresult x rfl)
  | error e => exact refusal e

theorem weaken (h : Asks P A Q a) (hP : ∀ call, P call → P' call) (hQ : ∀ x, Q x → Q' x) :
    Asks P' A Q' a :=
  Program.Asks.weaken h hP fun _ hresult x hx => hQ x (hresult x hx)

theorem whatever (h : Asks P A Q a) : Asks P A (fun _ => True) a :=
  h.weaken (fun _ hP => hP) fun _ _ => trivial

theorem ask_bind {call : Call} {f : Except StoreError call.Answer → Action β} (hP : P call)
    (hok : ∀ x, A call (.ok x) → Asks P A R (f (.ok x))) (herror : ∀ e, Asks P A R (f (.error e))) :
    Asks P A R (ask call >>= f) := by
  refine ⟨hP, fun answer ha => ?_⟩
  cases answer with
  | ok x => exact hok x ha
  | error e => exact herror e

theorem demand {call : Call} (hP : P call) : Asks P A (fun x => A call (.ok x)) (demand call) :=
  ask_bind hP (fun _ ha => pure ha) fun _ => refusal _

theorem note (event : Event) : Asks P A (fun _ => True) (note event) := fun _ _ => trivial

theorem require (broken? : Option BrokenRule) : Asks P A (fun _ => broken? = none) (require broken?) := by
  cases broken? with
  | none => exact pure rfl
  | some rule => exact refusal _

theorem unlessNotFound {e : StoreError} {missing : Action α} (h : Asks P A Q missing) :
    Asks P A Q (if e.isNotFound then missing else throw (ServiceError.ofStore e)) := by
  split
  · exact h
  · exact refusal _

end Asks
end Action

open PlayerAccounts.Service.Action

/-! ## The calls of each operation -/

/-- The calls that an operation can make when the answers to its calls are of this kind. -/
inductive Makes (A : AnswerKind) (sealer : Sealer) (o : Occasion) : Operation → Call → Prop where
  | loginAsked {login : String} : brokenByLogin? login = none →
      Makes A sealer o (.isLoginFree login) (.credentialOfLogin login)
  | newLoginAsked {r : Api.Registration} : brokenByLogin? r.login = none →
      Makes A sealer o (.register r) (.credentialOfLogin r.login)
  | newUser {r : Api.Registration} : r.email.bind brokenByEmail? = none →
      Makes A sealer o (.register r) (.addUser (User.fresh o.userId o.first r.email))
  | newCredential {r : Api.Registration} {user : User} {secret : SealedPassword} :
      brokenByLogin? r.login = none → sealPassword sealer.cost r.password o.salt = .ok secret →
      A (.addUser (User.fresh o.userId o.first r.email)) (.ok user) →
      Makes A sealer o (.register r) (.setCredential ⟨user.id, r.login, secret.hash, secret.salt⟩)
  | newUserRemoved {r : Api.Registration} {user : User} :
      A (.addUser (User.fresh o.userId o.first r.email)) (.ok user) →
      Makes A sealer o (.register r) (.removeUser user.id)
  | newToken {r : Api.Registration} {user : User} :
      A (.addUser (User.fresh o.userId o.first r.email)) (.ok user) →
      Makes A sealer o (.register r) (.issueToken user.id o.token o.second)
  | loginLookedUp {r : Api.PasswordLogin} : Makes A sealer o (.loginWithPassword r) (.credentialOfLogin r.login)
  | loginTouched {r : Api.PasswordLogin} {c : Credential} : A (.credentialOfLogin r.login) (.ok c) →
      Makes A sealer o (.loginWithPassword r) (.amendUser c.userId (Changes.touch o.first))
  | loginToken {r : Api.PasswordLogin} {id : String} {user : User} :
      A (.amendUser id (Changes.touch o.first)) (.ok user) →
      Makes A sealer o (.loginWithPassword r) (.issueToken user.id o.token o.second)
  | tokenUsed {token : String} : token.utf8ByteSize ≤ tokenLength →
      Makes A sealer o (.loginWithToken token) (.useToken token o.first)
  | tokenTouched {token : String} {row : SessionToken} : A (.useToken token o.first) (.ok row) →
      Makes A sealer o (.loginWithToken token) (.amendUser row.userId (Changes.touch o.second))
  | tokenValidated {token : String} : token.utf8ByteSize ≤ tokenLength →
      Makes A sealer o (.validateToken token) (.useToken token o.first)
  | tokenIssued {id : String} : Makes A sealer o (.issueToken id) (.issueToken id o.token o.first)
  | tokenRevoked {id : String} : Makes A sealer o (.logout id) (.revokeToken id)
  | userRead {id : String} : Makes A sealer o (.getUser id) (.findUser id)
  | emailCompared {id : String} {request : UserUpdate} :
      Makes A sealer o (.updateUser id request) (.findUser id)
  | userAmended {id : String} {request : UserUpdate} {confirmed : Option Bool} :
      brokenByEdit? request.email = none →
      Makes A sealer o (.updateUser id request)
        (.amendUser id { request.changes with emailConfirmed := confirmed })
  | profileAmended {id : String} {edit : ProfileEdit} {call : Call} :
      Makes A sealer o (.updateUser id edit.update) call → Makes A sealer o (.updateProfile id edit) call
  | userRemoved {id : String} : Makes A sealer o (.deleteUser id) (.removeUser id)
  | credentialRead {id : String} {r : Api.PasswordChange} :
      Makes A sealer o (.changePassword id r) (.credentialOfUser id)
  | credentialSealed {id : String} {r : Api.PasswordChange} {c : Credential} {secret : SealedPassword} :
      A (.credentialOfUser id) (.ok c) → sealPassword sealer.cost r.newPassword o.salt = .ok secret →
      Makes A sealer o (.changePassword id r) (.setCredential ⟨id, c.login, secret.hash, secret.salt⟩)
  | sessionEnded {id : String} {r : Api.PasswordChange} :
      Makes A sealer o (.changePassword id r) (.revokeToken id)

/-! ## Operations -/

section Operations
variable {P : Call → Prop} {A : AnswerKind} (sealer : Sealer) (o : Occasion)

theorem asks_isLoginFree {login : String} (hP : brokenByLogin? login = none → P (.credentialOfLogin login)) :
    Asks P A (fun _ => brokenByLogin? login = none) (isLoginFree login) := by
  refine (Asks.require _).bind fun _ hlogin => ?_
  exact Asks.ask_bind (hP hlogin) (fun _ _ => Asks.pure hlogin) fun _ =>
    Asks.unlessNotFound (Asks.pure hlogin)

theorem asks_issueToken {id : String} (hP : P (.issueToken id o.token o.first)) :
    Asks P A (fun _ => True) (issueToken o id) := by
  refine Asks.ask_bind hP (fun _ _ => Asks.pure trivial) fun e => ?_
  cases e <;> exact Asks.refusal _

theorem asks_issueTokenIf (wanted : Bool) {id : String} (hP : P (.issueToken id o.token o.first)) :
    Asks P A (fun _ => True) (issueTokenIf wanted o id) := by
  cases wanted with
  | false => exact Asks.pure trivial
  | true => exact (asks_issueToken o hP).bind fun _ _ => Asks.pure trivial

theorem asks_validateToken {now : Instant} {token : String}
    (hP : token.utf8ByteSize ≤ tokenLength → P (.useToken token now)) :
    Asks P A (fun userId => ∃ row, A (.useToken token now) (.ok row) ∧ row.userId = userId)
      (validateToken now token) := by
  unfold validateToken
  by_cases hlen : token.utf8ByteSize = 0 ∨ tokenLength < token.utf8ByteSize
  · rw [if_pos hlen]
    exact Asks.refusal _
  · rw [if_neg hlen]
    have hshort : token.utf8ByteSize ≤ tokenLength := by omega
    exact Asks.ask_bind (hP hshort) (fun row ha => Asks.pure ⟨row, ha, rfl⟩) fun _ =>
      Asks.unlessNotFound (Asks.refusal _)

theorem asks_sealNew (password : String) :
    Asks P A (fun secret => sealPassword sealer.cost password o.salt = .ok secret)
      (sealNew sealer o password) := by
  unfold sealNew
  cases sealPassword sealer.cost password o.salt with
  | ok secret => exact Asks.pure rfl
  | error fault => exact Asks.refusal _

theorem asks_register (r : Api.Registration) :
    Asks (Makes A sealer o (.register r)) A (fun _ => True) (register sealer o r) := by
  refine (Asks.require _).bind fun _ hlogin => (Asks.require _).bind fun _ _ => ?_
  refine (Asks.require _).bind fun _ hemail => ?_
  refine (asks_isLoginFree fun hlogin => .newLoginAsked hlogin).bind fun isFree _ => ?_
  cases isFree with
  | false => exact Asks.refusal _
  | true =>
  refine (asks_sealNew sealer o r.password).bind fun secret hseal => ?_
  refine (Asks.demand (.newUser hemail)).bind fun user huser => ?_
  refine Asks.ask_bind (.newCredential hlogin hseal huser) (fun _ _ => ?_) fun e => ?_
  · exact (asks_issueTokenIf o.later r.remember (.newToken huser)).bind fun _ _ => Asks.pure trivial
  · -- The refusal is the same, whether or not the user could be removed.
    refine Asks.ask_bind (.newUserRemoved huser) (fun _ _ => ?_) fun _ => ?_
    · cases e <;> exact Asks.refusal _
    · refine (Asks.note _).bind fun _ _ => ?_
      cases e <;> exact Asks.refusal _

theorem asks_passwordFits (password : String) (c : Credential) :
    Asks P A (fun _ => True) (passwordFits password c) := by
  unfold passwordFits
  cases checkPassword password c.hash c.salt with
  | ok fits => exact Asks.pure trivial
  | error fault => exact (Asks.note _).bind fun _ _ => Asks.pure trivial

theorem asks_loginWithPassword (r : Api.PasswordLogin) :
    Asks (Makes A sealer o (.loginWithPassword r)) A (fun _ => True) (loginWithPassword o r) := by
  refine Asks.ask_bind .loginLookedUp (fun c hc => ?_) fun _ => Asks.unlessNotFound (Asks.refusal _)
  refine (asks_passwordFits r.password c).bind fun fits _ => ?_
  cases fits with
  | false => exact Asks.refusal _
  | true =>
    refine (Asks.demand (.loginTouched hc)).bind fun user huser => ?_
    exact (asks_issueTokenIf o.later r.remember (.loginToken huser)).bind fun _ _ => Asks.pure trivial

theorem asks_loginWithToken (token : String) :
    Asks (Makes A sealer o (.loginWithToken token)) A (fun _ => True) (loginWithToken o token) := by
  refine (asks_validateToken .tokenUsed).bind fun userId hrow => ?_
  obtain ⟨row, hrow, rfl⟩ := hrow
  exact (Asks.demand (.tokenTouched hrow)).bind fun _ _ => Asks.pure trivial

/-- The confirmation is all that an update adds to what it was asked for. -/
theorem asks_withConfirmation {id : String} {changes : Changes} (hP : P (.findUser id)) :
    Asks P A (fun settled => ∃ confirmed, settled = { changes with emailConfirmed := confirmed })
      (withConfirmation id changes) := by
  have hsame : ∃ confirmed, changes = { changes with emailConfirmed := confirmed } := ⟨_, rfl⟩
  unfold withConfirmation
  split
  · refine (Asks.demand hP).bind fun user _ => Asks.pure ?_
    split
    · exact hsame
    · exact ⟨_, rfl⟩
  · exact Asks.pure hsame

theorem asks_updateUser (id : String) (request : UserUpdate) :
    Asks (Makes A sealer o (.updateUser id request)) A (fun _ => True) (updateUser id request) := by
  refine (Asks.require _).bind fun _ hemail => ?_
  refine (asks_withConfirmation .emailCompared).bind fun settled hsettled => ?_
  obtain ⟨confirmed, rfl⟩ := hsettled
  exact (Asks.demand (.userAmended hemail)).whatever

theorem asks_changePassword (id : String) (r : Api.PasswordChange) :
    Asks (Makes A sealer o (.changePassword id r)) A (fun _ => True) (changePassword sealer o id r) := by
  refine (Asks.require _).bind fun _ _ => (Asks.demand .credentialRead).bind fun c hc => ?_
  split
  · refine (asks_sealNew sealer o r.newPassword).bind fun secret hseal => ?_
    exact (Asks.demand (.credentialSealed hc hseal)).bind fun _ _ => (Asks.demand .sessionEnded).whatever
  · exact Asks.refusal _

/-- The list is complete. -/
theorem asks_action (op : Operation) :
    Asks (Makes A sealer o op) A (fun _ => True) (op.action sealer o) := by
  cases op with
  | isLoginFree login => exact (asks_isLoginFree .loginAsked).whatever
  | register r => exact asks_register sealer o r
  | loginWithPassword r => exact asks_loginWithPassword sealer o r
  | loginWithToken token => exact asks_loginWithToken sealer o token
  | validateToken token => exact (asks_validateToken .tokenValidated).whatever
  | issueToken id => exact asks_issueToken o .tokenIssued
  | logout id => exact (Asks.demand .tokenRevoked).whatever
  | getUser id => exact (Asks.demand .userRead).whatever
  | updateUser id request => exact asks_updateUser sealer o id request
  | updateProfile id edit =>
    exact (asks_updateUser sealer o id edit.update).weaken (fun _ => .profileAmended) fun _ h => h
  | deleteUser id => exact (Asks.demand .userRemoved).whatever
  | changePassword id r => exact asks_changePassword sealer o id r

end Operations
end PlayerAccounts.Service
