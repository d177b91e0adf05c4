import PlayerAccounts.Proofs.Service.Stages
import PlayerAccounts.Store.Drill
/-!
# One failed call

What a registration and a change of password leave behind when one of their calls fails and the store does
everything else that it is asked to do. Up to the credential, what has been done is undone or has not been
done yet. The last call of either comes too late for that: the account is complete and the password is
changed by then.
-/
namespace PlayerAccounts.Service
set_option autoImplicit false

open PlayerAccounts.Account
open PlayerAccounts.Store

/-! ## Programs with a failed call -/

/-- What is left when a program has run and one of its calls may have failed. -/
structure Aftermath (α : Type) where
  value : α
  tables : Tables
  /-- The call that failed. -/
  failed : Option Call

namespace Program
variable {α : Type}

/-- Runs a program on the store in memory, except that the call at this position, counted from nought,
fails and leaves the tables alone. -/
def evalFailing (e : StoreError) : Nat → Program α → Tables → Aftermath α
  | _, .done a, t => ⟨a, t, none⟩
  | 0, .ask call next, t => ⟨((next (.error e)).eval t).1, ((next (.error e)).eval t).2, some call⟩
  | n + 1, .ask call next, t => (next (t.answer call).1).evalFailing e n (t.answer call).2
  | n, .note _ next, t => next.evalFailing e n t

theorem evalFailing_done (e : StoreError) (n : Nat) (a : α) (t : Tables) :
    (done a).evalFailing e n t = ⟨a, t, none⟩ := by
  cases n <;> rfl

theorem evalFailing_succ (e : StoreError) (n : Nat) {call : Call} {t t' : Tables}
    {answer : Except StoreError call.Answer} {next : Except StoreError call.Answer → Program α}
    (hcall : t.answer call = (answer, t')) :
    (ask call next).evalFailing e (n + 1) t = (next answer).evalFailing e n t' := by
  rw [evalFailing, hcall]

theorem eval_of_answer {call : Call} {t t' : Tables} {answer : Except StoreError call.Answer}
    {next : Except StoreError call.Answer → Program α} (hcall : t.answer call = (answer, t')) :
    (ask call next).eval t = (next answer).eval t' := by
  rw [eval, hcall]

theorem evalFailing_of_within (e : StoreError) {n : Nat} {p : Program α} (h : p.Within n) (t : Tables) :
    p.evalFailing e n t = ⟨(p.eval t).1, (p.eval t).2, none⟩ := by
  induction p generalizing n t with
  | done a => cases n <;> rfl
  | ask call next ih =>
    cases n with
    | zero => exact h.elim
    | succ n => exact ih _ (h _) _
  | note event next ih =>
    cases n with
    | zero => exact h.elim
    | succ n =>
      have hnext := ih (within_succ h) t
      exact hnext

theorem run_drilled_over {fault : PlannedFault} (hover : fault.failing = 0) (p : Program α) (t : Tables) :
    (p.run Tables.backend.drilled ([fault], t)).result = .ok (p.eval t).1 ∧
      (p.run Tables.backend.drilled ([fault], t)).state.2 = (p.eval t).2 := by
  induction p generalizing t with
  | done a => exact ⟨rfl, rfl⟩
  | ask call next ih =>
    have hpass : Tables.backend.drilled.answer call ([fault], t) =
        (.ok (t.answer call).1, [fault], (t.answer call).2) := by
      simp [Backend.drilled, nextFault, hover, Tables.backend]
    rw [run, hpass]
    exact ih (t.answer call).1 (t.answer call).2
  | note event next ih => exact ih t

/-- A drill that fails one call fails the call at some position. -/
theorem run_drilled (e : StoreError) (kind : Kind) (passing : Nat) (p : Program α) (t : Tables) :
    ∃ n, (p.run Tables.backend.drilled ([⟨kind, passing, 1, .refusal e⟩], t)).result =
        .ok (p.evalFailing e n t).value ∧
      (p.run Tables.backend.drilled ([⟨kind, passing, 1, .refusal e⟩], t)).state.2 =
        (p.evalFailing e n t).tables := by
  induction p generalizing passing t with
  | done a => exact ⟨0, rfl, rfl⟩
  | ask call next ih =>
    by_cases hfails : kind = call.kind ∧ passing = 0
    · obtain ⟨rfl, rfl⟩ := hfails
      have hfail : Tables.backend.drilled.answer call ([⟨call.kind, 0, 1, .refusal e⟩], t) =
          (.ok (.error e), [⟨call.kind, 0, 0, .refusal e⟩], t) := by
        simp [Backend.drilled, nextFault, Failure.answer]
      refine ⟨0, ?_⟩
      rw [run, hfail]
      exact run_drilled_over rfl (next (.error e)) t
    · have hpass : ∃ left, Tables.backend.drilled.answer call ([⟨kind, passing, 1, .refusal e⟩], t) =
          (.ok (t.answer call).1, [⟨kind, left, 1, .refusal e⟩], (t.answer call).2) := by
        by_cases hkind : kind = call.kind
        · have hpassing : passing ≠ 0 := fun hzero => hfails ⟨hkind, hzero⟩
          exact ⟨passing - 1, by simp [Backend.drilled, nextFault, hkind, hpassing, Tables.backend]⟩
        · exact ⟨passing, by simp [Backend.drilled, nextFault, hkind, Tables.backend]⟩
      obtain ⟨left, hpass⟩ := hpass
      obtain ⟨n, hrest⟩ := ih (t.answer call).1 left (t.answer call).2
      refine ⟨n + 1, ?_⟩
      rw [run, hpass]
      exact hrest
  | note event next ih =>
    obtain ⟨n, hrest⟩ := ih passing t
    exact ⟨n, by cases n <;> exact hrest⟩

end Program

/-- If the operation came to an error, the tables are as before, unless a call had failed that was too
late. -/
def UndoneUnless {α : Type} (t : Tables) (late : Call → Tables → Prop)
    (a : Aftermath (Except ServiceError α)) : Prop :=
  ∀ error, a.value = .error error → a.tables = t ∨ ∃ call, a.failed = some call ∧ late call a.tables

/-- The same when the call that fails is the first one of a kind after so many that pass: the operation ends,
and if it came to an error, the tables are as before, unless the call was too late. -/
def UndoneAfterDrill {α : Type} (t : Tables) (late : Call → Tables → Prop) (e : StoreError)
    (p : Program (Except ServiceError α)) : Prop :=
  ∀ kind passing, ∃ value,
    (p.run Tables.backend.drilled ([⟨kind, passing, 1, .refusal e⟩], t)).result = .ok value ∧
      ∀ error, value = .error error →
        (p.run Tables.backend.drilled ([⟨kind, passing, 1, .refusal e⟩], t)).state.2 = t ∨
          ∃ call, late call (p.run Tables.backend.drilled ([⟨kind, passing, 1, .refusal e⟩], t)).state.2

section Undone
variable {α : Type} {t t' : Tables} {late : Call → Tables → Prop}

theorem UndoneAfterDrill.of_failing {e : StoreError} {p : Program (Except ServiceError α)}
    (h : ∀ n, UndoneUnless t late (p.evalFailing e n t)) : UndoneAfterDrill t late e p := by
  intro kind passing
  obtain ⟨n, hresult, htables⟩ := Program.run_drilled e kind passing p t
  refine ⟨_, hresult, fun error he => ?_⟩
  rw [htables]
  exact (h n error he).imp_right fun ⟨call, _, hlate⟩ => ⟨call, hlate⟩

theorem UndoneUnless.of_tables {a : Aftermath (Except ServiceError α)} (ht : a.tables = t) :
    UndoneUnless t late a := fun _ _ => .inl ht

theorem UndoneUnless.of_done (e : StoreError) (n : Nat) (value : Except ServiceError α) :
    UndoneUnless t late ((Program.done value).evalFailing e n t) := by
  rw [Program.evalFailing_done]
  exact .of_tables rfl

theorem UndoneUnless.of_done_ok (e : StoreError) (n : Nat) (result : α) :
    UndoneUnless t late ((Program.done (.ok result)).evalFailing e n t') := by
  rw [Program.evalFailing_done]
  intro error he
  cases he

end Undone

/-! ## Registration -/

/-- A user who gets no credential is removed again. -/
theorem removing_eval {t : Tables} (h : t.Sound) {user : User} (hnew : user.id ∉ t.users)
    (r : Api.Registration) (reason : StoreError) :
    ((removing r user reason).eval (t.putUser user)).2 = t := by
  have hcall : (t.putUser user).answer (.removeUser user.id) = (.ok (), t) := by
    rw [Tables.answer, Tables.removeUser_of_mem (t.mem_putUser_self user), h.without_putUser hnew]
  have hstep : (removing r user reason).eval (t.putUser user) = _ := Program.eval_of_answer hcall
  rw [hstep]
  rfl

section Registration
variable {t : Tables} {sealer : Sealer} {o : Occasion} {r : Api.Registration} {secret : SealedPassword}
  (e : StoreError) (n : Nat)

/-- The call that is too late for a registration: the account is there, but for the session token. -/
def LeavesAccount (sealer : Sealer) (o : Occasion) (r : Api.Registration) (t : Tables) (call : Call)
    (left : Tables) : Prop :=
  call = .issueToken o.userId o.token o.second ∧
    ∃ secret, sealPassword sealer.cost r.password o.salt = .ok secret ∧ left = withRegistered t o r secret

section Failing
variable (h : t.Sound) (hnew : o.userId ∉ t.users) (hfree : t.TokenFree o.token)
  (hlogin : t.LoginFree r.login)
  (hseal : sealPassword sealer.cost r.password o.salt = .ok secret)
include h hfree hlogin hseal

theorem opening_failing : UndoneUnless t (LeavesAccount sealer o r t)
    ((opening r.remember o.later (User.fresh o.userId o.first r.email)).evalFailing e n
      (withRegistered t o r secret)) := by
  cases r.remember with
  | false => exact .of_done_ok e n _
  | true =>
    cases n with
    | zero =>
      intro error he
      have hleft : ((opening true o.later (User.fresh o.userId o.first r.email)).evalFailing e 0
          (withRegistered t o r secret)).tables = withRegistered t o r secret := by
        cases e <;> rfl
      exact .inr ⟨_, rfl, rfl, secret, hseal, hleft⟩
    | succ n =>
      have hm : o.userId ∈ (withRegistered t o r secret).users :=
        t.mem_putUser_self (User.fresh o.userId o.first r.email)
      have hcall : (withRegistered t o r secret).answer (.issueToken o.userId o.token o.second) = _ :=
        (withRegistered_sound h o hlogin secret).issueToken_of_free hm
          (fun hr he => absurd he (hfree hr)) o.second
      have hstep : (opening true o.later (User.fresh o.userId o.first r.email)).evalFailing e (n + 1)
          (withRegistered t o r secret) = _ := Program.evalFailing_succ e n hcall
      rw [hstep]
      exact .of_done_ok e n _

include hnew

theorem enrolling_failing : UndoneUnless t (LeavesAccount sealer o r t)
    ((enrolling o r secret (User.fresh o.userId o.first r.email)).evalFailing e n
      (t.putUser (User.fresh o.userId o.first r.email))) := by
  have hm : o.userId ∈ (t.putUser (User.fresh o.userId o.first r.email)).users :=
    t.mem_putUser_self _
  cases n with
  | zero => exact .of_tables (removing_eval h hnew r e)
  | succ n =>
    have hcall : (t.putUser (User.fresh o.userId o.first r.email)).answer
        (.setCredential ⟨o.userId, r.login, secret.hash, secret.salt⟩) = _ :=
      (h.putUser _).setCredential_of_free hm fun hc he => absurd he (hlogin hc)
    have hstep : (enrolling o r secret (User.fresh o.userId o.first r.email)).evalFailing e (n + 1)
        (t.putUser (User.fresh o.userId o.first r.email)) = _ := Program.evalFailing_succ e n hcall
    rw [hstep]
    exact opening_failing e n h hfree hlogin hseal

theorem adding_failing : UndoneUnless t (LeavesAccount sealer o r t)
    ((adding o r secret).evalFailing e n t) := by
  cases n with
  | zero => exact .of_tables rfl
  | succ n =>
    have hcall : t.answer (.addUser (User.fresh o.userId o.first r.email)) = _ :=
      Tables.addUser_of_new hnew
    have hstep : (adding o r secret).evalFailing e (n + 1) t = _ := Program.evalFailing_succ e n hcall
    rw [hstep]
    exact enrolling_failing e n h hnew hfree hlogin hseal

end Failing

section Whole
variable (h : t.Sound) (hnew : o.userId ∉ t.users) (hfree : t.TokenFree o.token)
include h hnew

/-- Where somebody else has the login, which the look-up may have failed to tell, the user is added and
removed again. -/
theorem adding_taken {id : String} {c : Credential} (hc : t.credentials[id]? = some c)
    (hl : c.login = r.login) : ((adding o r secret).eval t).2 = t := by
  have hadd : t.answer (.addUser (User.fresh o.userId o.first r.email)) = _ := Tables.addUser_of_new hnew
  have hstep : (adding o r secret).eval t = _ := Program.eval_of_answer hadd
  have hm : o.userId ∈ (t.putUser (User.fresh o.userId o.first r.email)).users :=
    t.mem_putUser_self _
  have htaken : ¬ (t.putUser (User.fresh o.userId o.first r.email)).LoginFreeFor o.userId r.login := by
    intro hown
    have hid : o.userId = id := hown hc hl
    exact hnew (hid ▸ h.credential_user hc)
  have hset : (t.putUser (User.fresh o.userId o.first r.email)).answer
      (.setCredential ⟨o.userId, r.login, secret.hash, secret.salt⟩) = _ :=
    (h.putUser _).setCredential_of_taken hm htaken
  have hnext : (enrolling o r secret (User.fresh o.userId o.first r.email)).eval
      (t.putUser (User.fresh o.userId o.first r.email)) = _ := Program.eval_of_answer hset
  rw [hstep]
  exact (congrArg Prod.snd hnext).trans (removing_eval h hnew r (.duplicate (loginNamed r.login)))

include hfree

theorem sealing_eval (error : ServiceError) (he : ((sealing sealer o r).eval t).1 = .error error) :
    ((sealing sealer o r).eval t).2 = t := by
  unfold sealing at he ⊢
  cases hseal : sealPassword sealer.cost r.password o.salt with
  | error fault => rfl
  | ok secret =>
    rw [hseal] at he
    rcases t.exists_login r.login with hlogin | ⟨id, c, hc, hl⟩
    · have hundone := adding_failing (.failed "") 4 h hnew hfree hlogin hseal
      rw [Program.evalFailing_of_within _ (within_adding o r secret)] at hundone
      rcases hundone error he with ht | ⟨call, hnone, -⟩
      · exact ht
      · cases hnone
    · exact adding_taken h hnew hc hl

theorem asking_failing : UndoneUnless t (LeavesAccount sealer o r t)
    ((asking sealer o r).evalFailing e n t) := by
  cases n with
  | zero =>
    -- A look-up that fails as if the login were free does not keep the registration from going on.
    intro error he
    change (Program.eval (if e.isNotFound then sealing sealer o r else _) t).1 = _ at he
    change (Program.eval (if e.isNotFound then sealing sealer o r else _) t).2 = t ∨ _
    cases hfound : e.isNotFound with
    | true =>
      rw [hfound] at he
      exact .inl (sealing_eval h hnew hfree error he)
    | false => exact .inl rfl
  | succ n =>
    rcases h.answer_credentialOfLogin r.login with ⟨hlogin, hcall⟩ | ⟨id, c, -, -, hcall⟩
    · have hstep : (asking sealer o r).evalFailing e (n + 1) t = (sealing sealer o r).evalFailing e n t :=
        Program.evalFailing_succ e n hcall
      rw [hstep, sealing]
      cases hseal : sealPassword sealer.cost r.password o.salt with
      | error fault => exact .of_done e n _
      | ok secret => exact adding_failing e n h hnew hfree hlogin hseal
    · have hstep : (asking sealer o r).evalFailing e (n + 1) t = _ := Program.evalFailing_succ e n hcall
      rw [hstep]
      exact .of_done e n _

theorem register_failing : UndoneUnless t (LeavesAccount sealer o r t)
    ((register sealer o r).run.evalFailing e n t) := by
  cases hrules : brokenByRegistration? r with
  | some rule =>
    rw [run_register_broken sealer o r hrules]
    exact .of_done e n _
  | none =>
    rw [run_register sealer o r hrules]
    exact asking_failing e n h hnew hfree

end Whole

end Registration

/-! ## Changing the password -/

section Change
variable {t : Tables} {sealer : Sealer} {o : Occasion} {userId : String} {p : Api.PasswordChange}
  (e : StoreError) (n : Nat)

/-- The call that is too late for a change of password: the new credential is there, and the session is
still open. -/
def LeavesPassword (sealer : Sealer) (o : Occasion) (userId : String) (p : Api.PasswordChange) (t : Tables)
    (call : Call) (left : Tables) : Prop :=
  call = .revokeToken userId ∧ ∃ c secret, t.credentials[userId]? = some c ∧
    sealPassword sealer.cost p.newPassword o.salt = .ok secret ∧
      left = t.putCredential ⟨userId, c.login, secret.hash, secret.salt⟩

theorem replacing_failing (h : t.Sound) {c : Credential} (hc : t.credentials[userId]? = some c)
    {secret : SealedPassword} (hseal : sealPassword sealer.cost p.newPassword o.salt = .ok secret) :
    UndoneUnless t (LeavesPassword sealer o userId p t)
      ((replacing userId c.login secret).evalFailing e n t) := by
  cases n with
  | zero => exact .of_tables rfl
  | succ n =>
    have hset : t.answer (.setCredential ⟨userId, c.login, secret.hash, secret.salt⟩) = _ :=
      h.setCredential_of_row hc secret.hash secret.salt
    have hstep : (replacing userId c.login secret).evalFailing e (n + 1) t = _ :=
      Program.evalFailing_succ e n hset
    rw [hstep]
    cases n with
    | zero => exact fun error he => .inr ⟨_, rfl, rfl, c, secret, hc, hseal, rfl⟩
    | succ n => exact .of_done_ok e n _

theorem reading_failing (h : t.Sound) : UndoneUnless t (LeavesPassword sealer o userId p t)
    ((reading sealer o userId p).evalFailing e n t) := by
  cases n with
  | zero => exact .of_tables rfl
  | succ n =>
    cases hc : t.credentials[userId]? with
    | none =>
      have hcall : t.answer (.credentialOfUser userId) = (.error (.notFound (credentialNamed userId)), t) := by
        rw [Tables.answer, Tables.credentialOfUser_of_none hc]
      have hstep : (reading sealer o userId p).evalFailing e (n + 1) t = _ :=
        Program.evalFailing_succ e n hcall
      rw [hstep]
      exact .of_done e n _
    | some c =>
      have hstep : (reading sealer o userId p).evalFailing e (n + 1) t =
          (rechecking sealer o userId p c).evalFailing e n t :=
        Program.evalFailing_succ e n (Tables.answer_credentialOfUser_of_row hc)
      rw [hstep]
      rcases rechecking_cases sealer o userId p c with ⟨error, hrefused⟩ | ⟨secret, hseal, hreplacing⟩
      · rw [hrefused]
        exact .of_done e n _
      · rw [hreplacing]
        exact replacing_failing e n h hc hseal

theorem changePassword_failing (h : t.Sound) : UndoneUnless t (LeavesPassword sealer o userId p t)
    ((changePassword sealer o userId p).run.evalFailing e n t) := by
  rw [run_changePassword]
  cases brokenByPassword? p.newPassword with
  | some rule => exact .of_done e n _
  | none => exact reading_failing e n h

/-- The end of the session fails when the password has been changed. -/
theorem changePassword_failing_last (h : t.Sound) {c : Credential} (hc : t.credentials[userId]? = some c)
    (hold : checkPassword p.oldPassword c.hash c.salt = .ok true)
    (hrule : brokenByPassword? p.newPassword = none) {secret : SealedPassword}
    (hseal : sealPassword sealer.cost p.newPassword o.salt = .ok secret) :
    (changePassword sealer o userId p).run.evalFailing e 2 t =
      ⟨.error (ServiceError.ofStore e), t.putCredential ⟨userId, c.login, secret.hash, secret.salt⟩,
        some (.revokeToken userId)⟩ := by
  have hset : t.answer (.setCredential ⟨userId, c.login, secret.hash, secret.salt⟩) = _ :=
    h.setCredential_of_row hc secret.hash secret.salt
  rw [run_changePassword, hrule]
  calc (reading sealer o userId p).evalFailing e 2 t
    _ = (rechecking sealer o userId p c).evalFailing e 1 t := 
        Program.evalFailing_succ e 1 (Tables.answer_credentialOfUser_of_row hc)
    _ = (replacing userId c.login secret).evalFailing e 1 t := by
        rw [rechecking_of_fits sealer o userId p hold hseal]
    _ = (revoking userId).evalFailing e 0
          (t.putCredential ⟨userId, c.login, secret.hash, secret.salt⟩) := Program.evalFailing_succ e 0 hset
    _ = _ := rfl

end Change

/-! ## The result -/

/-- If one call of a registration or of a change of password fails, told by its position or by a drill, and
the operation comes to an error, the tables are as before, unless it was the last call: the issue of the
session token, after which the account is there without one, or the end of the session, after which the
password is changed. -/
theorem one_failed_call {t : Tables} (h : t.Sound) (sealer : Sealer) {o : Occasion}
    (hnew : o.userId ∉ t.users) (hfree : t.TokenFree o.token) (e : StoreError) :
    (∀ r, (∀ n, UndoneUnless t (LeavesAccount sealer o r t) ((register sealer o r).run.evalFailing e n t)) ∧
      UndoneAfterDrill t (LeavesAccount sealer o r t) e (register sealer o r).run) ∧
    ∀ userId p, (∀ n, UndoneUnless t (LeavesPassword sealer o userId p t)
        ((changePassword sealer o userId p).run.evalFailing e n t)) ∧
      UndoneAfterDrill t (LeavesPassword sealer o userId p t) e (changePassword sealer o userId p).run := by
  have hregister : ∀ r n, UndoneUnless t (LeavesAccount sealer o r t)
      ((register sealer o r).run.evalFailing e n t) := fun r n => register_failing e n h hnew hfree
  have hchange : ∀ userId p n, UndoneUnless t (LeavesPassword sealer o userId p t)
      ((changePassword sealer o userId p).run.evalFailing e n t) := fun userId p n =>
    changePassword_failing e n h
  exact ⟨fun r => ⟨hregister r, .of_failing (hregister r)⟩,
    fun userId p => ⟨hchange userId p, .of_failing (hchange userId p)⟩⟩

/-- A user whose credential is refused is removed again. -/
theorem refused_credential_undone :
    let o : Occasion := { (default : Occasion) with
      userId := "ann", token := drawnToken 7, salt := drawnSalt 1 }
    let left := (register ⟨4⟩ o ⟨"Ann", "correct horse", none, true⟩).run.evalFailing (.failed "down") 2 .empty
    Tables.empty.Sound ∧ o.userId ∉ Tables.empty.users ∧ Tables.empty.TokenFree o.token ∧
      (∃ error, left.value = .error error) ∧ left.tables = .empty := by
  intro o left
  have hnew : o.userId ∉ Tables.empty.users := not_mem_of_lookup rfl
  have hfree : Tables.empty.TokenFree o.token := fun hr => nomatch hr
  have hkind : left.failed.map Call.kind = some .setCredential := by
    subst left o
    decide +kernel
  have hnone : left.value.toOption.isNone = true := by
    subst left o
    decide +kernel
  cases hvalue : left.value with
  | ok session =>
    rw [hvalue] at hnone
    cases hnone
  | error error =>
    refine ⟨.empty, hnew, hfree, ⟨error, rfl⟩, ?_⟩
    obtain ⟨hpositions, -⟩ := (one_failed_call .empty ⟨4⟩ hnew hfree (.failed "down")).1
      ⟨"Ann", "correct horse", none, true⟩
    rcases hpositions 2 error hvalue with
      ht | ⟨call, hcall, rfl, -⟩
    · exact ht
    · change left.failed = _ at hcall
      rw [hcall] at hkind
      cases hkind

theorem change_not_undone {userId old new salt : String} (login : String) {o : Occasion}
    (hlen : old.utf8ByteSize ≤ maxPasswordBytes) (hsalt : salt.utf8ByteSize = saltBytes)
    (hrule : brokenByPassword? new = none) (hdrawn : isSalt o.salt = true) (hother : o.salt ≠ salt)
    (e : StoreError) :
    let left := (changePassword ⟨4⟩ o userId ⟨old, new⟩).run.evalFailing e 2
      (oneAccount userId login old salt)
    (∃ error, left.value = .error error) ∧ left.tables ≠ oneAccount userId login old salt := by
  intro left
  obtain ⟨c, hc, -, rfl, hfits⟩ := oneAccount_row userId login hlen hsalt
  have hsealed : ∃ secret, sealPassword 4 new o.salt = .ok secret :=
    sealPassword_of_rules rfl hrule hdrawn
  obtain ⟨secret, hseal⟩ := hsealed
  have hleft : left = _ := changePassword_failing_last e (oneAccount_sound ..) hc hfits hrule hseal
  refine ⟨⟨_, congrArg Aftermath.value hleft⟩, fun hsame => ?_⟩
  have hput : left.tables.credentials[userId]? = some ⟨userId, c.login, secret.hash, secret.salt⟩ := by
    rw [hleft]
    exact (Tables.credentials_putCredential ..).trans (if_pos rfl)
  rw [hsame, hc] at hput
  exact hother (((congrArg Credential.salt (Option.some.inj hput)).trans (sealPassword_eq hseal).1).symm)

/-- The account that a failed registration leaves, and the password that a failed change leaves. -/
theorem failed_last_calls_not_undone :
    (let o : Occasion := { (default : Occasion) with
        userId := "ann", token := drawnToken 7, salt := drawnSalt 1 }
      let left := (register ⟨4⟩ o ⟨"Ann", "correct horse", none, true⟩).run.evalFailing (.failed "down") 3 .empty
      (∃ error, left.value = .error error) ∧ left.tables ≠ .empty) ∧
    (let o : Occasion := { (default : Occasion) with salt := drawnSalt 2 }
      let t := oneAccount "ann" "Ann" "correct horse" (drawnSalt 1)
      let left := (changePassword ⟨4⟩ o "ann" ⟨"correct horse", "battery staple"⟩).run.evalFailing
        (.failed "down") 2 t
      (∃ error, left.value = .error error) ∧ left.tables ≠ t) := by
  refine ⟨?_, change_not_undone "Ann" (by decide) (by decide) (by decide) (by decide) (by decide) _⟩
  intro o left
  have hnone : left.value.toOption.isNone = true := by
    subst left o
    decide +kernel
  have hann : left.tables.users["ann"]?.isSome = true := by
    subst left o
    decide +kernel
  constructor
  · cases hvalue : left.value with
    | ok session =>
      rw [hvalue] at hnone
      cases hnone
    | error error => exact ⟨error, rfl⟩
  · intro hempty
    rw [hempty] at hann
    cases hann

end PlayerAccounts.Service
