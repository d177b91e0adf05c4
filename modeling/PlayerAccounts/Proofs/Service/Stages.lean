import PlayerAccounts.Proofs.Account.Secrets
import PlayerAccounts.Proofs.Service.SessionOutcomes
import PlayerAccounts.Proofs.Store.Turns
/-!
# Operations call by call

Where calls of several callers alternate, or one of the calls fails, an operation has to be told from what
is left of it after each call. Here are the stages of a registration, of a login with a password and of a
change of password: each makes one call, and its answer leads to the next one.
-/
namespace PlayerAccounts.Service
set_option autoImplicit false

open PlayerAccounts.Account
open PlayerAccounts.Store

/-! ## Opening a session -/

/-- What is left when only the session token of a user, if one is wanted, is still to be issued. -/
def opening (wanted : Bool) (o : Occasion) (user : User) : Program (Except ServiceError Api.Session) :=
  if wanted then
    .ask (.issueToken user.id o.token o.first) fun
      | .ok _ => .done (.ok ⟨user, some o.token⟩)
      | .error (.unknownUser _) => .done (.error (.notFound (userNamed user.id)))
      | .error e => .done (.error (ServiceError.ofStore e))
  else .done (.ok ⟨user, none⟩)

theorem run_opening (wanted : Bool) (o : Occasion) (user : User) :
    ExceptT.run (do return ⟨user, ← issueTokenIf wanted o user.id⟩ : Action Api.Session) =
      opening wanted o user := by
  cases wanted with
  | false => rfl
  | true =>
    refine congrArg (Program.ask _) (funext fun answer => ?_)
    cases answer with
    | ok row => rfl
    | error e => cases e <;> rfl

theorem within_opening (wanted : Bool) (o : Occasion) (user : User) :
    (opening wanted o user).Within 1 := by
  cases wanted with
  | false => exact True.intro
  | true =>
    intro answer
    cases answer with
    | ok row => exact True.intro
    | error e => cases e <;> exact True.intro

/-! ## Registering -/

section Registering
variable (sealer : Sealer) (o : Occasion) (r : Api.Registration)

/-- What is left when the credential of a new user was refused for this reason, and the user is to be
removed again. -/
def removing (user : User) (reason : StoreError) : Program (Except ServiceError Api.Session) :=
  let refusal : ServiceError :=
    match reason with
    | .duplicate _ => .loginTaken r.login
    | e => ServiceError.ofStore e
  .ask (.removeUser user.id) fun
    | .error e => .note (.leftover user.id e) (.done (.error refusal))
    | .ok _ => .done (.error refusal)

/-- What is left when a new user is to be given a credential. -/
def enrolling (secret : SealedPassword) (user : User) : Program (Except ServiceError Api.Session) :=
  .ask (.setCredential ⟨user.id, r.login, secret.hash, secret.salt⟩) fun
    | .error e => removing r user e
    | .ok _ => opening r.remember o.later user

/-- What is left when the user is to be added. -/
def adding (secret : SealedPassword) : Program (Except ServiceError Api.Session) :=
  .ask (.addUser (User.fresh o.userId o.first r.email)) fun
    | .error e => .done (.error (ServiceError.ofStore e))
    | .ok user => enrolling o r secret user

/-- What is left when the password is to be sealed. -/
def sealing : Program (Except ServiceError Api.Session) :=
  match sealPassword sealer.cost r.password o.salt with
  | .error fault => .done (.error (ServiceError.ofPassword fault))
  | .ok secret => adding o r secret

/-- What is left when the login was found in order and is to be looked up. -/
def asking : Program (Except ServiceError Api.Session) :=
  .ask (.credentialOfLogin r.login) fun
    | .ok _ => .done (.error (.loginTaken r.login))
    | .error e =>
      if e.isNotFound then sealing sealer o r else .done (.error (ServiceError.ofStore e))

theorem run_register (hrules : brokenByRegistration? r = none) :
    (register sealer o r).run = asking sealer o r := by
  obtain ⟨hlogin, hrest⟩ := Option.or_eq_none_iff.mp hrules
  obtain ⟨hpassword, hemail⟩ := Option.or_eq_none_iff.mp hrest
  unfold register isLoginFree
  rw [hlogin, hpassword, hemail]
  refine congrArg (Program.ask _) (funext fun answer => ?_)
  cases answer with
  | ok _ => rfl
  | error e =>
    cases e with
    | notFound what =>
      change ExceptT.run (sealNew sealer o r.password >>= _) = sealing sealer o r
      unfold sealNew sealing
      cases sealPassword sealer.cost r.password o.salt with
      | error fault => rfl
      | ok secret =>
        refine congrArg (Program.ask _) (funext fun answer => ?_)
        cases answer with
        | error e => rfl
        | ok user =>
          refine congrArg (Program.ask _) (funext fun answer => ?_)
          cases answer with
          | ok _ => exact run_opening r.remember o.later user
          | error reason =>
            refine congrArg (Program.ask _) (funext fun answer => ?_)
            cases answer <;> cases reason <;> rfl
    | _ => rfl

theorem run_register_broken {rule : BrokenRule} (hrules : brokenByRegistration? r = some rule) :
    (register sealer o r).run = .done (.error (ServiceError.ofRule rule)) := by
  unfold register
  unfold brokenByRegistration? at hrules
  cases hlogin : brokenByLogin? r.login with
  | some first =>
    rw [hlogin, Option.some_or] at hrules
    rw [Option.some.inj hrules]
    rfl
  | none =>
    rw [hlogin, Option.none_or] at hrules
    cases hpassword : brokenByPassword? r.password with
    | some first =>
      rw [hpassword, Option.some_or] at hrules
      rw [Option.some.inj hrules]
      rfl
    | none =>
      rw [hpassword, Option.none_or] at hrules
      rw [hrules]
      rfl

/-! ### How many turns it takes -/

theorem within_removing (user : User) (reason : StoreError) : (removing r user reason).Within 2 := by
  intro answer
  cases answer <;> exact True.intro

theorem within_enrolling (secret : SealedPassword) (user : User) : (enrolling o r secret user).Within 3 := by
  intro answer
  cases answer with
  | ok _ => exact Program.within_succ (within_opening r.remember o.later user)
  | error reason => exact within_removing r user reason

theorem within_adding (secret : SealedPassword) : (adding o r secret).Within 4 := by
  intro answer
  cases answer with
  | ok user => exact within_enrolling o r secret user
  | error e => exact True.intro

theorem within_sealing : (sealing sealer o r).Within 4 := by
  unfold sealing
  cases sealPassword sealer.cost r.password o.salt with
  | ok secret => exact within_adding o r secret
  | error fault => exact True.intro

theorem within_register : (register sealer o r).run.Within 5 := by
  cases hrules : brokenByRegistration? r with
  | some rule =>
    rw [run_register_broken sealer o r hrules]
    exact True.intro
  | none =>
    rw [run_register sealer o r hrules]
    intro answer
    cases answer with
    | ok _ => exact True.intro
    | error e =>
      cases e with
      | notFound _ => exact within_sealing sealer o r
      | _ => exact True.intro

end Registering

/-! ## Logging in -/

section LoggingIn
variable (o : Occasion) (r : Api.PasswordLogin)

/-- What is left when the user with this id has shown the right password. -/
def touching (id : String) : Program (Except ServiceError Api.Session) :=
  .ask (.amendUser id (Changes.touch o.first)) fun
    | .error e => .done (.error (ServiceError.ofStore e))
    | .ok user => opening r.remember o.later user

/-- What is left when the password is to be checked against a credential. -/
def checking (c : Credential) : Program (Except ServiceError Api.Session) :=
  match checkPassword r.password c.hash c.salt with
  | .ok true => touching o r c.userId
  | .ok false => .done (.error .invalidCredentials)
  | .error fault => .note (.unusableCredential c.userId fault) (.done (.error .invalidCredentials))

theorem checking_of_fits {c : Credential} (hp : checkPassword r.password c.hash c.salt = .ok true) :
    checking o r c = touching o r c.userId := by
  rw [checking, hp]

/-- What is left when the credential is to be looked up. -/
def looking : Program (Except ServiceError Api.Session) :=
  .ask (.credentialOfLogin r.login) fun
    | .error e => .done (.error (if e.isNotFound then .invalidCredentials else ServiceError.ofStore e))
    | .ok c => checking o r c

theorem run_loginWithPassword : (loginWithPassword o r).run = looking o r := by
  refine congrArg (Program.ask _) (funext fun answer => ?_)
  cases answer with
  | error e => cases e <;> rfl
  | ok c =>
    change ExceptT.run (passwordFits r.password c >>= _) = checking o r c
    unfold passwordFits checking
    cases checkPassword r.password c.hash c.salt with
    | error fault => rfl
    | ok fits =>
      cases fits with
      | false => rfl
      | true =>
        refine congrArg (Program.ask _) (funext fun answer => ?_)
        cases answer with
        | error e => rfl
        | ok user => exact run_opening r.remember o.later user

end LoggingIn

/-! ## Changing the password -/

section Changing
variable (sealer : Sealer) (o : Occasion) (userId : String) (r : Api.PasswordChange)

/-- What is left when the old session is to be ended. -/
def revoking : Program (Except ServiceError Unit) :=
  .ask (.revokeToken userId) fun
    | .error e => .done (.error (ServiceError.ofStore e))
    | .ok _ => .done (.ok ())

/-- What is left when the credential is to be replaced. -/
def replacing (login : String) (secret : SealedPassword) : Program (Except ServiceError Unit) :=
  .ask (.setCredential ⟨userId, login, secret.hash, secret.salt⟩) fun
    | .error e => .done (.error (ServiceError.ofStore e))
    | .ok _ => revoking userId

/-- What is left when the old password is to be checked against a credential. -/
def rechecking (c : Credential) : Program (Except ServiceError Unit) :=
  match checkPassword r.oldPassword c.hash c.salt with
  | .ok true =>
    match sealPassword sealer.cost r.newPassword o.salt with
    | .error fault => .done (.error (ServiceError.ofPassword fault))
    | .ok secret => replacing userId c.login secret
  | _ => .done (.error .invalidCredentials)

/-- What is left when the credential is to be read. -/
def reading : Program (Except ServiceError Unit) :=
  .ask (.credentialOfUser userId) fun
    | .error e => .done (.error (ServiceError.ofStore e))
    | .ok c => rechecking sealer o userId r c

theorem run_changePassword :
    (changePassword sealer o userId r).run =
      match brokenByPassword? r.newPassword with
      | some rule => .done (.error (ServiceError.ofRule rule))
      | none => reading sealer o userId r := by
  unfold changePassword
  cases brokenByPassword? r.newPassword with
  | some rule => rfl
  | none =>
    refine congrArg (Program.ask _) (funext fun answer => ?_)
    cases answer with
    | error e => rfl
    | ok c =>
      change ExceptT.run (match checkPassword r.oldPassword c.hash c.salt with
        | .ok true => _
        | _ => _) = rechecking sealer o userId r c
      unfold rechecking
      split
      · unfold sealNew
        cases sealPassword sealer.cost r.newPassword o.salt with
        | error fault => rfl
        | ok secret =>
          refine congrArg (Program.ask _) (funext fun answer => ?_)
          cases answer with
          | error e => rfl
          | ok _ =>
            refine congrArg (Program.ask _) (funext fun answer => ?_)
            cases answer <;> rfl
      · rfl

theorem rechecking_of_fits {c : Credential} {secret : SealedPassword}
    (hp : checkPassword r.oldPassword c.hash c.salt = .ok true)
    (hseal : sealPassword sealer.cost r.newPassword o.salt = .ok secret) :
    rechecking sealer o userId r c = replacing userId c.login secret := by
  simp only [rechecking, hp, hseal]

theorem rechecking_cases (c : Credential) :
    (∃ e, rechecking sealer o userId r c = .done (.error e)) ∨
      ∃ secret, sealPassword sealer.cost r.newPassword o.salt = .ok secret ∧
        rechecking sealer o userId r c = replacing userId c.login secret := by
  unfold rechecking
  split
  · cases sealPassword sealer.cost r.newPassword o.salt with
    | error fault => exact .inl ⟨_, rfl⟩
    | ok secret => exact .inr ⟨secret, rfl, rfl⟩
  · exact .inl ⟨_, rfl⟩

end Changing

/-! ## Tables to start from -/

/-- Tables with one account, whose password is sealed at the least cost. -/
def oneAccount (id login password salt : String) : Tables :=
  (Tables.empty.putUser (User.fresh id default none)).putCredential
    ⟨id, login, String.ofList (Bcrypt.hashText 4 (bytesOf password) (bytesOf salt)), salt⟩

theorem oneAccount_sound (id login password salt : String) : (oneAccount id login password salt).Sound := by
  have hm : id ∈ (Tables.empty.putUser (User.fresh id default none)).users :=
    Tables.empty.mem_putUser_self _
  exact (Tables.Sound.empty.putUser _).putCredential hm fun hc => nomatch hc

theorem oneAccount_row (id login : String) {password salt : String}
    (hlen : password.utf8ByteSize ≤ maxPasswordBytes) (hsalt : salt.utf8ByteSize = saltBytes) :
    ∃ c, (oneAccount id login password salt).credentials[id]? = some c ∧ c.login = login ∧ c.salt = salt ∧
      checkPassword password c.hash c.salt = .ok true := by
  have hhash : hashPassword 4 password salt = _ := hashPassword_ok hlen hsalt rfl
  exact ⟨_, (Tables.credentials_putCredential ..).trans (if_pos rfl), rfl, rfl,
    (checkPassword_iff hhash password).mpr hhash⟩

end PlayerAccounts.Service
