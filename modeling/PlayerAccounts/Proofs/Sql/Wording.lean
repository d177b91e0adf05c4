import PlayerAccounts.Proofs.Sql.Exchanges
import PlayerAccounts.Sql.Script
/-!
# The wording of refusals

The database words its refusals as it likes. Two scripts that differ in these texts only are played in
step by any query: the same statements are sent, and what the query fails with differs in texts only. A
text can get as far as the client where a key or a reference is violated and the store does not put the
failure into words of its own.
-/
namespace PlayerAccounts.Sql
set_option autoImplicit false

open PlayerAccounts.Store

variable {α β ε δ : Type}

/-! ## Scripts without texts -/

/-- The refusal without its text. -/
def Refusal.silenced (refusal : Refusal) : Refusal := { refusal with message := "" }

/-- The reply without the text of a refusal. -/
def silencedReply (reply : Except Refusal Reply) : Except Refusal Reply := reply.mapError Refusal.silenced

namespace Script

/-- The script without the texts of its refusals. -/
def silenced (s : Script) : Script where
  replies := s.replies.map silencedReply
  refusals := s.refusals.map fun (statement, refusal) => (statement, refusal.silenced)
  sent := s.sent

theorem lookup_silenced (refusals : List (Statement × Refusal)) (statement : Statement) :
    (refusals.map fun (sent, refusal) => (sent, refusal.silenced)).lookup statement =
      (refusals.lookup statement).map Refusal.silenced := by
  induction refusals with
  | nil => rfl
  | cons first rest ih =>
    rw [List.map_cons, List.lookup_cons, List.lookup_cons, ih]
    cases statement == first.1 <;> rfl

theorem execute_silenced (statement : Statement) (s : Script) :
    s.silenced.execute statement =
      (silencedReply (s.execute statement).1, (s.execute statement).2.silenced) := by
  obtain ⟨replies, refusals, sent⟩ := s
  simp only [execute, silenced, lookup_silenced]
  cases statement.isControl with
  | true => cases refusals.lookup statement <;> rfl
  | false => cases replies <;> rfl

end Script

/-- The same reply but for the text of a refusal. -/
inductive Rephrased : Except Refusal Reply → Except Refusal Reply → Prop where
  | kept (reply : Reply) : Rephrased (.ok reply) (.ok reply)
  | refused (violation : Violation) (text text' : String) :
    Rephrased (.error ⟨violation, text⟩) (.error ⟨violation, text'⟩)

theorem rephrased_of_silenced {reply reply' : Except Refusal Reply}
    (h : silencedReply reply = silencedReply reply') : Rephrased reply reply' := by
  cases reply with
  | ok reply =>
    cases reply' with
    | ok reply' => cases Except.ok.inj h; exact .kept reply
    | error refusal => cases h
  | error refusal =>
    cases reply' with
    | ok reply' => cases h
    | error refusal' =>
      obtain ⟨violation, text⟩ := refusal
      obtain ⟨violation', text'⟩ := refusal'
      cases congrArg Refusal.violation (Except.error.inj h)
      exact .refused violation text text'

/-! ## Texts that get through -/

/-- Whether the text of a refusal gets into what the client is told. -/
def Statement.echoes : Statement → Violation → Bool
  | insert .user _ _, .unique => false
  | insert .credential _ _, .unique => false
  | insert .credential _ _, .foreignKey => false
  | insert .sessionToken _ _, .foreignKey => false
  | _, .unique => true
  | _, .foreignKey => true
  | _, _ => false

/-- Whether this is a refusal whose text gets into what the client is told. -/
def Exchange.isTold {σ : Type} (e : Exchange σ) : Bool :=
  match e.reply with
  | .ok _ => false
  | .error refusal => e.statement.echoes refusal.violation

/-! ## Results that differ in texts -/

/-- The same result, or failures that are related. -/
inductive UpTo (E : ε → ε → Prop) : Except ε α → Except ε α → Prop where
  | ok (a : α) : UpTo E (.ok a) (.ok a)
  | error {e e' : ε} : E e e' → UpTo E (.error e) (.error e')

/-- Failures of a store that a client is told in the same words. If something was `told`, they may also
name different things that are taken or missing. -/
inductive AlikeErrors (told : Prop) : StoreError → StoreError → Prop where
  | same (e : StoreError) : AlikeErrors told e e
  | failed (why why' : String) : AlikeErrors told (.failed why) (.failed why')
  | duplicate (what what' : String) : told → AlikeErrors told (.duplicate what) (.duplicate what')
  | unknownUser (what what' : String) : told → AlikeErrors told (.unknownUser what) (.unknownUser what')

/-- Failures of a query that come from one statement. -/
inductive AlikeFailures (told : Prop) (statement : Statement) : QueryError → QueryError → Prop where
  | same (e : QueryError) : AlikeFailures told statement e e
  | refused (violation : Violation) (text text' : String) :
    (statement.echoes violation = true → told) →
    AlikeFailures told statement (.refused ⟨violation, text⟩) (.refused ⟨violation, text'⟩)

/-! ## Queries in step -/

variable {told : Prop}

/-- Two queries that send the same statements as long as the replies are the same but for texts, and come
to related results. Whoever refuses in words that get through makes `told` true. -/
inductive Query.InStep (told : Prop) (R : α → α → Prop) : Query α → Query α → Prop where
  | done {a a' : α} : R a a' → InStep told R (.done a) (.done a')
  | send {statement : Statement} {next next' : Except Refusal Reply → Query α} :
    (∀ reply reply', Rephrased reply reply' →
      (∀ refusal, reply = .error refusal → statement.echoes refusal.violation = true → told) →
      InStep told R (next reply) (next' reply')) →
    InStep told R (.send statement next) (.send statement next')

namespace Query.InStep

theorem bind {R : α → α → Prop} {S : β → β → Prop} {q q' : Query α} {f f' : α → Query β}
    (h : InStep told R q q') (hf : ∀ a a', R a a' → InStep told S (f a) (f' a')) :
    InStep told S (q >>= f) (q' >>= f') := by
  change InStep told S (q.bind f) (q'.bind f')
  induction h with
  | done ha => exact hf _ _ ha
  | send _ ih => exact .send fun reply reply' hr htold => ih reply reply' hr htold

/-- Queries in step come to related results on scripts that differ in texts only. -/
theorem run {R : α → α → Prop} {q q' : Query α} (h : InStep told R q q') {s s' : Script}
    (hsame : s.silenced = s'.silenced)
    (htold : ∀ e ∈ q.exchanges Script.connection s, e.isTold = true → told) :
    R (q.run Script.connection s).1 (q'.run Script.connection s').1 ∧
      (q.run Script.connection s).2.silenced = (q'.run Script.connection s').2.silenced := by
  induction h generalizing s s' with
  | done ha => exact ⟨ha, hsame⟩
  | @send statement next next' _ ih =>
    have hstep := (s.execute_silenced statement).symm.trans
      ((congrArg (Script.execute statement) hsame).trans (s'.execute_silenced statement))
    have hreply := rephrased_of_silenced (congrArg Prod.fst hstep)
    -- What is left of the two scripts differs in texts only again.
    refine ih _ _ hreply ?_ (congrArg Prod.snd hstep) ?_
    · intro refusal hrefusal hechoes
      refine htold _ List.mem_cons_self ?_
      change (match (s.execute statement).1 with | .ok _ => false | .error refusal => _) = true
      rw [hrefusal]
      exact hechoes
    · intro e he
      exact htold e (List.mem_cons_of_mem _ he)

end Query.InStep

/-! ## Queries that can fail -/

namespace Attempt

/-- Two queries in step that come to the same, or fail with related failures. -/
def InStep (told : Prop) (E : ε → ε → Prop) (a a' : Attempt ε α) : Prop :=
  Query.InStep told (UpTo E) a.run a'.run

variable {E : ε → ε → Prop}

theorem inStep_pure (a : α) : InStep told E (pure a) (pure a) := .done (.ok a)

theorem inStep_throw {e e' : ε} (h : E e e') : InStep told E (throw e : Attempt ε α) (throw e') :=
  .done (.error h)

theorem InStep.bind {a a' : Attempt ε α} {f f' : α → Attempt ε β} (h : InStep told E a a')
    (hf : ∀ x, InStep told E (f x) (f' x)) : InStep told E (a >>= f) (a' >>= f') := by
  refine Query.InStep.bind h fun result result' hresult => ?_
  cases hresult with
  | ok x => exact hf x
  | error he => exact .done (.error he)

theorem InStep.inTermsOf {D : δ → δ → Prop} {terms : ε → δ} {a a' : Attempt ε α} (h : InStep told E a a')
    (hterms : ∀ e e', E e e' → D (terms e) (terms e')) :
    InStep told D (inTermsOf terms a) (inTermsOf terms a') := by
  refine Query.InStep.bind h fun result result' hresult => ?_
  cases hresult with
  | ok x => exact .done (.ok x)
  | error he => exact .done (.error (hterms _ _ he))

theorem inStep_send (statement : Statement) :
    InStep told (AlikeFailures told statement) (send statement) (send statement) := by
  refine .send fun reply reply' hreply htold => .done ?_
  cases hreply with
  | kept reply => exact .ok reply
  | refused violation text text' => exact .error (.refused violation text text' (htold _ rfl))

theorem inStep_first? (read : Row → Except QueryError α) (statement : Statement) :
    InStep told (AlikeFailures told statement) (first? read statement) (first? read statement) := by
  refine (inStep_send statement).bind fun reply => ?_
  cases reply.toRows with
  | nil => exact inStep_pure none
  | cons row _ =>
    have hread : InStep told (AlikeFailures told statement) (ExceptT.mk (Query.done (read row)))
        (ExceptT.mk (Query.done (read row))) := by
      refine .done ?_
      cases read row with
      | ok a => exact .ok a
      | error e => exact .error (.same e)
    exact hread.bind fun a => inStep_pure (some a)

theorem inStep_first (read : Row → Except QueryError α) (statement : Statement) :
    InStep told (AlikeFailures told statement) (first read statement) (first read statement) := by
  refine (inStep_first? read statement).bind fun found => ?_
  cases found with
  | none => exact inStep_throw (.same _)
  | some a => exact inStep_pure a

/-- A step that looks at how the query before it ended. -/
theorem InStep.lift_bind {D : δ → δ → Prop} {a a' : Attempt ε α} {f f' : Except ε α → Attempt δ β}
    (h : InStep told E a a')
    (hf : ∀ result result', UpTo E result result' → InStep told D (f result) (f' result')) :
    InStep told D (ExceptT.lift a.run >>= f) (ExceptT.lift a'.run >>= f') := by
  have hlifted : Query.InStep told (fun x x' => ∃ result result', x = .ok result ∧ x' = .ok result' ∧
      UpTo E result result') (ExceptT.lift (ε := δ) a.run).run (ExceptT.lift a'.run).run :=
    Query.InStep.bind h fun result result' hresult => .done ⟨result, result', rfl, rfl, hresult⟩
  refine Query.InStep.bind hlifted ?_
  rintro _ _ ⟨result, result', rfl, rfl, hresult⟩
  exact hf result result' hresult

theorem InStep.transaction {terms : QueryError → ε} {body body' : Attempt ε α}
    (hterms : ∀ statement, statement.isControl = true →
      ∀ e e', AlikeFailures told statement e e' → E (terms e) (terms e'))
    (hbody : InStep told E body body') :
    InStep told E (transaction terms body) (transaction terms body') := by
  have hcontrol : ∀ statement, statement.isControl = true →
      InStep told E (Attempt.inTermsOf terms (send statement)) (Attempt.inTermsOf terms (send statement)) :=
    fun statement hs => (inStep_send statement).inTermsOf (hterms statement hs)
  refine (hcontrol .begin rfl).bind fun _ => hbody.lift_bind fun result result' hresult => ?_
  cases hresult with
  | ok a => exact (hcontrol .commit rfl).bind fun _ => inStep_pure a
  | error he => exact (hcontrol .rollback rfl).bind fun _ => inStep_throw he

end Attempt

/-! ## Calls -/

/-- A failure in other words: what becomes of a key that is taken and of a reference to nobody decides
whether it is told alike. -/
theorem alike_words {words : StoreError → StoreError} {statement : Statement} {e e' : QueryError}
    (h : AlikeFailures told statement e e') (hfailed : ∀ why, words (.failed why) = .failed why)
    (hunique : ∀ text text', (statement.echoes .unique = true → told) →
      AlikeErrors told (words (.duplicate text)) (words (.duplicate text')))
    (hreference : ∀ text text', (statement.echoes .foreignKey = true → told) →
      AlikeErrors told (words (.unknownUser text)) (words (.unknownUser text'))) :
    AlikeErrors told (words e.storeError) (words e'.storeError) := by
  cases h with
  | same e => exact .same _
  | refused violation text text' htold =>
    cases violation with
    | unique => exact hunique text text' htold
    | foreignKey => exact hreference text text' htold
    | _ =>
      change AlikeErrors told (words (.failed text)) (words (.failed text'))
      rw [hfailed, hfailed]
      exact .failed text text'

/-- A failure whose statement has no words of its own for it. -/
theorem alike_storeError {statement : Statement} {e e' : QueryError}
    (h : AlikeFailures told statement e e')
    (hunique : statement.echoes .unique = true) (hreference : statement.echoes .foreignKey = true) :
    AlikeErrors told e.storeError e'.storeError :=
  @alike_words told id statement e e' h (fun _ => rfl) (fun text text' htold => .duplicate text text' (htold hunique))
    fun text text' htold => .unknownUser text text' (htold hreference)

theorem inStep_lookedUp (name : String) (read : Row → Except QueryError α) (statement : Statement)
    (hunique : statement.echoes .unique = true) (hreference : statement.echoes .foreignKey = true) :
    Attempt.InStep told (AlikeErrors told) (lookedUp name read statement)
      (lookedUp name read statement) := by
  have hfound : Attempt.InStep told (AlikeErrors told) (storing (Attempt.first? read statement))
      (storing (Attempt.first? read statement)) :=
    (Attempt.inStep_first? read statement).inTermsOf fun _ _ he => alike_storeError he hunique hreference
  refine hfound.bind fun found => ?_
  cases found with
  | none => exact Attempt.inStep_throw (.same _)
  | some a => exact Attempt.inStep_pure a

theorem inStep_storing_send (statement : Statement)
    (hunique : statement.echoes .unique = true) (hreference : statement.echoes .foreignKey = true) :
    Attempt.InStep told (AlikeErrors told) (storing (Attempt.send statement))
      (storing (Attempt.send statement)) :=
  (Attempt.inStep_send statement).inTermsOf fun _ _ he => alike_storeError he hunique hreference

/-- A row that is written: what the store has words of its own for is told in them. -/
theorem inStep_reworded (words : StoreError → StoreError) (read : Row → Except QueryError α)
    (statement : Statement) (hfailed : ∀ why, words (.failed why) = .failed why)
    (hunique : ∀ text text', (statement.echoes .unique = true → told) →
      AlikeErrors told (words (.duplicate text)) (words (.duplicate text')))
    (hreference : ∀ text text', (statement.echoes .foreignKey = true → told) →
      AlikeErrors told (words (.unknownUser text)) (words (.unknownUser text'))) :
    Attempt.InStep told (AlikeErrors told)
      (reworded words (storing (Attempt.first read statement)))
      (reworded words (storing (Attempt.first read statement))) := by
  have hstored : Attempt.InStep told (fun e e' => AlikeErrors told (words e) (words e'))
      (storing (Attempt.first read statement)) (storing (Attempt.first read statement)) :=
    (Attempt.inStep_first read statement).inTermsOf fun _ _ he => alike_words he hfailed hunique hreference
  exact hstored.inTermsOf fun _ _ he => he

theorem inStep_carryOut (call : Call) :
    Attempt.InStep told (AlikeErrors told) (carryOut call) (carryOut call) := by
  cases call with
  | addUser u =>
    exact inStep_reworded _ readUser _ (fun _ => rfl) (fun _ _ _ => .same _) fun text text' htold =>
      .unknownUser text text' (htold rfl)
  | findUser id => exact inStep_lookedUp _ _ _ rfl rfl
  | amendUser id c =>
    change Attempt.InStep told _ (amendUser id c) (amendUser id c)
    unfold amendUser
    split
    · exact inStep_lookedUp _ _ _ rfl rfl
    · exact inStep_lookedUp _ _ _ rfl rfl
  | removeUser id =>
    refine (inStep_storing_send _ rfl rfl).bind fun reply => ?_
    by_cases hnone : reply.count = 0
    · rw [if_pos hnone]
      exact Attempt.inStep_throw (.same _)
    · rw [if_neg hnone]
      exact Attempt.inStep_pure ()
  | setCredential c =>
    exact inStep_reworded _ readCredential _ (fun _ => rfl) (fun _ _ _ => .same _) fun _ _ _ => .same _
  | credentialOfLogin login => exact inStep_lookedUp _ _ _ rfl rfl
  | credentialOfUser id => exact inStep_lookedUp _ _ _ rfl rfl
  | issueToken id token now =>
    -- Only the reference has words of the store's own here; that a token is taken is passed on.
    exact inStep_reworded _ readToken _ (fun _ => rfl)
      (fun text text' htold => .duplicate text text' (htold rfl)) fun _ _ _ => .same _
  | useToken token now =>
    have hcontrol : ∀ statement : Statement, statement.isControl = true → ∀ e e',
        AlikeFailures told statement e e' → AlikeErrors told e.storeError e'.storeError := by
      intro statement hs e e' he
      cases statement with
      | begin | commit | rollback => exact alike_storeError he rfl rfl
      | _ => cases hs
    refine Attempt.InStep.transaction hcontrol ((inStep_lookedUp _ _ _ rfl rfl).bind fun row => ?_)
    exact (Attempt.inStep_first readToken _).inTermsOf fun e e' he => alike_storeError he rfl rfl
  | revokeToken id =>
    exact (inStep_storing_send _ rfl rfl).bind fun _ => Attempt.inStep_pure ()

/-- Over the pool a call comes to the same on scripts that differ in texts only, or fails alike. -/
theorem Pool.inStep_carryOut (p : Pool) (call : Call) :
    Attempt.InStep told (AlikeErrors told) (p.carryOut call) (p.carryOut call) := by
  unfold Pool.carryOut
  split
  · exact Sql.inStep_carryOut call
  · exact Attempt.inStep_throw (.same _)

end PlayerAccounts.Sql
