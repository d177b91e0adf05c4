import PlayerAccounts.Proofs.Service.Asking
import PlayerAccounts.Proofs.Sql.Exchanges
/-!
# Texts on their way to the database

The texts of a statement are those of the call that it carries out, and those that the database itself has
given in an earlier reply. So texts of one kind lead to texts of that kind: through a query by induction on
what it sends, and through a program by induction on its calls.
-/
namespace PlayerAccounts.Account
set_option autoImplicit false

/-! ## The texts of an account -/

def User.texts (u : User) : List String := u.id :: u.email.toList

def Credential.texts (c : Credential) : List String := [c.userId, c.login, c.hash, c.salt]

def SessionToken.texts (row : SessionToken) : List String := [row.userId, row.token]

end PlayerAccounts.Account

namespace PlayerAccounts.Store
open PlayerAccounts.Account

/-- What a call gives the store to read. -/
def Call.texts : Call → List String
  | .addUser user => user.texts
  | .amendUser id changes => id :: changes.email.target?.join.toList
  | .setCredential c => c.texts
  | .credentialOfLogin login => [login]
  | .issueToken id token _ => [id, token]
  | .useToken token _ => [token]
  | .findUser id | .removeUser id | .credentialOfUser id | .revokeToken id => [id]

/-- What the answer to a call tells. -/
def Call.textsOf : (call : Call) → call.Answer → List String
  | .addUser _, user | .findUser _, user | .amendUser _ _, user => user.texts
  | .setCredential _, c | .credentialOfLogin _, c | .credentialOfUser _, c => c.texts
  | .issueToken _ _ _, row | .useToken _ _, row => row.texts
  | .removeUser _, _ | .revokeToken _, _ => []

end PlayerAccounts.Store

namespace PlayerAccounts.Sql
open PlayerAccounts.Account
open PlayerAccounts.Service
open PlayerAccounts.Store
open PlayerAccounts.Time (Instant)

/-! ## The texts of statements and replies -/

def Value.texts : Value → List String
  | text s => [s]
  | _ => []

def rowTexts (row : Row) : List String := row.flatMap Value.texts

def Statement.texts (statement : Statement) : List String := rowTexts statement.parameters

def Reply.texts (reply : Reply) : List String := reply.toRows.flatMap rowTexts

/-- All texts are of one kind. -/
def Are (K : String → Prop) (texts : List String) : Prop := ∀ s ∈ texts, K s

/-- The reply is a refusal, or all its texts are of one kind. -/
def RepliedWith (K : String → Prop) : Except Refusal Reply → Prop
  | .ok reply => Are K reply.texts
  | .error _ => True

variable {σ α β ε δ : Type} {K : String → Prop}

theorem RepliedWith.weaken {K' : String → Prop} {reply : Except Refusal Reply} (h : RepliedWith K reply)
    (hK : ∀ s, K s → K' s) : RepliedWith K' reply := by
  cases reply with
  | ok reply => exact fun s hs => hK s (h s hs)
  | error refusal => trivial

@[simp] theorem are_nil : Are K [] := fun _ hs => absurd hs List.not_mem_nil

@[simp] theorem are_cons {s : String} {texts : List String} : Are K (s :: texts) ↔ K s ∧ Are K texts :=
  List.forall_mem_cons

theorem are_singleton {s : String} : Are K [s] ↔ K s := List.forall_mem_singleton

/-! ## Reading rows -/

theorem exists_of_bind_ok {x : Except ε α} {f : α → Except ε β} {b : β} (h : x >>= f = .ok b) :
    ∃ a, x = .ok a ∧ f a = .ok b := by
  cases x with
  | error e => cases h
  | ok a => exact ⟨a, rfl, h⟩

section Reading
variable {column : String} {value : Value} {row : Row}

theorem eq_text_of_read {s : String} (h : value.inColumn column Value.asText = .ok s) : value = .text s := by
  cases value <;> cases h
  rfl

theorem texts_of_readOption {s? : Option String}
    (h : value.inColumn column (Value.asOption Value.asText) = .ok s?) : value.texts = s?.toList := by
  cases value <;> cases h <;> rfl

theorem subset_of_readUser {u : User} (h : readUser row = .ok u) : u.texts ⊆ rowTexts row := by
  unfold readUser at h
  split at h
  · rename_i id email confirmed registered active crystals double experience premium
    obtain ⟨userId, hid, h⟩ := exists_of_bind_ok h
    obtain ⟨userEmail, hemail, h⟩ := exists_of_bind_ok h
    have htexts : u.texts = userId :: userEmail.toList := by
      -- The other columns have no texts, whatever is read in them.
      iterate 7 obtain ⟨_, -, h⟩ := exists_of_bind_ok h
      cases h
      rfl
    have hrow : rowTexts [id, email, confirmed, registered, active, crystals, double, experience, premium] =
        u.texts ++ rowTexts [confirmed, registered, active, crystals, double, experience, premium] := by
      rw [htexts, eq_text_of_read hid, ← texts_of_readOption hemail]
      rfl
    rw [hrow]
    exact List.subset_append_left _ _
  · cases h

theorem texts_of_readCredential {c : Credential} (h : readCredential row = .ok c) : rowTexts row = c.texts := by
  unfold readCredential at h
  split at h
  · obtain ⟨userId, hid, h⟩ := exists_of_bind_ok h
    obtain ⟨login, hlogin, h⟩ := exists_of_bind_ok h
    obtain ⟨hash, hhash, h⟩ := exists_of_bind_ok h
    obtain ⟨salt, hsalt, h⟩ := exists_of_bind_ok h
    cases h
    rw [eq_text_of_read hid, eq_text_of_read hlogin, eq_text_of_read hhash, eq_text_of_read hsalt]
    rfl
  · cases h

theorem subset_of_readToken {found : SessionToken} (h : readToken row = .ok found) :
    found.texts ⊆ rowTexts row := by
  unfold readToken at h
  split at h
  · rename_i userId created lastUsed token
    obtain ⟨id, hid, h⟩ := exists_of_bind_ok h
    obtain ⟨first, -, h⟩ := exists_of_bind_ok h
    obtain ⟨last, -, h⟩ := exists_of_bind_ok h
    obtain ⟨secret, hsecret, h⟩ := exists_of_bind_ok h
    cases h
    rw [eq_text_of_read hid, eq_text_of_read hsecret]
    intro s hs
    simp only [SessionToken.texts, List.mem_cons, List.not_mem_nil, or_false] at hs
    rcases hs with rfl | rfl <;> simp [rowTexts, Value.texts]
  · cases h

end Reading

/-! ## Writing rows -/

theorem rowTexts_notNull (row : Row) : rowTexts (row.filter (· != .null)) = rowTexts row := by
  induction row with
  | nil => rfl
  | cons value row ih =>
    rw [List.filter_cons]
    cases value with
    | null => exact ih
    | _ => exact congrArg (_ ++ ·) ih

theorem texts_ofOption (s? : Option String) : (Value.ofOption .text s?).texts = s?.toList := by
  cases s? <;> rfl

theorem texts_ofInstant? (t? : Option Instant) : (Value.ofOption .ofInstant t?).texts = [] := by
  cases t? <;> rfl

theorem texts_userRow (u : User) : rowTexts (userRow u) = u.texts := by
  change u.id :: ((Value.ofOption .text u.email).texts ++ ((Value.ofOption .ofInstant u.doubleCrystals).texts ++
    ((Value.ofOption .ofInstant u.premium).texts ++ []))) = u.texts
  rw [texts_ofOption, texts_ofInstant?, texts_ofInstant?]
  exact congrArg (u.id :: ·) (List.append_nil _)

theorem texts_insert (r : Relation) (row : Row) (isReplacing : Bool) :
    (Statement.insert r row isReplacing).texts = rowTexts row := rowTexts_notNull row

theorem texts_assigned (name : String) {encode : α → Value} (h : ∀ a, (encode a).texts = []) (a? : Option α) :
    rowTexts ((a?.map fun a => (name, encode a)).toList.map Prod.snd) = [] := by
  cases a? with
  | none => rfl
  | some a => exact (List.append_nil _).trans (h a)

theorem rowTexts_append (row more : Row) : rowTexts (row ++ more) = rowTexts row ++ rowTexts more :=
  List.flatMap_append

theorem texts_assignments (changes : Changes) :
    rowTexts ((assignments changes).map Prod.snd) = changes.email.target?.join.toList := by
  have hemail : rowTexts ((changes.email.target?.map
      fun e => ("email", Value.ofOption .text e)).toList.map Prod.snd) =
        changes.email.target?.join.toList := by
    cases changes.email <;> rfl
  simp only [assignments, List.map_append, rowTexts_append]
  rw [hemail, texts_assigned _ (fun _ => rfl), texts_assigned _ (fun _ => rfl),
    texts_assigned _ (fun _ => rfl), texts_assigned _ texts_ofInstant?, texts_assigned _ (fun _ => rfl),
    texts_assigned _ texts_ofInstant?]
  simp only [List.append_nil]

/-! ## Queries -/

/-- As long as the replies are made of texts of one kind, the query sends such texts only, and comes to
results of one kind. -/
def Query.Carries (K : String → Prop) (Q : α → Prop) : Query α → Prop
  | done a => Q a
  | send statement next => Are K statement.texts ∧ ∀ reply, RepliedWith K reply → (next reply).Carries K Q

namespace Query.Carries
variable {Q Q' : α → Prop} {R : β → Prop} {q : Query α} {f : α → Query β}

theorem bind (h : q.Carries K Q) (hf : ∀ a, Q a → (f a).Carries K R) : (q >>= f).Carries K R := by
  change (q.bind f).Carries K R
  induction q with
  | done a => exact hf a h
  | send statement next ih => exact ⟨h.1, fun reply hr => ih reply (h.2 reply hr)⟩

theorem weaken (h : q.Carries K Q) (hQ : ∀ a, Q a → Q' a) : q.Carries K Q' := by
  induction q with
  | done a => exact hQ a h
  | send statement next ih => exact ⟨h.1, fun reply hr => ih reply (h.2 reply hr)⟩

theorem exchanges (h : q.Carries K Q) (c : Connection σ) {state : σ}
    (hreplies : ∀ e ∈ q.exchanges c state, RepliedWith K e.reply) :
    (∀ e ∈ q.exchanges c state, Are K e.statement.texts) ∧ Q (q.run c state).1 := by
  induction q generalizing state with
  | done a => exact ⟨fun e he => absurd he List.not_mem_nil, h⟩
  | send statement next ih =>
    obtain ⟨hfirst, hrest⟩ := List.forall_mem_cons.mp hreplies
    obtain ⟨hsent, hresult⟩ := ih _ (h.2 _ hfirst) hrest
    exact ⟨List.forall_mem_cons.mpr ⟨h.1, hsent⟩, hresult⟩

end Query.Carries

/-! ## Queries that can fail -/

namespace Attempt

def Carries (K : String → Prop) (Q : α → Prop) (a : Attempt ε α) : Prop :=
  Query.Carries K (fun result => ∀ x, result = .ok x → Q x) a.run

namespace Carries
variable {Q : α → Prop} {R : β → Prop} {a : Attempt ε α} {statement : Statement}
  {read : Row → Except QueryError α}

theorem pure {x : α} (h : Q x) : Carries K Q (pure x : Attempt ε α) := fun _ he => Except.ok.inj he ▸ h

theorem failure (e : ε) : Carries K Q (throw e : Attempt ε α) := fun _ he => nomatch he

theorem bind {f : α → Attempt ε β} (h : Carries K Q a) (hf : ∀ x, Q x → Carries K R (f x)) :
    Carries K R (a >>= f) := by
  refine Query.Carries.bind h fun result hresult => ?_
  cases result with
  | ok x => exact hf x (hresult x rfl)
  | error e => exact failure e

theorem send (h : Are K statement.texts) : Carries K (fun reply => Are K reply.texts) (send statement) := by
  refine ⟨h, fun reply hr x hx => ?_⟩
  cases reply with
  | error refusal => cases hx
  | ok answer =>
    have hsame : answer = x := Except.ok.inj hx
    exact hsame ▸ hr

theorem inTermsOf {terms : ε → δ} (h : Carries K Q a) : Carries K Q (a.inTermsOf terms) := by
  refine Query.Carries.bind h fun result hresult x hx => ?_
  cases result with
  | error e => cases hx
  | ok answer =>
    exact Except.ok.inj hx ▸ hresult answer rfl

theorem first? (h : Are K statement.texts) (hread : ∀ row x, read row = .ok x → Are K (rowTexts row) → Q x) :
    Carries K (fun x? => ∀ x ∈ x?, Q x) (first? read statement) := by
  refine (send h).bind fun reply hreply => ?_
  split
  · exact pure nofun
  · rename_i row rest hrows
    have hrow : Are K (rowTexts row) := fun s hs =>
      hreply s (List.mem_flatMap.mpr ⟨row, hrows ▸ List.mem_cons_self, hs⟩)
    cases hr : read row with
    | error e => exact failure e
    | ok x => exact pure fun found hfound => Option.some.inj hfound ▸ hread row x hr hrow

theorem first (h : Are K statement.texts) (hread : ∀ row x, read row = .ok x → Are K (rowTexts row) → Q x) :
    Carries K Q (first read statement) := by
  refine (first? h hread).bind fun x? hx => ?_
  cases x? with
  | none => exact failure _
  | some x => exact pure (hx x rfl)

theorem transaction {terms : QueryError → ε} (h : Carries K Q a) : Carries K Q (transaction terms a) := by
  have hcontrol {control : Statement} (hno : control.texts = []) :
      Carries K (fun _ => True) (Attempt.inTermsOf terms (Attempt.send control)) := by
    have hsend : Are K control.texts := hno ▸ are_nil
    exact Query.Carries.weaken (inTermsOf (send hsend)) fun _ _ _ _ => trivial
  have hlift : Carries K (fun result => ∀ x, result = .ok x → Q x) (ExceptT.lift a.run : Attempt ε _) :=
    Query.Carries.bind h fun result hresult _ he => Except.ok.inj he ▸ hresult
  refine (hcontrol rfl).bind fun _ _ => hlift.bind fun result hresult => ?_
  cases result with
  | ok x => exact (hcontrol rfl).bind fun _ _ => pure (hresult x rfl)
  | error e => exact (hcontrol rfl).bind fun _ _ => failure e

end Carries
end Attempt

/-! ## Calls -/

section Calls
variable {Q : α → Prop} {name : String} {read : Row → Except QueryError α} {statement : Statement}

theorem carries_lookedUp (h : Are K statement.texts)
    (hread : ∀ row x, read row = .ok x → Are K (rowTexts row) → Q x) :
    Attempt.Carries K Q (lookedUp name read statement) := by
  refine (Attempt.Carries.first? h hread).inTermsOf.bind fun x? hx => ?_
  cases x? with
  | none => exact .failure _
  | some x => exact .pure (hx x rfl)

theorem are_readUser (row : Row) (u : User) (h : readUser row = .ok u) (hrow : Are K (rowTexts row)) :
    Are K u.texts := fun s hs => hrow s (subset_of_readUser h hs)

theorem are_readCredential (row : Row) (c : Credential) (h : readCredential row = .ok c)
    (hrow : Are K (rowTexts row)) : Are K c.texts := texts_of_readCredential h ▸ hrow

theorem are_readToken (row : Row) (found : SessionToken) (h : readToken row = .ok found)
    (hrow : Are K (rowTexts row)) : Are K found.texts := fun s hs => hrow s (subset_of_readToken h hs)

theorem carries_inserted {r : Relation} {row : Row} {isReplacing : Bool} {terms : StoreError → StoreError}
    (h : Are K (rowTexts row)) (hread : ∀ row x, read row = .ok x → Are K (rowTexts row) → Q x) :
    Attempt.Carries K Q (reworded terms (storing (Attempt.first read (.insert r row isReplacing)))) :=
  (Attempt.Carries.first (by rwa [texts_insert]) hread).inTermsOf.inTermsOf

theorem carries_amendUser {id : String} {changes : Changes} (h : Are K (Call.amendUser id changes).texts) :
    Attempt.Carries K (fun u => Are K u.texts) (amendUser id changes) := by
  obtain ⟨hid, hemail⟩ := are_cons.mp h
  have hkey : Are K [id] := are_singleton.mpr hid
  unfold amendUser
  split
  · exact carries_lookedUp hkey are_readUser
  · refine carries_lookedUp ?_ are_readUser
    change Are K (rowTexts ((assignments changes).map Prod.snd ++ [.text id]))
    rw [rowTexts_append, texts_assignments]
    exact fun s hs => (List.mem_append.mp hs).elim (hemail s) (hkey s)

/-- The second statement has the id that came back with the first one. -/
theorem carries_useToken {token : String} {now : Instant} (h : Are K [token]) :
    Attempt.Carries K (fun row => Are K row.texts) (useToken token now) := by
  refine Attempt.Carries.transaction ?_
  refine (carries_lookedUp h are_readToken).bind fun current hcurrent => ?_
  have hkey : Are K [current.userId] := are_singleton.mpr (are_cons.mp hcurrent).1
  exact (Attempt.Carries.first hkey are_readToken).inTermsOf

theorem carries_deleted {r : Relation} {id : String} (h : Are K [id]) :
    Attempt.Carries K (fun _ => True) (storing (Attempt.send (.delete r id))) :=
  Query.Carries.weaken (Attempt.Carries.send h).inTermsOf fun _ _ _ _ => trivial

/-- What carries out a call sends the texts of the call, and texts that were in a reply. -/
theorem carries_carryOut {call : Call} (h : Are K call.texts) :
    Attempt.Carries K (fun x => Are K (call.textsOf x)) (Sql.carryOut call) := by
  cases call with
  | addUser user => exact carries_inserted (by rwa [texts_userRow]) are_readUser
  | findUser id => exact carries_lookedUp h are_readUser
  | amendUser id changes => exact carries_amendUser h
  | removeUser id =>
    refine (carries_deleted h).bind fun reply _ => ?_
    split
    · exact .failure _
    · exact .pure are_nil
  | setCredential c => exact carries_inserted h are_readCredential
  | credentialOfLogin login => exact carries_lookedUp h are_readCredential
  | credentialOfUser id => exact carries_lookedUp h are_readCredential
  | issueToken id token now => exact carries_inserted h are_readToken
  | useToken token now => exact carries_useToken h
  | revokeToken id => exact (carries_deleted h).bind fun _ _ => .pure are_nil

end Calls

/-! ## Programs -/

/-- Calls with texts of one kind. -/
def AskingWith (K : String → Prop) (call : Call) : Prop := Are K call.texts

/-- Answers that are refusals, or have texts of one kind. -/
def AnsweringWith (K : String → Prop) : AnswerKind := fun call answer =>
  ∀ x, answer = .ok x → Are K (call.textsOf x)

theorem carries_pool (p : Pool) {call : Call} (h : AskingWith K call) :
    Query.Carries K (AnsweringWith K call) (p.carryOut call).run := by
  have hcarries : Attempt.Carries K (fun x => Are K (call.textsOf x)) (p.carryOut call) := by
    unfold Pool.carryOut
    split
    · exact carries_carryOut h
    · exact .failure _
  exact hcarries

/-- A program that asks with texts of one kind only, as long as it is answered with such texts, sends none
but such texts, as long as it gets none but such in reply. -/
theorem exchanges_of_asks {p : Program α} {Q : α → Prop} (h : p.Asks (AskingWith K) (AnsweringWith K) Q)
    (pool : Pool) (c : Connection σ) {state : σ}
    (hreplies : ∀ e ∈ pool.exchanges c p state, RepliedWith K e.reply) :
    ∀ e ∈ pool.exchanges c p state, Are K e.statement.texts := by
  induction p generalizing state with
  | done a => exact fun e he => absurd he List.not_mem_nil
  | ask call next ih =>
    obtain ⟨hcall, hnext⟩ := h
    obtain ⟨hfirst, hrest⟩ := List.forall_mem_append.mp hreplies
    -- The answer is made of the replies, so what is left of the program asks with such texts again.
    obtain ⟨hsent, hanswer⟩ := (carries_pool pool hcall).exchanges c hfirst
    exact List.forall_mem_append.mpr ⟨hsent, ih _ (hnext _ hanswer) hrest⟩
  | note event next ih => exact ih h hreplies

/-! ## Texts that the database refuses -/

/-- A text that the database takes as a parameter, as far as its characters go. -/
def IsSendable (s : String) : Prop := '\x00' ∉ s.toList

instance : DecidablePred IsSendable := fun s => inferInstanceAs (Decidable ('\x00' ∉ s.toList))

instance [DecidablePred K] : DecidablePred (Are K) := fun texts =>
  inferInstanceAs (Decidable (∀ s ∈ texts, K s))

instance [DecidablePred K] : DecidablePred (RepliedWith K)
  | .ok reply => inferInstanceAs (Decidable (Are K reply.texts))
  | .error _ => .isTrue trivial

/-- The same database, which refuses every statement with a text that cannot be sent. -/
def Connection.strict (c : Connection σ) (refusal : Refusal) : Connection σ where
  execute statement state :=
    if Are IsSendable statement.texts then c.execute statement state else (.error refusal, state)

section Strict
variable {c : Connection σ} {refusal : Refusal} {state : σ}

theorem execute_strict {statement : Statement} (h : Are IsSendable statement.texts) :
    (c.strict refusal).execute statement state = c.execute statement state := if_pos h

theorem Query.run_strict {q : Query α} (h : ∀ e ∈ q.exchanges c state, Are IsSendable e.statement.texts) :
    q.run (c.strict refusal) state = q.run c state := by
  induction q generalizing state with
  | done a => rfl
  | send statement next ih =>
    obtain ⟨hfirst, hrest⟩ := List.forall_mem_cons.mp h
    rw [Query.run, Query.run, execute_strict hfirst]
    exact ih _ hrest

/-- Where only texts that can be sent are sent, it makes no difference that the others are refused. -/
theorem run_strict {p : Program α} {pool : Pool}
    (h : ∀ e ∈ pool.exchanges c p state, Are IsSendable e.statement.texts) :
    p.run (pool.backend (c.strict refusal)) state = p.run (pool.backend c) state := by
  induction p generalizing state with
  | done a => rfl
  | ask call next ih =>
    obtain ⟨hfirst, hrest⟩ := List.forall_mem_append.mp h
    have hcall : (pool.carryOut call).run.run (c.strict refusal) state = (pool.carryOut call).run.run c state :=
      Query.run_strict hfirst
    simp only [Program.run, Pool.backend, hcall]
    exact ih _ hrest
  | note event next ih =>
    rw [Program.run, Program.run, ih h]

end Strict
end PlayerAccounts.Sql
