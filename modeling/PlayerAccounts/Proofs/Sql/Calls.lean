import PlayerAccounts.Sql.Accounts
/-!
# What calls send

Every call but one is one statement and something that is made of its reply. The use of a session token is
a transaction of two statements.
-/
namespace PlayerAccounts.Sql
set_option autoImplicit false

open PlayerAccounts.Account
open PlayerAccounts.Store
open PlayerAccounts.Time (Instant)

variable {α ε : Type}

/-! ## What is made of a reply -/

/-- The value of the first row of a reply, if there is a row. -/
def firstRow? (read : Row → Except QueryError α) : Except Refusal Reply → Except QueryError (Option α)
  | .error refusal => .error (.refused refusal)
  | .ok reply =>
    match reply.toRows with
    | [] => .ok none
    | row :: _ => (read row).map some

/-- The value of the first row of a reply, which has to be there. -/
def firstRow (read : Row → Except QueryError α) (reply : Except Refusal Reply) : Except QueryError α :=
  match firstRow? read reply with
  | .ok (some a) => .ok a
  | .ok none => .error .noRow
  | .error e => .error e

/-- The value that was looked for under a name. -/
def foundRow (name : String) (read : Row → Except QueryError α) (reply : Except Refusal Reply) :
    Except StoreError α :=
  match firstRow? read reply with
  | .ok (some a) => .ok a
  | .ok none => .error (.notFound name)
  | .error e => .error e.storeError

section Replies
variable {read : Row → Except QueryError α} {row : Row} {a : α} (name : String)

theorem firstRow?_row (h : read row = .ok a) : firstRow? read (.ok (.rows [row])) = .ok (some a) := by
  change (read row).map some = _
  rw [h]
  rfl

theorem firstRow_row (h : read row = .ok a) : firstRow read (.ok (.rows [row])) = .ok a := by
  rw [firstRow, firstRow?_row h]

theorem foundRow_row (h : read row = .ok a) : foundRow name read (.ok (.rows [row])) = .ok a := by
  rw [foundRow, firstRow?_row h]

end Replies

/-! ## Queries of one statement -/

section Queries
variable (read : Row → Except QueryError α) (statement : Statement) (name : String)

theorem run_first? :
    (Attempt.first? read statement).run = .send statement fun reply => .done (firstRow? read reply) := by
  refine congrArg (Query.send statement) (funext fun reply => ?_)
  cases reply with
  | error refusal => rfl
  | ok reply =>
    change ExceptT.run (match reply.toRows with
      | [] => pure none
      | row :: _ => some <$> ExceptT.mk (Query.done (read row)) : Attempt QueryError (Option α)) = _
    rw [firstRow?]
    cases reply.toRows with
    | nil => rfl
    | cons row _ =>
      change ExceptT.run (some <$> ExceptT.mk (Query.done (read row))) = .done ((read row).map some)
      cases read row <;> rfl

theorem run_first :
    (Attempt.first read statement).run = .send statement fun reply => .done (firstRow read reply) := by
  change (Attempt.first? read statement).run >>= _ = _
  rw [run_first?]
  refine congrArg (Query.send statement) (funext fun reply => ?_)
  rw [firstRow]
  change Query.bind (Query.done _) _ = _
  rcases firstRow? read reply with e | _ | a <;> rfl

theorem run_lookedUp :
    (lookedUp name read statement).run = .send statement fun reply => .done (foundRow name read reply) := by
  change ((Attempt.first? read statement).run >>= _) >>= _ = _
  rw [run_first?]
  refine congrArg (Query.send statement) (funext fun reply => ?_)
  rw [foundRow]
  change Query.bind (Query.done _) _ = _
  rcases firstRow? read reply with e | _ | a <;> rfl

theorem run_storing_first :
    (storing (Attempt.first read statement)).run =
      .send statement fun reply => .done ((firstRow read reply).mapError QueryError.storeError) := by
  change (Attempt.first read statement).run >>= _ = _
  rw [run_first]
  rfl

theorem run_reworded (words : StoreError → StoreError) :
    (reworded words (storing (Attempt.first read statement))).run =
      .send statement fun reply =>
        .done (((firstRow read reply).mapError QueryError.storeError).mapError words) := by
  change (storing (Attempt.first read statement)).run >>= _ = _
  rw [run_storing_first]
  rfl

end Queries

/-! ## Transactions -/

theorem Query.bind_assoc {β γ : Type} (q : Query α) (f : α → Query β) (g : β → Query γ) :
    q >>= f >>= g = q >>= fun a => f a >>= g := by
  change (q.bind f).bind g = q.bind fun a => (f a).bind g
  induction q with
  | done a => rfl
  | send statement next ih => exact congrArg (Query.send statement) (funext ih)

/-- What a transaction does after its begin: a commit if its query succeeds, and else a rollback. -/
def ending (terms : QueryError → ε) : Except ε α → Query (Except ε α)
  | .ok a => .send .commit fun reply => .done ((reply.mapError (terms ∘ .refused)).map fun _ => a)
  | .error e => .send .rollback fun reply =>
    .done ((reply.mapError (terms ∘ .refused)).bind fun _ => .error e)

theorem run_transaction (terms : QueryError → ε) (body : Attempt ε α) :
    (Attempt.transaction terms body).run = .send .begin fun reply =>
      match reply with
      | .ok _ => body.run >>= ending terms
      | .error refusal => .done (.error (terms (.refused refusal))) := by
  refine congrArg (Query.send .begin) (funext fun reply => ?_)
  cases reply with
  | error refusal => rfl
  | ok reply =>
    refine (Query.bind_assoc body.run _ _).trans (congrArg (body.run >>= ·) (funext fun result => ?_))
    cases result with
    | ok a => exact congrArg (Query.send .commit) (funext fun reply => by cases reply <;> rfl)
    | error e => exact congrArg (Query.send .rollback) (funext fun reply => by cases reply <;> rfl)

/-- The two statements within the use of a session token. -/
theorem run_useToken (token : String) (now : Instant) :
    (useToken token now).run = .send .begin fun reply =>
      match reply with
      | .ok _ => (.send (.select .sessionToken "token" (.text token) true) fun reply =>
          match foundRow tokenNamed readToken reply with
          | .ok row => .send (.update .sessionToken
              [("timestamp_last_used", .ofInstant (row.lastUsedAfter now))] row.userId) fun reply =>
              .done ((firstRow readToken reply).mapError QueryError.storeError)
          | .error e => .done (.error e)) >>= ending QueryError.storeError
      | .error refusal => .done (.error (QueryError.refused refusal).storeError) := by
  refine (run_transaction _ _).trans (congrArg (Query.send .begin) (funext fun reply => ?_))
  cases reply with
  | error refusal => rfl
  | ok reply =>
    refine congrArg (· >>= ending QueryError.storeError) ?_
    change (lookedUp _ _ _).run >>= _ = _
    rw [run_lookedUp]
    refine congrArg (Query.send _) (funext fun reply => ?_)
    change Query.bind (Query.done _) _ = _
    cases foundRow tokenNamed readToken reply with
    | error e => rfl
    | ok row => exact run_storing_first readToken _

/-! ## Removals -/

theorem run_removeUser (id : String) :
    (removeUser id).run = .send (.delete .user id) fun reply => .done
      ((reply.mapError (QueryError.storeError ∘ .refused)).bind fun reply =>
        if reply.count = 0 then .error (.notFound (userNamed id)) else .ok ()) := by
  refine congrArg (Query.send _) (funext fun reply => ?_)
  cases reply with
  | error refusal => rfl
  | ok reply =>
    change ExceptT.run (if reply.count = 0 then _ else _) = _
    change _ = Query.done (if reply.count = 0 then _ else _)
    split <;> rfl

theorem run_revokeToken (id : String) :
    (revokeToken id).run = .send (.delete .sessionToken id) fun reply => .done
      ((reply.mapError (QueryError.storeError ∘ .refused)).map fun _ => ()) := by
  refine congrArg (Query.send _) (funext fun reply => ?_)
  cases reply <;> rfl

end PlayerAccounts.Sql
