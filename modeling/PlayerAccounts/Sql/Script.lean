import PlayerAccounts.Sql.Query
/-!
# Scripted databases

A database that stores nothing: it gives prepared replies in their order and remembers what was sent.
Statements that begin or end a transaction take no reply; they succeed unless a refusal is prepared for
them.
-/
namespace PlayerAccounts.Sql
set_option autoImplicit false

/-- A database that plays a script. -/
structure Script where
  replies : List (Except Refusal Reply)
  /-- Refusals of statements that begin or end a transaction. -/
  refusals : List (Statement × Refusal)
  /-- What was sent so far. -/
  sent : List Statement

namespace Script

/-- The next reply to a statement, and the script after it. A script that is played out affects no
row. -/
def execute (statement : Statement) (s : Script) : Except Refusal Reply × Script :=
  let sent := s.sent ++ [statement]
  if statement.isControl then
    match s.refusals.lookup statement with
    | some refusal => (.error refusal, { s with sent := sent })
    | none => (.ok (.affected 0), { s with sent := sent })
  else
    match s.replies with
    | reply :: replies => (reply, { s with replies := replies, sent := sent })
    | [] => (.ok (.affected 0), { s with sent := sent })

def connection : Connection Script := ⟨execute⟩

end Script
end PlayerAccounts.Sql
