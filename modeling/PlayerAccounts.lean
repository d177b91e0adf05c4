import PlayerAccounts.Account.Credential
import PlayerAccounts.Account.Draw
import PlayerAccounts.Account.Password
import PlayerAccounts.Account.Rules
import PlayerAccounts.Account.SessionToken
import PlayerAccounts.Account.User
import PlayerAccounts.Api.Requests
import PlayerAccounts.Api.Responses
import PlayerAccounts.Bcrypt.Blowfish
import PlayerAccounts.Bcrypt.Circle
import PlayerAccounts.Bcrypt.Text
import PlayerAccounts.Decimal.Shortest
import PlayerAccounts.Http.Endpoint
import PlayerAccounts.Http.Input
import PlayerAccounts.Http.MediaType
import PlayerAccounts.Http.Request
import PlayerAccounts.Http.Response
import PlayerAccounts.Http.Router
import PlayerAccounts.Json.Codec
import PlayerAccounts.Json.Document
import PlayerAccounts.Json.Fault
import PlayerAccounts.Json.Record
import PlayerAccounts.Json.Scan
import PlayerAccounts.Json.Skip
import PlayerAccounts.Log.Entry
import PlayerAccounts.Service.Accounts
import PlayerAccounts.Service.Error
import PlayerAccounts.Service.Event
import PlayerAccounts.Service.Launch
import PlayerAccounts.Service.Occasion
import PlayerAccounts.Service.Program
import PlayerAccounts.Service.Sessions
import PlayerAccounts.Settings.Basic
import PlayerAccounts.Settings.Environment
import PlayerAccounts.Settings.Masked
import PlayerAccounts.Sql.Accounts
import PlayerAccounts.Sql.Fault
import PlayerAccounts.Sql.Migration
import PlayerAccounts.Sql.Pool
import PlayerAccounts.Sql.Query
import PlayerAccounts.Sql.Rows
import PlayerAccounts.Sql.Schema
import PlayerAccounts.Sql.Script
import PlayerAccounts.Sql.Statement
import PlayerAccounts.Store.Call
import PlayerAccounts.Store.Drill
import PlayerAccounts.Store.Error
import PlayerAccounts.Store.Tables
import PlayerAccounts.Text.Blank
import PlayerAccounts.Text.Formless
import PlayerAccounts.Text.Percent
import PlayerAccounts.Text.Quoted
import PlayerAccounts.Text.Unsigned
import PlayerAccounts.Text.Utf8
import PlayerAccounts.Time.Calendar
import PlayerAccounts.Time.Instant
import PlayerAccounts.Time.Rfc3339
import PlayerAccounts.Proofs.Account.Secrets
import PlayerAccounts.Proofs.Account.Forms
import PlayerAccounts.Proofs.Store.Rows
import PlayerAccounts.Proofs.Store.Soundness
import PlayerAccounts.Proofs.Store.Calls
import PlayerAccounts.Proofs.Store.Runs
import PlayerAccounts.Proofs.Store.Writes
import PlayerAccounts.Proofs.Store.Footprints
import PlayerAccounts.Proofs.Store.Residue
import PlayerAccounts.Proofs.Store.Turns
import PlayerAccounts.Proofs.Service.Evaluation
import PlayerAccounts.Proofs.Service.SessionOutcomes
import PlayerAccounts.Proofs.Service.AccountOutcomes
import PlayerAccounts.Proofs.Service.Stages
import PlayerAccounts.Proofs.Service.ConcurrentRegistration
import PlayerAccounts.Proofs.Service.Overtaking
import PlayerAccounts.Proofs.Service.FailedCalls
import PlayerAccounts.Proofs.Service.Operations
import PlayerAccounts.Proofs.Service.History
import PlayerAccounts.Proofs.Service.Lifecycle
import PlayerAccounts.Proofs.Service.CredentialLifecycle
import PlayerAccounts.Proofs.Http.Effects
import PlayerAccounts.Proofs.Http.Isolation
import PlayerAccounts.Proofs.Http.Privilege
import PlayerAccounts.Proofs.Http.SessionTokens
import PlayerAccounts.Proofs.Http.SessionLifecycle
import PlayerAccounts.Proofs.Http.Answers
import PlayerAccounts.Proofs.Http.Refusals
import PlayerAccounts.Proofs.Service.Secrecy
import PlayerAccounts.Proofs.Http.Secrecy
import PlayerAccounts.Proofs.Http.Wording
import PlayerAccounts.Proofs.Sql.Agreement
import PlayerAccounts.Proofs.Time.Calendar
import PlayerAccounts.Proofs.Time.Rfc3339
import PlayerAccounts.Proofs.Json.Leaves
import PlayerAccounts.Proofs.Json.Records
import PlayerAccounts.Proofs.Api.RoundTrip
import PlayerAccounts.Proofs.Service.ConfirmedEmail
import PlayerAccounts.Proofs.Service.RivalChanges
import PlayerAccounts.Proofs.Service.OrderlyEnds
import PlayerAccounts.Proofs.Service.Asking
import PlayerAccounts.Proofs.Service.StoredRows
import PlayerAccounts.Proofs.Sql.Texts
import PlayerAccounts.Proofs.Service.PassedOn
import PlayerAccounts.Proofs.Http.Replies
import PlayerAccounts.Proofs.Http.MemoryService
import PlayerAccounts.Proofs.Http.UncheckedTexts
import PlayerAccounts.Proofs.Account.Keys
import PlayerAccounts.Proofs.Account.StoredHashes
import PlayerAccounts.Proofs.Settings.Masking
import PlayerAccounts.Proofs.Account.Changesets
import PlayerAccounts.Proofs.Sql.EmptyChanges
import PlayerAccounts.Proofs.Store.TokenUse
import PlayerAccounts.Proofs.Service.Updates
import PlayerAccounts.Proofs.Service.Availability
import PlayerAccounts.Proofs.Http.FailedLogins
import PlayerAccounts.Proofs.Http.Outsiders
