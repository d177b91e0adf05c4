import PlayerAccounts.Api.Responses
import PlayerAccounts.Json.Document
import PlayerAccounts.Service.Error
/-!
# Responses

What a client receives.
-/
namespace PlayerAccounts.Http
set_option autoImplicit false

open PlayerAccounts.Service

structure Response where
  status : Nat
  contentType : Option String
  /-- The methods that the endpoint has, where the request used another one. -/
  allow : Option String
  body : String
deriving DecidableEq, Repr, Inhabited

namespace Response

/-! ## Forms -/

def document (status : Nat) (text : String) : Response := ⟨status, some "application/json", none, text⟩

def ok (text : String) : Response := document 200 text

def created (text : String) : Response := document 201 text

def noContent : Response := ⟨204, none, none, ""⟩

/-- A complaint in plain text. -/
def complaint (text : String) : Response := ⟨400, some "text/plain; charset=utf-8", none, text⟩

def unknownPath : Response := ⟨404, none, none, ""⟩

def wrongMethod (allow : String) : Response := ⟨405, none, some allow, ""⟩

def ofError (e : ServiceError) : Response :=
  document e.status (Api.errorBody.encode ⟨e.code, e.publicMessage, none⟩)

def withoutBody (r : Response) : Response := { r with body := "" }

end Response
end PlayerAccounts.Http
