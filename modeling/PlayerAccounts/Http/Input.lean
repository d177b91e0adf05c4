import PlayerAccounts.Api.Requests
import PlayerAccounts.Http.MediaType
import PlayerAccounts.Http.Request
import PlayerAccounts.Service.Error
import PlayerAccounts.Text.Blank
/-!
# What a request brings along

The session token in a header, the document in the body, the login in the query and the user's id in the
path, each with its way to be refused.
-/
namespace PlayerAccounts.Http
set_option autoImplicit false

open PlayerAccounts.Json
open PlayerAccounts.Service
open PlayerAccounts.Text

/-! ## Session tokens -/

/-- The token behind the name of the scheme, without blanks around it. -/
def bearerToken? (header : List Char) : Option String :=
  let scheme := "Bearer ".toList
  if scheme.isPrefixOf header then
    let token := trim (header.drop scheme.length)
    if token.isEmpty then none else some (String.ofList token)
  else none

/-- The session token that a request presents. -/
def Request.bearer (r : Request) : Except ServiceError String :=
  match (r.header? "authorization").bind fun bytes => (headerText? bytes).bind bearerToken? with
  | some token => .ok token
  | none => .error .invalidTokenFormat

/-! ## Documents -/

def maxBodyBytes : Nat := 2097152

inductive BodyFault where
  | notADocument
  | tooLong
  | fault (fault : Fault)
deriving DecidableEq, Repr

/-- The fault in words. A text that is no document and a document of the wrong shape are told apart. -/
def BodyFault.message : BodyFault → String
  | notADocument => "Expected request with `Content-Type: application/json`"
  | tooLong => "Failed to buffer the request body: length limit exceeded"
  | fault f =>
    match f.cause with
    | .mismatch _ => "Failed to deserialize the JSON body into the target type: " ++ f.locatedMessage
    | _ => "Failed to parse the request body as JSON: " ++ f.locatedMessage

def Request.announcesDocument (r : Request) : Bool :=
  ((r.header? "content-type").bind fun bytes =>
    (headerText? bytes).bind MediaType.ofText?).any MediaType.isDocument

def Request.document {α : Type} (r : Request) (codec : Codec α) : Except BodyFault α :=
  if !r.announcesDocument then .error .notADocument
  else if maxBodyBytes < r.body.length then .error .tooLong
  else (codec.decode (readGlyphs r.body)).mapError .fault

def BodyFault.error (f : BodyFault) : ServiceError := .invalidInput ("Invalid JSON: " ++ f.message)

/-! ## Queries -/

/-- The one value that the fields of a form have under a name. -/
def soleValue (name : String) (fields : List (String × String)) : Except Mismatch String :=
  match fields.filter (·.1 == name) with
  | [] => .error (.missingField name)
  | [(_, value)] => .ok value
  | _ => .error (.duplicateField name)

def Request.queriedLogin (r : Request) : Except Mismatch String :=
  soleValue "login" (formFields (utf8Bytes r.query))

/-! ## Ids in paths -/

/-- The id that a part of a path spells. -/
def decodedId? (segment : List Char) : Option String :=
  (ofUtf8? (percentDecode (utf8Bytes segment))).map String.ofList

end PlayerAccounts.Http
