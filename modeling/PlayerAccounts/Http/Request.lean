import PlayerAccounts.Text.Percent
/-!
# Requests

A request as it arrives: the target, absolute or not, is split into path and query, and headers are
looked up by name in any case, the first one counting.
-/
namespace PlayerAccounts.Http
set_option autoImplicit false

open PlayerAccounts.Text

/-! ## Methods -/

/-- What a request wants done with its target. -/
inductive Method where
  | get | head | post | patch | delete
  /-- A method that no endpoint has. -/
  | other
deriving DecidableEq, Repr

def Method.ofName : String → Method
  | "GET" => get
  | "HEAD" => head
  | "POST" => post
  | "PATCH" => patch
  | "DELETE" => delete
  | _ => other

def Method.name : Method → String
  | get => "GET"
  | head => "HEAD"
  | post => "POST"
  | patch => "PATCH"
  | delete => "DELETE"
  | other => ""

/-! ## Requests -/

structure Request where
  method : Method
  target : String
  headers : List (String × List UInt8)
  body : List UInt8
deriving DecidableEq, Repr

namespace Request

/-- What stands in a target behind scheme and authority. A target that begins with a slash has neither,
and one without a scheme is an authority and nothing else. -/
def behindAuthority : List Char → List Char
  | '/' :: rest => '/' :: rest
  | target =>
    match target.dropWhile (· != ':') with
    | ':' :: '/' :: '/' :: rest => rest.dropWhile fun c => c != '/' && c != '?'
    | _ => []

/-- The target without scheme, authority and fragment. -/
def resource (r : Request) : List Char := behindAuthority (r.target.toList.takeWhile (· != '#'))

def path (r : Request) : List Char := r.resource.takeWhile (· != '?')

/-- The query, which is empty if there is none. -/
def query (r : Request) : List Char := (r.resource.dropWhile (· != '?')).drop 1

/-- The first header with a name, which is given in lower case. -/
def header? (r : Request) (name : String) : Option (List UInt8) :=
  (r.headers.find? fun header => header.1.toLower == name).map Prod.snd

end Request

/-- A byte that a header may have as text: visible in ASCII, a blank or a tab. -/
def isVisible (b : UInt8) : Bool := (32 ≤ b && b < 127) || b == 9

/-- The text of a header, if it has only visible characters. -/
def headerText? (bytes : List UInt8) : Option (List Char) :=
  if bytes.all isVisible then some (bytes.map fun b => Char.ofNat b.toNat) else none

end PlayerAccounts.Http
