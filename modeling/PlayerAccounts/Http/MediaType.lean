/-!
# Media types

The header that says what the body of a request is, as far as it concerns documents: a type, a subtype
that may have a suffix, and parameters.
-/
namespace PlayerAccounts.Http
set_option autoImplicit false

/-! ## Characters -/

def isTokenCharacter (c : Char) : Bool :=
  ('a' ≤ c && c ≤ 'z') || ('A' ≤ c && c ≤ 'Z') || ('0' ≤ c && c ≤ '9') ||
    "!#$%&'*+-.^_`|~".toList.contains c

/-- A character that may stand between quotes. -/
def isQuotable (c : Char) : Bool := 31 < c.toNat && c.toNat != 127

/-! ## Parameters -/

/-- How far the parameters of a media type have been read. -/
inductive Progress where
  /-- Before a parameter, or behind the last one. -/
  | opening
  | name
  | valueStart
  | value
  | quoteStart
  | quoted
  | closed
deriving DecidableEq, Repr

/-- What one more character does, unless it is out of place. -/
def Progress.next (progress : Progress) (c : Char) : Option Progress :=
  match progress with
  | opening => if c == ' ' then some opening else if isTokenCharacter c then some name else none
  | name => if c == '=' then some valueStart else if isTokenCharacter c then some name else none
  | valueStart => if c == '"' then some quoteStart else if isTokenCharacter c then some value else none
  | value => if c == ';' then some opening else if isTokenCharacter c then some value else none
  | quoteStart => if isQuotable c then some quoted else none
  | quoted => if c == '"' then some closed else if isQuotable c then some quoted else none
  | closed => if c == ';' then some opening else if c == ' ' then some closed else none

/-- Whether the parameters may end here. -/
def Progress.mayEnd : Progress → Bool
  | opening | valueStart | value | closed => true
  | name | quoteStart | quoted => false

def areParameters (s : List Char) : Bool := (s.foldlM Progress.next .opening).any Progress.mayEnd

/-! ## Media types -/

/-- A media type without its parameters, in lower case. -/
structure MediaType where
  type : List Char
  /-- The subtype up to its last plus sign. -/
  subtype : List Char
  /-- What follows the last plus sign. -/
  suffix : Option (List Char)
deriving DecidableEq, Repr

/-- A subtype cut at its last plus sign, unless it begins there. -/
def cutAtPlus (s : List Char) : List Char × Option (List Char) :=
  let suffix := (s.reverse.takeWhile (· != '+')).reverse
  if suffix.length + 1 < s.length then (s.take (s.length - suffix.length - 1), some suffix)
  else (s, none)

/-- The media type that a text names. -/
def MediaType.ofText? (s : List Char) : Option MediaType :=
  let s := s.map Char.toLower
  let type := s.takeWhile isTokenCharacter
  match s.dropWhile isTokenCharacter with
  | '/' :: rest =>
    let essence := rest.takeWhile isTokenCharacter
    let (subtype, suffix) := cutAtPlus essence
    if type.isEmpty || essence.isEmpty then none
    else match rest.dropWhile isTokenCharacter with
      | [] => some ⟨type, subtype, suffix⟩
      | ';' :: parameters => if areParameters parameters then some ⟨type, subtype, suffix⟩ else none
      | _ => none
  | _ => none

def MediaType.isDocument (m : MediaType) : Bool :=
  m.type == "application".toList && (m.subtype == "json".toList || m.suffix == some "json".toList)

end PlayerAccounts.Http
