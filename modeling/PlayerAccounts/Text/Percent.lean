import PlayerAccounts.Text.Utf8
/-!
# Percent escapes and form fields

Reading the escapes of a request target, and the fields of a query. An escape that is not a percent
sign with two hexadecimal digits stays as it is.
-/
namespace PlayerAccounts.Text
set_option autoImplicit false

/-! ## Escapes -/

def hexValue? (c : Char) : Option Nat :=
  if '0' ≤ c && c ≤ '9' then some (c.toNat - 48)
  else if 'a' ≤ c && c ≤ 'f' then some (c.toNat - 87)
  else if 'A' ≤ c && c ≤ 'F' then some (c.toNat - 55)
  else none

/-- The byte that two hexadecimal digits spell. -/
def hexByte? (high low : UInt8) : Option UInt8 :=
  match hexValue? (Char.ofNat high.toNat), hexValue? (Char.ofNat low.toNat) with
  | some h, some l => some (UInt8.ofNat (h * 16 + l))
  | _, _ => none

def percentDecode : List UInt8 → List UInt8
  | [] => []
  | b :: rest =>
    if b == 37 then
      match rest with
      | high :: low :: rest' =>
        match hexByte? high low with
        | some byte => byte :: percentDecode rest'
        | none => b :: percentDecode (high :: low :: rest')
      | short => b :: short
    else b :: percentDecode rest

/-! ## Forms -/

/-- The parts between the separators; there is always at least one. -/
def splitAll (separator : UInt8) : List UInt8 → List (List UInt8)
  | [] => [[]]
  | b :: rest =>
    if b == separator then [] :: splitAll separator rest
    else match splitAll separator rest with
      | part :: parts => (b :: part) :: parts
      | [] => [[b]]

/-- The text of a form's name or value: a plus sign is a blank. -/
def formText (bytes : List UInt8) : String :=
  String.ofList (ofUtf8Lossy (percentDecode (bytes.map fun b => if b == 43 then 32 else b)))

/-- The fields of a form, in order: parts between ampersands, cut at the first equals sign. -/
def formFields (bytes : List UInt8) : List (String × String) :=
  ((splitAll 38 bytes).filter (!·.isEmpty)).map fun part =>
    (formText (part.takeWhile (· != 61)), formText ((part.dropWhile (· != 61)).drop 1))

end PlayerAccounts.Text
