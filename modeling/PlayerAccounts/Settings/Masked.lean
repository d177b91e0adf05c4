/-!
# Masked addresses

An address as the log may show it: what stands between the scheme and the first at sign is hidden.
-/
namespace PlayerAccounts.Settings
set_option autoImplicit false

/-- A text up to the end of the first occurrence of a mark in it. -/
def throughMark? (mark : List Char) : List Char → Option (List Char)
  | [] => if mark.isEmpty then some [] else none
  | c :: rest =>
    if mark.isPrefixOf (c :: rest) then some mark else (c :: ·) <$> throughMark? mark rest

/-- A text from the first at sign on. -/
def fromAtSign (s : List Char) : List Char := s.dropWhile (· != '@')

/-- What stands in place of user and password. -/
def mask : String := "***:***"

/-- An address without the user and the password in it. -/
def masked (url : String) : String :=
  match throughMark? "://".toList url.toList, fromAtSign url.toList with
  | some scheme, c :: rest => String.ofList scheme ++ mask ++ String.ofList (c :: rest)
  | _, _ => url

end PlayerAccounts.Settings
