import PlayerAccounts.Text.Formless
/-!
# Quoted text

How diagnostics show a text: between double quotes, with a backslash before quotes and backslashes,
short escapes for the common controls, and the code point of every character without a form of its
own.
-/
namespace PlayerAccounts.Text
set_option autoImplicit false

/-- A digit of a hexadecimal number, in lower case. -/
def hexDigit (n : Nat) : Char :=
  if n < 10 then Char.ofNat (48 + n) else Char.ofNat (87 + n)

def hexDigits (n : Nat) : List Char := Nat.toDigits 16 n

def quoteChar (c : Char) : List Char :=
  if c == '\x00' then ['\\', '0']
  else if c == '\t' then ['\\', 't']
  else if c == '\n' then ['\\', 'n']
  else if c == '\r' then ['\\', 'r']
  else if c == '"' || c == '\\' then ['\\', c]
  else if c.toNat < 0x20 || isFormless c then
    '\\' :: 'u' :: '\x7b' :: hexDigits c.toNat ++ ['\x7d']
  else [c]

/-- A text as diagnostics show it. -/
def quote (s : String) : String := String.ofList ('"' :: s.toList.flatMap quoteChar ++ ['"'])

end PlayerAccounts.Text
