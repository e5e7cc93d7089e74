import TenantWork.Text.Visible
/-!
Quoted text for messages: double quotes around it, a backslash before a quote or a backslash,
short escapes for the four usual controls, and the code point in braces for every character
without a visible form of its own.
-/
namespace TenantWork.Text

/-- The code point in lower case hexadecimal digits. -/
def hexDigits (n : Nat) : List Char := Nat.toDigits 16 n

def quoteChar (c : Char) : List Char :=
  if c = '"' then ['\\', '"']
  else if c = '\\' then ['\\', '\\']
  else if c = '\n' then ['\\', 'n']
  else if c = '\r' then ['\\', 'r']
  else if c = '\t' then ['\\', 't']
  else if c.toNat = 0 then ['\\', '0']
  else if isVisible c then [c]
  else ['\\', 'u', '\x7b'] ++ hexDigits c.toNat ++ ['\x7d']

def quote (text : String) : String :=
  String.ofList ('"' :: text.toList.flatMap quoteChar ++ ['"'])

end TenantWork.Text
