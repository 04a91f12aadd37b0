import Payout.Text.CodeShown

/-!
# Quoted text

Text written between double quotes the way a debugger shows it: the quote and the backslash
behind a backslash, tab, carriage return, line feed and the null character as `\t`, `\r`,
`\n` and `\0`, and the characters that print nothing visible of their own (those of
`Payout.Text.isCodeShown`) as `\u` with their code in lower-case hexadecimal between braces.
Every other character stands for itself.
-/

namespace Payout

/-- A character as it stands inside quoted text. -/
def quotedChar (c : Char) : String :=
  if c == '"' then "\\\"" else if c == '\\' then "\\\\"
  else if c == '\n' then "\\n" else if c == '\r' then "\\r" else if c == '\t' then "\\t"
  else if c == '\x00' then "\\0"
  else if Text.isCodeShown c then
    "\\u" ++ "\x7b" ++ String.ofList (Nat.toDigits 16 c.toNat) ++ "\x7d"
  else String.singleton c

/-- A text between double quotes, with the escapes above. -/
def debugQuote (s : String) : String :=
  "\"" ++ String.join (s.toList.map quotedChar) ++ "\""

end Payout
