import DaemonLaunch.Text.Hidden

/-!
Text between double quotes, as it stands in messages: a quote and a backslash are escaped, the
common controls have a letter of their own, and every other hidden character is written by its
number in hexadecimal.
-/

namespace DaemonLaunch.Text

/-- How one character stands inside quotes. -/
def quoteChar (c : Char) : List Char :=
  match c with
  | '"' => ['\\', '"']
  | '\\' => ['\\', '\\']
  | '\n' => ['\\', 'n']
  | '\r' => ['\\', 'r']
  | '\t' => ['\\', 't']
  | '\x00' => ['\\', '0']
  | c =>
    if isHidden c then ['\\', 'u', '{'] ++ Nat.toDigits 16 c.toNat ++ ['}']
    else [c]

/-- The text between double quotes. -/
def quote (text : String) : String :=
  String.ofList ('"' :: text.toList.flatMap quoteChar ++ ['"'])

end DaemonLaunch.Text
