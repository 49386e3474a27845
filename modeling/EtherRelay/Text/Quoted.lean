import EtherRelay.Text.Hidden
/-!
# Quoted text

Text between double quotes. Quotes and backslashes get a backslash, the usual controls a letter,
and a character that would not be seen on its own is written as its number in braces.
-/

namespace EtherRelay.Text

/-- The character as quoted text shows it. -/
def quoteChar (c : Char) : List Char :=
  match c with
  | '\x00' => ['\\', '0']
  | '\t' => ['\\', 't']
  | '\r' => ['\\', 'r']
  | '\n' => ['\\', 'n']
  | '"' => ['\\', '"']
  | '\\' => ['\\', '\\']
  | c =>
    if isHidden c then
      ['\\', 'u', '\x7b'] ++ Nat.toDigits 16 c.toNat ++ ['\x7d']
    else [c]

/-- The text between quotes. -/
def quote (text : String) : String :=
  String.ofList ('"' :: (text.toList.flatMap quoteChar ++ ['"']))

end EtherRelay.Text
