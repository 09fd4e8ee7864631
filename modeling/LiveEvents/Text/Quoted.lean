import LiveEvents.Text.Visible

/-!
# Quoted text

Error messages show a text between double quotes. Visible characters stand for themselves,
quotes and backslashes are escaped, five controls have a short form and every other
character is written as its hexadecimal code point.
-/

namespace LiveEvents.Text

def escaped (c : Char) : List Char :=
  match c with
  | '"' => ['\\', '"']
  | '\\' => ['\\', '\\']
  | '\n' => ['\\', 'n']
  | '\r' => ['\\', 'r']
  | '\t' => ['\\', 't']
  | '\x00' => ['\\', '0']
  | c =>
    if isVisible c then [c]
    else ['\\', 'u', '\x7b'] ++ Nat.toDigits 16 c.toNat ++ ['\x7d']

def quoted (s : String) : String :=
  String.ofList ('"' :: (s.toList.flatMap escaped ++ ['"']))

end LiveEvents.Text
