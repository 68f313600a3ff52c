import PlsqlAudit.Text.Hidden

/-!
# Quoted text

Messages show a text between double quotes. Quotes and backslashes inside are escaped, as are
characters that would not show: the common controls by a letter, any other by its code point.
-/

namespace PlsqlAudit.Text

/-- The code point of `c` as an escape. -/
def codeEscape (c : Char) : List Char :=
  '\\' :: 'u' :: '\x7b' :: Nat.toDigits 16 c.toNat ++ ['\x7d']

/-- One character as it stands between quotes. -/
def escapeChar (c : Char) : List Char :=
  match c with
  | '\x00' => ['\\', '0']
  | '\t' => ['\\', 't']
  | '\r' => ['\\', 'r']
  | '\n' => ['\\', 'n']
  | '"' => ['\\', '"']
  | '\\' => ['\\', '\\']
  | _ => if isHidden c then codeEscape c else [c]

/-- The text between double quotes. -/
def quote (s : String) : String :=
  String.ofList ('"' :: s.toList.flatMap escapeChar ++ ['"'])

end PlsqlAudit.Text
