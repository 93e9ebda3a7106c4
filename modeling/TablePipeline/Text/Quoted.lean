import TablePipeline.Text.Printable

/-!
# Quoted texts in messages

Error messages show names and texts between quotes, so that blanks and invisible characters can be
told apart.  Backslash, the quote itself, line feed, carriage return, tab and NUL have short
escapes; a character that cannot be shown is written `\u{hex}` with its code point.

## Main definitions

* `quoted` — a text between double quotes
* `quotedChar` — a character between single quotes
-/

namespace TablePipeline

/-- The hexadecimal digits of a number, small letters, no padding. -/
def hexDigits (n : Nat) : List Char :=
  Nat.toDigits 16 n

/-- A character as it stands between two `mark`s. -/
def escapeShown (mark c : Char) : List Char :=
  if c = mark then ['\\', c]
  else match c with
    | '\\' => ['\\', '\\']
    | '\n' => ['\\', 'n']
    | '\r' => ['\\', 'r']
    | '\t' => ['\\', 't']
    | '\x00' => ['\\', '0']
    | _ =>
      if isPrintable c then [c]
      else ['\\', 'u', '\x7b'] ++ hexDigits c.toNat ++ ['\x7d']

/-- The text between double quotes. -/
def quoted (s : String) : String :=
  String.ofList ('"' :: s.toList.flatMap (escapeShown '"') ++ ['"'])

/-- The character between single quotes. -/
def quotedChar (c : Char) : String :=
  String.ofList ('\'' :: escapeShown '\'' c ++ ['\''])

end TablePipeline
