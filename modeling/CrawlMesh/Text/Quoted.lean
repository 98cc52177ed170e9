/-
# Quoted texts

A quoted text shows every character of a text unmistakably: a backslash, the quotation mark
around it and the usual control characters have short escapes, characters that do not show
or that would be drawn onto the quotation mark are written by their number, and all others
stand for themselves.
-/
import CrawlMesh.Unicode.Printable

namespace CrawlMesh.Text

set_option autoImplicit false

/-- The digits of a number in base sixteen, small letters. -/
def hexDigits (n : Nat) : List Char := Nat.toDigits 16 n

/-- One character between the quotation marks `mark`. `extends` tells whether a character that
extends the one before it has to be written by its number. -/
def quoteChar (mark : Char) (escapeExtending : Bool) (c : Char) : List Char :=
  match c with
  | '\x00' => ['\\', '0']
  | '\t' => ['\\', 't']
  | '\r' => ['\\', 'r']
  | '\n' => ['\\', 'n']
  | '\\' => ['\\', '\\']
  | _ =>
    if c == mark then ['\\', c]
    else if (escapeExtending && Unicode.isExtending c) || !Unicode.isPrintable c then
      ['\\', 'u', '\x7b'] ++ hexDigits c.toNat ++ ['\x7d']
    else [c]

/-- A text in double quotation marks. -/
def quoted (s : String) : String :=
  String.ofList ('"' :: s.toList.flatMap (quoteChar '"' true) ++ ['"'])

/-- A character in single quotation marks. -/
def quotedChar (c : Char) : String :=
  String.ofList ('\'' :: quoteChar '\'' true c ++ ['\''])

end CrawlMesh.Text
