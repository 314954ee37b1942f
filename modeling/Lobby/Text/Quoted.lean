import Lobby.Text.Glyphless

/-!
# Quoted texts

A text in a message stands between double quotes.  Quotes, backslashes and the common controls are
written with a backslash, and any other character without a glyph by its code point; an apostrophe
stands for itself.
-/

namespace Lobby.Text

/-- The code point of a character between braces, in hexadecimal. -/
def codePoint (c : Char) : List Char :=
  ['\\', 'u', '\x7b'] ++ Nat.toDigits 16 c.toNat ++ ['\x7d']

def escapeChar (c : Char) : List Char :=
  match c with
  | '\x00' => ['\\', '0']
  | '\t' => ['\\', 't']
  | '\r' => ['\\', 'r']
  | '\n' => ['\\', 'n']
  | '"' => ['\\', '"']
  | '\\' => ['\\', '\\']
  | c => if isGlyphless c then codePoint c else [c]

/-- The text between quotes. -/
def quote (s : String) : String :=
  String.ofList ('"' :: s.toList.flatMap escapeChar ++ ['"'])

end Lobby.Text
