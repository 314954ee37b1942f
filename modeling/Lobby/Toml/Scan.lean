/-!
# Scanning

A scanner takes characters off the front of a text, or fails.
-/

namespace Lobby.Toml

abbrev Scan (α : Type) := StateT (List Char) Option α

namespace Scan

/-- Takes this character. -/
def char (c : Char) : Scan Unit
  | d :: rest => if c = d then some ((), rest) else none
  | [] => none

/-- Takes one character of a class. -/
def satisfy (test : Char → Bool) : Scan Char
  | c :: rest => if test c then some (c, rest) else none
  | [] => none

/-- Takes these characters. -/
def text (cs : List Char) : Scan Unit := cs.forM char

/-- Takes the characters of a class as far as they go. -/
def span (test : Char → Bool) : Scan (List Char) := fun cs =>
  some (cs.takeWhile test, cs.dropWhile test)

/-- Takes as many characters of a class as are wanted. -/
def exactly (test : Char → Bool) : (count : Nat) → Scan (List Char)
  | 0 => pure []
  | count + 1 => do return (← satisfy test) :: (← exactly test count)

/-- Does the text go on with one of these characters? -/
def startsWith (test : Char → Bool) : Scan Bool := fun cs =>
  some (match cs with
    | c :: _ => test c
    | [] => false, cs)

/-- Tries a scanner, and takes nothing if it fails. -/
def optional {α : Type} (scan : Scan α) : Scan (Option α) := fun cs =>
  match scan cs with
  | some (a, rest) => some (some a, rest)
  | none => some (none, cs)

/-- What a scanner takes, as text. -/
def taken {α : Type} (scan : Scan α) : Scan String := fun cs =>
  (scan cs).map fun (_, rest) => (String.ofList (cs.take (cs.length - rest.length)), rest)

end Scan

/-! ## Blanks, comments and the ends of lines -/

def isBlank (c : Char) : Bool := c = ' ' || c = '\t'

/-- The characters of comments and of texts between apostrophes: no control but the tab. -/
def isPrintable (c : Char) : Bool := c = '\t' || (' ' ≤ c && c ≤ '~') || '\x80' ≤ c

namespace Scan

def blanks : Scan Unit := do
  let _ ← span isBlank

def newline : Scan Unit
  | '\n' :: rest => some ((), rest)
  | '\r' :: '\n' :: rest => some ((), rest)
  | _ => none

/-- Takes blanks and a comment, up to and with the end of the line. -/
def lineEnd : Scan Unit := do
  blanks
  if ← startsWith (· = '#') then
    let _ ← span isPrintable
  fun
    | [] => some ((), [])
    | rest => newline rest

/-- Takes blanks, ends of lines and comments as far as they go. -/
def space : Scan Unit := fun cs => (go false cs).map fun rest => ((), rest)
where
  go : (comment : Bool) → List Char → Option (List Char)
    | _, [] => some []
    | _, '\n' :: rest => go false rest
    | _, '\r' :: '\n' :: rest => go false rest
    | true, c :: rest => if isPrintable c then go true rest else none
    | false, c :: rest =>
      if c = '#' then go true rest else if isBlank c then go false rest else some (c :: rest)

end Scan

end Lobby.Toml
