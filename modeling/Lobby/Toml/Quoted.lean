import Lobby.Text.Hex

/-!
# Writing TOML texts

A text is written as it stands if it can be, and in the first of these ways that fits: between
quotes, between apostrophes, between triple quotes, between triple apostrophes.  Otherwise it is
written between quotes with escapes.  After an opening triple mark, a text with line feeds begins
on a line of its own.
-/

namespace Lobby.Toml

/-- The greatest number of times a character occurs in a row. -/
def longestRun (mark : Char) (cs : List Char) : Nat := (cs.foldl step (0, 0)).2
where
  step : Nat × Nat → Char → Nat × Nat
    | (run, longest), c => if c = mark then (run + 1, max longest (run + 1)) else (0, longest)

/-- Can a character only be written as an escape? -/
def needsEscape (c : Char) : Bool := (c < ' ' && c ≠ '\t' && c ≠ '\n') || c = '\x7f'

/-- The marks around a text: quotes or apostrophes, single or triple. -/
structure Marks where
  mark : Char
  long : Bool
  deriving DecidableEq, Repr

def Marks.chars (m : Marks) : List Char := List.replicate (if m.long then 3 else 1) m.mark

/-- The marks that a text is written between. -/
def marksOf (cs : List Char) : Marks :=
  let lines := cs.contains '\n'
  if cs.any needsEscape then ⟨'"', lines⟩
  else if !lines && !cs.contains '\\' && !cs.contains '"' then ⟨'"', false⟩
  else if !lines && !cs.contains '\'' then ⟨'\'', false⟩
  else if !cs.contains '\\' && longestRun '"' cs < 3 then ⟨'"', true⟩
  else if longestRun '\'' cs < 3 then ⟨'\'', true⟩
  else ⟨'"', lines⟩

/-- A character other than a quote, as it is written between quotes. -/
def escape (long : Bool) (c : Char) : List Char :=
  if c = '\x08' then ['\\', 'b']
  else if c = '\t' then ['\\', 't']
  else if c = '\n' then if long then ['\n'] else ['\\', 'n']
  else if c = '\x0c' then ['\\', 'f']
  else if c = '\r' then ['\\', 'r']
  else if c = '\\' then ['\\', '\\']
  else if needsEscape c then '\\' :: 'u' :: (Hex.ofNat 4 c.toNat).toUpper.toList
  else [c]

/-- A text as it is written between quotes.  Between triple ones, only the third quote in a row
needs an escape; `run` counts those that came without one. -/
def escapeAll (long : Bool) : (run : Nat) → List Char → List Char
  | _, [] => []
  | run, c :: cs =>
    if c = '"' then
      if long && run < 2 then '"' :: escapeAll long (run + 1) cs
      else '\\' :: '"' :: escapeAll long 0 cs
    else escape long c ++ escapeAll long 0 cs

/-- A text as it is written in a document. -/
def quote (s : String) : String :=
  let cs := s.toList
  let marks := marksOf cs
  let body := if marks.mark = '"' then escapeAll marks.long 0 cs else cs
  let start := if marks.long && cs.contains '\n' then ['\n'] else []
  String.ofList (marks.chars ++ start ++ body ++ marks.chars)

end Lobby.Toml
