import Lobby.Toml.Scalar
import Lobby.Toml.Table

/-!
# TOML documents

A document is a list of lines: a key with its value, a header in brackets, or nothing but a comment.
Values are scalars, arrays and tables in braces, nested at most `maxNesting` levels deep.
-/

namespace Lobby.Toml

/-- How deep arrays and tables in braces may be nested. -/
def maxNesting : Nat := 79

/-- How many parts a dotted key may have. -/
def maxKeyParts : Nat := 79

namespace Scan

/-! ## Keys -/

def isBareKeyChar (c : Char) : Bool := c.isAlphanum || c = '-' || c = '_'

def simpleKey : Scan String := do
  if ← startsWith (· = '"') then quoted
  else if ← startsWith (· = '\'') then plain
  else
    let cs ← span isBareKeyChar
    if cs.isEmpty then failure
    return String.ofList cs

/-- The parts of a key, with dots between them.  `turns` bounds their number. -/
def keyParts : (turns : Nat) → Scan (List String)
  | 0 => failure
  | turns + 1 => do
    blanks
    let part ← simpleKey
    blanks
    if ← startsWith (· = '.') then
      char '.'
      return part :: (← keyParts turns)
    else return [part]

/-- A key as its path and its last part. -/
def key : Scan (List String × String) := do
  let parts ← keyParts maxKeyParts
  return (parts.dropLast, parts.getLastD "")

/-! ## Values -/

/-- The items of an array after its opening bracket, and the closing one. -/
def itemsOver (value : Scan Item) (done : List Item) : (turns : Nat) → Scan (List Item)
  | 0 => failure
  | turns + 1 => do
    space
    if ← startsWith (· = ']') then
      char ']'
      return done.reverse
    let item ← value
    space
    if ← startsWith (· = ',') then
      char ','
      itemsOver value (item :: done) turns
    else
      char ']'
      return (item :: done).reverse

/-- A key with its value. -/
def lineOver (value : Scan Item) : Scan Table.Line := do
  let (path, key) ← key
  char '='
  blanks
  return ⟨path, key, ← value⟩

/-- The keys of a table in braces, from one key on, and the closing brace. -/
def linesOver (value : Scan Item) (done : List Table.Line) : (turns : Nat) → Scan (List Table.Line)
  | 0 => failure
  | turns + 1 => do
    let line ← lineOver value
    blanks
    if ← startsWith (· = ',') then
      char ','
      linesOver value (line :: done) turns
    else
      char '\x7d'
      return (line :: done).reverse

def bracketed (value : Scan Item) : Scan Item := do
  char '['
  return .array (← itemsOver value [] ((← get).length + 1))

def braced (value : Scan Item) : Scan Item := do
  char '\x7b'
  blanks
  if ← startsWith (· = '\x7d') then
    char '\x7d'
    return .table .inline []
  else
    let lines ← linesOver value [] ((← get).length + 1)
    match Table.ofInline lines with
    | some item => return item
    | none => failure

/-- A value nested at most so many levels deep. -/
def value : (levels : Nat) → Scan Item
  | 0 => scalar
  | levels + 1 => do
    if ← startsWith (· = '[') then bracketed (value levels)
    else if ← startsWith (· = '\x7b') then braced (value levels)
    else scalar

/-! ## Lines -/

def header : Scan Table.Section := do
  char '['
  let several ← startsWith (· = '[')
  if several then char '['
  let (path, key) ← key
  char ']'
  if several then char ']'
  lineEnd
  return ⟨path, key, several, []⟩

def line : Scan Table.Line := do
  let line ← lineOver (value maxNesting)
  lineEnd
  return line

/-- Reads lines up to the end.  `lines` are those below the last header, in reverse, which is the
first of `headers`. -/
def documentLines (lines : List Table.Line) (headers : List (Table.Section × List Table.Line)) :
    (turns : Nat) → Scan (List Table.Line × List (Table.Section × List Table.Line))
  | 0 => failure
  | turns + 1 => do
    blanks
    if (← get).isEmpty then return (lines, headers)
    else if ← startsWith fun c => c = '#' || c = '\n' || c = '\r' then
      lineEnd
      documentLines lines headers turns
    else if ← startsWith (· = '[') then
      let header ← header
      documentLines [] ((header, lines) :: headers) turns
    else
      let line ← line
      documentLines (line :: lines) headers turns

/-- Skips the mark that a text may start with to show its encoding. -/
def byteOrderMark : Scan Unit := do
  let _ ← optional (char '\ufeff')

end Scan

/-- Gives every header the lines that were read before the next one.  Each header comes with the
lines above it, in reverse, and the last header comes first. -/
def sections (lines : List Table.Line) : List (Table.Section × List Table.Line) →
    List Table.Line × List Table.Section
  | [] => (lines.reverse, [])
  | (header, above) :: rest =>
    let (first, before) := sections above rest
    (first, before ++ [{ header with lines := lines.reverse }])

/-- The table of a document, if the text is one. -/
def parse? (text : String) : Option Entries := do
  let cs := text.toList
  let ((lines, headers), _) ←
    (do Scan.byteOrderMark; Scan.documentLines [] [] (cs.length + 1) : Scan _) cs
  let (first, rest) := sections lines headers
  Table.ofDocument first rest

end Lobby.Toml
