import Lobby.Toml.Item
import Lobby.Toml.Scan

/-!
# TOML scalars

Texts, numbers, truth values and moments in time.

Texts stand between quotes, with escapes, or between apostrophes, without.  Between triple marks
they may have several lines; an end of line right after the opening mark does not count, and every
end of line is a line feed.
-/

namespace Lobby.Toml

/-! ## Digits -/

def digitValue (c : Char) : Nat :=
  if c.isDigit then c.toNat - '0'.toNat else c.toLower.toNat - 'a'.toNat + 10

/-- The digits of a base of at most sixteen. -/
def isDigitOf (base : Nat) (c : Char) : Bool :=
  c.isDigit && digitValue c < base || base = 16 && 'a' ≤ c.toLower && c.toLower ≤ 'f'

/-- The number that digits spell.  Underscores do not count. -/
def numeral (base : Nat) (cs : List Char) : Nat :=
  cs.foldl (fun n c => if c = '_' then n else n * base + digitValue c) 0

/-! ## Texts -/

/-- The character an escape stands for. -/
def escaped? : Char → Option Char
  | 'b' => some '\x08'
  | 't' => some '\t'
  | 'n' => some '\n'
  | 'f' => some '\x0c'
  | 'r' => some '\r'
  | '"' => some '"'
  | '\\' => some '\\'
  | _ => none

/-- The character with a code point in hexadecimal digits. -/
def codePoint? (cs : List Char) : Option Char :=
  let n := numeral 16 cs
  if cs.all (isDigitOf 16) ∧ n.isValidChar then some (Char.ofNat n) else none

namespace Scan

/-- The rest of a text between quotes, after what has been read, in reverse. -/
def quotedRest (done : List Char) : Scan String
  | '"' :: rest => some (String.ofList done.reverse, rest)
  | '\\' :: 'u' :: a :: b :: c :: d :: rest =>
    match codePoint? [a, b, c, d] with
    | some x => quotedRest (x :: done) rest
    | none => none
  | '\\' :: 'U' :: a :: b :: c :: d :: e :: f :: g :: h :: rest =>
    match codePoint? [a, b, c, d, e, f, g, h] with
    | some x => quotedRest (x :: done) rest
    | none => none
  | '\\' :: c :: rest =>
    match escaped? c with
    | some x => quotedRest (x :: done) rest
    | none => none
  | c :: rest => if isPrintable c then quotedRest (c :: done) rest else none
  | [] => none

/-- Where the reader of a text with several lines stands. -/
inductive Place where
  | inText
  /-- After a backslash at the end of a line. -/
  | beforeLineEnd
  /-- In the blanks and ends of lines that such a backslash swallows. -/
  | swallowing

/-- The rest of a text between triple quotes. -/
def longQuotedRest (done : List Char) : Place → Scan String
  | .beforeLineEnd, '\n' :: rest => longQuotedRest done .swallowing rest
  | .beforeLineEnd, '\r' :: '\n' :: rest => longQuotedRest done .swallowing rest
  | .beforeLineEnd, c :: rest => if isBlank c then longQuotedRest done .beforeLineEnd rest else none
  | _, '"' :: '"' :: '"' :: '"' :: '"' :: rest =>
    some (String.ofList ('"' :: '"' :: done).reverse, rest)
  | _, '"' :: '"' :: '"' :: '"' :: rest => some (String.ofList ('"' :: done).reverse, rest)
  | _, '"' :: '"' :: '"' :: rest => some (String.ofList done.reverse, rest)
  | .swallowing, '\n' :: rest => longQuotedRest done .swallowing rest
  | .swallowing, '\r' :: '\n' :: rest => longQuotedRest done .swallowing rest
  | .inText, '\n' :: rest => longQuotedRest ('\n' :: done) .inText rest
  | .inText, '\r' :: '\n' :: rest => longQuotedRest ('\n' :: done) .inText rest
  | _, '\\' :: 'u' :: a :: b :: c :: d :: rest =>
    match codePoint? [a, b, c, d] with
    | some x => longQuotedRest (x :: done) .inText rest
    | none => none
  | _, '\\' :: 'U' :: a :: b :: c :: d :: e :: f :: g :: h :: rest =>
    match codePoint? [a, b, c, d, e, f, g, h] with
    | some x => longQuotedRest (x :: done) .inText rest
    | none => none
  | _, '\\' :: c :: rest =>
    match escaped? c with
    | some x => longQuotedRest (x :: done) .inText rest
    | none =>
      if isBlank c then longQuotedRest done .beforeLineEnd rest
      else if c = '\n' then longQuotedRest done .swallowing rest
      else
        match c, rest with
        | '\r', '\n' :: rest => longQuotedRest done .swallowing rest
        | _, _ => none
  | .swallowing, c :: rest =>
    if isBlank c then longQuotedRest done .swallowing rest
    else if isPrintable c then longQuotedRest (c :: done) .inText rest
    else none
  | .inText, c :: rest => if isPrintable c then longQuotedRest (c :: done) .inText rest else none
  | _, [] => none

/-- The rest of a text between triple apostrophes. -/
def longPlainRest (done : List Char) : Scan String
  | '\'' :: '\'' :: '\'' :: '\'' :: '\'' :: rest =>
    some (String.ofList ('\'' :: '\'' :: done).reverse, rest)
  | '\'' :: '\'' :: '\'' :: '\'' :: rest => some (String.ofList ('\'' :: done).reverse, rest)
  | '\'' :: '\'' :: '\'' :: rest => some (String.ofList done.reverse, rest)
  | '\n' :: rest => longPlainRest ('\n' :: done) rest
  | '\r' :: '\n' :: rest => longPlainRest ('\n' :: done) rest
  | c :: rest => if isPrintable c then longPlainRest (c :: done) rest else none
  | [] => none

/-- A text between quotes, on one line. -/
def quoted : Scan String := do
  char '"'
  quotedRest []

/-- A text between apostrophes, on one line. -/
def plain : Scan String := do
  char '\''
  let cs ← span fun c => isPrintable c && c ≠ '\''
  char '\''
  return String.ofList cs

/-- A text of any form. -/
def anyText : Scan String
  | '"' :: '"' :: '"' :: rest => (do let _ ← optional newline; longQuotedRest [] .inText) rest
  | '\'' :: '\'' :: '\'' :: rest => (do let _ ← optional newline; longPlainRest []) rest
  | '"' :: rest => quotedRest [] rest
  | rest => plain rest

/-! ## Numbers -/

/-- Digits with single underscores between them. -/
def digits (base : Nat) : Scan (List Char) := do
  let cs ← span fun c => isDigitOf base c || c = '_'
  if wellPlaced true cs then return cs else failure
where
  /-- Is there a digit on both sides of every underscore?  The flag says that a digit is due. -/
  wellPlaced : Bool → List Char → Bool
    | due, [] => !due
    | due, c :: rest => if c = '_' then !due && wellPlaced true rest else wellPlaced false rest

/-- A decimal number without a zero in front of other digits. -/
def decimal : Scan (List Char) := do
  let cs ← digits 10
  match cs with
  | '0' :: _ :: _ => failure
  | _ => return cs

/-- The sign of a number, which may be missing. -/
def sign : Scan Bool := fun
  | '-' :: rest => some (true, rest)
  | '+' :: rest => some (false, rest)
  | rest => some (false, rest)

/-- The number with a sign, if 64 bits hold it. -/
def bounded (negative : Bool) (n : Nat) : Scan Int64 :=
  if n < 0x8000000000000000 ∨ (negative ∧ n = 0x8000000000000000) then
    return Int64.ofInt (if negative then -n else n)
  else failure

def integer : Scan Int64 := fun
  | '0' :: 'x' :: rest => based 16 rest
  | '0' :: 'o' :: rest => based 8 rest
  | '0' :: 'b' :: rest => based 2 rest
  | rest => (do bounded (← sign) (numeral 10 (← decimal))) rest
where
  based (base : Nat) : Scan Int64 := do bounded false (numeral base (← digits base))

/-- Would the number with these decimal digits and this exponent round to infinity?  The greatest
float has 309 digits in front of the point, and what lies half a step above it is rounded up. -/
def overflows (digits : List Char) (exponent : Int) : Bool :=
  let digits := (digits.filter (· ≠ '_')).dropWhile (· = '0')
  let size := (digits.length : Int) + exponent
  let n := numeral 10 digits
  if digits.isEmpty ∨ size < 309 then false
  else if 309 < size then true
  else decide ((Nat.pow 2 1024 - Nat.pow 2 970) * Nat.pow 10 (-exponent).toNat ≤
    n * Nat.pow 10 exponent.toNat)

/-- The size of an exponent.  It counts no digits after one that takes it past 65535. -/
def exponentSize (cs : List Char) : Nat :=
  cs.foldl (fun n c => if c = '_' ∨ 0x10000 ≤ n then n else n * 10 + digitValue c) 0

/-- A number with a fraction or an exponent.  Positive ones must not round to infinity. -/
def float : Scan Unit := do
  let negative ← sign
  if ← startsWith Char.isDigit then
    let whole ← decimal
    let fraction ← if ← startsWith (· = '.') then (do char '.'; digits 10) else pure []
    let marked ← startsWith fun c => c = 'e' || c = 'E'
    let exponent ← if marked then
      (do
        let _ ← satisfy fun _ => true
        let down ← sign
        let n := exponentSize (← digits 10)
        pure (if down then -(n : Int) else n))
      else pure 0
    if fraction.isEmpty ∧ !marked then failure
    let places := (fraction.filter (· ≠ '_')).length
    if !negative ∧ overflows (whole ++ fraction) (exponent - places) then failure
  else
    (do text ['i', 'n', 'f']) <|> (do text ['n', 'a', 'n'])

/-! ## Moments -/

/-- A number of exactly so many digits, between bounds. -/
def field (count low high : Nat) : Scan Nat := do
  let n := numeral 10 (← exactly Char.isDigit count)
  if low ≤ n ∧ n ≤ high then return n else failure

def daysIn (year month : Nat) : Nat :=
  if month = 2 then
    if year % 4 = 0 ∧ (year % 100 ≠ 0 ∨ year % 400 = 0) then 29 else 28
  else if month = 4 ∨ month = 6 ∨ month = 9 ∨ month = 11 then 30
  else 31

def date : Scan Unit := do
  let year ← field 4 0 9999
  char '-'
  let month ← field 2 1 12
  char '-'
  let _ ← field 2 1 (daysIn year month)

/-- A time of day.  A minute may have a leap second. -/
def time : Scan Unit := do
  let _ ← field 2 0 23
  char ':'
  let _ ← field 2 0 59
  char ':'
  let _ ← field 2 0 60
  if ← startsWith (· = '.') then
    char '.'
    if (← span Char.isDigit).isEmpty then failure

/-- The distance from universal time. -/
def offset : Scan Unit := do
  let c ← satisfy fun c => c = 'Z' || c = 'z' || c = '+' || c = '-'
  if c = '+' || c = '-' then
    let _ ← field 2 0 23
    char ':'
    let _ ← field 2 0 59

def moment : Scan Unit :=
  (do
    date
    let _ ← optional do
      let _ ← satisfy fun c => c = 'T' || c = 't' || c = ' '
      time
      optional offset) <|> time

/-! ## Any scalar -/

def boolean : Scan Bool :=
  (do text ['t', 'r', 'u', 'e']; return true) <|>
    (do text ['f', 'a', 'l', 's', 'e']; return false)

def scalar : Scan Item := do
  if ← startsWith fun c => c = '"' || c = '\'' then return .string (← anyText)
  else if ← startsWith fun c => c = 't' || c = 'f' then return .boolean (← boolean)
  else
    (do return .moment (← taken moment)) <|> (do return .float (← taken float)) <|>
      (do return .integer (← integer))

end Scan

end Lobby.Toml
