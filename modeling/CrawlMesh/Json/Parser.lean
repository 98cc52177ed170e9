/-
# Reading JSON

`Json.parse?` reads a whole text as one value. Arrays and objects nest at most `maxNesting`
deep. Objects keep their fields as written, repeated names included, so that a reader of
structured values can refuse them.

A number without point and exponent that fits in sixty-four bits is an integer. Any other
number is its leading digits, as many as fit in sixty-four bits, scaled by one exact-as-possible
power of ten; one that is too large is refused.
-/
import CrawlMesh.Json.Basic
import CrawlMesh.Number.Decimal

namespace CrawlMesh.Json

set_option autoImplicit false

/-- The deepest nesting of arrays and objects that is read. -/
def maxNesting : Nat := 127

/-- What is left of a text after the blanks in front. -/
def skipBlanks (cs : List Char) : List Char :=
  cs.dropWhile fun c => c == ' ' || c == '\n' || c == '\t' || c == '\r'

/-- The value of a hexadecimal digit. -/
def hexDigit? (c : Char) : Option Nat :=
  if '0' ≤ c && c ≤ '9' then some (c.toNat - '0'.toNat)
  else if 'a' ≤ c && c ≤ 'f' then some (c.toNat - 'a'.toNat + 10)
  else if 'A' ≤ c && c ≤ 'F' then some (c.toNat - 'A'.toNat + 10)
  else none

/-- Four hexadecimal digits. -/
def readHex4 : List Char → Option (Nat × List Char)
  | a :: b :: c :: d :: rest => do
    let a ← hexDigit? a
    let b ← hexDigit? b
    let c ← hexDigit? c
    let d ← hexDigit? d
    some (((a * 16 + b) * 16 + c) * 16 + d, rest)
  | _ => none

/-- A character written by its number after `\u`; two escapes make one character outside the
basic plane, and half of such a pair is refused. -/
def readUnicodeEscape (cs : List Char) : Option (Char × List Char) := do
  let (n, rest) ← readHex4 cs
  if 0xDC00 ≤ n && n ≤ 0xDFFF then none
  else if 0xD800 ≤ n && n ≤ 0xDBFF then
    match rest with
    | '\\' :: 'u' :: rest => do
      let (low, rest) ← readHex4 rest
      if 0xDC00 ≤ low && low ≤ 0xDFFF then
        some (Char.ofNat (0x10000 + (n - 0xD800) * 0x400 + (low - 0xDC00)), rest)
      else none
    | _ => none
  else some (Char.ofNat n, rest)

/-- The characters of a text up to its closing quotation mark. -/
def readText : Nat → String → List Char → Option (String × List Char)
  | 0, _, _ => none
  | fuel + 1, acc, cs =>
    match cs with
    | [] => none
    | '"' :: rest => some (acc, rest)
    | '\\' :: rest =>
      match rest with
      | '"' :: rest => readText fuel (acc.push '"') rest
      | '\\' :: rest => readText fuel (acc.push '\\') rest
      | '/' :: rest => readText fuel (acc.push '/') rest
      | 'b' :: rest => readText fuel (acc.push '\x08') rest
      | 'f' :: rest => readText fuel (acc.push '\x0c') rest
      | 'n' :: rest => readText fuel (acc.push '\n') rest
      | 'r' :: rest => readText fuel (acc.push '\r') rest
      | 't' :: rest => readText fuel (acc.push '\t') rest
      | 'u' :: rest => do
        let (c, rest) ← readUnicodeEscape rest
        readText fuel (acc.push c) rest
      | _ => none
    | c :: rest => if c.toNat < 0x20 then none else readText fuel (acc.push c) rest

/-- The bound of the unsigned sixty-four-bit integers. -/
def natBound : Nat := UInt64.size

/-- `significand * 10 ^ exponent` in floating point: at most one multiplication or a few
divisions by powers of ten. Nothing if the result has no finite value. -/
def scale? (significand : Nat) (exponent : Int) : Option Float :=
  go 8 (UInt64.ofNat significand).toFloat exponent
where
  /-- Powers of ten beyond 308 are taken in steps of 308. -/
  go : Nat → Float → Int → Option Float
    | 0, x, _ => some x
    | fuel + 1, x, e =>
      if e.natAbs ≤ 308 then
        let power := Float.ofScientific 1 false e.natAbs
        if 0 ≤ e then
          let y := x * power
          if y.isInf then none else some y
        else some (x / power)
      else if x == 0.0 then some x
      else if 0 ≤ e then none
      else go fuel (x / Float.ofScientific 1 false 308) (e + 308)

/-- The digits in front of a text, taken into `acc` while they fit; the count of digits taken,
whether a digit did not fit, and what follows the last digit taken. -/
def takeDigits (acc : Nat) (taken : Nat) : List Char → Nat × Nat × Bool × List Char
  | [] => (acc, taken, false, [])
  | c :: rest =>
    match Decimal.digit? c with
    | none => (acc, taken, false, c :: rest)
    | some d =>
      if acc * 10 + d < natBound then takeDigits (acc * 10 + d) (taken + 1) rest
      else (acc, taken, true, c :: rest)

/-- Exponents from here on are beyond every scale. -/
def exponentBound : Nat := 0x80000000

/-- The exponent part of a number, if there is one, and the number it makes. -/
def readExponent (negative : Bool) (significand : Nat) (exponent : Int) (cs : List Char) :
    Option (JsonNumber × List Char) :=
  let signed (x : Float) : JsonNumber := .real (if negative then -x else x)
  match cs with
  | c :: rest =>
    if c == 'e' || c == 'E' then
      let (negativePower, rest) : Bool × List Char := match rest with
        | '+' :: rest => (false, rest)
        | '-' :: rest => (true, rest)
        | rest => (false, rest)
      let digits := rest.takeWhile Char.isDigit
      let rest := rest.dropWhile Char.isDigit
      if digits.isEmpty then none
      else
        let power := digits.foldl (fun n d => n * 10 + (d.toNat - '0'.toNat)) 0
        if power < exponentBound then do
          let x ← scale? significand (if negativePower then exponent - power else exponent + power)
          some (signed x, rest)
        else if significand != 0 && !negativePower then none
        else some (signed 0.0, rest)
    else do
      let x ← scale? significand exponent
      some (signed x, cs)
  | [] => do
    let x ← scale? significand exponent
    some (signed x, [])

/-- The part of a number behind its point. -/
def readFraction (negative : Bool) (significand : Nat) (exponent : Int) (cs : List Char) :
    Option (JsonNumber × List Char) :=
  let (value, taken, full, rest) := takeDigits significand 0 cs
  if full then
    readExponent negative value (exponent - taken) (rest.dropWhile Char.isDigit)
  else if taken == 0 then none
  else readExponent negative value (exponent - taken) rest

/-- A number without its sign. -/
def readUnsigned (negative : Bool) (cs : List Char) : Option (JsonNumber × List Char) :=
  match cs with
  | [] => none
  | '0' :: c :: _ =>
    if c.isDigit then none else number 0 0 false (cs.drop 1)
  | c :: _ =>
    if c.isDigit then
      let (value, _, full, rest) := takeDigits 0 0 cs
      let extra := if full then (rest.takeWhile Char.isDigit).length else 0
      number value extra full (if full then rest.dropWhile Char.isDigit else rest)
    else none
where
  /-- What the digits in front of the point make together with what follows them. -/
  number (value extra : Nat) (full : Bool) (rest : List Char) :
      Option (JsonNumber × List Char) :=
    match rest with
    | '.' :: rest => readFraction negative value extra rest
    | c :: _ =>
      if c == 'e' || c == 'E' then readExponent negative value extra rest
      else integer value extra full rest
    | [] => integer value extra full rest
  /-- A number without point and exponent. -/
  integer (value extra : Nat) (full : Bool) (rest : List Char) :
      Option (JsonNumber × List Char) :=
    if full then readExponent negative value extra rest
    else if !negative then some (.int value, rest)
    else if value == 0 || value > 0x8000000000000000 then
      some (.real (-(UInt64.ofNat value).toFloat), rest)
    else some (.int (-value), rest)

mutual

/-- One value; `depth` more levels of nesting are allowed. -/
def readValue : Nat → Nat → List Char → Option (Json × List Char)
  | 0, _, _ => none
  | fuel + 1, depth, cs =>
    match skipBlanks cs with
    | 'n' :: 'u' :: 'l' :: 'l' :: rest => some (.null, rest)
    | 't' :: 'r' :: 'u' :: 'e' :: rest => some (.bool true, rest)
    | 'f' :: 'a' :: 'l' :: 's' :: 'e' :: rest => some (.bool false, rest)
    | '"' :: rest => do
      let (s, rest) ← readText (rest.length + 1) "" rest
      some (.text s, rest)
    | '[' :: rest =>
      match depth with
      | 0 => none
      | depth + 1 =>
        match skipBlanks rest with
        | ']' :: rest => some (.list [], rest)
        | rest => do
          let (items, rest) ← readItems fuel depth [] rest
          some (.list items, rest)
    | '\x7b' :: rest =>
      match depth with
      | 0 => none
      | depth + 1 =>
        match skipBlanks rest with
        | '\x7d' :: rest => some (.object [], rest)
        | rest => do
          let (fields, rest) ← readFields fuel depth [] rest
          some (.object fields, rest)
    | '-' :: rest => do
      let (n, rest) ← readUnsigned true rest
      some (.number n, rest)
    | rest => do
      let (n, rest) ← readUnsigned false rest
      some (.number n, rest)

/-- The items of an array up to its end; `done` holds the earlier ones, last first. -/
def readItems : Nat → Nat → List Json → List Char → Option (List Json × List Char)
  | 0, _, _, _ => none
  | fuel + 1, depth, done, cs => do
    let (j, rest) ← readValue fuel depth cs
    match skipBlanks rest with
    | ',' :: rest => readItems fuel depth (j :: done) rest
    | ']' :: rest => some ((j :: done).reverse, rest)
    | _ => none

/-- The fields of an object up to its end; `done` holds the earlier ones, last first. -/
def readFields : Nat → Nat → List (String × Json) → List Char →
    Option (List (String × Json) × List Char)
  | 0, _, _, _ => none
  | fuel + 1, depth, done, cs =>
    match skipBlanks cs with
    | '"' :: rest => do
      let (key, rest) ← readText (rest.length + 1) "" rest
      match skipBlanks rest with
      | ':' :: rest => do
        let (j, rest) ← readValue fuel depth rest
        match skipBlanks rest with
        | ',' :: rest => readFields fuel depth ((key, j) :: done) rest
        | '\x7d' :: rest => some (((key, j) :: done).reverse, rest)
        | _ => none
      | _ => none
    | _ => none

end

/-- A whole text as one value. -/
def parse? (s : String) : Option Json := do
  let cs := s.toList
  let (j, rest) ← readValue (cs.length + 1) maxNesting cs
  if (skipBlanks rest).isEmpty then some j else none

end CrawlMesh.Json
