/-
# Writing JSON

The compact text of a value: no blanks, fields in the order in which the object lists them.
Control characters are written as escapes, the short one where there is one; all other
characters stand for themselves. A floating-point number is written with the fewest digits
that read back, positionally while its decimal point lies among or close to its digits and
always with a digit behind the point, and otherwise with a signed exponent.
-/
import CrawlMesh.Json.Basic
import CrawlMesh.Number.Shortest

namespace CrawlMesh

set_option autoImplicit false

namespace JsonNumber

/-- The largest power of ten whose number is still written positionally, counted as digits in
front of the point. -/
def maxWholeDigits : Int := 16

/-- How many zeros between the point and the first digit are too many. -/
def maxLeadingZeros : Int := 5

/-- Digits and a decimal exponent as a number text. -/
def layout (digits : String) (exponent : Int) : String :=
  let zeros (n : Int) : String := String.ofList (List.replicate n.toNat '0')
  let whole := (digits.length : Int) + exponent
  if 0 ≤ exponent && whole ≤ maxWholeDigits then digits ++ zeros exponent ++ ".0"
  else if 0 < whole && whole ≤ maxWholeDigits then
    String.ofList (digits.toList.take whole.toNat) ++ "." ++
      String.ofList (digits.toList.drop whole.toNat)
  else if -maxLeadingZeros < whole && whole ≤ 0 then "0." ++ zeros (-whole) ++ digits
  else
    let power := whole - 1
    let sign := if power < 0 then "-" else "+"
    let mantissa := match digits.toList with
      | [] => ""
      | [d] => String.ofList [d]
      | d :: rest => String.ofList (d :: '.' :: rest)
    mantissa ++ "e" ++ sign ++ toString power.natAbs

/-- The text of a floating-point number. -/
def realText (x : Float) : String :=
  let bits := x.toBits
  let sign := if bits >>> 63 == 1 then "-" else ""
  let magnitude := bits &&& 0x7FFFFFFFFFFFFFFF
  if magnitude == 0 then sign ++ "0.0"
  else
    let (m, q) := Shortest.unpack magnitude
    let (n, e) := Shortest.decimal m q
    sign ++ layout (toString n) e

def render : JsonNumber → String
  | .int n => toString n
  | .real x => realText x

end JsonNumber

namespace Json

/-- Four hexadecimal digits. -/
def hex4 (n : Nat) : String :=
  let digits := Nat.toDigits 16 n
  String.ofList (List.replicate (4 - digits.length) '0' ++ digits)

/-- A text followed by one character of a JSON text, escaped if it has to be. -/
def pushEscaped (acc : String) (c : Char) : String :=
  match c with
  | '"' => acc ++ "\\\""
  | '\\' => acc ++ "\\\\"
  | '\n' => acc ++ "\\n"
  | '\r' => acc ++ "\\r"
  | '\t' => acc ++ "\\t"
  | '\x08' => acc ++ "\\b"
  | '\x0c' => acc ++ "\\f"
  | c => if c.toNat < 0x20 then acc ++ "\\u" ++ hex4 c.toNat else acc.push c

/-- A text in quotation marks, after `acc`. -/
def pushText (acc : String) (s : String) : String :=
  (s.foldl pushEscaped (acc.push '"')).push '"'

mutual

/-- Write a value after `acc`. -/
def write (acc : String) : Json → String
  | .null => acc ++ "null"
  | .bool true => acc ++ "true"
  | .bool false => acc ++ "false"
  | .number n => acc ++ n.render
  | .text s => pushText acc s
  | .list items => (pushItems (acc.push '[') true items).push ']'
  | .object fields => (pushFields (acc.push '\x7b') true fields).push '\x7d'

def pushItems (acc : String) (first : Bool) : List Json → String
  | [] => acc
  | j :: rest => pushItems (write (if first then acc else acc.push ',') j) false rest

def pushFields (acc : String) (first : Bool) : List (String × Json) → String
  | [] => acc
  | (k, v) :: rest =>
    pushFields (write ((pushText (if first then acc else acc.push ',') k).push ':') v) false rest

end

/-- The compact text of a value. -/
def render (j : Json) : String := write "" j

/-- Values in ascending order of their texts, objects being sorted for it. -/
def sortByText (l : List Json) : List Json :=
  l.mergeSort fun a b => a.sorted.render ≤ b.sorted.render

end Json

end CrawlMesh
