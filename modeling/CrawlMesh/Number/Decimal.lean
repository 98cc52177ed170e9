/-
# Decimal naturals

Reading a number below a bound from its decimal digits, with the ways in which that fails, and
the readings in use: with an optional plus sign, with an optional sign of either kind, and of
digits alone.
-/
namespace CrawlMesh.Decimal

set_option autoImplicit false

/-- Why a text is no number of the wanted size. -/
inductive Fault
  | empty
  | invalidDigit
  | tooLarge
  | tooSmall
deriving DecidableEq, Repr

/-- The wording of a fault. -/
def Fault.message : Fault → String
  | .empty => "cannot parse integer from empty string"
  | .invalidDigit => "invalid digit found in string"
  | .tooLarge => "number too large to fit in target type"
  | .tooSmall => "number too small to fit in target type"

/-- The value of a decimal digit. -/
def digit? (c : Char) : Option Nat :=
  if '0' ≤ c && c ≤ '9' then some (c.toNat - '0'.toNat) else none

/-- The value of a list of digits after the value `acc`, below `bound` all the way. The first
character that is no digit and the first step over the bound both end the reading. -/
def readDigits (bound : Nat) (acc : Nat) : List Char → Except Fault Nat
  | [] => .ok acc
  | c :: rest =>
    match digit? c with
    | none => .error .invalidDigit
    | some d =>
      if acc * 10 + d < bound then readDigits bound (acc * 10 + d) rest
      else .error .tooLarge

/-- A number below `bound` with an optional plus sign. -/
def read (bound : Nat) (s : String) : Except Fault Nat :=
  match s.toList with
  | [] => .error .empty
  | ['+'] => .error .invalidDigit
  | ['-'] => .error .invalidDigit
  | '+' :: rest => readDigits bound 0 rest
  | cs => readDigits bound 0 cs

/-- A number below `bound` and not below its negative, with an optional sign. -/
def readSigned (bound : Nat) (s : String) : Except Fault Int :=
  match s.toList with
  | '-' :: d :: rest =>
    match readDigits (bound + 1) 0 (d :: rest) with
    | .ok n => .ok (-n)
    | .error .tooLarge => .error .tooSmall
    | .error fault => .error fault
  | _ => (read bound s).map Int.ofNat

end CrawlMesh.Decimal
