/-
# Patterns

A pattern describes texts. `Pattern.matches` tells whether any part of a text is described. It
follows the pattern along the text with the set of all places that have been reached, so that it
needs no look back and comes to an end for every pattern: a repetition is followed only until it
reaches nothing new.
-/
import CrawlMesh.Pattern.CharSet

namespace CrawlMesh

set_option autoImplicit false

namespace Pattern

/-- A condition on a place in a text. -/
inductive Assertion
  | start
  | finish
  | wordEdge
  | noWordEdge
  | wordStart
  | wordEnd
  | wordStartHalf
  | wordEndHalf
deriving DecidableEq, Repr, Inhabited

end Pattern

/-- A pattern. -/
inductive Pattern
  | empty
  | chars (set : Pattern.CharSet)
  | assert (assertion : Pattern.Assertion)
  | seq (first second : Pattern)
  | either (first second : Pattern)
  | repeated (least : Nat) (most : Option Nat) (body : Pattern)
deriving Repr, Inhabited

namespace Pattern

/-- The patterns one after another. -/
def seqAll : List Pattern → Pattern
  | [] => .empty
  | [p] => p
  | p :: rest => .seq p (seqAll rest)

/-- Any one of the patterns. -/
def eitherAll : List Pattern → Pattern
  | [] => .empty
  | [p] => p
  | p :: rest => .either p (eitherAll rest)

/-- How deep a pattern is nested, parts of one sequence counting as one level. -/
def depth : Pattern → Nat
  | .seq p q => max (p.depth + 1) q.depth
  | .either p q => max (p.depth + 1) q.depth
  | .repeated _ _ p => p.depth + 1
  | _ => 1

/-- How much room a pattern takes when all repetitions are written out. -/
def size : Pattern → Nat
  | .empty => 1
  | .chars set => set.weight
  | .assert _ => 1
  | .seq p q => p.size + q.size
  | .either p q => p.size + q.size + 1
  | .repeated least most p => p.size * max 1 (most.getD least) + 1

/-! ## Matching -/

/-- A set of places in a text, place `i` being before character `i`: a number with bit `i` set. -/
abbrev Places := Nat

def placesWhere (n : Nat) (p : Nat → Bool) : Places :=
  (List.range n).foldl (fun s i => if p i then s ||| 1 <<< i else s) 0

/-- Is there a word character at a place, or before it? -/
def wordAt (text : Array Char) (i : Nat) : Bool :=
  match text[i]? with
  | some c => CharSet.word.holds c
  | none => false

def wordBefore (text : Array Char) : Nat → Bool
  | 0 => false
  | i + 1 => wordAt text i

/-- Does a condition hold at a place of a text? -/
def Assertion.holds (text : Array Char) (i : Nat) : Assertion → Bool
  | .start => i == 0
  | .finish => i == text.size
  | .wordEdge => wordBefore text i != wordAt text i
  | .noWordEdge => wordBefore text i == wordAt text i
  | .wordStart => !wordBefore text i && wordAt text i
  | .wordEnd => wordBefore text i && !wordAt text i
  | .wordStartHalf => !wordBefore text i
  | .wordEndHalf => !wordAt text i

/-- Apply a step a number of times, until it changes nothing. -/
def repeatStep (step : Places → Places) : Nat → Places → Places
  | 0, s => s
  | n + 1, s =>
    let t := step s
    if t == s then s else repeatStep step n t

/-- The places that are reached from places by following a pattern. -/
def follow (text : Array Char) : Pattern → Places → Places
  | .empty, s => s
  | .chars set, s =>
    (s &&& placesWhere text.size fun i => text[i]?.any set.holds) <<< 1
  | .assert a, s => s &&& placesWhere (text.size + 1) fun i => a.holds text i
  | .seq p q, s => follow text q (follow text p s)
  | .either p q, s => follow text p s ||| follow text q s
  | .repeated least most p, s =>
    let s := repeatStep (follow text p) least s
    let more := match most with
      | none => text.size + 1
      | some most => min (most - least) (text.size + 1)
    repeatStep (fun t => t ||| follow text p t) more s

/-- Does a pattern describe any part of a text? -/
def isMatch (p : Pattern) (s : String) : Bool :=
  let text := s.toList.toArray
  follow text p (placesWhere (text.size + 1) fun _ => true) != 0

end Pattern

end CrawlMesh
