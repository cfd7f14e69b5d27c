import Conform.Pattern.CharSet

/-! Patterns describe texts. -/

namespace Conform

/-- A condition on the two sides of a place in a text. -/
inductive Anchor where
  | textStart
  | textEnd
  | lineStart
  | lineEnd
  /-- A word starts or ends here. -/
  | wordEdge
  /-- No word starts or ends here. -/
  | noWordEdge
  | wordStart
  | wordEnd
  /-- No word goes on before this place. -/
  | noWordBefore
  /-- No word goes on after this place. -/
  | noWordAfter
deriving DecidableEq

/-- A pattern. -/
inductive Pattern where
  | empty
  /-- One character of a set. -/
  | one (set : CharSet)
  | anchor (anchor : Anchor)
  | sequence (items : List Pattern)
  | choice (branches : List Pattern)
  /-- The body at least `least` and at most `most` times, or any number of times without `most`. -/
  | repeated (body : Pattern) (least : Nat) (most : Option Nat)
  | group (body : Pattern)

namespace Pattern

mutual

/-- How deep the pattern is nested. -/
def depth : Pattern → Nat
  | empty => 0
  | one _ => 0
  | anchor _ => 0
  | sequence items => depthOfAll items + 1
  | choice branches => depthOfAll branches + 1
  | repeated body _ _ => body.depth + 1
  | group body => body.depth + 1
termination_by structural pattern => pattern

/-- The greatest depth among patterns. -/
def depthOfAll : List Pattern → Nat
  | [] => 0
  | item :: rest => Nat.max item.depth (depthOfAll rest)
termination_by structural items => items

end

mutual

/-- Whether the pattern reads no character. -/
def readsNothing : Pattern → Bool
  | empty => true
  | one _ => false
  | anchor _ => true
  | sequence items => allReadNothing items
  | choice branches => allReadNothing branches
  | repeated body _ most => most == some 0 || body.readsNothing
  | group body => body.readsNothing
termination_by structural pattern => pattern

/-- Whether none of the patterns reads a character. -/
def allReadNothing : List Pattern → Bool
  | [] => true
  | item :: rest => item.readsNothing && allReadNothing rest
termination_by structural items => items

end

mutual

/-- About how many bytes an automaton for the pattern needs, with its repetitions written out. -/
def room : Pattern → Nat
  | empty => 32
  | one set => set.room
  | anchor _ => 32
  | sequence items => roomOfAll items
  | choice branches => roomOfAll branches + 36 * branches.length
  | repeated body least most =>
    -- To repeat what reads nothing changes nothing.
    if body.readsNothing then body.room + 40
    else
      match most with
      | none => Nat.max least 1 * body.room + 40
      | some most => Nat.max most 1 * body.room + (most - least) * 40
  | group body => body.room + 64
termination_by structural pattern => pattern

/-- The bytes that patterns need one after another. -/
def roomOfAll : List Pattern → Nat
  | [] => 0
  | item :: rest => item.room + roomOfAll rest
termination_by structural items => items

end

end Pattern

end Conform
