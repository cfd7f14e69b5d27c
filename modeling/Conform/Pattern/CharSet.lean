import Conform.Pattern.Classes

/-! The sets of characters that patterns speak of. -/

namespace Conform

/-- A set of characters. -/
inductive CharSet where
  | none
  /-- The characters between two, both of them included. -/
  | range (first last : Char)
  | digit
  | word
  | blank
  | union (a b : CharSet)
  | intersection (a b : CharSet)
  | difference (a b : CharSet)
  | symmetricDifference (a b : CharSet)
  | complement (a : CharSet)
  /-- The set together with all characters that differ from its own in case alone. -/
  | caseless (a : CharSet)

namespace CharSet

/-- Whether the set holds a character. -/
def contains : CharSet → Char → Bool
  | none, _ => false
  | range first last, c => first ≤ c && c ≤ last
  | digit, c => Pattern.isDigit c
  | word, c => Pattern.isWord c
  | blank, c => isBlank c
  | union a b, c => a.contains c || b.contains c
  | intersection a b, c => a.contains c && b.contains c
  | difference a b, c => a.contains c && !b.contains c
  | symmetricDifference a b, c => a.contains c != b.contains c
  | complement a, c => !a.contains c
  | caseless a, c => (Pattern.caseVariants c).any fun variant => a.contains variant

/-- The set of one character. -/
def single (c : Char) : CharSet :=
  range c c

/-- The set of the characters in some of the ranges. -/
def ofRanges (ranges : List (Char × Char)) : CharSet :=
  ranges.foldl (fun held bounds => union held (range bounds.1 bounds.2)) none

/-- Every character but those of a few. -/
def allBut (characters : List Char) : CharSet :=
  complement (ofRanges (characters.map fun c => (c, c)))

/-- About how many bytes an automaton needs that reads one character of the set, written in UTF-8. -/
def room : CharSet → Nat
  | none => 0
  | range first last =>
    if first = last then 32 * first.utf8Size
    else if last.toNat < 128 then 72
    else 256 * last.utf8Size
  | digit => 5184
  | word => 50316
  | blank => 680
  | union a b => a.room + b.room
  | intersection a b => Nat.max a.room b.room
  | difference a b => a.room + b.room
  | symmetricDifference a b => a.room + b.room
  | complement a => a.room + 968
  | caseless a => 2 * a.room

end CharSet

end Conform
