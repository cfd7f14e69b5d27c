import Conform.Pattern.Basic

/-! Whether a pattern describes some part of a text.

All ways to read a text are followed at once: a mark stands at each place that some way has reached. -/

namespace Conform

/-- A place in a text, known by the characters on its two sides. -/
structure Place where
  before : Option Char
  after : Option Char

/-- One truth for each place of a text: whether the place is reached. -/
abbrev Marks := List Bool

/-- The places of a text that follows a character or stands at the start. -/
def Place.ofText : Option Char → List Char → List Place
  | before, [] => [⟨before, none⟩]
  -- A text of some characters has one place more than it has characters.
  | before, c :: rest => ⟨before, some c⟩ :: ofText (some c) rest

/-- Whether a condition holds at a place. -/
def Anchor.holds (anchor : Anchor) (place : Place) : Bool :=
  let wordBefore := place.before.any Pattern.isWord
  let wordAfter := place.after.any Pattern.isWord
  match anchor with
  | textStart => place.before.isNone
  | textEnd => place.after.isNone
  | lineStart => place.before.all (· == '\n')
  | lineEnd => place.after.all (· == '\n')
  | wordEdge => wordBefore != wordAfter
  | noWordEdge => wordBefore == wordAfter
  | wordStart => !wordBefore && wordAfter
  | wordEnd => wordBefore && !wordAfter
  | noWordBefore => !wordBefore
  | noWordAfter => !wordAfter

namespace Marks

/-- Whether a place is marked. -/
def any (marks : Marks) : Bool :=
  List.any marks id

/-- The marks of either. -/
def join (a b : Marks) : Marks :=
  List.zipWith or a b

/-- The marks of one that the other does not have. -/
def without (a b : Marks) : Marks :=
  List.zipWith (fun marked other => marked && !other) a b

/-- No mark at any place. -/
def none (places : List Place) : Marks :=
  places.map fun _ => false

/-- Keeps the marks where a condition holds. -/
def keep (anchor : Anchor) (places : List Place) (marks : Marks) : Marks :=
  List.zipWith (fun place marked => marked && anchor.holds place) places marks

/-- Moves each mark over one character of a set; `carried` is the mark moved to the first place. -/
def across (set : CharSet) : Bool → List Place → Marks → Marks
  | carried, place :: places, marked :: marks =>
    -- The first place is reached from the place before it, if there is one.
    carried :: across set (marked && place.after.any set.contains) places marks
  | _, _, _ => []

/-- Takes a step a number of times. -/
def iterate (step : Marks → Marks) : Nat → Marks → Marks
  | 0, marks => marks
  -- Without any mark nothing more can be reached, so a huge count costs nothing.
  | count + 1, marks => if any marks then iterate step count (step marks) else marks

/-- Adds what up to a number of steps reach from the fresh marks among the reached ones. -/
def spread (step : Marks → Marks) : Nat → Marks → Marks → Marks
  | 0, reached, _ => reached
  | count + 1, reached, fresh =>
    let next := without (step fresh) reached
    if any next then spread step count (join reached next) next else reached

end Marks

namespace Pattern

mutual

/-- Moves the marks over all parts of the text that the pattern describes. -/
def advance (places : List Place) : Pattern → Marks → Marks
  | empty, marks => marks
  | one set, marks => marks.across set false places
  | anchor condition, marks => marks.keep condition places
  | sequence items, marks => advanceThrough places items marks
  | choice branches, marks => advanceEither places branches marks
  | repeated body least most, marks =>
    let start := Marks.iterate (fun marks => body.advance places marks) least marks
    -- Each round of steps marks a new place or is the last, so the places bound their number.
    let rounds := (most.map (· - least)).getD places.length
    Marks.spread (fun marks => body.advance places marks) rounds start start
  | group body, marks => body.advance places marks
termination_by structural pattern => pattern

/-- Moves the marks over one pattern after another. -/
def advanceThrough (places : List Place) : List Pattern → Marks → Marks
  | [], marks => marks
  | item :: rest, marks => advanceThrough places rest (item.advance places marks)
termination_by structural items => items

/-- Moves the marks over some of the patterns. -/
def advanceEither (places : List Place) : List Pattern → Marks → Marks
  | [], _ => Marks.none places
  | branch :: rest, marks => (branch.advance places marks).join (advanceEither places rest marks)
termination_by structural branches => branches

end

/-- Whether some part of the text is as the pattern describes. -/
def occursIn (pattern : Pattern) (text : String) : Bool :=
  -- A part may begin at any place, so all of them are marked at first.
  let places := Place.ofText none text.toList
  (pattern.advance places (places.map fun _ => true)).any

end Pattern

end Conform
