import Mathlib.Data.List.ModifyLast
import Conform.Check.Report
import Conform.Proofs.Json.RoundTrip

/-! The lines that a document is printed over. -/

namespace Conform.Json

/-- A line two blanks further in. -/
def indent (line : String) : String :=
  "  " ++ line

/-- Lines between brackets, which stand side by side if there is nothing between them. -/
def enclosed (opening closing : Char) : List String → List String
  | [] => [String.ofList [opening, closing]]
  | inner => String.singleton opening :: inner.map indent ++ [String.singleton closing]

/-- The lines of several parts, each but the last with a comma behind it. -/
def separated : List (List String) → List String
  | [] => []
  | [part] => part
  -- next :: rest :: The comma belongs to the last line of the part before it.
  | part :: next :: rest => part.modifyLast (· ++ ",") ++ separated (next :: rest)

mutual

/-- The lines of a document: what lies between two brackets stands on lines of its own. -/
def lines : Json → List String
  | array items => enclosed '[' ']' (separated (itemLines items))
  | object members => enclosed '\x7b' '\x7d' (separated (memberLines members))
  -- What is empty has no parts to stand on lines of their own.
  | document => [document.toText]
termination_by structural document => document

/-- The lines of each element. -/
def itemLines : List Json → List (List String)
  | [] => []
  | item :: rest => item.lines :: itemLines rest
termination_by structural items => items

/-- The lines of each member, of which the first begins with the name. -/
def memberLines : List (String × Json) → List (List String)
  | [] => []
  | (name, value) :: rest =>
    value.lines.modifyHead ((string name).toText ++ ": " ++ ·) :: memberLines rest
termination_by structural members => members

end

/-- Lines as they stand in a text, each with a new line behind it. -/
def ended (level : Nat) (lines : List String) : List Char :=
  lines.flatMap fun line => line.toList ++ newLine level

/-- A text is written over lines, of which there is one at least. -/
structure WrittenOver (level : Nat) (lines : List String) (text : List Char) : Prop where
  nonempty : lines ≠ []
  written : ended level lines = text ++ newLine level

variable {level : Nat} {lines : List String} {text : List Char}

/-- A new line is indented as far as one further out, and then by two blanks. -/
theorem newLine_succ (level : Nat) : newLine (level + 1) = newLine level ++ [' ', ' '] := by
  -- Twice the next level is two more than twice the level.
  rw [newLine, newLine, Nat.mul_add, List.replicate_add]
  rfl

namespace WrittenOver

/-- A text over one line is the line. -/
theorem single (line : String) : WrittenOver level [line] line.toList where
  -- A single line has nothing in front of it and nothing to be indented.
  nonempty := List.cons_ne_nil _ _
  written := by simp [ended]

/-- What is put in front of the first line is put in front of the text. -/
theorem beginWith (laid : WrittenOver level lines text) (front : String) :
    WrittenOver level (lines.modifyHead (front ++ ·)) (front.toList ++ text) := by
  obtain ⟨first, others, rfl⟩ := List.exists_cons_of_ne_nil laid.nonempty
  -- The other lines stay behind the first.
  refine ⟨List.cons_ne_nil _ _, ?_⟩
  have written := laid.written
  simp only [ended, List.flatMap_cons] at written
  simp only [ended, List.modifyHead_cons, List.flatMap_cons, String.toList_append,
    List.append_assoc, ← written]

/-- What is put behind the last line is put behind the text. -/
theorem endWith (laid : WrittenOver level lines text) (behind : String) :
    WrittenOver level (lines.modifyLast (· ++ behind)) (text ++ behind.toList) := by
  obtain ⟨front, last, rfl⟩ := (List.eq_nil_or_concat' lines).resolve_left laid.nonempty
  -- Up to the last new line, the lines make the text.
  have written := laid.written
  simp only [ended, List.flatMap_append, List.flatMap_singleton, ← List.append_assoc] at written
  rw [List.modifyLast_concat]
  refine ⟨by simp, ?_⟩
  simp only [ended, List.flatMap_append, List.flatMap_singleton, String.toList_append,
    ← List.append_assoc, ← List.append_cancel_right written]

/-- Two blanks further in, the lines of a text stand behind two blanks, and the new lines between them
have two blanks more. -/
theorem ended_indent (laid : WrittenOver (level + 1) lines text) :
    ended level (lines.map indent) = ' ' :: ' ' :: text ++ newLine level := by
  -- The blanks behind each new line are those in front of the next line.
  have shifted : ∀ lines : List String, ended level (lines.map indent) ++ [' ', ' '] =
      [' ', ' '] ++ ended (level + 1) lines := by
    intro lines
    induction lines with
    | nil => rfl
    | cons line rest ih =>
      simp only [ended, List.map_cons, List.flatMap_cons, indent, String.toList_append,
        newLine_succ, List.append_assoc] at ih ⊢
      rw [ih]
      rfl
  have whole := shifted lines
  rw [laid.written, newLine_succ, ← List.append_assoc, ← List.append_assoc] at whole
  exact List.append_cancel_right whole

end WrittenOver

/-- Lines between brackets, if there are any, are the lines of what is printed between them. -/
theorem WrittenOver.enclosed {inner : List String} (nonempty : inner ≠ []) {opening closing : Char}
    (written : ',' :: text = ',' :: newLine level ++ ended level (inner.map indent) ++ [closing]) :
    WrittenOver level (enclosed opening closing inner)
      (opening :: text) := by
  obtain ⟨first, others, rfl⟩ := List.exists_cons_of_ne_nil nonempty
  -- The text begins behind the bracket as it would behind a comma.
  obtain rfl := (List.cons.inj written).2
  exact ⟨by simp [Json.enclosed], by simp [Json.enclosed, ended]⟩

/-- A document without brackets is printed in one line. -/
theorem writtenOver_leaf {document : Json} (one : document.lines = [document.toText])
    (plain : document.pretty level = document.compact) :
    WrittenOver level document.lines (document.pretty level) := by
  -- The one line is the text itself, in whatever line it stands.
  have same : document.toText.toList = document.pretty level := by
    rw [toText, String.toList_ofList, plain]
  exact one ▸ same ▸ .single _

/-- A part in front of others is printed behind a comma and over its lines, if the others are. -/
theorem WrittenOver.follow {part : List String} (laid : WrittenOver (level + 1) part text)
    {rest : List (List String)} {behind : List Char} {closing : Char}
    (last : rest = [] → behind = newLine level ++ [closing])
    (more : rest ≠ [] → behind =
      ',' :: newLine level ++ ended level ((separated rest).map indent) ++ [closing]) :
    ',' :: newLine (level + 1) ++ text ++ behind =
      ',' :: newLine level ++ ended level ((separated (part :: rest)).map indent) ++ [closing] := by
  cases rest with
  | nil => simp [last rfl, separated, laid.ended_indent, newLine_succ]
  | cons next later =>
    -- The comma is written behind the last line of the part.
    have comma := (laid.endWith ",").ended_indent
    have split : ended level ((separated (part :: next :: later)).map indent) =
        ended level ((part.modifyLast (· ++ ",")).map indent) ++
          ended level ((separated (next :: later)).map indent) := by
      simp [separated, ended]
    rw [split, comma, more (List.cons_ne_nil _ _)]
    simp [newLine_succ]

/-- Lines are left of a part that is followed by others, and of the last one. -/
theorem separated_ne_nil {part : List String} (nonempty : part ≠ []) (rest : List (List String)) :
    separated (part :: rest) ≠ [] := by
  -- A part in front of others keeps its lines, of which only the last one gets a comma.
  cases rest with
  | nil => exact nonempty
  | cons next later =>
    obtain ⟨front, last, rfl⟩ := (List.eq_nil_or_concat' part).resolve_left nonempty
    simp [separated, List.modifyLast_concat]

mutual

/-- A document is printed over its lines. -/
theorem writtenOver_lines : ∀ (document : Json) (level : Nat),
    WrittenOver level document.lines (document.pretty level)
  | null, _ | bool _, _ | integer _, _ | float _, _ | string _, _ => writtenOver_leaf rfl rfl
  | array [], level | object [], level => .single _
  | array (item :: rest), level => by
    -- The first element stands behind the bracket as the others do behind commas.
    have nonempty := separated_ne_nil (writtenOver_lines item level).nonempty (itemLines rest)
    have inner := prettyItems_eq_lines (item :: rest) level (List.cons_ne_nil _ _)
    exact .enclosed nonempty inner
  | object ((name, value) :: rest), level => by
    have laid := (writtenOver_lines value level).beginWith ((string name).toText ++ ": ")
    have nonempty := separated_ne_nil laid.nonempty (memberLines rest)
    have inner := prettyMembers_eq_lines ((name, value) :: rest) level (List.cons_ne_nil _ _)
    exact .enclosed nonempty inner

/-- Elements behind their commas are printed over their lines. -/
theorem prettyItems_eq_lines : ∀ (items : List Json) (level : Nat), items ≠ [] →
    prettyItems level items = ',' :: newLine level ++
      ended level ((separated (itemLines items)).map indent) ++ [']']
  | [], _, nonempty => absurd rfl nonempty
  | item :: rest, level, _ => by
    -- The first element is followed by the bracket if it is the last, and by a comma if not.
    have others := prettyItems_eq_lines rest level
    refine (writtenOver_lines item (level + 1)).follow (fun empty => ?_) fun nonempty => ?_
    · cases rest with
      | nil => rfl
      | cons => cases empty
    · refine others fun none => nonempty ?_
      rw [none]
      rfl

/-- Members behind their commas are printed over their lines. -/
theorem prettyMembers_eq_lines : ∀ (members : List (String × Json)) (level : Nat), members ≠ [] →
    prettyMembers level members = ',' :: newLine level ++
      ended level ((separated (memberLines members)).map indent) ++ ['\x7d']
  | [], _, nonempty => absurd rfl nonempty
  | (name, value) :: rest, level, _ => by
    have others := prettyMembers_eq_lines rest level
    -- The name is written in front of the first line of the value.
    have laid := (writtenOver_lines value (level + 1)).beginWith ((string name).toText ++ ": ")
    have named : ((string name).toText ++ ": ").toList = quote name ++ ": ".toList := by
      simp [toText, compact]
    rw [named] at laid
    have joined : prettyMembers level ((name, value) :: rest) = ',' :: newLine (level + 1) ++
        (quote name ++ ": ".toList ++ value.pretty (level + 1)) ++ prettyMembers level rest := by
      simp [prettyMembers]
    rw [joined]
    refine laid.follow (fun empty => ?_) fun nonempty => ?_
    · cases rest with
      | nil => rfl
      | cons => cases empty
    · refine others fun none => nonempty ?_
      rw [none]
      rfl

end

/-- What is printed, with a new line behind it, is the lines of the document. -/
theorem unlines_lines (document : Json) : unlines document.lines = document.toPrettyText ++ "\n" := by
  -- At the outermost level a new line is not indented.
  have ended_eq : ∀ lines : List String, (unlines lines).toList = ended 0 lines := by
    intro lines
    induction lines with
    | nil => rfl
    | cons line rest ih =>
      simp only [unlines, List.map_cons, String.join_cons, String.toList_append, ended,
        List.flatMap_cons] at ih ⊢
      rw [ih]
      rfl
  apply String.toList_inj.1
  rw [ended_eq, (writtenOver_lines document 0).written, String.toList_append, toPrettyText,
    String.toList_ofList]
  rfl

/-- Gaps of new lines, and one blank behind each colon. -/
def Layout.airy : Layout :=
  ⟨newLine, [' ']⟩

mutual

/-- What is printed is the text with airy gaps. -/
theorem spread_airy : ∀ (document : Json) (level : Nat),
    document.spread .airy level = document.pretty level
  | array [], _ | object [], _ | null, _ | bool _, _ | integer _, _ | float _, _ | string _, _ => rfl
  | array (item :: rest), level => by
    -- Both writers put the same gap in front of each element and behind the last one.
    simp [spread, pretty, Layout.airy, ← spread_airy item (level + 1),
      ← spreadItems_airy rest level]
  | object ((name, value) :: rest), level => by
    simp [spread, pretty, Layout.airy, ← spread_airy value (level + 1),
      ← spreadMembers_airy rest level]

/-- Further elements with airy gaps. -/
theorem spreadItems_airy : ∀ (items : List Json) (level : Nat),
    spreadItems .airy level items = prettyItems level items
  | [], _ => rfl
  | item :: rest, level => by
    -- A comma and a new line come first in both writers.
    simp [spreadItems, prettyItems, Layout.airy, ← spread_airy item (level + 1),
      ← spreadItems_airy rest level]

/-- Further members with airy gaps. -/
theorem spreadMembers_airy : ∀ (members : List (String × Json)) (level : Nat),
    spreadMembers .airy level members = prettyMembers level members
  | [], _ => rfl
  | (name, value) :: rest, level => by
    -- A comma and a new line come first, and behind the colon stands a blank.
    simp [spreadMembers, prettyMembers, Layout.airy, ← spread_airy value (level + 1),
      ← spreadMembers_airy rest level]

end

/-- A document that is nested at most as deeply as documents may be is read back from its lines. -/
theorem read?_lines {document : Json} (writable : Writable depthLimit document) :
    read? (unlines document.lines) = some document := by
  -- The gaps are new lines with blanks behind them, and a new line ends the text.
  have blank : Layout.airy.IsBlank := by
    refine ⟨fun level c among => ?_, fun c among => ?_⟩
    · rcases List.mem_cons.1 among with rfl | blank
      · rfl
      · rw [List.eq_of_mem_replicate blank]
        rfl
    · rw [List.mem_singleton.1 among]
      rfl
  have lineEnd : Blank ['\n'] := by simp [Blank, isSpace]
  have printed : unlines document.lines = String.ofList (document.spread .airy 0 ++ ['\n']) := by
    rw [unlines_lines, spread_airy, String.ofList_append]
    rfl
  rw [printed]
  exact writable.read?_spread blank lineEnd

end Conform.Json
