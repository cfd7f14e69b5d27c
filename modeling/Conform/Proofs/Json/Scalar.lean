import Mathlib.Data.List.Induction
import Mathlib.Data.List.TakeWhile
import Conform.Json.Reader
import Conform.Json.Writer

/-! Texts and integers are read back from what is written for them. -/

namespace Conform.Json

variable {rest : List Char}

/-- A digit of the base sixteen has the value that it is written for. -/
theorem digitValue?_hexDigit : ∀ n < 16, digitValue? 16 (hexDigit n) = some n := by
  decide

/-- A small code point is read back from the four digits that are written for it. -/
theorem readUnicode_hexDigits {c : Char} (small : c.toNat < 0x20) :
    readUnicode ('0' :: '0' :: hexDigit (c.toNat / 16) :: hexDigit (c.toNat % 16) :: rest) =
      some (c, rest) := by
  have zero : digitValue? 16 '0' = some 0 := by decide
  have high := digitValue?_hexDigit (c.toNat / 16) (by omega)
  have low := digitValue?_hexDigit (c.toNat % 16) (Nat.mod_lt _ (by omega))
  have unit : readUnit ('0' :: '0' :: hexDigit (c.toNat / 16) :: hexDigit (c.toNat % 16) :: rest) =
      some (c.toNat, rest) := by
    simp only [readUnit, zero, high, low, bind, Option.bind, pure, Option.some.injEq, Prod.mk.injEq,
      and_true]
    omega
  -- So small a code point is no half of a pair.
  have whole : ¬ (0xdc00 ≤ c.toNat ∧ c.toNat < 0xe000) := by omega
  have notFirst : ¬ (0xd800 ≤ c.toNat ∧ c.toNat < 0xdc00) := by omega
  simp only [readUnicode, unit, bind, Option.bind]
  rw [if_neg whole, if_neg notFirst, Char.ofNat_toNat]
  rfl

/-- A character stands for itself between quotes, or it is written as an escape from which it is read
back. -/
theorem escape_cases (c : Char) :
    (escape c = [c] ∧ c ≠ '"' ∧ c ≠ '\\' ∧ 0x20 ≤ c.toNat) ∨
      ∃ written, escape c = '\\' :: written ∧
        ∀ rest, readEscape (written ++ rest) = some (c, rest) := by
  -- A quote and a backslash are written behind a backslash.
  unfold escape
  by_cases quote : c = '"'
  · exact .inr ⟨['"'], by simp [quote], fun rest => by simp [readEscape, quote]⟩
  by_cases backslash : c = '\\'
  · exact .inr ⟨['\\'], by simp [backslash], fun rest => by simp [readEscape, backslash]⟩
  rw [if_neg quote, if_neg backslash]
  -- Five control characters have a letter of their own, and the others are written by their code.
  split
  · subst_vars
    exact .inr ⟨['b'], rfl, fun rest => rfl⟩
  split
  · subst_vars
    exact .inr ⟨['f'], rfl, fun rest => rfl⟩
  split
  · subst_vars
    exact .inr ⟨['n'], rfl, fun rest => rfl⟩
  split
  · subst_vars
    exact .inr ⟨['r'], rfl, fun rest => rfl⟩
  split
  · subst_vars
    exact .inr ⟨['t'], rfl, fun rest => rfl⟩
  split
  · rename_i small
    exact .inr ⟨_, rfl, fun rest => readUnicode_hexDigits small⟩
  · rename_i visible
    exact .inl ⟨rfl, quote, backslash, Nat.le_of_not_lt visible⟩

/-- A character is read back from the way it is written between quotes. -/
theorem readQuoted_escape (steps : Nat) (c : Char) {characters after : List Char}
    (read : readQuoted steps rest = some (characters, after)) :
    readQuoted (steps + 1) (escape c ++ rest) = some (c :: characters, after) := by
  -- One step reads the character, and the steps that are left read the rest.
  rcases escape_cases c with ⟨plain, quote, backslash, visible⟩ | ⟨written, escaped, back⟩
  · simp [plain, readQuoted, quote, backslash, Nat.not_lt.2 visible, read]
  · simp [escaped, readQuoted, back, read]

/-- What is written between quotes is read back up to the closing quote, if there are steps enough. -/
theorem readQuoted_flatMap {steps : Nat} {characters : List Char}
    (enough : characters.length < steps) :
    readQuoted steps (characters.flatMap escape ++ '"' :: rest) = some (characters, rest) := by
  -- One step is taken for each character, and the last one for the quote.
  induction characters generalizing steps with
  | nil =>
    obtain ⟨steps, rfl⟩ := Nat.exists_eq_add_of_lt enough
    simp [readQuoted]
  | cons c others ih =>
    cases steps with
    | zero => cases enough
    | succ steps =>
      rw [List.flatMap_cons, List.append_assoc]
      exact readQuoted_escape steps c (ih (Nat.lt_of_succ_lt_succ enough))

/-- No character is written as nothing. -/
theorem length_le_flatMap_escape (characters : List Char) :
    characters.length ≤ (characters.flatMap escape).length := by
  -- Every character is written as one or more.
  induction characters with
  | nil => exact Nat.le_refl _
  | cons c others ih =>
    have written : 0 < (escape c).length := by
      rcases escape_cases c with ⟨plain, -⟩ | ⟨_, escaped, -⟩
      · simp [plain]
      · simp [escaped]
    simp only [List.flatMap_cons, List.length_cons, List.length_append]
    omega

/-- A text is read back from the way it is written between quotes. -/
theorem readText_quote (text : String) (rest : List Char) :
    ∃ written, quote text ++ rest = '"' :: written ∧ readText written = some (text, rest) := by
  -- There are as many steps to read as the text is long, which is at least one for each character.
  refine ⟨text.toList.flatMap escape ++ '"' :: rest, by simp [quote], ?_⟩
  have enough : text.toList.length < (text.toList.flatMap escape ++ '"' :: rest).length + 1 := by
    have written := length_le_flatMap_escape text.toList
    rw [List.length_append]
    omega
  simp only [readText, readQuoted_flatMap enough, bind, Option.bind, String.ofList_toList]
  rfl

/-- What may follow a document: nothing, or a space or another character that ends it. -/
def Ends : List Char → Prop
  | [] => True
  | c :: _ => c = ' ' ∨ c = '\n' ∨ c = '\t' ∨ c = '\r' ∨ c = ',' ∨ c = ']' ∨ c = '\x7d'

/-- A numeral begins with a digit. -/
theorem numeral_eq_cons (n : Nat) :
    ∃ first others, numeral n = first :: others ∧ first.isDigit = true := by
  -- A numeral is a list of digits that is not empty.
  have nonempty : numeral n ≠ [] := Nat.toDigits_ne_nil
  obtain ⟨first, others, leading⟩ := List.exists_cons_of_ne_nil nonempty
  have among : first ∈ numeral n := by simp [leading]
  exact ⟨first, others, leading, Nat.isDigit_of_mem_toDigits (by omega) (by omega) among⟩

/-- A numeral begins with a zero only if it is the numeral of zero. -/
theorem eq_zero_of_numeral {n : Nat} {others : List Char} (leading : numeral n = '0' :: others) :
    n = 0 := by
  -- The digits but the last are those of a smaller number, which is not zero.
  induction n using Nat.strongRecOn generalizing others with
  | ind n ih =>
    by_cases single : n < 10
    · have digit : ∀ n < 10, n.digitChar = '0' → n = 0 := by decide
      rw [numeral, Nat.toDigits_of_lt_base single] at leading
      exact digit n single (List.cons.inj leading).1
    · rw [numeral, Nat.toDigits_of_base_le (by omega) (by omega)] at leading
      cases front : Nat.toDigits 10 (n / 10) with
      | nil => exact absurd front Nat.toDigits_ne_nil
      | cons first later =>
        rw [front, List.cons_append] at leading
        obtain ⟨rfl, -⟩ := List.cons.inj leading
        have small : n / 10 = 0 := ih (n / 10) (by omega) front
        omega

/-- Digits are gathered into their value if it fits. -/
theorem gatherInteger_of_fits {digits : List Char}
    (fits : Nat.ofDigitChars 10 digits 0 < wordCount) :
    gatherInteger digits = (Nat.ofDigitChars 10 digits 0, 0) := by
  -- The last digit is gathered last, and the value before it fits all the more.
  induction digits using List.reverseRecOn with
  | nil => rfl
  | append_singleton front c ih =>
    rw [Nat.ofDigitChars_append, Nat.ofDigitChars_cons, Nat.ofDigitChars_nil] at fits ⊢
    have before := ih (by omega)
    rw [gatherInteger] at before
    rw [gatherInteger, List.foldl_append, before, List.foldl_cons, List.foldl_nil]
    simp only [Nat.mul_comm, true_and, if_pos fits]

/-- The digits of a numeral are gathered into its number. -/
theorem gatherInteger_numeral {n : Nat} (fits : n < wordCount) :
    gatherInteger (numeral n) = (n, 0) := by
  -- Nothing is dropped from digits whose number fits.
  have value : Nat.ofDigitChars 10 (numeral n) 0 = n := Nat.ofDigitChars_ten_toDigits
  rw [gatherInteger_of_fits (value.symm ▸ fits), value]

/-- A numeral is split off from what is no digit. -/
theorem spanDigits_numeral (n : Nat) (ends : Ends rest) :
    spanDigits (numeral n ++ rest) = (numeral n, rest) := by
  -- All of the numeral are digits, and what follows does not begin with one.
  have digits : ∀ c ∈ numeral n, c.isDigit = true := fun c among =>
    Nat.isDigit_of_mem_toDigits (by omega) (by omega) among
  have stops : rest.takeWhile Char.isDigit = [] ∧ rest.dropWhile Char.isDigit = rest := by
    cases rest with
    | nil => exact ⟨rfl, rfl⟩
    | cons c later => rcases ends with rfl | rfl | rfl | rfl | rfl | rfl | rfl <;> exact ⟨rfl, rfl⟩
  rw [spanDigits, List.takeWhile_append_of_pos digits, List.dropWhile_append_of_pos digits,
    stops.1, stops.2, List.append_nil]

/-- A number that is written without fraction and exponent is read from its digits. -/
theorem readUnsigned_numeral {n : Nat} (fits : n < wordCount) (negative : Bool) (ends : Ends rest) :
    readUnsigned negative (numeral n ++ rest) =
      (ofDigits? negative n 0).map fun document => (document, rest) := by
  -- The digits are followed by neither a digit, nor a point, nor an exponent.
  have nonempty : numeral n ≠ [] := Nat.toDigits_ne_nil
  have noDigit : rest.head?.any Char.isDigit = false := by
    cases rest with
    | nil => rfl
    | cons c later => rcases ends with rfl | rfl | rfl | rfl | rfl | rfl | rfl <;> rfl
  have plain : ¬ (numeral n = [] ∨ rest.head?.any Char.isDigit = true) := by
    simp [nonempty, noDigit]
  unfold readUnsigned
  rw [spanDigits_numeral n ends]
  dsimp only
  split
  -- A zero in front is the whole numeral, so the parts are the same in both cases.
  on_goal 1 =>
    rename_i more leading
    have zero : n = 0 := eq_zero_of_numeral leading
    obtain rfl : more = [] := by
      subst zero
      exact (List.cons.inj leading).2.symm
    rw [← leading, List.nil_append]
  all_goals
    dsimp only
    rw [if_neg plain, gatherInteger_numeral fits]
    cases rest with
    | nil => cases ofDigits? negative n 0 <;> rfl
    | cons c later =>
      rcases ends with rfl | rfl | rfl | rfl | rfl | rfl | rfl <;>
        cases ofDigits? negative n 0 <;> rfl

/-- What begins with a digit is read as a number without sign. -/
theorem readScalar_numeral (n : Nat) (rest : List Char) :
    readScalar (numeral n ++ rest) = readUnsigned false (numeral n ++ rest) := by
  obtain ⟨first, others, leading, digit⟩ := numeral_eq_cons n
  rw [leading, List.cons_append, readScalar]
  -- No other document begins with a digit.
  all_goals
    intro later same
    obtain ⟨rfl, -⟩ := List.cons.inj same
    revert digit
    decide

/-- An integer begins with its sign or with a digit, which neither space nor any bracket is. -/
theorem signedNumeral_eq_cons (n : Int) : ∃ first others, signedNumeral n = first :: others ∧
    first ∉ [' ', '\n', '\t', '\r', '[', ']', '\x7b', '\x7d'] := by
  -- A negative number begins with its sign, and any other with a digit.
  by_cases negative : n < 0
  · exact ⟨'-', numeral n.natAbs, by rw [signedNumeral, if_pos negative], by decide⟩
  · obtain ⟨first, others, leading, digit⟩ := numeral_eq_cons n.natAbs
    refine ⟨first, others, by rw [signedNumeral, if_neg negative, leading], fun among => ?_⟩
    simp only [List.mem_cons, List.not_mem_nil, or_false] at among
    rcases among with rfl | rfl | rfl | rfl | rfl | rfl | rfl | rfl <;> cases digit

/-- An integer of sixty-four bits is read back from the way it is written. -/
theorem readScalar_integer {n : Int} (low : -(wordCount : Int) ≤ 2 * n) (high : n < wordCount)
    (ends : Ends rest) : readScalar (signedNumeral n ++ rest) = some (integer n, rest) := by
  have fits : n.natAbs < wordCount := by omega
  by_cases negative : n < 0
  · -- Below zero it is written with a sign, and minus zero does not occur.
    have whole : ¬ (n.natAbs = 0 ∨ wordCount < 2 * n.natAbs) := by omega
    have same : -(n.natAbs : Int) = n := by omega
    rw [signedNumeral, if_pos negative]
    show readUnsigned true (numeral n.natAbs ++ rest) = _
    rw [readUnsigned_numeral fits true ends]
    simp only [ofDigits?, Nat.lt_irrefl, if_false, Bool.not_true, Bool.false_eq_true, if_neg whole,
      same, Option.map_some]
  · have same : (n.natAbs : Int) = n := by omega
    rw [signedNumeral, if_neg negative]
    rw [readScalar_numeral, readUnsigned_numeral fits false ends]
    simp [ofDigits?, same]

end Conform.Json
