/-! Reading bytes as UTF-8, either strictly or with a stand-in for each malformed part. -/

namespace Conform.Utf8

/-- What a first byte promises: how many bytes follow, where the first of them may lie, and the bits
that the first byte itself carries. -/
structure Lead where
  following : Nat
  low : Nat
  high : Nat
  bits : Nat

/-- The promise of a first byte; overlong forms, surrogates and values past the last character are
excluded by the range of the second byte. -/
def lead? (byte : Nat) : Option Lead :=
  if byte < 0x80 then some ⟨0, 0x80, 0xbf, byte⟩
  else if byte < 0xc2 then none
  else if byte < 0xe0 then some ⟨1, 0x80, 0xbf, byte - 0xc0⟩
  else if byte < 0xf0 then
    some ⟨2, if byte = 0xe0 then 0xa0 else 0x80, if byte = 0xed then 0x9f else 0xbf, byte - 0xe0⟩
  else if byte < 0xf5 then
    some ⟨3, if byte = 0xf0 then 0x90 else 0x80, if byte = 0xf4 then 0x8f else 0xbf, byte - 0xf0⟩
  else none

/-- The bytes that keep a promise, up to the first that breaks it. -/
def followers : Nat → Nat → Nat → List UInt8 → List Nat
  | 0, _, _, _ => []
  | _, _, _, [] => []
  | count + 1, low, high, byte :: rest =>
    if low ≤ byte.toNat ∧ byte.toNat ≤ high then byte.toNat :: followers count 0x80 0xbf rest
    else []

/-- The characters of a byte string, with none for each longest malformed part. -/
def decode : List UInt8 → List (Option Char)
  | [] => []
  | byte :: rest =>
    match lead? byte.toNat with
    | none => none :: decode rest
    | some lead =>
      let kept := followers lead.following lead.low lead.high rest
      let code := kept.foldl (fun bits next => bits * 64 + (next - 0x80)) lead.bits
      (if kept.length = lead.following then some (Char.ofNat code) else none) ::
        decode (rest.drop kept.length)
termination_by bytes => bytes.length
decreasing_by
  · simp
  · simp only [List.length_drop, List.length_cons]; omega

/-- The text of a well-formed byte string. -/
def decode? (bytes : List UInt8) : Option String :=
  ((decode bytes).mapM id).map String.ofList

/-- The text of any byte string, with a replacement character for each malformed part. -/
def decodeLossy (bytes : List UInt8) : String :=
  String.ofList ((decode bytes).map fun character => character.getD '\uFFFD')

end Conform.Utf8
