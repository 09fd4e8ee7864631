/-!
# Bytes as text

Bytes are read as UTF-8. A sequence that breaks off, and a byte that starts none, has no
character; what follows it is read afresh, so no byte of a readable character is ever lost.

A text of which only so many bytes may be kept is cut between characters.
-/

namespace LiveEvents.Text.Utf8

/-- A sequence under way: its value so far, how many bytes are left, and where the next lies. -/
structure Pending where
  value : Nat
  left : Nat
  low : Nat
  high : Nat
  deriving DecidableEq, Repr

inductive Reading where
  | char (c : Char)
  | more (p : Pending)
  | broken
  deriving DecidableEq, Repr

/-- A byte at the start of a sequence. Overlong forms, halves of surrogate pairs and values beyond
the last character are barred by the bounds of the second byte. -/
def first (b : Nat) : Reading :=
  if b < 0x80 then .char (Char.ofNat b)
  else if b < 0xC2 then .broken
  else if b < 0xE0 then .more ⟨b - 0xC0, 1, 0x80, 0xBF⟩
  else if b = 0xE0 then .more ⟨0, 2, 0xA0, 0xBF⟩
  else if b = 0xED then .more ⟨0xD, 2, 0x80, 0x9F⟩
  else if b < 0xF0 then .more ⟨b - 0xE0, 2, 0x80, 0xBF⟩
  else if b = 0xF0 then .more ⟨0, 3, 0x90, 0xBF⟩
  else if b < 0xF4 then .more ⟨b - 0xF0, 3, 0x80, 0xBF⟩
  else if b = 0xF4 then .more ⟨4, 3, 0x80, 0x8F⟩
  else .broken

def Pending.next (p : Pending) (b : Nat) : Reading :=
  if p.low ≤ b && b ≤ p.high then
    let value := p.value * 64 + (b - 0x80)
    if p.left = 1 then .char (Char.ofNat value) else .more ⟨value, p.left - 1, 0x80, 0xBF⟩
  else .broken

/-- The characters of bytes, nothing standing for each sequence that is none. -/
def segmentsFrom : Option Pending → List UInt8 → List (Option Char)
  | none, [] => []
  | some _, [] => [none]
  | pending, byte :: rest =>
    match (pending.map (·.next byte.toNat)).getD .broken with
    | .char c => some c :: segmentsFrom none rest
    | .more p => segmentsFrom (some p) rest
    | .broken =>
      let lost := if pending.isSome then [none] else []
      match first byte.toNat with
      | .char c => lost ++ some c :: segmentsFrom none rest
      | .more p => lost ++ segmentsFrom (some p) rest
      | .broken => lost ++ none :: segmentsFrom none rest

def segments (bytes : List UInt8) : List (Option Char) :=
  segmentsFrom none bytes

def replacement : Char := '\uFFFD'

def lossy (bytes : List UInt8) : List Char :=
  (segments bytes).map (·.getD replacement)

def encode (text : String) : List UInt8 :=
  text.toUTF8.data.toList

/-- The place between characters that is met first on the way back from a byte, the byte itself
included. Nothing if the way would go on below the start of the text. -/
def boundaryFrom? (text : String) (byte : Nat) : Option text.Pos :=
  if h : String.Pos.Raw.IsValid text ⟨byte⟩ then some ⟨⟨byte⟩, h⟩
  else match byte with
    | 0 => none
    | byte + 1 => boundaryFrom? text byte

/-- The start of a text of which at most `limit` bytes may be kept. -/
def cut? (limit : Nat) (text : String) : Option String :=
  if limit < text.utf8ByteSize then
    (boundaryFrom? text limit).map fun boundary => (text.sliceTo boundary).copy
  else some text

section Boundaries

variable {text : String} {byte : Nat}

theorem boundaryFrom?_of_isValid (h : String.Pos.Raw.IsValid text ⟨byte⟩) :
    boundaryFrom? text byte = some ⟨⟨byte⟩, h⟩ := by
  unfold boundaryFrom?
  exact dif_pos h

theorem boundaryFrom?_succ_of_not_isValid (h : ¬String.Pos.Raw.IsValid text ⟨byte + 1⟩) :
    boundaryFrom? text (byte + 1) = boundaryFrom? text byte := by
  rw [boundaryFrom?, dif_neg h]

variable (text byte)

/-- A text begins between characters, so the way back ends there at the latest. -/
theorem isSome_boundaryFrom? : (boundaryFrom? text byte).isSome := by
  induction byte with
  | zero =>
    rw [boundaryFrom?_of_isValid String.Pos.Raw.isValid_zero]
    rfl
  | succ byte ih =>
    by_cases h : String.Pos.Raw.IsValid text ⟨byte + 1⟩
    · rw [boundaryFrom?_of_isValid h]
      rfl
    · rw [boundaryFrom?_succ_of_not_isValid h]
      exact ih

end Boundaries

theorem isSome_cut? (limit : Nat) (text : String) : (cut? limit text).isSome := by
  unfold cut?
  split
  · rw [Option.isSome_map]
    exact isSome_boundaryFrom? text limit
  · exact Option.isSome_some

def cut (limit : Nat) (text : String) : String :=
  (cut? limit text).get (isSome_cut? limit text)

end LiveEvents.Text.Utf8
