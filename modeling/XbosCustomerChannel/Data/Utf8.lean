import Mathlib.Init

/-!
# UTF-8 with replacement

`bytes.decode("utf-8", "replace")`: characters are read off the front of the bytes, and where none
can be, the longest part that could have begun one becomes a single U+FFFD. What was encoded is read
back (`decode_encode`).
-/

namespace Data

namespace Utf8

def encode (cs : List Char) : List UInt8 := cs.flatMap String.utf8EncodeChar

/-- The character at the front of the bytes. -/
def decodeChar? (bytes : List UInt8) : Option Char := bytes.toByteArray.utf8DecodeChar? 0

def isContinuation (b : UInt8) : Bool := 0x80 ≤ b ∧ b ≤ 0xbf

/-- A second byte that may follow the first of three or four. -/
def maySecond (first second : UInt8) : Bool :=
  if first = 0xe0 then 0xa0 ≤ second ∧ second ≤ 0xbf
  else if first = 0xed then 0x80 ≤ second ∧ second ≤ 0x9f
  else if first = 0xf0 then 0x90 ≤ second ∧ second ≤ 0xbf
  else if first = 0xf4 then 0x80 ≤ second ∧ second ≤ 0x8f
  else 0xe0 ≤ first ∧ first ≤ 0xf4 ∧ isContinuation second

/-- How many bytes are replaced together where no character can be read. -/
def invalidLength : List UInt8 → Nat
  | first :: second :: rest =>
      if ¬ maySecond first second then 1
      else if first < 0xf0 then 2
      else
        match rest with
        | third :: _ => if isContinuation third then 3 else 2
        | [] => 2
  | _ => 1

/-- The decoding of bytes of which the first few have been used up. -/
def decodeFrom : Nat → List UInt8 → List Char
  | _, [] => []
  | used + 1, _ :: bytes => decodeFrom used bytes
  | 0, b :: bytes =>
      match decodeChar? (b :: bytes) with
      | some c => c :: decodeFrom (c.utf8Size - 1) bytes
      | none => '\uFFFD' :: decodeFrom (invalidLength (b :: bytes) - 1) bytes

def decode (bytes : List UInt8) : List Char := decodeFrom 0 bytes

/-! ## The round trip -/

theorem decodeFrom_append (used bytes : List UInt8) :
    decodeFrom used.length (used ++ bytes) = decodeFrom 0 bytes := by
  induction used with
  | nil => rfl
  | cons b used ih =>
      rw [List.length_cons, List.cons_append, decodeFrom]
      exact ih

theorem decodeChar?_utf8EncodeChar (c : Char) (bytes : List UInt8) :
    decodeChar? (String.utf8EncodeChar c ++ bytes) = some c := by
  unfold decodeChar?
  rw [List.toByteArray_append]
  exact ByteArray.utf8DecodeChar?_utf8EncodeChar_append

theorem decode_encode (cs : List Char) : decode (encode cs) = cs := by
  induction cs with
  | nil => rfl
  | cons c cs ih =>
      have hchar := decodeChar?_utf8EncodeChar c (encode cs)
      have hlength := String.length_utf8EncodeChar c
      show decode (String.utf8EncodeChar c ++ encode cs) = c :: cs
      cases hbytes : String.utf8EncodeChar c with
      | nil =>
          have hpos := c.utf8Size_pos
          rw [hbytes, List.length_nil] at hlength
          omega
      | cons b used =>
          rw [hbytes] at hchar hlength
          rw [decode, List.cons_append, decodeFrom, ← List.cons_append, hchar]
          have hused : c.utf8Size - 1 = used.length := by
            simp only [List.length_cons] at hlength
            omega
          dsimp only
          rw [hused, decodeFrom_append]
          exact congrArg (c :: ·) ih

example : decode [0x61, 0xe2, 0x82, 0x28, 0xc3, 0xa9] = ['a', '\uFFFD', '(', 'é'] := by decide

end Utf8

end Data
