import WorkflowDispatch.Text.Numeral
/-!
Reading bytes as UTF-8.  A byte sequence that is not well formed is refused at its first fault,
and the fault names the longest run of bytes that could still have begun a character.
-/

namespace WorkflowDispatch
namespace Text
namespace Utf8

inductive Reason where
  | invalidStart
  | invalidContinuation
  | unexpectedEnd

def Reason.message : Reason → String
  | .invalidStart => "invalid start byte"
  | .invalidContinuation => "invalid continuation byte"
  | .unexpectedEnd => "unexpected end of data"

/-- The bytes from position `first` to position `last` cannot be read, and `byte` is the one at
`first`. -/
structure Fault where
  first : Nat
  last : Nat
  byte : UInt8
  reason : Reason

def Fault.message (f : Fault) : String :=
  let place :=
    if f.first = f.last then
      "byte 0x" ++ String.ofList (hex 2 f.byte.toNat) ++ " in position " ++ decimal f.first
    else "bytes in position " ++ decimal f.first ++ "-" ++ decimal f.last
  "'utf-8' codec can't decode " ++ place ++ ": " ++ f.reason.message

/-- What a leading byte announces: its share of the code point, how many bytes follow, and the
bounds of the first of them, which keep out overlong forms, surrogates and numbers past the last
code point. -/
structure Lead where
  bits : Nat
  following : Nat
  low : Nat
  high : Nat

def Lead.ofByte? (b : UInt8) : Option Lead :=
  let n := b.toNat
  if n < 0x80 then some ⟨n, 0, 0x80, 0xBF⟩
  else if n < 0xC2 then none
  else if n < 0xE0 then some ⟨n - 0xC0, 1, 0x80, 0xBF⟩
  else if n = 0xE0 then some ⟨0, 2, 0xA0, 0xBF⟩
  else if n = 0xED then some ⟨0xD, 2, 0x80, 0x9F⟩
  else if n < 0xF0 then some ⟨n - 0xE0, 2, 0x80, 0xBF⟩
  else if n = 0xF0 then some ⟨0, 3, 0x90, 0xBF⟩
  else if n < 0xF4 then some ⟨n - 0xF0, 3, 0x80, 0xBF⟩
  else if n = 0xF4 then some ⟨4, 3, 0x80, 0x8F⟩
  else none

/-- Takes `count` continuation bytes, the first of them between `low` and `high`.  On failure it
tells how many bytes were right and why it stopped. -/
def continuation (low high : Nat) : Nat → Nat → Nat → List UInt8 →
    Except (Nat × Reason) (Nat × List UInt8)
  | 0, _, code, rest => .ok (code, rest)
  | _ + 1, taken, _, [] => .error (taken, .unexpectedEnd)
  | count + 1, taken, code, b :: rest =>
    if low ≤ b.toNat && b.toNat ≤ high then
      continuation 0x80 0xBF count (taken + 1) (code * 0x40 + (b.toNat - 0x80)) rest
    else .error (taken, .invalidContinuation)

theorem length_of_continuation {low high count taken code : Nat} {bytes rest : List UInt8} {n : Nat}
    (h : continuation low high count taken code bytes = .ok (n, rest)) :
    rest.length ≤ bytes.length := by
  induction count generalizing low high taken code bytes with
  | zero => simp [continuation] at h; simp [h.2]
  | succ count ih =>
    cases bytes with
    | nil => simp [continuation] at h
    | cons b bs =>
      rw [continuation] at h
      split at h
      · exact Nat.le_succ_of_le (ih h)
      · simp at h

/-- Reads the bytes, the first of which stands at `position`. -/
def decodeFrom (position : Nat) : List UInt8 → Except Fault (List Char)
  | [] => .ok []
  | b :: bytes =>
    match Lead.ofByte? b with
    | none => .error ⟨position, position, b, .invalidStart⟩
    | some lead =>
      match _h : continuation lead.low lead.high lead.following 0 lead.bits bytes with
      | .error (taken, reason) => .error ⟨position, position + taken, b, reason⟩
      | .ok (code, rest) =>
        (decodeFrom (position + 1 + lead.following) rest).map (Char.ofNat code :: ·)
  termination_by bytes => bytes.length
  decreasing_by
    have := length_of_continuation _h
    simp; omega

end Utf8

def decodeUtf8 (bytes : List UInt8) : Except Utf8.Fault String :=
  (Utf8.decodeFrom 0 bytes).map String.ofList

end Text
end WorkflowDispatch
