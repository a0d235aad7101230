/-!
# UTF-8 byte sequences

Reading bytes as UTF-8 text. A well-formed sequence is one byte below `0x80`, or a lead byte
`0xC2`–`0xF4` followed by one to three continuation bytes `0x80`–`0xBF`, where the second byte
after `0xE0`, `0xED`, `0xF0` and `0xF4` is narrowed further so that no overlong form, surrogate
or code point above U+10FFFF is spelled.

A fault is located by the length of the well-formed prefix before it and, for a sequence that
goes wrong, the number of bytes that belong to the bad sequence; a sequence cut short by the end
of the bytes has no such length. Lossy reading puts U+FFFD in place of each bad sequence, and one
U+FFFD for a sequence cut short at the end.
-/

namespace Safekeep.Text.Utf8

def isContinuation (b : UInt8) : Bool := 0x80 ≤ b && b ≤ 0xBF

def secondFits (lead x : UInt8) : Bool :=
  if lead = 0xE0 then 0xA0 ≤ x && x ≤ 0xBF
  else if lead = 0xED then 0x80 ≤ x && x ≤ 0x9F
  else if lead = 0xF0 then 0x90 ≤ x && x ≤ 0xBF
  else if lead = 0xF4 then 0x80 ≤ x && x ≤ 0x8F
  else isContinuation x

/-- The length of the sequence a lead byte announces; zero for a byte that cannot lead. -/
def width (b : UInt8) : Nat :=
  if b < 0x80 then 1
  else if 0xC2 ≤ b && b ≤ 0xDF then 2
  else if 0xE0 ≤ b && b ≤ 0xEF then 3
  else if 0xF0 ≤ b && b ≤ 0xF4 then 4
  else 0

/-- How the first sequence of some bytes reads: its length, or the fault (`some k`: the first
`k` bytes make a bad sequence; `none`: the bytes end inside the sequence). -/
def firstSequence : List UInt8 → Except (Option Nat) Nat
  | [] => .error none
  | b :: rest =>
    match width b with
    | 1 => .ok 1
    | 0 => .error (some 1)
    | w =>
      match rest with
      | [] => .error none
      | x :: rest =>
        if ¬secondFits b x then .error (some 1)
        else if w = 2 then .ok 2
        else
          match rest with
          | [] => .error none
          | y :: rest =>
            if ¬isContinuation y then .error (some 2)
            else if w = 3 then .ok 3
            else
              match rest with
              | [] => .error none
              | z :: _ => if isContinuation z then .ok 4 else .error (some 3)

/-- A sequence that reads has at least one byte. -/
theorem firstSequence_pos {bs : List UInt8} {n : Nat} (h : firstSequence bs = .ok n) : 0 < n := by
  unfold firstSequence at h
  split at h
  · simp at h
  · split at h
    · simp at h; omega
    · simp at h
    · split at h
      · simp at h
      · split at h
        · simp at h
        · split at h
          · simp at h; omega
          · split at h
            · simp at h
            · split at h
              · simp at h
              · split at h
                · simp at h; omega
                · split at h
                  · simp at h
                  · split at h
                    · simp at h; omega
                    · simp at h

/-- Where well-formed text first goes wrong: the length of the good prefix (counted from
`start`) and the fault's length, if any. -/
def faultFrom (start : Nat) (bs : List UInt8) : Option (Nat × Option Nat) :=
  if bs.isEmpty then none
  else
    match h : firstSequence bs with
    | .error k => some (start, k)
    | .ok n =>
      have := firstSequence_pos h
      faultFrom (start + n) (bs.drop n)
termination_by bs.length
decreasing_by
  simp only [List.length_drop]
  have : bs.length ≠ 0 := by simpa [List.isEmpty_iff] using ‹¬bs.isEmpty = true›
  omega

def fault (bs : List UInt8) : Option (Nat × Option Nat) := faultFrom 0 bs

/-- Bytes read as text: U+FFFD stands for each bad sequence and for a sequence cut short. -/
def lossy (bs : List UInt8) : String :=
  if bs.isEmpty then ""
  else
    match h : firstSequence bs with
    | .ok n =>
      have := firstSequence_pos h
      (String.fromUTF8? (ByteArray.mk (bs.take n).toArray)).getD "" ++ lossy (bs.drop n)
    | .error (some k) => "\uFFFD" ++ lossy (bs.drop (max k 1))
    | .error none => "\uFFFD"
termination_by bs.length
decreasing_by
  all_goals simp only [List.length_drop]
  all_goals have : bs.length ≠ 0 := by simpa [List.isEmpty_iff] using ‹¬bs.isEmpty = true›
  all_goals omega

def faultMessage : Nat × Option Nat → String
  | (start, some k) =>
    "invalid utf-8 sequence of " ++ toString k ++ " bytes from index " ++ toString start
  | (start, none) => "incomplete utf-8 byte sequence from index " ++ toString start

end Safekeep.Text.Utf8
