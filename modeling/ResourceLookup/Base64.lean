import ResourceLookup.Text

/-!
# Base 64

Writing takes three octets to four letters and pads the last group. Reading is lenient:
letters outside the alphabet are skipped, and a padding sign counts only when it
completes a group that has two letters or more, which then ends the reading.
-/

namespace ResourceLookup.Base64

def padding : Nat := 0x3D

def letter (n : Nat) : Nat :=
  if n < 26 then 0x41 + n
  else if n < 52 then 0x61 + (n - 26)
  else if n < 62 then 0x30 + (n - 52)
  else if n = 62 then 0x2B
  else 0x2F

def value? (c : Nat) : Option Nat :=
  if 0x41 ≤ c ∧ c ≤ 0x5A then some (c - 0x41)
  else if 0x61 ≤ c ∧ c ≤ 0x7A then some (c - 0x61 + 26)
  else if 0x30 ≤ c ∧ c ≤ 0x39 then some (c - 0x30 + 52)
  else if c = 0x2B then some 62
  else if c = 0x2F then some 63
  else none

theorem value?_letter {n : Nat} (h : n < 64) : value? (letter n) = some n := by
  simp only [value?, letter]
  grind

def encode : Octets → Text
  | a :: b :: c :: r =>
    letter (a.toNat / 4) :: letter (a.toNat % 4 * 16 + b.toNat / 16) ::
      letter (b.toNat % 16 * 4 + c.toNat / 64) :: letter (c.toNat % 64) :: encode r
  | [a, b] =>
    [letter (a.toNat / 4), letter (a.toNat % 4 * 16 + b.toNat / 16), letter (b.toNat % 16 * 4),
      padding]
  | [a] => [letter (a.toNat / 4), letter (a.toNat % 4 * 16), padding, padding]
  | [] => []

inductive Flaw
  /-- A group ends after one letter; the count is that of all letters read. -/
  | oneLetter (letters : Nat)
  | padding
  deriving DecidableEq, Repr

/-- The state of a reading: letters in the open group, what they leave over, the padding
signs seen since the last letter, and the octets written so far, last first. -/
structure Reading where
  inGroup : Nat
  carry : Nat
  pads : Nat
  written : Octets

def Reading.start : Reading := ⟨0, 0, 0, []⟩

def Reading.put (s : Reading) (v : Nat) : Reading :=
  match s.inGroup with
  | 0 => ⟨1, v, 0, s.written⟩
  | 1 => ⟨2, v % 16, 0, UInt8.ofNat (s.carry * 4 + v / 16) :: s.written⟩
  | 2 => ⟨3, v % 4, 0, UInt8.ofNat (s.carry * 16 + v / 4) :: s.written⟩
  | _ => ⟨0, 0, 0, UInt8.ofNat (s.carry * 64 + v) :: s.written⟩

def Reading.finish (s : Reading) : Except Flaw Octets :=
  match s.inGroup with
  | 0 => .ok s.written.reverse
  | 1 => .error (.oneLetter (s.written.length / 3 * 4 + 1))
  | _ => .error .padding

def Reading.run (s : Reading) : List Nat → Except Flaw Octets
  | [] => s.finish
  | c :: r =>
    if c = padding then
      if 2 ≤ s.inGroup then
        if 4 ≤ s.inGroup + (s.pads + 1) then .ok s.written.reverse
        else run { s with pads := s.pads + 1 } r
      else run s r
    else
      match value? c with
      | some v => run (s.put v) r
      | none => run s r

def decode (letters : List Nat) : Except Flaw Octets := Reading.start.run letters

end ResourceLookup.Base64
