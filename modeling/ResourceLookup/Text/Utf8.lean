import ResourceLookup.Text.Surrogate

/-!
# UTF-8

The eight-bit form of a text. Surrogates have none, so encoding names the first run of
them; decoding reports a bad octet together with the extent of the longest beginning of a
character that it breaks off, which is also what one replacement character stands for.
-/

namespace ResourceLookup.Utf8

open Text

def encodeOne (c : Nat) : Octets :=
  if c < 0x80 then [UInt8.ofNat c]
  else if c < 0x800 then [UInt8.ofNat (0xC0 + c / 0x40), UInt8.ofNat (0x80 + c % 0x40)]
  else if c < 0x10000 then
    [UInt8.ofNat (0xE0 + c / 0x1000), UInt8.ofNat (0x80 + c / 0x40 % 0x40),
      UInt8.ofNat (0x80 + c % 0x40)]
  else
    [UInt8.ofNat (0xF0 + c / 0x40000), UInt8.ofNat (0x80 + c / 0x1000 % 0x40),
      UInt8.ofNat (0x80 + c / 0x40 % 0x40), UInt8.ofNat (0x80 + c % 0x40)]

structure Unencodable where
  text : Text
  start : Nat
  stop : Nat
  deriving DecidableEq, Repr

/-- A text without surrogates has octets; otherwise the first run of surrogates is named. -/
def encode? (t : Text) : Except Unencodable Octets :=
  if t.any isSurrogate then
    let start := (t.takeWhile fun c => !isSurrogate c).length
    let run := ((t.drop start).takeWhile isSurrogate).length
    .error ⟨t, start, start + run⟩
  else .ok (t.flatMap encodeOne)

/-- As `encode?`, but a low surrogate from `0xDC80` to `0xDCFF` stands for the octet it was
made from: the form of names in a file system. -/
def encodeName? (t : Text) : Except Unencodable Octets :=
  let stray := fun c => isSurrogate c && !(0xDC80 ≤ c && c ≤ 0xDCFF)
  if t.any stray then
    let start := (t.takeWhile fun c => !stray c).length
    let run := ((t.drop start).takeWhile isSurrogate).length
    .error ⟨t, start, start + run⟩
  else .ok (t.flatMap fun c => if isSurrogate c then [UInt8.ofNat (c - 0xDC00)] else encodeOne c)

inductive Flaw
  | badStart
  | badContinuation
  | cutShort
  deriving DecidableEq, Repr

inductive Head
  | scalar (c : Nat) (rest : Octets)
  | flaw (kind : Flaw) (length : Nat) (rest : Octets)

def isContinuation (b : UInt8) : Bool := 0x80 ≤ b.toNat && b.toNat ≤ 0xBF

/-- The bounds of the octet after a first one, which rule out overlong forms, surrogates
and numbers past the last code point. -/
def secondBounds (first : Nat) : Nat × Nat :=
  if first = 0xE0 then (0xA0, 0xBF)
  else if first = 0xED then (0x80, 0x9F)
  else if first = 0xF0 then (0x90, 0xBF)
  else if first = 0xF4 then (0x80, 0x8F)
  else (0x80, 0xBF)

def following? (first : Nat) : Option Nat :=
  if 0xC2 ≤ first ∧ first ≤ 0xDF then some 1
  else if 0xE0 ≤ first ∧ first ≤ 0xEF then some 2
  else if 0xF0 ≤ first ∧ first ≤ 0xF4 then some 3
  else none

def Head.rest : Head → Octets
  | .scalar _ rest => rest
  | .flaw _ _ rest => rest

def complete : (need got value : Nat) → Octets → Head
  | 0, _, value, r => .scalar value r
  | _ + 1, got, _, [] => .flaw .cutShort got []
  | n + 1, got, value, b :: r =>
    if isContinuation b then complete n (got + 1) (value * 0x40 + (b.toNat - 0x80)) r
    else .flaw .badContinuation got (b :: r)

def leadBits (more first : Nat) : Nat :=
  if more = 1 then first - 0xC0 else if more = 2 then first - 0xE0 else first - 0xF0

def head (b : UInt8) (r : Octets) : Head :=
  if b.toNat < 0x80 then .scalar b.toNat r
  else
    match following? b.toNat, r with
    | none, r => .flaw .badStart 1 r
    | some _, [] => .flaw .cutShort 1 []
    | some more, s :: r' =>
      if (secondBounds b.toNat).1 ≤ s.toNat && s.toNat ≤ (secondBounds b.toNat).2 then
        complete (more - 1) 2 (leadBits more b.toNat * 0x40 + (s.toNat - 0x80)) r'
      else .flaw .badContinuation 1 (s :: r')

theorem complete_rest_le (need got value : Nat) (r : Octets) :
    (complete need got value r).rest.length ≤ r.length := by
  induction need generalizing got value r with
  | zero => simp [complete, Head.rest]
  | succ n ih =>
    cases r with
    | nil => simp [complete, Head.rest]
    | cons b r =>
      simp only [complete]
      split
      · exact Nat.le_succ_of_le (ih _ _ r)
      · simp [Head.rest]

theorem head_rest_le (b : UInt8) (r : Octets) : (head b r).rest.length ≤ r.length := by
  unfold head
  split
  · simp [Head.rest]
  · split
    · simp [Head.rest]
    · simp [Head.rest]
    · split
      · exact Nat.le_succ_of_le (complete_rest_le _ _ _ _)
      · simp [Head.rest]

/-- Each flaw becomes one replacement character. -/
def decodeReplacing : Octets → Text
  | [] => []
  | b :: r =>
    (match head b r with
      | .scalar c _ => c
      | .flaw _ _ _ => 0xFFFD) :: decodeReplacing (head b r).rest
  termination_by bs => bs.length
  decreasing_by exact Nat.lt_succ_of_le (head_rest_le b r)

structure Decoded where
  text : Text
  stop : Option (Flaw × Nat)
  rest : Octets

def decode : Octets → Decoded
  | [] => ⟨[], none, []⟩
  | b :: r =>
    match head b r with
    | .scalar c _ => let d := decode (head b r).rest; { d with text := c :: d.text }
    | .flaw kind n _ => ⟨[], some (kind, n), b :: r⟩
  termination_by bs => bs.length
  decreasing_by exact Nat.lt_succ_of_le (head_rest_le b r)

end ResourceLookup.Utf8
