/-!
# Text as code points

Resource names, addresses and property files are texts: lists of code points, in
which lone surrogates are legal. Cutting at a separator, joining, and numbers in
decimal and hexadecimal live here; each cut comes with the statement that nothing
is lost.
-/

namespace ResourceLookup

abbrev Text := List Nat
abbrev Octets := List UInt8

def text (s : String) : Text := s.toList.map Char.toNat

namespace Text

def Valid (t : Text) : Prop := ∀ c ∈ t, c < 0x110000

def isAscii (t : Text) : Bool := t.all (· < 0x80)

def splitOn (sep : Nat) : Text → List Text
  | [] => [[]]
  | c :: r =>
    if c = sep then [] :: splitOn sep r
    else
      match splitOn sep r with
      | [] => [[c]]
      | p :: ps => (c :: p) :: ps

def joinWith (sep : Text) : List Text → Text
  | [] => []
  | [p] => p
  | p :: q :: r => p ++ sep ++ joinWith sep (q :: r)

theorem splitOn_ne_nil (sep : Nat) (t : Text) : splitOn sep t ≠ [] := by
  cases t with
  | nil => simp [splitOn]
  | cons c r =>
    simp only [splitOn]
    split
    · simp
    · split <;> simp

theorem joinWith_cons_ne_nil (sep p : Text) {ps : List Text} (h : ps ≠ []) :
    joinWith sep (p :: ps) = p ++ sep ++ joinWith sep ps := by
  cases ps with
  | nil => exact absurd rfl h
  | cons q r => rfl

theorem joinWith_splitOn (sep : Nat) (t : Text) : joinWith [sep] (splitOn sep t) = t := by
  induction t with
  | nil => rfl
  | cons c r ih =>
    simp only [splitOn]
    split
    · next h => rw [joinWith_cons_ne_nil _ _ (splitOn_ne_nil sep r), ih, h]; rfl
    · match hs : splitOn sep r with
      | [] => exact absurd hs (splitOn_ne_nil sep r)
      | [p] => rw [hs] at ih; simpa [joinWith] using ih
      | p :: q :: ps => rw [hs] at ih; simpa [joinWith] using ih

theorem not_mem_of_mem_splitOn {sep : Nat} {t p : Text} (h : p ∈ splitOn sep t) : sep ∉ p := by
  induction t generalizing p with
  | nil =>
    rw [List.mem_singleton.1 h]
    exact List.not_mem_nil
  | cons c r ih =>
    rw [splitOn] at h
    split at h
    · rcases List.mem_cons.1 h with rfl | h
      · exact List.not_mem_nil
      · exact ih h
    · next hc =>
      match hs : splitOn sep r with
      | [] => exact absurd hs (splitOn_ne_nil sep r)
      | q :: qs =>
        rw [hs] at h ih
        rcases List.mem_cons.1 h with rfl | h
        · exact List.not_mem_cons_of_ne_of_not_mem (Ne.symm hc) (ih List.mem_cons_self)
        · exact ih (List.mem_cons_of_mem q h)

def cutFirst (sep : Nat) : Text → Option (Text × Text)
  | [] => none
  | c :: r =>
    if c = sep then some ([], r)
    else (cutFirst sep r).map fun p => (c :: p.1, p.2)

theorem cutFirst_eq_none_iff {sep : Nat} {t : Text} : cutFirst sep t = none ↔ sep ∉ t := by
  induction t with
  | nil => simp [cutFirst]
  | cons c r ih =>
    by_cases hc : c = sep
    · simp [cutFirst, hc]
    · simp [cutFirst, hc, Ne.symm hc, ih]

theorem eq_of_cutFirst {sep : Nat} {t a b : Text} (h : cutFirst sep t = some (a, b)) :
    t = a ++ sep :: b := by
  induction t generalizing a b with
  | nil => simp [cutFirst] at h
  | cons c r ih =>
    simp only [cutFirst] at h
    split at h
    · next hc => simp only [Option.some.injEq, Prod.mk.injEq] at h; simp [← h.1, ← h.2, hc]
    · obtain ⟨⟨x, y⟩, hxy, he⟩ := Option.map_eq_some_iff.1 h
      simp only [Prod.mk.injEq] at he
      rw [ih hxy, ← he.1, ← he.2]
      rfl

theorem cutFirst_append {sep : Nat} {a : Text} (h : sep ∉ a) (b : Text) :
    cutFirst sep (a ++ sep :: b) = some (a, b) := by
  induction a with
  | nil => simp [cutFirst]
  | cons c r ih =>
    simp only [List.mem_cons, not_or] at h
    simp [cutFirst, Ne.symm h.1, ih h.2]

def cutLast (sep : Nat) (t : Text) : Option (Text × Text) :=
  (cutFirst sep t.reverse).map fun p => (p.2.reverse, p.1.reverse)

theorem cutLast_eq_none_iff {sep : Nat} {t : Text} : cutLast sep t = none ↔ sep ∉ t := by
  rw [cutLast, Option.map_eq_none_iff, cutFirst_eq_none_iff, List.mem_reverse]

theorem eq_of_cutLast {sep : Nat} {t a b : Text} (h : cutLast sep t = some (a, b)) :
    t = a ++ sep :: b := by
  obtain ⟨⟨x, y⟩, hxy, he⟩ := Option.map_eq_some_iff.1 h
  simp only [Prod.mk.injEq] at he
  have hr := congrArg List.reverse (eq_of_cutFirst hxy)
  rw [List.reverse_reverse] at hr
  rw [hr, ← he.1, ← he.2]
  simp

theorem cutLast_append {sep : Nat} {b : Text} (h : sep ∉ b) (a : Text) :
    cutLast sep (a ++ sep :: b) = some (a, b) := by
  have hr : sep ∉ b.reverse := by rwa [List.mem_reverse]
  rw [cutLast, List.reverse_append, List.reverse_cons, List.append_assoc, List.singleton_append,
    cutFirst_append hr]
  simp

def after? (start : Text) (t : Text) : Option Text :=
  if start.isPrefixOf t then some (t.drop start.length) else none

def hasInfix (needle : Text) : Text → Bool
  | [] => needle.isEmpty
  | c :: r => needle.isPrefixOf (c :: r) || hasInfix needle r

theorem hasInfix_iff {needle t : Text} : hasInfix needle t = true ↔ needle <:+: t := by
  induction t with
  | nil => simp [hasInfix]
  | cons c r ih =>
    rw [hasInfix, Bool.or_eq_true, ih, List.isPrefixOf_iff_prefix, List.infix_cons_iff]

def dropLastWhile (p : Nat → Bool) (t : Text) : Text := (t.reverse.dropWhile p).reverse

def trim (p : Nat → Bool) (t : Text) : Text := dropLastWhile p (t.dropWhile p)

def decimal (n : Nat) : Text := text (toString n)

def integer (i : Int) : Text := text (toString i)

def digit (upper : Bool) (n : Nat) : Nat :=
  if n < 10 then 0x30 + n else (if upper then 0x41 else 0x61) + (n - 10)

def hexadecimal (upper : Bool) : (width : Nat) → Nat → Text
  | 0, _ => []
  | w + 1, n => digit upper (n / 16 ^ w % 16) :: hexadecimal upper w n

def hexValue? (c : Nat) : Option Nat :=
  if 0x30 ≤ c ∧ c ≤ 0x39 then some (c - 0x30)
  else if 0x41 ≤ c ∧ c ≤ 0x46 then some (c - 0x41 + 10)
  else if 0x61 ≤ c ∧ c ≤ 0x66 then some (c - 0x61 + 10)
  else none

theorem hexValue?_digit (upper : Bool) {n : Nat} (h : n < 16) :
    hexValue? (digit upper n) = some n := by
  cases upper <;> simp only [hexValue?, digit] <;> grind

def isDecimalDigit (c : Nat) : Bool := 0x30 ≤ c && c ≤ 0x39

def isAsciiLetter (c : Nat) : Bool := (0x41 ≤ c && c ≤ 0x5A) || (0x61 ≤ c && c ≤ 0x7A)

def asciiLower (t : Text) : Text := t.map fun c => if 0x41 ≤ c ∧ c ≤ 0x5A then c + 0x20 else c

end Text
end ResourceLookup
