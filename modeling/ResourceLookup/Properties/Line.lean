import ResourceLookup.Text

/-!
# Logical lines of a property file

A natural line ends at a line feed, a return, or the two together. Spaces, tabs and form
feeds before its first other character do not count. A line that is then empty or begins
with a comment mark is passed over. A line that ends in an odd number of backslashes goes
on, without the last of them, in the next natural line, and there a comment mark is an
ordinary character. Each logical line carries the number of the natural line it began on.
-/

namespace ResourceLookup.Properties

def backslash : Nat := 0x5C

def isBlank (c : Nat) : Bool := c = 0x20 || c = 0x09 || c = 0x0C

def isCommentMark (c : Nat) : Bool := c = 0x23 || c = 0x21

def naturalLines : Text → List Text
  | [] => [[]]
  | c :: r =>
    if c = 0x0A then [] :: naturalLines r
    else if c = 0x0D then
      match r with
      | [] => [[], []]
      | d :: r' => if d = 0x0A then [] :: naturalLines r' else [] :: naturalLines (d :: r')
    else
      match naturalLines r with
      | [] => [[c]]
      | l :: ls => (c :: l) :: ls

theorem naturalLines_ne_nil (t : Text) : naturalLines t ≠ [] := by
  fun_induction naturalLines t <;> simp

def dropBlanks (l : Text) : Text := l.dropWhile isBlank

def continues (l : Text) : Bool := (l.reverse.takeWhile (· = backslash)).length % 2 == 1

theorem continues_nil : continues [] = false := rfl

/-- A flag that each backslash flips and every other character clears says whether the number
of backslashes at the end is odd. -/
theorem continues_concat (l : Text) (c : Nat) :
    continues (l ++ [c]) = (c = backslash && !continues l) := by
  by_cases hc : c = backslash
  · simp only [continues, List.reverse_append, List.reverse_singleton, List.singleton_append,
      hc, List.takeWhile_cons, decide_true, ↓reduceIte, List.length_cons, Bool.true_and]
    generalize (l.reverse.takeWhile fun x => decide (x = backslash)).length = n
    rcases Nat.mod_two_eq_zero_or_one n with h | h
    · have h' : (n + 1) % 2 = 1 := by omega
      simp [h, h']
    · have h' : (n + 1) % 2 = 0 := by omega
      simp [h, h']
  · simp [continues, hc]

theorem continues_dropLast {l : Text} (h : continues l = true) : continues l.dropLast = false := by
  rcases List.eq_nil_or_concat l with rfl | ⟨r, c, rfl⟩
  · rfl
  · rw [List.concat_eq_append, continues_concat] at h
    rw [List.concat_eq_append, List.dropLast_concat]
    simpa using (Bool.and_eq_true_iff.1 h).2

def isIgnored : Text → Bool
  | [] => true
  | c :: _ => isCommentMark c

def joined (l : Text) : List Text → Text × List Text
  | [] => (if continues l then l.dropLast else l, [])
  | next :: rest =>
    if continues l then joined (l.dropLast ++ dropBlanks next) rest else (l, next :: rest)

theorem joined_rest_le (l : Text) (ls : List Text) : (joined l ls).2.length ≤ ls.length := by
  induction ls generalizing l with
  | nil => simp [joined]
  | cons next rest ih =>
    simp only [joined]
    split
    · exact Nat.le_succ_of_le (ih _)
    · simp

structure Line where
  number : Nat
  content : Text
  deriving DecidableEq, Repr

/-- The logical lines among natural lines, the first of which has the given number. -/
def logicalFrom (number : Nat) : List Text → List Line
  | [] => []
  | l :: ls =>
    if isIgnored (dropBlanks l) then logicalFrom (number + 1) ls
    else
      ⟨number, (joined (dropBlanks l) ls).1⟩ ::
        logicalFrom (number + 1 + (ls.length - (joined (dropBlanks l) ls).2.length))
          (joined (dropBlanks l) ls).2
  termination_by ls => ls.length
  decreasing_by
    · simp
    · exact Nat.lt_succ_of_le (joined_rest_le _ _)

def logicalLines (t : Text) : List Line := logicalFrom 1 (naturalLines t)

end ResourceLookup.Properties
