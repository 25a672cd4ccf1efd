import ResourceLookup.Properties.Line

/-!
# Logical lines in one pass

A second reader of logical lines goes through the text once, from left to right, and never cuts
it into natural lines. It keeps where it stands in the natural line and, inside a logical line,
one flag: every backslash flips it and every other character clears it. The reader that joins
natural lines and counts the backslashes at the end of what it has joined finds the same lines.
-/

namespace ResourceLookup.Properties

namespace Line

def push (l : Line) (c : Nat) : Line := { l with content := l.content ++ [c] }

def dropLast (l : Line) : Line := { l with content := l.content.dropLast }

end Line

inductive Pass
  /-- Before the first character that counts, with no logical line begun. -/
  | start
  /-- In a natural line that is passed over. -/
  | ignored
  /-- Before the first character that counts, where a logical line goes on. -/
  | margin (l : Line)
  | body (l : Line) (escaped : Bool)
  deriving DecidableEq, Repr

namespace Pass

def character (number : Nat) : Pass → Nat → Pass
  | start, c =>
    if isBlank c then start
    else if isCommentMark c then ignored
    else body ⟨number, [c]⟩ (c = backslash)
  | ignored, _ => ignored
  | margin l, c => if isBlank c then margin l else body (l.push c) (c = backslash)
  | body l escaped, c => body (l.push c) (c = backslash && !escaped)

def terminator : Pass → List Line × Pass
  | start | ignored => ([], start)
  | margin l | body l false => ([l], start)
  | body l true => ([], margin l.dropLast)

def ending : Pass → List Line
  | start | ignored => []
  | margin l | body l false => [l]
  | body l true => [l.dropLast]

/-- The logical lines that end from here on. `number` is the number of the natural line, and
`returned` says that the character before was a return, whose line feed does not count. -/
def lines (number : Nat) (returned : Bool) (p : Pass) : Text → List Line
  | [] => p.ending
  | c :: r =>
    if returned && c = 0x0A then p.lines number false r
    else if c = 0x0A || c = 0x0D then
      p.terminator.1 ++ p.terminator.2.lines (number + 1) (c = 0x0D) r
    else (p.character number c).lines number false r

end Pass

def onePass (t : Text) : List Line := Pass.start.lines 1 false t

namespace Pass

def within (l : Line) : Pass := body l (continues l.content)

theorem character_within (number : Nat) (l : Line) (c : Nat) :
    (within l).character number c = within (l.push c) := by
  simp [within, character, Line.push, continues_concat]

theorem foldl_within (number : Nat) (l : Line) (t : Text) :
    t.foldl (character number) (within l) = within { l with content := l.content ++ t } := by
  induction t generalizing l with
  | nil => simp
  | cons c r ih =>
    rw [List.foldl_cons, character_within, ih]
    simp [Line.push]

theorem foldl_ignored (number : Nat) (t : Text) :
    t.foldl (character number) ignored = ignored := by
  induction t with
  | nil => rfl
  | cons c r ih => exact ih

theorem foldl_start (number : Nat) (t : Text) :
    t.foldl (character number) start =
      match dropBlanks t with
      | [] => start
      | c :: r => if isCommentMark c then ignored else within ⟨number, c :: r⟩ := by
  induction t with
  | nil => rfl
  | cons c r ih =>
    by_cases hb : isBlank c
    · simpa only [dropBlanks, List.dropWhile_cons, hb, ↓reduceIte, List.foldl_cons, character] using ih
    · have hd : dropBlanks (c :: r) = c :: r := by simp [dropBlanks, hb]
      rw [hd, List.foldl_cons]
      by_cases hm : isCommentMark c
      · simp [character, hb, hm, foldl_ignored]
      · have hw : start.character number c = within ⟨number, [c]⟩ := by
          have hp := continues_concat [] c
          simp only [List.nil_append, continues_nil] at hp
          simp [character, hb, hm, within, hp]
        simp [hw, foldl_within, hm]

theorem foldl_margin (number : Nat) {l : Line} (even : continues l.content = false) (t : Text) :
    t.foldl (character number) (margin l) =
      match dropBlanks t with
      | [] => margin l
      | c :: r => within { l with content := l.content ++ c :: r } := by
  induction t with
  | nil => rfl
  | cons c r ih =>
    by_cases hb : isBlank c
    · simpa only [dropBlanks, List.dropWhile_cons, hb, ↓reduceIte, List.foldl_cons, character] using ih
    · have hd : dropBlanks (c :: r) = c :: r := by simp [dropBlanks, hb]
      have hw : (margin l).character number c = within (l.push c) := by
        simp [character, hb, within, Line.push, continues_concat, even]
      rw [hd, List.foldl_cons, hw, foldl_within]
      simp [Line.push]

/-! ## The pass over natural lines -/

def after (number : Nat) (p : Pass) : List Text → List Line
  | [] => p.ending
  | t :: ts =>
    p.terminator.1 ++ (t.foldl (character (number + 1)) p.terminator.2).after (number + 1) ts

def before (number : Nat) (p : Pass) : List Text → List Line
  | [] => p.ending
  | t :: ts => (t.foldl (character number) p).after number ts

theorem after_eq_before (number : Nat) (p : Pass) {ts : List Text} (h : ts ≠ []) :
    p.after number ts = p.terminator.1 ++ p.terminator.2.before (number + 1) ts := by
  cases ts with
  | nil => exact absurd rfl h
  | cons t ts => rfl

theorem lines_returned (number : Nat) (p : Pass) (t : Text) :
    p.lines number true t =
      match t with
      | [] => p.lines number false []
      | c :: r => if c = 0x0A then p.lines number false r else p.lines number false (c :: r) := by
  cases t with
  | nil => rfl
  | cons c r => by_cases hc : c = 0x0A <;> simp [lines, hc]

theorem lines_eq_before (number : Nat) (p : Pass) (t : Text) :
    p.lines number false t = p.before number (naturalLines t) := by
  fun_induction naturalLines t generalizing number p with
  | case1 => rfl
  | case2 r ih =>
    have ha := after_eq_before number p (naturalLines_ne_nil r)
    rw [← ih] at ha
    simpa [lines, before] using ha.symm
  | case3 => simp [lines, before, after]
  | case4 r' _ ih =>
    have ha := after_eq_before number p (naturalLines_ne_nil r')
    rw [← ih] at ha
    simpa [lines, before] using ha.symm
  | case5 d r' hd _ ih =>
    have ha := after_eq_before number p (naturalLines_ne_nil (d :: r'))
    rw [← ih] at ha
    simpa [lines, lines_returned, before, hd] using ha.symm
  | case6 c r _ _ hn => exact absurd hn (naturalLines_ne_nil r)
  | case7 c r hl hr l ls hn ih =>
    rw [hn] at ih
    simpa [lines, before, hl, hr] using ih number (p.character number c)

theorem after_ignored (number : Nat) (ts : List Text) :
    ignored.after number ts = start.after number ts := by
  cases ts <;> rfl

theorem after_margin (number : Nat) (l : Line) (ts : List Text) :
    (margin l).after number ts = (body l false).after number ts := by
  cases ts <;> rfl

theorem after_foldl_start (number : Nat) (t : Text) (ts : List Text) :
    (t.foldl (character number) start).after number ts =
      if isIgnored (dropBlanks t) then start.after number ts
      else (within ⟨number, dropBlanks t⟩).after number ts := by
  rw [foldl_start]
  cases dropBlanks t with
  | nil => rfl
  | cons c r => by_cases hm : isCommentMark c <;> simp [isIgnored, hm, after_ignored]

theorem after_foldl_margin (number : Nat) {l : Line} (even : continues l.content = false) (t : Text)
    (ts : List Text) :
    (t.foldl (character number) (margin l)).after number ts =
      (within { l with content := l.content ++ dropBlanks t }).after number ts := by
  rw [foldl_margin number even]
  cases dropBlanks t with
  | nil => simp [after_margin, within, even]
  | cons c r => rfl

/-- From the end of a natural line on, the pass finds what joining natural lines gives, whether
no logical line has been begun or one has. -/
theorem after_eq (number : Nat) (ts : List Text) :
    start.after number ts = logicalFrom (number + 1) ts ∧
      ∀ l : Line, (within l).after number ts =
        ⟨l.number, (joined l.content ts).1⟩ ::
          logicalFrom (number + 1 + (ts.length - (joined l.content ts).2.length))
            (joined l.content ts).2 := by
  induction ts generalizing number with
  | nil =>
    refine ⟨by simp [after, ending, logicalFrom], fun l => ?_⟩
    cases hc : continues l.content <;>
      simp [after, within, hc, ending, joined, logicalFrom, Line.dropLast]
  | cons t ts ih =>
    have hs : start.after number (t :: ts) = logicalFrom (number + 1) (t :: ts) := by
      rw [after, logicalFrom]
      simp only [terminator, List.nil_append]
      rw [after_foldl_start]
      split
      · exact (ih (number + 1)).1
      · exact (ih (number + 1)).2 _
    refine ⟨hs, fun l => ?_⟩
    cases hc : continues l.content with
    | false =>
      have hl : (within l).after number (t :: ts) = l :: start.after number (t :: ts) := by
        simp [after, within, hc, terminator]
      rw [hl, hs]
      simp [joined, hc]
    | true =>
      have hj := joined_rest_le (l.content.dropLast ++ dropBlanks t) ts
      have hl : (within l).after number (t :: ts) =
          (within ⟨l.number, l.content.dropLast ++ dropBlanks t⟩).after (number + 1) ts := by
        simp only [after, within, hc, terminator, List.nil_append]
        exact after_foldl_margin (number + 1) (continues_dropLast hc) t ts
      rw [hl, (ih (number + 1)).2]
      simp only [joined, hc, ↓reduceIte, List.length_cons]
      congr 2
      omega

end Pass

/-- Splitting into natural lines and joining them finds what the single pass finds. -/
theorem logicalLines_eq_onePass (t : Text) : logicalLines t = onePass t := by
  obtain ⟨l, ls, hl⟩ := List.exists_cons_of_ne_nil (naturalLines_ne_nil t)
  rw [onePass, Pass.lines_eq_before, logicalLines, hl, ← (Pass.after_eq 0 (l :: ls)).1]
  rfl

end ResourceLookup.Properties
