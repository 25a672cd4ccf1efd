import Mathlib
import ResourceLookup.Proofs.Properties.EmptyKey

/-!
# Folding a line

A natural line that belongs to a logical line can be cut in two by a backslash, a line feed and
blanks. Joining takes these away again, wherever the cut is but inside an escape or before a blank.
So the logical lines stay, and those that begin further down are numbered by one more.
-/

namespace ResourceLookup
namespace Properties

variable {u v a b x : Text} {ls ls' : List Text}

/-! ## Where a line is folded -/

def lineBefore (u : Text) : Text := (naturalLines u).getLastD []

def lineAfter (v : Text) : Text := (naturalLines v).headD []

/-- A place between two texts at which the natural line there can be folded: it is not within the
two characters of a line end, a logical line has gone on into the natural line or begins on it, an
even number of backslashes stands before the place, and no blank after it. -/
structure Foldable (u v : Text) : Prop where
  inside : ¬(u.getLast? = some 0x0D ∧ v.head? = some 0x0A)
  belongs : (naturalLines u).dropLast.foldl goesOn false = true ∨
    isIgnored (dropBlanks (lineBefore u ++ lineAfter v)) = false
  even : continues (lineBefore u) = false
  next : ¬BeginsBlank (lineAfter v)

def folded (u b v : Text) : Text := (u ++ [backslash]) ++ 0x0A :: (b ++ v)

theorem cons_lineAfter (v : Text) : lineAfter v :: (naturalLines v).tail = naturalLines v := by
  obtain ⟨l, ls, hn⟩ := List.exists_cons_of_ne_nil (naturalLines_ne_nil v)
  rw [lineAfter, hn]
  rfl

theorem naturalLines_glue (h : ¬(u.getLast? = some 0x0D ∧ v.head? = some 0x0A)) :
    naturalLines (u ++ v) =
      (naturalLines u).dropLast ++ (lineBefore u ++ lineAfter v) :: (naturalLines v).tail := by
  have onward : ∀ {c : Nat} {r : Text}, ¬((c :: r).getLast? = some 0x0D ∧ v.head? = some 0x0A) →
      ¬(r.getLast? = some 0x0D ∧ v.head? = some 0x0A) := by
    intro c r h hr
    exact h ⟨by simp [List.getLast?_cons, hr.1], hr.2⟩
  -- A line end before the rest of the first text puts an empty line before its lines.
  have ended : ∀ r : Text, ([] :: naturalLines r).dropLast ++
      (([] :: naturalLines r).getLastD [] ++ lineAfter v) :: (naturalLines v).tail =
      [] :: ((naturalLines r).dropLast ++
        ((naturalLines r).getLastD [] ++ lineAfter v) :: (naturalLines v).tail) := by
    intro r
    rw [List.dropLast_cons_of_ne_nil (naturalLines_ne_nil r), List.getLastD_cons, List.cons_append]
  rw [lineBefore]
  fun_induction naturalLines u with
  | case1 => exact (cons_lineAfter v).symm
  | case2 r ih =>
    rw [ended, ← ih (onward h), List.cons_append, naturalLines.eq_def]
    simp
  | case3 =>
    have hv : v.head? ≠ some 0x0A := fun hv => h ⟨rfl, hv⟩
    have hlines : naturalLines (0x0D :: v) = [] :: naturalLines v := by
      cases v with
      | nil => rfl
      | cons d r =>
        have hd : d ≠ 0x0A := fun hd => hv (congrArg some hd)
        rw [naturalLines.eq_def]
        simp [hd]
    exact hlines.trans (congrArg ([] :: ·) (cons_lineAfter v).symm)
  | case4 r _ ih =>
    rw [ended, ← ih (onward (onward h)), List.cons_append, List.cons_append, naturalLines.eq_def]
    simp
  | case5 d r hd _ ih =>
    rw [ended, ← ih (onward h), List.cons_append, List.cons_append, naturalLines.eq_def]
    simp [hd]
  | case6 c r _ _ hn => exact absurd hn (naturalLines_ne_nil r)
  | case7 c r hl hr first rest hn ih =>
    have ih := ih (onward h)
    rw [hn] at ih
    rw [List.cons_append, naturalLines.eq_def]
    simp only [if_neg hl, if_neg hr, ih]
    cases rest <;> rfl

theorem naturalLines_blanks (blanks : ∀ c ∈ b, isBlank c = true) : naturalLines b = [b] := by
  induction b with
  | nil => rfl
  | cons c r ih =>
    have hc := blanks c List.mem_cons_self
    have hfeed : c ≠ 0x0A := by
      rintro rfl
      exact absurd hc (by decide)
    have hreturn : c ≠ 0x0D := by
      rintro rfl
      exact absurd hc (by decide)
    rw [naturalLines.eq_def]
    simp only [if_neg hfeed, if_neg hreturn, ih fun d hd => blanks d (List.mem_cons_of_mem c hd)]

theorem naturalLines_folded (u v : Text) (blanks : ∀ c ∈ b, isBlank c = true) :
    naturalLines (folded u b v) = (naturalLines u).dropLast ++
      (lineBefore u ++ [backslash]) :: (b ++ lineAfter v) :: (naturalLines v).tail := by
  have hlast : (u ++ [backslash]).getLast? ≠ some 0x0D := by simp [backslash]
  have hbefore : naturalLines (u ++ [backslash]) =
      (naturalLines u).dropLast ++ [lineBefore u ++ [backslash]] :=
    naturalLines_glue (by simp [backslash])
  have hafter : naturalLines (b ++ v) = (b ++ lineAfter v) :: (naturalLines v).tail := by
    have hb : b.getLast? ≠ some 0x0D := fun hb =>
      absurd (blanks _ (List.mem_of_getLast? hb)) (by decide)
    have hglue := @naturalLines_glue b v fun hboth => hb hboth.1
    rwa [lineBefore, naturalLines_blanks blanks] at hglue
  rw [folded, naturalLines_append hlast, hbefore, hafter, List.append_assoc,
    List.singleton_append]

/-! ## Joining what was folded -/

theorem dropBlanks_append (h : ¬BeginsBlank x) (a : Text) :
    dropBlanks (a ++ x) = dropBlanks a ++ x := by
  induction a with
  | nil =>
    cases x with
    | nil => rfl
    | cons c r =>
      have hc : ¬isBlank c = true := fun hc => h ⟨c, rfl, hc⟩
      exact List.dropWhile_cons_of_neg hc
  | cons c a ih =>
    rw [dropBlanks, List.cons_append, List.dropWhile_cons, dropBlanks, List.dropWhile_cons]
    split
    · exact ih
    · rfl

theorem dropBlanks_blanks (blanks : ∀ c ∈ b, isBlank c = true) : dropBlanks b = [] :=
  List.dropWhile_eq_nil_iff.2 blanks

theorem continues_dropBlanks (a : Text) : continues (dropBlanks a) = continues a := by
  have hblanks : continues (a.takeWhile isBlank) = false := by
    rcases List.eq_nil_or_concat (a.takeWhile isBlank) with hnil | ⟨l, c, hl⟩
    · rw [hnil]
      rfl
    · have hc : isBlank c = true := List.mem_takeWhile_imp (l := a) (by rw [hl]; simp)
      have hne : c ≠ backslash := by
        rintro rfl
        exact absurd hc (by decide)
      rw [hl, List.concat_eq_append, continues_concat]
      simp [hne]
  conv_rhs => rw [← List.takeWhile_append_dropWhile (p := isBlank) (l := a)]
  rw [continues_append hblanks]
  rfl

theorem not_beginsBlank_backslash : ¬BeginsBlank [backslash] := by
  rintro ⟨c, hc, hblank⟩
  cases hc
  exact absurd hblank (by decide)

/-- The backslash at the end of the one line and the blanks at the beginning of the other are what
joining takes away. -/
theorem joined_fold {l : Text} (hl : continues l = false) (even : continues a = false)
    (next : ¬BeginsBlank x) (blanks : ∀ c ∈ b, isBlank c = true) (ls : List Text) :
    joined (l ++ dropBlanks (a ++ [backslash])) ((b ++ x) :: ls) =
      joined (l ++ dropBlanks (a ++ x)) ls := by
  have hcontinues : continues (l ++ (dropBlanks a ++ [backslash])) = true := by
    rw [continues_append hl, continues_concat, continues_dropBlanks, even]
    rfl
  have hdrop : (l ++ (dropBlanks a ++ [backslash])).dropLast = l ++ dropBlanks a := by
    rw [← List.append_assoc, List.dropLast_concat]
  rw [dropBlanks_append not_beginsBlank_backslash, dropBlanks_append next, joined,
    if_pos hcontinues, hdrop, dropBlanks_append next, dropBlanks_blanks blanks, List.nil_append,
    List.append_assoc]

theorem joining_of_goesOn (h : ls.foldl goesOn false = true) :
    ∃ before first taken l, ls = before ++ first :: taken ∧ before.foldl goesOn false = false ∧
      isIgnored (dropBlanks first) = false ∧ continues l = true ∧
      ∀ rest, joined (dropBlanks first) (taken ++ rest) = joined l rest := by
  induction ls using List.reverseRecOn with
  | nil => cases h
  | append_singleton ls n ih =>
    rw [List.foldl_append, List.foldl_cons, List.foldl_nil] at h
    cases hls : ls.foldl goesOn false with
    | true =>
      obtain ⟨before, first, taken, l, rfl, houtside, hcounts, hl, hjoined⟩ := ih hls
      rw [hls, goesOn_inside] at h
      refine ⟨before, first, taken ++ [n], l.dropLast ++ dropBlanks n, by simp, houtside, hcounts,
        ?_, fun rest => ?_⟩
      · rw [continues_append (continues_dropLast hl), h]
      · rw [List.append_assoc, hjoined, List.singleton_append, joined, if_pos hl]
    | false =>
      rw [hls, goesOn, Bool.false_or, Bool.and_eq_true, Bool.not_eq_true'] at h
      exact ⟨ls, n, [], dropBlanks n, rfl, hls, h.1, h.2, fun _ => rfl⟩

/-! ## Logical lines -/

def foldedNumber (n k : Nat) : Nat := if n < k then k + 1 else k

theorem number_of_mem_logicalFrom {number : Nat} {k : Line} (h : k ∈ logicalFrom number ls) :
    number ≤ k.number ∧ k.number < number + ls.length := by
  fun_induction logicalFrom number ls with
  | case1 => cases h
  | case2 number first rest _ ih =>
    have hk := ih h
    rw [List.length_cons]
    omega
  | case3 number first rest _ ih =>
    rw [List.length_cons]
    rcases List.mem_cons.1 h with rfl | h
    · exact ⟨Nat.le_refl _, Nat.lt_add_of_pos_right (Nat.succ_pos _)⟩
    · have hk := ih h
      have hle := joined_rest_le (dropBlanks first) rest
      omega

theorem renumber_before {n number : Nat} (h : number + ls.length ≤ n + 1) :
    (logicalFrom number ls).map (Line.renumber (foldedNumber n)) = logicalFrom number ls := by
  refine (List.map_congr_left fun k hk => ?_).trans (List.map_id _)
  have hlt := (number_of_mem_logicalFrom hk).2
  rw [Line.renumber, foldedNumber, if_neg (by omega)]
  rfl

theorem renumber_after {n number : Nat} (h : n < number) (ls : List Text) :
    (logicalFrom number ls).map (Line.renumber (foldedNumber n)) = logicalFrom (number + 1) ls := by
  rw [logicalFrom_raise]
  refine List.map_congr_left fun k hk => ?_
  have hle := (number_of_mem_logicalFrom hk).1
  rw [Line.renumber, foldedNumber, if_pos (by omega)]
  rfl

theorem logicalFrom_refold {n k : Nat} {first first' : Text}
    (counts : isIgnored (dropBlanks first) = false)
    (counts' : isIgnored (dropBlanks first') = false)
    (hjoined : joined (dropBlanks first') ls' = joined (dropBlanks first) ls)
    (hlength : ls'.length = ls.length + 1) (hbegin : k ≤ n)
    (hend : n < k + 1 + (ls.length - (joined (dropBlanks first) ls).2.length)) :
    logicalFrom k (first' :: ls') =
      (logicalFrom k (first :: ls)).map (Line.renumber (foldedNumber n)) := by
  have hle := joined_rest_le (dropBlanks first) ls
  have hnumber : k + 1 + (ls'.length - (joined (dropBlanks first) ls).2.length) =
      k + 1 + (ls.length - (joined (dropBlanks first) ls).2.length) + 1 := by omega
  rw [logicalFrom, if_neg (Bool.eq_false_iff.1 counts'), hjoined, hnumber, logicalFrom,
    if_neg (Bool.eq_false_iff.1 counts), List.map_cons, renumber_after hend, Line.renumber,
    foldedNumber, if_neg (Nat.not_lt.2 hbegin)]

theorem counts_folded (counts : isIgnored (dropBlanks (a ++ x)) = false) (next : ¬BeginsBlank x) :
    isIgnored (dropBlanks (a ++ [backslash])) = false := by
  rw [dropBlanks_append next] at counts
  rw [dropBlanks_append not_beginsBlank_backslash]
  cases hd : dropBlanks a with
  | nil => rfl
  | cons c r =>
    rw [hd] at counts
    exact counts

theorem refold_beginning (outside : ls.foldl goesOn false = false)
    (counts : isIgnored (dropBlanks (a ++ x)) = false) (even : continues a = false)
    (next : ¬BeginsBlank x) (blanks : ∀ c ∈ b, isBlank c = true) (more : List Text) :
    logicalFrom 1 (ls ++ (a ++ [backslash]) :: (b ++ x) :: more) =
      (logicalFrom 1 (ls ++ (a ++ x) :: more)).map
        (Line.renumber (foldedNumber (ls.length + 1))) := by
  have hbefore : (logicalFrom 1 ls).map (Line.renumber (foldedNumber (ls.length + 1))) =
      logicalFrom 1 ls := renumber_before (by omega)
  have hrefold := logicalFrom_refold (n := ls.length + 1) (k := 1 + ls.length) counts
    (counts_folded counts next) (joined_fold continues_nil even next blanks more) rfl
    (by omega) (by omega)
  rw [logicalFrom_append 1 outside, logicalFrom_append 1 outside, List.map_append, hbefore, hrefold]

theorem refold_inside (inside : ls.foldl goesOn false = true) (even : continues a = false)
    (next : ¬BeginsBlank x) (blanks : ∀ c ∈ b, isBlank c = true) (more : List Text) :
    logicalFrom 1 (ls ++ (a ++ [backslash]) :: (b ++ x) :: more) =
      (logicalFrom 1 (ls ++ (a ++ x) :: more)).map
        (Line.renumber (foldedNumber (ls.length + 1))) := by
  obtain ⟨before, first, taken, l, rfl, outside, counts, hl, htaken⟩ := joining_of_goesOn inside
  have hfolded : joined (dropBlanks first)
      (taken ++ (a ++ [backslash]) :: (b ++ x) :: more) =
      joined (l.dropLast ++ dropBlanks (a ++ x)) more := by
    rw [htaken, joined, if_pos hl]
    exact joined_fold (continues_dropLast hl) even next blanks more
  have hwhole : joined (dropBlanks first) (taken ++ (a ++ x) :: more) =
      joined (l.dropLast ++ dropBlanks (a ++ x)) more := by
    rw [htaken, joined, if_pos hl]
  have hle := joined_rest_le (l.dropLast ++ dropBlanks (a ++ x)) more
  have hlength : (before ++ first :: taken).length = before.length + taken.length + 1 := by
    rw [List.length_append, List.length_cons, Nat.add_assoc]
  -- The joined lines reach past the one that is folded.
  have hend : before.length + taken.length + 1 + 1 < 1 + before.length + 1 +
      ((taken ++ (a ++ x) :: more).length -
        (joined (dropBlanks first) (taken ++ (a ++ x) :: more)).2.length) := by
    rw [hwhole, List.length_append, List.length_cons]
    omega
  have hbefore : (logicalFrom 1 before).map (Line.renumber
      (foldedNumber (before.length + taken.length + 1 + 1))) = logicalFrom 1 before :=
    renumber_before (by omega)
  have hrefold := logicalFrom_refold (n := before.length + taken.length + 1 + 1)
    (k := 1 + before.length) counts counts (hfolded.trans hwhole.symm)
    (by simp only [List.length_append, List.length_cons]; omega) (by omega) hend
  rw [hlength, List.append_assoc, List.append_assoc, List.cons_append, List.cons_append,
    logicalFrom_append 1 outside, logicalFrom_append 1 outside, List.map_append, hbefore, hrefold]

theorem logicalLines_folded (h : Foldable u v) (blanks : ∀ c ∈ b, isBlank c = true) :
    logicalLines (folded u b v) =
      (logicalLines (u ++ v)).map (Line.renumber (foldedNumber (naturalLines u).length)) := by
  have hlength : (naturalLines u).length = (naturalLines u).dropLast.length + 1 := by
    rw [List.length_dropLast, Nat.sub_add_cancel (List.length_pos_iff.2 (naturalLines_ne_nil u))]
  rw [logicalLines, logicalLines, naturalLines_folded u v blanks, naturalLines_glue h.inside,
    hlength]
  cases hgoes : (naturalLines u).dropLast.foldl goesOn false with
  | false =>
    have counts := h.belongs.resolve_left (Bool.eq_false_iff.1 hgoes)
    exact refold_beginning hgoes counts h.even h.next blanks _
  | true => exact refold_inside hgoes h.even h.next blanks _

/-! ## Entries -/

theorem read_folded (h : Foldable u v) (blanks : ∀ c ∈ b, isBlank c = true) :
    read (folded u b v) =
      (read (u ++ v)).mapError (Malformed.renumber (foldedNumber (naturalLines u).length)) := by
  rw [read, logicalLines_folded h blanks, readEntries_renumber]
  rfl

end Properties

namespace Access

open Properties

/-- Folding a line leaves the pairs as they are, and a malformed text malformed by the same line,
which has a number higher by one just where it begins after the place of folding. -/
theorem parseText_folded (source : Text) {u v b : Text} (h : Foldable u v)
    (blanks : ∀ c ∈ b, isBlank c = true) :
    (∀ m, parseText source (u ++ v) = .ok m → parseText source (folded u b v) = .ok m) ∧
    ∀ f, parseText source (u ++ v) = .error f →
      ∃ problem l, FirstMalformed (logicalLines (u ++ v)) l ∧
        f = .propertiesDecode problem source l.number ∧
        parseText source (folded u b v) = .error (.propertiesDecode problem source
          (if (naturalLines u).length < l.number then l.number + 1 else l.number)) := by
  have hread := read_folded h blanks
  refine ⟨fun m hm => ?_, fun f hf => ?_⟩
  · rw [parseText_ok_iff] at hm ⊢
    rw [hread, hm]
    rfl
  · obtain ⟨e, he, rfl⟩ := (parseText_error_iff source _ f).1 hf
    obtain ⟨l, hl, rfl⟩ := (readEntries_error_iff [] (logicalLines (u ++ v)) e).1 he
    refine ⟨_, l, hl, rfl, (parseText_error_iff source _ _).2 ⟨_, ?_, rfl⟩⟩
    rw [hread, he]
    rfl

theorem parseText_folded_key :
    parseText [] (folded (text "a\\\\") (text " \t") (text "#=1")) =
      .ok [(text "a\\#", text "1")] ∧
    parseText [] (folded (text "a") [] (text "b=1\nc=\\u0")) =
      .error (.propertiesDecode (text "Malformed \\uxxxx encoding.") [] 3) := by
  have hmark : Foldable (text "a\\\\") (text "#=1") :=
    ⟨by decide, .inr (by cbv), by cbv, by decide +kernel⟩
  have hkey : Foldable (text "a") (text "b=1\nc=\\u0") :=
    ⟨by decide, .inr (by cbv), by cbv, by decide +kernel⟩
  have hpairs : parseText [] (text "a\\\\" ++ text "#=1") = .ok [(text "a\\#", text "1")] := by
    cbv
  have hmalformed : parseText [] (text "a" ++ text "b=1\nc=\\u0") =
      .error (.propertiesDecode (text "Malformed \\uxxxx encoding.") [] 2) := by cbv
  have hlines : (naturalLines (text "a")).length = 1 := by cbv
  obtain ⟨problem, l, -, hf, hfolded⟩ :=
    (parseText_folded [] hkey (b := []) (by simp)).2 _ hmalformed
  obtain ⟨rfl, -, hnumber⟩ := Fault.propertiesDecode.inj hf
  rw [hlines, ← hnumber] at hfolded
  exact ⟨(parseText_folded [] hmark (by decide)).1 _ hpairs, hfolded⟩

end Access
end ResourceLookup
