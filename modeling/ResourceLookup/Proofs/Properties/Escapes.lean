import Mathlib
import ResourceLookup.Proofs.Properties.EmptyKey

/-!
# Escapes in phase

Three scans go over a logical line: joining counts the backslashes at its end, cutting keeps whether
a backslash escapes the next character, and the reader of escapes walks through key and value piece
by piece. They agree with one scan of the whole line from left to right. So nothing of a line is
lost when it is cut, neither half ends in a backslash that escapes nothing, and in both halves the
backslashes are paired as they are in the line.
-/

namespace ResourceLookup.Properties

variable {s t u : Text}

/-! ## One scan from left to right -/

def scan (escaped : Bool) : Text → List (Nat × Bool)
  | [] => []
  | c :: r => (c, escaped) :: scan (c = backslash && !escaped) r

theorem length_scan (escaped : Bool) (t : Text) : (scan escaped t).length = t.length := by
  induction t generalizing escaped with
  | nil => rfl
  | cons c t ih => simp [scan, ih]

theorem scan_append (escaped : Bool) (s t : Text) :
    scan escaped (s ++ t) = scan escaped s ++ scan (leavesEscape escaped s) t := by
  induction s generalizing escaped with
  | nil => rfl
  | cons c s ih => simp [scan, leavesEscape, ih]

theorem leavesEscape_append (escaped : Bool) (s t : Text) :
    leavesEscape escaped (s ++ t) = leavesEscape (leavesEscape escaped s) t := by
  induction s generalizing escaped with
  | nil => rfl
  | cons c s ih => exact ih _

theorem leavesEscape_eq_continues (t : Text) : leavesEscape false t = continues t := by
  induction t using List.reverseRecOn with
  | nil => rfl
  | append_singleton t c ih =>
    rw [leavesEscape_append, continues_concat, ih]
    rfl

theorem leavesEscape_of_no_backslash (h : ∀ c ∈ t, c ≠ backslash) : leavesEscape false t = false := by
  induction t with
  | nil => rfl
  | cons c t ih =>
    have hc := h c List.mem_cons_self
    simp only [leavesEscape, hc, decide_false, Bool.false_and]
    exact ih fun d hd => h d (List.mem_cons_of_mem c hd)

/-! ## The pieces of escaped text -/

inductive Piece
  | bare (c : Nat)
  /-- A backslash and the character after it, which begins no number. -/
  | letter (e : Nat)
  | number (a b x y : Nat)
  /-- A backslash and `u` before fewer than four digits, where the reading stops. -/
  | malformed
  /-- A backslash with nothing after it. -/
  | lone
  deriving DecidableEq, Repr

namespace Piece

def units? : Piece → Option Text
  | bare c => some [c]
  | letter e => some [unescapeOne e]
  | number a b x y => (hexQuad? a b x y).map fun n => [n]
  | malformed => none
  | lone => some []

def marks : Piece → List (Nat × Bool)
  | bare c => [(c, false)]
  | letter e => [(backslash, false), (e, true)]
  | number a b x y =>
    [(backslash, false), (0x75, true), (a, false), (b, false), (x, false), (y, false)]
  | malformed => [(backslash, false), (0x75, true)]
  | lone => [(backslash, false)]

end Piece

def pieces : Text → List Piece
  | [] => []
  | c :: r =>
    if c = backslash then
      match r with
      | [] => [.lone]
      | e :: r' =>
        if e = 0x75 then
          match r' with
          | a :: b :: x :: y :: r'' =>
            if (hexQuad? a b x y).isSome then .number a b x y :: pieces r'' else [.malformed]
          | _ => [.malformed]
        else .letter e :: pieces r'
    else .bare c :: pieces r

def meaning? (ps : List Piece) : Option Text := (ps.mapM Piece.units?).map List.flatten

theorem meaning?_cons (p : Piece) (ps : List Piece) :
    meaning? (p :: ps) = p.units?.bind fun a => (meaning? ps).map (a ++ ·) := by
  simp only [meaning?, List.mapM_cons]
  cases p.units? <;> cases ps.mapM Piece.units? <;> simp

theorem pieces_bare {c : Nat} (hc : c ≠ backslash) (t : Text) :
    pieces (c :: t) = .bare c :: pieces t := by
  rw [pieces.eq_def]
  simp [hc]

theorem pieces_letter {e : Nat} (he : e ≠ 0x75) (t : Text) :
    pieces (backslash :: e :: t) = .letter e :: pieces t := by
  rw [pieces.eq_def]
  simp [he]

theorem pieces_short (h : t.length < 4) : pieces (backslash :: 0x75 :: t) = [.malformed] := by
  rw [pieces.eq_def]
  match t with
  | [] | [_] | [_, _] | [_, _, _] => rfl
  | a :: b :: x :: y :: r => simp at h; omega

theorem unescapeUnits_eq_meaning (t : Text) : unescapeUnits t = meaning? (pieces t) := by
  fun_induction unescapeUnits t with
  | case1 => rfl
  | case2 => rfl
  | case3 a b x y r ih =>
    simp only [pieces, if_true]
    cases hq : hexQuad? a b x y with
    | none => rfl
    | some n => simp [meaning?_cons, Piece.units?, hq, ih]
  | case4 t hshort =>
    rw [pieces_short (length_lt_four hshort)]
    rfl
  | case5 e t he ih => simp [pieces_letter he, meaning?_cons, Piece.units?, ih]
  | case6 c t hc ih => simp [pieces_bare hc, meaning?_cons, Piece.units?, ih]

theorem ne_backslash_of_hexQuad? {a b x y : Nat} (h : (hexQuad? a b x y).isSome) :
    a ≠ backslash ∧ b ≠ backslash ∧ x ≠ backslash ∧ y ≠ backslash := by
  rw [hexQuad?_isSome a b x y []] at h
  simp only [beginsWithDigits, Bool.and_true, Bool.and_eq_true] at h
  obtain ⟨ha, hb, hx, hy⟩ := h
  exact ⟨ne_backslash_of_hexDigit ha, ne_backslash_of_hexDigit hb, ne_backslash_of_hexDigit hx,
    ne_backslash_of_hexDigit hy⟩

/-- The reader takes for escaped what the scan does, as far as it reads. -/
theorem marks_scan (t : Text) :
    (pieces t).flatMap Piece.marks <+: scan false t ∧
      (.malformed ∉ pieces t → (pieces t).flatMap Piece.marks = scan false t) := by
  fun_induction pieces t with
  | case1 => simp [scan]
  | case2 => simp [scan, Piece.marks]
  | case3 a b x y r digits ih =>
    obtain ⟨ha, hb, hx, hy⟩ := ne_backslash_of_hexQuad? digits
    simpa [scan, Piece.marks, ha, hb, hx, hy] using ih
  | case4 a b x y r hdigits => simp [scan, Piece.marks]
  | case5 r hshort => simp [scan, Piece.marks]
  | case6 e r he ih => simpa [scan, Piece.marks] using ih
  | case7 c r hc ih => simpa [scan, Piece.marks, hc] using ih

theorem leavesEscape_of_lone (h : .lone ∈ pieces t) : leavesEscape false t = true := by
  fun_induction pieces t with
  | case1 => cases h
  | case2 => rfl
  | case3 a b x y r digits ih =>
    obtain ⟨ha, hb, hx, hy⟩ := ne_backslash_of_hexQuad? digits
    simpa [leavesEscape, ha, hb, hx, hy] using ih (by simpa using h)
  | case4 => simp at h
  | case5 => simp at h
  | case6 e r he ih => simpa [leavesEscape] using ih (by simpa using h)
  | case7 c r hc ih => simpa [leavesEscape, hc] using ih (by simpa using h)

/-! ## The key -/

def Unbroken (escaped : Bool) (t : Text) : Prop :=
  ∀ c, (c, false) ∈ scan escaped t → ¬isSeparator c ∧ ¬isBlank c

theorem unbroken_nil (escaped : Bool) : Unbroken escaped [] := fun c hc => by simp [scan] at hc

theorem unbroken_cons {escaped : Bool} {c : Nat} {t : Text} :
    Unbroken escaped (c :: t) ↔
      (escaped = false → ¬isSeparator c ∧ ¬isBlank c) ∧
        Unbroken (c = backslash && !escaped) t := by
  constructor
  · intro h
    refine ⟨fun he => h c ?_, fun d hd => h d (List.mem_cons_of_mem _ hd)⟩
    rw [he]
    exact List.mem_cons_self
  · rintro ⟨hc, ht⟩ d hd
    rcases List.mem_cons.1 hd with heq | hd
    · obtain ⟨rfl, he⟩ := Prod.mk.inj heq
      exact hc he.symm
    · exact ht d hd

structure IsLongestKey (escaped : Bool) (t k : Text) : Prop where
  isPrefix : k <+: t
  unbroken : Unbroken escaped k
  longest : ∀ p, p <+: t → Unbroken escaped p → p <+: k

theorem IsLongestKey.cons {escaped : Bool} {c : Nat} {r k : Text}
    (hc : escaped = false → ¬isSeparator c ∧ ¬isBlank c)
    (h : IsLongestKey (c = backslash && !escaped) r k) : IsLongestKey escaped (c :: r) (c :: k) where
  isPrefix := List.cons_prefix_cons.2 ⟨rfl, h.isPrefix⟩
  unbroken := unbroken_cons.2 ⟨hc, h.unbroken⟩
  longest p hp hunbroken := by
    rcases List.prefix_cons_iff.1 hp with rfl | ⟨q, rfl, hq⟩
    · exact List.nil_prefix
    · exact List.cons_prefix_cons.2 ⟨rfl, h.longest q hq (unbroken_cons.1 hunbroken).2⟩

theorem isLongestKey_cutKey (escaped : Bool) (t : Text) :
    IsLongestKey escaped t (cutKey escaped t).1 := by
  fun_induction cutKey escaped t with
  | case1 => exact ⟨List.nil_prefix, unbroken_nil _, fun p hp _ => hp⟩
  | case2 c r p ih => exact .cons (fun h => by simp at h) (by simpa using ih)
  | case3 escaped r he p ih =>
    exact .cons (fun _ => by decide) (by simpa [Bool.eq_false_iff.2 he] using ih)
  | case4 escaped c r he hc hends =>
    refine ⟨List.nil_prefix, unbroken_nil _, fun p hp hunbroken => ?_⟩
    rcases List.prefix_cons_iff.1 hp with rfl | ⟨q, rfl, -⟩
    · exact List.nil_prefix
    · obtain ⟨hsep, hblank⟩ := (unbroken_cons.1 hunbroken).1 (Bool.eq_false_iff.2 he)
      exact absurd hends (by simp [hsep, hblank])
  | case5 escaped c r he hc hends p ih =>
    exact .cons (fun _ => by simpa [not_or] using hends) (by simpa [hc] using ih)

theorem leavesEscape_cutKey {escaped : Bool} (h : (cutKey escaped t).2 ≠ []) :
    leavesEscape escaped (cutKey escaped t).1 = false := by
  fun_induction cutKey escaped t with
  | case1 => exact absurd rfl h
  | case2 c r p ih => simpa [leavesEscape] using ih h
  | case3 escaped r he p ih => simpa [leavesEscape, Bool.eq_false_iff.2 he] using ih h
  | case4 escaped c r he hc hends => exact Bool.eq_false_iff.2 he
  | case5 escaped c r he hc hends p ih => simpa [leavesEscape, hc] using ih h

/-! ## The separation -/

theorem not_separator_of_blank {c : Nat} (h : isBlank c) : isSeparator c = false := by
  simp only [isBlank, Bool.or_eq_true, decide_eq_true_eq] at h
  simp only [isSeparator, Bool.or_eq_false_iff, decide_eq_false_iff_not]
  omega

def Separates (separated : Bool) (s : Text) : Prop :=
  ∃ b m b', s = b ++ (m ++ b') ∧ (∀ c ∈ b, isBlank c) ∧ (∀ c ∈ b', isBlank c) ∧
    (m = [] ∨ separated = false ∧ ∃ c, isSeparator c ∧ m = [c])

theorem separates_nil (separated : Bool) : Separates separated [] :=
  ⟨[], [], [], rfl, nofun, nofun, .inl rfl⟩

theorem separates_cons {separated : Bool} {c : Nat} {s : Text} :
    Separates separated (c :: s) ↔
      (isBlank c ∧ Separates separated s) ∨
        (isSeparator c ∧ separated = false ∧ Separates true s) := by
  constructor
  · rintro ⟨b, m, b', heq, hb, hb', hm⟩
    cases b with
    | cons d b =>
      obtain ⟨rfl, rfl⟩ := List.cons.inj heq
      obtain ⟨hc, hb⟩ := List.forall_mem_cons.1 hb
      exact .inl ⟨hc, b, m, b', rfl, hb, hb', hm⟩
    | nil =>
      rcases hm with rfl | ⟨hs, d, hd, rfl⟩
      · rw [List.nil_append, List.nil_append] at heq
        obtain ⟨hc, hblanks⟩ := List.forall_mem_cons.1 (heq ▸ hb')
        exact .inl ⟨hc, [], [], s, rfl, nofun, hblanks, .inl rfl⟩
      · obtain ⟨rfl, rfl⟩ := List.cons.inj heq
        exact .inr ⟨hd, hs, [], [], s, rfl, nofun, hb', .inl rfl⟩
  · rintro (⟨hc, b, m, b', rfl, hb, hb', hm⟩ | ⟨hc, hs, b, m, b', rfl, hb, hb', hm⟩)
    · exact ⟨c :: b, m, b', rfl, List.forall_mem_cons.2 ⟨hc, hb⟩, hb', hm⟩
    · obtain rfl : m = [] := hm.resolve_right fun h => Bool.true_eq_false_eq_False h.1
      refine ⟨[], [c], b ++ b', rfl, nofun, fun d hd => ?_, .inr ⟨hs, c, hc, rfl⟩⟩
      exact (List.mem_append.1 hd).elim (hb d) (hb' d)

structure IsLongestSeparation (separated : Bool) (t s : Text) : Prop where
  isPrefix : s <+: t
  separates : Separates separated s
  longest : ∀ p, p <+: t → Separates separated p → p <+: s

theorem IsLongestSeparation.cons {separated next : Bool} {c : Nat} {r s : Text}
    (step : ∀ s, Separates separated (c :: s) ↔ Separates next s)
    (h : IsLongestSeparation next r s) : IsLongestSeparation separated (c :: r) (c :: s) where
  isPrefix := List.cons_prefix_cons.2 ⟨rfl, h.isPrefix⟩
  separates := (step s).2 h.separates
  longest p hp hseparates := by
    rcases List.prefix_cons_iff.1 hp with rfl | ⟨q, rfl, hq⟩
    · exact List.nil_prefix
    · exact List.cons_prefix_cons.2 ⟨rfl, h.longest q hq ((step q).1 hseparates)⟩

theorem skipSeparation_longest (separated : Bool) (t : Text) :
    ∃ s, t = s ++ skipSeparation separated t ∧ IsLongestSeparation separated t s := by
  fun_induction skipSeparation separated t with
  | case1 => exact ⟨[], rfl, List.nil_prefix, separates_nil _, fun p hp _ => hp⟩
  | case2 separated c r hb ih =>
    obtain ⟨s, hs, hlongest⟩ := ih
    refine ⟨c :: s, congrArg (c :: ·) hs, hlongest.cons fun s => ?_⟩
    simp [separates_cons, hb, not_separator_of_blank hb]
  | case3 separated c r hb hs ih =>
    obtain ⟨s, heq, hlongest⟩ := ih
    rw [Bool.and_eq_true, Bool.not_eq_true'] at hs
    refine ⟨c :: s, congrArg (c :: ·) heq, hlongest.cons fun s => ?_⟩
    simp [separates_cons, hb, hs]
  | case4 separated c r hb hs =>
    refine ⟨[], rfl, List.nil_prefix, separates_nil _, fun p hp hseparates => ?_⟩
    rcases List.prefix_cons_iff.1 hp with rfl | ⟨q, rfl, -⟩
    · exact List.nil_prefix
    · rw [Bool.and_eq_true, Bool.not_eq_true'] at hs
      rcases separates_cons.1 hseparates with ⟨hc, -⟩ | ⟨hc, hnot, -⟩
      · exact absurd hc hb
      · exact absurd ⟨hc, hnot⟩ hs

theorem Separates.ne_backslash {separated : Bool} (h : Separates separated s) :
    ∀ c ∈ s, c ≠ backslash := by
  obtain ⟨b, m, b', rfl, hb, hb', hm⟩ := h
  have hblank : ∀ {c}, isBlank c → c ≠ backslash := by
    rintro c hc rfl
    exact absurd hc (by decide)
  intro c hc
  rcases List.mem_append.1 hc with hc | hc
  · exact hblank (hb c hc)
  · rcases List.mem_append.1 hc with hc | hc
    · rcases hm with rfl | ⟨-, d, hd, rfl⟩
      · cases hc
      · rintro rfl
        rw [List.mem_singleton] at hc
        rw [← hc] at hd
        exact absurd hd (by decide)
    · exact hblank (hb' c hc)

/-! ## Lines -/

/-- The line is cut into these three without loss, as far out as can be, and neither half ends in a
backslash that escapes nothing. The reader of escapes takes no piece of a half for a lone backslash,
and as far as it reads it takes the same characters for escaped as the scan of the whole line. -/
structure InPhase (line key separation value : Text) : Prop where
  lossless : line = key ++ (separation ++ value)
  key_longest : IsLongestKey false line key
  separation_longest : IsLongestSeparation false (separation ++ value) separation
  key_even : continues key = false
  value_even : continues value = false
  key_whole : .lone ∉ pieces key
  value_whole : .lone ∉ pieces value
  key_marks : (pieces key).flatMap Piece.marks <+: scan false line
  value_marks : (pieces value).flatMap Piece.marks <+:
    (scan false line).drop (key ++ separation).length
  value_paired : .malformed ∉ pieces value →
    (pieces value).flatMap Piece.marks = (scan false line).drop (key ++ separation).length

theorem leavesEscape_separation {line sep : Text} (rest : (cutKey false line).2 ≠ [])
    (separates : Separates false sep) :
    leavesEscape false ((cutKey false line).1 ++ sep) = false := by
  rw [leavesEscape_append, leavesEscape_cutKey rest]
  exact leavesEscape_of_no_backslash separates.ne_backslash

theorem not_lone_of_even (even : continues t = false) : .lone ∉ pieces t := by
  intro h
  rw [← leavesEscape_eq_continues, leavesEscape_of_lone h] at even
  cases even

/-- The value is scanned as it is in the line, and both halves end where nothing is escaped. -/
theorem scan_cut {line sep : Text} (even : continues line = false)
    (lossless : (cutKey false line).2 = sep ++ (cut line).2) (separates : Separates false sep) :
    (scan false line).drop ((cut line).1 ++ sep).length = scan false (cut line).2 ∧
      continues (cut line).1 = false ∧ continues (cut line).2 = false := by
  have hline : line = ((cut line).1 ++ sep) ++ (cut line).2 := by
    conv_lhs => rw [← cutKey_append_rest false line, lossless]
    rw [List.append_assoc]
    rfl
  by_cases hrest : (cutKey false line).2 = []
  · -- The key is the whole line.
    obtain ⟨hsep, hvalue⟩ := List.append_eq_nil_iff.1 (lossless.symm.trans hrest)
    rw [hsep, hvalue, List.append_nil, List.append_nil] at hline
    rw [hsep, hvalue, List.append_nil, ← hline, ← length_scan false line, List.drop_length]
    exact ⟨rfl, even, rfl⟩
  · have hkey : leavesEscape false (cut line).1 = false := leavesEscape_cutKey hrest
    have hbefore : leavesEscape false ((cut line).1 ++ sep) = false :=
      leavesEscape_separation hrest separates
    have hscan : scan false line =
        scan false ((cut line).1 ++ sep) ++ scan false (cut line).2 := by
      conv_lhs => rw [hline, scan_append, hbefore]
    have hvalue : leavesEscape false (cut line).2 = false := by
      rw [← leavesEscape_eq_continues, hline, leavesEscape_append, hbefore] at even
      exact even
    refine ⟨?_, ?_, ?_⟩
    · rw [hscan, ← length_scan false ((cut line).1 ++ sep), List.drop_left]
    · rw [← leavesEscape_eq_continues, hkey]
    · rw [← leavesEscape_eq_continues, hvalue]

theorem inPhase_cut {line : Text} (even : continues line = false) :
    ∃ sep, InPhase line (cut line).1 sep (cut line).2 := by
  obtain ⟨sep, hrest, hlongest⟩ := skipSeparation_longest false (cutKey false line).2
  obtain ⟨hscan, hkey, hvalue⟩ := scan_cut even hrest hlongest.separates
  obtain ⟨hstart, hpaired⟩ := marks_scan (cut line).2
  have hbegin : scan false (cut line).1 <+: scan false line := by
    conv_rhs => rw [← cutKey_append_rest false line, scan_append]
    exact List.prefix_append _ _
  refine ⟨sep, ?_, isLongestKey_cutKey false line, ?_, hkey, hvalue, not_lone_of_even hkey,
    not_lone_of_even hvalue, (marks_scan (cut line).1).1.trans hbegin, ?_, ?_⟩
  · conv_lhs => rw [← cutKey_append_rest false line, hrest]
    rfl
  · exact hrest ▸ hlongest
  · rwa [hscan]
  · rwa [hscan]

theorem continues_of_mem_logicalLines {l : Line} (h : l ∈ logicalLines t) :
    continues l.content = false := by
  obtain ⟨before, first, rest, -, -, -, hcontent⟩ := outside_of_mem_logicalFrom h
  rw [hcontent]
  exact (joined_trim (not_beginsBlank_dropBlanks first) rest).2

/-- The reader of escapes reads a text piece by piece, and each logical line of a text is cut in
phase: without loss, the key as far as no unescaped character ends it and the separation as far as
it goes, so that no half ends in a backslash that escapes nothing and the backslashes of the value
are paired as they are in the line. -/
theorem lines_cut_in_phase (t : Text) :
    (∀ u, unescapeUnits u = meaning? (pieces u)) ∧
      ∀ l ∈ logicalLines t, ∃ sep, InPhase l.content (cut l.content).1 sep (cut l.content).2 :=
  ⟨unescapeUnits_eq_meaning, fun _ hl => inPhase_cut (continues_of_mem_logicalLines hl)⟩

theorem lines_cut_in_phase_joined :
    ⟨1, text "a\\=b\\\\ : c\\:d\\u0041\\\\"⟩ ∈
        logicalLines (text "a\\=b\\\\ : c\\:\\\n  d\\u0041\\\\") ∧
      InPhase (text "a\\=b\\\\ : c\\:d\\u0041\\\\") (text "a\\=b\\\\") (text " : ")
        (text "c\\:d\\u0041\\\\") := by
  have hlines : logicalLines (text "a\\=b\\\\ : c\\:\\\n  d\\u0041\\\\") =
      [⟨1, text "a\\=b\\\\ : c\\:d\\u0041\\\\"⟩] := by cbv
  have hmem : ⟨1, text "a\\=b\\\\ : c\\:d\\u0041\\\\"⟩ ∈
      logicalLines (text "a\\=b\\\\ : c\\:\\\n  d\\u0041\\\\") := by
    rw [hlines]
    exact List.mem_singleton_self _
  have hcut : cut (text "a\\=b\\\\ : c\\:d\\u0041\\\\") =
      (text "a\\=b\\\\", text "c\\:d\\u0041\\\\") := by cbv
  obtain ⟨sep, h⟩ := (lines_cut_in_phase _).2 _ hmem
  rw [hcut] at h
  obtain rfl : sep = text " : " := by
    have hlossless : text "a\\=b\\\\" ++ (text " : " ++ text "c\\:d\\u0041\\\\") =
        text "a\\=b\\\\" ++ (sep ++ text "c\\:d\\u0041\\\\") := h.lossless
    exact (List.append_cancel_right (List.append_cancel_left hlossless)).symm
  exact ⟨hmem, h⟩

end ResourceLookup.Properties
