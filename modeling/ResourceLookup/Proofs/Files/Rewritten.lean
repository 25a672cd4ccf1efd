import Mathlib.Data.List.Flatten
import ResourceLookup.Proofs.Files.Settling

/-!
# Paths that are read and written again

Reading a path drops names that lead nowhere. What is written again has fewer code points, in the
same order, so that it is no longer for the file system than before and has no character that it
does not take. Where the path leads, it leads too.
-/

namespace ResourceLookup

open ResourceLookup.Path ResourceLookup.Text

/-! ## Fewer code points -/

namespace Text

variable {ps qs : List Text}

theorem joinWith_sublist (sep : Text) (h : ps.Sublist qs) :
    (joinWith sep ps).Sublist (joinWith sep qs) := by
  induction h with
  | slnil => exact List.Sublist.refl _
  | @cons ps qs q h ih =>
    cases qs with
    | nil =>
      rw [List.sublist_nil.1 h]
      exact List.nil_sublist _
    | cons r rs =>
      rw [joinWith_cons_ne_nil sep q (List.cons_ne_nil r rs)]
      exact ih.trans (List.sublist_append_right _ _)
  | @cons_cons ps qs q h ih =>
    cases ps with
    | nil =>
      cases qs with
      | nil => exact List.Sublist.refl _
      | cons r rs =>
        rw [joinWith_cons_ne_nil sep q (List.cons_ne_nil r rs), List.append_assoc]
        exact List.sublist_append_left _ _
    | cons p ps =>
      have hqs : qs ≠ [] := by
        rintro rfl
        cases h
      rw [joinWith_cons_ne_nil sep q (List.cons_ne_nil p ps), joinWith_cons_ne_nil sep q hqs]
      exact ih.append_left _

end Text

namespace Utf8

theorem encodeName?_of_sublist {a b : Text} {bs : Octets} (h : a.Sublist b)
    (hb : encodeName? b = .ok bs) : ∃ as, encodeName? a = .ok as ∧ as.length ≤ bs.length := by
  rw [encodeName?] at hb ⊢
  simp only at hb ⊢
  split at hb
  · cases hb
  · next hany =>
    have hnone : ¬a.any (fun c => isSurrogate c && !(0xDC80 ≤ c && c ≤ 0xDCFF)) = true := by
      rw [List.any_eq_true] at hany ⊢
      rintro ⟨c, hc, hstray⟩
      exact hany ⟨c, h.subset hc, hstray⟩
    rw [if_neg hnone]
    cases hb
    exact ⟨_, rfl, (h.flatMap _).length_le⟩

end Utf8

namespace Path

variable {t : Text}

theorem partsOf_slash (t : Text) : partsOf (slash :: t) = partsOf t := by
  rw [partsOf, splitOn, if_pos rfl]
  rfl

theorem joinWith_partsOf_sublist (t : Text) : (joinWith [slash] (partsOf t)).Sublist t := by
  have h := joinWith_sublist [slash] (List.filter_sublist (p := fun p : Text =>
    !(p.isEmpty || p == dot)) (l := splitOn slash t))
  rwa [joinWith_splitOn] at h

theorem anchor_cases (t : Text) :
    (anchorOf t = .none ∧ t.head? ≠ some slash) ∨ (anchorOf t = .root ∧ ∃ r, t = slash :: r) ∨
      (anchorOf t = .doubleRoot ∧ ∃ r, t = slash :: slash :: r) := by
  fun_cases anchorOf t with
  | case1 r => exact .inr (.inl ⟨rfl, _, rfl⟩)
  | case2 r => exact .inr (.inr ⟨rfl, r, rfl⟩)
  | case3 r => exact .inr (.inl ⟨rfl, r, rfl⟩)
  | case4 t _ _ other =>
    refine .inl ⟨rfl, fun h => ?_⟩
    obtain ⟨r, rfl⟩ := List.head?_eq_some_iff.1 h
    exact other r rfl

theorem dot_sublist (ht : t ≠ []) (head : t.head? ≠ some slash) (h : partsOf t = []) :
    dot.Sublist t := by
  obtain ⟨c, r, rfl⟩ := List.exists_cons_of_ne_nil ht
  have hc : c ≠ slash := fun hc => head (congrArg some hc)
  obtain ⟨p, ps, hsplit⟩ := List.exists_cons_of_ne_nil (splitOn_ne_nil slash r)
  have hfirst : c :: p ∈ splitOn slash (c :: r) := by
    rw [splitOn, if_neg hc, hsplit]
    exact List.mem_cons_self
  have hdot : c :: p = dot := by
    refine Classical.byContradiction fun hne => ?_
    have hmem := mem_partsOf.2 ⟨hfirst, List.cons_ne_nil c p, hne⟩
    rw [h] at hmem
    cases hmem
  obtain ⟨rfl, rfl⟩ := List.cons.inj hdot
  exact (List.nil_sublist r).cons_cons _

theorem toText_ofText_sublist (ht : t ≠ []) : (ofText t).toText.Sublist t := by
  have hparts := joinWith_partsOf_sublist t
  rw [toText, ofText]
  rcases anchor_cases t with ⟨ha, head⟩ | ⟨ha, r, rfl⟩ | ⟨ha, r, rfl⟩
  · split
    · next h => exact dot_sublist ht head h.2
    · rw [ha]
      exact hparts
  · rw [if_neg (by simp [ha]), ha, partsOf_slash]
    exact (joinWith_partsOf_sublist r).cons_cons _
  · rw [if_neg (by simp [ha]), ha, partsOf_slash, partsOf_slash]
    exact ((joinWith_partsOf_sublist r).cons_cons _).cons_cons _

end Path

/-! ## The same way -/

namespace FileTree

variable {t : FileTree} {cwd : Location} {names names' : List Text} {path : Text}

inductive LeavesOut : List Text → List Text → Prop
  | nil : LeavesOut [] []
  | keep (n : Text) {names names' : List Text} (rest : LeavesOut names names') :
    LeavesOut (n :: names) (n :: names')
  | drop {n : Text} {names names' : List Text} (blank : n = [] ∨ n = dot)
    (rest : LeavesOut names names') : LeavesOut (n :: names) names'

theorem LeavesOut.append (before : List Text) (h : LeavesOut names names') :
    LeavesOut (before ++ names) (before ++ names') := by
  induction before with
  | nil => exact h
  | cons n before ih => exact .keep n ih

theorem leavesOut_filter (names : List Text) :
    LeavesOut names (names.filter fun n => !(n.isEmpty || n == dot)) := by
  induction names with
  | nil => exact .nil
  | cons n names ih =>
    by_cases blank : n = [] ∨ n = dot
    · rw [List.filter_cons_of_neg (by simpa [or_iff_not_imp_left] using blank)]
      exact .drop blank ih
    · rw [List.filter_cons_of_pos (by simpa using not_or.1 blank)]
      exact .keep n ih

/-- A walk that succeeds is not changed by leaving out names that do not count. -/
theorem walk_of_leavesOut {links : Nat} {place : Location} {entry : Entry} {r : Location × Entry}
    (leaves : LeavesOut names names') (h : t.walk links place entry names = .ok r) :
    t.walk links place entry names' = .ok r := by
  fun_induction walk t links place entry names generalizing names' with
  | case1 links place entry =>
    cases leaves
    rw [walk, h]
  | case2 | case5 | case6 | case7 => cases h
  | case3 links place entry n rest isDirectory blank ih =>
    cases leaves with
    | keep _ leaves =>
      rw [walk.eq_def]
      simp only [if_neg isDirectory, if_pos blank]
      exact ih leaves h
    | drop _ leaves => exact ih leaves h
  | case4 links place entry rest isDirectory blank ih =>
    cases leaves with
    | keep _ leaves =>
      rw [walk.eq_def]
      simp only [if_neg isDirectory, if_neg blank, ↓reduceIte]
      exact ih leaves h
    | drop blank' => exact absurd blank' blank
  | case8 place entry n rest isDirectory blank dots long target k found ih =>
    cases leaves with
    | keep _ leaves =>
      rw [walk.eq_def]
      simp only [if_neg isDirectory, if_neg blank, if_neg dots, if_neg long, found]
      exact ih (leaves.append _) h
    | drop blank' => exact absurd blank' blank
  | case9 place entry n rest isDirectory blank dots long e links plain plain' found ih =>
    cases leaves with
    | keep _ leaves =>
      rw [walk.eq_def]
      simp only [if_neg isDirectory, if_neg blank, if_neg dots, if_neg long, found]
      exact ih leaves h
    | drop blank' => exact absurd blank' blank

theorem isTooLongPath_of_sublist {a b : Text} (h : a.Sublist b) (nameable : isNameable b = true)
    (short : isTooLongPath b = false) : isTooLongPath a = false := by
  rw [isNameable, Bool.and_eq_true] at nameable
  rw [isTooLongPath] at short ⊢
  cases hb : Utf8.encodeName? b with
  | error u => simp [hb] at nameable
  | ok bs =>
    obtain ⟨as, ha, hle⟩ := Utf8.encodeName?_of_sublist h hb
    simp only [hb, decide_eq_false_iff_not, Nat.not_le] at short
    simp only [ha, decide_eq_false_iff_not, Nat.not_le]
    exact Nat.lt_of_le_of_lt hle short

theorem isNameable_of_sublist {a b : Text} (h : a.Sublist b) (nameable : isNameable b = true) :
    isNameable a = true := by
  rw [isNameable, Bool.and_eq_true] at nameable ⊢
  obtain ⟨nonull, encodes⟩ := nameable
  constructor
  · rw [Bool.not_eq_true', ← Bool.not_eq_true, List.contains_iff_mem] at nonull ⊢
    exact fun hnull => nonull (h.subset hnull)
  · cases hb : Utf8.encodeName? b with
    | error u => simp [hb] at encodes
    | ok bs =>
      obtain ⟨as, ha, -⟩ := Utf8.encodeName?_of_sublist h hb
      rw [ha]

theorem isNameable_of_lookup {r : Location × Entry} (h : t.lookup cwd path = .ok (some r)) :
    isNameable path = true := by
  rw [← Bool.not_eq_false]
  intro hname
  rw [lookup, if_pos hname] at h
  cases h

/-- What is found at a path is found at the path written again. -/
theorem lookup_toText_ofText {r : Location × Entry} (h : t.lookup cwd path = .ok (some r)) :
    t.lookup cwd (ofText path).toText = .ok (some r) := by
  have nameable := isNameable_of_lookup h
  have hlocate := locate_of_lookup h
  rw [locate] at hlocate
  split at hlocate
  · cases hlocate
  · next hne =>
    split at hlocate
    · cases hlocate
    · next hshort =>
      have hsublist := toText_ofText_sublist hne
      have hshort' := isTooLongPath_of_sublist hsublist nameable (Bool.not_eq_true _ ▸ hshort)
      refine lookup_of_locate (isNameable_of_sublist hsublist nameable) ?_
      rw [locate_toText (ofText_normal path), if_neg (Bool.not_eq_true _ ▸ hshort')]
      exact walk_of_leavesOut (leavesOut_filter _) hlocate

end FileTree
end ResourceLookup
