import Mathlib
import ResourceLookup.Proofs.Properties.Concatenation
import ResourceLookup.Proofs.Properties.Written

/-!
# Where an empty key comes from

Whether a line is blank is asked of its first natural line only, before it is joined. A backslash
alone on a line counts there, and joining takes it away again, so that a line of which nothing is
left is still read, as an empty key with an empty value. An empty key has no other source than such
lines and lines that begin with a separator.
-/

namespace ResourceLookup.Properties

open OrderedMap (keys)

variable {l t : Text} {ls held after : List Text} {m m' : Properties}

/-! ## Lines of which nothing is left -/

/-- These natural lines have nothing but a backslash after their blanks, and the one that follows
them, where there is one, has nothing but blanks. -/
structure JoinToNothing (held after : List Text) : Prop where
  held : ∀ n ∈ held, dropBlanks n = [backslash]
  ends : ∀ n rest, after = n :: rest → dropBlanks n = []

theorem JoinToNothing.joined (h : JoinToNothing (l :: held) after) :
    joined (dropBlanks l) (held ++ after) = ([], after.tail) := by
  have hc : continues [backslash] = true := rfl
  have hl := h.held l List.mem_cons_self
  induction held generalizing l with
  | nil =>
    cases after with
    | nil =>
      rw [hl]
      rfl
    | cons n rest =>
      have hn := h.ends n rest rfl
      rw [hl, List.nil_append, Properties.joined]
      simp only [hc, if_true, hn]
      cases rest <;> rfl
  | cons n held ih =>
    have htail : JoinToNothing (n :: held) after :=
      ⟨fun k hk => h.held k (List.mem_cons_of_mem l hk), h.ends⟩
    rw [hl, List.cons_append, Properties.joined]
    simp only [hc, if_true]
    exact ih htail (htail.held n List.mem_cons_self)

theorem JoinToNothing.logicalFrom (h : JoinToNothing held after) (number : Nat) :
    logicalFrom number (held ++ after) =
      (if held = [] then [] else [⟨number, []⟩]) ++
        logicalFrom (number + held.length + 1) after.tail := by
  cases held with
  | nil =>
    cases after with
    | nil => simp [Properties.logicalFrom]
    | cons n rest =>
      have hn : isIgnored (dropBlanks n) := by rw [h.ends n rest rfl]; rfl
      simp [Properties.logicalFrom, hn]
  | cons l held =>
    have hl : isIgnored (dropBlanks l) = false := by
      rw [h.held l List.mem_cons_self]
      rfl
    rw [List.cons_append, Properties.logicalFrom, hl, h.joined]
    cases after with
    | nil => simp [Properties.logicalFrom]
    | cons n rest =>
      have hnumber : number + 1 + ((held ++ n :: rest).length - rest.length) =
          number + (l :: held).length + 1 := by
        simp only [List.length_append, List.length_cons]
        omega
      simp only [List.tail_cons, hnumber]
      rfl

theorem dropLast_append {a b : Text} (h : continues b) : (a ++ b).dropLast = a ++ b.dropLast := by
  have hb : b ≠ [] := by
    rintro rfl
    cases h
  rw [List.dropLast_append_of_ne_nil hb]

theorem joined_ne_nil {a : Text} (even : continues a = false) (ha : a ≠ []) (b : Text)
    (ls : List Text) : (joined (a ++ b) ls).1 ≠ [] := by
  have hne : ∀ b : Text, a ++ b ≠ [] := List.append_ne_nil_of_left_ne_nil ha
  induction ls generalizing b with
  | nil =>
    rw [joined, continues_append even]
    split
    · next hb =>
      rw [dropLast_append hb]
      exact hne b.dropLast
    · exact hne b
  | cons next rest ih =>
    rw [joined, continues_append even]
    split
    · next hb =>
      rw [dropLast_append hb, List.append_assoc]
      exact ih (b.dropLast ++ dropBlanks next)
    · exact hne b

theorem eq_backslash {l : Text} (h : continues l) (hl : l.dropLast = []) : l = [backslash] := by
  match l with
  | [] => cases h
  | [c] =>
    have hc := continues_concat [] c
    rw [List.nil_append, h, continues_nil] at hc
    simp only [Bool.not_false, Bool.and_true, true_eq_decide_iff] at hc
    rw [hc]
  | c :: d :: r => simp at hl

theorem joinToNothing_of_joined (counts : dropBlanks l ≠ [])
    (h : (joined (dropBlanks l) ls).1 = []) :
    ∃ held after, ls = held ++ after ∧ JoinToNothing (l :: held) after := by
  induction ls generalizing l with
  | nil =>
    rw [joined] at h
    split at h
    · next hc =>
      refine ⟨[], [], rfl, ⟨?_, by simp⟩⟩
      simpa using eq_backslash hc h
    · exact absurd h counts
  | cons next rest ih =>
    rw [joined] at h
    split at h
    · next hc =>
      -- What is left of the first line before the backslash would stay in all that is joined to it.
      by_cases hd : (dropBlanks l).dropLast = []
      · have hl := eq_backslash hc hd
        by_cases hnext : dropBlanks next = []
        · refine ⟨[], next :: rest, rfl, ⟨by simpa using hl, ?_⟩⟩
          rintro n rest' heq
          rw [← (List.cons.inj heq).1]
          exact hnext
        · rw [hd, List.nil_append] at h
          obtain ⟨held, after, rfl, hjoin⟩ := ih hnext h
          exact ⟨next :: held, after, rfl, ⟨List.forall_mem_cons.2 ⟨hl, hjoin.held⟩, hjoin.ends⟩⟩
      · exact absurd h (joined_ne_nil (continues_dropLast hc) hd _ rest)
    · exact absurd h counts

/-! ## Lines that begin outside of others -/

theorem goesOn_inside (l : Text) : goesOn true l = continues (dropBlanks l) := rfl

/-- Joining stops where a line does not go on, or at the end. -/
theorem joined_taken (l : Text) (ls : List Text) :
    ∃ taken, ls = taken ++ (joined l ls).2 ∧
      ((joined l ls).2 ≠ [] → taken.foldl goesOn (continues l) = false) := by
  induction ls generalizing l with
  | nil => exact ⟨[], rfl, fun h => absurd rfl h⟩
  | cons next rest ih =>
    rw [joined]
    split
    · next hc =>
      obtain ⟨taken, htaken, hstops⟩ := ih (l.dropLast ++ dropBlanks next)
      refine ⟨next :: taken, congrArg (next :: ·) htaken, fun h => ?_⟩
      have hstops := hstops h
      rw [continues_append (continues_dropLast hc), ← goesOn_inside] at hstops
      rw [List.foldl_cons, hc]
      exact hstops
    · next hc => exact ⟨[], rfl, fun _ => by simpa using hc⟩

theorem outside_of_mem_logicalFrom {number : Nat} {k : Line} (h : k ∈ logicalFrom number ls) :
    ∃ before first rest, ls = before ++ first :: rest ∧ before.foldl goesOn false = false ∧
      isIgnored (dropBlanks first) = false ∧ k.content = (joined (dropBlanks first) rest).1 := by
  fun_induction logicalFrom number ls with
  | case1 => simp at h
  | case2 number first rest ignored ih =>
    obtain ⟨before, first', rest', hls, houtside, hcounts, hcontent⟩ := ih h
    have hnot : goesOn false first = false := by simp [goesOn, ignored]
    refine ⟨first :: before, first', rest', congrArg (first :: ·) hls, ?_, hcounts, hcontent⟩
    rw [List.foldl_cons, hnot]
    exact houtside
  | case3 number first rest counts ih =>
    rcases List.mem_cons.1 h with rfl | h
    · exact ⟨[], first, rest, rfl, rfl, by simpa using counts, rfl⟩
    · obtain ⟨before, first', rest', hls, houtside, hcounts, hcontent⟩ := ih h
      obtain ⟨taken, htaken, hstops⟩ := joined_taken (dropBlanks first) rest
      have hstops := hstops (by rw [hls]; simp)
      have hgoes : goesOn false first = continues (dropBlanks first) := by simp [goesOn, counts]
      refine ⟨first :: (taken ++ before), first', rest', ?_, ?_, hcounts, hcontent⟩
      · rw [hls] at htaken
        rw [htaken, List.cons_append, List.append_assoc]
      · rw [List.foldl_cons, hgoes, List.foldl_append, hstops]
        exact houtside

/-! ## Keys -/

def BeginsBlank (t : Text) : Prop := ∃ c ∈ t.head?, isBlank c

instance (t : Text) : Decidable (BeginsBlank t) :=
  inferInstanceAs (Decidable (∃ c ∈ t.head?, isBlank c))

def BeginsWithSeparator (t : Text) : Prop := ∃ c ∈ t.head?, isSeparator c

theorem not_beginsBlank_dropBlanks (t : Text) : ¬BeginsBlank (dropBlanks t) := by
  rintro ⟨c, hc, hblank⟩
  have hhead := List.head?_dropWhile_not isBlank t
  rw [show (t.dropWhile isBlank).head? = some c from hc] at hhead
  exact absurd hblank (Bool.eq_false_iff.1 hhead)

theorem not_beginsBlank_dropLast (h : ¬BeginsBlank t) : ¬BeginsBlank t.dropLast := by
  rintro ⟨c, hc, hblank⟩
  rw [List.head?_dropLast] at hc
  split at hc
  · exact h ⟨c, hc, hblank⟩
  · cases hc

theorem not_beginsBlank_append {a b : Text} (ha : ¬BeginsBlank a) (hb : ¬BeginsBlank b) :
    ¬BeginsBlank (a ++ b) := by
  rintro ⟨c, hc, hblank⟩
  rw [List.head?_append] at hc
  cases a with
  | nil => exact hb ⟨c, hc, hblank⟩
  | cons d r => exact ha ⟨c, hc, hblank⟩

theorem joined_trim (h : ¬BeginsBlank l) (ls : List Text) :
    ¬BeginsBlank (joined l ls).1 ∧ continues (joined l ls).1 = false := by
  induction ls generalizing l with
  | nil =>
    rw [joined]
    split
    · next hc => exact ⟨not_beginsBlank_dropLast h, continues_dropLast hc⟩
    · next hc => exact ⟨h, by simpa using hc⟩
  | cons next rest ih =>
    rw [joined]
    split
    · exact ih (not_beginsBlank_append (not_beginsBlank_dropLast h)
        (not_beginsBlank_dropBlanks next))
    · next hc => exact ⟨h, by simpa using hc⟩

theorem joinPairs_eq_nil {t : Text} : Text.joinPairs t = [] ↔ t = [] := by
  fun_cases Text.joinPairs t <;> simp

theorem unescapeUnits_unit_ne_nil (r : Text) :
    unescapeUnits (backslash :: 0x75 :: r) ≠ some [] := by
  intro h
  rw [unescapeUnits.eq_def] at h
  rcases r with _ | ⟨a, _ | ⟨b, _ | ⟨x, _ | ⟨y, r⟩⟩⟩⟩
  iterate 4 cases h
  cases hq : hexQuad? a b x y <;> simp [hq] at h

theorem unescapeUnits_eq_nil {t : Text} (h : unescapeUnits t = some []) :
    t = [] ∨ t = [backslash] := by
  cases t with
  | nil => exact .inl rfl
  | cons c r =>
    by_cases hc : c = backslash
    · subst hc
      cases r with
      | nil => exact .inr rfl
      | cons e r =>
        by_cases he : e = 0x75
        · subst he
          exact absurd h (unescapeUnits_unit_ne_nil r)
        · rw [unescapeUnits_escape he] at h
          simp at h
    · rw [unescapeUnits_bare hc] at h
      simp at h

theorem unescape_eq_nil {t : Text} (h : unescape t = some []) : t = [] ∨ t = [backslash] := by
  obtain ⟨u, hu, hjoin⟩ := Option.map_eq_some_iff.1 h
  rw [joinPairs_eq_nil.1 hjoin] at hu
  exact unescapeUnits_eq_nil hu

theorem cutKey_escaped_eq_nil {t : Text} (h : (cutKey true t).1 = []) : t = [] := by
  cases t with
  | nil => rfl
  | cons c r => simp [cutKey] at h

theorem cutKey_eq_nil_iff {t : Text} :
    (cutKey false t).1 = [] ↔ t = [] ∨ BeginsWithSeparator t ∨ BeginsBlank t := by
  cases t with
  | nil => simp [cutKey]
  | cons c r =>
    have hhead : (BeginsWithSeparator (c :: r) ∨ BeginsBlank (c :: r)) ↔
        isSeparator c ∨ isBlank c := by
      simp [BeginsWithSeparator, BeginsBlank]
    rw [hhead]
    by_cases hc : c = backslash
    · subst hc
      have hplain : ¬(isSeparator backslash ∨ isBlank backslash) := by decide
      simp [cutKey, hplain]
    · by_cases hend : isSeparator c ∨ isBlank c
      · simp [cutKey, hc, hend]
      · simp [cutKey, hc, hend]

theorem eq_of_cutKey_backslash {t : Text} (h : (cutKey false t).1 = [backslash]) :
    t = [backslash] := by
  cases t with
  | nil => simp [cutKey] at h
  | cons c r =>
    by_cases hc : c = backslash
    · subst hc
      have hr : (cutKey true r).1 = [] := by simpa [cutKey] using h
      rw [cutKey_escaped_eq_nil hr]
    · by_cases hend : isSeparator c ∨ isBlank c
      · simp [cutKey, hc, hend] at h
      · simp [cutKey, hc, hend] at h

theorem unescape_cut_eq_nil_iff {t : Text} (trimmed : ¬BeginsBlank t)
    (even : continues t = false) :
    unescape (cut t).1 = some [] ↔ t = [] ∨ BeginsWithSeparator t := by
  constructor
  · intro h
    rcases unescape_eq_nil h with hkey | hkey
    · rcases cutKey_eq_nil_iff.1 hkey with ht | ht | ht
      · exact .inl ht
      · exact .inr ht
      · exact absurd ht trimmed
    · rw [eq_of_cutKey_backslash hkey] at even
      cases even
  · intro h
    have hkey : (cut t).1 = [] := cutKey_eq_nil_iff.2 (h.imp_right .inl)
    rw [hkey]
    rfl

/-! ## Entries -/

theorem mem_keys_readEntries {k : Text} {lines : List Line}
    (h : readEntries m lines = .ok m') :
    k ∈ keys m' ↔ k ∈ keys m ∨ ∃ line ∈ lines, unescape (cut line.content).1 = some k := by
  induction lines generalizing m with
  | nil =>
    cases h
    simp
  | cons line lines ih =>
    cases hk : unescape (cut line.content).1 with
    | none =>
      simp [readEntries, readEntry, hk] at h
    | some k' =>
      cases hv : unescape (cut line.content).2 with
      | none => simp [readEntries, readEntry, hk, hv] at h
      | some v =>
        have hput : readEntries (m.put k' v) lines = .ok m' := by
          simpa [readEntries, readEntry, hk, hv] using h
        rw [ih hput, OrderedMap.mem_keys_put]
        simp [hk, or_assoc, eq_comm]

theorem readEntry_nil (number : Nat) : readEntry ⟨number, []⟩ = .ok ([], []) := rfl

def HasBlankJoin (t : Text) : Prop :=
  ∃ before held after, naturalLines t = before ++ (held ++ after) ∧
    before.foldl goesOn false = false ∧ held ≠ [] ∧ JoinToNothing held after

theorem mem_logicalLines_of_blankJoin (h : HasBlankJoin t) :
    ∃ line ∈ logicalLines t, line.content = [] := by
  obtain ⟨before, held, after, hnatural, houtside, hheld, hjoin⟩ := h
  rw [logicalLines, hnatural, logicalFrom_append 1 houtside, hjoin.logicalFrom, if_neg hheld]
  exact ⟨⟨1 + before.length, []⟩, by simp, rfl⟩

theorem blankJoin_of_mem {line : Line} (h : line ∈ logicalLines t) (hline : line.content = []) :
    HasBlankJoin t := by
  obtain ⟨before, first, rest, hnatural, houtside, hcounts, hcontent⟩ :=
    outside_of_mem_logicalFrom h
  rw [hline] at hcontent
  have hfirst : dropBlanks first ≠ [] := by
    intro he
    rw [he] at hcounts
    cases hcounts
  obtain ⟨held, after, rfl, hjoin⟩ := joinToNothing_of_joined hfirst hcontent.symm
  exact ⟨before, first :: held, after, hnatural, houtside, by simp, hjoin⟩

/-- A text that is read has an empty key where a logical line begins with a separator, where a blank
line begins with a backslash, and nowhere else. A blank line that begins with a backslash gives an
empty key with an empty value, and one that does not gives nothing. -/
theorem emptyKey_iff (t : Text) :
    (∀ m, read t = .ok m →
      ([] ∈ keys m ↔
        (∃ line ∈ logicalLines t, BeginsWithSeparator line.content) ∨ HasBlankJoin t)) ∧
    ∀ before held after, naturalLines t = before ++ (held ++ after) →
      before.foldl goesOn false = false → JoinToNothing held after →
      read t = readEntries [] (logicalFrom 1 before) >>= fun m =>
        readEntries (if held = [] then m else m.put [] [])
          (logicalFrom (before.length + held.length + 2) after.tail) := by
  constructor
  · intro m h
    have hmem := mem_keys_readEntries (k := []) h
    constructor
    · intro hm
      rcases hmem.1 hm with hnone | ⟨line, hline, hkey⟩
      · cases hnone
      · obtain ⟨before, first, rest, -, -, -, hcontent⟩ := outside_of_mem_logicalFrom hline
        obtain ⟨trimmed, even⟩ := joined_trim (not_beginsBlank_dropBlanks first) rest
        rw [← hcontent] at trimmed even
        rcases (unescape_cut_eq_nil_iff trimmed even).1 hkey with hnil | hsep
        · exact .inr (blankJoin_of_mem hline hnil)
        · exact .inl ⟨line, hline, hsep⟩
    · rintro (⟨line, hline, hsep⟩ | hblank)
      · have hkey : (cut line.content).1 = [] := cutKey_eq_nil_iff.2 (.inr (.inl hsep))
        exact hmem.2 (.inr ⟨line, hline, by rw [hkey]; rfl⟩)
      · obtain ⟨line, hline, hnil⟩ := mem_logicalLines_of_blankJoin hblank
        exact hmem.2 (.inr ⟨line, hline, by rw [hnil]; rfl⟩)
  · intro before held after hnatural houtside hjoin
    have hnumber : 1 + before.length + held.length + 1 = before.length + held.length + 2 := by omega
    rw [read, logicalLines, hnatural, logicalFrom_append 1 houtside, hjoin.logicalFrom,
      readEntries_append, hnumber]
    congr 1
    funext m
    rw [readEntries_append]
    split
    · rfl
    · rw [readEntries, readEntry_nil]
      rfl

theorem emptyKey_iff_joined :
    ∃ m, read (text "a\n\\\n \\\n\t\nb") = .ok m ∧
      m = [(text "a", []), ([], []), (text "b", [])] ∧ [] ∈ keys m := by
  have hnatural : naturalLines (text "a\n\\\n \\\n\t\nb") =
      [text "a"] ++ ([text "\\", text " \\"] ++ [text "\t", text "b"]) := by cbv
  have houtside : [text "a"].foldl goesOn false = false := by cbv
  have hjoin : JoinToNothing [text "\\", text " \\"] [text "\t", text "b"] := by
    refine ⟨by decide, fun n rest hn => ?_⟩
    rw [← (List.cons.inj hn).1]
    decide
  obtain ⟨hkeys, hentries⟩ := emptyKey_iff (text "a\n\\\n \\\n\t\nb")
  have hread : read (text "a\n\\\n \\\n\t\nb") =
      .ok [(text "a", []), ([], []), (text "b", [])] := by
    rw [hentries _ _ _ hnatural houtside hjoin]
    cbv
  exact ⟨_, hread, rfl, (hkeys _ hread).2 (.inr ⟨_, _, _, hnatural, houtside, by simp, hjoin⟩)⟩

/-- A line that holds a backslash and a blank one after it. -/
theorem emptyKey_without_separator :
    ¬∀ t m, read t = .ok m → ¬EndsContinued t → [] ∈ keys m →
      ∃ line ∈ logicalLines t, BeginsWithSeparator line.content := by
  intro h
  have hread : read (text "\\\n\n") = .ok [([], [])] := by cbv
  have hlines : logicalLines (text "\\\n\n") = [⟨1, []⟩] := by cbv
  obtain ⟨line, hline, c, hc, -⟩ := h _ _ hread (by decide +kernel) (by decide)
  rw [hlines, List.mem_singleton] at hline
  subst hline
  cases hc

end ResourceLookup.Properties
