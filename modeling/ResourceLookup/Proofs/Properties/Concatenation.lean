import Mathlib
import ResourceLookup.Access
import ResourceLookup.Proofs.Properties.MalformedNumber

/-!
# Reading one text after another

A text ends inside a continuation where its last natural line would go on in one that is not
there. A text that does not can be followed, after a line feed, by any other: the logical lines
of the two are those of the first and then those of the second, with their numbers raised by the
number of natural lines of the first. So the second is read into what the first was read to.
-/

namespace ResourceLookup
namespace Properties

/-! ## Natural lines -/

theorem naturalLines_append {t : Text} (h : t.getLast? ≠ some 0x0D) (u : Text) :
    naturalLines (t ++ 0x0A :: u) = naturalLines t ++ naturalLines u := by
  fun_induction naturalLines t with
  | case1 =>
    rw [List.nil_append, naturalLines.eq_def]
    rfl
  | case2 r ih =>
    have hr : r.getLast? ≠ some 0x0D := fun hr => h (by simp [List.getLast?_cons, hr])
    rw [List.cons_append, naturalLines.eq_def]
    simp [ih hr]
  | case3 => exact absurd rfl h
  | case4 r _ ih =>
    have hr : r.getLast? ≠ some 0x0D := fun hr => h (by simp [List.getLast?_cons, hr])
    rw [List.cons_append, naturalLines.eq_def]
    simp [ih hr]
  | case5 d r hd _ ih =>
    have hr : (d :: r).getLast? ≠ some 0x0D := by rwa [List.getLast?_cons_cons] at h
    have ih := ih hr
    rw [List.cons_append] at ih
    rw [List.cons_append, List.cons_append, naturalLines.eq_def]
    simp [hd, ih]
  | case6 c r _ _ hn => exact absurd hn (naturalLines_ne_nil r)
  | case7 c r hl hr first rest hn ih =>
    have hlast : r.getLast? ≠ some 0x0D := fun hr => h (by simp [List.getLast?_cons, hr])
    have ih := ih hlast
    rw [hn, List.cons_append] at ih
    rw [List.cons_append, naturalLines.eq_def]
    simp [hl, hr, ih]

def goesOn (inside : Bool) (l : Text) : Bool :=
  (inside || !isIgnored (dropBlanks l)) && continues (dropBlanks l)

def EndsContinued (t : Text) : Prop := (naturalLines t).foldl goesOn false = true

instance (t : Text) : Decidable (EndsContinued t) := inferInstanceAs (Decidable (_ = true))

theorem continues_append {l : Text} (even : continues l = false) (t : Text) :
    continues (l ++ t) = continues t := by
  induction t using List.reverseRecOn with
  | nil => simp [even, continues_nil]
  | append_singleton t c ih =>
    rw [← List.append_assoc, continues_concat, continues_concat, ih]

/-! ## Logical lines -/

theorem joined_append {l : Text} {ls : List Text} (h : ls.foldl goesOn (continues l) = false)
    (more : List Text) :
    joined l (ls ++ more) = ((joined l ls).1, (joined l ls).2 ++ more) ∧
      (joined l ls).2.foldl goesOn false = false := by
  induction ls generalizing l with
  | nil =>
    have hl : continues l = false := h
    cases more <;> simp [joined, hl]
  | cons next rest ih =>
    rw [List.foldl_cons] at h
    rw [List.cons_append, joined, joined]
    cases hl : continues l with
    | false =>
      rw [hl] at h
      exact ⟨rfl, by simpa using h⟩
    | true =>
      have hnext : continues (l.dropLast ++ dropBlanks next) = goesOn (continues l) next := by
        rw [continues_append (continues_dropLast hl), hl, goesOn, Bool.true_or, Bool.true_and]
      simp only [↓reduceIte]
      exact ih (by rwa [hnext])

theorem logicalFrom_append (number : Nat) {ls : List Text} (h : ls.foldl goesOn false = false)
    (more : List Text) :
    logicalFrom number (ls ++ more) =
      logicalFrom number ls ++ logicalFrom (number + ls.length) more := by
  fun_induction logicalFrom number ls with
  | case1 number => simp
  | case2 number l ls hl ih =>
    have hnot : goesOn false l = false := by simp [goesOn, hl]
    rw [List.foldl_cons, hnot] at h
    rw [List.cons_append, logicalFrom, if_pos hl, ih h, List.length_cons, Nat.add_right_comm,
      Nat.add_assoc]
  | case3 number l ls hl ih =>
    have hgoes : goesOn false l = continues (dropBlanks l) := by simp [goesOn, hl]
    rw [List.foldl_cons, hgoes] at h
    obtain ⟨hjoined, hrest⟩ := joined_append h more
    have hle := joined_rest_le (dropBlanks l) ls
    have hskip : (ls ++ more).length - ((joined (dropBlanks l) ls).2 ++ more).length =
        ls.length - (joined (dropBlanks l) ls).2.length := by
      simp only [List.length_append]
      omega
    have hnumber : number + 1 + (ls.length - (joined (dropBlanks l) ls).2.length) +
        (joined (dropBlanks l) ls).2.length = number + (l :: ls).length := by
      rw [List.length_cons]
      omega
    rw [List.cons_append, logicalFrom, if_neg hl, hjoined, hskip, ih hrest, hnumber,
      List.cons_append]

def Line.raise (k : Nat) (l : Line) : Line := { l with number := l.number + k }

theorem logicalFrom_raise (k number : Nat) (ls : List Text) :
    logicalFrom (number + k) ls = (logicalFrom number ls).map (Line.raise k) := by
  fun_induction logicalFrom number ls with
  | case1 number => simp [logicalFrom]
  | case2 number l ls hl ih =>
    rw [logicalFrom, if_pos hl, Nat.add_right_comm, ih]
  | case3 number l ls hl ih =>
    rw [logicalFrom, if_neg hl, List.map_cons, ← ih, Line.raise]
    congr 2
    omega

theorem logicalLines_append {t : Text} (hlast : t.getLast? ≠ some 0x0D) (hend : ¬EndsContinued t)
    (u : Text) :
    logicalLines (t ++ 0x0A :: u) =
      logicalLines t ++ (logicalLines u).map (Line.raise (naturalLines t).length) := by
  rw [logicalLines, naturalLines_append hlast, logicalFrom_append 1 (Bool.eq_false_iff.2 hend),
    logicalFrom_raise]
  rfl

/-! ## Entries -/

def Malformed.raise (k : Nat) (e : Malformed) : Malformed := ⟨e.line + k⟩

def Line.renumber (g : Nat → Nat) (l : Line) : Line := { l with number := g l.number }

def Malformed.renumber (g : Nat → Nat) (e : Malformed) : Malformed := ⟨g e.line⟩

theorem readEntry_renumber (g : Nat → Nat) (l : Line) :
    readEntry (l.renumber g) = (readEntry l).mapError (Malformed.renumber g) := by
  rw [readEntry, readEntry]
  simp only [Line.renumber]
  split <;> rfl

theorem readEntries_renumber (g : Nat → Nat) (m : Properties) (ls : List Line) :
    readEntries m (ls.map (Line.renumber g)) =
      (readEntries m ls).mapError (Malformed.renumber g) := by
  induction ls generalizing m with
  | nil => rfl
  | cons l ls ih =>
    rw [List.map_cons, readEntries, readEntries, readEntry_renumber]
    cases readEntry l with
    | ok p => exact ih (m.put p.1 p.2)
    | error e => rfl

theorem readEntries_raise (k : Nat) (m : Properties) (ls : List Line) :
    readEntries m (ls.map (Line.raise k)) = (readEntries m ls).mapError (Malformed.raise k) :=
  readEntries_renumber (· + k) m ls

theorem readEntries_append (m : Properties) (ls more : List Line) :
    readEntries m (ls ++ more) = readEntries m ls >>= fun m' => readEntries m' more := by
  induction ls generalizing m with
  | nil => rfl
  | cons l ls ih =>
    rw [List.cons_append, readEntries, readEntries]
    cases readEntry l with
    | ok p => exact ih (m.put p.1 p.2)
    | error e => rfl

theorem readEntries_putAll (m : Properties) {q : Properties} (distinct : (OrderedMap.keys q).Nodup)
    (ls : List Line) :
    readEntries (m.putAll q) ls = (readEntries q ls).map m.putAll := by
  induction ls generalizing q with
  | nil => rfl
  | cons l ls ih =>
    rw [readEntries, readEntries]
    cases readEntry l with
    | ok p =>
      have hput := OrderedMap.putAll_put distinct m p.1 p.2
      have hnext := ih (OrderedMap.nodup_put distinct p.1 p.2)
      rw [hput] at hnext
      exact hnext
    | error e => rfl

/-- What a text is read to after another one, a line feed between them. -/
theorem read_append {t : Text} (hlast : t.getLast? ≠ some 0x0D) (hend : ¬EndsContinued t)
    (u : Text) :
    read (t ++ 0x0A :: u) = read t >>= fun m =>
      ((read u).map m.putAll).mapError (Malformed.raise (naturalLines t).length) := by
  have hput (m : Properties) : readEntries m (logicalLines u) = (read u).map m.putAll :=
    @readEntries_putAll m [] List.nodup_nil (logicalLines u)
  rw [read, logicalLines_append hlast hend, readEntries_append]
  congr 1
  funext m
  rw [readEntries_raise, hput]

end Properties

namespace Access

open Properties (naturalLines EndsContinued)

/-- Where the first text is malformed, so are the two, by the same line. Where only the second one
is, its line is told by its number among all lines. Otherwise the pairs of the second are put into
what the first is read to. -/
theorem parseText_append (source : Text) {t : Text} (hlast : t.getLast? ≠ some 0x0D)
    (hend : ¬EndsContinued t) (u : Text) :
    (∀ m m', parseText source t = .ok m → parseText source u = .ok m' →
      parseText source (t ++ 0x0A :: u) = .ok (m.putAll m')) ∧
    (∀ f, parseText source t = .error f → parseText source (t ++ 0x0A :: u) = .error f) ∧
    ∀ m f, parseText source t = .ok m → parseText source u = .error f →
      ∃ problem line, f = .propertiesDecode problem source line ∧
        parseText source (t ++ 0x0A :: u) =
          .error (.propertiesDecode problem source (line + (naturalLines t).length)) := by
  have happend := Properties.read_append hlast hend u
  refine ⟨fun m m' hm hm' => ?_, fun f hf => ?_, fun m f hm hf => ?_⟩
  · rw [parseText_ok_iff] at hm hm' ⊢
    rw [happend, hm, hm']
    rfl
  · obtain ⟨e, he, rfl⟩ := (parseText_error_iff source t f).1 hf
    apply (parseText_error_iff source _ _).2
    refine ⟨e, ?_, rfl⟩
    rw [happend, he]
    rfl
  · rw [parseText_ok_iff] at hm
    obtain ⟨e, he, rfl⟩ := (parseText_error_iff source u f).1 hf
    refine ⟨_, e.line, rfl, (parseText_error_iff source _ _).2 ?_⟩
    refine ⟨e.raise (naturalLines t).length, ?_, rfl⟩
    rw [happend, hm, he]
    rfl

theorem parseText_append_comment :
    (text "a=1\nb\n#\\").getLast? ≠ some 0x0D ∧ ¬EndsContinued (text "a=1\nb\n#\\") ∧
      parseText [] (text "a=1\nb\n#\\" ++ 0x0A :: text "a=2") =
        .ok [(text "a", text "2"), (text "b", [])] ∧
      parseText [] (text "a=1\nb\n#\\" ++ 0x0A :: text "\nc=\\u0") =
        .error (.propertiesDecode (text "Malformed \\uxxxx encoding.") [] 5) := by
  have hlast : (text "a=1\nb\n#\\").getLast? ≠ some 0x0D := by decide
  have hend : ¬EndsContinued (text "a=1\nb\n#\\") := by decide +kernel
  have hcount : (naturalLines (text "a=1\nb\n#\\")).length = 3 := by decide +kernel
  have hfirst : parseText [] (text "a=1\nb\n#\\") = .ok [(text "a", text "1"), (text "b", [])] := by
    cbv
  have hsecond : parseText [] (text "a=2") = .ok [(text "a", text "2")] := by cbv
  have hmalformed : parseText [] (text "\nc=\\u0") =
      .error (.propertiesDecode (text "Malformed \\uxxxx encoding.") [] 2) := by cbv
  have hput : OrderedMap.putAll [(text "a", text "1"), (text "b", [])] [(text "a", text "2")] =
      [(text "a", text "2"), (text "b", [])] := by decide
  have hboth := (parseText_append [] hlast hend _).1 _ _ hfirst hsecond
  rw [hput] at hboth
  obtain ⟨problem, line, hf, hraised⟩ :=
    (parseText_append [] hlast hend _).2.2 _ _ hfirst hmalformed
  rw [hcount] at hraised
  obtain ⟨rfl, -, rfl⟩ := Fault.propertiesDecode.inj hf
  exact ⟨hlast, hend, hboth, hraised⟩

end Access
end ResourceLookup
