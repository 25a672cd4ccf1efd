import ResourceLookup.ResourceName

/-!
# Names and components

A component is a name that leads down by one step and cannot lead anywhere else. The parts of a path
are components and double dots, and a text of parts with slashes between them is read as these parts
again. A resource name has parts just where it neither begins with a slash nor climbs nor stays where
it is, and its parts are components.
-/

namespace ResourceLookup

/-! ## Splitting -/

namespace Text

variable {sep : Nat} {p t : Text}

theorem splitOn_of_notMem (h : sep ∉ p) : splitOn sep p = [p] := by
  induction p with
  | nil => rfl
  | cons c r ih =>
    obtain ⟨hc, hr⟩ := not_or.1 (mt List.mem_cons.2 h)
    rw [splitOn, if_neg (Ne.symm hc), ih hr]

theorem splitOn_append (h : sep ∉ p) (t : Text) :
    splitOn sep (p ++ sep :: t) = p :: splitOn sep t := by
  induction p with
  | nil => rw [List.nil_append, splitOn, if_pos rfl]
  | cons c r ih =>
    obtain ⟨hc, hr⟩ := not_or.1 (mt List.mem_cons.2 h)
    rw [List.cons_append, splitOn, if_neg (Ne.symm hc), ih hr]

theorem splitOn_joinWith {ps : List Text} (nonempty : ps ≠ []) (h : ∀ p ∈ ps, sep ∉ p) :
    splitOn sep (joinWith [sep] ps) = ps := by
  induction ps with
  | nil => exact absurd rfl nonempty
  | cons p ps ih =>
    have hp := h p List.mem_cons_self
    cases ps with
    | nil => exact splitOn_of_notMem hp
    | cons q r =>
      rw [joinWith_cons_ne_nil _ _ (List.cons_ne_nil q r), List.append_assoc, List.singleton_append,
        splitOn_append hp, ih (List.cons_ne_nil q r) fun s hs => h s (List.mem_cons_of_mem _ hs)]

end Text

/-! ## Paths -/

namespace Path

open Text

structure IsStep (n : Text) : Prop where
  ne_nil : n ≠ []
  ne_dot : n ≠ dot
  slash_notMem : slash ∉ n

structure IsComponent (n : Text) : Prop extends IsStep n where
  ne_dotDot : n ≠ dotDot

theorem isComponent_iff {n : Text} :
    IsComponent n ↔ n ≠ [] ∧ n ≠ dot ∧ slash ∉ n ∧ n ≠ dotDot :=
  ⟨fun h => ⟨h.ne_nil, h.ne_dot, h.slash_notMem, h.ne_dotDot⟩,
    fun ⟨ne_nil, ne_dot, slash_notMem, ne_dotDot⟩ => ⟨⟨ne_nil, ne_dot, slash_notMem⟩, ne_dotDot⟩⟩

instance (n : Text) : Decidable (IsComponent n) := decidable_of_iff' _ isComponent_iff

def IsNormal (p : Path) : Prop := ∀ n ∈ p.parts, IsStep n

variable {p : Path} {t n : Text} {names : List Text}

theorem mem_partsOf : n ∈ partsOf t ↔ n ∈ splitOn slash t ∧ n ≠ [] ∧ n ≠ dot := by
  simp [partsOf]

theorem isStep_of_mem_partsOf (h : n ∈ partsOf t) : IsStep n := by
  obtain ⟨hn, ne_nil, ne_dot⟩ := mem_partsOf.1 h
  exact ⟨ne_nil, ne_dot, not_mem_of_mem_splitOn hn⟩

theorem ofText_normal (t : Text) : (ofText t).IsNormal := fun _ => isStep_of_mem_partsOf

theorem IsNormal.below (hp : p.IsNormal) (h : ∀ n ∈ names, IsStep n) : (p.below names).IsNormal :=
  fun n hn => (List.mem_append.1 hn).elim (hp n) (h n)

theorem partsOf_joinWith (h : ∀ n ∈ names, IsStep n) : partsOf (joinWith [slash] names) = names := by
  cases names with
  | nil => rfl
  | cons n r =>
    rw [partsOf, splitOn_joinWith (List.cons_ne_nil n r) fun p hp => (h p hp).slash_notMem,
      List.filter_eq_self]
    intro p hp
    simp [(h p hp).ne_nil, (h p hp).ne_dot]

theorem head?_joinWith (h : ∀ n ∈ names, IsStep n) :
    (joinWith [slash] names).head? ≠ some slash := by
  cases names with
  | nil => nofun
  | cons n r =>
    have hn := h n List.mem_cons_self
    obtain ⟨c, s, rfl⟩ := List.exists_cons_of_ne_nil hn.ne_nil
    have hc : c ≠ slash := fun hc => hn.slash_notMem (hc ▸ List.mem_cons_self)
    cases r with
    | nil => simpa [joinWith] using hc
    | cons q r => simpa [joinWith] using hc

theorem anchorOf_append (a : Anchor) (h : t.head? ≠ some slash) : anchorOf (a.toText ++ t) = a := by
  cases t with
  | nil => cases a <;> rfl
  | cons c r =>
    have hc : c ≠ 0x2F := fun hc => h (congrArg some hc)
    rw [anchorOf.eq_def]
    cases a <;> simp [Anchor.toText, hc]

theorem splitOn_toText (h : p.IsNormal) :
    ∃ lead, (∀ n ∈ lead, n = [] ∨ n = dot) ∧ splitOn slash p.toText = lead ++ p.parts := by
  obtain ⟨anchor, parts⟩ := p
  rw [toText]
  cases parts with
  | nil =>
    refine ⟨splitOn slash (toText ⟨anchor, []⟩), ?_, by simp [toText]⟩
    cases anchor <;> decide
  | cons n r =>
    have hjoin : splitOn slash (joinWith [slash] (n :: r)) = n :: r :=
      splitOn_joinWith (List.cons_ne_nil n r) fun m hm => (h m hm).slash_notMem
    rw [if_neg (by simp)]
    cases anchor with
    | none => exact ⟨[], nofun, hjoin⟩
    | root => exact ⟨[[]], by simp, by simpa [Anchor.toText, splitOn, slash] using hjoin⟩
    | doubleRoot =>
      exact ⟨[[], []], by simp, by simpa [Anchor.toText, splitOn, slash] using hjoin⟩

theorem anchorOf_toText (h : p.IsNormal) : anchorOf p.toText = p.anchor := by
  rw [toText]
  split
  · next hp => rw [hp.1]; rfl
  · exact anchorOf_append p.anchor (head?_joinWith h)

theorem ofText_toText (h : p.IsNormal) : ofText p.toText = p := by
  obtain ⟨lead, hlead, hsplit⟩ := splitOn_toText h
  have hparts : partsOf p.toText = p.parts := by
    have hnone : (lead.filter fun n => !(n.isEmpty || n == dot)) = [] := by
      rw [List.filter_eq_nil_iff]
      intro n hn
      rcases hlead n hn with rfl | rfl <;> decide
    have hall : (p.parts.filter fun n => !(n.isEmpty || n == dot)) = p.parts := by
      rw [List.filter_eq_self]
      intro n hn
      simp [(h n hn).ne_nil, (h n hn).ne_dot]
    rw [partsOf, hsplit, List.filter_append, hnone, hall, List.nil_append]
  rw [ofText, anchorOf_toText h, hparts]

theorem toText_ne_nil (h : p.IsNormal) : p.toText ≠ [] := by
  intro hnil
  have hp : ofText [] = p := hnil ▸ ofText_toText h
  rw [← hp] at hnil
  exact absurd hnil (by decide)

end Path

/-! ## Resource names -/

namespace ResourceName

open Text ResourceLookup.Path

variable {name : Text} {parts : List Text}

theorem parts?_eq_some_iff :
    parts? name = some parts ↔
      name.head? ≠ some slash ∧ dotDot ∉ partsOf name ∧ parts ≠ [] ∧ partsOf name = parts := by
  rw [parts?]
  split
  · next hhead =>
    refine ⟨nofun, fun ⟨hslash, _, nonempty, hparts⟩ => ?_⟩
    rcases hhead with hnone | hsome
    · rw [List.head?_eq_none_iff.1 hnone] at hparts
      exact absurd hparts.symm nonempty
    · exact absurd hsome hslash
  · next hhead =>
    have hslash := (not_or.1 hhead).2
    simp only
    split
    · next hnone =>
      refine ⟨nofun, fun ⟨_, climbs, nonempty, hparts⟩ => ?_⟩
      rcases hnone with hnil | hdots
      · exact absurd (hparts.symm.trans hnil) nonempty
      · exact absurd hdots climbs
    · next hsome =>
      obtain ⟨hne, climbs⟩ := not_or.1 hsome
      refine ⟨fun h => ?_, fun ⟨_, _, _, hparts⟩ => congrArg some hparts⟩
      obtain rfl := Option.some.inj h
      exact ⟨hslash, climbs, hne, rfl⟩

theorem components_of_parts? (h : parts? name = some parts) :
    parts ≠ [] ∧ ∀ n ∈ parts, IsComponent n := by
  obtain ⟨-, climbs, nonempty, rfl⟩ := parts?_eq_some_iff.1 h
  exact ⟨nonempty, fun n hn => ⟨isStep_of_mem_partsOf hn, fun he => climbs (he ▸ hn)⟩⟩

theorem steps_of_parts? (h : parts? name = some parts) : ∀ n ∈ parts, IsStep n := fun n hn =>
  ((components_of_parts? h).2 n hn).toIsStep

/-- A name has no parts where it is empty or absolute, climbs, or leads nowhere. -/
theorem parts?_eq_none_iff :
    parts? name = none ↔ name = [] ∨ name.head? = some slash ∨ dotDot ∈ splitOn slash name ∨
      ∀ n ∈ splitOn slash name, n = [] ∨ n = dot := by
  have hdots : dotDot ∈ partsOf name ↔ dotDot ∈ splitOn slash name := by
    rw [mem_partsOf]
    exact and_iff_left ⟨by decide, by decide⟩
  have hnil : partsOf name = [] ↔ ∀ n ∈ splitOn slash name, n = [] ∨ n = dot := by
    simp only [partsOf, List.filter_eq_nil_iff, Bool.not_eq_true', Bool.not_eq_false,
      Bool.or_eq_true, List.isEmpty_iff, beq_iff_eq]
  rw [Option.eq_none_iff_forall_ne_some]
  simp only [ne_eq, parts?_eq_some_iff, hdots, ← hnil]
  constructor
  · intro h
    refine Classical.byContradiction fun hnone => ?_
    simp only [not_or] at hnone
    exact h _ ⟨hnone.2.1, hnone.2.2.1, hnone.2.2.2, rfl⟩
  · rintro h parts ⟨hslash, climbs, nonempty, rfl⟩
    rcases h with rfl | h | h | h
    · exact nonempty rfl
    · exact hslash h
    · exact climbs h
    · exact nonempty h

theorem parts?_joinWith (nonempty : parts ≠ []) (h : ∀ n ∈ parts, IsComponent n) :
    parts? (joinWith [slash] parts) = some parts := by
  have hsteps : ∀ n ∈ parts, IsStep n := fun n hn => (h n hn).toIsStep
  have hparts := partsOf_joinWith hsteps
  refine parts?_eq_some_iff.2 ⟨head?_joinWith hsteps, ?_, nonempty, hparts⟩
  rw [hparts]
  exact fun hd => (h _ hd).ne_dotDot rfl

end ResourceName
end ResourceLookup
