import Mathlib.Data.List.Induction
import ResourceLookup.Proofs.Files.Absent
import ResourceLookup.Proofs.Files.Names

/-!
# Where walks lead

A walk that succeeds passes from trail to trail over links, each of which it comes to under a name of
its own. Trail and links are determined by where the walk begins, and where it ends there is an entry
whose location has no link in it, so that the entry is found there again.
-/

namespace ResourceLookup

namespace FileTree

open ResourceLookup.Path

variable {t : FileTree} {cwd : Location} {names : List Text} {n : Text}

/-! ## Double dots taken back -/

theorem climb_anchored (h : dotDot ∉ names) : climb true names = names.dropLast := by
  rw [climb]
  cases hlast : names.getLast? with
  | none =>
    rw [List.getLast?_eq_none_iff.1 hlast]
    rfl
  | some n =>
    have hn : n ≠ dotDot := fun hn => h (hn ▸ List.mem_of_getLast? hlast)
    exact if_neg hn

theorem mem_climb {anchored : Bool} {m : Text} (h : m ∈ climb anchored names) :
    m ∈ names ∨ m = dotDot := by
  rw [climb] at h
  cases hlast : names.getLast? with
  | none =>
    rw [hlast] at h
    cases anchored with
    | true => cases h
    | false => exact .inr (List.mem_singleton.1 h)
  | some n =>
    rw [hlast] at h
    simp only at h
    split at h
    · exact (List.mem_append.1 h).imp_right List.mem_singleton.1
    · exact .inl (List.dropLast_subset _ h)

theorem collapse_concat (names : List Text) (n : Text) :
    collapse (names ++ [n]) =
      if n = [] ∨ n = dot then collapse names
      else if n = dotDot then climb true (collapse names)
      else collapse names ++ [n] := by
  rw [collapse, List.foldl_append]
  rfl

theorem dotDot_notMem_collapse (names : List Text) : dotDot ∉ collapse names := by
  induction names using List.reverseRecOn with
  | nil => nofun
  | append_singleton names n ih =>
    rw [collapse_concat]
    split
    · exact ih
    split
    · rw [climb_anchored ih]
      exact fun h => ih (List.dropLast_subset _ h)
    · next hn =>
      intro h
      rcases List.mem_append.1 h with h | h
      · exact ih h
      · exact hn (List.mem_singleton.1 h).symm

theorem collapse_component (names : List Text) (h : IsComponent n) :
    collapse (names ++ [n]) = collapse names ++ [n] := by
  rw [collapse_concat, if_neg (not_or.2 ⟨h.ne_nil, h.ne_dot⟩), if_neg h.ne_dotDot]

theorem collapse_dotDot (names : List Text) :
    collapse (names ++ [dotDot]) = (collapse names).dropLast := by
  rw [collapse_concat, if_neg (by decide), if_pos rfl, climb_anchored (dotDot_notMem_collapse names)]

theorem collapse_replicate_dotDot (count : Nat) : collapse (List.replicate count dotDot) = [] := by
  induction count with
  | zero => rfl
  | succ count ih => rw [List.replicate_succ', collapse_dotDot, ih, List.dropLast_nil]

theorem collapse_of_components (h : ∀ n ∈ names, IsComponent n) : collapse names = names := by
  induction names using List.reverseRecOn with
  | nil => rfl
  | append_singleton names n ih =>
    have hn := h n (List.mem_append_right _ (List.mem_singleton_self n))
    rw [collapse_component names hn, ih fun m hm => h m (List.mem_append_left _ hm)]

theorem components_of_collapse (h : ∀ n ∈ names, slash ∉ n) :
    ∀ n ∈ collapse names, IsComponent n := by
  induction names using List.reverseRecOn with
  | nil => nofun
  | append_singleton names n ih =>
    have before := ih fun m hm => h m (List.mem_append_left _ hm)
    rw [collapse_concat]
    split
    · exact before
    split
    · rw [climb_anchored (dotDot_notMem_collapse names)]
      exact fun m hm => before m (List.dropLast_subset _ hm)
    · next hblank hdots =>
      obtain ⟨hnil, hdot⟩ := not_or.1 hblank
      have hslash := h n (List.mem_append_right _ (List.mem_singleton_self n))
      intro m hm
      rcases List.mem_append.1 hm with hm | hm
      · exact before m hm
      · obtain rfl := List.mem_singleton.1 hm
        exact { ne_nil := hnil, ne_dot := hdot, slash_notMem := hslash, ne_dotDot := hdots }

/-! ## Trails -/

namespace Trail

variable {r : Trail}

def start (anchor : Anchor) : Trail := ⟨anchor != .none, []⟩

def origin (r : Trail) (target : Text) : Trail := if anchorOf target = .none then r else ⟨true, []⟩

def IsNormal (r : Trail) : Prop := ∀ n ∈ r.names, IsStep n

theorem dotDot_isStep : IsStep dotDot := ⟨by decide, by decide, by decide⟩

theorem IsNormal.child (hr : r.IsNormal) (hn : IsStep n) : (r.child n).IsNormal := by
  intro m hm
  rcases List.mem_append.1 hm with hm | hm
  · exact hr m hm
  · exact List.mem_singleton.1 hm ▸ hn

theorem IsNormal.parent (hr : r.IsNormal) : r.parent.IsNormal := by
  intro m hm
  rcases mem_climb hm with hm | rfl
  · exact hr m hm
  · exact dotDot_isStep

theorem IsNormal.origin (hr : r.IsNormal) (target : Text) : (r.origin target).IsNormal := by
  rw [Trail.origin]
  split
  · exact hr
  · exact fun _ => nofun

theorem location_child (cwd : Location) (r : Trail) (h : IsComponent n) :
    (r.child n).location cwd = r.location cwd ++ [n] := by
  obtain ⟨isAnchored, names⟩ := r
  cases isAnchored with
  | true => exact collapse_component names h
  | false =>
    simp only [location, child, Bool.false_eq_true, ↓reduceIte, ← List.append_assoc]
    exact collapse_component _ h

theorem collapse_climb {before : List Text} {anchored : Bool} (hb : anchored = true → before = [])
    (h : ∀ n ∈ names, IsStep n) :
    collapse (before ++ climb anchored names) = (collapse (before ++ names)).dropLast := by
  induction names using List.reverseRecOn with
  | nil =>
    cases anchored with
    | true =>
      rw [hb rfl]
      rfl
    | false =>
      rw [List.append_nil]
      exact collapse_dotDot before
  | append_singleton names n _ =>
    have hn := h n (List.mem_append_right _ (List.mem_singleton_self n))
    rw [climb, List.getLast?_concat]
    simp only
    split
    · rw [← List.append_assoc, collapse_dotDot]
    · next hdots =>
      rw [List.dropLast_concat, ← List.append_assoc,
        collapse_component _ { hn with ne_dotDot := hdots }, List.dropLast_concat]

theorem parent_child (r : Trail) (h : n ≠ dotDot) : (r.child n).parent = r := by
  rw [parent, child, climb, List.getLast?_concat]
  simp only [if_neg h, List.dropLast_concat]

theorem location_parent (cwd : Location) (hr : r.IsNormal) :
    r.parent.location cwd = (r.location cwd).dropLast := by
  obtain ⟨isAnchored, names⟩ := r
  cases isAnchored with
  | true => exact collapse_climb (fun _ => rfl) hr
  | false => exact collapse_climb nofun hr

theorem location_origin (cwd : Location) (r : Trail) (target : Text) :
    (r.origin target).location cwd = if anchorOf target = .none then r.location cwd else [] := by
  rw [origin]
  split <;> rfl

theorem child_inj {s : Trail} {m : Text} (h : r.child n = s.child m) : r = s ∧ n = m := by
  obtain ⟨_, names⟩ := r
  obtain ⟨_, names'⟩ := s
  simp only [child, mk.injEq] at h
  obtain ⟨rfl, hnames⟩ := h
  obtain ⟨rfl, hn⟩ := List.append_inj' hnames rfl
  exact ⟨rfl, List.singleton_inj.1 hn⟩

end Trail

/-! ## Walks that succeed -/

/-- From a trail and the entry there the names lead over these links to another trail and the entry
there. -/
inductive Leads (t : FileTree) (cwd : Location) :
    List Trail → Trail → Entry → List Text → Trail → Entry → Prop
  | done (r : Trail) (e : Entry) : Leads t cwd [] r e [] r e
  | stay {links : List Trail} {r s : Trail} {e : Entry} {n : Text} {names : List Text}
    (blank : n = [] ∨ n = dot) (rest : Leads t cwd links r .directory names s e) :
    Leads t cwd links r .directory (n :: names) s e
  | up {links : List Trail} {r s : Trail} {e : Entry} {names : List Text}
    (rest : Leads t cwd links r.parent .directory names s e) :
    Leads t cwd links r .directory (dotDot :: names) s e
  | enter {links : List Trail} {r s : Trail} {e f : Entry} {n : Text} {names : List Text}
    (name : IsComponent n) (short : isTooLong n = false)
    (found : t.find? (r.location cwd ++ [n]) = some e) (plain : ∀ target, e ≠ .link target)
    (rest : Leads t cwd links (r.child n) e names s f) :
    Leads t cwd links r .directory (n :: names) s f
  | follow {links links' : List Trail} {r s s' : Trail} {e f : Entry} {n target : Text}
    {names : List Text} (name : IsComponent n) (short : isTooLong n = false)
    (found : t.find? (r.location cwd ++ [n]) = some (.link target))
    (inner : Leads t cwd links (r.origin target) .directory (target.splitOn slash) s e)
    (rest : Leads t cwd links' s e names s' f) :
    Leads t cwd (r.child n :: (links ++ links')) r .directory (n :: names) s' f

namespace Leads

variable {links links' : List Trail} {r s s' : Trail} {e f f' : Entry}

theorem split {before after : List Text}
    (h : t.Leads cwd links r e (before ++ after) s f) :
    ∃ links₁ links₂ s₁ e₁, t.Leads cwd links₁ r e before s₁ e₁ ∧
      t.Leads cwd links₂ s₁ e₁ after s f ∧ links = links₁ ++ links₂ := by
  induction before generalizing links r e with
  | nil => exact ⟨[], links, r, e, .done r e, h, rfl⟩
  | cons n before ih =>
    cases h with
    | stay blank rest =>
      obtain ⟨l₁, l₂, s₁, e₁, h₁, h₂, hl⟩ := ih rest
      exact ⟨l₁, l₂, s₁, e₁, .stay blank h₁, h₂, hl⟩
    | up rest =>
      obtain ⟨l₁, l₂, s₁, e₁, h₁, h₂, hl⟩ := ih rest
      exact ⟨l₁, l₂, s₁, e₁, .up h₁, h₂, hl⟩
    | enter name short found plain rest =>
      obtain ⟨l₁, l₂, s₁, e₁, h₁, h₂, hl⟩ := ih rest
      exact ⟨l₁, l₂, s₁, e₁, .enter name short found plain h₁, h₂, hl⟩
    | @follow inner _ _ _ _ _ _ _ target _ name short found hinner rest =>
      obtain ⟨l₁, l₂, s₁, e₁, h₁, h₂, hl⟩ := ih rest
      refine ⟨_, l₂, s₁, e₁, .follow name short found hinner h₁, h₂, ?_⟩
      rw [hl, List.cons_append, List.append_assoc]

theorem functional (h : t.Leads cwd links r e names s f) (h' : t.Leads cwd links' r e names s' f') :
    links = links' ∧ s = s' ∧ f = f' := by
  induction h generalizing links' s' f' with
  | done r e =>
    cases h'
    exact ⟨rfl, rfl, rfl⟩
  | stay blank rest ih =>
    cases h' with
    | stay _ rest' => exact ih rest'
    | up => exact absurd blank (by decide)
    | enter name => exact absurd blank (not_or.2 ⟨name.ne_nil, name.ne_dot⟩)
    | follow name => exact absurd blank (not_or.2 ⟨name.ne_nil, name.ne_dot⟩)
  | up rest ih =>
    cases h' with
    | stay blank => exact absurd blank (by decide)
    | up rest' => exact ih rest'
    | enter name => exact absurd rfl name.ne_dotDot
    | follow name => exact absurd rfl name.ne_dotDot
  | enter name short found plain rest ih =>
    cases h' with
    | stay blank => exact absurd blank (not_or.2 ⟨name.ne_nil, name.ne_dot⟩)
    | up => exact absurd rfl name.ne_dotDot
    | enter _ _ found' _ rest' =>
      obtain rfl := Option.some.inj (found.symm.trans found')
      exact ih rest'
    | follow _ _ found' => exact absurd (Option.some.inj (found.symm.trans found')) (plain _)
  | follow name short found inner rest ihinner ihrest =>
    cases h' with
    | stay blank => exact absurd blank (not_or.2 ⟨name.ne_nil, name.ne_dot⟩)
    | up => exact absurd rfl name.ne_dotDot
    | enter _ _ found' plain => exact absurd (Option.some.inj (found'.symm.trans found)) (plain _)
    | follow _ _ found' inner' rest' =>
      cases Option.some.inj (found.symm.trans found')
      obtain ⟨rfl, rfl, rfl⟩ := ihinner inner'
      obtain ⟨rfl, rfl, rfl⟩ := ihrest rest'
      exact ⟨rfl, rfl, rfl⟩

theorem filter (h : t.Leads cwd links r e names s f) :
    t.Leads cwd links r e (names.filter fun n => !(n.isEmpty || n == dot)) s f := by
  induction h with
  | done r e => exact .done r e
  | stay blank _ ih =>
    rcases blank with rfl | rfl
    · exact ih
    · exact ih
  | up _ ih => exact .up ih
  | enter name short found plain _ ih =>
    rw [List.filter_cons_of_pos (by simp [name.ne_nil, name.ne_dot])]
    exact .enter name short found plain ih
  | follow name short found inner _ _ ih =>
    rw [List.filter_cons_of_pos (by simp [name.ne_nil, name.ne_dot])]
    exact .follow name short found inner ih

end Leads

/-- A walk that succeeds leads over no more links than it may. -/
theorem leads_of_walk {links : Nat} {place q : Location} {entry f : Entry} {r : Trail}
    (h : t.walk links place entry names = .ok (q, f)) (hr : r.IsNormal)
    (location : r.location cwd = place) (hnames : ∀ n ∈ names, slash ∉ n) :
    ∃ ls s, t.Leads cwd ls r entry names s f ∧ s.location cwd = q ∧ ls.length ≤ links := by
  have hdirectory : ∀ {e : Entry}, ¬e.isDirectory = false → e = .directory := by
    intro e he
    cases e <;> simp [Entry.isDirectory] at he ⊢
  have onward : ∀ {n : Text} {rest : List Text}, (∀ m ∈ n :: rest, slash ∉ m) →
      ∀ m ∈ rest, slash ∉ m := fun h m hm => h m (List.mem_cons_of_mem _ hm)
  have isComponent : ∀ {n : Text}, slash ∉ n → ¬(n = [] ∨ n = dot) → ¬n = dotDot →
      IsComponent n := fun hslash blank dots =>
    { ne_nil := (not_or.1 blank).1, ne_dot := (not_or.1 blank).2, slash_notMem := hslash,
      ne_dotDot := dots }
  fun_induction walk t links place entry names generalizing r with
  | case1 links place entry =>
    cases h
    exact ⟨[], r, .done r _, location, Nat.zero_le _⟩
  | case2 | case5 | case6 | case7 => cases h
  | case3 links place entry n rest isDirectory blank ih =>
    obtain rfl := hdirectory isDirectory
    obtain ⟨ls, s, hs, hq, hlen⟩ := ih h hr location (onward hnames)
    exact ⟨ls, s, .stay blank hs, hq, hlen⟩
  | case4 links place entry rest isDirectory _ ih =>
    obtain rfl := hdirectory isDirectory
    have hparent : r.parent.location cwd = place.dropLast := by
      rw [Trail.location_parent cwd hr, location]
    obtain ⟨ls, s, hs, hq, hlen⟩ := ih h hr.parent hparent (onward hnames)
    exact ⟨ls, s, .up hs, hq, hlen⟩
  | case8 place entry n rest isDirectory blank dots long target k found ih =>
    obtain rfl := hdirectory isDirectory
    have name := isComponent (hnames n List.mem_cons_self) blank dots
    -- The names of the target come before the rest, which the link itself is not part of.
    have htarget : ∀ m ∈ target.splitOn slash ++ rest, slash ∉ m := fun m hm =>
      (List.mem_append.1 hm).elim Text.not_mem_of_mem_splitOn (onward hnames m)
    have horigin : (r.origin target).location cwd =
        if anchorOf target = .none then place else [] := by
      rw [Trail.location_origin, location]
    obtain ⟨ls, s, hs, hq, hlen⟩ := ih h (hr.origin target) horigin htarget
    obtain ⟨ls₁, ls₂, s₁, e₁, inner, onwards, rfl⟩ := hs.split
    exact ⟨_, s, .follow name (Bool.not_eq_true _ ▸ long) (location ▸ found) inner onwards, hq,
      Nat.succ_le_succ hlen⟩
  | case9 place entry n rest isDirectory blank dots long e links plain plain' found ih =>
    obtain rfl := hdirectory isDirectory
    have name := isComponent (hnames n List.mem_cons_self) blank dots
    have hplain : ∀ target, e ≠ .link target := by
      intro target
      cases links with
      | zero => exact plain target rfl
      | succ k => exact plain' target k rfl
    have hchild : (r.child n).location cwd = place ++ [n] := by
      rw [Trail.location_child cwd r name, location]
    obtain ⟨ls, s, hs, hq, hlen⟩ := ih h (hr.child name.toIsStep) hchild (onward hnames)
    exact ⟨ls, s, .enter name (Bool.not_eq_true _ ▸ long) (location ▸ found) hplain hs, hq, hlen⟩

/-! ## Steps of a walk -/

section

variable {links : Nat} {l : Location} {e : Entry} {target : Text}

theorem walk_blanks {lead : List Text} (h : ∀ n ∈ lead, n = [] ∨ n = dot) (t : FileTree) (links : Nat)
    (l : Location) (names : List Text) :
    t.walk links l .directory (lead ++ names) = t.walk links l .directory names := by
  induction lead with
  | nil => rfl
  | cons n lead ih =>
    have hn := h n List.mem_cons_self
    rw [List.cons_append, walk.eq_def]
    simp only [Entry.isDirectory, Bool.true_eq_false, ↓reduceIte, if_pos hn]
    exact ih fun m hm => h m (List.mem_cons_of_mem _ hm)

theorem walk_dotDot (t : FileTree) (links : Nat) (l : Location) (names : List Text) :
    t.walk links l .directory (dotDot :: names) = t.walk links l.dropLast .directory names := by
  rw [walk.eq_def]
  simp only [Entry.isDirectory, Bool.true_eq_false, ↓reduceIte,
    if_neg (show ¬(dotDot = [] ∨ dotDot = dot) by decide)]

theorem walk_dotDots (t : FileTree) (links count : Nat) (names : List Text) :
    t.walk links [] .directory (List.replicate count dotDot ++ names) =
      t.walk links [] .directory names := by
  induction count with
  | zero => rfl
  | succ count ih => rw [List.replicate_succ, List.cons_append, walk_dotDot, List.dropLast_nil, ih]

theorem walk_enter (name : IsComponent n) (short : isTooLong n = false)
    (found : t.find? (l ++ [n]) = some e) (plain : ∀ target, e ≠ .link target) :
    t.walk links l .directory (n :: names) = t.walk links (l ++ [n]) e names := by
  rw [walk.eq_def]
  simp only [found, short, name.ne_nil, name.ne_dot, name.ne_dotDot, Entry.isDirectory,
    Bool.true_eq_false, Bool.false_eq_true, or_self, ↓reduceIte]
  cases e with
  | link target => exact absurd rfl (plain target)
  | directory | file | archive => rfl

theorem walk_follow (name : IsComponent n) (short : isTooLong n = false)
    (found : t.find? (l ++ [n]) = some (.link target)) :
    t.walk (links + 1) l .directory (n :: names) =
      t.walk links (if anchorOf target = .none then l else []) .directory
        (target.splitOn slash ++ names) := by
  rw [walk.eq_def]
  simp only [found, short, name.ne_nil, name.ne_dot, name.ne_dotDot, Entry.isDirectory,
    Bool.true_eq_false, Bool.false_eq_true, or_self, ↓reduceIte]

theorem walk_tooLong (name : IsComponent n) (long : isTooLong n = true) :
    t.walk links l .directory (n :: names) = .error .nameTooLong := by
  rw [walk.eq_def]
  simp only [long, name.ne_nil, name.ne_dot, name.ne_dotDot, Entry.isDirectory,
    Bool.true_eq_false, or_self, ↓reduceIte]

theorem walk_stopped (name : IsComponent n) (short : isTooLong n = false)
    (found : t.find? (l ++ [n]) = some (.link target)) :
    t.walk 0 l .directory (n :: names) = .error .tooManyLinks := by
  rw [walk.eq_def]
  simp only [found, short, name.ne_nil, name.ne_dot, name.ne_dotDot, Entry.isDirectory,
    Bool.true_eq_false, Bool.false_eq_true, or_self, ↓reduceIte]

theorem walk_circle (name : IsComponent n) (short : isTooLong n = false)
    (found : t.find? [n] = some (.link n)) (links : Nat) :
    t.walk links [] .directory [n] = .error .tooManyLinks := by
  have relative : (if anchorOf n = .none then ([] : Location) else []) = [] := ite_self _
  induction links with
  | zero => exact walk_stopped name short found
  | succ links ih =>
    rw [walk_follow name short found, relative, Text.splitOn_of_notMem name.slash_notMem,
      List.append_nil, ih]

end

/-! ## Locations without links -/

/-- The names of the location lead down from the root over directories to an entry that is no link,
and none of them is too long. -/
inductive Holds (t : FileTree) : Location → Entry → Prop
  | root : t.Holds [] .directory
  | child {l : Location} {n : Text} {e : Entry} (parent : t.Holds l .directory) (name : IsComponent n)
    (short : isTooLong n = false) (found : t.find? (l ++ [n]) = some e)
    (plain : ∀ target, e ≠ .link target) : t.Holds (l ++ [n]) e

namespace Holds

variable {l : Location} {e f : Entry}

theorem parent (h : t.Holds l .directory) : t.Holds l.dropLast .directory := by
  cases h with
  | root => exact .root
  | child parent =>
    rw [List.dropLast_concat]
    exact parent

theorem components (h : t.Holds l e) : ∀ n ∈ l, IsComponent n := by
  induction h with
  | root => nofun
  | child _ name _ _ _ ih =>
    intro m hm
    rcases List.mem_append.1 hm with hm | hm
    · exact ih m hm
    · exact List.mem_singleton.1 hm ▸ name

theorem find? (h : t.Holds l e) : t.find? l = some e := by
  cases h with
  | root => rfl
  | child _ _ _ found => exact found

theorem walk (h : t.Holds l e) (links : Nat) (rest : List Text) :
    t.walk links [] .directory (l ++ rest) = t.walk links l e rest := by
  induction h generalizing rest with
  | root => rfl
  | child parent name short found plain ih =>
    rw [List.append_assoc, ih, List.singleton_append, walk_enter name short found plain]

end Holds

theorem Leads.holds {links : List Trail} {r s : Trail} {e f : Entry}
    (h : t.Leads cwd links r e names s f) (hr : r.IsNormal) (holds : t.Holds (r.location cwd) e) :
    t.Holds (s.location cwd) f ∧ s.IsNormal := by
  induction h with
  | done r e => exact ⟨holds, hr⟩
  | stay _ _ ih => exact ih hr holds
  | up _ ih =>
    refine ih hr.parent ?_
    rw [Trail.location_parent cwd hr]
    exact holds.parent
  | enter name short found plain _ ih =>
    refine ih (hr.child name.toIsStep) ?_
    rw [Trail.location_child cwd _ name]
    exact .child holds name short found plain
  | follow name short found inner _ ihinner ihrest =>
    obtain ⟨hinner, normal⟩ := ihinner (hr.origin _) (by
      rw [Trail.location_origin]
      split
      · exact holds
      · exact .root)
    exact ihrest normal hinner

/-! ## Paths -/

theorem locate_toText {p : Path} (h : p.IsNormal) (t : FileTree) (cwd : Location) :
    t.locate cwd p.toText =
      if isTooLongPath p.toText then .error .nameTooLong
      else t.walk linkLimit (if p.anchor = .none then cwd else []) .directory p.parts := by
  obtain ⟨lead, hlead, hsplit⟩ := splitOn_toText h
  rw [locate, if_neg (toText_ne_nil h), anchorOf_toText h, hsplit, walk_blanks hlead]

end FileTree

theorem Location.toText_eq (l : Location) : toText l = Path.toText ⟨.root, l⟩ := by
  simp [toText, Path.toText, Anchor.toText, Path.slash]

namespace FileTree

open ResourceLookup.Path

variable {t : FileTree}

theorem locate_location {l : Location} (h : ∀ n ∈ l, IsComponent n) (t : FileTree) (cwd : Location) :
    t.locate cwd (Location.toText l) =
      if isTooLongPath (Location.toText l) then .error .nameTooLong
      else t.walk linkLimit [] .directory l := by
  have hnormal : Path.IsNormal ⟨.root, l⟩ := fun n hn => (h n hn).toIsStep
  rw [Location.toText_eq, locate_toText hnormal]
  rfl

/-- What a location without links holds is found there again, unless it is too far down. -/
theorem Holds.locate {l : Location} {e : Entry} (h : t.Holds l e) (cwd : Location) :
    t.locate cwd (Location.toText l) =
      if isTooLongPath (Location.toText l) then .error .nameTooLong else .ok (l, e) := by
  have hwalk := h.walk linkLimit []
  rw [List.append_nil, FileTree.walk] at hwalk
  rw [locate_location h.components, hwalk]

end FileTree
end ResourceLookup
