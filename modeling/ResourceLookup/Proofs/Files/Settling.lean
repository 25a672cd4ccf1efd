import ResourceLookup.Place
import ResourceLookup.Proofs.Files.Walk
import ResourceLookup.Proofs.Text.Utf8

/-!
# Settling what a walk comes to

Settling a path does not ask the file system to follow its links but reads each link at the path under
which it was come to. No link that a walk leads over is met again while it is being followed, since
what it leads over would have to hold itself. So settling comes to where the walk does, unless a link
stands at a path that is too long to be looked up, which is then taken for a plain name.
-/

namespace ResourceLookup

namespace Text

variable {sep : Text} {ps : List Text} {c : Nat}

theorem mem_joinWith (h : c ∈ joinWith sep ps) : c ∈ sep ∨ ∃ p ∈ ps, c ∈ p := by
  induction ps with
  | nil => cases h
  | cons p ps ih =>
    cases ps with
    | nil => exact .inr ⟨p, List.mem_cons_self, h⟩
    | cons q r =>
      rw [joinWith_cons_ne_nil _ _ (List.cons_ne_nil q r)] at h
      rcases List.mem_append.1 h with h | h
      · rcases List.mem_append.1 h with h | h
        · exact .inr ⟨p, List.mem_cons_self, h⟩
        · exact .inl h
      · rcases ih h with h | ⟨s, hs, h⟩
        · exact .inl h
        · exact .inr ⟨s, List.mem_cons_of_mem _ hs, h⟩

theorem length_joinWith_replicate (c count : Nat) (p n : Text) :
    (joinWith [c] (List.replicate count p ++ [n])).length = count * (p.length + 1) + n.length := by
  induction count with
  | zero => simp [joinWith]
  | succ count ih =>
    have hne : List.replicate count p ++ [n] ≠ [] := List.concat_ne_nil n _
    rw [List.replicate_succ, List.cons_append, joinWith_cons_ne_nil _ _ hne, List.length_append, ih,
      List.length_append, List.length_singleton, Nat.succ_mul]
    omega

end Text

namespace FileTree

open ResourceLookup.Path Text

variable {t : FileTree} {cwd : Location} {names : List Text} {n : Text}

/-! ## Links being followed -/

def Underway (t : FileTree) (cwd : Location) (count : Nat) (link : Trail) : Prop :=
  ∃ (r : Trail) (n target : Text) (ls : List Trail) (s : Trail) (e : Entry),
    link = r.child n ∧ t.find? (r.location cwd ++ [n]) = some (.link target) ∧
    t.Leads cwd ls (r.origin target) .directory (target.splitOn slash) s e ∧ count ≤ ls.length

theorem Underway.mono {count count' : Nat} {link : Trail} (h : t.Underway cwd count link)
    (hle : count' ≤ count) : t.Underway cwd count' link := by
  obtain ⟨r, n, target, ls, s, e, hlink, found, leads, hlen⟩ := h
  exact ⟨r, n, target, ls, s, e, hlink, found, leads, Nat.le_trans hle hlen⟩

theorem linkAt?_of_link {r : Trail} {target : Text} (name : IsComponent n)
    (found : t.find? (r.location cwd ++ [n]) = some (.link target))
    (seen : isTooLongPath (r.child n).toText = false) : t.linkAt? cwd (r.child n) = some target := by
  rw [linkAt?, Trail.location_child cwd r name, found]
  simp only [seen, Bool.false_eq_true, ↓reduceIte]

theorem linkAt?_of_plain {r : Trail} {e : Entry} (name : IsComponent n)
    (found : t.find? (r.location cwd ++ [n]) = some e) (plain : ∀ target, e ≠ .link target) :
    t.linkAt? cwd (r.child n) = none := by
  rw [linkAt?, Trail.location_child cwd r name, found]
  cases e with
  | link target => exact absurd rfl (plain target)
  | directory | file | archive => rfl

theorem linkAt?_of_tooLong {r : Trail} (h : isTooLongPath r.toText = true) :
    t.linkAt? cwd r = none := by
  rw [linkAt?]
  split
  · rw [if_pos h]
  · rfl

/-! ## Steps of settling -/

section

variable {depth : Nat} {links : List Trail} {r s : Trail} {target : Text}

theorem settle_dotDot (t : FileTree) (cwd : Location) (depth : Nat) (links : List Trail) (r : Trail)
    (names : List Text) :
    t.settle cwd depth links r (dotDot :: names) = t.settle cwd depth links r.parent names := by
  rw [settle.eq_def]
  simp only [if_neg (show ¬(dotDot = [] ∨ dotDot = dot) by decide), ↓reduceIte]

theorem settle_plain (name : IsComponent n) (plain : t.linkAt? cwd (r.child n) = none) :
    t.settle cwd depth links r (n :: names) = t.settle cwd depth links (r.child n) names := by
  rw [settle.eq_def]
  simp only [name.ne_nil, name.ne_dot, name.ne_dotDot, plain, or_self, ↓reduceIte]

theorem settle_follow (name : IsComponent n) (link : t.linkAt? cwd (r.child n) = some target)
    (new : r.child n ∉ links)
    (inner : t.settle cwd depth (r.child n :: links) (r.origin target) (target.splitOn slash) =
      ⟨s, true⟩) :
    t.settle cwd (depth + 1) links r (n :: names) = t.settle cwd (depth + 1) links s names := by
  rw [Trail.origin] at inner
  rw [settle.eq_def]
  simp only [name.ne_nil, name.ne_dot, name.ne_dotDot, link, new, inner, or_self, ↓reduceIte]

end

/-- Where the names lead, settling comes to, if it sees the links on the way. -/
theorem settle_of_leads {ls : List Trail} {r s : Trail} {e f : Entry}
    (h : t.Leads cwd ls r e names s f) (seen : ∀ c ∈ ls, isTooLongPath c.toText = false)
    (depth : Nat) (links : List Trail) (enough : ls.length ≤ depth)
    (underway : ∀ c ∈ links, t.Underway cwd ls.length c) :
    t.settle cwd depth links r names = ⟨s, true⟩ := by
  induction h generalizing depth links with
  | done r e => rw [settle]
  | stay blank _ ih =>
    rw [settle.eq_def]
    simp only [if_pos blank]
    exact ih seen depth links enough underway
  | up _ ih =>
    rw [settle_dotDot]
    exact ih seen depth links enough underway
  | enter name short found plain _ ih =>
    rw [settle_plain name (linkAt?_of_plain name found plain)]
    exact ih seen depth links enough underway
  | @follow ls ls' r s s' e f n target names name short found inner rest ihinner ihrest =>
    have hlen : (ls ++ ls').length = ls.length + ls'.length := List.length_append
    rw [List.length_cons, hlen] at enough underway
    obtain ⟨d, rfl⟩ : ∃ d, depth = d + 1 := ⟨depth - 1, by omega⟩
    have hlink : t.linkAt? cwd (r.child n) = some target :=
      linkAt?_of_link name found (seen _ List.mem_cons_self)
    -- Otherwise the target would lead over the link itself, and so over more links than it does.
    have hnew : r.child n ∉ links := by
      intro hmem
      obtain ⟨r', n', target', ls₀, s₀, e₀, hchild, found', leads', hle⟩ := underway _ hmem
      obtain ⟨rfl, rfl⟩ := Trail.child_inj hchild
      cases Option.some.inj (found.symm.trans found')
      obtain ⟨rfl, -, -⟩ := inner.functional leads'
      omega
    have hinner : t.settle cwd d (r.child n :: links) (r.origin target) (target.splitOn slash) =
        ⟨s, true⟩ := by
      refine ihinner (fun c hc => seen c (List.mem_cons_of_mem _ (List.mem_append_left _ hc))) d _
        (by omega) fun c hc => ?_
      rcases List.mem_cons.1 hc with rfl | hc
      · exact ⟨r, n, target, ls, s, e, rfl, found, inner, Nat.le_refl _⟩
      · exact (underway c hc).mono (by omega)
    rw [settle_follow name hlink hnew hinner]
    exact ihrest (fun c hc => seen c (List.mem_cons_of_mem _ (List.mem_append_right _ hc))) (d + 1)
      links (by omega) fun c hc => (underway c hc).mono (by omega)

/-! ## What settling leaves -/

def Trail.Slashless (r : Trail) : Prop := ∀ n ∈ r.names, slash ∉ n

theorem Trail.Slashless.child {r : Trail} (h : r.Slashless) (hn : slash ∉ n) :
    (r.child n).Slashless := by
  intro m hm
  rcases List.mem_append.1 hm with hm | hm
  · exact h m hm
  · exact List.mem_singleton.1 hm ▸ hn

theorem Trail.Slashless.parent {r : Trail} (h : r.Slashless) : r.parent.Slashless := by
  intro m hm
  rcases mem_climb hm with hm | rfl
  · exact h m hm
  · decide

theorem Trail.Slashless.append {r : Trail} (h : r.Slashless) {rest : List Text}
    (hrest : ∀ n ∈ rest, slash ∉ n) : (r.append rest).Slashless := by
  intro m hm
  rw [Trail.append.eq_def] at hm
  split at hm
  · exact hrest m (List.mem_cons_of_mem _ hm)
  · exact (List.mem_append.1 hm).elim (h m) (hrest m)

theorem settle_slashless (t : FileTree) (cwd : Location) (depth : Nat) (links : List Trail)
    {place : Trail} (hplace : place.Slashless) (hnames : ∀ n ∈ names, slash ∉ n) :
    (t.settle cwd depth links place names).trail.Slashless := by
  have onward : ∀ {n : Text} {rest : List Text}, (∀ m ∈ n :: rest, slash ∉ m) →
      ∀ m ∈ rest, slash ∉ m := fun h m hm => h m (List.mem_cons_of_mem _ hm)
  have origin : ∀ {place : Trail}, place.Slashless → ∀ target : Text,
      Trail.Slashless (if anchorOf target = .none then place else ⟨true, []⟩) := by
    intro place hplace target
    split
    · exact hplace
    · exact fun _ => nofun
  fun_induction settle t cwd depth links place names with
  | case1 => exact hplace
  | case2 _ _ _ _ _ _ ih => exact ih hplace (onward hnames)
  | case3 _ _ _ _ _ ih => exact ih hplace.parent (onward hnames)
  | case4 | case7 => exact (hplace.child (hnames _ List.mem_cons_self)).append (onward hnames)
  | case5 links place n rest _ _ target _ _ _ s _ ihinner ihrest =>
    exact ihrest (ihinner (origin hplace target) fun _ => not_mem_of_mem_splitOn) (onward hnames)
  | case6 links place n rest _ _ target _ _ _ s _ ihinner =>
    have hinner : s.trail.Slashless := ihinner (origin hplace target) fun _ => not_mem_of_mem_splitOn
    exact hinner.append (onward hnames)
  | case8 _ _ _ _ _ _ _ _ ih => exact ih (hplace.child (hnames _ List.mem_cons_self)) (onward hnames)

theorem settled_components (t : FileTree) {p : Path} (hcwd : ∀ n ∈ cwd, slash ∉ n) (hp : p.IsNormal) :
    ∀ n ∈ t.settled cwd p.anchor p.parts, IsComponent n := by
  have hstart : (Trail.start p.anchor).Slashless := fun _ => nofun
  have htrail := settle_slashless t cwd settleLimit [] hstart fun n hn => (hp n hn).slash_notMem
  refine components_of_collapse fun n hn => ?_
  split at hn
  · exact htrail n hn
  · exact (List.mem_append.1 hn).elim (hcwd n) (htrail n)

theorem resolve_components {p : Path} {l : Location} (hcwd : ∀ n ∈ cwd, slash ∉ n) (hp : p.IsNormal)
    (h : t.resolve cwd p = .ok l) : ∀ n ∈ l, IsComponent n := by
  rw [resolve] at h
  split at h
  · cases h
  simp only at h
  split at h
  · cases h
  · cases h
    exact settled_components t hcwd hp

/-! ## Names of files -/

def Nameable (path : Text) : Prop := ∀ c ∈ path, c ≠ 0 ∧ Utf8.IsNameCharacter c

instance (path : Text) : Decidable (Nameable path) :=
  inferInstanceAs (Decidable (∀ c ∈ path, c ≠ 0 ∧ (_ → _ ∧ _)))

theorem Nameable.append {a b : Text} (ha : Nameable a) (hb : Nameable b) : Nameable (a ++ b) :=
  fun c hc => (List.mem_append.1 hc).elim (ha c) (hb c)

theorem Nameable.joinWith {sep : Text} {names : List Text} (hs : Nameable sep)
    (h : ∀ n ∈ names, Nameable n) : Nameable (Text.joinWith sep names) := by
  intro c hc
  rcases mem_joinWith hc with hc | ⟨n, hn, hc⟩
  · exact hs c hc
  · exact h n hn c hc

theorem nameable_slash : Nameable [slash] := by
  intro c hc
  obtain rfl := List.mem_singleton.1 hc
  exact ⟨by decide, .of_scalarValue (isScalarValue_of_ascii (by decide))⟩

theorem nameable_dotDot : Nameable dotDot := by
  intro c hc
  have hdot : c = 0x2E := by simpa [dotDot] using hc
  subst hdot
  exact ⟨by decide, .of_scalarValue (isScalarValue_of_ascii (by decide))⟩

theorem nameable_anchor (a : Anchor) : Nameable a.toText := by
  cases a with
  | none => nofun
  | root => exact nameable_slash
  | doubleRoot => exact nameable_slash.append nameable_slash

theorem Nameable.encodes {path : Text} (h : Nameable path) : ∃ bs, Utf8.encodeName? path = .ok bs :=
  Utf8.encodeName?_ok_iff.2 fun c hc => (h c hc).2

theorem Nameable.not_contains {path : Text} (h : Nameable path) : path.contains 0 = false := by
  rw [← Bool.not_eq_true, List.contains_iff_mem]
  exact fun hc => (h 0 hc).1 rfl

theorem unnameable?_of_nameable {anchor : Text} {before : List Text} (ha : Nameable anchor)
    (hb : ∀ n ∈ before, Nameable n) (h : ∀ n ∈ names, Nameable n) :
    unnameable? anchor before names = none := by
  induction names generalizing before with
  | nil => rfl
  | cons n rest ih =>
    have hn := h n List.mem_cons_self
    have hrest : ∀ m ∈ rest, Nameable m := fun m hm => h m (List.mem_cons_of_mem _ hm)
    have hbefore : ∀ m ∈ before ++ [n], Nameable m := fun m hm =>
      (List.mem_append.1 hm).elim (hb m) fun hm => List.mem_singleton.1 hm ▸ hn
    obtain ⟨bs, hbs⟩ := (ha.append (nameable_slash.joinWith hbefore)).encodes
    rw [unnameable?]
    split
    · refine ih ?_ hrest
      intro m hm
      rcases mem_climb hm with hm | rfl
      · exact hb m hm
      · exact nameable_dotDot
    · simp only [hbs, hn.not_contains, Bool.false_eq_true, ↓reduceIte]
      exact ih hbefore hrest

end FileTree

structure Surroundings.Regular (around : Surroundings) : Prop where
  home : around.tree.Holds around.cwd .directory
  nameable : ∀ l e, around.tree.find? l = some e → ∀ n ∈ l, FileTree.Nameable n

theorem Surroundings.Regular.of_keys {around : Surroundings}
    (home : around.tree.Holds around.cwd .directory)
    (nameable : ∀ l ∈ around.tree.keys, ∀ n ∈ l, FileTree.Nameable n) : around.Regular where
  home := home
  nameable l e found := by
    rw [FileTree.find?] at found
    split at found
    · next hl =>
      subst hl
      exact fun n hn => absurd hn List.not_mem_nil
    · exact nameable l (List.mem_map_of_mem (OrderedMap.mem_of_get? found))

namespace FileTree

open ResourceLookup.Path Text

variable {t : FileTree} {cwd : Location} {p : Path} {q : Location} {e : Entry}

theorem lookup_of_locate {path : Text} {r : Location × Entry} (nameable : isNameable path = true)
    (h : t.locate cwd path = .ok r) : t.lookup cwd path = .ok (some r) := by
  rw [lookup, nameable, h]
  rfl

theorem locate_of_lookup {path : Text} {r : Location × Entry}
    (h : t.lookup cwd path = .ok (some r)) : t.locate cwd path = .ok r := by
  rw [lookup] at h
  split at h
  · cases h
  · cases hl : t.locate cwd path with
    | ok r' =>
      rw [hl] at h
      cases h
      rfl
    | error why =>
      rw [hl] at h
      cases why <;> cases h

theorem locate_of_lookupFile {path : Text} (h : t.lookupFile cwd path = .ok (some e)) :
    ∃ q, t.locate cwd path = .ok (q, e) := by
  rw [lookupFile] at h
  cases hl : t.lookup cwd path with
  | error f =>
    rw [hl] at h
    cases h
  | ok found? =>
    cases found? with
    | none =>
      rw [hl] at h
      cases h
    | some r =>
      rw [hl] at h
      simp only [Except.ok.injEq, Option.ite_none_right_eq_some, Option.some.injEq] at h
      exact ⟨r.1, h.2 ▸ locate_of_lookup hl⟩

def SeesLinks (t : FileTree) (cwd : Location) (p : Path) : Prop :=
  ∀ ls s e, t.Leads cwd ls (.start p.anchor) .directory p.parts s e →
    ∀ c ∈ ls, isTooLongPath c.toText = false

theorem SeesLinks.of_leads {ls : List Trail} {s : Trail}
    (leads : t.Leads cwd ls (.start p.anchor) .directory p.parts s e)
    (seen : ∀ c ∈ ls, isTooLongPath c.toText = false) : t.SeesLinks cwd p := by
  intro ls' s' e' leads'
  obtain ⟨rfl, -, -⟩ := leads.functional leads'
  exact seen

theorem Trail.location_start (home : t.Holds cwd .directory) (anchor : Anchor) :
    (Trail.start anchor).location cwd = if anchor = .none then cwd else [] := by
  cases anchor with
  | none =>
    have hcwd := collapse_of_components home.components
    simpa [Trail.start, Trail.location] using hcwd
  | root | doubleRoot => rfl

theorem Trail.start_normal (anchor : Anchor) : (Trail.start anchor).IsNormal := fun _ => nofun

theorem leads_of_locate {path : Text} (home : t.Holds cwd .directory)
    (h : t.locate cwd path = .ok (q, e)) :
    ∃ ls s, t.Leads cwd ls (.start (anchorOf path)) .directory (partsOf path) s e ∧
      s.location cwd = q ∧ ls.length ≤ linkLimit ∧ t.Holds q e := by
  rw [locate] at h
  split at h
  · cases h
  split at h
  · cases h
  · have hstart := Trail.location_start home (anchorOf path)
    have normal := Trail.start_normal (anchorOf path)
    obtain ⟨ls, s, leads, rfl, hlen⟩ :=
      leads_of_walk h normal hstart fun _ => not_mem_of_mem_splitOn
    have holds : t.Holds ((Trail.start (anchorOf path)).location cwd) .directory := by
      rw [hstart]
      split
      · exact home
      · exact .root
    exact ⟨ls, s, leads.filter, rfl, hlen, (leads.holds normal holds).1⟩

theorem settled_of_leads {ls : List Trail} {s : Trail}
    (leads : t.Leads cwd ls (.start p.anchor) .directory p.parts s e) (sees : t.SeesLinks cwd p)
    (hlen : ls.length ≤ linkLimit) : t.settled cwd p.anchor p.parts = s.location cwd := by
  have hsettle : t.settle cwd settleLimit [] (.start p.anchor) p.parts = ⟨s, true⟩ :=
    settle_of_leads leads (sees ls s e leads) settleLimit [] (Nat.le_trans hlen (by decide))
      fun _ => nofun
  exact congrArg (fun s => s.trail.location cwd) hsettle

theorem resolve_of_settled {l : Location} (nameable : unnameable? p.anchor.toText [] p.parts = none)
    (settled : t.settled cwd p.anchor p.parts = l)
    (h : t.locate [] (Location.toText l) ≠ .error .tooManyLinks) : t.resolve cwd p = .ok l := by
  rw [resolve, nameable, settled]
  simp only

theorem resolve_of_circle {l : Location} (nameable : unnameable? p.anchor.toText [] p.parts = none)
    (settled : t.settled cwd p.anchor p.parts = l)
    (h : t.locate [] (Location.toText l) = .error .tooManyLinks) :
    t.resolve cwd p = .error (symlinkLoop l) := by
  rw [resolve, nameable, settled]
  simp only [h]

end FileTree

namespace Surroundings.Regular

open FileTree

variable {around : Surroundings} {path : Text} {q : Location} {e : Entry}

theorem nameable_location (h : around.Regular) (holds : around.tree.Holds q e) :
    Nameable (Location.toText q) :=
  nameable_slash.append (nameable_slash.joinWith (h.nameable q e holds.find?))

theorem nameable_names (h : around.Regular) {ls : List Trail} {r s : Trail} {f : Entry}
    {names : List Text} (leads : around.tree.Leads around.cwd ls r e names s f) :
    ∀ n ∈ names, Nameable n := by
  have hentry : ∀ {l : Location} {n : Text} {e : Entry}, around.tree.find? (l ++ [n]) = some e →
      Nameable n := fun found =>
    h.nameable _ _ found _ (List.mem_append_right _ (List.mem_singleton_self _))
  induction leads with
  | done => exact fun _ => nofun
  | stay blank _ ih =>
    refine List.forall_mem_cons.2 ⟨?_, ih⟩
    rcases blank with rfl | rfl
    · exact fun _ => nofun
    · exact fun c hc => nameable_dotDot c (List.mem_cons_of_mem _ hc)
  | up _ ih => exact List.forall_mem_cons.2 ⟨nameable_dotDot, ih⟩
  | enter _ _ found _ _ ih => exact List.forall_mem_cons.2 ⟨hentry found, ih⟩
  | follow _ _ found _ _ _ ih => exact List.forall_mem_cons.2 ⟨hentry found, ih⟩

/-- A path at which something is is resolved to where that is, if its links are seen. -/
theorem resolve_of_locate (h : around.Regular)
    (sees : around.tree.SeesLinks around.cwd (Path.ofText path))
    (found : around.tree.locate around.cwd path = .ok (q, e)) :
    around.tree.resolve around.cwd (Path.ofText path) = .ok q ∧ around.tree.Holds q e := by
  obtain ⟨ls, s, leads, rfl, hlen, holds⟩ := leads_of_locate h.home found
  have hsettled : around.tree.settled around.cwd (Path.ofText path).anchor (Path.ofText path).parts =
      s.location around.cwd := settled_of_leads leads sees hlen
  have hnone : unnameable? (Path.ofText path).anchor.toText [] (Path.ofText path).parts = none :=
    unnameable?_of_nameable (nameable_anchor _) (fun _ => nofun) (h.nameable_names leads)
  refine ⟨resolve_of_settled hnone hsettled ?_, holds⟩
  rw [holds.locate []]
  split <;> nofun

theorem urlOf_of_locate (h : around.Regular)
    (sees : around.tree.SeesLinks around.cwd (Path.ofText path))
    (found : around.tree.locate around.cwd path = .ok (q, e)) :
    ∃ url, around.tree.urlOf around.cwd (Path.ofText path) = .ok url := by
  obtain ⟨hresolve, holds⟩ := h.resolve_of_locate sees found
  obtain ⟨bs, hbs⟩ := (h.nameable_location holds).encodes
  refine ⟨text "file://" ++ Url.Percent.encode bs, ?_⟩
  rw [urlOf, hresolve]
  simp only [Location.toUrl, hbs]
  rfl

theorem urlOf_of_normal (h : around.Regular) {p : Path} (hp : p.IsNormal)
    (sees : around.tree.SeesLinks around.cwd p)
    (found : around.tree.locate around.cwd p.toText = .ok (q, e)) :
    ∃ url, around.tree.urlOf around.cwd p = .ok url := by
  have hpath := Path.ofText_toText hp
  rw [← hpath] at sees ⊢
  exact h.urlOf_of_locate sees found

end Surroundings.Regular

/-! ## Paths without an address -/

namespace FileTree

open ResourceLookup.Path Text

variable {t : FileTree} {cwd : Location} {p : Path} {f : Fault}

theorem fault_of_unnameable? {anchor : Text} {before names : List Text}
    (h : unnameable? anchor before names = some f) :
    (∃ u, f = .ofUnencodable u) ∨ f = .embeddedNull := by
  induction names generalizing before with
  | nil => cases h
  | cons n rest ih =>
    rw [unnameable?] at h
    split at h
    · exact ih h
    · cases hbs : Utf8.encodeName? (anchor ++ Text.joinWith [Path.slash] (before ++ [n])) with
      | error u =>
        rw [hbs] at h
        cases h
        exact .inl ⟨u, rfl⟩
      | ok bs =>
        rw [hbs] at h
        simp only at h
        split at h
        · cases h
          exact .inr rfl
        · exact ih h

theorem urlOf_ne_missing (t : FileTree) (cwd : Location) (p : Path) (name : Text) :
    t.urlOf cwd p ≠ .error (.resourceNotFound name) := by
  intro h
  rw [urlOf, resolve] at h
  cases hnone : unnameable? p.anchor.toText [] p.parts with
  | some f =>
    rw [hnone] at h
    cases h
    rcases fault_of_unnameable? hnone with ⟨u, hu⟩ | hnull
    · cases hu
    · cases hnull
  | none =>
    rw [hnone] at h
    simp only at h
    split at h
    · next hresolve =>
      split at hresolve
      · cases hresolve
        cases h
      · cases hresolve
    · next l _ =>
      rw [Location.toUrl] at h
      cases hbs : Utf8.encodeName? (Location.toText l) <;> rw [hbs] at h <;> cases h

/-! ## A link that is overlooked -/

theorem isTooLongPath_of_ascii {path : Text} (h : ∀ c ∈ path, c < 0x80) :
    isTooLongPath path = decide (4096 ≤ path.length) := by
  have hbs := Utf8.encodeName?_of_scalarValues fun c hc => isScalarValue_of_ascii (h c hc)
  rw [Utf8.flatMap_encodeOne_of_ascii h] at hbs
  rw [isTooLongPath, hbs]
  simp only [List.length_map]

theorem ascii_joinWith_replicate {n p : Text} (count : Nat) (hp : ∀ c ∈ p, c < 0x80)
    (hn : ∀ c ∈ n, c < 0x80) : ∀ c ∈ joinWith [slash] (List.replicate count p ++ [n]), c < 0x80 := by
  intro c hc
  rcases mem_joinWith hc with hc | ⟨m, hm, hc⟩
  · exact List.mem_singleton.1 hc ▸ (by decide : slash < 0x80)
  · rcases List.mem_append.1 hm with hm | hm
    · exact hp c (List.eq_of_mem_replicate hm ▸ hc)
    · exact hn c (List.mem_singleton.1 hm ▸ hc)

def upwardPath (count : Nat) : Text := joinWith [slash] (List.replicate count dotDot)

theorem splitOn_upwardPath (count : Nat) :
    (upwardPath (count + 1)).splitOn slash = List.replicate (count + 1) dotDot := by
  rw [upwardPath, splitOn_joinWith (by rw [List.replicate_succ]; exact List.cons_ne_nil _ _)]
  intro n hn
  rw [List.eq_of_mem_replicate hn]
  decide

theorem anchorOf_upwardPath (count : Nat) : anchorOf (upwardPath count) = .none := by
  have hsteps : ∀ n ∈ List.replicate count dotDot, IsStep n := fun n hn =>
    List.eq_of_mem_replicate hn ▸ Trail.dotDot_isStep
  exact anchorOf_append .none (head?_joinWith hsteps)

/-- The link `k` leads into a directory, but from behind the link `u`, which leads up, it may stand
at a path that is too long to be looked up. -/
def overlooked (count : Nat) (more : FileTree) : FileTree :=
  [([text "u"], .link (upwardPath (count + 1))), ([text "k"], .link (text "d/e")),
    ([text "d"], .directory), ([text "d", text "e"], .directory),
    ([text "d", text "x"], .file (.octets [0x61]))] ++ more

theorem regular_overlooked (count : Nat) {more : FileTree}
    (nameable : ∀ l ∈ more.keys, ∀ n ∈ l, Nameable n) :
    Surroundings.Regular { tree := overlooked count more, cwd := [] } := by
  refine .of_keys .root fun l hl => ?_
  rw [overlooked, OrderedMap.keys, List.map_append] at hl
  rcases List.mem_append.1 hl with hl | hl
  · have hkeys : ∀ l ∈ [[text "u"], [text "k"], [text "d"], [text "d", text "e"],
        [text "d", text "x"]], ∀ n ∈ l, Nameable n := by decide
    exact hkeys l hl
  · exact nameable l hl

theorem locate_overlooked (count : Nat) (more : FileTree) :
    (overlooked count more).locate [] (text "u/k/../x") =
      .ok ([text "d", text "x"], .file (.octets [0x61])) := by
  have hsplit : (text "u/k/../x").splitOn slash = [text "u", text "k", dotDot, text "x"] := by decide
  have htarget : (text "d/e").splitOn slash ++ [dotDot, text "x"] =
      [text "d", text "e", dotDot, text "x"] := by decide
  have component : ∀ n ∈ [text "u", text "k", text "d", text "e", text "x"],
      IsComponent n ∧ isTooLong n = false := by decide
  have up : (overlooked count more).find? ([] ++ [text "u"]) =
    some (.link (upwardPath (count + 1))) := rfl
  have link : (overlooked count more).find? ([] ++ [text "k"]) = some (.link (text "d/e")) := rfl
  have outer : (overlooked count more).find? ([] ++ [text "d"]) = some .directory := rfl
  have inner : (overlooked count more).find? ([text "d"] ++ [text "e"]) = some .directory := rfl
  have file : (overlooked count more).find? ([text "d"] ++ [text "x"]) =
    some (.file (.octets [0x61])) := rfl
  simp only [List.forall_mem_cons] at component
  obtain ⟨⟨hu, hu'⟩, ⟨hk, hk'⟩, ⟨hd, hd'⟩, ⟨he, he'⟩, ⟨hx, hx'⟩, -⟩ := component
  rw [locate, if_neg (by decide), if_neg (by decide), if_pos (by decide), hsplit, linkLimit,
    walk_follow hu hu' up, anchorOf_upwardPath, if_pos rfl, splitOn_upwardPath, walk_dotDots,
    walk_follow hk hk' link, if_pos (by decide), htarget,
    walk_enter hd hd' outer (by simp), List.nil_append, walk_enter he he' inner (by simp),
    walk_dotDot]
  exact (walk_enter hx hx' file (by simp)).trans (by rw [walk]; rfl)

def Trail.upward (count : Nat) : Trail := ⟨false, List.replicate count dotDot⟩

theorem Trail.parent_upward (count : Nat) : (upward count).parent = upward (count + 1) := by
  rw [parent, upward, upward, climb, List.replicate_succ']
  cases count with
  | zero => rfl
  | succ count => simp [List.replicate_succ']

theorem Trail.location_child_upward (count : Nat) {n : Text} (name : IsComponent n) :
    ((upward count).child n).location [] = [n] := by
  rw [location_child [] _ name]
  exact congrArg (· ++ [n]) (collapse_replicate_dotDot count)

theorem Trail.tooLong_child_upward {count : Nat} {n : Text} (ascii : ∀ c ∈ n, c < 0x80)
    (h : 4096 ≤ 3 * count + n.length) : isTooLongPath ((upward count).child n).toText = true := by
  have htext : ((upward count).child n).toText =
      joinWith [slash] (List.replicate count dotDot ++ [n]) := rfl
  have hlength := length_joinWith_replicate slash count dotDot n
  rw [show dotDot.length = 2 from rfl] at hlength
  rw [htext, isTooLongPath_of_ascii (ascii_joinWith_replicate count (by decide) ascii),
    decide_eq_true_eq]
  omega

theorem settle_dotDots (t : FileTree) (cwd : Location) (depth : Nat) (links : List Trail)
    (count k : Nat) :
    t.settle cwd depth links (.upward k) (List.replicate count dotDot) =
      ⟨.upward (k + count), true⟩ := by
  induction count generalizing k with
  | zero => rw [List.replicate_zero, settle, Nat.add_zero]
  | succ count ih =>
    rw [List.replicate_succ, settle_dotDot, Trail.parent_upward, ih, Nat.add_right_comm,
      Nat.add_assoc]

theorem settled_overlooked {count : Nat} (h : 4096 ≤ 3 * (count + 1) + 1) (more : FileTree) :
    (overlooked count more).settled [] .none [text "u", text "k", dotDot, text "x"] = [text "x"] := by
  have component : ∀ n ∈ [text "u", text "k", text "x"], IsComponent n := by decide
  simp only [List.forall_mem_cons] at component
  obtain ⟨hu, hk, hx, -⟩ := component
  have up : (overlooked count more).linkAt? [] ((Trail.upward 0).child (text "u")) =
      some (upwardPath (count + 1)) :=
    linkAt?_of_link hu rfl (by decide)
  have inner : (overlooked count more).settle [] 999 [(Trail.upward 0).child (text "u")]
      ((Trail.upward 0).origin (upwardPath (count + 1))) ((upwardPath (count + 1)).splitOn slash) =
        ⟨.upward (count + 1), true⟩ := by
    rw [Trail.origin, if_pos (anchorOf_upwardPath _), splitOn_upwardPath, settle_dotDots,
      Nat.zero_add]
  have hk' : (overlooked count more).linkAt? [] ((Trail.upward (count + 1)).child (text "k")) =
      none :=
    linkAt?_of_tooLong (Trail.tooLong_child_upward (by decide) h)
  have hx' : (overlooked count more).linkAt? [] ((Trail.upward (count + 1)).child (text "x")) =
      none :=
    linkAt?_of_tooLong (Trail.tooLong_child_upward (by decide) h)
  rw [settled, show (⟨Anchor.none != .none, []⟩ : Trail) = .upward 0 from rfl,
    show settleLimit = 999 + 1 from rfl, settle_follow hu up List.not_mem_nil inner,
    settle_plain hk hk', settle_dotDot, Trail.parent_child _ hk.ne_dotDot, settle_plain hx hx',
    settle]
  exact Trail.location_child_upward (count + 1) hx

end FileTree
end ResourceLookup
