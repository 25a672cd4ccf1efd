import ResourceLookup.Proofs.Modules.Replay

/-!
# Modules that are missing

The import system says that it has found no module with a fault that is about the module asked for
or one of its parents. When not even the first part of a name is found, and none of the modules that
the name leads through is registered, every lookup of a class of that name ends without one, but for
two limits of the import system: it takes no name that begins with a full stop, and it goes through
so many parents only.
-/

namespace ResourceLookup

def LeadsTo (name other : Text) : Prop := name = other ∨ name ++ [0x2E] <+: other

def Fault.SaysMissing (o : Objects) (f : Fault) (name : Text) : Prop :=
  f.isModuleMissing = true ∧ Import.isMissing o name f.subject = .ok true

def Fault.Baffles (o : Objects) (f : Fault) (name : Text) (g : Fault) : Prop :=
  f.isModuleMissing = true ∧ Import.isMissing o name f.subject = .error g

/-! ## The parts of a name -/

theorem topName_cons {c : Nat} (h : c ≠ 0x2E) (r : Text) : topName (c :: r) = c :: topName r := by
  simp [topName, h]

theorem topName_cons_dot (r : Text) : topName (0x2E :: r) = [] := rfl

theorem topName_cases (name : Text) :
    0x2E ∉ name ∧ topName name = name ∨ ∃ rest, name = topName name ++ 0x2E :: rest := by
  induction name with
  | nil => exact .inl ⟨List.not_mem_nil, rfl⟩
  | cons c r ih =>
    by_cases hc : c = 0x2E
    · exact .inr ⟨r, by rw [hc, topName_cons_dot]; rfl⟩
    · rw [topName_cons hc]
      rcases ih with ⟨hdot, htop⟩ | ⟨rest, hr⟩
      · exact .inl ⟨by simp [Ne.symm hc, hdot], by rw [htop]⟩
      · exact .inr ⟨rest, by rw [List.cons_append, ← hr]⟩

theorem topName_of_undotted {name : Text} (h : 0x2E ∉ name) : topName name = name := by
  rcases topName_cases name with ⟨-, htop⟩ | ⟨rest, hname⟩
  · exact htop
  · rw [hname] at h
    simp at h

theorem topName_append (a b : Text) : topName (a ++ 0x2E :: b) = topName a := by
  induction a with
  | nil => rfl
  | cons c r ih =>
    by_cases hc : c = 0x2E
    · rw [hc]
      rfl
    · rw [List.cons_append, topName_cons hc, topName_cons hc, ih]

theorem splitOn_eq_topName_cons (name : Text) :
    ∃ rest, Text.splitOn 0x2E name = topName name :: rest := by
  induction name with
  | nil => exact ⟨[], rfl⟩
  | cons c r ih =>
    obtain ⟨rest, hr⟩ := ih
    by_cases hc : c = 0x2E
    · exact ⟨Text.splitOn 0x2E r, by rw [Text.splitOn, if_pos hc, hc, topName_cons_dot]⟩
    · exact ⟨rest, by rw [Text.splitOn, if_neg hc, hr, topName_cons hc]⟩

theorem parentName_cases (name : Text) :
    parentName name = [] ∧ 0x2E ∉ name ∨ ∃ last, name = parentName name ++ 0x2E :: last := by
  rw [parentName]
  cases h : Text.cutLast 0x2E name with
  | none => exact .inl ⟨rfl, Text.cutLast_eq_none_iff.1 h⟩
  | some p => exact .inr ⟨p.2, Text.eq_of_cutLast h⟩

theorem leadsTo_topName (name : Text) : LeadsTo (topName name) name := by
  rcases topName_cases name with ⟨-, htop⟩ | ⟨rest, hname⟩
  · exact .inl htop
  · exact .inr ⟨rest, by rw [List.append_assoc]; exact hname.symm⟩

theorem not_prefix_of_undotted {p name : Text} (h : 0x2E ∉ name) : ¬ p ++ [0x2E] <+: name :=
  fun hp => h (hp.subset (by simp))

theorem LeadsTo.append {p a : Text} (h : LeadsTo p a) (b : Text) : LeadsTo p (a ++ 0x2E :: b) := by
  rcases h with rfl | h
  · exact .inr ⟨b, by simp⟩
  · exact .inr (h.trans (List.prefix_append _ _))

namespace Fault

theorem eq_of_mem_lineage {kind base : String} (above : ∀ p ∈ parents, p.2 ≠ kind)
    (special : kind ≠ "Exception") {depth : Nat} (h : kind ∈ lineage depth base) : kind = base := by
  induction depth generalizing base with
  | zero => cases h
  | succ depth ih =>
    rw [lineage] at h
    split at h
    · exact List.mem_singleton.1 h
    · rcases List.mem_cons.1 h with hown | hup
      · exact hown
      · -- What is above is named in the table, or it is the kind of most faults.
        have hparent := ih hup
        rw [parentKind] at hparent
        split at hparent
        · next p hp => exact absurd hparent.symm (above p (List.mem_of_find?_eq_some hp))
        · exact absurd hparent special

end Fault

namespace Import

variable {around : Surroundings} {name : Text} {path : List Text} {s s' : ModuleSpace} {f : Fault}

theorem leadsTo_iff (missing name : Text) : leadsTo missing name = true ↔ LeadsTo missing name := by
  simp [leadsTo, LeadsTo]

theorem saysMissing_named_iff {o : Objects} {n : Text} (h : f.subject = .named n) (name : Text) :
    f.SaysMissing o name ↔ f.isModuleMissing = true ∧ LeadsTo n name := by
  rw [Fault.SaysMissing, h, isMissing, Except.ok.injEq, leadsTo_iff]

theorem isOrdinary_of_isModuleMissing (h : f.isModuleMissing = true) : f.isOrdinary = true := by
  obtain ⟨base, hbase, hkind⟩ := List.any_eq_true.1 h
  have hown := Fault.eq_of_mem_lineage (by decide) (by decide) (List.contains_iff_mem.1 hkind)
  exact List.any_eq_true.2 ⟨base, hbase, by rw [← hown]; decide⟩

theorem importClass_of_importNamed_error (module : (splitClassName name).1 ≠ [])
    (members : (splitClassName name).2 ≠ [])
    (h : importNamed around (splitClassName name).1 s = .error f s') :
    (f.SaysMissing s.objects (splitClassName name).1 → importClass around name s = .ok none s') ∧
      (∀ g, f.Baffles s.objects (splitClassName name).1 g →
        importClass around name s = .error g s') ∧
      (¬ f.SaysMissing s.objects (splitClassName name).1 →
        (∀ g, ¬ f.Baffles s.objects (splitClassName name).1 g) →
        importClass around name s = .error (linked name f) s') := by
  refine ⟨?_, ?_, ?_⟩
  · rintro ⟨hkind, hasked⟩
    simp [importClass, module, members, h, hkind, hasked]
  · rintro g ⟨hkind, hfails⟩
    simp [importClass, module, members, h, hkind, hfails]
  · intro missing baffling
    simp only [importClass, module, members, h, linked]
    cases hkind : f.isModuleMissing with
    | false => cases f.isOrdinary <;> rfl
    | true =>
      rw [isOrdinary_of_isModuleMissing hkind]
      cases hasked : isMissing s.objects (splitClassName name).1 f.subject with
      | error g => exact absurd ⟨hkind, hasked⟩ (baffling g)
      | ok about =>
        cases about with
        | false => rfl
        | true => exact absurd ⟨hkind, hasked⟩ missing

def NowhereOn (around : Surroundings) (s : ModuleSpace) (name : Text) (path : List Text) : Prop :=
  ∀ entry ∈ path, ∃ finder?, (s.recognize around entry).1 = .ok finder? ∧
    ∀ finder ∈ finder?, finder.find around name = .ok none

theorem search_of_nowhere (h : NowhereOn around s name path) :
    ∃ s', search around name [] path s = .ok none s' := by
  induction path generalizing s with
  | nil => exact ⟨s, rfl⟩
  | cons entry rest ih =>
    obtain ⟨finder?, hseen, hfind⟩ := h entry List.mem_cons_self
    -- What is recognised now is kept in mind, and entries stand for what they did.
    have hrest : NowhereOn around (s.recognize around entry).2 name rest := by
      intro e he
      rw [ModuleSpace.recognize_finder]
      exact h e (List.mem_cons_of_mem _ he)
    rw [search, get_bind_apply]
    generalize s.recognize around entry = x at hseen hrest
    obtain ⟨_, s₁⟩ := x
    subst hseen
    obtain ⟨s', hs'⟩ := ih hrest
    refine ⟨s', ?_⟩
    simp only [set_bind_apply]
    cases finder? with
    | none => exact hs'
    | some finder =>
      simp only [hfind finder rfl]
      exact hs'

theorem NowhereOn.of_alike (h : NowhereOn around s name path)
    (alike : Alike around s.registry s s') : NowhereOn around s' name path := by
  intro entry he
  rw [← alike.finder entry]
  exact h entry he

theorem find_of_nowhere (h : NowhereOn around s name path) :
    ∃ s', find around name path s = .ok none s' ∧ Alike around s.registry s s' := by
  have halike : Alike around s.registry s (after (find around name path) s) :=
    (Alike.own s).find name path
  obtain ⟨s', hsearch⟩ := search_of_nowhere h
  have hfind : find around name path s = .ok none s' := hsearch
  rw [after_ok hfind] at halike
  exact ⟨s', hfind, halike⟩

/-! ## Lookups in vain -/

def NamesClass (name : Text) : Prop := (splitClassName name).1 ≠ [] ∧ (splitClassName name).2 ≠ []

/-- Below a path it is enough that the first part of the name is not there. -/
theorem loadUnder_of_nowhere
    (new : NamesClass name → s.registered? (topName (splitClassName name).1) = none)
    (nowhere : NamesClass name → NowhereOn around s (topName (splitClassName name).1) path) :
    ∃ s', loadUnder around name path s = .ok none s' ∧ Alike around s.registry s s' := by
  by_cases hn : (splitClassName name).1 = [] ∨ (splitClassName name).2 = []
  · exact ⟨s, loadUnder_of_unsplit hn, Alike.own s⟩
  have hnames : NamesClass name := not_or.1 hn
  -- The walk stops at the first part, whatever the others are.
  obtain ⟨s', hfind, halike⟩ := find_of_nowhere (nowhere hnames)
  obtain ⟨rest, hparts⟩ := splitOn_eq_topName_cons (splitClassName name).1
  have hstep : stepTo around name (walkedName [] none (topName (splitClassName name).1))
      (some path) s = .ok none s' := by
    rw [walkedName, Option.isNone_none, if_pos rfl, stepTo_anew (new hnames), loadLinked,
      bind_ok hfind]
    rfl
  have hwalk : walk around name [] (some path) none (Text.splitOn 0x2E (splitClassName name).1) s =
      .ok none s' := by
    rw [hparts]
    exact walk_stopped rest hstep
  exact ⟨s', loadUnder_of_walk hn hwalk, halike⟩

/-- No module is located that the name leads through: none is registered, and the first is not
found on the path. -/
structure Unlocated (around : Surroundings) (s : ModuleSpace) (name : Text) (path : List Text) :
    Prop where
  new : ∀ p, LeadsTo p name → s.registered? p = none
  nowhere : NowhereOn around s (topName name) path

theorem Unlocated.of_alike (h : Unlocated around s name path)
    (alike : Alike around s.registry s s') : Unlocated around s' name path where
  new p hp := by
    rw [ModuleSpace.registered?, ← alike.registry]
    exact h.new p hp
  nowhere := h.nowhere.of_alike alike

theorem Unlocated.of_append {a b : Text} (h : Unlocated around s (a ++ 0x2E :: b) path) :
    Unlocated around s a path where
  new p hp := h.new p (hp.append b)
  nowhere := topName_append a b ▸ h.nowhere

theorem importModule_of_unlocated {depth : Nat} (h : Unlocated around s name around.searchPath)
    (absolute : name.head? ≠ some 0x2E) (few : name.count 0x2E < depth) :
    ∃ s', importModule around depth name s = .error (.moduleMissing (topName name) none) s' ∧
      Alike around s.registry s s' := by
  induction depth generalizing name with
  | zero => exact absurd few (Nat.not_lt_zero _)
  | succ depth ih =>
    have hnew : s.registered? name = none := h.new name (.inl rfl)
    rw [importModule_succ, get_bind_apply]
    simp only [hnew]
    rcases parentName_cases name with ⟨htop, hdot⟩ | ⟨last, hname⟩
    · have hown := topName_of_undotted hdot
      obtain ⟨s', hfind, halike⟩ := find_of_nowhere h.nowhere
      rw [hown] at hfind
      rw [if_pos htop, hown]
      exact ⟨s', bind_ok hfind, halike⟩
    · -- The parent is imported first, and the fault is that of the first part of the name.
      generalize parentName name = parent at hname ⊢
      subst hname
      have hparent : parent ≠ [] := by
        rintro rfl
        exact absolute rfl
      have hunbegun : s.registered? parent = none :=
        h.new parent (.inr ⟨last, by simp⟩)
      have habsolute : parent.head? ≠ some 0x2E := by
        obtain ⟨c, r, rfl⟩ := List.exists_cons_of_ne_nil hparent
        exact absolute
      have hfew : parent.count 0x2E < depth := by
        rw [List.count_append, List.count_cons_self] at few
        omega
      obtain ⟨s', herror, halike⟩ := ih h.of_append habsolute hfew
      rw [if_neg hparent, get_bind_apply, ModuleSpace.isRegistered, hunbegun, topName_append]
      exact ⟨s', bind_error (bind_error herror), halike⟩

/-- The import system takes the name as that of a module: it does not begin with a full stop, nor
lead through more parents than imports may be nested. -/
structure Importable (around : Surroundings) (name : Text) : Prop where
  absolute : name.head? ≠ some 0x2E
  few : name.count 0x2E < around.nestingLimit

theorem importNamed_of_unlocated (h : Unlocated around s name around.searchPath)
    (nonempty : name ≠ []) (takes : Importable around name) :
    ∃ s', importNamed around name s = .error (.moduleMissing (topName name) none) s' ∧
      Alike around s.registry s s' := by
  rw [importNamed, if_neg takes.absolute, if_neg nonempty]
  exact importModule_of_unlocated h takes.absolute takes.few

theorem saysMissing_moduleMissing {p : Text} (h : LeadsTo p name) (o : Objects)
    (plain : Option Text) : (Fault.moduleMissing p plain).SaysMissing o name :=
  (saysMissing_named_iff rfl name).2 ⟨rfl, h⟩

theorem importClass_of_unlocated
    (h : NamesClass name → Unlocated around s (splitClassName name).1 around.searchPath)
    (takes : NamesClass name → Importable around (splitClassName name).1) :
    ∃ s', importClass around name s = .ok none s' ∧ Alike around s.registry s s' := by
  by_cases hn : (splitClassName name).1 = [] ∨ (splitClassName name).2 = []
  · exact ⟨s, by simp [importClass, hn], Alike.own s⟩
  have hnames : NamesClass name := not_or.1 hn
  obtain ⟨s', herror, halike⟩ := importNamed_of_unlocated (h hnames) hnames.1 (takes hnames)
  exact ⟨s', (importClass_of_importNamed_error hnames.1 hnames.2 herror).1
    (saysMissing_moduleMissing (leadsTo_topName _) _ none), halike⟩

end Import
end ResourceLookup
