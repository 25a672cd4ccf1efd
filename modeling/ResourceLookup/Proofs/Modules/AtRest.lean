import ResourceLookup.Proofs.Modules.Onward

/-!
# Spaces at rest

Between lookups no body runs, and every module that has completed stands for its name. What is
done to such a space leaves modules as they are, apart from packages that gain a member, and with
them the classes that a name leads to.
-/

namespace ResourceLookup

namespace ModuleSpace

variable {s t : ModuleSpace} {v : Value} {parts : List Text} {k : ClassId} {name : Text}

/-- No body runs, what is registered is a module of the name, and every module that has completed
stands for its name. -/
structure AtRest (s : ModuleSpace) : Prop where
  ended : ∀ {id m}, s.module? id = some m → m.isRunning = false
  named : s.Named
  once : s.Once

theorem Onward.atRest (h : Onward s t) (hs : s.AtRest) : t.AtRest where
  ended {id n} hn := by
    cases hm : s.module? id with
    | none => exact (h.fresh hm hn).2
    | some m =>
      obtain ⟨n', hn', hframe⟩ := h.kept hm
      rw [hn] at hn'
      cases hn'
      rw [Module.isRunning_of_frame hframe]
      exact hs.ended hm
  named := h.named hs.named
  once := h.once hs.once

theorem start_atRest : start.AtRest := by
  have hended : ∀ m ∈ start.modules, m.isRunning = false := by decide
  have hnamed : ∀ p ∈ start.registry, (start.module? p.2).map (·.name) = some p.1 := by decide
  have hown : ∀ id : Fin start.modules.length,
      start.registered? start.modules[id].name = some id.val := by decide
  have hlast : ∀ id j : Fin start.modules.length,
      start.modules[j].name = start.modules[id].name → j ≤ id := by decide
  refine ⟨fun hm => hended _ (List.mem_of_getElem? hm), fun name id hid => ?_, fun id m hm _ => ?_⟩
  · exact Option.map_eq_some_iff.1 (hnamed _ (OrderedMap.mem_of_get? hid))
  · obtain ⟨hid, rfl⟩ := List.getElem?_eq_some_iff.1 hm
    refine ⟨hown ⟨id, hid⟩, fun j n hn hname => ?_⟩
    obtain ⟨hj, rfl⟩ := List.getElem?_eq_some_iff.1 hn
    exact hlast ⟨id, hid⟩ ⟨j, hj⟩ hname

/-! ## What names lead to -/

def gainsAt (s t : ModuleSpace) : Value → Text → Bool
  | .ofModule id, x => (s.module? id).any fun m => s.gains t m x
  | _, _ => false

def interposes (s t : ModuleSpace) (v : Value) : List Text → Bool
  | [] => false
  | p :: ps =>
    s.gainsAt t v p ||
      match s.member? v p with
      | none => false
      | some v' => s.interposes t v' ps

def Names (s : ModuleSpace) (name : Text) (k : ClassId) : Prop :=
  ∃ id, s.registered? (splitClassName name).1 = some id ∧
    s.classAt? (.ofModule id) ((splitClassName name).2.splitOn 0x2E) = some k

def interposesFor (s t : ModuleSpace) (name : Text) : Bool :=
  match s.registered? (splitClassName name).1 with
  | none => false
  | some id => s.interposes t (.ofModule id) ((splitClassName name).2.splitOn 0x2E)

theorem Onward.member (h : Onward s t) (hs : s.AtRest) {p : Text} {v' : Value}
    (kept : s.gainsAt t v p = false) (hv : s.member? v p = some v') : t.member? v p = some v' := by
  unfold member? at hv ⊢
  rw [h.objects.objects]
  -- What the runtime says is the same, so that only what the value holds itself is to be looked at.
  rcases Option.or_eq_some_iff.1 hv with hfixed | ⟨hfixed, hv⟩
  · rw [hfixed]
    rfl
  rw [hfixed, Option.none_or]
  cases v with
  | ofClass c =>
    obtain ⟨o, ho, hmember⟩ := Option.bind_eq_some_iff.1 hv
    obtain ⟨more, hmore⟩ := h.objects.classes
    have hlt := (List.getElem?_eq_some_iff.1 ho).1
    simp only [← hmore, List.getElem?_append_left hlt, ho]
    exact hmember
  | ofModule id =>
    obtain ⟨m, hm, hmember⟩ := Option.bind_eq_some_iff.1 hv
    obtain ⟨n, hn, hframe⟩ := h.kept hm
    have hpath := Module.pathMember_of_frame hframe (hs.ended hm) p
    have hstays : n.members.get? p = m.members.get? p := by
      rcases h.members hs.named hm hn (hs.ended hm) p with heq | hgains
      · exact heq
      · rw [gainsAt, module?, hm, Option.any_some, hgains] at kept
        cases kept
    rw [module?] at hn
    simp only [global?, hm, hn, Option.bind_some, hstays, hpath, h.objects.objects] at hmember ⊢
    exact hmember
  | _ => exact hv

theorem Onward.classAt (h : Onward s t) (hs : s.AtRest) (kept : s.interposes t v parts = false)
    (hv : s.classAt? v parts = some k) : t.classAt? v parts = some k := by
  induction parts generalizing v with
  | nil => exact hv
  | cons p ps ih =>
    rw [classAt?_cons] at hv ⊢
    rw [interposes, Bool.or_eq_false_iff] at kept
    obtain ⟨v', hfilter, hclass⟩ := Option.bind_eq_some_iff.1 hv
    have hmember := (Option.filter_eq_some_iff.1 hfilter).1
    rw [hmember] at kept hfilter
    rw [h.member hs kept.1 hmember, hfilter]
    exact ih kept.2 hclass

theorem Onward.names (h : Onward s t) (hs : s.AtRest) (kept : s.interposesFor t name = false)
    (hk : s.Names name k) : t.Names name k := by
  obtain ⟨id, hid, hclass⟩ := hk
  rw [interposesFor, hid] at kept
  exact ⟨id, h.registered hid, h.classAt hs kept hclass⟩

theorem Names.functional {k' : ClassId} (h : s.Names name k) (h' : s.Names name k') : k' = k := by
  obtain ⟨id, hid, hclass⟩ := h
  obtain ⟨id', hid', hclass'⟩ := h'
  rw [hid] at hid'
  cases hid'
  rw [hclass] at hclass'
  exact (Option.some.inj hclass').symm

theorem Names.of_split {name' : Text} (h : s.Names name k)
    (hname : splitClassName name' = splitClassName name) : s.Names name' k := by
  rw [Names, hname]
  exact h

end ModuleSpace

/-! ## Names of classes that are found -/

namespace Import

variable {around : Surroundings} {s s' : ModuleSpace} {id : ModuleId} {k : ClassId}
variable {className done name : Text} {path : Option (List Text)} {last : Option ModuleId}

def walkedTo (done : Text) (last : Option ModuleId) (parts : List Text) : Text :=
  Text.joinWith [0x2E] (if last.isNone then parts else done :: parts)

theorem walkedTo_cons (done : Text) (last : Option ModuleId) (part : Text) (rest : List Text)
    (id : ModuleId) :
    walkedTo (walkedName done last part) (some id) rest = walkedTo done last (part :: rest) := by
  cases last with
  | none => rfl
  | some i => cases rest <;> simp [walkedTo, walkedName, Text.joinWith]

theorem walk_registered {parts : List Text} (hlast : ∀ i, last = some i → s.registered? done = some i)
    (h : walk around className done path last parts s = .ok (some id) s') :
    s'.registered? (walkedTo done last parts) = some id := by
  induction parts generalizing s done path last with
  | nil =>
    cases h
    exact hlast id rfl
  | cons part rest ih =>
    rw [walk_cons] at h
    obtain ⟨found?, s₁, hstep, h⟩ := ok_of_bind h
    cases found? with
    | none => cases h
    | some i =>
      obtain ⟨entries, s₂, hlook, h⟩ := ok_of_bind h
      have hbare : (after (walkPath around i) s₁).bare = s₁.bare := bare_pathOr around _ i s₁
      rw [after_ok hlook] at hbare
      have hreg := (registered_of_bare hbare _).trans (stepTo_registers hstep)
      rw [← walkedTo_cons done last part rest i]
      exact ih (fun j hj => by cases hj; exact hreg) h

theorem loadUnder_names {path : List Text} (h : loadUnder around name path s = .ok (some k) s') :
    s'.Names name k := by
  by_cases hn : (splitClassName name).1 = [] ∨ (splitClassName name).2 = []
  · rw [loadUnder_of_unsplit hn] at h
    cases h
  obtain ⟨o, hw⟩ := walk_of_loadUnder hn h
  rw [loadUnder_of_walk hn hw] at h
  cases o with
  | none => cases h
  | some id =>
    have hreg := walk_registered (fun i hi => by cases hi) hw
    have hname : walkedTo [] none ((splitClassName name).1.splitOn 0x2E) = (splitClassName name).1 :=
      Text.joinWith_splitOn 0x2E _
    rw [hname] at hreg
    injection h with hclass
    exact ⟨id, hreg, hclass⟩

theorem load_registers {imp : Text → Import ModuleId} (himp : ∀ name, Works around (imp name))
    {path : List Text} (h : load around imp name path s = .ok id s') :
    s'.registered? name = some id := by
  obtain ⟨found?, s₁, -, h⟩ := ok_of_bind h
  cases found? with
  | none => cases h
  | some found =>
    obtain ⟨p, s₂, hmake, h⟩ := ok_of_bind h
    obtain ⟨i, s₃, hrun, h⟩ := ok_of_bind h
    obtain ⟨_, s₄, hattach, h⟩ := ok_of_bind h
    cases h
    have hreg := execute_registers himp hrun
    rw [moduleOf_name hmake] at hreg
    rw [← after_ok hattach]
    exact (Works.attach around name id).registered hreg

theorem importInParent_registers {depth : Nat} (h : importInParent around depth name s = .ok id s') :
    s'.registered? name = some id := by
  rw [importInParent, get_bind_apply] at h
  cases hs : s.registered? name with
  | some i =>
    simp only [hs] at h
    cases h
    exact hs
  | none =>
    simp only [hs] at h
    obtain ⟨p, s₁, -, h⟩ := ok_of_bind h
    obtain ⟨path?, s₂, -, h⟩ := ok_of_bind h
    cases path? with
    | none => cases h
    | some path => exact load_registers (Works.importModule around depth) h

theorem importModule_registers {depth : Nat} (h : importModule around depth name s = .ok id s') :
    s'.registered? name = some id := by
  cases depth with
  | zero => cases h
  | succ depth =>
    rw [importModule_succ, get_bind_apply] at h
    cases hs : s.registered? name with
    | some i =>
      simp only [hs] at h
      cases h
      exact hs
    | none =>
      simp only [hs] at h
      split at h
      · exact load_registers (Works.importModule around depth) h
      · rw [get_bind_apply] at h
        split at h
        · obtain ⟨_, s₁, -, h⟩ := ok_of_bind h
          exact importInParent_registers h
        · exact importInParent_registers h

theorem importNamed_registers (h : importNamed around name s = .ok id s') :
    s'.registered? name = some id := by
  rw [importNamed] at h
  split at h
  · cases h
  · split at h
    · cases h
    · exact importModule_registers h

theorem importClass_names (h : importClass around name s = .ok (some k) s') : s'.Names name k := by
  by_cases hn : (splitClassName name).1 = [] ∨ (splitClassName name).2 = []
  · rw [importClass_unsplit hn] at h
    cases h
  rw [importClass] at h
  simp only [Bool.or_eq_true, decide_eq_true_eq, if_neg hn] at h
  cases hi : importNamed around (splitClassName name).1 s with
  | ok id s₁ =>
    rw [hi] at h
    injection h with hclass hs
    subst hs
    exact ⟨id, importNamed_registers hi, hclass⟩
  | error e s₁ =>
    rw [hi] at h
    simp only at h
    split at h
    · rcases hasked : isMissing s.objects (splitClassName name).1 e.subject with g | _ | _ <;>
        rw [hasked] at h <;> cases h
    · split at h <;> cases h

end Import
end ResourceLookup
