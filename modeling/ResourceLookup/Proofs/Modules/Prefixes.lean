import ResourceLookup.Proofs.Modules.Rollback

/-!
# The walk along the prefixes of a module name

A lookup below a path goes through the prefixes of a module name in order. Each of them is taken
from the registry, or it is looked for where the one before it says and run. There are six ways in
which the lookup ends, and which of them it is depends on the first prefix that cannot be visited.
-/

namespace ResourceLookup.Import

variable {around : Surroundings} {className name part : Text} {path? : Option (List Text)}
variable {path : List Text} {last : Option ModuleId} {parts ps rest members : List Text}
variable {s t u v : ModuleSpace} {id : ModuleId} {m : Module} {code : Code}
variable {r : EStateM.Result Fault ModuleSpace (Option ClassId)}

/-! ## Members -/

inductive MembersLead (s : ModuleSpace) : Value → List Text → Value → Prop
  | here (a : Value) : MembersLead s a [] a
  | member {a b c : Value} {n : Text} {ns : List Text} (member : s.member? a n = some b)
    (present : b ≠ .nothing) (onward : MembersLead s b ns c) : MembersLead s a (n :: ns) c

theorem classAt?_eq_some_iff {a : Value} {ns : List Text} {c : ClassId} :
    s.classAt? a ns = some c ↔ MembersLead s a ns (.ofClass c) := by
  induction ns generalizing a with
  | nil =>
    constructor
    · intro h
      cases a with
      | ofClass id =>
        cases h
        exact .here _
      | ofModule | number | nothing | path | object => cases h
    · intro h
      cases h
      rfl
  | cons n ns ih =>
    rw [ModuleSpace.classAt?_cons]
    constructor
    · intro h
      obtain ⟨b, hmember, hclass⟩ := Option.bind_eq_some_iff.1 h
      obtain ⟨hmember, present⟩ := Option.filter_eq_some_iff.1 hmember
      exact .member hmember (of_decide_eq_true present) (ih.1 hclass)
    · intro h
      cases h with
      | member member present onward =>
        rw [member, Option.filter_some, if_pos (decide_eq_true present)]
        exact ih.2 onward

/-! ## Prefixes -/

def prefixName (ps : List Text) : Text := Text.joinWith [0x2E] ps

theorem prefixName_concat (h : ps ≠ []) (part : Text) :
    prefixName (ps ++ [part]) = prefixName ps ++ 0x2E :: part := by
  induction ps with
  | nil => exact absurd rfl h
  | cons p ps ih =>
    cases ps with
    | nil => simp [prefixName, Text.joinWith]
    | cons q ps =>
      have hrest := ih (List.cons_ne_nil q ps)
      rw [prefixName, List.cons_append, Text.joinWith_cons_ne_nil _ _ (by simp), ← prefixName,
        hrest, prefixName, prefixName, Text.joinWith_cons_ne_nil _ _ (List.cons_ne_nil q ps)]
      simp

/-- The module of a prefix is taken from the registry. Where there is none it is found on a path,
registered and run to its end, and it becomes a member of the module before it. -/
inductive Visits (around : Surroundings) (name : Text) :
    Option (List Text) → ModuleSpace → ModuleId → ModuleSpace → Prop
  | registered {path? : Option (List Text)} {s : ModuleSpace} {id : ModuleId}
    (registered : s.registered? name = some id) : Visits around name path? s id s
  | executed {path : List Text} {s u v t : ModuleSpace} {m : Module} {code : Code}
    (new : s.registered? name = none) (makes : Makes around false name path s m code u)
    (runs : runBody (importModule around around.nestingLimit) u.modules.length code (u.add m).2 =
      .ok ⟨⟩ v)
    (attached : attach name u.modules.length (v.setStage u.modules.length .completed) = .ok ⟨⟩ t) :
    Visits around name (some path) s u.modules.length t

inductive Advances (around : Surroundings) (path : List Text) (s : ModuleSpace) :
    List Text → Option (List Text) → Option ModuleId → ModuleSpace → Prop
  | start : Advances around path s [] (some path) none s
  | visit {ps : List Text} {part : Text} {path? entries? : Option (List Text)}
    {last : Option ModuleId} {id : ModuleId} {t u v : ModuleSpace}
    (before : Advances around path s ps path? last t)
    (visits : Visits around (prefixName (ps ++ [part])) path? t id u)
    (look : walkPath around id u = .ok entries? v) :
    Advances around path s (ps ++ [part]) (entries?.filter fun es => !es.isEmpty) (some id) v

def SearchFails (around : Surroundings) (name : Text) (path : List Text) (s : ModuleSpace)
    (f : Fault) (t : ModuleSpace) : Prop :=
  find around name path s = .error f t ∨
    ∃ found u, find around name path s = .ok (some found) u ∧
      moduleOf around false name found u = .error f t

/-- The ways in which a lookup ends whose name has these parts and members. -/
inductive Ends (around : Surroundings) (className : Text) (path : List Text) (s : ModuleSpace)
    (parts members : List Text) : EStateM.Result Fault ModuleSpace (Option ClassId) → Prop
  /-- All prefixes are visited, and the members lead to a class or they do not. -/
  | reached {path? : Option (List Text)} {id : ModuleId} {t : ModuleSpace} {answer : Option ClassId}
    (all : Advances around path s parts path? (some id) t)
    (answers : ∀ c, answer = some c ↔ MembersLead t (.ofModule id) members (.ofClass c)) :
    Ends around className path s parts members (.ok answer t)
  /-- A prefix is not registered, and the module before it is no package. -/
  | noPackage {ps rest : List Text} {part : Text} {last : Option ModuleId} {t : ModuleSpace}
    (split : parts = ps ++ part :: rest) (before : Advances around path s ps none last t)
    (new : t.registered? (prefixName (ps ++ [part])) = none) :
    Ends around className path s parts members (.ok none t)
  /-- A prefix is not registered and not found. -/
  | notFound {ps rest entries : List Text} {part : Text} {last : Option ModuleId}
    {t u : ModuleSpace} (split : parts = ps ++ part :: rest)
    (before : Advances around path s ps (some entries) last t)
    (new : t.registered? (prefixName (ps ++ [part])) = none)
    (search : find around (prefixName (ps ++ [part])) entries t = .ok none u)
    (nothing : u.bare = t.bare) : Ends around className path s parts members (.ok none u)
  /-- The body of a prefix that is run ends in a fault. -/
  | bodyFails {ps rest entries : List Text} {part : Text} {last : Option ModuleId}
    {t u v : ModuleSpace} {m : Module} {code : Code} {f : Fault}
    (split : parts = ps ++ part :: rest)
    (before : Advances around path s ps (some entries) last t)
    (new : t.registered? (prefixName (ps ++ [part])) = none)
    (makes : Makes around false (prefixName (ps ++ [part])) entries t m code u)
    (fails : BodyFails around around.nestingLimit u m code f v) :
    Ends around className path s parts members
      (.error (linked className f) (failedIn v u.modules.length m.name f f.isOrdinary))
  /-- The search for a prefix ends in a fault. -/
  | searchFails {ps rest entries : List Text} {part : Text} {last : Option ModuleId}
    {t u : ModuleSpace} {f : Fault} (split : parts = ps ++ part :: rest)
    (before : Advances around path s ps (some entries) last t)
    (new : t.registered? (prefixName (ps ++ [part])) = none)
    (search : SearchFails around (prefixName (ps ++ [part])) entries t f u)
    (nothing : u.bare = t.bare) : Ends around className path s parts members (.error f u)
  /-- What is to be the package path of a prefix cannot be looked through. -/
  | pathFails {ps rest : List Text} {part : Text} {path? : Option (List Text)}
    {last : Option ModuleId} {id : ModuleId} {t u v : ModuleSpace} {f : Fault}
    (split : parts = ps ++ part :: rest) (before : Advances around path s ps path? last t)
    (visits : Visits around (prefixName (ps ++ [part])) path? t id u)
    (look : walkPath around id u = .error f v) :
    Ends around className path s parts members (.error f v)

/-! ## What a derivation says of the lookup -/

theorem executeLinked_ok
    (h : runBody (importModule around around.nestingLimit) u.modules.length code (u.add m).2 =
      .ok ⟨⟩ v) :
    executeLinked around className m code u =
      .ok u.modules.length (v.setStage u.modules.length .completed) := by
  rw [executeLinked, execute_ok h]

theorem Visits.stepTo (h : Visits around name path? s id t) (className : Text) :
    stepTo around className name path? s = .ok (some id) t := by
  cases h with
  | registered registered => exact stepTo_registered registered _
  | executed new makes runs attached =>
    obtain ⟨found, s₁, hfind, hmake⟩ := makes
    rw [stepTo_anew new, loadLinked, bind_ok hfind]
    refine (bind_ok hmake).trans ((bind_ok (executeLinked_ok runs)).trans ?_)
    rw [bind_ok attached]
    rfl

theorem Visits.registers (h : Visits around name path? s id t) : t.registered? name = some id :=
  stepTo_registers (h.stepTo [])

theorem Advances.isNone_iff (h : Advances around path s ps path? last t) :
    last.isNone ↔ ps = [] := by
  cases h with
  | start => simp
  | visit => simp

theorem Advances.walkedName (h : Advances around path s ps path? last t) (part : Text) :
    walkedName (prefixName ps) last part = prefixName (ps ++ [part]) := by
  rw [Import.walkedName]
  split
  · next hlast =>
    rw [h.isNone_iff.1 hlast]
    rfl
  · next hlast => rw [prefixName_concat fun hps => hlast (h.isNone_iff.2 hps)]

theorem filter_eq_of_isEmpty (entries? : Option (List Text)) :
    (if (entries?.getD []).isEmpty then none else some (entries?.getD [])) =
      entries?.filter fun es => !es.isEmpty := by
  cases entries? with
  | none => rfl
  | some es => cases es <;> rfl

/-- After these visits the walk goes on with the rest. -/
theorem Advances.walk_eq (h : Advances around path s ps path? last t) (className : Text)
    (rest : List Text) :
    walk around className [] (some path) none (ps ++ rest) s =
      walk around className (prefixName ps) path? last rest t := by
  induction h generalizing rest with
  | start => rfl
  | @visit ps part path? entries? last id t u v before visits look ih =>
    have hstep := visits.stepTo className
    rw [← before.walkedName] at hstep ⊢
    rw [List.append_assoc, List.singleton_append, ih, walk_stepped rest hstep, walkOn, bind_ok look,
      filter_eq_of_isEmpty]

theorem Advances.registered (h : Advances around path s ps path? (some id) t) :
    t.registered? (prefixName ps) = some id := by
  cases h with
  | visit before visits look =>
    rw [← after_ok look]
    exact (Works.pathOr _ id).registered visits.registers

theorem Advances.walk_error {f : Fault} (split : parts = ps ++ part :: rest)
    (before : Advances around path s ps path? last t)
    (h : stepTo around className (prefixName (ps ++ [part])) path? t = .error f u) :
    walk around className [] (some path) none parts s = .error f u := by
  rw [← before.walkedName] at h
  rw [split, before.walk_eq, walk_cons, bind_error h]

theorem registered_of_runs (makes : Makes around false name path s m code u)
    (new : s.registered? name = none)
    (runs : runBody (importModule around around.nestingLimit) u.modules.length code (u.add m).2 =
      .ok ⟨⟩ v) {n : Text} (h : s.registered? n = some id) : v.registered? n = some id := by
  -- Only the name of the module itself is registered anew, and that was not registered before.
  have hname : m.name ≠ n := by
    rintro rfl
    rw [makes.name, new] at h
    cases h
  have hadd : (u.add m).2.registered? n = some id := by
    rw [ModuleSpace.registered_add, if_neg hname, registered_of_bare makes.bare, h]
  have hran := (Tally.registered (u.add m).2.registry).runBody
    (Works.importModule around around.nestingLimit) u.modules.length code (fun _ _ hn => hn) n id hadd
  rwa [after_ok runs] at hran

theorem Advances.attaches (before : Advances around path s ps path? last t)
    (undotted : 0x2E ∉ part)
    (kept : ∀ n id, t.registered? n = some id → v.registered? n = some id) (id : ModuleId) :
    ∃ w, attach (prefixName (ps ++ [part])) id v = .ok ⟨⟩ w := by
  cases last with
  | none =>
    rw [before.isNone_iff.1 rfl]
    refine ⟨v, ?_⟩
    have htop : parentName (prefixName [part]) = [] := parentName_of_undotted undotted
    rw [List.nil_append, attach, if_pos htop]
    rfl
  | some p =>
    have hps : ps ≠ [] := fun hps => by simpa using before.isNone_iff.2 hps
    have hparent : v.registered? (prefixName ps) = some p := kept _ _ before.registered
    rw [prefixName_concat hps, attach, parentName_append undotted]
    split
    · exact ⟨v, rfl⟩
    · rw [bind_ok (registeredAs_ok hparent)]
      exact ⟨_, rfl⟩

theorem Advances.ends_or_visits (before : Advances around path s ps path? last t)
    (undotted : 0x2E ∉ part) (split : parts = ps ++ part :: rest) (className : Text)
    (members : List Text) :
    (∃ r, Ends around className path s parts members r) ∨
      ∃ id u, Visits around (prefixName (ps ++ [part])) path? t id u := by
  cases hreg : t.registered? (prefixName (ps ++ [part])) with
  | some id => exact .inr ⟨id, t, .registered hreg⟩
  | none =>
    cases path? with
    | none => exact .inl ⟨_, .noPackage split before hreg⟩
    | some entries =>
      have hbare := bare_find around (prefixName (ps ++ [part])) entries t
      cases hfind : find around (prefixName (ps ++ [part])) entries t with
      | error f u =>
        rw [after_error hfind] at hbare
        exact .inl ⟨_, .searchFails split before hreg (.inl hfind) hbare⟩
      | ok found? u =>
        rw [after_ok hfind] at hbare
        cases found? with
        | none => exact .inl ⟨_, .notFound split before hreg hfind hbare⟩
        | some found =>
          have hmade := bare_moduleOf around false (prefixName (ps ++ [part])) found u
          cases hmake : moduleOf around false (prefixName (ps ++ [part])) found u with
          | error f v =>
            rw [after_error hmake] at hmade
            exact .inl ⟨_, .searchFails split before hreg (.inr ⟨found, u, hfind, hmake⟩)
              (hmade.trans hbare)⟩
          | ok made v =>
            have makes : Makes around false (prefixName (ps ++ [part])) entries t made.1 made.2 v :=
              ⟨found, u, hfind, hmake⟩
            cases hrun : runBody (importModule around around.nestingLimit) v.modules.length made.2
                (v.add made.1).2 with
            | error f w => exact .inl ⟨_, .bodyFails split before hreg makes hrun⟩
            | ok a w =>
              obtain ⟨x, hattach⟩ := before.attaches undotted
                (v := w.setStage v.modules.length .completed)
                (fun n id h => registered_of_runs makes hreg hrun h) v.modules.length
              exact .inr ⟨_, x, .executed hreg makes hrun hattach⟩

theorem Advances.ends (undotted : ∀ p ∈ parts, 0x2E ∉ p) (nonempty : parts ≠ [])
    (before : Advances around path s ps path? last t) (split : parts = ps ++ rest)
    (className : Text) (members : List Text) :
    ∃ r, Ends around className path s parts members r := by
  -- By the parts that are left, each of which ends the lookup or lengthens the derivation.
  induction rest generalizing ps path? last t with
  | nil =>
    rw [List.append_nil] at split
    subst split
    cases last with
    | none => exact absurd (before.isNone_iff.1 rfl) nonempty
    | some id =>
      exact ⟨.ok (t.classAt? (.ofModule id) members) t,
        .reached before fun c => classAt?_eq_some_iff⟩
  | cons part rest ih =>
    have hpart : 0x2E ∉ part := undotted part (by simp [split])
    rcases before.ends_or_visits hpart split className members with hends | ⟨id, u, visits⟩
    · exact hends
    · cases look : walkPath around id u with
      | ok entries? v => exact ih (before.visit visits look) (by simpa using split)
      | error f v => exact ⟨.error f v, .pathFails split before visits look⟩

/-! ## Faults of the search -/

inductive MemberFault (around : Surroundings) (name : Text) : Finder → Fault → Prop
  /-- The archive is no longer there. -/
  | gone {file inside : Text} {members : Members} {why : Refusal}
    (gone : around.tree.locate around.cwd file = .error why) :
    MemberFault around name (.archive file inside members) (.refused why (some file))
  /-- The source of the module is no program. -/
  | source {file inside n : Text} {members : Members} {b : Body} {f : Fault}
    (member : members.get? n = some b)
    (fails : b.code around.loaders (file ++ Path.slash :: n) = .error f) :
    MemberFault around name (.archive file inside members) f
  /-- What the module was compiled to cannot be loaded, and not only does not fit. -/
  | compiled {file inside n : Text} {members : Members} {b : Body} {f : Fault}
    (member : members.get? n = some b)
    (fails : around.loaders.compiled name (file ++ Path.slash :: n) b.toOctets = .error f)
    (other : f.isA "ImportError" = false) :
    MemberFault around name (.archive file inside members) f

theorem firstCode_error {loaders : Loaders} {passed : Code} {f : Fault}
    {held : List (Finder.MemberKind × Text × Body)}
    (h : Finder.firstCode loaders name passed held = .error f) :
    ∃ k file b, (k, file, b) ∈ held ∧ (b.code loaders file = .error f ∨
      loaders.compiled name file b.toOctets = .error f ∧ f.isA "ImportError" = false) := by
  induction held generalizing passed with
  | nil => cases h
  | cons first rest ih =>
    obtain ⟨k, file, b⟩ := first
    rw [Finder.firstCode] at h
    split at h
    · cases h
    · next e hcode =>
      split at h
      · obtain ⟨k', file', b', hmem, hfault⟩ := ih h
        exact ⟨k', file', b', List.mem_cons_of_mem _ hmem, hfault⟩
      · next hkind =>
        cases h
        refine ⟨k, file, b, List.mem_cons_self, ?_⟩
        split at hcode
        · next hcompiled =>
          rw [hcompiled, Bool.true_and, Bool.not_eq_true] at hkind
          exact .inr ⟨hcode, hkind⟩
        · exact .inl hcode

theorem memberFault_of_find {finder : Finder} {f : Fault}
    (h : finder.find around name = .error f) : MemberFault around name finder f := by
  cases finder with
  | directory dir => cases h
  | archive file inside members =>
    rw [Finder.find, Finder.inArchive] at h
    dsimp only at h
    split at h
    · cases h
    · next first rest hheld =>
      split at h
      · next why hgone =>
        cases h
        exact .gone hgone
      · cases hcode : Finder.firstCode around.loaders name (.ok []) (first :: rest) with
        | ok p =>
          rw [← hheld] at hcode
          rw [hcode] at h
          cases h
        | error e =>
          have hfault := firstCode_error hcode
          rw [← hheld] at hcode hfault
          rw [hcode] at h
          cases h
          obtain ⟨k, path, b, hmem, hfails⟩ := hfault
          obtain ⟨kind, -, hkind⟩ := List.mem_filterMap.1 hmem
          obtain ⟨body, hmember, hmade⟩ := Option.map_eq_some_iff.1 hkind
          cases hmade
          rcases hfails with hsource | ⟨hcompiled, hother⟩
          · exact .source hmember hsource
          · exact .compiled hmember hcompiled hother

def OnPath (around : Surroundings) (path : List Text) (finder : Finder) : Prop :=
  ∃ entry ∈ path, ∃ s : ModuleSpace, (s.recognize around entry).1 = .ok (some finder)

theorem OnPath.cons {finder : Finder} (entry : Text) (h : OnPath around path finder) :
    OnPath around (entry :: path) finder := by
  obtain ⟨e, he, hfinder⟩ := h
  exact ⟨e, List.mem_cons_of_mem _ he, hfinder⟩

def Unnameable (around : Surroundings) (path : List Text) (f : Fault) : Prop :=
  ∃ entry ∈ path,
    FileTree.nameFault? (if entry = [] then Location.toText around.cwd else entry) = some f

theorem Unnameable.cons {f : Fault} (entry : Text) (h : Unnameable around path f) :
    Unnameable around (entry :: path) f := by
  obtain ⟨e, he, hfault⟩ := h
  exact ⟨e, List.mem_cons_of_mem _ he, hfault⟩

theorem ofEntry_error {entry : Text} {f : Fault} (h : Finder.ofEntry around entry = .error f) :
    FileTree.nameFault? entry = some f := by
  rw [Finder.ofEntry] at h
  split at h
  · cases h
  · split at h
    · next hfault =>
      cases h
      exact hfault
    · cases h

theorem recognize_error {entry : Text} {f : Fault} (h : (s.recognize around entry).1 = .error f) :
    FileTree.nameFault? (if entry = [] then Location.toText around.cwd else entry) = some f := by
  rw [ModuleSpace.recognize] at h
  split
  · next hempty =>
    rw [if_pos hempty] at h
    exact ofEntry_error h
  · next hnonempty =>
    rw [if_neg hnonempty] at h
    split at h
    · split at h
      · cases h
      · split at h
        · cases h
        · next hentry =>
          cases h
          exact ofEntry_error hentry
    · exact ofEntry_error h

def FromEntry (around : Surroundings) (name : Text) (path : List Text) :
    EStateM.Result Fault ModuleSpace (Option Found) → Prop
  | .error f _ => Unnameable around path f ∨
    ∃ finder, OnPath around path finder ∧ finder.find around name = .error f
  | .ok (some (.regular m)) _ =>
    ∃ finder, OnPath around path finder ∧ finder.find around name = .ok (some (.regular m))
  | .ok _ _ => True

theorem FromEntry.cons {r : EStateM.Result Fault ModuleSpace (Option Found)} (entry : Text)
    (h : FromEntry around name path r) : FromEntry around name (entry :: path) r := by
  match r, h with
  | .error f t, .inl unnameable => exact .inl (unnameable.cons entry)
  | .error f t, .inr ⟨finder, on, hfind⟩ => exact .inr ⟨finder, on.cons entry, hfind⟩
  | .ok (some (.regular m)) t, ⟨finder, on, hfind⟩ => exact ⟨finder, on.cons entry, hfind⟩
  | .ok (some (.portions ps)) t, _ => trivial
  | .ok none t, _ => trivial

theorem search_fromEntry (around : Surroundings) (name : Text) (portions path : List Text)
    (s : ModuleSpace) :
    FromEntry around name path (search around name portions path s) := by
  induction path generalizing portions s with
  | nil =>
    rw [search]
    split <;> trivial
  | cons entry rest ih =>
    rw [search, get_bind_apply]
    cases hseen : s.recognize around entry with
    | mk finder? s₁ =>
      simp only [set_bind_apply]
      rcases finder? with f | _ | finder
      · exact .inl ⟨entry, List.mem_cons_self, recognize_error (s := s) (by rw [hseen])⟩
      · exact (ih portions s₁).cons entry
      · have on : OnPath around (entry :: rest) finder :=
          ⟨entry, List.mem_cons_self, s, by rw [hseen]⟩
        cases hfind : finder.find around name with
        | error f =>
          simp only [hfind]
          exact .inr ⟨finder, on, hfind⟩
        | ok found? =>
          simp only [hfind]
          cases found? with
          | none => exact (ih portions s₁).cons entry
          | some found =>
            cases found with
            | regular m => exact ⟨finder, on, hfind⟩
            | portion p => exact (ih (portions ++ [p]) s₁).cons entry

/-- Only a native module may be found and not be made. -/
theorem make_error {loaders : Loaders} {file : Text} {b : Body} {k : Finder.FileKind} {f : Fault}
    (h : Finder.make loaders name file b k = .error f) :
    loaders.native name file b.toOctets = .error f := by
  cases k with
  | native => exact h
  | source | compiled => cases h

theorem moduleFile?_error {listed : Text → Bool} {dir stem file : Text} {f : Fault}
    (h : Finder.moduleFile? around listed name dir stem = some (file, .error f)) :
    ∃ b : Body, around.loaders.native name file b.toOctets = .error f := by
  obtain ⟨kind, -, hkind⟩ := List.exists_of_findSome?_eq_some h
  dsimp only at hkind
  split at hkind
  · obtain ⟨b, -, hmade⟩ := Option.map_eq_some_iff.1 hkind
    obtain ⟨rfl, hfails⟩ := Prod.mk.inj hmade
    exact ⟨b, make_error hfails⟩
  · cases hkind

theorem moduleFile?_of_inDirectory {dir : Text} {m : FoundModule}
    (h : Finder.inDirectory around dir name = some (.regular m)) :
    ∃ (listed : Text → Bool) (dir' stem : Text),
      Finder.moduleFile? around listed name dir' stem = some (m.file, m.made) := by
  rw [Finder.inDirectory] at h
  split at h
  · simp only [Option.orElse_eq_orElse, Option.orElse_eq_or, Option.or_eq_some_iff,
      Option.map_eq_some_iff] at h
    rcases h with ⟨p, hfile, hp⟩ | ⟨-, ⟨p, hfile, hp⟩ | ⟨-, hportion⟩⟩
    · cases hp
      exact ⟨_, _, _, hfile⟩
    · cases hp
      exact ⟨_, _, _, hfile⟩
    · split at hportion
      · split at hportion <;> cases hportion
      · cases hportion
  · cases h

theorem made_of_inArchive {file inside : Text} {members : Members} {m : FoundModule}
    (h : Finder.inArchive around file inside members name = .ok (some (.regular m))) :
    ∃ code, m.made = .ok code := by
  rw [Finder.inArchive] at h
  split at h
  · split at h <;> cases h
  · split at h
    · cases h
    · cases hread : Finder.firstCode around.loaders name (.ok []) _ with
      | error e =>
        rw [hread] at h
        cases h
      | ok p =>
        rw [hread] at h
        cases h
        exact ⟨p.2, rfl⟩

theorem made_error {finder : Finder} {m : FoundModule} {f : Fault}
    (h : finder.find around name = .ok (some (.regular m))) (hmade : m.made = .error f) :
    ∃ (dir : Text) (b : Body),
      finder = .directory dir ∧ around.loaders.native name m.file b.toOctets = .error f := by
  cases finder with
  | directory dir =>
    obtain ⟨listed, dir', stem, hfile⟩ := moduleFile?_of_inDirectory (Except.ok.inj h)
    rw [hmade] at hfile
    obtain ⟨b, hfails⟩ := moduleFile?_error hfile
    exact ⟨dir, b, rfl, hfails⟩
  | archive file inside members =>
    obtain ⟨code, hcode⟩ := made_of_inArchive h
    rw [hmade] at hcode
    cases hcode

/-- The faults that end a search for a module before its body is run. -/
inductive SearchFault (around : Surroundings) (name : Text) (path : List Text) : Fault → Prop
  | entry {f : Fault} (unnameable : Unnameable around path f) : SearchFault around name path f
  | member {finder : Finder} {f : Fault} (entry : OnPath around path finder)
    (fault : MemberFault around name finder f) : SearchFault around name path f
  /-- The native module that is found in a directory cannot be made. -/
  | native {dir file : Text} {b : Body} {f : Fault} (entry : OnPath around path (.directory dir))
    (fails : around.loaders.native name file b.toOctets = .error f) :
    SearchFault around name path f
  /-- The portions of a package are found, and where they were looked for cannot be told. -/
  | parent {s t : ModuleSpace} {f : Fault}
    (fails : parentPath around around.nestingLimit name s = .error f t) :
    SearchFault around name path f

theorem SearchFails.fault {f : Fault} (h : SearchFails around name path s f t) :
    SearchFault around name path f := by
  rcases h with hfind | ⟨found, u, hfind, hmake⟩
  · have hfrom := search_fromEntry around name [] path s
    rw [← find, hfind] at hfrom
    rcases hfrom with unnameable | ⟨finder, entry, hfault⟩
    · exact .entry unnameable
    · exact .member entry (memberFault_of_find hfault)
  cases found with
  | regular m =>
    have hfrom := search_fromEntry around name [] path s
    rw [← find, hfind] at hfrom
    obtain ⟨finder, entry, hfinder⟩ := hfrom
    rw [moduleOf] at hmake
    cases hmade : m.made with
    | ok code =>
      rw [hmade] at hmake
      cases hmake
    | error e =>
      rw [hmade] at hmake
      cases hmake
      obtain ⟨dir, b, rfl, hnative⟩ := made_error hfinder hmade
      exact .native entry hnative
  | portions entries =>
    rw [moduleOf_portions] at hmake
    cases hparent : parentPath around around.nestingLimit name u with
    | ok seen v =>
      rw [bind_ok hparent] at hmake
      cases hmake
    | error e v =>
      rw [bind_error hparent] at hmake
      cases hmake
      exact .parent hparent

end ResourceLookup.Import
