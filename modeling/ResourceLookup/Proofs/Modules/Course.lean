import ResourceLookup.Proofs.Modules.Tally

/-!
# The course of imports

Where modules import one another, a module is begun before its body runs and completed or taken
out again after it, and what its body imports runs its whole course in between. A preorder that
single changes keep, and that the course of one module keeps when its body does, is therefore
kept by every import.
-/

namespace ResourceLookup.Import

variable {around : Surroundings} {writable : ModuleSpace → ModuleId → Prop}
variable {ρ : ModuleSpace → ModuleSpace → Prop} {α β : Type}
variable {imp : Text → Import ModuleId} {s s' t : ModuleSpace} {m : Module}

/-! ## The course of one module -/

theorem execute_ok {undo : Fault → Bool} {code : Code}
    (h : runBody imp s.modules.length code (s.add m).2 = .ok ⟨⟩ s') :
    execute imp undo m code s =
      .ok s.modules.length (s'.setStage s.modules.length .completed) := by
  have hid : (s.add m).1 = s.modules.length := rfl
  rw [execute]
  simp only [hid, h]

def failedIn (s' : ModuleSpace) (id : ModuleId) (name : Text) (f : Fault) (undo : Bool) :
    ModuleSpace :=
  if undo then (s'.setStage id (.failed f)).unregister name else s'.setStage id (.failed f)

theorem execute_error {undo : Fault → Bool} {code : Code} {f : Fault}
    (h : runBody imp s.modules.length code (s.add m).2 = .error f s') :
    execute imp undo m code s =
      .error f (failedIn s' s.modules.length m.name f (undo f)) := by
  have hid : (s.add m).1 = s.modules.length := rfl
  rw [execute]
  simp only [hid, h, failedIn]

/-- A preorder between spaces that single changes keep, and that a module keeps whose body does.
Bodies put members only into modules that are writable, and a package is given as members the
modules inside it that are new. -/
structure Course (writable : ModuleSpace → ModuleId → Prop) (ρ : ModuleSpace → ModuleSpace → Prop) :
    Prop where
  trans : ∀ {s t u}, ρ s t → ρ t u → ρ s u
  bare : ∀ {s t}, t.bare = s.bare → ρ s t
  assign : ∀ {s id}, writable s id → ∀ name v, ρ s (s.assign id name v)
  setClasses : ∀ {s cs}, s.classes <+: cs → ρ s { s with classes := cs }
  completed : ∀ {s t} {m : Module}, s.registered? m.name = none → ρ (s.add m).2 t →
    ρ s (t.setStage s.modules.length .completed)
  failed : ∀ {s t} {m : Module}, s.registered? m.name = none → ρ (s.add m).2 t →
    ∀ f, ρ s (failedIn t s.modules.length m.name f true)
  attached : ∀ {s t} {name : Text} {p id : ModuleId}, ρ s t → s.registered? name = none →
    t.registered? name = some id → parentName name ≠ [] →
    t.registered? (parentName name) = some p → t.IsPackage p →
    ρ s (t.setMember p (Finder.lastPart name) (.ofModule id))
  stays : ∀ {s t id}, ρ s t → writable s id → writable t id
  running : ∀ (s : ModuleSpace) {m : Module}, m.isRunning → writable (s.add m).2 s.modules.length

namespace Course

theorem refl (C : Course writable ρ) (s : ModuleSpace) : ρ s s := C.bare rfl

theorem bind (C : Course writable ρ) {f : Import α} {k : α → Import β} (hf : ρ s (after f s))
    (hk : ∀ a s', f s = .ok a s' → ρ s' (after (k a) s')) : ρ s (after (f >>= k) s) := by
  rw [after]
  cases h : f s with
  | ok a s' =>
    rw [after_ok h] at hf
    rw [bind_ok h, ← after]
    exact C.trans hf (hk a s' h)
  | error e s' =>
    rw [after_error h] at hf
    rwa [bind_error h]

theorem get_bind {k : ModuleSpace → Import α} (h : ρ s (after (k s) s)) :
    ρ s (after ((get : Import ModuleSpace) >>= k) s) := h

theorem runsAlike (C : Course writable ρ) (s : ModuleSpace) (id : ModuleId) :
    RunsAlike (· = id) (Holds fun t => ρ s t ∧ writable t id) where
  bare _ _ h := by rw [h.1]
  assign t _ h j name v hj := by
    subst hj
    have hset := C.assign h.2.2 name v
    exact ⟨by rw [h.1], C.trans h.2.1 hset, C.stays hset h.2.2⟩
  setClasses t _ h cs hcs := by
    have hset := C.setClasses hcs
    exact ⟨by rw [h.1], C.trans h.2.1 hset, C.stays hset h.2.2⟩

theorem runBody (C : Course writable ρ) (himp : ∀ name t, ρ t (after (imp name) t)) {id : ModuleId}
    (hid : writable s id) (code : Code) :
    ρ s (after (runBody imp id code) s) := by
  have hrespects := (C.runsAlike s id).runBody (fun name => Holds.respects fun t ht =>
    ⟨C.trans ht.1 (himp name t), C.stays (himp name t) ht.2⟩) rfl code
  exact (hrespects.holds ⟨C.refl s, hid⟩).1

theorem attach {name : Text} {id : ModuleId} (h : ρ s t)
    (member : ∀ p, parentName name ≠ [] → t.registered? (parentName name) = some p →
      ρ s (t.setMember p (Finder.lastPart name) (.ofModule id))) :
    ρ s (after (attach name id) t) := by
  unfold Import.attach
  split
  · exact h
  · next hn =>
    cases hp : t.registered? (parentName name) with
    | none =>
      rw [after_error (bind_error (registeredAs_error hp))]
      exact h
    | some p =>
      rw [after, bind_ok (registeredAs_ok hp)]
      exact member p hn hp

theorem execute (C : Course writable ρ) (himp : ∀ name t, ρ t (after (imp name) t))
    (new : s.registered? m.name = none) (running : m.isRunning) {undo : Fault → Bool}
    (kept : ∀ f t, undo f = false → ρ (s.add m).2 t →
      ρ s (failedIn t s.modules.length m.name f false)) (code : Code) :
    ρ s (after (execute imp undo m code) s) := by
  have hbody := C.runBody himp (C.running s running) code
  cases h : Import.runBody imp s.modules.length code (s.add m).2 with
  | ok a s' =>
    rw [after_ok h] at hbody
    rw [after_ok (execute_ok h)]
    exact C.completed new hbody
  | error f s' =>
    rw [after_error h] at hbody
    rw [after_error (execute_error h)]
    cases hundo : undo f with
    | true => exact C.failed new hbody f
    | false => exact kept f s' hundo hbody

end Course

/-! ## Looking for a module -/

theorem bare_moduleOf (around : Surroundings) (regular : Bool) (name : Text) (found : Found)
    (s : ModuleSpace) : (after (moduleOf around regular name found) s).bare = s.bare := by
  cases found with
  | regular f =>
    rw [after, moduleOf]
    cases f.made <;> rfl
  | portions entries =>
    have hparent := bare_parentPath around around.nestingLimit name s
    rw [after, moduleOf_portions]
    cases h : parentPath around around.nestingLimit name s with
    | ok seen s' =>
      rw [after_ok h] at hparent
      rw [bind_ok h]
      exact hparent
    | error e s' =>
      rw [after_error h] at hparent
      rwa [bind_error h]

theorem registered_of_bare (h : t.bare = s.bare) (name : Text) :
    t.registered? name = s.registered? name := congrArg (·.registered? name) h

def Makes (around : Surroundings) (regular : Bool) (name : Text) (path : List Text)
    (s : ModuleSpace) (m : Module) (code : Code) (u : ModuleSpace) : Prop :=
  ∃ found s₁, find around name path s = .ok (some found) s₁ ∧
    moduleOf around regular name found s₁ = .ok (m, code) u

theorem Makes.bare {regular : Bool} {name : Text} {path : List Text} {code : Code}
    {u : ModuleSpace} (h : Makes around regular name path s m code u) : u.bare = s.bare := by
  obtain ⟨found, s₁, hfind, hmake⟩ := h
  have h₁ := bare_find around name path s
  have h₂ := bare_moduleOf around regular name found s₁
  rw [after_ok hfind] at h₁
  rw [after_ok hmake] at h₂
  exact h₂.trans h₁

theorem Makes.name {regular : Bool} {name : Text} {path : List Text} {code : Code}
    {u : ModuleSpace} (h : Makes around regular name path s m code u) : m.name = name := by
  obtain ⟨found, s₁, -, hmake⟩ := h
  exact moduleOf_name hmake

theorem Makes.running {regular : Bool} {name : Text} {path : List Text}
    {code : Code} {u : ModuleSpace}
    (h : Makes around regular name path s m code u) : m.isRunning := by
  obtain ⟨found, s₁, -, hmake⟩ := h
  exact moduleOf_running hmake

theorem Makes.new {regular : Bool} {name : Text} {path : List Text} {code : Code}
    {u : ModuleSpace} (h : Makes around regular name path s m code u)
    (new : s.registered? name = none) : u.registered? m.name = none := by
  rw [h.name, registered_of_bare h.bare, new]

/-! ## Parents -/

def Housed (name : Text) (s : ModuleSpace) : Prop :=
  parentName name = [] ∨ ∃ p, s.registered? (parentName name) = some p ∧ s.IsPackage p

theorem Housed.of_bare {name : Text} (h : t.bare = s.bare) (hs : Housed name s) :
    Housed name t := by
  rcases hs with htop | ⟨p, hp, hpackage⟩
  · exact .inl htop
  · exact .inr ⟨p, (registered_of_bare h _).trans hp, hpackage.of_bare h⟩

theorem Housed.isPackage {name : Text} {p : ModuleId} (h : Housed name s)
    (inside : parentName name ≠ []) (hp : s.registered? (parentName name) = some p) :
    s.IsPackage p := by
  rcases h with htop | ⟨q, hq, hpackage⟩
  · exact absurd htop inside
  · rw [hp] at hq
    cases hq
    exact hpackage

/-- What is registered stays so while a new module runs. -/
theorem registered_after_execute (himp : ∀ name, Works around (imp name))
    (new : s.registered? m.name = none) (undo : Fault → Bool) (code : Code)
    {name : Text} {id : ModuleId} (h : s.registered? name = some id) :
    (after (execute imp undo m code) s).registered? name = some id := by
  have hnew : ¬(s.registry.get? m.name).isSome := by
    rw [show s.registry.get? m.name = none from new]
    exact Bool.false_ne_true
  have L : Lockstep around _ 0 _ := (Tally.registered s.registry).invariant.lockstep
  exact (L.execute (fun name => himp name L) undo hnew code).holds (fun _ _ hn => hn) name id h

theorem isPackage_invariant (around : Surroundings) (id : ModuleId) :
    Invariant around (fun _ => False) 0 fun s => s.IsPackage id where
  fresh _ := Nat.zero_le _
  recognize {s} hs e := hs.of_bare (ModuleSpace.bare_recognize around s e)
  registered_of_kept _ _ hn := hn.elim
  packagePath {s} hs depth j := hs.of_bare (bare_packagePath around depth j s)
  add hs m _ := by
    obtain ⟨name, path, hroute⟩ := hs
    exact ⟨name, path, ModuleSpace.route_add_of_some hroute m⟩
  unregister hs _ _ := hs
  setStage {s} hs j stage := by
    obtain ⟨name, path, hroute⟩ := hs
    exact ⟨name, path, by rw [ModuleSpace.route_setStage, hroute]⟩
  setMember {s} hs j n v := by
    obtain ⟨name, path, hroute⟩ := hs
    exact ⟨name, path, by rw [ModuleSpace.route_setMember, hroute]⟩
  givePath {s} hs j v _ := hs.givePath j v
  setClasses hs _ := hs

theorem Housed.execute {name : Text} (h : Housed name s) (himp : ∀ name, Works around (imp name))
    (new : s.registered? m.name = none) (undo : Fault → Bool) (code : Code) :
    Housed name (after (execute imp undo m code) s) := by
  rcases h with htop | ⟨p, hp, hpackage⟩
  · exact .inl htop
  · have L := (isPackage_invariant around p).lockstep
    have hrun := L.execute (fun name => himp name L) undo (m := m) (fun h => h) code
    exact .inr ⟨p, registered_after_execute himp new undo code hp, hrun.holds hpackage⟩

namespace Course

theorem find (C : Course writable ρ) (name : Text) (path : List Text) (s : ModuleSpace) :
    ρ s (after (find around name path) s) := C.bare (bare_find around name path s)

theorem pathOr (C : Course writable ρ)
    (instead : Objects → Value → Except Fault (Option (List Text))) (id : ModuleId)
    (s : ModuleSpace) : ρ s (after (pathOr around instead id) s) :=
  C.bare (bare_pathOr around instead id s)

theorem moduleOf (C : Course writable ρ) (regular : Bool) (name : Text) (found : Found)
    (s : ModuleSpace) : ρ s (after (moduleOf around regular name found) s) :=
  C.bare (bare_moduleOf around regular name found s)

/-! ## Imports -/

theorem runAttached (C : Course writable ρ) {run : Import ModuleId} {name : Text}
    (new : s.registered? name = none) (hrun : ρ s (after run s))
    (registers : ∀ {id s'}, run s = .ok id s' → s'.registered? name = some id)
    (housed : Housed name (after run s)) (g : ModuleId → α) :
    ρ s (after (do let id ← run; Import.attach name id; pure (g id)) s) := by
  cases h : run s with
  | error e s' =>
    rw [after_error h] at hrun
    rwa [after_error (bind_error h)]
  | ok id s' =>
    rw [after_ok h] at hrun housed
    have hattach : ρ s (after (Import.attach name id) s') :=
      attach hrun fun p inside hp =>
        C.attached hrun new (registers h) inside hp (housed.isPackage inside hp)
    rw [after, bind_ok h, ← after]
    cases ha : Import.attach name id s' with
    | ok a s'' =>
      rw [after_ok ha] at hattach
      rwa [after, bind_ok ha]
    | error e s'' =>
      rw [after_error ha] at hattach
      rwa [after_error (bind_error ha)]

theorem load (C : Course writable ρ) (hworks : ∀ name, Works around (imp name))
    (himp : ∀ name t, ρ t (after (imp name) t)) {name : Text} (new : s.registered? name = none)
    (housed : Housed name s) (path : List Text) :
    ρ s (after (load around imp name path) s) := by
  refine C.bind (C.find name path s) fun found? s₁ hfind => ?_
  cases found? with
  | none => exact C.refl s₁
  | some found =>
    refine C.bind (C.moduleOf true name found s₁) fun p s₂ hmake => ?_
    have hmakes : Makes around true name path s p.1 p.2 s₂ := ⟨found, s₁, hfind, hmake⟩
    have hnew := hmakes.new new
    refine C.runAttached ((registered_of_bare hmakes.bare name).trans new) ?_ ?_ ?_ id
    · exact C.execute himp hnew hmakes.running (fun f t (h : true = false) _ => nomatch h) p.2
    · intro id s' hrun
      rw [← hmakes.name]
      exact execute_registers hworks hrun
    · exact (housed.of_bare hmakes.bare).execute hworks hnew _ p.2

theorem importInParent (C : Course writable ρ) {depth : Nat}
    (himp : ∀ name t, ρ t (after (importModule around depth name) t)) (name : Text)
    (s : ModuleSpace) : ρ s (after (importInParent around depth name) s) := by
  refine get_bind ?_
  cases hs : s.registered? name with
  | some id => exact C.refl s
  | none =>
    simp only
    cases hp : s.registered? (parentName name) with
    | none =>
      rw [after_error (bind_error (registeredAs_error hp))]
      exact C.refl s
    | some parentId =>
      rw [after, bind_ok (registeredAs_ok hp), ← after]
      refine C.bind (C.pathOr _ parentId s) fun path? s₁ hpath => ?_
      have hbare : (after (importPath around parentId) s).bare = s.bare :=
        bare_pathOr around _ parentId s
      rw [after_ok hpath] at hbare
      cases path? with
      | none => exact C.refl s₁
      | some path =>
        have hparent := (registered_of_bare hbare (parentName name)).trans hp
        have hpackage : s.IsPackage parentId := route_of_pathOr hpath
        exact C.load (fun name _ _ _ L => L.importModule depth name) himp
          ((registered_of_bare hbare name).trans hs)
          (.inr ⟨parentId, hparent, hpackage.of_bare hbare⟩) path

theorem importModule (C : Course writable ρ) (depth : Nat) (name : Text) (s : ModuleSpace) :
    ρ s (after (importModule around depth name) s) := by
  induction depth generalizing name s with
  | zero => exact C.refl s
  | succ depth ih =>
    rw [importModule_succ]
    refine get_bind ?_
    cases hs : s.registered? name with
    | some id => exact C.refl s
    | none =>
      simp only
      split
      · next htop =>
        exact C.load (fun name _ _ _ L => L.importModule depth name) ih hs (.inl htop)
          around.searchPath
      · refine get_bind ?_
        split
        · refine C.bind ?_ fun _ s₁ _ => C.importInParent ih name s₁
          exact C.bind (ih (parentName name) s) fun _ s₁ _ => C.refl s₁
        · exact C.importInParent ih name s

end Course
end ResourceLookup.Import
