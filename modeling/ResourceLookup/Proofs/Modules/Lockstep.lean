import ResourceLookup.Proofs.Modules.Work

/-!
# Module spaces in lockstep

Work on the modules looks at a space only through a few questions and changes it only in a few
ways. A relation between spaces that these questions cannot tell apart, and that these changes
keep, is therefore kept by all of the work: from related spaces it ends in the same answer or the
same fault, and leaves related spaces.
-/

namespace ResourceLookup.Import

variable {around : Surroundings} {kept : Text → Prop} {first : Nat} {α β : Type}
variable {R : ModuleSpace → ModuleSpace → Prop}

inductive Same (R : ModuleSpace → ModuleSpace → Prop) :
    EStateM.Result Fault ModuleSpace α → EStateM.Result Fault ModuleSpace α → Prop
  | ok {a : α} {s t : ModuleSpace} (h : R s t) : Same R (.ok a s) (.ok a t)
  | error {e : Fault} {s t : ModuleSpace} (h : R s t) : Same R (.error e s) (.error e t)

def Respects (R : ModuleSpace → ModuleSpace → Prop) (f : Import α) : Prop :=
  ∀ ⦃s t⦄, R s t → Same R (f s) (f t)

structure FindsAlike (around : Surroundings) (R : ModuleSpace → ModuleSpace → Prop) : Prop where
  finder : ∀ ⦃s t⦄, R s t → ∀ e, (s.recognize around e).1 = (t.recognize around e).1
  recognize : ∀ ⦃s t⦄, R s t → ∀ e, R (s.recognize around e).2 (t.recognize around e).2

structure RunsAlike (writable : ModuleId → Prop) (R : ModuleSpace → ModuleSpace → Prop) :
    Prop where
  bare : ∀ ⦃s t⦄, R s t → s.bare = t.bare
  assign : ∀ ⦃s t⦄, R s t → ∀ id n v, writable id → R (s.assign id n v) (t.assign id n v)
  setClasses : ∀ ⦃s t⦄, R s t → ∀ cs, s.classes <+: cs →
    R { s with classes := cs } { t with classes := cs }

/-- What a relation must satisfy to be kept by all work. A module of a kept name is never taken
out of the registry, and only the modules from `first` on have bodies that are run. -/
structure Lockstep (around : Surroundings) (kept : Text → Prop) (first : Nat)
    (R : ModuleSpace → ModuleSpace → Prop) : Prop extends
    FindsAlike around R, RunsAlike (first ≤ ·) R where
  fresh : ∀ ⦃s t⦄, R s t → first ≤ s.modules.length
  registered_of_kept : ∀ ⦃s t⦄, R s t → ∀ n, kept n → s.isRegistered n
  packagePath : ∀ depth id, Respects R (packagePath around depth id)
  add : ∀ ⦃s t⦄, R s t → ∀ m : Module, ¬ kept m.name → R (s.add m).2 (t.add m).2
  unregister : ∀ ⦃s t⦄, R s t → ∀ n, ¬ kept n → R (s.unregister n) (t.unregister n)
  setStage : ∀ ⦃s t⦄, R s t → ∀ id stage, R (s.setStage id stage) (t.setStage id stage)
  setMember : ∀ ⦃s t⦄, R s t → ∀ id n v, R (s.setMember id n v) (t.setMember id n v)

/-! ## Pieces of work -/

theorem Same.bind_of {f g : Import α} {k l : α → Import β} {s t : ModuleSpace}
    (h : Same R (f s) (g t))
    (hk : ∀ a s' t', f s = .ok a s' → g t = .ok a t' → R s' t' → Same R (k a s') (l a t')) :
    Same R ((f >>= k) s) ((g >>= l) t) := by
  cases hs : f s with
  | ok a s' =>
    rw [hs] at h
    cases ht : g t with
    | ok b t' =>
      rw [ht] at h
      cases h with
      | ok h =>
        rw [bind_ok hs, bind_ok ht]
        exact hk _ _ _ hs ht h
    | error e t' =>
      rw [ht] at h
      cases h
  | error e s' =>
    rw [hs] at h
    cases ht : g t with
    | ok b t' =>
      rw [ht] at h
      cases h
    | error e' t' =>
      rw [ht] at h
      cases h with
      | error h =>
        rw [bind_error hs, bind_error ht]
        exact .error h

theorem Same.bind {f g : Import α} {k l : α → Import β} {s t : ModuleSpace}
    (h : Same R (f s) (g t)) (hk : ∀ a s' t', R s' t' → Same R (k a s') (l a t')) :
    Same R ((f >>= k) s) ((g >>= l) t) :=
  h.bind_of fun a s' t' _ _ h' => hk a s' t' h'

theorem Same.of_error {x : EStateM.Result Fault ModuleSpace α} {e : Fault} {s : ModuleSpace}
    (h : Same R (.error e s) x) : ∃ t, x = .error e t ∧ R s t := by
  cases h with
  | error h => exact ⟨_, rfl, h⟩

theorem Same.of_ok {x : EStateM.Result Fault ModuleSpace α} {a : α} {s : ModuleSpace}
    (h : Same R (.ok a s) x) : ∃ t, x = .ok a t ∧ R s t := by
  cases h with
  | ok h => exact ⟨_, rfl, h⟩

theorem Respects.pure (a : α) : Respects R (pure a : Import α) := fun _ _ h => .ok h

theorem Respects.throw (e : Fault) : Respects R (throw e : Import α) := fun _ _ h => .error h

theorem Respects.bind {f : Import α} {k : α → Import β} (hf : Respects R f)
    (hk : ∀ a, Respects R (k a)) : Respects R (f >>= k) :=
  fun _ _ h => Same.bind (hf h) fun a _ _ h' => hk a h'

theorem Respects.bind_answer {f : Import α} {k : α → Import β} (hf : Respects R f)
    (hk : ∀ a s s', f s = .ok a s' → Respects R (k a)) : Respects R (f >>= k) :=
  fun s _ h => (hf h).bind_of fun a s' _ hs _ h' => hk a s s' hs h'

theorem Respects.discard {f : Import α} (hf : Respects R f) : Respects R (Functor.discard f) := by
  have hd : Functor.discard f = f >>= fun _ => (Pure.pure ⟨⟩ : Import PUnit) := rfl
  rw [hd]
  exact hf.bind fun _ => Respects.pure _

theorem Respects.get_bind {k : ModuleSpace → Import α}
    (h : ∀ s t, R s t → Same R (k s s) (k t t)) :
    Respects R ((get : Import ModuleSpace) >>= k) := fun s t hst => h s t hst

theorem Respects.modify {f : ModuleSpace → ModuleSpace} (h : ∀ s t, R s t → R (f s) (f t)) :
    Respects R (modify f : Import PUnit) := fun s t hst => .ok (h s t hst)

def Holds (P : ModuleSpace → Prop) (s t : ModuleSpace) : Prop := s = t ∧ P s

theorem Respects.holds {P : ModuleSpace → Prop} {f : Import α} (h : Respects (Holds P) f)
    {s : ModuleSpace} (hs : P s) : P (after f s) := by
  have hr := h ⟨rfl, hs⟩
  rw [after]
  generalize f s = x at hr
  cases hr with
  | ok h => exact h.2
  | error h => exact h.2

theorem Holds.respects {P : ModuleSpace → Prop} {f : Import α}
    (h : ∀ s, P s → P (after f s)) : Respects (Holds P) f := by
  intro s t hst
  obtain ⟨rfl, hs⟩ := hst
  have hf := h s hs
  rw [after] at hf
  cases hr : f s with
  | ok a s' =>
    rw [hr] at hf
    exact .ok ⟨rfl, hf⟩
  | error e s' =>
    rw [hr] at hf
    exact .error ⟨rfl, hf⟩

/-- A relation may be narrowed to spaces of which something holds that work keeps. -/
theorem Respects.and_of_after {P : ModuleSpace → Prop} {f : Import α} (h : Respects R f)
    (hP : ∀ s, P s → P (after f s)) : Respects (fun s t => R s t ∧ P s) f := by
  intro s t hst
  have hr := h hst.1
  have hs := hP s hst.2
  rw [after] at hs
  generalize f s = x at hr hs
  generalize f t = y at hr
  cases hr with
  | ok h => exact .ok ⟨h, hs⟩
  | error h => exact .error ⟨h, hs⟩

theorem Holds.findsAlike {P : ModuleSpace → Prop}
    (hrec : ∀ s e, P s → P (s.recognize around e).2) : FindsAlike around (Holds P) where
  finder s t h e := by rw [h.1]
  recognize s t h e := ⟨by rw [h.1], hrec s e h.2⟩

structure Invariant (around : Surroundings) (kept : Text → Prop) (first : Nat)
    (P : ModuleSpace → Prop) : Prop where
  recognize : ∀ {s}, P s → ∀ e, P (s.recognize around e).2
  fresh : ∀ {s}, P s → first ≤ s.modules.length
  registered_of_kept : ∀ {s}, P s → ∀ n, kept n → s.isRegistered n
  packagePath : ∀ {s}, P s → ∀ depth id, P (after (packagePath around depth id) s)
  add : ∀ {s}, P s → ∀ m : Module, ¬ kept m.name → P (s.add m).2
  unregister : ∀ {s}, P s → ∀ n, ¬ kept n → P (s.unregister n)
  setStage : ∀ {s}, P s → ∀ id stage, P (s.setStage id stage)
  setMember : ∀ {s}, P s → ∀ id n v, P (s.setMember id n v)
  givePath : ∀ {s}, P s → ∀ id v, first ≤ id → P (s.givePath id v)
  setClasses : ∀ {s}, P s → ∀ cs, P { s with classes := cs }

theorem assign_cases (s : ModuleSpace) (id : ModuleId) (n : Text) (v : Value) :
    s.assign id n v = s.setMember id n v ∨ s.assign id n v = (s.setMember id n v).givePath id v := by
  cases h : n == pathName <;> simp [ModuleSpace.assign, h]

theorem Invariant.assign {P : ModuleSpace → Prop} (i : Invariant around kept first P)
    {s : ModuleSpace} (hs : P s) {id : ModuleId} (hid : first ≤ id) (n : Text) (v : Value) :
    P (s.assign id n v) := by
  have hset := i.setMember hs id n v
  rcases assign_cases s id n v with h | h <;> rw [h]
  · exact hset
  · exact i.givePath hset id v hid

theorem Invariant.lockstep {P : ModuleSpace → Prop} (i : Invariant around kept first P) :
    Lockstep around kept first (Holds P) where
  toFindsAlike := Holds.findsAlike fun _ e hs => i.recognize hs e
  bare s t h := by rw [h.1]
  fresh s t h := i.fresh (h.1 ▸ h.2)
  registered_of_kept s t h := i.registered_of_kept h.2
  packagePath depth id := Holds.respects fun _ hs => i.packagePath hs depth id
  add s t h m hm := ⟨by rw [h.1], i.add h.2 m hm⟩
  unregister s t h n hn := ⟨by rw [h.1], i.unregister h.2 n hn⟩
  setStage s t h id stage := ⟨by rw [h.1], i.setStage h.2 id stage⟩
  setMember s t h id n v := ⟨by rw [h.1], i.setMember h.2 id n v⟩
  assign s t h id n v hid := ⟨by rw [h.1], i.assign h.2 hid n v⟩
  setClasses s t h cs _ := ⟨by rw [h.1], i.setClasses h.2 cs⟩

theorem FindsAlike.search (L : FindsAlike around R) (part : Text) (portions entries : List Text) :
    Respects R (search around part portions entries) := by
  induction entries generalizing portions with
  | nil => exact Respects.pure _
  | cons entry rest ih =>
    intro s t h
    simp only [Import.search, get_bind_apply]
    have hf := L.finder h entry
    have hr := L.recognize h entry
    generalize s.recognize around entry = x at hf hr
    generalize t.recognize around entry = y at hf hr
    obtain ⟨finder?, s'⟩ := x
    obtain ⟨_, t'⟩ := y
    subst hf
    simp only [set_bind_apply]
    rcases finder? with f | _ | finder
    · exact .error hr
    · exact ih _ hr
    · rcases hfound : finder.find around part with e | _ | m | p <;> simp only [hfound]
      · exact .error hr
      · exact ih _ hr
      · exact .ok hr
      · exact ih _ hr

theorem FindsAlike.find (L : FindsAlike around R) (name : Text) (path : List Text) :
    Respects R (find around name path) := L.search _ _ _

theorem FindsAlike.portionsAnew (L : FindsAlike around R) (name : Text) (entries path : List Text) :
    Respects R (portionsAnew around name entries path) :=
  (L.find name path).bind fun _ => Respects.pure _

theorem Respects.registeredAs (hreg : ∀ s t, R s t → s.registry = t.registry) (name : Text) :
    Respects R (registeredAs name) := by
  refine Respects.get_bind fun s t h => ?_
  rw [ModuleSpace.registered?, hreg s t h, ← ModuleSpace.registered?]
  cases t.registered? name with
  | none => exact .error h
  | some id => exact .ok h

theorem Respects.parentPath (hreg : ∀ s t, R s t → s.registry = t.registry) {depth : Nat}
    (hpath : ∀ p, Respects R (packagePath around depth p)) (name : Text) :
    Respects R (parentPath around depth name) := by
  unfold Import.parentPath
  split
  · exact Respects.pure _
  · refine (Respects.registeredAs hreg _).bind fun p => ?_
    exact (hpath p).bind fun _ => Respects.pure _

/-! ## What related spaces have in common -/

namespace RunsAlike

variable {s t : ModuleSpace} {writable : ModuleId → Prop}

theorem registry (L : RunsAlike writable R) (h : R s t) : s.registry = t.registry :=
  congrArg (·.registry) (L.bare h)

theorem registered (L : RunsAlike writable R) (h : R s t) (name : Text) :
    s.registered? name = t.registered? name :=
  congrArg (·.registered? name) (L.bare h)

theorem epoch (L : RunsAlike writable R) (h : R s t) : s.epoch = t.epoch :=
  congrArg (·.epoch) (L.bare h)

theorem classes (L : RunsAlike writable R) (h : R s t) : s.classes = t.classes :=
  congrArg (·.classes) (L.bare h)

theorem objects (L : RunsAlike writable R) (h : R s t) : s.objects = t.objects :=
  congrArg (·.objects) (L.bare h)

theorem length (L : RunsAlike writable R) (h : R s t) : s.modules.length = t.modules.length :=
  ModuleSpace.length_of_bare (L.bare h)

theorem module (L : RunsAlike writable R) (h : R s t) (id : ModuleId) :
    (s.module? id).map Module.bare = (t.module? id).map Module.bare := by
  rw [← ModuleSpace.bare_module?, ← ModuleSpace.bare_module?, L.bare h]

theorem global (L : RunsAlike writable R) (h : R s t) (id : ModuleId) (name : Text) :
    s.global? id name = t.global? id name := by
  rw [← ModuleSpace.bare_global?, L.bare h, ModuleSpace.bare_global?]

theorem memberOf (L : RunsAlike writable R) (h : R s t) (v : Value) (name : Text) :
    s.member? v name = t.member? v name := by
  rw [← ModuleSpace.bare_member?, L.bare h, ModuleSpace.bare_member?]

theorem classAt (L : RunsAlike writable R) (h : R s t) (v : Value) (parts : List Text) :
    s.classAt? v parts = t.classAt? v parts := by
  rw [← ModuleSpace.bare_classAt?, L.bare h, ModuleSpace.bare_classAt?]

/-! ## Statements and bodies -/

theorem registeredAs (L : RunsAlike writable R) (name : Text) :
    Respects R (registeredAs name) := Respects.registeredAs (fun _ _ h => L.registry h) name

theorem member? (L : RunsAlike writable R) (id : ModuleId) (name : Text) :
    Respects R (member? id name) := by
  refine Respects.get_bind fun s t h => ?_
  rw [L.memberOf h]
  exact .ok h

theorem assigns (L : RunsAlike writable R) {id : ModuleId} (hid : writable id) (name : Text)
    (v : Value) : Respects R (Import.assign id name v) :=
  Respects.modify fun _ _ h => L.assign h id name v hid

theorem nameOf (L : RunsAlike writable R) (id : ModuleId) : Respects R (nameOf id) := by
  refine Respects.get_bind fun s t h => ?_
  have hm := L.module h id
  rcases hs : s.module? id with _ | m <;> rcases ht : t.module? id with _ | n <;>
    simp only [hs, ht, Option.map_none, Option.map_some, reduceCtorEq, Option.some.injEq] at hm ⊢
  · exact .ok h
  · have hname : m.bare.name = n.bare.name := by rw [hm]
    rw [show m.name = n.name from hname]
    exact .ok h

theorem isPackage (L : RunsAlike writable R) (id : ModuleId) : Respects R (isPackage id) := by
  refine Respects.get_bind fun s t h => ?_
  have hm := L.module h id
  rcases hs : s.module? id with _ | m <;> rcases ht : t.module? id with _ | n <;>
    simp only [hs, ht, Option.map_none, Option.map_some, reduceCtorEq, Option.some.injEq] at hm ⊢
  · exact .ok h
  · have hp := congrArg Module.isPackage hm
    simp only [Module.isPackage, Module.bare, Option.isSome_map] at hp
    rw [Module.isPackage, Module.isPackage, hp]
    exact .ok h

theorem beganAsPackage (L : RunsAlike writable R) (id : ModuleId) :
    Respects R (beganAsPackage id) := by
  refine Respects.get_bind fun s t h => ?_
  have hm := L.module h id
  rcases hs : s.module? id with _ | m <;> rcases ht : t.module? id with _ | n <;>
    simp only [hs, ht, Option.map_none, Option.map_some, reduceCtorEq, Option.some.injEq] at hm ⊢
  · exact .ok h
  · rw [← Module.beganAsPackage_bare m, hm, Module.beganAsPackage_bare]
    exact .ok h

theorem given (L : RunsAlike writable R) (h : R s t) (id : ModuleId) :
    s.given? id = t.given? id := by
  rw [← ModuleSpace.bare_given?, L.bare h, ModuleSpace.bare_given?]

theorem absoluteName (L : RunsAlike writable R) (id : ModuleId) (level : Nat) (name : Text) :
    Respects R (absoluteName id level name) := by
  unfold Import.absoluteName
  split
  · exact Respects.pure _
  · refine (L.nameOf id).bind fun own => (L.beganAsPackage id).bind fun package => ?_
    simp only
    generalize (if package = true then own else parentName own) = place
    split
    · exact Respects.throw _
    · split
      · exact Respects.throw _
      · exact Respects.pure _

variable {imp : Text → Import ModuleId}

theorem importWithTop (himp : ∀ name, Respects R (imp name)) (name : Text) :
    Respects R (importWithTop imp name) := by
  refine (himp name).bind fun id => ?_
  split
  · exact himp _
  · exact Respects.pure _

theorem importSubmodule (L : RunsAlike writable R) (himp : ∀ name, Respects R (imp name))
    (full : Text) : Respects R (importSubmodule imp full) := by
  intro s t h
  have hr := importWithTop himp full h
  simp only [Import.importSubmodule, L.objects h]
  generalize Import.importWithTop imp full s = x at hr
  generalize Import.importWithTop imp full t = y at hr
  cases hr with
  | ok h => exact .ok h
  | @error e _ _ h =>
    simp only
    split
    · rcases isNamed t.objects full e.subject with g | _ | _
      · exact .error h
      · exact .error h
      · exact .ok h
    · exact .error h

theorem importedMember (L : RunsAlike writable R) (id : ModuleId) (full name : Text) :
    Respects R (importedMember id full name) := by
  refine (L.member? id name).bind fun v? => ?_
  cases v? with
  | some v => exact Respects.pure v
  | none =>
    refine Respects.get_bind fun s t h => ?_
    simp only [get_bind_apply]
    rw [L.registered h full]
    have hm := L.module h id
    cases t.registered? full with
    | some id' => exact .ok h
    | none =>
      rcases hs : s.module? id with _ | m <;> rcases ht : t.module? id with _ | n <;>
        simp only [hs, ht, Option.map_none, Option.map_some, reduceCtorEq,
          Option.some.injEq] at hm ⊢
      · exact .error h
      · have hc : cannotImport name m.bare = cannotImport name n.bare := by rw [hm]
        rw [show cannotImport name m = cannotImport name n from hc]
        exact .error h

theorem importedName (L : RunsAlike writable R) (himp : ∀ name, Respects R (imp name))
    (id : ModuleId) (name : Text) : Respects R (importedName imp id name) := by
  rw [importedName_eq]
  refine (L.nameOf id).bind fun own => (L.isPackage id).bind fun package => ?_
  refine (L.member? id name).bind fun v? => ?_
  simp only
  split
  · exact (L.importSubmodule himp _).bind fun _ => L.importedMember id _ name
  · exact L.importedMember id _ name

theorem valueOf (L : RunsAlike writable R) (id : ModuleId) (name : Text) :
    Respects R (valueOf id name) := by
  refine Respects.get_bind fun s t h => ?_
  rw [L.global h]
  cases t.global? id name with
  | some v => exact .ok h
  | none =>
    refine Respects.get_bind (fun s t h => ?_) h
    rw [L.global h]
    cases t.global? 0 name with
    | some v => exact .ok h
    | none => exact .error h

theorem runStatement (L : RunsAlike writable R) (himp : ∀ name, Respects R (imp name))
    {id : ModuleId} (hid : writable id) (statement : Statement) :
    Respects R (runStatement imp id statement) := by
  cases statement with
  | classDef c =>
    refine Respects.get_bind fun s t h => (L.nameOf id h).bind fun own s' t' _ => ?_
    have hadd := ModuleSpace.addClass_alike own (L.classes h) c []
    generalize s.addClass own [] c = x at hadd
    generalize t.addClass own [] c = y at hadd
    obtain ⟨classId, s₁⟩ := x
    obtain ⟨_, t₁⟩ := y
    obtain ⟨rfl, cs, hcs, rfl, rfl⟩ := hadd
    exact L.assigns hid c.name _ (L.setClasses h cs hcs)
  | value name number =>
    cases number with
    | some i => exact L.assigns hid name (.number i)
    | none => exact L.assigns hid name .nothing
  | copy name target => exact (L.valueOf id target).bind fun v => L.assigns hid name v
  | raise kind message subject => exact Respects.throw _
  | importModule name =>
    exact (importWithTop himp name).bind fun top => L.assigns hid (topName name) (.ofModule top)
  | importFrom level source name =>
    refine (L.absoluteName id level source).bind fun full => (himp full).bind fun sourceId => ?_
    exact (L.importedName himp sourceId name).bind fun v => L.assigns hid name v
  | unparsable =>
    refine Respects.get_bind fun s t h => ?_
    have hm := L.module h id
    rcases hs : s.module? id with _ | m <;> rcases ht : t.module? id with _ | n <;>
      simp only [hs, ht, Option.map_none, Option.map_some, reduceCtorEq, Option.some.injEq] at hm ⊢
    · exact .error h
    · have hfile : m.bare.file = n.bare.file := by rw [hm]
      rw [show m.file = n.file from hfile]
      exact .error h

theorem runBody (L : RunsAlike writable R) (himp : ∀ name, Respects R (imp name))
    {id : ModuleId} (hid : writable id) (code : Code) :
    Respects R (runBody imp id code) := by
  cases code with
  | error f => exact Respects.throw f
  | ok statements =>
    induction statements with
    | nil => exact Respects.pure _
    | cons statement rest ih => exact (L.runStatement himp hid statement).bind fun _ => ih

end RunsAlike

/-! ## Imports -/

namespace Lockstep

variable {s t : ModuleSpace} {imp : Text → Import ModuleId}

theorem runBody (L : Lockstep around kept first R) (himp : ∀ name, Respects R (imp name))
    {id : ModuleId} (hid : first ≤ id) (code : Code) : Respects R (runBody imp id code) :=
  L.toRunsAlike.runBody himp hid code

theorem attach (L : Lockstep around kept first R) (name : Text) (id : ModuleId) :
    Respects R (attach name id) := by
  unfold Import.attach
  split
  · exact Respects.pure _
  · refine (L.registeredAs _).bind fun parent => ?_
    exact Respects.modify fun _ _ h => L.setMember h parent _ _

theorem pathOr (L : Lockstep around kept first R)
    (instead : Objects → Value → Except Fault (Option (List Text))) (id : ModuleId) :
    Respects R (pathOr around instead id) := by
  intro s t h
  rw [pathOr_apply, pathOr_apply, L.given h, L.objects h]
  rcases (t.given? id).map (instead t.objects) with _ | _ | _ | _
  · exact L.packagePath _ id h
  · exact .error h
  · exact L.packagePath _ id h
  · exact .ok h

theorem not_kept (L : Lockstep around kept first R) (h : R s t) {name : Text}
    (hn : s.registered? name = none) : ¬ kept name := by
  intro hk
  have hr := L.registered_of_kept h name hk
  simp [ModuleSpace.isRegistered, hn] at hr

theorem parentPath (L : Lockstep around kept first R) (depth : Nat) (name : Text) :
    Respects R (parentPath around depth name) :=
  Respects.parentPath (fun _ _ h => L.registry h) (L.packagePath depth) name

theorem moduleOf (L : Lockstep around kept first R) (regular : Bool) (name : Text) (found : Found) :
    Respects R (moduleOf around regular name found) := by
  cases found with
  | regular m =>
    rw [Import.moduleOf]
    cases m.made with
    | error e => exact Respects.throw e
    | ok code => exact Respects.pure _
  | portions entries =>
    rw [moduleOf_portions]
    refine (L.parentPath _ name).bind fun seen => Respects.get_bind fun s t h => ?_
    rw [L.epoch h]
    exact .ok h

theorem execute (L : Lockstep around kept first R) (himp : ∀ name, Respects R (imp name))
    (undo : Fault → Bool) {m : Module} (hm : ¬ kept m.name) (code : Code) :
    Respects R (execute imp undo m code) := by
  intro s t h
  have hid : (s.add m).1 = (t.add m).1 := L.length h
  have hfresh : first ≤ (t.add m).1 := by
    rw [← hid]
    exact L.fresh h
  have hr := L.runBody himp hfresh code (L.add h m hm)
  simp only [Import.execute]
  rw [hid]
  generalize Import.runBody imp (t.add m).1 code (s.add m).2 = x at hr
  generalize Import.runBody imp (t.add m).1 code (t.add m).2 = y at hr
  cases hr with
  | ok h => exact .ok (L.setStage h _ _)
  | error h =>
    simp only
    split
    · exact .error (L.unregister (L.setStage h _ _) _ hm)
    · exact .error (L.setStage h _ _)

theorem load (L : Lockstep around kept first R) (himp : ∀ name, Respects R (imp name)) {name : Text}
    (hname : ¬ kept name) (path : List Text) : Respects R (load around imp name path) := by
  refine (L.find name path).bind fun found? => ?_
  cases found? with
  | none => exact Respects.throw _
  | some found =>
    refine (L.moduleOf true name found).bind_answer fun m s s' hm => ?_
    have hfree : ¬ kept m.1.name := by rwa [moduleOf_name hm]
    refine (L.execute himp _ hfree m.2).bind fun id => ?_
    exact (L.attach name id).bind fun _ => Respects.pure id

theorem importInParent (L : Lockstep around kept first R) {depth : Nat} {name : Text}
    (hname : ¬ kept name) (himp : ∀ name, Respects R (importModule around depth name)) :
    Respects R (importInParent around depth name) := by
  refine Respects.get_bind fun s t h => ?_
  rw [L.registered h name]
  cases t.registered? name with
  | some id => exact .ok h
  | none =>
    refine (L.registeredAs (parentName name)).bind (fun parentId => ?_) h
    refine (L.pathOr _ parentId).bind fun path? => ?_
    cases path? with
    | none => exact Respects.throw _
    | some path => exact L.load himp hname path

theorem importModule (L : Lockstep around kept first R) (depth : Nat) (name : Text) :
    Respects R (importModule around depth name) := by
  induction depth generalizing name with
  | zero => exact Respects.throw _
  | succ depth ih =>
    rw [importModule_succ]
    refine Respects.get_bind fun s t h => ?_
    rw [← L.registered h name]
    cases hs : s.registered? name with
    | some id => exact .ok h
    | none =>
      have hfree := L.not_kept h hs
      simp only
      split
      · exact L.load ih hfree _ h
      · refine Respects.get_bind (fun s t h => ?_) h
        rw [ModuleSpace.isRegistered, ModuleSpace.isRegistered, L.registered h]
        split
        · exact (ih (parentName name)).discard.bind (fun _ => L.importInParent hfree ih) h
        · exact L.importInParent hfree ih h

theorem importNamed (L : Lockstep around kept first R) (name : Text) :
    Respects R (importNamed around name) := by
  unfold Import.importNamed
  split
  · exact Respects.throw _
  · split
    · exact Respects.throw _
    · exact L.importModule _ name

/-! ## Look-ups of classes -/

theorem classIn (L : Lockstep around kept first R) (id : ModuleId) (members : Text) :
    Respects R (classIn id members) := by
  refine Respects.get_bind fun s t h => ?_
  rw [L.classAt h]
  exact .ok h

theorem executeLinked (L : Lockstep around kept first R) (className : Text) {m : Module}
    (hm : ¬ kept m.name) (code : Code) :
    Respects R (executeLinked around className m code) := by
  intro s t h
  have hr := L.execute (L.importModule around.nestingLimit) Fault.isOrdinary hm code h
  simp only [Import.executeLinked]
  generalize Import.execute _ _ m code s = x at hr
  generalize Import.execute _ _ m code t = y at hr
  cases hr with
  | ok h => exact .ok h
  | error h => exact .error h

theorem loadLinked (L : Lockstep around kept first R) (className : Text) {name : Text}
    (hname : ¬ kept name) (path : List Text) :
    Respects R (loadLinked around className name path) := by
  refine (L.find name path).bind fun found? => ?_
  cases found? with
  | none => exact Respects.pure none
  | some found =>
    refine (L.moduleOf false name found).bind_answer fun m s s' hm => ?_
    have hfree : ¬ kept m.1.name := by rwa [moduleOf_name hm]
    refine (L.executeLinked className hfree m.2).bind fun id => ?_
    exact (L.attach name id).bind fun _ => Respects.pure (some id)

theorem stepTo (L : Lockstep around kept first R) (className name : Text)
    (path : Option (List Text)) : Respects R (stepTo around className name path) := by
  refine Respects.get_bind fun s t h => ?_
  rw [← L.registered h]
  cases hs : s.registered? name with
  | some id => exact .ok h
  | none =>
    cases path with
    | none => exact .ok h
    | some entries => exact L.loadLinked className (L.not_kept h hs) entries h

theorem walk (L : Lockstep around kept first R) (className done : Text) (path : Option (List Text))
    (last : Option ModuleId) (parts : List Text) :
    Respects R (walk around className done path last parts) := by
  induction parts generalizing done path last with
  | nil => exact Respects.pure last
  | cons part rest ih =>
    rw [walk_cons]
    refine (L.stepTo className _ path).bind fun found? => ?_
    cases found? with
    | none => exact Respects.pure none
    | some id => exact (L.pathOr _ id).bind fun _ => ih _ _ _

theorem loadUnder (L : Lockstep around kept first R) (name : Text) (path : List Text) :
    Respects R (loadUnder around name path) := by
  unfold Import.loadUnder
  simp only
  split
  · exact Respects.pure none
  · refine (L.walk _ _ _ _ _).bind fun found? => ?_
    cases found? with
    | none => exact Respects.pure none
    | some id => exact L.classIn id _

theorem importClass (L : Lockstep around kept first R) (name : Text) :
    Respects R (importClass around name) := by
  intro s t h
  have hr := L.importNamed (splitClassName name).1 h
  simp only [Import.importClass, L.objects h]
  split
  · exact .ok h
  · generalize Import.importNamed around (splitClassName name).1 s = x at hr
    generalize Import.importNamed around (splitClassName name).1 t = y at hr
    cases hr with
    | ok h => exact L.classIn _ _ h
    | @error e _ _ h =>
      simp only
      split
      · rcases isMissing t.objects (splitClassName name).1 e.subject with g | _ | _
        · exact .error h
        · exact .error h
        · exact .ok h
      · split
        · exact .error h
        · exact .error h

end Lockstep
end ResourceLookup.Import
