import ResourceLookup.Proofs.Modules.Idle

/-!
# Walking the same way again

A walk goes by the registry as far as that reaches, and what it finds it leaves there. So when a
walk that came to its end is made again in the space that it left, it comes to the same end, and
begins nothing more; and where its first part is registered by then, it does so whatever path it
is given.
-/

namespace ResourceLookup.Import

variable {around : Surroundings} {base : OrderedMap Text ModuleId} {α : Type}
variable {s t s' : ModuleSpace} {id : ModuleId} {name : Text}

/-! ## What stays settled -/

theorem settled_after_packagePath (depth : Nat) (h : Alike around base s s) {j : ModuleId}
    {u : List Text} (hu : Settled around base s j u) :
    Settled around base (after (packagePath around depth id) s) j u := by
  induction depth generalizing id j u with
  | zero => exact hu
  | succ depth ih =>
    by_cases hv : ∃ v, Settled around base s id v
    · obtain ⟨v, hv⟩ := hv
      have hread := packagePath_settled (depth + 1) h.carries hv
      exact hread.after.settled hu
    have unsettled : ∀ v, ¬ Settled around base s id v := fun v hs => hv ⟨v, hs⟩
    have above : ∀ name, Settled around base (after (parentPath around depth name) s) j u := by
      intro name
      rcases after_parentPath around depth name s with hs | ⟨p, hp⟩
      · rwa [hs]
      · rw [hp]
        exact ih hu
    have before : ∀ name v, ¬ Settled around base (after (parentPath around depth name) s) id v := by
      intro name v hid
      rcases after_parentPath around depth name s with hs | ⟨p, hp⟩
      · exact unsettled v (hs ▸ hid)
      · exact unsettled v (settled_of_packagePath depth h (hp ▸ hid))
    have change := packagePath_changes around depth id s
    generalize after (packagePath around (depth + 1) id) s = s' at change ⊢
    cases change with
    | nothing => exact hu
    | above route => exact above _
    | searched route parent =>
      have h₁ := h.left_of_bare (after_ok parent ▸ bare_parentPath around depth _ s)
      refine (h₁.portionsAnew _ _ _).settled ?_
      rw [← after_ok parent]
      exact above _
    | @renewed name entries seen path v epoch s₁ s₂ route parent stale found =>
      have h₁ := h.left_of_bare (after_ok parent ▸ bare_parentPath around depth name s)
      have h₂ : Alike around base s₁ s₂ := by
        rw [← after_ok found]
        exact h₁.portionsAnew name entries path
      have above := above name
      have before := before name
      rw [after_ok parent] at above before
      exact (h₂.settled above).setPath_of_unsettled fun v hs => before v (h₂.symm.settled hs)

theorem Carries.step {u u' : ModuleSpace} (h : Carries around base s u)
    (right : Alike around base u' u') (epoch : u.epoch = u'.epoch) (objects : u.objects = u'.objects)
    (finder : SameFinders around u u')
    (keeps : ∀ j r, u.route j = some r → u'.route j = some r) : Carries around base s u' where
  left := h.left
  right := right
  settled hs := (h.settled hs).congr keeps epoch objects finder
  route hr := by
    have hu := h.route hr
    rw [ModuleSpace.bare_route] at hu ⊢
    obtain ⟨r', hr', rfl⟩ := Option.map_eq_some_iff.1 hu
    rw [keeps _ r' hr']
    rfl
  objects := h.objects.trans objects

theorem Carries.length_le (h : Carries around base s t) : s.modules.length ≤ t.modules.length := by
  refine Nat.le_of_not_lt fun hlt => ?_
  obtain ⟨r, hr⟩ := ModuleSpace.exists_route hlt
  have hb : s.bare.route t.modules.length = some (r.1, r.2.map PackagePath.bare) := by
    rw [ModuleSpace.bare_route, hr]
    rfl
  have hroute := h.route hb
  rw [ModuleSpace.bare_route, Option.map_eq_some_iff] at hroute
  obtain ⟨r', hr', -⟩ := hroute
  exact Nat.lt_irrefl _ (ModuleSpace.lt_of_route hr')

theorem Carries.givePath {u : ModuleSpace} (h : Carries around base s u)
    (begun : ∀ n i, base.get? n = some i → i < s.modules.length) (hid : s.modules.length ≤ id)
    (v : Value) : Carries around base s (u.givePath id v) := by
  have hbase : ∀ n, base.get? n ≠ some id := fun n hn => Nat.not_lt_of_le hid (begun n id hn)
  have old : ∀ {j r}, s.route j = some r → id ≠ j := fun hr =>
    (Nat.ne_of_lt (Nat.lt_of_lt_of_le (ModuleSpace.lt_of_route hr) hid)).symm
  exact
    { left := h.left
      right := h.right.givePath hbase v
      settled := fun hs => by
        obtain ⟨r, hr⟩ := hs.route
        exact (h.settled hs).givePath_of_ne hbase (old hr) v
      route := fun {j r} hr => by
        have hold := hr
        rw [ModuleSpace.bare_route, Option.map_eq_some_iff] at hold
        obtain ⟨r', hr', -⟩ := hold
        rw [ModuleSpace.bare_givePath, ModuleSpace.route_givePath_of_ne (old hr'), h.route hr]
      objects := h.objects }

/-- What is settled stays settled through all work. -/
theorem Carries.invariant (around : Surroundings) {base : OrderedMap Text ModuleId}
    {s : ModuleSpace} (begun : ∀ n i, base.get? n = some i → i < s.modules.length) :
    Invariant around (fun n => (base.get? n).isSome) s.modules.length (Carries around base s) where
  recognize {u} hu e := by
    have hb := ModuleSpace.bare_recognize around u e
    exact hu.step (hu.right.recognize e) (congrArg (·.epoch) hb).symm (congrArg (·.objects) hb).symm
      (hu.right.recognize_self e).finder fun j r hj => by rw [ModuleSpace.route_recognize, hj]
  fresh hu := hu.length_le
  registered_of_kept hu n hn := by
    obtain ⟨id, hid⟩ := Option.isSome_iff_exists.1 hn
    rw [ModuleSpace.isRegistered, hu.right.registered n id hid]
    rfl
  packagePath {u} hu depth id :=
    have hb := bare_packagePath around depth id u
    { left := hu.left
      right := hu.right.left_of_bare hb
      settled := fun hs => settled_after_packagePath depth hu.right (hu.settled hs)
      route := fun hr => by rw [hb]; exact hu.route hr
      objects := hu.objects.trans (congrArg (·.objects) hb).symm }
  add hu m hm :=
    hu.step (hu.right.add (Option.not_isSome_iff_eq_none.1 hm)) rfl rfl
      (ModuleSpace.recognize_congr around rfl) fun j r hj => ModuleSpace.route_add_of_some hj m
  unregister hu n hn :=
    hu.step (hu.right.unregister (Option.not_isSome_iff_eq_none.1 hn)) rfl rfl
      (ModuleSpace.recognize_congr around rfl) fun j r hj => hj
  setStage hu id stage :=
    hu.step (hu.right.setStage id stage) rfl rfl (ModuleSpace.recognize_congr around rfl)
      fun j r hj => by rw [ModuleSpace.route_setStage, hj]
  setMember hu id n v :=
    hu.step (hu.right.setMember id n v) rfl rfl (ModuleSpace.recognize_congr around rfl)
      fun j r hj => by rw [ModuleSpace.route_setMember, hj]
  givePath hu id v hid := hu.givePath begun hid v
  setClasses hu cs :=
    hu.step (hu.right.setClasses cs) rfl rfl (ModuleSpace.recognize_congr around rfl)
      fun j r hj => hj

theorem SameFinders.of_recognized (h : SameFinders around s t)
    (hr : t.recognized = s'.recognized) : SameFinders around s s' :=
  fun e => (h e).trans (ModuleSpace.recognize_congr around hr e)

theorem SameFinders.invariant (around : Surroundings) (s : ModuleSpace) :
    Invariant around (fun _ => False) 0 fun u => u.Sound ∧ SameFinders around s u where
  fresh _ := Nat.zero_le _
  recognize hu e :=
    ⟨(Invariant.sound around).recognize hu.1 e,
      fun e' => (hu.2 e').trans (ModuleSpace.recognize_finder around _ e e').symm⟩
  registered_of_kept _ _ hn := hn.elim
  packagePath {u} hu depth id := by
    have hlook : Alike around u.registry u (after (packagePath around depth id) u) :=
      (packagePath_settles hu.1 depth id).after
    exact ⟨hlook.sound hu.1, fun e => (hu.2 e).trans (hlook.finder e)⟩
  add hu m hm := ⟨(Invariant.sound around).add hu.1 m hm, hu.2.of_recognized rfl⟩
  unregister hu n hn := ⟨(Invariant.sound around).unregister hu.1 n hn, hu.2.of_recognized rfl⟩
  setStage hu id stage := ⟨(Invariant.sound around).setStage hu.1 id stage, hu.2.of_recognized rfl⟩
  setMember hu id n v := ⟨(Invariant.sound around).setMember hu.1 id n v, hu.2.of_recognized rfl⟩
  givePath hu id v hid := ⟨(Invariant.sound around).givePath hu.1 id v hid, hu.2.of_recognized rfl⟩
  setClasses hu cs := ⟨(Invariant.sound around).setClasses hu.1 cs, hu.2.of_recognized rfl⟩

theorem Works.sameFinders {f : Import α} (hf : Works around f) (hs : s.Sound) :
    SameFinders around s (after f s) :=
  (hf.keeps (SameFinders.invariant around s) ⟨hs, fun _ => rfl⟩).2

/-! ## Steps of a walk -/

theorem execute_of_executeLinked {className : Text} {m : Module} {code : Code}
    (h : executeLinked around className m code s = .ok id s') :
    execute (importModule around around.nestingLimit) Fault.isOrdinary m code s = .ok id s' := by
  rw [executeLinked] at h
  cases hx : execute (importModule around around.nestingLimit) Fault.isOrdinary m code s with
  | error e s₁ => simp [hx] at h
  | ok id' s₁ =>
    simp only [hx] at h
    exact h

theorem loadLinked_ok {className : Text} {path : List Text} {o : Option ModuleId}
    (h : loadLinked around className name path s = .ok o s') :
    (o = none ∧ find around name path s = .ok none s') ∨
      ∃ id m code s₁ s₂, o = some id ∧ m.name = name ∧
        executeLinked around className m code s₁ = .ok id s₂ ∧
        attach name id s₂ = .ok ⟨⟩ s' := by
  obtain ⟨found?, s₁, hfind, h⟩ := ok_of_bind h
  cases found? with
  | none =>
    cases h
    exact .inl ⟨rfl, hfind⟩
  | some found =>
    obtain ⟨m, s₂, hm, h⟩ := ok_of_bind h
    obtain ⟨id, s₃, hx, h⟩ := ok_of_bind h
    obtain ⟨_, s₄, ha, h⟩ := ok_of_bind h
    cases h
    exact .inr ⟨id, m.1, m.2, s₂, s₃, rfl, moduleOf_name hm, hx, ha⟩

theorem loadLinked_registers {className : Text} {path : List Text}
    (h : loadLinked around className name path s = .ok (some id) s') :
    s'.registered? name = some id := by
  rcases loadLinked_ok h with ⟨ho, -⟩ | ⟨id', m, code, s₁, s₂, ho, hname, hx, ha⟩
  · cases ho
  · cases ho
    have hreg := execute_registers (Works.importModule around around.nestingLimit)
      (execute_of_executeLinked hx)
    rw [hname] at hreg
    rw [← after_ok ha]
    exact (Works.attach around name id).registered hreg

theorem stepTo_registered {className : Text} (h : s.registered? name = some id)
    (path : Option (List Text)) : stepTo around className name path s = .ok (some id) s := by
  simp only [stepTo, get_bind_apply, h]
  rfl

theorem stepTo_ended {className : Text} (h : s.registered? name = none) :
    stepTo around className name none s = .ok none s := by
  simp only [stepTo, get_bind_apply, h]
  rfl

theorem stepTo_anew {className : Text} (h : s.registered? name = none) (entries : List Text) :
    stepTo around className name (some entries) s =
      loadLinked around className name entries s := by
  simp only [stepTo, get_bind_apply, h]

theorem stepTo_registers {className : Text} {path : Option (List Text)}
    (h : stepTo around className name path s = .ok (some id) s') :
    s'.registered? name = some id := by
  cases hs : s.registered? name with
  | some id' =>
    rw [stepTo_registered hs] at h
    cases h
    exact hs
  | none =>
    cases path with
    | none =>
      rw [stepTo_ended hs] at h
      cases h
    | some entries =>
      rw [stepTo_anew hs] at h
      exact loadLinked_registers h

theorem stepTo_none {className : Text} {path : Option (List Text)}
    (h : stepTo around className name path s = .ok none s') :
    Alike around s.registry s s' ∧
      ∃ t, stepTo around className name path s' = .ok none t ∧ Alike around s.registry s' t := by
  cases hs : s.registered? name with
  | some id =>
    rw [stepTo_registered hs] at h
    cases h
  | none =>
    cases path with
    | none =>
      rw [stepTo_ended hs] at h
      cases h
      exact ⟨Alike.own s, s, stepTo_ended hs, Alike.own s⟩
    | some entries =>
      rw [stepTo_anew hs] at h
      have hfind : find around name entries s = .ok none s' := by
        rcases loadLinked_ok h with ⟨-, hfind⟩ | ⟨_, _, _, _, _, ho, _⟩
        · exact hfind
        · cases ho
      have h₁ : Alike around s.registry s (after (find around name entries) s) :=
        (Alike.own s).find name entries
      rw [after_ok hfind] at h₁
      have hagain := Alike.findsAlike.find name entries h₁
      rw [hfind] at hagain
      obtain ⟨t, ht, hst⟩ := hagain.of_ok
      have hs' : s'.registered? name = none := by
        rw [ModuleSpace.registered?, ← h₁.registry]
        exact hs
      refine ⟨h₁, t, ?_, hst⟩
      rw [stepTo_anew hs', loadLinked, bind_ok ht]
      rfl

theorem Unchanged.of_ok {P : α → Prop} {a : α} {y : EStateM.Result Fault ModuleSpace α}
    (h : Unchanged around base s t P (.ok a s') y) :
    ∃ t', y = .ok a t' ∧ P a ∧ Alike around base t t' := by
  cases h with
  | ok ha _ ht => exact ⟨_, rfl, ha, ht⟩

/-! ## Walks -/

theorem Works.stepTo (className name : Text) (path : Option (List Text)) :
    Works around (stepTo around className name path) :=
  fun _ _ _ L => L.stepTo className name path

theorem walk_stopped {className done part : Text} {path : Option (List Text)}
    {last : Option ModuleId} (rest : List Text)
    (h : stepTo around className (walkedName done last part) path s = .ok none s') :
    walk around className done path last (part :: rest) s = .ok none s' := by
  rw [walk_cons, bind_ok h]
  rfl

theorem walk_stepped {className done part : Text} {path : Option (List Text)}
    {last : Option ModuleId} (rest : List Text)
    (h : stepTo around className (walkedName done last part) path s = .ok (some id) s') :
    walk around className done path last (part :: rest) s =
      walkOn around className (walkedName done last part) id rest s' := by
  rw [walk_cons, bind_ok h]

theorem Works.walk (className done : Text) (path : Option (List Text)) (last : Option ModuleId)
    (parts : List Text) : Works around (walk around className done path last parts) :=
  fun _ _ _ L => L.walk className done path last parts

theorem Works.walkOn (className done : Text) (id : ModuleId) (rest : List Text) :
    Works around (walkOn around className done id rest) :=
  fun _ _ _ L => (L.pathOr _ id).bind fun _ => L.walk _ _ _ _ _

theorem Carries.given (h : Carries around base s t) (hid : id < s.modules.length) :
    t.given? id = s.given? id := by
  obtain ⟨r, hr⟩ := ModuleSpace.exists_route hid
  have hs : s.bare.route id = some (r.1, r.2.map PackagePath.bare) := by
    rw [ModuleSpace.bare_route, hr]
    rfl
  rw [← ModuleSpace.bare_given?, ← ModuleSpace.bare_given? s, given?_of_route hs,
    given?_of_route (h.route hs)]

theorem packagePath_again {a : Option (List Text)} {s₁ : ModuleSpace}
    (carries : Carries around s.registry s s') (hs : s.Sound) (hs' : s'.Sound)
    (hid : id < s.modules.length) (ha : packagePath around around.nestingLimit id s = .ok a s₁) :
    ∃ t, packagePath around around.nestingLimit id s' = .ok a t ∧ Alike around s'.registry s' t := by
  have hlook : Looks around s.registry s (fun a : Option (List Text) =>
      id < s.modules.length → Settled around s.registry s id (a.getD []))
      (packagePath around around.nestingLimit id s) := packagePath_settles hs around.nestingLimit id
  rw [ha] at hlook
  have hsame := packagePath_settled around.nestingLimit carries (hlook.of_ok hid)
  rw [ha] at hsame
  obtain ⟨t, ht, -⟩ := hsame.of_ok
  have halike : Alike around s'.registry s' (after (packagePath around around.nestingLimit id) s') :=
    (packagePath_settles hs' around.nestingLimit id).after
  rw [after_ok ht] at halike
  exact ⟨t, ht, halike⟩

theorem pathOr_again {instead : Objects → Value → Except Fault (Option (List Text))}
    {f : Import α} {a : Option (List Text)} {s₁ : ModuleSpace} (hf : Works around f)
    (hs : s.Sound) (hid : id < s.modules.length)
    (ha : pathOr around instead id s = .ok a s₁) (h : after f s₁ = s') :
    ∃ t, pathOr around instead id s' = .ok a t ∧ Alike around s'.registry s' t := by
  have halike : Alike around s.registry s s₁ := by
    rw [← after_ok ha]
    have hidle : Idle around s (after (pathOr around instead id) s) := pathOr_idles instead id s
    exact hidle.alike hs (ModuleSpace.length_of_bare (bare_pathOr around instead id s))
  have hcarries : Carries around s.registry s s' := by
    rw [← h]
    exact hf.keeps (Carries.invariant around hs) halike.carries
  have hs' : s'.Sound := by
    rw [← h]
    exact hf.sound (halike.sound hs)
  rw [pathOr_apply] at ha ⊢
  rw [hcarries.given hid, ← hcarries.objects]
  generalize (s.given? id).map (instead s.objects) = x at ha ⊢
  rcases x with _ | f | _ | entries
  · exact packagePath_again hcarries hs hs' hid ha
  · cases ha
  · exact packagePath_again hcarries hs hs' hid ha
  · cases ha
    exact ⟨s', rfl, Alike.own s'⟩

/-- A walk that came to its end comes to the same end again, and changes nothing more. -/
theorem walk_again {className done : Text} {path : Option (List Text)} {last o : Option ModuleId}
    {parts : List Text} (hs : s.Sound) (h : walk around className done path last parts s = .ok o s') :
    ∃ t, walk around className done path last parts s' = .ok o t ∧
      Alike around s'.registry s' t := by
  induction parts generalizing s done path last with
  | nil =>
    cases h
    exact ⟨s', rfl, Alike.own s'⟩
  | cons part rest ih =>
    rw [walk_cons] at h
    obtain ⟨found?, s₁, hstep, h⟩ := ok_of_bind h
    cases found? with
    | none =>
      cases h
      obtain ⟨halike, t, ht, hst⟩ := stepTo_none hstep
      rw [halike.registry] at hst
      exact ⟨t, walk_stopped rest ht, hst⟩
    | some id =>
      have hs₁ : s₁.Sound := by
        rw [← after_ok hstep]
        exact (Works.stepTo _ _ path).sound hs
      have hreg := stepTo_registers hstep
      have hs' : s'.Sound := by
        rw [← after_ok h]
        exact (Works.walkOn className _ id rest).sound hs₁
      obtain ⟨entries, s₂, hpath, hrest⟩ := ok_of_bind h
      have hs₂ : s₂.Sound := by
        rw [← after_ok hpath]
        exact (Works.pathOr _ id).sound hs₁
      -- The module is registered by now, so the step does not look for it, and its path comes to
      -- the same entries: the rest is walked as before, in a space that is alike.
      have hreg' : s'.registered? (walkedName done last part) = some id := by
        rw [← after_ok h]
        exact (Works.walkOn className _ id rest).registered hreg
      obtain ⟨t, ht, hst⟩ := ih hs₂ hrest
      obtain ⟨s₃, hs₃, h₃⟩ : ∃ t, walkPath around id s' = .ok entries t ∧
          Alike around s'.registry s' t :=
        pathOr_again (Works.walk className _ _ (some id) rest) hs₁ (hs₁ _ id hreg) hpath
          (after_ok hrest)
      have hagain := Works.walk className (walkedName done last part)
        (if (entries.getD []).isEmpty then none else some (entries.getD [])) (some id) rest
        (Alike.lockstep around hs') ⟨h₃, Nat.le_refl _⟩
      rw [ht] at hagain
      obtain ⟨t', ht', htt⟩ := hagain.of_ok
      rw [walk_stepped rest (stepTo_registered hreg' path), walkOn, bind_ok hs₃]
      exact ⟨t', ht', hst.trans htt.1⟩

theorem walk_registers {className done part : Text} {path : Option (List Text)}
    {last o : Option ModuleId} {rest : List Text}
    (h : walk around className done path last (part :: rest) s = .ok o s') :
    s.modules.length = s'.modules.length ∨
      ∃ id, s'.registered? (walkedName done last part) = some id := by
  rw [walk_cons] at h
  obtain ⟨found?, s₁, hstep, h⟩ := ok_of_bind h
  cases found? with
  | none =>
    cases h
    exact .inl (stepTo_none hstep).1.length
  | some id =>
    refine .inr ⟨id, ?_⟩
    rw [← after_ok h]
    exact (Works.walkOn className _ id rest).registered (stepTo_registers hstep)

theorem walk_of_registered {className done part : Text} {last : Option ModuleId}
    (h : s.registered? (walkedName done last part) = some id) (rest : List Text)
    (path path' : Option (List Text)) :
    walk around className done path last (part :: rest) s =
      walk around className done path' last (part :: rest) s := by
  rw [walk_stepped rest (stepTo_registered h path), walk_stepped rest (stepTo_registered h path')]

/-! ## Classes below a path -/

theorem loadUnder_of_unsplit {path : List Text}
    (h : (splitClassName name).1 = [] ∨ (splitClassName name).2 = []) :
    loadUnder around name path s = .ok none s := by
  simp only [loadUnder, Bool.or_eq_true, decide_eq_true_eq, if_pos h]
  rfl

theorem loadUnder_of_walk {path : List Text} {o : Option ModuleId}
    (hn : ¬((splitClassName name).1 = [] ∨ (splitClassName name).2 = []))
    (hw : walk around name [] (some path) none ((splitClassName name).1.splitOn 0x2E) s =
      .ok o s') :
    loadUnder around name path s =
      .ok (o.bind fun id => s'.classAt? (.ofModule id) ((splitClassName name).2.splitOn 0x2E))
        s' := by
  simp only [loadUnder, Bool.or_eq_true, decide_eq_true_eq, if_neg hn]
  rw [bind_ok hw]
  cases o <;> rfl

theorem walk_of_loadUnder {path : List Text} {c : Option ClassId}
    (hn : ¬((splitClassName name).1 = [] ∨ (splitClassName name).2 = []))
    (h : loadUnder around name path s = .ok c s') :
    ∃ o, walk around name [] (some path) none ((splitClassName name).1.splitOn 0x2E) s =
      .ok o s' := by
  cases hw : walk around name [] (some path) none ((splitClassName name).1.splitOn 0x2E) s with
  | ok o s₁ =>
    rw [loadUnder_of_walk hn hw] at h
    cases h
    exact ⟨o, rfl⟩
  | error e s₁ =>
    simp only [loadUnder, Bool.or_eq_true, decide_eq_true_eq, if_neg hn] at h
    rw [bind_error hw] at h
    cases h

/-- After a look-up that began a module, a look-up below any path ends in the same way. -/
theorem loadUnder_spent {path : List Text} {c : Option ClassId} (hs : s.Sound)
    (h : loadUnder around name path s = .ok c s')
    (hlen : s.modules.length < s'.modules.length) (path' : List Text) :
    ∃ t, loadUnder around name path' s' = .ok c t ∧ Alike around s'.registry s' t := by
  by_cases hn : (splitClassName name).1 = [] ∨ (splitClassName name).2 = []
  · rw [loadUnder_of_unsplit hn] at h
    cases h
    exact absurd hlen (Nat.lt_irrefl _)
  obtain ⟨o, hw⟩ := walk_of_loadUnder hn h
  obtain ⟨t, ht, hst⟩ := walk_again hs hw
  obtain ⟨first, rest, hparts⟩ := List.exists_cons_of_ne_nil
    (Text.splitOn_ne_nil 0x2E (splitClassName name).1)
  have helse : walk around name [] (some path') none ((splitClassName name).1.splitOn 0x2E) s' =
      .ok o t := by
    rw [hparts] at hw ht ⊢
    rcases walk_registers hw with hsame | ⟨id, hid⟩
    · exact absurd hsame (Nat.ne_of_lt hlen)
    · rw [walk_of_registered hid rest (some path') (some path), ht]
  have hanswer := loadUnder_of_walk hn hw
  rw [h] at hanswer
  injection hanswer with hc
  refine ⟨t, ?_, hst⟩
  rw [loadUnder_of_walk hn helse, hc]
  simp only [hst.classAt]

end ResourceLookup.Import
