import ResourceLookup.Proofs.Modules.Alike

/-!
# Looking up the path of a package

Looking a path up settles nothing that was not settled and unsettles nothing that was. Of a module
that is settled it gives the entries that are, and leaves the space alike; a module that is not
settled is written the same path to in spaces that are alike. So spaces stay alike, and with the
other changes this makes being alike a relation that all work keeps.
-/

namespace ResourceLookup.Import

variable {around : Surroundings} {base : OrderedMap Text ModuleId}
variable {s t : ModuleSpace} {id : ModuleId} {name : Text} {entries seen : List Text} {epoch : Nat}
variable {path v : List Text}

theorem Alike.setPath (h : Alike around base s s)
    (route : s.route id = some (name, some (.portions entries seen epoch)))
    (above : Above around base s name path) (hv : Settled around base s id v) :
    Alike around base s (s.setPath id (.portions v path s.epoch)) where
  bare := (ModuleSpace.bare_setPath_portions route v path s.epoch).symm
  finder := ModuleSpace.recognize_congr around rfl
  registered := h.registered
  route j := by
    by_cases hj : id = j
    · subst hj
      exact .inr ⟨v, hv, hv.setPath_of_settled route above hv⟩
    · exact .inl (by rw [ModuleSpace.route_setPath, if_neg hj])

theorem renew_settled (h : Alike around base s t)
    (route : s.route id = some (name, some (.portions entries seen epoch)))
    (above : Above around base s name path)
    (current : Current around s name entries seen epoch path v) :
    ∃ t', renew around id name entries seen epoch path t = .ok (some v) t' ∧
      Alike around base t t' := by
  have hv : Settled around base s id v := .portions route above current
  have hc := current.congr h.epoch h.finder
  by_cases hseen : path = seen ∧ epoch = t.epoch
  · rw [Current, if_pos hseen] at hc
    subst hc
    exact ⟨t, renew_current hseen id name v, h.symm.left⟩
  · rw [Current, if_neg hseen] at hc
    obtain ⟨t₁, ht₁⟩ := hc
    have h₁ : Alike around base t t₁ := by
      rw [← after_ok ht₁]
      exact h.symm.left.portionsAnew name entries path
    have hst := h.trans h₁
    obtain ⟨_, _, _, route₁⟩ := hst.route_portions route
    have h₂ := h₁.symm.left.setPath route₁ (hst.above above) (hst.settled hv)
    exact ⟨_, renew_ok hseen ht₁ id, h₁.trans h₂⟩

theorem bare_find (around : Surroundings) (name : Text) (path : List Text) (s : ModuleSpace) :
    (after (find around name path) s).bare = s.bare := by
  have hrec : ∀ (u : ModuleSpace) e, u.bare = s.bare → (u.recognize around e).2.bare = s.bare :=
    fun u e hu => (ModuleSpace.bare_recognize around u e).trans hu
  exact ((Holds.findsAlike hrec).find name path).holds rfl

theorem bare_portionsAnew (around : Surroundings) (name : Text) (entries path : List Text)
    (s : ModuleSpace) : (after (portionsAnew around name entries path) s).bare = s.bare := by
  rw [after_portionsAnew, bare_find]

theorem bare_packagePath (around : Surroundings) (depth : Nat) (id : ModuleId) (s : ModuleSpace) :
    (after (packagePath around depth id) s).bare = s.bare := by
  induction depth generalizing id with
  | zero => rfl
  | succ depth ih =>
    have above : ∀ name, (after (parentPath around depth name) s).bare = s.bare := by
      intro name
      rcases after_parentPath around depth name s with hs | ⟨p, hp⟩
      · rw [hs]
      · rw [hp, ih]
    have change := packagePath_changes around depth id s
    generalize after (packagePath around (depth + 1) id) s = u at change ⊢
    cases change with
    | nothing => rfl
    | above route => exact above _
    | searched route parent =>
      rw [bare_portionsAnew, ← after_ok parent]
      exact above _
    | @renewed name entries seen path v epoch s₁ s₂ route parent stale found =>
      have hbare : s₂.bare = s.bare := by
        rw [← after_ok found, bare_portionsAnew, ← after_ok parent]
        exact above name
      have hroute : s.bare.route id = s₂.bare.route id := by rw [hbare]
      obtain ⟨_, _, _, hr₂⟩ := ModuleSpace.route_portions_of_bare hroute route
      exact (ModuleSpace.bare_setPath_portions hr₂ v path s₂.epoch).trans hbare

theorem bare_pathOr (around : Surroundings)
    (instead : Objects → Value → Except Fault (Option (List Text))) (id : ModuleId)
    (s : ModuleSpace) : (after (pathOr around instead id) s).bare = s.bare := by
  rcases pathOr_cases around instead id s with ⟨entries, h, -⟩ | ⟨f, h⟩ | h
  · rw [after_ok h]
  · rw [after_error h]
  · rw [after, h, ← after, bare_packagePath]

theorem bare_parentPath (around : Surroundings) (depth : Nat) (name : Text) (s : ModuleSpace) :
    (after (parentPath around depth name) s).bare = s.bare := by
  rcases after_parentPath around depth name s with hs | ⟨p, hp⟩
  · rw [hs]
  · rw [hp, bare_packagePath]

theorem Alike.left_of_bare (h : Alike around base s s) (hb : t.bare = s.bare) :
    Alike around base t t :=
  Alike.refl fun n i hn => by
    have hr : t.registry = s.registry := congrArg (·.registry) hb
    rw [ModuleSpace.registered?, hr]
    exact h.registered n i hn

/-! ## Entries that are settled -/

structure Carries (around : Surroundings) (base : OrderedMap Text ModuleId)
    (s t : ModuleSpace) : Prop where
  left : Alike around base s s
  right : Alike around base t t
  settled : ∀ {id v}, Settled around base s id v → Settled around base t id v
  route : ∀ {id r}, s.bare.route id = some r → t.bare.route id = some r
  objects : s.objects = t.objects

theorem Alike.carries (h : Alike around base s t) : Carries around base s t :=
  ⟨h.left, h.symm.left, h.settled, fun hr => by rwa [← h.bare], h.objects⟩

theorem Carries.bare_route (h : Carries around base s t) {r : Text × Option PackagePath}
    (hr : s.route id = some r) : s.bare.route id = t.bare.route id := by
  have hs : ∃ r', s.bare.route id = some r' := ⟨_, by rw [ModuleSpace.bare_route, hr]; rfl⟩
  obtain ⟨r', hr'⟩ := hs
  rw [hr', h.route hr']

inductive Unchanged {α : Type} (around : Surroundings) (base : OrderedMap Text ModuleId)
    (s t : ModuleSpace) (P : α → Prop) :
    EStateM.Result Fault ModuleSpace α → EStateM.Result Fault ModuleSpace α → Prop
  | ok {a : α} {s' t' : ModuleSpace} (ha : P a) (hs : Alike around base s s')
    (ht : Alike around base t t') : Unchanged around base s t P (.ok a s') (.ok a t')
  | error {e : Fault} {s' t' : ModuleSpace} (hs : Alike around base s s')
    (ht : Alike around base t t') : Unchanged around base s t P (.error e s') (.error e t')

theorem Unchanged.same {α : Type} {P : α → Prop} {x y : EStateM.Result Fault ModuleSpace α}
    (hu : Unchanged around base s t P x y) (h : Alike around base s t) :
    Same (Alike around base) x y := by
  cases hu with
  | ok _ hs ht => exact .ok (hs.symm.trans (h.trans ht))
  | error hs ht => exact .error (hs.symm.trans (h.trans ht))

theorem Unchanged.after {α : Type} {P : α → Prop} {f : Import α}
    {y : EStateM.Result Fault ModuleSpace α} (h : Unchanged around base s t P (f s) y) :
    Alike around base s (after f s) := by
  rw [ResourceLookup.after]
  generalize f s = x at h
  cases h with
  | ok _ hs _ => exact hs
  | error hs _ => exact hs

theorem parentPath_settled {depth : Nat}
    (ih : ∀ p path, Settled around base s p path → Unchanged around base s t
      (fun a : Option (List Text) => a.getD [] = path) (packagePath around depth p s)
      (packagePath around depth p t))
    (h : Carries around base s t) (above : Above around base s name path) :
    Unchanged around base s t (· = path) (parentPath around depth name s)
      (parentPath around depth name t) := by
  unfold Above at above
  unfold parentPath
  split
  · rw [if_pos ‹_›] at above
    exact .ok above.symm h.left h.right
  · rw [if_neg ‹_›] at above
    obtain ⟨p, hb, hp⟩ := above
    have hreg : ∀ u, Alike around base u u → registeredAs (parentName name) u = .ok p u :=
      fun u hu => registeredAs_ok (hu.registered _ p hb)
    have hr := ih p path hp
    rw [bind_ok (hreg s h.left), bind_ok (hreg t h.right)]
    simp only [Bind.bind, EStateM.bind]
    generalize packagePath around depth p s = x at hr
    generalize packagePath around depth p t = y at hr
    cases hr with
    | ok ha hs ht => exact .ok ha hs ht
    | error hs ht => exact .error hs ht

theorem packagePath_settled (depth : Nat) (h : Carries around base s t)
    (hv : Settled around base s id v) :
    Unchanged around base s t (fun a : Option (List Text) => a.getD [] = v)
      (packagePath around depth id s) (packagePath around depth id t) := by
  induction depth generalizing id v with
  | zero => exact .error h.left h.right
  | succ depth ih =>
    have portions : ∀ {name entries seen epoch path},
        s.route id = some (name, some (.portions entries seen epoch)) →
        Above around base s name path → Current around s name entries seen epoch path v →
        Unchanged around base s t (fun a : Option (List Text) => a.getD [] = v)
          (packagePath around (depth + 1) id s) (packagePath around (depth + 1) id t) := by
      intro name entries seen epoch path route above current
      obtain ⟨_, _, _, route'⟩ := ModuleSpace.route_portions_of_bare (h.bare_route route) route
      obtain ⟨path', above', current'⟩ := (h.settled hv).above route'
      have hpath : path' = path := above'.functional (above.mono fun _ _ => h.settled)
      subst hpath
      rw [packagePath_portions route, packagePath_portions route']
      have hr := parentPath_settled (fun p path hp => ih hp) h above
      simp only [Bind.bind, EStateM.bind]
      generalize parentPath around depth name s = x at hr
      generalize parentPath around depth name t = y at hr
      cases hr with
      | ok ha hs ht =>
        subst ha
        obtain ⟨s₂, hs₂, hss⟩ := renew_settled hs route above current
        obtain ⟨t₂, ht₂, htt⟩ := renew_settled ht route' above' current'
        simp only [hs₂, ht₂]
        exact .ok rfl (hs.trans hss) (ht.trans htt)
      | error hs ht => exact .error hs ht
    have settled : ∀ {v'}, Settled around base s id v' → v' = v := fun h' => h'.functional hv
    rcases hr : s.route id with _ | ⟨name, _ | entries | ⟨entries, seen, epoch⟩ | ⟨x, package⟩⟩
    · cases hv <;> simp_all
    · have hr' := ModuleSpace.route_plain_of_bare (h.bare_route hr) hr
      rw [packagePath_plain hr, packagePath_plain hr']
      exact .ok (settled (.plain hr)) h.left h.right
    · have hr' := ModuleSpace.route_fixed_of_bare (h.bare_route hr) hr
      rw [packagePath_fixed hr, packagePath_fixed hr']
      exact .ok (settled (.fixed hr)) h.left h.right
    · obtain ⟨path, above, current⟩ := hv.above hr
      exact portions hr above current
    · have hr' := ModuleSpace.route_given_of_bare (h.bare_route hr) hr
      rw [packagePath_given hr, packagePath_given hr', ← h.objects, hv.entriesOf hr]
      exact .ok rfl h.left h.right

/-! ## Entries that are not settled -/

/-- A path that is settled is the one that was just looked up, and so are the portions that were
found on it. -/
theorem settled_of_renewed {depth : Nat} {v path' : List Text} {s₁ s₂ : ModuleSpace}
    (h : Alike around base s s)
    (route : s.route id = some (name, some (.portions entries seen epoch)))
    (parent : parentPath around depth name s = .ok path s₁)
    (stale : ¬(path = seen ∧ epoch = s₁.epoch))
    (found : portionsAnew around name entries path s₁ = .ok v s₂)
    (above : Above around base s name path') :
    path' = path ∧ Settled around base s id v ∧ Alike around base s s₁ := by
  have hread := parentPath_settled (fun p _ hp => packagePath_settled depth h.carries hp)
    h.carries above
  rw [parent] at hread
  cases hread with
  | ok heq hs _ =>
    subst heq
    have current : Current around s₁ name entries seen epoch path v := by
      rw [Current, if_neg stale]
      exact ⟨s₂, found⟩
    exact ⟨rfl, .portions route above (current.congr hs.symm.epoch hs.symm.finder), hs⟩

theorem settled_of_packagePath (depth : Nat) (h : Alike around base s s) {j : ModuleId}
    {u : List Text} (hu : Settled around base (after (packagePath around depth id) s) j u) :
    Settled around base s j u := by
  induction depth generalizing id j u with
  | zero => exact hu
  | succ depth ih =>
    have above : ∀ {name j u}, Settled around base (after (parentPath around depth name) s) j u →
        Settled around base s j u := by
      intro name j u hj
      rcases after_parentPath around depth name s with hs | ⟨p, hp⟩
      · rwa [hs] at hj
      · exact ih (hp ▸ hj)
    have change := packagePath_changes around depth id s
    generalize after (packagePath around (depth + 1) id) s = s' at change hu
    cases change with
    | nothing => exact hu
    | above route => exact above hu
    | searched route parent =>
      have h₁ := h.left_of_bare (after_ok parent ▸ bare_parentPath around depth _ s)
      have hj := (h₁.portionsAnew _ _ _).symm.settled hu
      rw [← after_ok parent] at hj
      exact above hj
    | @renewed name entries seen path v epoch s₁ s₂ route parent stale found =>
      have hbare : s₁.bare = s.bare := after_ok parent ▸ bare_parentPath around depth name s
      have h₂ : Alike around base s₁ s₂ := by
        rw [← after_ok found]
        exact (h.left_of_bare hbare).portionsAnew name entries path
      have before : ∀ j u, Settled around base s₂ j u → Settled around base s j u := by
        intro j u hj
        have hj₁ := h₂.symm.settled hj
        rw [← after_ok parent] at hj₁
        exact above hj₁
      have hroute : s.bare.route id = s₂.bare.route id := by rw [← h₂.bare, hbare]
      obtain ⟨_, _, _, hr₂⟩ := ModuleSpace.route_portions_of_bare hroute route
      have hname : (s₂.route id).map (·.1) = some name := by
        rw [hr₂]
        rfl
      refine before j u (settled_of_setPath hname (fun path' hpath => ?_) hu)
      obtain ⟨heq, hsettled, hs⟩ := settled_of_renewed h route parent stale found (hpath.mono before)
      exact ⟨heq, (hs.trans h₂).settled hsettled⟩

theorem Alike.setPath_of_unsettled (h : Alike around base s t)
    (hid : ∀ u, ¬ Settled around base s id u) (path : PackagePath) :
    Alike around base (s.setPath id path) (t.setPath id path) where
  bare := by rw [ModuleSpace.bare_setPath, ModuleSpace.bare_setPath, h.bare]
  finder e := by
    have hs := ModuleSpace.recognize_congr around (s := s.setPath id path) (t := s) rfl e
    have ht := ModuleSpace.recognize_congr around (s := t.setPath id path) (t := t) rfl e
    rw [hs, ht, h.finder e]
  registered := h.registered
  route j := by
    rw [ModuleSpace.route_setPath, ModuleSpace.route_setPath]
    rcases h.route j with heq | ⟨v, hs, ht⟩
    · exact .inl (by rw [heq])
    · have hne : id ≠ j := by
        rintro rfl
        exact hid v hs
      rw [if_neg hne, if_neg hne]
      exact .inr ⟨v, hs.setPath_of_unsettled hid,
        ht.setPath_of_unsettled fun u hu => hid u (h.symm.settled hu)⟩

theorem Alike.packagePath (around : Surroundings) (base : OrderedMap Text ModuleId) (depth : Nat)
    (id : ModuleId) : Respects (Alike around base) (packagePath around depth id) := by
  induction depth generalizing id with
  | zero => exact Respects.throw _
  | succ depth ih =>
    intro s t h
    by_cases hv : ∃ v, Settled around base s id v
    · obtain ⟨v, hv⟩ := hv
      exact (packagePath_settled (depth + 1) h.carries hv).same h
    have unsettled : ∀ u, ¬ Settled around base s id u := fun u hu => hv ⟨u, hu⟩
    have heq : t.route id = s.route id := by
      rcases h.route id with heq | ⟨v, hs, _⟩
      · exact heq.symm
      · exact absurd hs (unsettled v)
    rcases hr : s.route id with _ | ⟨name, _ | entries | ⟨entries, seen, epoch⟩ | ⟨x, package⟩⟩
    · rw [packagePath_missing hr, packagePath_missing (heq.trans hr)]
      exact .ok h
    · rw [packagePath_plain hr, packagePath_plain (heq.trans hr)]
      exact .ok h
    · rw [packagePath_fixed hr, packagePath_fixed (heq.trans hr)]
      exact .ok h
    rotate_left
    · rw [packagePath_given hr, packagePath_given (heq.trans hr), h.objects]
      cases t.objects.entriesOf x with
      | ok entries => exact .ok h
      | error f => exact .error h
    have above : Respects (Alike around base) (parentPath around depth name) :=
      Respects.parentPath (fun _ _ h => h.registry) ih name
    have before : ∀ j u, Settled around base (after (parentPath around depth name) s) j u →
        Settled around base s j u := by
      intro j u hj
      rcases after_parentPath around depth name s with hs | ⟨p, hp⟩
      · rwa [hs] at hj
      · exact settled_of_packagePath depth h.left (hp ▸ hj)
    rw [packagePath_portions hr, packagePath_portions (heq.trans hr)]
    refine (above h).bind_of fun path s₁ t₁ hs₁ _ h₁ => ?_
    rw [after_ok hs₁] at before
    by_cases hseen : path = seen ∧ epoch = s₁.epoch
    · rw [renew_current hseen, renew_current (h₁.epoch ▸ hseen)]
      exact .ok h₁
    have hseen' : ¬(path = seen ∧ epoch = t₁.epoch) := h₁.epoch ▸ hseen
    have hanew := Alike.findsAlike.portionsAnew name entries path h₁
    have h₁₂ := h₁.left.portionsAnew name entries path
    cases hv : Import.portionsAnew around name entries path s₁ with
    | error e s₂ =>
      rw [hv] at hanew
      obtain ⟨t₂, ht, h₂⟩ := hanew.of_error
      rw [renew_error hseen hv, renew_error hseen' ht]
      exact .error h₂
    | ok v s₂ =>
      rw [hv] at hanew
      rw [after_ok hv] at h₁₂
      obtain ⟨t₂, ht, h₂⟩ := hanew.of_ok
      rw [renew_ok hseen hv, renew_ok hseen' ht, ← h₂.epoch]
      refine .ok (h₂.setPath_of_unsettled (fun u hu => ?_) _)
      exact unsettled u (before id u (h₁₂.symm.settled hu))

def AlikeFrom (around : Surroundings) (base : OrderedMap Text ModuleId) (first : Nat)
    (s t : ModuleSpace) : Prop := Alike around base s t ∧ first ≤ s.modules.length

theorem AlikeFrom.modify {first : Nat} (h : AlikeFrom around base first s t) {s' t' : ModuleSpace}
    (alike : Alike around base s' t') (length : s'.modules.length = s.modules.length) :
    AlikeFrom around base first s' t' := ⟨alike, length ▸ h.2⟩

/-- Being alike is kept by all work where `base` names none of the modules that are begun. -/
theorem Alike.lockstep (around : Surroundings) {first : Nat}
    (begun : ∀ n id, base.get? n = some id → id < first) :
    Lockstep around (fun n => (base.get? n).isSome) first (AlikeFrom around base first) where
  finder _ _ h := h.1.finder
  recognize _ _ h e :=
    h.modify (h.1.recognize e) (ModuleSpace.length_of_bare (ModuleSpace.bare_recognize around _ e))
  bare _ _ h := h.1.bare
  fresh _ _ h := h.2
  registered_of_kept s t h n hn := by
    obtain ⟨id, hid⟩ := Option.isSome_iff_exists.1 hn
    rw [ModuleSpace.isRegistered, h.1.registered n id hid]
    rfl
  packagePath depth id := (Alike.packagePath around base depth id).and_of_after fun s hs =>
    (ModuleSpace.length_of_bare (bare_packagePath around depth id s)).symm ▸ hs
  add _ _ h m hm :=
    ⟨h.1.add (Option.not_isSome_iff_eq_none.1 hm), Nat.le_trans h.2 (by
      simp [ModuleSpace.add, ModuleSpace.register])⟩
  unregister _ _ h n hn := h.modify (h.1.unregister (Option.not_isSome_iff_eq_none.1 hn)) rfl
  setStage _ _ h id stage := h.modify (h.1.setStage id stage) (ModuleSpace.length_modifyModule ..)
  setMember _ _ h id n v := h.modify (h.1.setMember id n v) (ModuleSpace.length_modifyModule ..)
  assign s t h id n v hid := by
    have hset := h.1.setMember id n v
    have hlen : (s.setMember id n v).modules.length = s.modules.length :=
      ModuleSpace.length_modifyModule ..
    simp only [ModuleSpace.assign]
    cases n == pathName with
    | true =>
      refine h.modify (hset.givePath (fun n hn => ?_) v)
        ((ModuleSpace.length_modifyModule ..).trans hlen)
      exact Nat.not_lt_of_le hid (begun n id hn)
    | false => exact h.modify hset hlen
  setClasses _ _ h cs _ := h.modify (h.1.setClasses cs) rfl

end ResourceLookup.Import
