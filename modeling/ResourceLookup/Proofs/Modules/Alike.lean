import ResourceLookup.Proofs.Modules.Settled

/-!
# Spaces that differ in what was looked up before

Two spaces are alike when they differ at most in which entries were recognised and in portions
that are settled to the same entries. Every change that work makes keeps spaces alike, as long as
it takes no name out of the registry that `base` has.
-/

namespace ResourceLookup.Import

variable {around : Surroundings} {base : OrderedMap Text ModuleId}

/-- The spaces differ at most in which entries were recognised and in portions that come to the
same entries now. What `base` names is registered in both. -/
structure Alike (around : Surroundings) (base : OrderedMap Text ModuleId)
    (s t : ModuleSpace) : Prop where
  bare : s.bare = t.bare
  finder : SameFinders around s t
  registered : ∀ n id, base.get? n = some id → s.registered? n = some id
  route : ∀ id, s.route id = t.route id ∨
    ∃ v, Settled around base s id v ∧ Settled around base t id v

namespace Alike

variable {s t u : ModuleSpace}

theorem epoch (h : Alike around base s t) : s.epoch = t.epoch := congrArg (·.epoch) h.bare

theorem objects (h : Alike around base s t) : s.objects = t.objects := congrArg (·.objects) h.bare

theorem registry (h : Alike around base s t) : s.registry = t.registry :=
  congrArg (·.registry) h.bare

theorem length (h : Alike around base s t) : s.modules.length = t.modules.length :=
  ModuleSpace.length_of_bare h.bare

theorem classAt (h : Alike around base s t) (v : Value) (parts : List Text) :
    s.classAt? v parts = t.classAt? v parts := by
  rw [← ModuleSpace.bare_classAt?, h.bare, ModuleSpace.bare_classAt?]

theorem refl (registered : ∀ n id, base.get? n = some id → s.registered? n = some id) :
    Alike around base s s :=
  ⟨rfl, fun _ => rfl, registered, fun _ => .inl rfl⟩

theorem left (h : Alike around base s t) : Alike around base s s := refl h.registered

theorem settled (h : Alike around base s t) {id : ModuleId} {v : List Text}
    (hs : Settled around base s id v) : Settled around base t id v := by
  have differ : ∀ {j u}, Settled around base s j u →
      (∃ v, Settled around base s j v ∧ Settled around base t j v) →
      Settled around base t j u := by
    rintro j u hj ⟨v, hv, ht⟩
    rwa [hj.functional hv]
  induction hs with
  | @plain j _ hr =>
    rcases h.route j with heq | hd
    · exact .plain (heq ▸ hr)
    · exact differ (.plain hr) hd
  | @fixed j _ _ hr =>
    rcases h.route j with heq | hd
    · exact .fixed (heq ▸ hr)
    · exact differ (.fixed hr) hd
  | @given j _ _ _ _ hr hc =>
    rcases h.route j with heq | hd
    · exact .given (heq ▸ hr) (h.objects ▸ hc)
    · exact differ (.given hr hc) hd
  | @onSearchPath j _ _ _ _ _ hr hp hc =>
    rcases h.route j with heq | hd
    · exact .onSearchPath (heq ▸ hr) hp (hc.congr h.epoch h.finder)
    · exact differ (.onSearchPath hr hp hc) hd
  | @inParent j _ _ _ _ _ _ _ hr hp hb ha hc ih =>
    rcases h.route j with heq | hd
    · exact .inParent (heq ▸ hr) hp hb ih (hc.congr h.epoch h.finder)
    · exact differ (.inParent hr hp hb ha hc) hd

theorem symm (h : Alike around base s t) : Alike around base t s where
  bare := h.bare.symm
  finder e := (h.finder e).symm
  registered n id hn := by
    have hs := h.registered n id hn
    rwa [ModuleSpace.registered?, h.registry] at hs
  route id := by
    rcases h.route id with heq | ⟨v, hs, ht⟩
    · exact .inl heq.symm
    · exact .inr ⟨v, ht, hs⟩

theorem trans (h : Alike around base s t) (h' : Alike around base t u) :
    Alike around base s u where
  bare := h.bare.trans h'.bare
  finder e := (h.finder e).trans (h'.finder e)
  registered := h.registered
  route id := by
    rcases h.route id with heq | ⟨v, hs, ht⟩
    · rcases h'.route id with heq' | ⟨v, ht, hu⟩
      · exact .inl (heq.trans heq')
      · exact .inr ⟨v, h.symm.settled ht, hu⟩
    · exact .inr ⟨v, hs, h'.settled ht⟩

theorem above (h : Alike around base s t) {name : Text} {path : List Text}
    (hs : Above around base s name path) : Above around base t name path := by
  unfold Above at *
  split
  · rwa [if_pos ‹_›] at hs
  · rw [if_neg ‹_›] at hs
    obtain ⟨p, hp, ha⟩ := hs
    exact ⟨p, hp, h.settled ha⟩

theorem route_portions (h : Alike around base s t) {id : ModuleId} {name : Text}
    {entries seen : List Text} {epoch : Nat}
    (hr : s.route id = some (name, some (.portions entries seen epoch))) :
    ∃ entries' seen' epoch', t.route id = some (name, some (.portions entries' seen' epoch')) :=
  ModuleSpace.route_portions_of_bare (by rw [h.bare]) hr

theorem step {s' t' : ModuleSpace} (h : Alike around base s t) (bare : s'.bare = t'.bare)
    (registered : ∀ n id, base.get? n = some id → s'.registered? n = some id)
    (epoch : s.epoch = s'.epoch) (objects : s.objects = s'.objects)
    (hs : SameFinders around s s') (ht : SameFinders around t t')
    (ks : ∀ j r, s.route j = some r → s'.route j = some r)
    (kt : ∀ j r, t.route j = some r → t'.route j = some r)
    (route : ∀ j, s'.route j = t'.route j ∨ (s'.route j = s.route j ∧ t'.route j = t.route j)) :
    Alike around base s' t' where
  bare := bare
  finder e := (hs e).symm.trans ((h.finder e).trans (ht e))
  registered := registered
  route j := by
    rcases route j with heq | ⟨hsj, htj⟩
    · exact .inl heq
    · rcases h.route j with heq | ⟨v, hvs, hvt⟩
      · exact .inl (by rw [hsj, htj, heq])
      · have ht' : t'.epoch = s'.epoch := (congrArg (·.epoch) bare).symm
        have het : t.epoch = t'.epoch := by rw [ht', ← epoch, h.epoch]
        have ho' : t'.objects = s'.objects := (congrArg (·.objects) bare).symm
        have hot : t.objects = t'.objects := by rw [ho', ← objects, h.objects]
        exact .inr ⟨v, hvs.congr ks epoch objects hs, hvt.congr kt het hot ht⟩

/-! ## Steps that keep spaces alike -/

theorem recognize (h : Alike around base s t) (e : Text) :
    Alike around base (s.recognize around e).2 (t.recognize around e).2 := by
  have hb := ModuleSpace.bare_recognize around s e
  refine h.step ?_ ?_ (congrArg (·.epoch) hb).symm (congrArg (·.objects) hb).symm ?_ ?_ ?_ ?_ ?_
  · rw [hb, ModuleSpace.bare_recognize, h.bare]
  · intro n id hn
    have hr : (s.recognize around e).2.registry = s.registry := congrArg (·.registry) hb
    rw [ModuleSpace.registered?, hr]
    exact h.registered n id hn
  · exact fun e' => (ModuleSpace.recognize_finder around s e e').symm
  · exact fun e' => (ModuleSpace.recognize_finder around t e e').symm
  · exact fun j r hj => by rw [ModuleSpace.route_recognize, hj]
  · exact fun j r hj => by rw [ModuleSpace.route_recognize, hj]
  · exact fun j => .inr ⟨ModuleSpace.route_recognize .., ModuleSpace.route_recognize ..⟩

theorem recognize_self (h : Alike around base s s) (e : Text) :
    Alike around base s (s.recognize around e).2 where
  bare := (ModuleSpace.bare_recognize around s e).symm
  finder e' := (ModuleSpace.recognize_finder around s e e').symm
  registered := h.registered
  route id := .inl (ModuleSpace.route_recognize around s e id).symm

theorem find (h : Alike around base s s) (name : Text) (path : List Text) :
    Alike around base s (after (find around name path) s) := by
  have hrec : ∀ u e, Alike around base s u → Alike around base s (u.recognize around e).2 :=
    fun u e hu => hu.trans (hu.symm.left.recognize_self e)
  exact ((Holds.findsAlike hrec).find name path).holds h

theorem portionsAnew (h : Alike around base s s) (name : Text) (entries path : List Text) :
    Alike around base s (after (portionsAnew around name entries path) s) := by
  rw [after_portionsAnew]
  exact h.find name path

theorem findsAlike : FindsAlike around (Alike around base) where
  finder _ _ h := h.finder
  recognize _ _ h := h.recognize

theorem setStage (h : Alike around base s t) (id : ModuleId) (stage : Stage) :
    Alike around base (s.setStage id stage) (t.setStage id stage) := by
  refine h.step ?_ h.registered rfl rfl ?_ ?_ ?_ ?_ ?_
  · have hs := fun u => ModuleSpace.bare_modifyModule u id
      (f := fun m => { m with stage := stage }) (g := fun m => { m with stage := stage })
      fun _ => rfl
    rw [ModuleSpace.setStage, ModuleSpace.setStage, hs, hs, h.bare]
  · exact ModuleSpace.recognize_congr around rfl
  · exact ModuleSpace.recognize_congr around rfl
  · exact fun j r hj => by rw [ModuleSpace.route_setStage, hj]
  · exact fun j r hj => by rw [ModuleSpace.route_setStage, hj]
  · exact fun j => .inr ⟨ModuleSpace.route_setStage .., ModuleSpace.route_setStage ..⟩

theorem setMember (h : Alike around base s t) (id : ModuleId) (name : Text) (v : Value) :
    Alike around base (s.setMember id name v) (t.setMember id name v) := by
  refine h.step ?_ h.registered rfl rfl ?_ ?_ ?_ ?_ ?_
  · have hs := fun u => ModuleSpace.bare_modifyModule u id
      (f := fun m => { m with members := m.members.put name v })
      (g := fun m => { m with members := m.members.put name v }) fun _ => rfl
    rw [ModuleSpace.setMember, ModuleSpace.setMember, hs, hs, h.bare]
  · exact ModuleSpace.recognize_congr around rfl
  · exact ModuleSpace.recognize_congr around rfl
  · exact fun j r hj => by rw [ModuleSpace.route_setMember, hj]
  · exact fun j r hj => by rw [ModuleSpace.route_setMember, hj]
  · exact fun j => .inr ⟨ModuleSpace.route_setMember .., ModuleSpace.route_setMember ..⟩

theorem givePath (h : Alike around base s t) {id : ModuleId} (hid : ∀ n, base.get? n ≠ some id)
    (v : Value) : Alike around base (s.givePath id v) (t.givePath id v) where
  bare := by rw [ModuleSpace.bare_givePath, ModuleSpace.bare_givePath, h.bare]
  finder e := by
    have hs := ModuleSpace.recognize_congr around (s := s.givePath id v) (t := s) rfl e
    have ht := ModuleSpace.recognize_congr around (s := t.givePath id v) (t := t) rfl e
    rw [hs, ht, h.finder e]
  registered := h.registered
  route j := by
    by_cases hj : id = j
    · subst hj
      rw [ModuleSpace.route_givePath_self, ModuleSpace.route_givePath_self,
        ModuleSpace.opened_of_bare h.bare]
      exact .inl rfl
    · rw [ModuleSpace.route_givePath_of_ne hj, ModuleSpace.route_givePath_of_ne hj]
      exact (h.route j).imp_right fun ⟨u, hs, ht⟩ =>
        ⟨u, hs.givePath_of_ne hid hj v, ht.givePath_of_ne hid hj v⟩

theorem setClasses (h : Alike around base s t) (cs : List ClassObject) :
    Alike around base { s with classes := cs } { t with classes := cs } := by
  refine h.step ?_ h.registered rfl rfl ?_ ?_ (fun _ _ h => h) (fun _ _ h => h)
    fun _ => .inr ⟨rfl, rfl⟩
  · have hs : ∀ u : ModuleSpace, ({ u with classes := cs } : ModuleSpace).bare =
        { u.bare with classes := cs } := fun _ => rfl
    rw [hs, hs, h.bare]
  · exact ModuleSpace.recognize_congr around rfl
  · exact ModuleSpace.recognize_congr around rfl

theorem unregister (h : Alike around base s t) {name : Text} (hn : base.get? name = none) :
    Alike around base (s.unregister name) (t.unregister name) := by
  refine h.step ?_ ?_ rfl rfl ?_ ?_ (fun _ _ h => h) (fun _ _ h => h) fun _ => .inr ⟨rfl, rfl⟩
  · have hs : ∀ u : ModuleSpace, (u.unregister name).bare = u.bare.unregister name := fun _ => rfl
    rw [hs, hs, h.bare]
  · intro n id hb
    rw [ModuleSpace.registered?, ModuleSpace.unregister, OrderedMap.get?_remove,
      if_neg (OrderedMap.ne_of_get? hn hb)]
    exact h.registered n id hb
  · exact ModuleSpace.recognize_congr around rfl
  · exact ModuleSpace.recognize_congr around rfl

theorem add (h : Alike around base s t) {m : Module} (hn : base.get? m.name = none) :
    Alike around base (s.add m).2 (t.add m).2 := by
  refine h.step ?_ ?_ rfl rfl ?_ ?_ (fun _ _ hj => ModuleSpace.route_add_of_some hj m)
    (fun _ _ hj => ModuleSpace.route_add_of_some hj m) ?_
  · rw [ModuleSpace.bare_add, ModuleSpace.bare_add, h.bare]
  · intro n id hb
    rw [ModuleSpace.registered?, ModuleSpace.add, ModuleSpace.register, OrderedMap.get?_put,
      if_neg (OrderedMap.ne_of_get? hn hb)]
    exact h.registered n id hb
  · exact ModuleSpace.recognize_congr around rfl
  · exact ModuleSpace.recognize_congr around rfl
  · intro j
    rw [ModuleSpace.route_add, ModuleSpace.route_add, ← h.length]
    by_cases hj : j = s.modules.length
    · exact .inl (by rw [if_pos hj, if_pos hj])
    · exact .inr ⟨by rw [if_neg hj], by rw [if_neg hj]⟩

end Alike
end ResourceLookup.Import
