import ResourceLookup.Proofs.Modules.Lockstep

/-!
# Portions that are settled

Where a package of portions keeps its modules is looked up again when the path of its parent or
the files have changed, so what a space has written down may be out of date. An entry is settled
when a look-up that starts from the modules named in `base` would come to it, whatever is written
down. What is settled stays so when portions are replaced by what they come to.
-/

namespace ResourceLookup.Import

variable {around : Surroundings} {base : OrderedMap Text ModuleId}

def Current (around : Surroundings) (s : ModuleSpace) (name : Text) (entries seen : List Text)
    (epoch : Nat) (path v : List Text) : Prop :=
  if path = seen ∧ epoch = s.epoch then v = entries
  else ∃ s', portionsAnew around name entries path s = .ok v s'

/-- The modules inside a module are looked for in these entries, where the parents of portions are
those that `base` names. -/
inductive Settled (around : Surroundings) (base : OrderedMap Text ModuleId) (s : ModuleSpace) :
    ModuleId → List Text → Prop
  | plain {id : ModuleId} {name : Text} (route : s.route id = some (name, none)) :
    Settled around base s id []
  | fixed {id : ModuleId} {name : Text} {entries : List Text}
    (route : s.route id = some (name, some (.fixed entries))) : Settled around base s id entries
  | given {id : ModuleId} {name : Text} {v : Value} {package : Bool} {entries : List Text}
    (route : s.route id = some (name, some (.given v package)))
    (comes : s.objects.entriesOf v = .ok entries) : Settled around base s id entries
  | onSearchPath {id : ModuleId} {name : Text} {entries seen : List Text} {epoch : Nat} {v : List Text}
    (route : s.route id = some (name, some (.portions entries seen epoch)))
    (parent : parentName name = [])
    (current : Current around s name entries seen epoch around.searchPath v) :
    Settled around base s id v
  | inParent {id p : ModuleId} {name : Text} {entries seen : List Text} {epoch : Nat}
    {path v : List Text} (route : s.route id = some (name, some (.portions entries seen epoch)))
    (parent : parentName name ≠ []) (registered : base.get? (parentName name) = some p)
    (above : Settled around base s p path)
    (current : Current around s name entries seen epoch path v) :
    Settled around base s id v

theorem Current.functional {s : ModuleSpace} {name : Text} {entries seen : List Text} {epoch : Nat}
    {path v v' : List Text} (h : Current around s name entries seen epoch path v)
    (h' : Current around s name entries seen epoch path v') : v = v' := by
  unfold Current at h h'
  split at h
  · rw [h]
    rw [if_pos ‹_›] at h'
    exact h'.symm
  · rw [if_neg ‹_›] at h'
    obtain ⟨t, ht⟩ := h
    obtain ⟨t', ht'⟩ := h'
    rw [ht] at ht'
    cases ht'
    rfl

theorem Settled.functional {s : ModuleSpace} {id : ModuleId} {v v' : List Text}
    (h : Settled around base s id v) (h' : Settled around base s id v') : v = v' := by
  induction h generalizing v' with
  | plain hr =>
    cases h' with
    | plain _ => rfl
    | fixed hr' | given hr' _ | onSearchPath hr' | inParent hr' => rw [hr] at hr'; cases hr'
  | fixed hr =>
    cases h' with
    | fixed hr' => rw [hr] at hr'; cases hr'; rfl
    | plain hr' | given hr' _ | onSearchPath hr' | inParent hr' => rw [hr] at hr'; cases hr'
  | given hr hv =>
    cases h' with
    | given hr' hv' =>
      rw [hr] at hr'
      cases hr'
      rw [hv] at hv'
      cases hv'
      rfl
    | plain hr' | fixed hr' | onSearchPath hr' | inParent hr' => rw [hr] at hr'; cases hr'
  | onSearchPath hr hp hc =>
    cases h' with
    | plain hr' | fixed hr' | given hr' _ => rw [hr] at hr'; cases hr'
    | onSearchPath hr' _ hc' => rw [hr] at hr'; cases hr'; exact hc.functional hc'
    | inParent hr' hp' => rw [hr] at hr'; cases hr'; exact absurd hp hp'
  | inParent hr hp hb _ hc ih =>
    cases h' with
    | plain hr' | fixed hr' | given hr' _ => rw [hr] at hr'; cases hr'
    | onSearchPath hr' hp' => rw [hr] at hr'; cases hr'; exact absurd hp' hp
    | inParent hr' _ hb' above' hc' =>
      rw [hr] at hr'
      cases hr'
      rw [hb] at hb'
      cases hb'
      rw [ih above'] at hc
      exact hc.functional hc'

theorem Settled.route {s : ModuleSpace} {id : ModuleId} {v : List Text}
    (h : Settled around base s id v) : ∃ r, s.route id = some r := by
  cases h with
  | plain route | fixed route | given route _ | onSearchPath route | inParent route =>
    exact ⟨_, route⟩

/-! ## Changes that keep what is settled -/

def SameFinders (around : Surroundings) (s t : ModuleSpace) : Prop :=
  ∀ e, (s.recognize around e).1 = (t.recognize around e).1

theorem SameFinders.findsAlike : FindsAlike around (SameFinders around) where
  finder _ _ h := h
  recognize s t h e e' := by
    rw [ModuleSpace.recognize_finder, ModuleSpace.recognize_finder]
    exact h e'

theorem Current.congr {s t : ModuleSpace} {name : Text} {entries seen : List Text} {epoch : Nat}
    {path v : List Text} (he : s.epoch = t.epoch) (hf : SameFinders around s t)
    (h : Current around s name entries seen epoch path v) :
    Current around t name entries seen epoch path v := by
  unfold Current at *
  rw [← he]
  split
  · rwa [if_pos ‹_›] at h
  · rw [if_neg ‹_›] at h
    obtain ⟨s', hs⟩ := h
    have hr := SameFinders.findsAlike.portionsAnew name entries path hf
    rw [hs] at hr
    obtain ⟨t', ht, _⟩ := hr.of_ok
    exact ⟨t', ht⟩

theorem Current.setPath_iff {s : ModuleSpace} {id : ModuleId} {x : PackagePath} {name : Text}
    {entries seen : List Text} {epoch : Nat} {path v : List Text} :
    Current around (s.setPath id x) name entries seen epoch path v ↔
      Current around s name entries seen epoch path v := by
  have hf : SameFinders around (s.setPath id x) s := ModuleSpace.recognize_congr around rfl
  have he : (s.setPath id x).epoch = s.epoch := rfl
  exact ⟨Current.congr he hf, Current.congr he.symm fun e => (hf e).symm⟩

theorem Settled.congr {s t : ModuleSpace} {id : ModuleId} {v : List Text}
    (hr : ∀ j r, s.route j = some r → t.route j = some r) (he : s.epoch = t.epoch)
    (ho : s.objects = t.objects) (hf : SameFinders around s t) (h : Settled around base s id v) :
    Settled around base t id v := by
  induction h with
  | plain route => exact .plain (hr _ _ route)
  | fixed route => exact .fixed (hr _ _ route)
  | given route comes => exact .given (hr _ _ route) (ho ▸ comes)
  | onSearchPath route parent current =>
    exact .onSearchPath (hr _ _ route) parent (current.congr he hf)
  | inParent route parent registered _ current ih =>
    exact .inParent (hr _ _ route) parent registered ih (current.congr he hf)

def Above (around : Surroundings) (base : OrderedMap Text ModuleId) (s : ModuleSpace)
    (name : Text) (path : List Text) : Prop :=
  if parentName name = [] then path = around.searchPath
  else ∃ p, base.get? (parentName name) = some p ∧ Settled around base s p path

theorem Settled.portions {s : ModuleSpace} {id : ModuleId} {name : Text}
    {entries seen : List Text} {epoch : Nat} {path v : List Text}
    (route : s.route id = some (name, some (.portions entries seen epoch)))
    (above : Above around base s name path)
    (current : Current around s name entries seen epoch path v) : Settled around base s id v := by
  unfold Above at above
  split at above
  · subst above
    exact .onSearchPath route ‹_› current
  · obtain ⟨p, registered, hp⟩ := above
    exact .inParent route ‹_› registered hp current

theorem Settled.above {s : ModuleSpace} {id : ModuleId} {name : Text}
    {entries seen : List Text} {epoch : Nat} {v : List Text} (h : Settled around base s id v)
    (route : s.route id = some (name, some (.portions entries seen epoch))) :
    ∃ path, Above around base s name path ∧ Current around s name entries seen epoch path v := by
  cases h with
  | plain route' | fixed route' | given route' _ => rw [route] at route'; cases route'
  | onSearchPath route' parent current =>
    rw [route] at route'
    cases route'
    exact ⟨_, by rw [Above, if_pos parent], current⟩
  | inParent route' parent registered above current =>
    rw [route] at route'
    cases route'
    exact ⟨_, by rw [Above, if_neg parent]; exact ⟨_, registered, above⟩, current⟩

theorem Settled.entriesOf {s : ModuleSpace} {id : ModuleId} {name : Text} {x : Value}
    {package : Bool} {v : List Text} (h : Settled around base s id v)
    (route : s.route id = some (name, some (.given x package))) :
    s.objects.entriesOf x = .ok v := by
  cases h with
  | given route' comes =>
    rw [route] at route'
    cases route'
    exact comes
  | plain route' | fixed route' | onSearchPath route' | inParent route' =>
    rw [route] at route'
    cases route'

theorem Above.functional {s : ModuleSpace} {name : Text} {path path' : List Text}
    (h : Above around base s name path) (h' : Above around base s name path') : path = path' := by
  unfold Above at h h'
  split at h
  · rw [if_pos ‹_›] at h'
    rw [h, h']
  · rw [if_neg ‹_›] at h'
    obtain ⟨p, hp, hs⟩ := h
    obtain ⟨p', hp', hs'⟩ := h'
    rw [hp] at hp'
    cases hp'
    exact hs.functional hs'

theorem Above.mono {s t : ModuleSpace} {name : Text} {path : List Text}
    (hu : ∀ j u, Settled around base t j u → Settled around base s j u)
    (h : Above around base t name path) : Above around base s name path := by
  unfold Above at *
  split
  · rwa [if_pos ‹_›] at h
  · rw [if_neg ‹_›] at h
    obtain ⟨p, hp, ht⟩ := h
    exact ⟨p, hp, hu p path ht⟩

theorem Settled.setPath_of_unsettled {s : ModuleSpace} {id j : ModuleId} {path : PackagePath}
    {v : List Text} (hid : ∀ u, ¬ Settled around base s id u) (h : Settled around base s j v) :
    Settled around base (s.setPath id path) j v := by
  have other : ∀ {j u r}, Settled around base s j u → s.route j = some r →
      (s.setPath id path).route j = some r := by
    intro j u r hj hr
    have hne : id ≠ j := by
      rintro rfl
      exact hid u hj
    rw [ModuleSpace.route_setPath, if_neg hne, hr]
  induction h with
  | plain route => exact .plain (other (.plain route) route)
  | fixed route => exact .fixed (other (.fixed route) route)
  | given route comes => exact .given (other (.given route comes) route) comes
  | onSearchPath route parent current =>
    exact .onSearchPath (other (.onSearchPath route parent current) route) parent
      (Current.setPath_iff.2 current)
  | inParent route parent registered above current ih =>
    exact .inParent (other (.inParent route parent registered above current) route) parent
      registered ih (Current.setPath_iff.2 current)

theorem Settled.givePath_of_ne {s : ModuleSpace} {id j : ModuleId} {u : List Text}
    (hid : ∀ n, base.get? n ≠ some id) (hj : id ≠ j) (v : Value) (h : Settled around base s j u) :
    Settled around base (s.givePath id v) j u := by
  have other : ∀ {j r}, id ≠ j → s.route j = some r → (s.givePath id v).route j = some r :=
    fun hne hr => by rw [ModuleSpace.route_givePath_of_ne hne, hr]
  have current : ∀ {name entries seen epoch path w}, Current around s name entries seen epoch path w →
      Current around (s.givePath id v) name entries seen epoch path w :=
    fun h => Current.congr (s := s) rfl (ModuleSpace.recognize_congr around rfl) h
  induction h with
  | plain route => exact .plain (other hj route)
  | fixed route => exact .fixed (other hj route)
  | given route comes => exact .given (other hj route) comes
  | onSearchPath route parent now => exact .onSearchPath (other hj route) parent (current now)
  | inParent route parent registered above now ih =>
    refine .inParent (other hj route) parent registered (ih ?_) (current now)
    rintro rfl
    exact hid _ registered

theorem Settled.setPath_of_settled {s : ModuleSpace} {id j : ModuleId} {name : Text}
    {entries seen : List Text} {epoch : Nat} {path u v : List Text}
    (route : s.route id = some (name, some (.portions entries seen epoch)))
    (above : Above around base s name path) (hv : Settled around base s id v)
    (h : Settled around base s j u) :
    Settled around base (s.setPath id (.portions v path s.epoch)) j u := by
  have other : ∀ {j r}, id ≠ j → s.route j = some r →
      (s.setPath id (.portions v path s.epoch)).route j = some r := by
    intro j r hne hr
    rw [ModuleSpace.route_setPath, if_neg hne, hr]
  have renewed : (s.setPath id (.portions v path s.epoch)).route id =
      some (name, some (.portions v path s.epoch)) := by
    rw [ModuleSpace.route_setPath, if_pos rfl, route]
    rfl
  have current : Current around (s.setPath id (.portions v path s.epoch)) name v path s.epoch
      path v := by
    rw [Current, if_pos ⟨rfl, rfl⟩]
  induction h with
  | plain hr =>
    refine .plain (other ?_ hr)
    rintro rfl
    rw [route] at hr
    cases hr
  | fixed hr =>
    refine .fixed (other ?_ hr)
    rintro rfl
    rw [route] at hr
    cases hr
  | given hr comes =>
    refine .given (other ?_ hr) comes
    rintro rfl
    rw [route] at hr
    cases hr
  | @onSearchPath j _ _ _ _ u hr hp hc =>
    by_cases hne : id = j
    · subst hne
      have hu : u = v := (Settled.onSearchPath hr hp hc).functional hv
      rw [route] at hr
      cases hr
      rw [Above, if_pos hp] at above
      subst above
      subst hu
      exact .onSearchPath renewed hp current
    · exact .onSearchPath (other hne hr) hp (Current.setPath_iff.2 hc)
  | @inParent j p _ _ _ _ _ u hr hp hb ha hc ih =>
    by_cases hne : id = j
    · subst hne
      have hu : u = v := (Settled.inParent hr hp hb ha hc).functional hv
      rw [route] at hr
      cases hr
      rw [Above, if_neg hp] at above
      obtain ⟨p', hb', ha'⟩ := above
      rw [hb] at hb'
      cases hb'
      rw [ha.functional ha'] at ih
      subst hu
      exact .inParent renewed hp hb ih current
    · exact .inParent (other hne hr) hp hb ih (Current.setPath_iff.2 hc)

theorem settled_of_setPath {s : ModuleSpace} {id j : ModuleId} {name : Text}
    {path u v : List Text}
    (hname : (s.route id).map (·.1) = some name)
    (hid : ∀ path', Above around base s name path' → path' = path ∧ Settled around base s id v)
    (h : Settled around base (s.setPath id (.portions v path s.epoch)) j u) :
    Settled around base s j u := by
  have other : ∀ {j r}, id ≠ j → (s.setPath id (.portions v path s.epoch)).route j = some r →
      s.route j = some r := by
    intro j r hne hr
    rwa [ModuleSpace.route_setPath, if_neg hne] at hr
  have own : (s.setPath id (.portions v path s.epoch)).route id =
      some (name, some (.portions v path s.epoch)) := by
    obtain ⟨r, hr, rfl⟩ := Option.map_eq_some_iff.1 hname
    rw [ModuleSpace.route_setPath, if_pos rfl, hr]
    rfl
  have here : ∀ {path' u}, Above around base s name path' →
      Current around (s.setPath id (.portions v path s.epoch)) name v path s.epoch path' u →
      Settled around base s id u := by
    intro path' u above current
    obtain ⟨rfl, hv⟩ := hid path' above
    rw [Current, if_pos ⟨rfl, rfl⟩] at current
    rwa [current]
  induction h with
  | @plain j _ hr =>
    by_cases hne : id = j
    · subst hne
      rw [own] at hr
      cases hr
    · exact .plain (other hne hr)
  | @fixed j _ _ hr =>
    by_cases hne : id = j
    · subst hne
      rw [own] at hr
      cases hr
    · exact .fixed (other hne hr)
  | @given j _ _ _ _ hr comes =>
    by_cases hne : id = j
    · subst hne
      rw [own] at hr
      cases hr
    · exact .given (other hne hr) comes
  | @onSearchPath j _ _ _ _ _ hr hp hc =>
    by_cases hne : id = j
    · subst hne
      rw [own] at hr
      cases hr
      exact here (by rw [Above, if_pos hp]) hc
    · exact .onSearchPath (other hne hr) hp (Current.setPath_iff.1 hc)
  | @inParent j p _ _ _ _ _ _ hr hp hb _ hc ih =>
    by_cases hne : id = j
    · subst hne
      rw [own] at hr
      cases hr
      exact here (by rw [Above, if_neg hp]; exact ⟨p, hb, ih⟩) hc
    · exact .inParent (other hne hr) hp hb ih (Current.setPath_iff.1 hc)

end ResourceLookup.Import
