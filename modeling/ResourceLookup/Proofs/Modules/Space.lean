import ResourceLookup.Modules.ClassLookup

/-!
# What single changes do to a module space

A space is read in two ways here. Its bare form leaves out what was only looked up before: the
portions of packages and what the entries of paths were recognised as. The route of a module is
what decides where the modules inside it are looked for.
-/

namespace ResourceLookup

def PackagePath.bare : PackagePath → PackagePath
  | .fixed entries => .fixed entries
  | .portions _ _ _ => .portions [] [] 0
  | .given v package => .given v package

def Module.bare (m : Module) : Module := { m with path := m.path.map PackagePath.bare }

@[simp] theorem Module.bare_name (m : Module) : m.bare.name = m.name := rfl

theorem Module.beganAsPackage_bare (m : Module) : m.bare.beganAsPackage = m.beganAsPackage := by
  rcases h : m.path with _ | _ | _ | _ <;> simp [beganAsPackage, bare, h, PackagePath.bare]

theorem Module.pathMember_bare (m : Module) (name : Text) :
    ({ m with path := m.path.map PackagePath.bare } : Module).pathMember name = m.pathMember name := by
  rcases h : m.path with _ | _ | _ | _ <;> simp [pathMember, h, PackagePath.bare]

def Module.isRunning (m : Module) : Bool :=
  match m.stage with
  | .running _ => true
  | _ => false

namespace ModuleSpace

def bare (s : ModuleSpace) : ModuleSpace :=
  { s with modules := s.modules.map Module.bare, recognized := [] }

def route (s : ModuleSpace) (id : ModuleId) : Option (Text × Option PackagePath) :=
  (s.module? id).map fun m => (m.name, m.path)

def IsPackage (s : ModuleSpace) (id : ModuleId) : Prop :=
  ∃ name path, s.route id = some (name, some path)

def setPath (s : ModuleSpace) (id : ModuleId) (path : PackagePath) : ModuleSpace :=
  s.modifyModule id fun m => { m with path := some path }

theorem length_of_bare {s t : ModuleSpace} (h : s.bare = t.bare) :
    s.modules.length = t.modules.length := by
  have hl := congrArg (fun u => u.modules.length) h
  simpa [bare] using hl

theorem length_modifyModule (s : ModuleSpace) (id : ModuleId) (f : Module → Module) :
    (s.modifyModule id f).modules.length = s.modules.length := by
  simp [modifyModule]

theorem bare_module? (s : ModuleSpace) (id : ModuleId) :
    s.bare.module? id = (s.module? id).map Module.bare := by
  simp [bare, module?]

theorem bare_global? (s : ModuleSpace) (id : ModuleId) (name : Text) :
    s.bare.global? id name = s.global? id name := by
  cases h : s.modules[id]? with
  | none => simp [global?, bare, h]
  | some m => simp [global?, bare, h, Module.bare, Module.pathMember_bare]

theorem bare_member? (s : ModuleSpace) (v : Value) (name : Text) :
    s.bare.member? v name = s.member? v name := by
  cases v with
  | ofModule id =>
    simp only [member?, bare_global?]
    cases h : s.modules[id]? <;> simp [bare, h]
  | _ => rfl

theorem classAt?_cons (s : ModuleSpace) (v : Value) (p : Text) (ps : List Text) :
    s.classAt? v (p :: ps) =
      ((s.member? v p).filter (· ≠ .nothing)).bind fun v' => s.classAt? v' ps := by
  rw [classAt?]
  cases s.member? v p with
  | none => rfl
  | some v' => cases v' <;> rfl

theorem bare_classAt? (s : ModuleSpace) (v : Value) (parts : List Text) :
    s.bare.classAt? v parts = s.classAt? v parts := by
  induction parts generalizing v with
  | nil => rfl
  | cons p ps ih => simp only [classAt?_cons, bare_member?, ih]

theorem bare_route (s : ModuleSpace) (id : ModuleId) :
    s.bare.route id = (s.route id).map fun r => (r.1, r.2.map PackagePath.bare) := by
  simp only [route, bare_module?]
  cases s.module? id <;> rfl

theorem bare_given? (s : ModuleSpace) (id : ModuleId) : s.bare.given? id = s.given? id := by
  rw [given?, given?, bare_module?]
  rcases s.module? id with _ | m
  · rfl
  · rcases hpath : m.path with _ | _ | _ | _ <;>
      simp [Module.bare, hpath, PackagePath.bare, PackagePath.given?]

theorem exists_route {s : ModuleSpace} {id : ModuleId} (h : id < s.modules.length) :
    ∃ r, s.route id = some r := by
  rw [route, module?, List.getElem?_eq_getElem h]
  exact ⟨_, rfl⟩

theorem lt_of_route {s : ModuleSpace} {id : ModuleId} {r : Text × Option PackagePath}
    (h : s.route id = some r) : id < s.modules.length := by
  obtain ⟨m, hm, -⟩ := Option.map_eq_some_iff.1 h
  exact (List.getElem?_eq_some_iff.1 hm).1

theorem IsPackage.module {s : ModuleSpace} {id : ModuleId} {m : Module} (h : s.IsPackage id)
    (hm : s.module? id = some m) : m.isPackage := by
  obtain ⟨name, path, hroute⟩ := h
  rw [route, hm] at hroute
  rw [Module.isPackage, (Prod.mk.inj (Option.some.inj hroute)).2]
  rfl

theorem IsPackage.of_bare {s t : ModuleSpace} {id : ModuleId} (h : t.bare = s.bare)
    (hs : s.IsPackage id) : t.IsPackage id := by
  obtain ⟨name, path, hroute⟩ := hs
  have hbare : (t.bare.route id) = some (name, some path.bare) := by
    rw [h, bare_route, hroute]
    rfl
  rw [bare_route] at hbare
  obtain ⟨⟨name', path'?⟩, hroute', heq⟩ := Option.map_eq_some_iff.1 hbare
  cases path'? with
  | none => cases heq
  | some path' => exact ⟨name', path', hroute'⟩

theorem bare_modifyModule (s : ModuleSpace) (id : ModuleId) {f g : Module → Module}
    (hf : ∀ m, (f m).bare = g m.bare) :
    (s.modifyModule id f).bare = s.bare.modifyModule id g := by
  have hm : (s.modules.modify id f).map Module.bare = (s.modules.map Module.bare).modify id g := by
    apply List.ext_getElem?
    intro j
    simp only [List.getElem?_map, List.getElem?_modify]
    cases s.modules[j]? with
    | none => rfl
    | some m => by_cases h : id = j <;> simp [h, hf]
  simp only [bare, modifyModule, hm]

theorem bare_setPath (s : ModuleSpace) (id : ModuleId) (path : PackagePath) :
    (s.setPath id path).bare = s.bare.setPath id path.bare :=
  bare_modifyModule s id fun _ => rfl

theorem bare_setPath_portions {s : ModuleSpace} {id : ModuleId} {name : Text}
    {entries seen : List Text} {epoch : Nat}
    (route : s.route id = some (name, some (.portions entries seen epoch)))
    (entries' seen' : List Text) (epoch' : Nat) :
    (s.setPath id (.portions entries' seen' epoch')).bare = s.bare := by
  obtain ⟨m, hm, hr⟩ := Option.map_eq_some_iff.1 route
  obtain ⟨rfl, hp⟩ := Prod.mk.inj hr
  have hs : (s.setPath id (.portions entries' seen' epoch')).modules.map Module.bare =
      s.modules.map Module.bare := by
    apply List.ext_getElem?
    intro j
    simp only [setPath, modifyModule, List.getElem?_map, List.getElem?_modify]
    by_cases h : id = j
    · subst h
      rw [module?] at hm
      simp [hm, Module.bare, hp, PackagePath.bare]
    · cases s.modules[j]? <;> simp [h]
  rw [bare, hs]
  rfl

theorem bare_add (s : ModuleSpace) (m : Module) : (s.add m).2.bare = (s.bare.add m.bare).2 := by
  simp [add, bare, register, Module.bare]

theorem route_setPath (s : ModuleSpace) (id j : ModuleId) (path : PackagePath) :
    (s.setPath id path).route j =
      if id = j then (s.route j).map fun r => (r.1, some path) else s.route j := by
  simp only [route, module?, setPath, modifyModule, List.getElem?_modify]
  split
  · cases s.modules[j]? <;> simp
  · cases s.modules[j]? <;> simp

theorem route_setStage (s : ModuleSpace) (id j : ModuleId) (stage : Stage) :
    (s.setStage id stage).route j = s.route j := by
  simp only [route, module?, setStage, modifyModule, List.getElem?_modify]
  cases s.modules[j]? with
  | none => rfl
  | some m => by_cases h : id = j <;> simp [h]

theorem route_setMember (s : ModuleSpace) (id j : ModuleId) (name : Text) (v : Value) :
    (s.setMember id name v).route j = s.route j := by
  simp only [route, module?, setMember, modifyModule, List.getElem?_modify]
  cases s.modules[j]? with
  | none => rfl
  | some m => by_cases h : id = j <;> simp [h]

theorem bare_givePath (s : ModuleSpace) (id : ModuleId) (v : Value) :
    (s.givePath id v).bare = s.bare.givePath id v :=
  bare_modifyModule s id fun m => by
    simp [Module.bare, PackagePath.bare, ← Module.beganAsPackage_bare m]

def opened (s : ModuleSpace) (id : ModuleId) : Option (Text × Bool) :=
  (s.module? id).map fun m => (m.name, m.beganAsPackage)

theorem opened_of_bare {s t : ModuleSpace} (h : s.bare = t.bare) (id : ModuleId) :
    s.opened id = t.opened id := by
  have hm := congrArg (fun u => (u.module? id).map fun m => (m.name, m.beganAsPackage)) h
  simpa [bare_module?, opened, Function.comp_def, Module.beganAsPackage_bare, Module.bare_name]
    using hm

theorem route_givePath_self (s : ModuleSpace) (id : ModuleId) (v : Value) :
    (s.givePath id v).route id = (s.opened id).map fun r => (r.1, some (.given v r.2)) := by
  simp only [route, opened, module?, givePath, modifyModule, List.getElem?_modify]
  cases s.modules[id]? <;> simp

theorem route_givePath_of_ne {s : ModuleSpace} {id j : ModuleId} (h : id ≠ j) (v : Value) :
    (s.givePath id v).route j = s.route j := by
  simp only [route, module?, givePath, modifyModule, List.getElem?_modify]
  cases s.modules[j]? <;> simp [h]

theorem IsPackage.givePath {s : ModuleSpace} {id : ModuleId} (h : s.IsPackage id) (j : ModuleId)
    (v : Value) : (s.givePath j v).IsPackage id := by
  obtain ⟨name, path, hroute⟩ := h
  by_cases hj : j = id
  · subst hj
    obtain ⟨m, hm, -⟩ := Option.map_eq_some_iff.1 hroute
    exact ⟨m.name, _, by rw [route_givePath_self, opened, hm]; rfl⟩
  · exact ⟨name, path, by rw [route_givePath_of_ne hj, hroute]⟩

theorem route_add (s : ModuleSpace) (m : Module) (j : ModuleId) :
    (s.add m).2.route j =
      if j = s.modules.length then some (m.name, m.path) else s.route j := by
  simp only [route, module?, add, register]
  rcases Nat.lt_trichotomy j s.modules.length with h | h | h
  · rw [List.getElem?_append_left h, if_neg (Nat.ne_of_lt h)]
  · rw [h, List.getElem?_concat_length, if_pos rfl]
    rfl
  · have hs : s.modules[j]? = none := List.getElem?_eq_none (Nat.le_of_lt h)
    have hlen : (s.modules ++ [m]).length ≤ j := by
      rw [List.length_append]
      exact h
    rw [hs, List.getElem?_eq_none hlen, if_neg (Nat.ne_of_gt h)]

theorem route_add_of_some {s : ModuleSpace} {j : ModuleId} {r : Text × Option PackagePath}
    (hj : s.route j = some r) (m : Module) : (s.add m).2.route j = some r := by
  rw [route_add, if_neg (Nat.ne_of_lt (lt_of_route hj)), hj]

/-! ## Routes of spaces with the same bare form -/

section Bare

variable {s t : ModuleSpace} {id : ModuleId} {name : Text}

theorem route_plain_of_bare (hb : s.bare.route id = t.bare.route id)
    (hr : s.route id = some (name, none)) : t.route id = some (name, none) := by
  rw [bare_route, bare_route, hr] at hb
  rcases ht : t.route id with _ | ⟨name', _ | path⟩ <;> simp_all

theorem route_fixed_of_bare {entries : List Text} (hb : s.bare.route id = t.bare.route id)
    (hr : s.route id = some (name, some (.fixed entries))) :
    t.route id = some (name, some (.fixed entries)) := by
  rw [bare_route, bare_route, hr] at hb
  rcases ht : t.route id with _ | ⟨name', _ | _ | _⟩ <;> simp_all [PackagePath.bare]

theorem route_given_of_bare {v : Value} {package : Bool}
    (hb : s.bare.route id = t.bare.route id)
    (hr : s.route id = some (name, some (.given v package))) :
    t.route id = some (name, some (.given v package)) := by
  rw [bare_route, bare_route, hr] at hb
  rcases ht : t.route id with _ | ⟨name', _ | _ | _⟩ <;> simp_all [PackagePath.bare]

theorem route_portions_of_bare {entries seen : List Text} {epoch : Nat}
    (hb : s.bare.route id = t.bare.route id)
    (hr : s.route id = some (name, some (.portions entries seen epoch))) :
    ∃ entries' seen' epoch', t.route id = some (name, some (.portions entries' seen' epoch')) := by
  rw [bare_route, bare_route, hr] at hb
  rcases ht : t.route id with _ | ⟨name', _ | _ | ⟨entries', seen', epoch'⟩⟩ <;>
    simp [ht, PackagePath.bare] at hb
  exact ⟨entries', seen', epoch', by rw [hb]⟩

end Bare

/-! ## Entries that are recognised -/

theorem recognize_congr (around : Surroundings) {s t : ModuleSpace}
    (h : s.recognized = t.recognized) (e : Text) :
    (s.recognize around e).1 = (t.recognize around e).1 := by
  unfold recognize
  rw [h]
  split
  · rfl
  · split
    · cases t.recognized.get? e with
      | some f => rfl
      | none => cases Finder.ofEntry around e <;> rfl
    · rfl

theorem recognize_cases (around : Surroundings) (s : ModuleSpace) (e : Text) :
    (s.recognize around e).2 = s ∨
      ∃ f, s.recognized.get? e = none ∧ Finder.ofEntry around e = .ok f ∧
        (s.recognize around e).2 = { s with recognized := s.recognized.put e f } := by
  unfold recognize
  split
  · exact .inl rfl
  · split
    · cases h : s.recognized.get? e with
      | some f => exact .inl rfl
      | none =>
        cases Finder.ofEntry around e with
        | error f => exact .inl rfl
        | ok f => exact .inr ⟨f, rfl, rfl, rfl⟩
    · exact .inl rfl

theorem recognize_finder (around : Surroundings) (s : ModuleSpace) (e e' : Text) :
    ((s.recognize around e).2.recognize around e').1 = (s.recognize around e').1 := by
  rcases recognize_cases around s e with h | ⟨f, hn, hentry, h⟩
  · rw [h]
  · rw [h]
    by_cases hee : e = e'
    · subst hee
      unfold recognize
      split
      · rfl
      · split
        · simp [hn, hentry]
        · rfl
    · unfold recognize
      split
      · rfl
      · split
        · rw [OrderedMap.get?_put, if_neg hee]
          cases s.recognized.get? e' with
          | some f' => rfl
          | none => cases Finder.ofEntry around e' <;> rfl
        · rfl

theorem route_recognize (around : Surroundings) (s : ModuleSpace) (e : Text) (id : ModuleId) :
    (s.recognize around e).2.route id = s.route id := by
  rcases recognize_cases around s e with h | ⟨_, _, _, h⟩ <;> rw [h]
  rfl

theorem bare_recognize (around : Surroundings) (s : ModuleSpace) (e : Text) :
    (s.recognize around e).2.bare = s.bare := by
  rcases recognize_cases around s e with h | ⟨_, _, _, h⟩ <;> rw [h]
  rfl

/-! ## Classes that are added -/

structure AddsAlike {α : Type} (s t : ModuleSpace) (x y : α × ModuleSpace) : Prop where
  fst : x.1 = y.1
  snd : ∃ cs, s.classes <+: cs ∧ x.2 = { s with classes := cs } ∧ y.2 = { t with classes := cs }

mutual

theorem addClass_alike (module : Text) {s t : ModuleSpace} (h : s.classes = t.classes) :
    (c : ClassSource) → (outer : Text) →
      AddsAlike s t (s.addClass module outer c) (t.addClass module outer c)
  | .mk name origin nested, outer => by
    obtain ⟨hm, cs, hcs, hs, ht⟩ := addNested_alike module h nested (outer ++ name)
    simp only [addClass]
    rw [hs, ht, hm]
    exact ⟨rfl, _, hcs.trans (List.prefix_append _ _), rfl, rfl⟩

theorem addNested_alike (module : Text) {s t : ModuleSpace} (h : s.classes = t.classes) :
    (cs : List ClassSource) → (qualified : Text) →
      AddsAlike s t (addClass.addNested module qualified s cs)
        (addClass.addNested module qualified t cs)
  | [], _ => ⟨rfl, s.classes, List.prefix_rfl, rfl, by rw [h]; rfl⟩
  | c :: cs, qualified => by
    obtain ⟨hid, cs₁, hcs₁, hs₁, ht₁⟩ := addClass_alike module h c (qualified ++ [0x2E])
    obtain ⟨hm, cs₂, hcs₂, hs₂, ht₂⟩ := addNested_alike module
      (s := { s with classes := cs₁ }) (t := { t with classes := cs₁ }) rfl cs qualified
    simp only [addClass.addNested]
    rw [hs₁, ht₁, hs₂, ht₂, hid, hm]
    exact ⟨rfl, cs₂, hcs₁.trans hcs₂, rfl, rfl⟩

end

end ModuleSpace
end ResourceLookup
