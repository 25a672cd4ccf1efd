import ResourceLookup.Proofs.Chain.Absence

/-!
# The class that a chain comes to

Resolvers share their modules. A resolver that has no class of a name may still have begun the
module that it was looked for in, and that module then stands for its name wherever it is asked
for: what lies below other paths is hidden. A miss that begins no module leaves nothing that a
later resolver could notice. So the chain gives the class of the first resolver that has one, as
if that had been asked alone, unless a miss before it has begun a module.
-/

namespace ResourceLookup

open Import

namespace World

variable {w v : World}

theorem Alike.sound (h : w.Alike v) (hs : w.modules.Sound) : v.modules.Sound := by
  obtain ⟨m, rfl, hm⟩ := h
  exact hm.sound hs

theorem Alike.length (h : w.Alike v) : w.modules.modules.length = v.modules.modules.length := by
  obtain ⟨m, rfl, hm⟩ := h
  exact hm.length

/-- The class is looked for in vain below every path, and nothing more happens in that. -/
def Spent (name : Text) (w : World) : Prop :=
  ∀ path, ∃ m, loadUnder w.around name path w.modules = .ok none m ∧
    Import.Alike w.around w.modules.registry w.modules m

end World

namespace Resolver

variable {r : Resolver} {w v w' : World} {name : Text} {id : ClassId} {answer : Option ClassId}

def BuiltIn (r : Resolver) : Prop := ∀ key, r ≠ .scripted key

def InPlace : Resolver → Prop
  | mapping _ | place _ | entries _ => True
  | package _ | searchPath | scripted _ => False

def begunAfter (r : Resolver) (name : Text) (w : World) : Nat :=
  match r.loadClass name w with
  | .ok _ w' | .error _ w' => w'.modules.modules.length

def Begins (r : Resolver) (name : Text) (w : World) : Prop :=
  w.modules.modules.length < r.begunAfter name w

instance (r : Resolver) (name : Text) (w : World) : Decidable (r.Begins name w) :=
  inferInstanceAs (Decidable (_ < _))

theorem begins_iff (ha : r.loadClass name w = .ok answer w') :
    r.Begins name w ↔ w.modules.modules.length < w'.modules.modules.length := by
  rw [Begins, begunAfter, ha]

theorem loadClass_cases (hr : r.BuiltIn) (name : Text) :
    r.loadClass name = pure none ∨
      (∃ path, r.loadClass name = Lookup.importing fun around => loadUnder around name path) ∨
      r.loadClass name = Lookup.importing fun around => importClass around name := by
  cases r with
  | mapping key => exact .inl rfl
  | place p => exact .inr (.inl ⟨_, rfl⟩)
  | package p =>
    rw [loadClass]
    split
    · exact .inr (.inr rfl)
    · exact .inl rfl
  | entries list => exact .inr (.inl ⟨_, rfl⟩)
  | searchPath => exact .inr (.inr rfl)
  | scripted key => exact absurd rfl (hr key)

theorem loadClass_builtIn (hr : r.BuiltIn) (name : Text) :
    r.loadClass name = pure none ∨
      ∃ f : Surroundings → Import (Option ClassId), r.loadClass name = Lookup.importing f ∧
        ∀ around, Works around (f around) ∧ Idles around (f around) := by
  rcases loadClass_cases hr name with hn | ⟨path, hp⟩ | hs
  · exact .inl hn
  · exact .inr ⟨_, hp, fun _ => ⟨fun _ _ _ L => L.loadUnder name path, loadUnder_idles name path⟩⟩
  · exact .inr ⟨_, hs, fun _ => ⟨fun _ _ _ L => L.importClass name, importClass_idles name⟩⟩

theorem loadClass_inPlace (hr : r.InPlace) (name : Text) :
    r.loadClass name = pure none ∨
      ∃ path, r.loadClass name = Lookup.importing fun around => loadUnder around name path := by
  cases r with
  | mapping key => exact .inl rfl
  | place p => exact .inr ⟨_, rfl⟩
  | entries list => exact .inr ⟨_, rfl⟩
  | package _ => exact hr.elim
  | searchPath => exact hr.elim
  | scripted _ => exact hr.elim

theorem InPlace.builtIn (hr : r.InPlace) : r.BuiltIn := by
  rintro key rfl
  exact hr

/-! ## One resolver -/

/-- What a resolver answers in a world it also answers in one that is alike, with the same
consequences. -/
theorem answer_alike (hr : r.BuiltIn) (sound : w.modules.Sound) (h : w.Alike v)
    (ha : r.loadClass name w = .ok answer w') :
    ∃ m, r.loadClass name v = .ok answer { w' with modules := m } ∧
      Import.Alike w.around w.modules.registry w'.modules m := by
  obtain ⟨m, rfl, hm⟩ := h
  rcases loadClass_builtIn hr name with hn | ⟨f, hf, hworks⟩
  · rw [hn] at ha ⊢
    cases ha
    exact ⟨m, rfl, hm⟩
  · rw [hf, Lookup.importing] at ha ⊢
    cases hres : f w.around w.modules with
    | error e m₁ =>
      rw [hres] at ha
      cases ha
    | ok a m₁ =>
      rw [hres] at ha
      cases ha
      have hsame := (hworks w.around).1 (Import.Alike.lockstep w.around sound) ⟨hm, Nat.le_refl _⟩
      rw [hres] at hsame
      obtain ⟨m₂, hm₂, h₂⟩ := hsame.of_ok
      refine ⟨m₂, ?_, h₂.1⟩
      simp only [hm₂]

theorem alike_of_not_begins (hr : r.BuiltIn) (sound : w.modules.Sound)
    (ha : r.loadClass name w = .ok answer w') (hb : ¬ r.Begins name w) : w.Alike w' := by
  rw [begins_iff ha, Nat.not_lt] at hb
  rcases loadClass_builtIn hr name with hn | ⟨f, hf, hworks⟩
  · rw [hn] at ha
    cases ha
    exact .refl w
  · rw [hf, Lookup.importing] at ha
    cases hres : f w.around w.modules with
    | error e m₁ =>
      rw [hres] at ha
      cases ha
    | ok a m₁ =>
      rw [hres] at ha
      cases ha
      have hidle := (hworks w.around).2 w.modules
      rw [after_ok hres] at hidle
      exact ⟨m₁, rfl, hidle.alike sound (Nat.le_antisymm hb hidle.length)⟩

theorem miss_alike (hr : r.BuiltIn) (sound : w.modules.Sound) (h : w.Alike v)
    (hm : r.loadClass name w = .ok none w') (hb : ¬ r.Begins name w) :
    ∃ v', r.loadClass name v = .ok none v' ∧ w.Alike v' := by
  obtain ⟨m₁, rfl, h₁⟩ := alike_of_not_begins hr sound hm hb
  obtain ⟨m₂, hm₂, h₂⟩ := answer_alike hr sound h hm
  exact ⟨_, hm₂, m₂, rfl, h₁.trans h₂⟩

/-- A miss that begins a module leaves nothing to be found. -/
theorem spent_of_begins (hr : r.InPlace) (sound : w.modules.Sound) (h : w.Alike v)
    (hm : r.loadClass name w = .ok none w') (hb : r.Begins name w) :
    ∃ v', r.loadClass name v = .ok none v' ∧ v'.modules.Sound ∧ v'.Spent name := by
  obtain ⟨m₂, hm₂, h₂⟩ := answer_alike hr.builtIn sound h hm
  have hlen : v.modules.modules.length < m₂.modules.length := by
    rwa [← h.length, ← h₂.length, ← begins_iff hm]
  refine ⟨_, hm₂, ?_⟩
  rcases loadClass_inPlace hr name with hn | ⟨path', hf⟩
  · rw [hn] at hm₂
    cases hm₂
    exact absurd hlen (Nat.lt_irrefl _)
  · rw [hf, Lookup.importing] at hm₂
    cases hres : loadUnder v.around name path' v.modules with
    | error e m₁ =>
      rw [hres] at hm₂
      cases hm₂
    | ok a m₁ =>
      rw [hres] at hm₂
      injection hm₂ with ha hw
      have hmodules : m₁ = m₂ := congrArg (·.modules) hw
      subst ha hmodules
      have hsound : m₁.Sound := by
        rw [← after_ok hres]
        exact Works.sound (fun _ _ _ L => L.loadUnder name path') (h.sound sound)
      rw [← hw]
      exact ⟨hsound, fun path => loadUnder_spent (h.sound sound) hres hlen path⟩

theorem miss_of_spent (hr : r.InPlace) (sound : w.modules.Sound) (h : w.Spent name)
    (hv : w.Alike v) :
    ∃ v', r.loadClass name v = .ok none v' ∧ w.Alike v' := by
  rcases loadClass_inPlace hr name with hn | ⟨path, hf⟩
  · exact ⟨v, by rw [hn]; rfl, hv⟩
  · obtain ⟨m₁, hm₁, h₁⟩ := h path
    have hmiss : r.loadClass name w = .ok none { w with modules := m₁ } := by
      rw [hf, Lookup.importing]
      simp only [hm₁]
    obtain ⟨m₂, hm₂, h₂⟩ := answer_alike hr.builtIn sound hv hmiss
    exact ⟨_, hm₂, m₂, rfl, h₁.trans h₂⟩

/-! ## Resolvers in turn -/

variable {before after rest : List Resolver}

theorem silent_of_idle_misses (builtIn : ∀ q ∈ before, q.BuiltIn) (sound : w.modules.Sound)
    (misses : ∀ q ∈ before, ∃ w₁, q.loadClass name w = .ok none w₁)
    (idle : ∀ q ∈ before, ¬ q.Begins name w) (h : w.Alike v) :
    ∃ v', family.Silent .loadClass (Chain.attempts before [name]) v v' ∧ w.Alike v' := by
  induction before generalizing v with
  | nil => exact ⟨v, .nil v, h⟩
  | cons q qs ih =>
    obtain ⟨w₁, hm⟩ := misses q List.mem_cons_self
    obtain ⟨v₁, hv₁, h₁⟩ := miss_alike (builtIn q List.mem_cons_self) sound h hm
      (idle q List.mem_cons_self)
    obtain ⟨v', hv', h'⟩ := ih (fun q hq => builtIn q (List.mem_cons_of_mem _ hq))
      (fun q hq => misses q (List.mem_cons_of_mem _ hq))
      (fun q hq => idle q (List.mem_cons_of_mem _ hq)) h₁
    exact ⟨v', .cons hv₁ hv', h'⟩

theorem silent_of_spent (inPlace : ∀ q ∈ rest, q.InPlace) (sound : w.modules.Sound)
    (h : w.Spent name) (hv : w.Alike v) :
    ∃ v', family.Silent .loadClass (Chain.attempts rest [name]) v v' := by
  induction rest generalizing v with
  | nil => exact ⟨v, .nil v⟩
  | cons q qs ih =>
    obtain ⟨v₁, hv₁, h₁⟩ := miss_of_spent (inPlace q List.mem_cons_self) sound h hv
    obtain ⟨v', hv'⟩ := ih (fun q hq => inPlace q (List.mem_cons_of_mem _ hq)) h₁
    exact ⟨v', .cons hv₁ hv'⟩

theorem silent_of_begins (inPlace : ∀ q ∈ before ++ rest, q.InPlace) (sound : w.modules.Sound)
    (misses : ∀ q ∈ before, ∃ w₁, q.loadClass name w = .ok none w₁)
    (begun : ∃ q ∈ before, q.Begins name w) (h : w.Alike v) :
    ∃ v', family.Silent .loadClass (Chain.attempts (before ++ rest) [name]) v v' := by
  induction before generalizing v with
  | nil =>
    obtain ⟨q, hq, _⟩ := begun
    cases hq
  | cons q qs ih =>
    have hq : q.InPlace := inPlace q (by simp)
    have hqs : ∀ q' ∈ qs ++ rest, q'.InPlace := fun q' hq' => inPlace q' (List.mem_cons_of_mem q hq')
    obtain ⟨w₁, hm⟩ := misses q List.mem_cons_self
    by_cases hb : q.Begins name w
    · obtain ⟨v₁, hv₁, sound₁, spent⟩ := spent_of_begins hq sound h hm hb
      obtain ⟨v', hv'⟩ := silent_of_spent hqs sound₁ spent (.refl v₁)
      exact ⟨v', .cons hv₁ hv'⟩
    · obtain ⟨v₁, hv₁, h₁⟩ := miss_alike hq.builtIn sound h hm hb
      have later : ∃ q' ∈ qs, q'.Begins name w := by
        obtain ⟨q', hq', hb'⟩ := begun
        rcases List.mem_cons.1 hq' with rfl | hq'
        · exact absurd hb' hb
        · exact ⟨q', hq', hb'⟩
      obtain ⟨v', hv'⟩ := ih hqs (fun q' hq' => misses q' (List.mem_cons_of_mem q hq')) later h₁
      exact ⟨v', .cons hv₁ hv'⟩

end Resolver

namespace Along

variable {c : Along Resolver} {w w' : World} {name : Text} {id : ClassId}
variable {before after : List Resolver} {r : Resolver}

theorem resolveClass_of_idle (sound : w.modules.Sound)
    (chain : c.resolvers w.settings = before ++ r :: after)
    (builtIn : ∀ q ∈ c.resolvers w.settings, q.BuiltIn)
    (misses : ∀ q ∈ before, ∃ w₁, q.loadClass name w = .ok none w₁)
    (holds : r.loadClass name w = .ok (some id) w')
    (idle : ∀ q ∈ before, ¬ q.Begins name w) :
    ∃ v, c.resolveClass name w = .ok (some id) v ∧ v.modules.classes = w'.modules.classes := by
  have hbefore : ∀ q ∈ before, q.BuiltIn := fun q hq => builtIn q (by simp [chain, hq])
  have hr : r.BuiltIn := builtIn r (by simp [chain])
  obtain ⟨v, hsilent, hv⟩ :=
    Resolver.silent_of_idle_misses hbefore sound misses idle (World.Alike.refl w)
  obtain ⟨m, hhit, hm⟩ := Resolver.answer_alike hr sound hv holds
  have hask : Resolver.family.ask .loadClass r name v = .ok (some id) { w' with modules := m } := hhit
  have hfirst := hsilent.firstHit ((r, name) :: Chain.attempts after [name])
  have hattempts : Chain.attempts before [name] ++ ((r, name) :: Chain.attempts after [name]) =
      Chain.attempts (c.resolvers w.settings) [name] := by
    simp [chain, Chain.attempts]
  rw [hattempts, Chain.firstHit_cons_some hask] at hfirst
  exact ⟨_, Family.resolve_of_hit hfirst, congrArg (·.classes) hm.bare.symm⟩

theorem resolveClass_of_begins (sound : w.modules.Sound)
    (chain : c.resolvers w.settings = before ++ after)
    (inPlace : ∀ q ∈ c.resolvers w.settings, q.InPlace)
    (misses : ∀ q ∈ before, ∃ w₁, q.loadClass name w = .ok none w₁)
    (begun : ∃ q ∈ before, q.Begins name w) : ∃ v, c.resolveClass name w = .ok none v := by
  rw [chain] at inPlace
  obtain ⟨v, hsilent⟩ := Resolver.silent_of_begins inPlace sound misses begun (World.Alike.refl w)
  have hfirst := hsilent.firstHit []
  rw [List.append_nil, ← chain] at hfirst
  exact ⟨_, Family.resolve_of_miss hfirst⟩

/-- The chain gives the class of the first resolver that has one, as long as no miss before it
begins a module. Where every resolver loads below paths of its own, a miss that begins a module
hides the class. -/
theorem resolveClass_first_holder (sound : w.modules.Sound)
    (chain : c.resolvers w.settings = before ++ r :: after)
    (builtIn : ∀ q ∈ c.resolvers w.settings, q.BuiltIn)
    (misses : ∀ q ∈ before, ∃ w₁, q.loadClass name w = .ok none w₁)
    (holds : r.loadClass name w = .ok (some id) w') :
    ((∀ q ∈ before, ¬ q.Begins name w) →
      ∃ v, c.resolveClass name w = .ok (some id) v ∧ v.modules.classes = w'.modules.classes) ∧
    ((∀ q ∈ c.resolvers w.settings, q.InPlace) → (∃ q ∈ before, q.Begins name w) →
      ∃ v, c.resolveClass name w = .ok none v) :=
  ⟨resolveClass_of_idle sound chain builtIn misses holds,
    fun inPlace begun => resolveClass_of_begins sound chain inPlace misses begun⟩

def twoSources : World := .startIn
  { tree :=
      [([text "a"], .directory), ([text "a", text "m.py"], .file (.program [])),
        ([text "b"], .directory),
        ([text "b", text "m.py"], .file (.program [.classDef (.mk (text "C") [] [])])),
        ([text "c"], .directory)]
    cwd := []
    searchPath := [] }

def below (directory : String) : Resolver := .place (.directory ⟨.root, [text directory]⟩)

def ofTwo (first second : String) : Along Resolver :=
  ⟨⟨some (below first), some (below second)⟩, none⟩

theorem resolvers_ofTwo (first second : String) :
    (ofTwo first second).resolvers twoSources.settings = [below first, below second] := rfl

theorem ofTwo_inPlace (first second : String) :
    ∀ q ∈ (ofTwo first second).resolvers twoSources.settings, q.InPlace := by
  simp [resolvers_ofTwo, below, Resolver.InPlace]

theorem miss_below_a : ∃ v, (below "a").loadClass (text "m.C") twoSources = .ok none v :=
  exists_of_run (by cbv)

theorem hit_below_b : ∃ v, (below "b").loadClass (text "m.C") twoSources = .ok (some 22) v :=
  exists_of_run (by cbv)

theorem miss_below_c : ∃ v, (below "c").loadClass (text "m.C") twoSources = .ok none v :=
  exists_of_run (by cbv)

/-- A class is not always found where a resolver has it. -/
theorem resolveClass_hidden :
    ¬ ∀ (c : Along Resolver) (w : World) (name : Text) (before after : List Resolver)
      (r : Resolver) (id : ClassId), w.modules.Sound →
      (∀ q ∈ c.resolvers w.settings, q.BuiltIn) →
      c.resolvers w.settings = before ++ r :: after →
      (∀ q ∈ c.resolvers w.settings, ∃ answer v, q.loadClass name w = .ok answer v) →
      (∃ answer v, c.resolveClass name w = .ok answer v) →
      (∀ q ∈ before, ∃ v, q.loadClass name w = .ok none v) →
      (∃ v, r.loadClass name w = .ok (some id) v) →
      ∃ id v, c.resolveClass name w = .ok (some id) v := by
  intro h
  have hanswers : ∀ q ∈ (ofTwo "a" "b").resolvers twoSources.settings,
      ∃ answer v, q.loadClass (text "m.C") twoSources = .ok answer v := by
    rw [resolvers_ofTwo]
    exact List.forall_mem_cons.2
      ⟨⟨none, miss_below_a⟩, List.forall_mem_singleton.2 ⟨some 22, hit_below_b⟩⟩
  obtain ⟨v, hv⟩ : ∃ v, (ofTwo "a" "b").resolveClass (text "m.C") twoSources = .ok none v :=
    exists_of_run (by cbv)
  obtain ⟨id, u, hu⟩ := h (ofTwo "a" "b") twoSources (text "m.C") [below "a"] [] (below "b") 22
    ModuleSpace.start_sound (fun q hq => (ofTwo_inPlace "a" "b" q hq).builtIn)
    (resolvers_ofTwo "a" "b") hanswers ⟨none, v, hv⟩ (by simpa using miss_below_a) hit_below_b
  rw [hv] at hu
  cases hu

theorem resolveClass_first_holder_ofTwo :
    (∃ v, (ofTwo "c" "b").resolveClass (text "m.C") twoSources = .ok (some 22) v) ∧
      ∃ v, (ofTwo "a" "b").resolveClass (text "m.C") twoSources = .ok none v := by
  have hlen : twoSources.modules.modules.length = 5 := rfl
  have hidle : ¬ (below "c").Begins (text "m.C") twoSources := by
    have h : (below "c").begunAfter (text "m.C") twoSources = 5 := by cbv
    rw [Resolver.Begins, h, hlen]
    decide
  have hbegins : (below "a").Begins (text "m.C") twoSources := by
    have h : (below "a").begunAfter (text "m.C") twoSources = 6 := by cbv
    rw [Resolver.Begins, h, hlen]
    decide
  obtain ⟨w', hholds⟩ := hit_below_b
  constructor
  · have hchain : (ofTwo "c" "b").resolvers twoSources.settings =
        [below "c"] ++ below "b" :: [] := resolvers_ofTwo "c" "b"
    obtain ⟨hfound, -⟩ := resolveClass_first_holder ModuleSpace.start_sound hchain
      (fun q hq => (ofTwo_inPlace "c" "b" q hq).builtIn) (by simpa using miss_below_c) hholds
    obtain ⟨v, hv, -⟩ := hfound (by simpa using hidle)
    exact ⟨v, hv⟩
  · have hchain : (ofTwo "a" "b").resolvers twoSources.settings =
        [below "a"] ++ below "b" :: [] := resolvers_ofTwo "a" "b"
    obtain ⟨-, hhidden⟩ := resolveClass_first_holder ModuleSpace.start_sound hchain
      (fun q hq => (ofTwo_inPlace "a" "b" q hq).builtIn) (by simpa using miss_below_a) hholds
    exact hhidden (ofTwo_inPlace "a" "b") ⟨below "a", List.mem_cons_self, hbegins⟩

end Along
end ResourceLookup
