import ResourceLookup.Proofs.Chain.BrokenModule
import ResourceLookup.Proofs.Chain.FirstHolder
import ResourceLookup.Proofs.Modules.AtRest

/-!
# One module, one run of its body, one identity

Classes are looked up one after the other, by single resolvers or along chains, and between two
lookups files, settings and the search path may change. A module that has completed stands for its
name from then on, and no other one is begun under that name. So every resolver finds the class
again that one has found. But a module inside a package takes the place of what the package had
under that name, when it is first imported, and what is found by way of that member is another class
from then on.
-/

namespace ResourceLookup

open Import
open ModuleSpace (Onward)

/-! ## One lookup -/

namespace Resolver

variable {r : Resolver} {w v : World} {name : Text} {k : ClassId} {calls : List (Resolver × Text)}

theorem loadClass_onward (hr : r.BuiltIn) (name : Text) (w : World) :
    Onward w.modules (after (r.loadClass name) w).modules := by
  have importing : ∀ f : Surroundings → Import (Option ClassId),
      (∀ around s, Onward s (after (f around) s)) →
        Onward w.modules (after (Lookup.importing f) w).modules := by
    intro f hf
    have h := hf w.around w.modules
    rw [after, Lookup.importing]
    rw [after] at h
    cases hres : f w.around w.modules <;> simpa only [hres] using h
  rcases loadClass_cases hr name with hn | ⟨path, hp⟩ | hs
  · rw [hn]
    exact Onward.refl w.modules
  · rw [hp]
    exact importing _ fun _ s => loadUnder_onward name path s
  · rw [hs]
    exact importing _ fun _ s => importClass_onward name s

theorem loadClass_names (hr : r.BuiltIn) (h : r.loadClass name w = .ok (some k) v) :
    v.modules.Names name k := by
  have importing : ∀ {f : Surroundings → Import (Option ClassId)},
      Lookup.importing f w = .ok (some k) v →
        ∃ s, f w.around w.modules = .ok (some k) s ∧ v.modules = s := by
    intro f hf
    rw [Lookup.importing] at hf
    cases hres : f w.around w.modules with
    | error e s =>
      rw [hres] at hf
      cases hf
    | ok a s =>
      rw [hres] at hf
      cases hf
      exact ⟨s, rfl, rfl⟩
  rcases loadClass_cases hr name with hn | ⟨path, hp⟩ | hs
  · rw [hn] at h
    cases h
  · rw [hp] at h
    obtain ⟨s, hs, rfl⟩ := importing h
    exact loadUnder_names hs
  · rw [hs] at h
    obtain ⟨s, hs, rfl⟩ := importing h
    exact importClass_names hs

theorem silent_onward (builtIn : ∀ call ∈ calls, call.1.BuiltIn)
    (h : family.Silent .loadClass calls w v) : Onward w.modules v.modules := by
  induction h with
  | nil w => exact Onward.refl w.modules
  | @cons r n calls w w' v head tail ih =>
    have hhead := loadClass_onward (builtIn (r, n) List.mem_cons_self) n w
    have hask : r.loadClass n w = .ok none w' := head
    rw [after_ok hask] at hhead
    exact hhead.trans (ih fun call hcall => builtIn call (List.mem_cons_of_mem _ hcall))

end Resolver

namespace Along

variable {c : Along Resolver} {w v : World} {name : Text} {k : ClassId}

theorem of_consults (builtIn : ∀ r ∈ c.resolvers w.settings, r.BuiltIn)
    {asked : List (Resolver × Text)}
    {o : Except Fault (Option (Query.mk .loadClass c name).request.Answer)}
    (h : Resolver.family.Consults ⟨.loadClass, c, name⟩ w asked o v) :
    Onward w.modules v.modules ∧ ∀ k, o = .ok (some k) → v.modules.Names name k := by
  have hplan : ∀ call ∈ (Query.mk .loadClass c name).plan w.settings,
      call.1.BuiltIn ∧ call.2 = name := by
    intro call hcall
    obtain ⟨r, hr, rfl⟩ := List.mem_map.1 hcall
    rw [Query.sequence_eq_resolvers] at hr
    exact ⟨builtIn r hr, rfl⟩
  have stops : ∀ {before rest : List (Resolver × Text)} {r : Resolver} {n : Text} {u : World},
      (Query.mk .loadClass c name).plan w.settings = before ++ (r, n) :: rest →
      Resolver.family.Silent .loadClass before w u →
      Onward w.modules (after (r.loadClass n) u).modules ∧ r.BuiltIn ∧ n = name := by
    intro before rest r n u plan silent
    have hlast := hplan (r, n) (by simp [plan])
    have hbefore : ∀ call ∈ before, call.1.BuiltIn := by
      intro call hcall
      exact (hplan call (by simp [plan, hcall])).1
    exact ⟨(Resolver.silent_onward hbefore silent).trans (Resolver.loadClass_onward hlast.1 n u),
      hlast⟩
  cases h with
  | @exhausted u silent =>
    have honward : Onward w.modules u.modules :=
      Resolver.silent_onward (fun call hcall => (hplan call hcall).1) silent
    refine ⟨honward, ?_⟩
    intro k hk
    cases hk
  | @answered before rest r n a u u' plan silent last =>
    have hask : r.loadClass n u = .ok (some a) u' := last
    obtain ⟨honward, hr, rfl⟩ := stops plan silent
    rw [after_ok hask] at honward
    have hnames : u'.modules.Names n a := Resolver.loadClass_names hr hask
    refine ⟨honward, ?_⟩
    intro k hk
    cases hk
    exact hnames
  | @failed before rest r n e u u' plan silent last =>
    have hask : r.loadClass n u = .error e v := last
    obtain ⟨honward, -⟩ := stops plan silent
    rw [after_error hask] at honward
    refine ⟨honward, ?_⟩
    intro k hk
    cases hk

theorem resolveClass_onward (builtIn : ∀ r ∈ c.resolvers w.settings, r.BuiltIn) (name : Text) :
    Onward w.modules (after (c.resolveClass name) w).modules := by
  obtain ⟨asked, consults, -⟩ := Resolver.family.answer_consults ⟨.loadClass, c, name⟩ w []
  have honward := (of_consults builtIn consults).1
  rw [Family.answer] at honward
  rw [after, resolveClass]
  cases hres : Resolver.family.resolve .loadClass c name w <;> simpa only [hres] using honward

theorem resolveClass_names (builtIn : ∀ r ∈ c.resolvers w.settings, r.BuiltIn)
    (h : c.resolveClass name w = .ok (some k) v) : v.modules.Names name k := by
  obtain ⟨asked, consults, -⟩ := Resolver.family.answer_consults ⟨.loadClass, c, name⟩ w []
  have hanswer : Resolver.family.answer ⟨.loadClass, c, name⟩ w = (.ok (some k), v) := by
    rw [resolveClass] at h
    rw [Family.answer, h]
  rw [hanswer] at consults
  exact (of_consults builtIn consults).2 k rfl

end Along

/-! ## Runs of lookups -/

namespace World

variable {w u v : World} {name name' : Text} {k k' : ClassId}

inductive LooksUp (w : World) (name : Text) : Lookup (Option ClassId) → Prop
  | alone {r : Resolver} (builtIn : r.BuiltIn) : LooksUp w name (r.loadClass name)
  | along {c : Along Resolver} (builtIn : ∀ r ∈ c.resolvers w.settings, r.BuiltIn) :
    LooksUp w name (c.resolveClass name)

structure Meanwhile (w v : World) : Prop where
  modules : v.modules.modules = w.modules.modules
  classes : v.modules.classes = w.modules.classes
  objects : v.modules.objects = w.modules.objects
  registry : v.modules.registry = w.modules.registry

/-- A run of lookups of classes, each of which may end in a class, in nothing or in a fault. -/
inductive Run (w : World) : World → Prop
  | nil : Run w w
  | lookup {v : World} {name : Text} {f : Lookup (Option ClassId)} (run : Run w v)
    (looks : v.LooksUp name f) : Run w (after f v)
  | meanwhile {u v : World} (run : Run w u) (change : u.Meanwhile v) : Run w v

def Obtains (w : World) (name : Text) (k : ClassId) (v : World) : Prop :=
  ∃ f, w.LooksUp name f ∧ f w = .ok (some k) v

theorem LooksUp.onward {f : Lookup (Option ClassId)} (h : w.LooksUp name f) :
    Onward w.modules (after f w).modules := by
  cases h with
  | alone builtIn => exact Resolver.loadClass_onward builtIn name w
  | along builtIn => exact Along.resolveClass_onward builtIn name

theorem Obtains.onward (h : w.Obtains name k v) : Onward w.modules v.modules := by
  obtain ⟨f, looks, hf⟩ := h
  rw [← after_ok hf]
  exact looks.onward

theorem Obtains.names (h : w.Obtains name k v) : v.modules.Names name k := by
  obtain ⟨f, looks, hf⟩ := h
  cases looks with
  | alone builtIn => exact Resolver.loadClass_names builtIn hf
  | along builtIn => exact Along.resolveClass_names builtIn hf

theorem Run.obtains (run : w.Run u) (h : u.Obtains name k v) : w.Run v := by
  obtain ⟨f, looks, hf⟩ := h
  rw [← after_ok hf]
  exact .lookup run looks

theorem Meanwhile.onward (h : w.Meanwhile v) : Onward w.modules v.modules := by
  have hmodule : ∀ id, v.modules.module? id = w.modules.module? id := by
    intro id
    rw [ModuleSpace.module?, h.modules]
    rfl
  refine Onward.of_kept (fun {id m} hm => ?_) (fun {id} hid => ?_) h.registry ?_
  · exact ⟨m, by rw [hmodule, hm], rfl, fun _ => rfl⟩
  · rw [hmodule, hid]
  · exact ⟨h.objects, h.classes ▸ List.prefix_rfl⟩

theorem Run.onward (h : w.Run v) : Onward w.modules v.modules := by
  induction h with
  | nil => exact Onward.refl w.modules
  | lookup run looks ih => exact ih.trans looks.onward
  | meanwhile run change ih => exact ih.trans change.onward

/-- In every run a module that has completed stays the one under its name, and none is begun under
that name after it. A class that was found is the one that every later lookup of the name finds, if
it finds one, unless a package on the way to it has gained a module inside it since. -/
theorem run_keeps_identity (rest : w.modules.AtRest) :
    (∀ v, w.Run v → v.modules.AtRest ∧
      ∀ id m, w.modules.module? id = some m → m.stage = .completed →
        (∃ n, v.modules.module? id = some n ∧ n.name = m.name ∧ n.stage = .completed) ∧
        v.modules.registered? m.name = some id ∧
        ∀ j n, v.modules.module? j = some n → n.name = m.name → j ≤ id) ∧
    ∀ name name' k k' w₁ w₂ w₃, w.Obtains name k w₁ → w₁.Run w₂ → w₂.Obtains name' k' w₃ →
      splitClassName name' = splitClassName name →
      w₁.modules.interposesFor w₃.modules name = false → k' = k := by
  constructor
  · intro v run
    have hrest := run.onward.atRest rest
    refine ⟨hrest, fun id m hm hdone => ?_⟩
    obtain ⟨n, hn, hframe⟩ := run.onward.kept hm
    have hname : n.name = m.name := Module.name_of_frame hframe
    have hstage : n.stage = .completed := (Module.stage_of_frame hframe).trans hdone
    have honce := hrest.once id n hn hstage
    rw [hname] at honce
    exact ⟨⟨n, hn, hname, hstage⟩, honce⟩
  · intro name name' k k' w₁ w₂ w₃ first run second hname kept
    have hrest := first.onward.atRest rest
    have hthen := (run.onward.trans second.onward).names hrest kept first.names
    exact hthen.functional (second.names.of_split hname.symm)

theorem searchPath_builtIn : Resolver.searchPath.BuiltIn := fun _ h => nomatch h

theorem below_builtIn (directory : String) : (Along.below directory).BuiltIn := fun _ h => nomatch h

def withoutFiles (w : World) : World := { w with around := { w.around with tree := [] } }

def lookTwice : Lookup (Option ClassId × Bool × Bool) := do
  let first ← (Along.below "b").loadClass (text "m.C")
  let before ← get
  modify withoutFiles
  let second ← Resolver.searchPath.loadClass (text "m:C")
  let interposed := before.modules.interposesFor (← get).modules (text "m.C")
  pure (first, second.isSome, interposed)

theorem run_keeps_identity_lookTwice :
    Along.twoSources.modules.AtRest ∧ ∃ w₁ w₂, Along.twoSources.Obtains (text "m.C") 22 w₁ ∧
      w₁.withoutFiles.Obtains (text "m:C") 22 w₂ ∧ w₂.modules.AtRest := by
  have rest : Along.twoSources.modules.AtRest := ModuleSpace.start_atRest
  obtain ⟨w, h⟩ : ∃ w, lookTwice Along.twoSources = .ok (some 22, true, false) w :=
    exists_of_run (by cbv)
  obtain ⟨first, w₁, hfirst, h⟩ := ok_of_bind h
  obtain ⟨_, _, hget, h⟩ := ok_of_bind h
  cases hget
  obtain ⟨_, _, hfiles, h⟩ := ok_of_bind h
  cases hfiles
  obtain ⟨second, w₂, hsecond, h⟩ := ok_of_bind h
  obtain ⟨_, _, hget, h⟩ := ok_of_bind h
  cases hget
  injection h with hanswer
  obtain ⟨rfl, hsome, hkept⟩ : first = some 22 ∧ second.isSome = true ∧ _ = false := by
    simpa only [Prod.mk.injEq] using hanswer
  obtain ⟨k, rfl⟩ := Option.isSome_iff_exists.1 hsome
  have one : Along.twoSources.Obtains (text "m.C") 22 w₁ :=
    ⟨_, .alone (below_builtIn "b"), hfirst⟩
  have gone : w₁.Meanwhile w₁.withoutFiles := ⟨rfl, rfl, rfl, rfl⟩
  have again : w₁.withoutFiles.Obtains (text "m:C") k w₂ :=
    ⟨_, .alone searchPath_builtIn, hsecond⟩
  obtain ⟨keeps, identity⟩ := run_keeps_identity rest
  obtain rfl := identity _ _ _ _ _ _ _ one (.meanwhile .nil gone) again (by decide) hkept
  have run : Along.twoSources.Run w₁.withoutFiles := .meanwhile (Run.nil.obtains one) gone
  exact ⟨rest, w₁, w₂, one, again, (keeps w₂ (run.obtains again)).1⟩

def twoNamesakes : World := .startIn
  { tree :=
      [([text "d"], .directory),
        ([text "d", text "m.py"], .file (.program [.importModule (text "p")])),
        ([text "d", text "p"], .directory),
        ([text "d", text "p", text "__init__.py"], .file (.program [.importModule (text "x")])),
        ([text "d", text "p", text "x.py"], .file (.program [.classDef (.mk (text "C") [] [])])),
        ([text "d", text "x.py"], .file (.program [.classDef (.mk (text "C") [] [])]))]
    cwd := []
    searchPath := [text "/d"] }

def inPlainModule (s : ModuleSpace) (name : Text) : Bool :=
  (s.registered? (splitClassName name).1).any fun id =>
    (s.module? id).any fun m => m.stage = .completed && !m.isPackage

def lookThrice : Lookup (Option ClassId × Bool × Option ClassId) := do
  let first ← Resolver.searchPath.loadClass (text "m:p.x.C")
  let plain := inPlainModule (← get).modules (text "m:p.x.C")
  let _ ← Resolver.searchPath.loadClass (text "p.x.C")
  let second ← Resolver.searchPath.loadClass (text "m:p.x.C")
  pure (first, plain, second)

/-- A class is not the same for ever, also where its module has completed and is no package. -/
theorem identity_lost_in_package :
    ¬ ∀ (w w₁ w₂ w₃ : World) (name name' : Text) (k k' : ClassId), w.modules.AtRest →
      w.Obtains name k w₁ → inPlainModule w₁.modules name → w₁.Run w₂ → w₂.Obtains name' k' w₃ →
      splitClassName name' = splitClassName name → k' = k := by
  intro h
  obtain ⟨w, hrun⟩ : ∃ w, lookThrice twoNamesakes = .ok (some 22, true, some 23) w :=
    exists_of_run (by cbv)
  obtain ⟨first, w₁, hfirst, hrun⟩ := ok_of_bind hrun
  obtain ⟨_, _, hget, hrun⟩ := ok_of_bind hrun
  cases hget
  obtain ⟨_, w₂, hbetween, hrun⟩ := ok_of_bind hrun
  obtain ⟨second, w₃, hsecond, hrun⟩ := ok_of_bind hrun
  injection hrun with hanswer
  obtain ⟨rfl, hplain, rfl⟩ : first = some 22 ∧ _ = true ∧ second = some 23 := by
    simpa only [Prod.mk.injEq] using hanswer
  have between : w₁.Run w₂ := by
    rw [← after_ok hbetween]
    exact .lookup .nil (.alone searchPath_builtIn)
  have hsame := h twoNamesakes w₁ w₂ w₃ _ _ 22 23 ModuleSpace.start_atRest
    ⟨_, .alone searchPath_builtIn, hfirst⟩ hplain between ⟨_, .alone searchPath_builtIn, hsecond⟩ rfl
  cases hsame

end World
end ResourceLookup
