import ResourceLookup.Proofs.Modules.Replay
import ResourceLookup.Proofs.Modules.Stages

/-!
# What completed modules keep

A module may change while its body runs. Any other one stays what it is, and so do the classes that
it leads to, but for a package: a module inside it that is imported for the first time becomes a
member of it. What is registered stays registered while modules are imported, a body runs only under
a name that is not registered, and so no module is run again whose body has come to its end.
-/

namespace ResourceLookup

namespace Module

variable {m n : Module}

def frame (m : Module) : Module :=
  { m with members := [], path := if m.isRunning then none else m.bare.path }

theorem bare_bare (m : Module) : m.bare.bare = m.bare := by
  have hpath : PackagePath.bare ∘ PackagePath.bare = PackagePath.bare := by
    funext path
    cases path <;> rfl
  simp only [bare, Option.map_map, hpath]

theorem frame_bare (m : Module) : m.bare.frame = m.frame := by
  rw [frame, bare_bare]
  rfl

theorem frame_of_running (running : m.isRunning) :
    m.frame = { m with members := [], path := none } := by
  rw [frame, if_pos running]

theorem name_of_frame (h : n.frame = m.frame) : n.name = m.name := congrArg (·.name) h

theorem stage_of_frame (h : n.frame = m.frame) : n.stage = m.stage := congrArg (·.stage) h

theorem isRunning_of_frame (h : n.frame = m.frame) : n.isRunning = m.isRunning := by
  rw [isRunning, stage_of_frame h]
  rfl

theorem path_of_frame (h : n.frame = m.frame) (closed : m.isRunning = false) :
    n.bare.path = m.bare.path := by
  have hpath : n.frame.path = m.frame.path := by rw [h]
  simpa only [frame, closed, (isRunning_of_frame h).trans closed, Bool.false_eq_true, if_false]
    using hpath

theorem isPackage_of_frame (h : n.frame = m.frame) (closed : m.isRunning = false) :
    n.isPackage = m.isPackage := by
  have hpath := congrArg Option.isSome (path_of_frame h closed)
  simpa only [bare, Option.isSome_map, isPackage] using hpath

theorem pathMember_of_frame (h : n.frame = m.frame) (closed : m.isRunning = false) (x : Text) :
    n.pathMember x = m.pathMember x := by
  have hpath : ({ n with path := n.bare.path } : Module).pathMember x =
      ({ m with path := m.bare.path } : Module).pathMember x := by
    rw [path_of_frame h closed, pathMember, pathMember]
  rwa [bare, bare, pathMember_bare, pathMember_bare] at hpath

end Module

namespace ModuleSpace

variable {s t u : ModuleSpace} {id j : ModuleId} {m n : Module} {name : Text}

/-! ## Modules after a single change -/

theorem module?_add_of_some (h : s.module? j = some n) (m : Module) :
    (s.add m).2.module? j = some n := by
  simp only [module?, add, register] at h ⊢
  rw [List.getElem?_append_left (List.getElem?_eq_some_iff.1 h).1, h]

theorem module?_add_self (s : ModuleSpace) (m : Module) :
    (s.add m).2.module? s.modules.length = some m := by
  simp [module?, add, register]

theorem ne_length (h : s.module? j = some n) : s.modules.length ≠ j :=
  Nat.ne_of_gt (List.getElem?_eq_some_iff.1 h).1

theorem module?_add (h : (s.add m).2.module? j = some n) :
    s.module? j = some n ∨ j = s.modules.length ∧ n = m := by
  simp only [module?, add, register] at h
  rcases Nat.lt_trichotomy j s.modules.length with hj | hj | hj
  · rw [List.getElem?_append_left hj] at h
    exact .inl h
  · subst hj
    rw [List.getElem?_concat_length] at h
    exact .inr ⟨rfl, (Option.some.inj h).symm⟩
  · rw [List.getElem?_eq_none (by simp; omega)] at h
    cases h

theorem module?_setStage_of_ne (h : id ≠ j) (stage : Stage) :
    (s.setStage id stage).module? j = s.module? j := by
  simp [module?, setStage, modifyModule, h]

theorem module?_setStage_self (h : s.module? id = some m) (stage : Stage) :
    (s.setStage id stage).module? id = some { m with stage := stage } := by
  simp only [module?] at h
  simp [module?, setStage, modifyModule, h]

theorem module?_setStage_cases {stage : Stage} (h : s.module? id = some m)
    (hj : (s.setStage id stage).module? j = some n) :
    id = j ∧ n = { m with stage := stage } ∨ id ≠ j ∧ s.module? j = some n := by
  by_cases hid : id = j
  · subst hid
    rw [module?_setStage_self h] at hj
    exact .inl ⟨rfl, (Option.some.inj hj).symm⟩
  · rw [module?_setStage_of_ne hid] at hj
    exact .inr ⟨hid, hj⟩

theorem module?_setMember_of_ne (h : id ≠ j) (name : Text) (v : Value) :
    (s.setMember id name v).module? j = s.module? j := by
  simp [module?, setMember, modifyModule, h]

theorem module?_setMember_self (h : s.module? id = some m) (name : Text) (v : Value) :
    (s.setMember id name v).module? id = some { m with members := m.members.put name v } := by
  simp only [module?] at h
  simp [module?, setMember, modifyModule, h]

theorem frame_setMember (h : s.module? j = some m) (id : ModuleId) (name : Text) (v : Value) :
    ∃ n, (s.setMember id name v).module? j = some n ∧ n.frame = m.frame := by
  by_cases hid : id = j
  · subst hid
    exact ⟨_, module?_setMember_self h name v, rfl⟩
  · exact ⟨m, by rw [module?_setMember_of_ne hid, h], rfl⟩

theorem frame_setStage (h : s.module? j = some m) (id : ModuleId) (stage : Stage) :
    ∃ n, (s.setStage id stage).module? j = some n ∧ n.name = m.name := by
  by_cases hid : id = j
  · subst hid
    exact ⟨_, module?_setStage_self h stage, rfl⟩
  · exact ⟨m, by rw [module?_setStage_of_ne hid, h], rfl⟩

theorem module?_setMember_none (h : s.module? j = none) (id : ModuleId) (name : Text) (v : Value) :
    (s.setMember id name v).module? j = none := by
  simpa [module?, setMember, modifyModule] using h

theorem module?_givePath_of_ne (h : id ≠ j) (v : Value) :
    (s.givePath id v).module? j = s.module? j := by
  simp [module?, givePath, modifyModule, h]

theorem module?_givePath_self (h : s.module? id = some m) (v : Value) :
    (s.givePath id v).module? id =
      some { m with path := some (.given v m.beganAsPackage) } := by
  simp only [module?] at h
  simp [module?, givePath, modifyModule, h]

theorem module?_givePath_none (h : s.module? j = none) (id : ModuleId) (v : Value) :
    (s.givePath id v).module? j = none := by
  simpa [module?, givePath, modifyModule] using h

/-! ## What is registered -/

def Named (s : ModuleSpace) : Prop :=
  ∀ name id, s.registered? name = some id → ∃ m, s.module? id = some m ∧ m.name = name

/-- A module that has completed is registered under its name, and was begun last of all of that
name. -/
def Once (s : ModuleSpace) : Prop :=
  ∀ id m, s.module? id = some m → m.stage = .completed → s.registered? m.name = some id ∧
    ∀ j n, s.module? j = some n → n.name = m.name → j ≤ id

theorem Named.add (h : s.Named) (m : Module) : (s.add m).2.Named := by
  intro name id hid
  rw [registered_add] at hid
  split at hid
  · next hname =>
    cases hid
    exact ⟨m, module?_add_self s m, hname⟩
  · obtain ⟨n, hn, hname⟩ := h name id hid
    exact ⟨n, module?_add_of_some hn m, hname⟩

theorem Named.setStage (h : s.Named) (id : ModuleId) (stage : Stage) :
    (s.setStage id stage).Named := by
  intro name j hj
  obtain ⟨m, hm, rfl⟩ := h name j hj
  exact frame_setStage hm id stage

theorem Once.add (h : s.Once) (new : s.registered? m.name = none) : (s.add m).2.Once := by
  intro id n hn hdone
  rcases module?_add hn with hn | ⟨rfl, rfl⟩
  · obtain ⟨hreg, hlast⟩ := h id n hn hdone
    have hname : m.name ≠ n.name := OrderedMap.ne_of_get? new hreg
    refine ⟨by rwa [registered_add, if_neg hname], fun j o ho hsame => ?_⟩
    rcases module?_add ho with ho | ⟨-, rfl⟩
    · exact hlast j o ho hsame
    · exact absurd hsame hname
  · refine ⟨registered_add_self s n, fun j o ho _ => ?_⟩
    rcases module?_add ho with ho | ⟨rfl, -⟩
    · exact Nat.le_of_lt (List.getElem?_eq_some_iff.1 ho).1
    · exact Nat.le_refl _

/-! ## The relation -/

def gains (s t : ModuleSpace) (m : Module) (x : Text) : Bool :=
  m.isPackage && !s.isRegistered (m.name ++ 0x2E :: x) && t.isRegistered (m.name ++ 0x2E :: x)

theorem gains_iff {x : Text} : s.gains t m x ↔ m.isPackage ∧
    s.registered? (m.name ++ 0x2E :: x) = none ∧
      ∃ i, t.registered? (m.name ++ 0x2E :: x) = some i := by
  simp only [gains, isRegistered, Bool.and_eq_true, Bool.not_eq_true', Option.isSome_eq_false_iff,
    Option.isNone_iff_eq_none, Option.isSome_iff_exists, and_assoc]

structure KeepsObjects (s t : ModuleSpace) : Prop where
  objects : t.objects = s.objects
  classes : s.classes <+: t.classes

theorem KeepsObjects.refl (s : ModuleSpace) : KeepsObjects s s := ⟨rfl, List.prefix_rfl⟩

theorem KeepsObjects.trans (h : KeepsObjects s t) (h' : KeepsObjects t u) : KeepsObjects s u :=
  ⟨h'.objects.trans h.objects, h.classes.trans h'.classes⟩

structure Onward (s t : ModuleSpace) : Prop where
  kept : ∀ {id m}, s.module? id = some m → ∃ n, t.module? id = some n ∧ n.frame = m.frame
  fresh : ∀ {id m}, s.module? id = none → t.module? id = some m →
    s.registered? m.name = none ∧ m.isRunning = false
  registered : ∀ {name id}, s.registered? name = some id → t.registered? name = some id
  objects : KeepsObjects s t
  named : s.Named → t.Named
  once : s.Once → t.Once
  members : s.Named → ∀ {id m n}, s.module? id = some m → t.module? id = some n →
    m.isRunning = false → ∀ x, n.members.get? x = m.members.get? x ∨ s.gains t m x

namespace Onward

theorem refl (s : ModuleSpace) : Onward s s where
  kept hm := ⟨_, hm, rfl⟩
  fresh hs ht := by
    rw [hs] at ht
    cases ht
  registered hs := hs
  objects := .refl s
  named hs := hs
  once hs := hs
  members _ id m n hm hn _ x := by
    rw [hm] at hn
    cases hn
    exact .inl rfl

theorem unregistered (h : Onward s t) (ht : t.registered? name = none) :
    s.registered? name = none := by
  cases hs : s.registered? name with
  | none => rfl
  | some i =>
    rw [h.registered hs] at ht
    cases ht

theorem trans (h : Onward s t) (h' : Onward t u) : Onward s u where
  kept {id m} hm := by
    obtain ⟨n, hn, hframe⟩ := h.kept hm
    obtain ⟨o, ho, hframe'⟩ := h'.kept hn
    exact ⟨o, ho, hframe'.trans hframe⟩
  fresh {id m} hs hu := by
    cases ht : t.module? id with
    | some n =>
      obtain ⟨o, ho, hframe⟩ := h'.kept ht
      rw [hu] at ho
      cases ho
      rw [Module.name_of_frame hframe, Module.isRunning_of_frame hframe]
      exact h.fresh hs ht
    | none =>
      obtain ⟨hnew, hended⟩ := h'.fresh ht hu
      exact ⟨h.unregistered hnew, hended⟩
  registered hs := h'.registered (h.registered hs)
  objects := h.objects.trans h'.objects
  named hs := h'.named (h.named hs)
  once hs := h'.once (h.once hs)
  members hs id m o hm ho hclosed x := by
    obtain ⟨n, hn, hframe⟩ := h.kept hm
    have hclosed' : n.isRunning = false := (Module.isRunning_of_frame hframe).trans hclosed
    rcases h.members hs hm hn hclosed x with heq | hgains
    · rcases h'.members (h.named hs) hn ho hclosed' x with heq' | hgains
      · exact .inl (heq'.trans heq)
      · obtain ⟨hpackage, hnone, hsome⟩ := gains_iff.1 hgains
        rw [Module.isPackage_of_frame hframe hclosed] at hpackage
        rw [Module.name_of_frame hframe] at hnone hsome
        exact .inr (gains_iff.2 ⟨hpackage, h.unregistered hnone, hsome⟩)
    · obtain ⟨hpackage, hnone, i, hsome⟩ := gains_iff.1 hgains
      exact .inr (gains_iff.2 ⟨hpackage, hnone, i, h'.registered hsome⟩)

theorem reframe (h : Onward s t)
    (kept : ∀ {id n}, t.module? id = some n → ∃ o, u.module? id = some o ∧ o.frame = n.frame)
    (none : ∀ {id}, t.module? id = none → u.module? id = none) (registry : u.registry = t.registry)
    (objects : KeepsObjects t u)
    (members : s.Named → ∀ {id m n o}, s.module? id = some m → t.module? id = some n →
      u.module? id = some o → m.isRunning = false → ∀ x,
        o.members.get? x = n.members.get? x ∨ s.gains t m x) : Onward s u := by
  have hregistered : ∀ name, u.registered? name = t.registered? name := by
    intro name
    rw [registered?, registry]
    rfl
  have before : ∀ {id o}, u.module? id = some o → ∃ n, t.module? id = some n ∧ o.frame = n.frame := by
    intro id o ho
    cases hn : t.module? id with
    | none =>
      rw [none hn] at ho
      cases ho
    | some n =>
      obtain ⟨o', ho', hframe⟩ := kept hn
      rw [ho] at ho'
      cases ho'
      exact ⟨n, rfl, hframe⟩
  refine
    { kept := fun {id m} hm => ?_
      fresh := fun {id o} hs ho => ?_
      registered := fun {name id} hs => (hregistered name).trans (h.registered hs)
      objects := h.objects.trans objects
      named := fun hs name id hid => ?_
      once := fun hs id o ho hdone => ?_
      members := fun hs {id m o} hm ho hclosed x => ?_ }
  · obtain ⟨n, hn, hframe⟩ := h.kept hm
    obtain ⟨o, ho, hframe'⟩ := kept hn
    exact ⟨o, ho, hframe'.trans hframe⟩
  · obtain ⟨n, hn, hframe⟩ := before ho
    rw [Module.name_of_frame hframe, Module.isRunning_of_frame hframe]
    exact h.fresh hs hn
  · rw [hregistered] at hid
    obtain ⟨n, hn, rfl⟩ := h.named hs name id hid
    obtain ⟨o, ho, hframe⟩ := kept hn
    exact ⟨o, ho, Module.name_of_frame hframe⟩
  · obtain ⟨n, hn, hframe⟩ := before ho
    obtain ⟨hid, hlast⟩ := h.once hs id n hn ((Module.stage_of_frame hframe).symm.trans hdone)
    rw [Module.name_of_frame hframe, hregistered]
    refine ⟨hid, fun j o' ho' hname => ?_⟩
    obtain ⟨n', hn', hframe'⟩ := before ho'
    exact hlast j n' hn' ((Module.name_of_frame hframe').symm.trans hname)
  · have hgains : s.gains u m x = s.gains t m x := by
      rw [gains, gains, isRegistered, isRegistered, isRegistered, hregistered]
    obtain ⟨n, hn, -⟩ := before ho
    rw [hgains]
    rcases members hs hm hn ho hclosed x with heq | hg
    · rw [heq]
      exact h.members hs hm hn hclosed x
    · exact .inr hg

theorem of_kept (kept : ∀ {id m}, s.module? id = some m →
      ∃ n, t.module? id = some n ∧ n.frame = m.frame ∧ (m.isRunning = false → n.members = m.members))
    (none : ∀ {id}, s.module? id = none → t.module? id = none) (registry : t.registry = s.registry)
    (objects : KeepsObjects s t) : Onward s t := by
  refine (refl s).reframe (fun {id n} hn => ?_) none registry objects ?_
  · obtain ⟨o, ho, hframe, -⟩ := kept hn
    exact ⟨o, ho, hframe⟩
  · intro _ id m n o hm hn ho hclosed x
    obtain ⟨o', ho', -, hmembers⟩ := kept hm
    rw [ho] at ho'
    cases ho'
    rw [hm] at hn
    cases hn
    exact .inl (by rw [hmembers hclosed])

theorem of_bare (h : t.bare = s.bare) : Onward s t := by
  have hmodule : ∀ id, (t.module? id).map Module.bare = (s.module? id).map Module.bare := by
    intro id
    rw [← bare_module?, ← bare_module?, h]
  refine of_kept (fun {id m} hm => ?_) (fun {id} hm => ?_) (congrArg (·.registry) h) ?_
  · have hn := hmodule id
    rw [hm] at hn
    obtain ⟨n, hn, hbare⟩ := Option.map_eq_some_iff.1 hn
    refine ⟨n, hn, ?_, fun _ => congrArg (·.members) hbare⟩
    rw [← Module.frame_bare, hbare, Module.frame_bare]
  · have hn := hmodule id
    rw [hm] at hn
    exact Option.map_eq_none_iff.1 hn
  · have hclasses : s.classes = t.classes := (congrArg (·.classes) h).symm
    exact ⟨congrArg (·.objects) h, hclasses ▸ List.prefix_rfl⟩

end Onward

def Running (s : ModuleSpace) (id : ModuleId) : Prop := ∃ m, s.module? id = some m ∧ m.isRunning

namespace Onward

theorem setMember (h : s.Running id) (name : Text) (v : Value) :
    Onward s (s.setMember id name v) := by
  obtain ⟨m, hm, hruns⟩ := h
  refine of_kept (fun {j n} hn => ?_) (fun hj => module?_setMember_none hj id name v) rfl
    ⟨rfl, List.prefix_rfl⟩
  by_cases hid : id = j
  · subst hid
    rw [hm] at hn
    cases hn
    refine ⟨_, module?_setMember_self hm name v, rfl, fun hclosed => ?_⟩
    rw [hruns] at hclosed
    cases hclosed
  · exact ⟨n, by rw [module?_setMember_of_ne hid, hn], rfl, fun _ => rfl⟩

theorem givePath (h : s.Running id) (v : Value) : Onward s (s.givePath id v) := by
  obtain ⟨m, hm, hruns⟩ := h
  refine of_kept (fun {j n} hn => ?_) (fun hj => module?_givePath_none hj id v) rfl
    ⟨rfl, List.prefix_rfl⟩
  by_cases hid : id = j
  · subst hid
    rw [hm] at hn
    cases hn
    have hruns' : ({ m with path := some (.given v m.beganAsPackage) } : Module).isRunning := hruns
    refine ⟨_, module?_givePath_self hm v, ?_, fun _ => rfl⟩
    exact (Module.frame_of_running hruns').trans (Module.frame_of_running hruns).symm
  · exact ⟨n, by rw [module?_givePath_of_ne hid, hn], rfl, fun _ => rfl⟩

theorem running (h : Onward s t) (hs : s.Running id) : t.Running id := by
  obtain ⟨m, hm, hruns⟩ := hs
  obtain ⟨n, hn, hframe⟩ := h.kept hm
  exact ⟨n, hn, by rwa [Module.isRunning_of_frame hframe]⟩

theorem assign (h : s.Running id) (name : Text) (v : Value) : Onward s (s.assign id name v) := by
  have hset := Onward.setMember h name v
  rcases Import.assign_cases s id name v with heq | heq <;> rw [heq]
  · exact hset
  · exact hset.trans (Onward.givePath (hset.running h) v)

theorem attached {p : ModuleId} (h : Onward s t) (new : s.registered? name = none)
    (hid : t.registered? name = some id) (inside : parentName name ≠ [])
    (hp : t.registered? (parentName name) = some p) (hpackage : t.IsPackage p) :
    Onward s (t.setMember p (Finder.lastPart name) (.ofModule id)) := by
  refine h.reframe (fun hn => frame_setMember hn p _ _) (fun hn => module?_setMember_none hn p _ _)
    rfl ⟨rfl, List.prefix_rfl⟩ ?_
  intro hs j m n o hm hn ho hclosed x
  by_cases hj : p = j
  · subst hj
    rw [module?_setMember_self hn] at ho
    cases ho
    by_cases hx : Finder.lastPart name = x
    · right
      subst hx
      obtain ⟨n', hn', hname⟩ := h.named hs _ p hp
      rw [hn] at hn'
      cases hn'
      obtain ⟨m', hm', hframe⟩ := h.kept hm
      rw [hn] at hm'
      cases hm'
      have hfull : m.name ++ 0x2E :: Finder.lastPart name = name := by
        rw [← Module.name_of_frame hframe, hname]
        exact Import.parentName_lastPart inside
      rw [gains_iff, hfull, ← Module.isPackage_of_frame hframe hclosed]
      exact ⟨hpackage.module hn, new, id, hid⟩
    · left
      simp only [OrderedMap.get?_put, if_neg hx]
  · rw [module?_setMember_of_ne hj, hn] at ho
    cases ho
    exact .inl rfl

end Onward

/-! ## The course of one module -/

theorem gains_of_add {o : Module} {x : Text} (h : (s.add m).2.gains t o x) :
    s.gains t o x ∧ o.name ++ 0x2E :: x ≠ m.name := by
  obtain ⟨hpackage, hnone, hsome⟩ := gains_iff.1 h
  rw [registered_add] at hnone
  split at hnone
  · cases hnone
  · next hname => exact ⟨gains_iff.2 ⟨hpackage, hnone, hsome⟩, Ne.symm hname⟩

namespace Onward

theorem own (h : Onward (s.add m).2 t) :
    ∃ n, t.module? s.modules.length = some n ∧ n.name = m.name ∧
      t.registered? m.name = some s.modules.length := by
  obtain ⟨n, hn, hframe⟩ := h.kept (module?_add_self s m)
  exact ⟨n, hn, Module.name_of_frame hframe, h.registered (registered_add_self s m)⟩

theorem le_of_name (h : Onward (s.add m).2 t) (hj : t.module? j = some n) (hname : n.name = m.name) :
    j ≤ s.modules.length := by
  cases ha : (s.add m).2.module? j with
  | some a =>
    rcases module?_add ha with ha | ⟨rfl, -⟩
    · exact Nat.le_of_lt (List.getElem?_eq_some_iff.1 ha).1
    · exact Nat.le_refl _
  | none =>
    have hfree := (h.fresh ha hj).1
    rw [hname, registered_add_self] at hfree
    cases hfree

theorem fresh_of_add (h : Onward (s.add m).2 t) (hs : s.module? j = none)
    (hj : t.module? j = some n) (hne : s.modules.length ≠ j) :
    s.registered? n.name = none ∧ n.isRunning = false := by
  have hnone : (s.add m).2.module? j = none := by
    cases ha : (s.add m).2.module? j with
    | none => rfl
    | some a =>
      rcases module?_add ha with ha | ⟨rfl, -⟩
      · rw [hs] at ha
        cases ha
      · exact absurd rfl hne
  obtain ⟨hfree, hended⟩ := h.fresh hnone hj
  rw [registered_add] at hfree
  split at hfree
  · cases hfree
  · exact ⟨hfree, hended⟩

theorem once_of_add (h : Onward (s.add m).2 t) (new : s.registered? m.name = none) (hs : s.Once)
    (stage : Stage) : (t.setStage s.modules.length stage).Once := by
  obtain ⟨own, hown, hname, hreg⟩ := h.own
  have begun : ∀ {j o}, (t.setStage s.modules.length stage).module? j = some o →
      ∃ o', t.module? j = some o' ∧ o'.name = o.name := by
    intro j o ho
    rcases module?_setStage_cases hown ho with ⟨rfl, rfl⟩ | ⟨-, ho⟩
    · exact ⟨own, hown, rfl⟩
    · exact ⟨o, ho, rfl⟩
  intro id n hn hdone
  rcases module?_setStage_cases hown hn with ⟨rfl, rfl⟩ | ⟨-, hn⟩
  · refine ⟨by rw [hname]; exact hreg, fun j o ho hsame => ?_⟩
    obtain ⟨o', ho', hname'⟩ := begun ho
    exact h.le_of_name ho' (hname'.trans (hsame.trans hname))
  · obtain ⟨hid, hlast⟩ := h.once (hs.add new) id n hn hdone
    refine ⟨hid, fun j o ho hsame => ?_⟩
    obtain ⟨o', ho', hname'⟩ := begun ho
    exact hlast j o' ho' (hname'.trans hsame)

/-- A module that was begun under a new name is over, however its body has ended. -/
theorem of_add (new : s.registered? m.name = none) (h : Onward (s.add m).2 t) {stage : Stage}
    (ended : ({ m with stage := stage } : Module).isRunning = false) :
    Onward s (t.setStage s.modules.length stage) := by
  refine
    { kept := fun {id n} hn => ?_
      fresh := fun {id n} hs hn => ?_
      registered := fun {name id} hid => ?_
      objects := ⟨h.objects.objects, h.objects.classes⟩
      named := fun hs => (h.named (hs.add m)).setStage _ _
      once := fun hs => h.once_of_add new hs stage
      members := fun hs {id n o} hn ho hclosed x => ?_ }
  · rw [module?_setStage_of_ne (ne_length hn)]
    exact h.kept (module?_add_of_some hn m)
  · obtain ⟨own, hown, hname, -⟩ := h.own
    rcases module?_setStage_cases hown hn with ⟨-, rfl⟩ | ⟨hne, hn⟩
    · exact ⟨by rw [← new, ← hname], ended⟩
    · exact h.fresh_of_add hs hn hne
  · have hne : m.name ≠ name := OrderedMap.ne_of_get? new hid
    exact h.registered (by rwa [registered_add, if_neg hne])
  · rw [module?_setStage_of_ne (ne_length hn)] at ho
    rcases h.members (hs.add m) (module?_add_of_some hn m) ho hclosed x with heq | hgains
    · exact .inl heq
    · exact .inr (gains_of_add hgains).1

/-- A name that was new, that no completed module has and no package a member for, may be taken out
of the registry. -/
theorem unregister (h : Onward s t) (new : s.registered? name = none)
    (undone : t.Once → ∀ id m, t.module? id = some m → m.stage = .completed → m.name ≠ name)
    (unattached : s.Named → ∀ {id m n}, s.module? id = some m → t.module? id = some n →
      m.isRunning = false → ∀ x, m.name ++ 0x2E :: x = name →
        n.members.get? x = m.members.get? x) : Onward s (t.unregister name) := by
  have hregistered : ∀ {n}, name ≠ n → (t.unregister name).registered? n = t.registered? n := by
    intro n hn
    rw [registered?, ModuleSpace.unregister, OrderedMap.get?_remove, if_neg hn]
    rfl
  refine
    { kept := fun hm => h.kept hm
      fresh := fun hs ht => h.fresh hs ht
      registered := fun {n id} hid => ?_
      objects := ⟨h.objects.objects, h.objects.classes⟩
      named := fun hs n id hid => ?_
      once := fun hs id m hm hdone => ?_
      members := fun hs {id m n} hm hn hclosed x => ?_ }
  · rw [hregistered (OrderedMap.ne_of_get? new hid)]
    exact h.registered hid
  · by_cases hne : name = n
    · rw [registered?, ModuleSpace.unregister, OrderedMap.get?_remove, if_pos hne] at hid
      cases hid
    · rw [hregistered hne] at hid
      exact h.named hs n id hid
  · have ht := h.once hs
    obtain ⟨hid, hlast⟩ := ht id m hm hdone
    exact ⟨by rwa [hregistered (undone ht id m hm hdone).symm], hlast⟩
  · by_cases hfull : m.name ++ 0x2E :: x = name
    · exact .inl (unattached hs hm hn hclosed x hfull)
    · rcases h.members hs hm hn hclosed x with heq | hgains
      · exact .inl heq
      · right
        rw [gains, isRegistered, isRegistered, hregistered (Ne.symm hfull)]
        exact hgains

theorem of_failed (new : s.registered? m.name = none) (h : Onward (s.add m).2 t) (f : Fault)
    (undo : Bool) : Onward s (Import.failedIn t s.modules.length m.name f undo) := by
  have hended : Onward s (t.setStage s.modules.length (.failed f)) := h.of_add new rfl
  cases undo with
  | false => exact hended
  | true =>
    refine hended.unregister new (fun honce id n hn hdone hname => ?_)
      fun hs {id n o} hn ho hclosed x hfull => ?_
    · -- A completed module of this name would be the one that has just failed.
      obtain ⟨own, hown, -, hreg⟩ := h.own
      have hid := (honce id n hn hdone).1
      rw [hname] at hid
      obtain rfl : s.modules.length = id := Option.some.inj (hreg.symm.trans hid)
      rw [module?_setStage_self hown] at hn
      cases hn
      cases hdone
    · -- The name was registered while the body ran, so no package has gained it meanwhile.
      rw [module?_setStage_of_ne (ne_length hn)] at ho
      rcases h.members (hs.add m) (module?_add_of_some hn m) ho hclosed x with heq | hgains
      · exact heq
      · exact absurd hfull (gains_of_add hgains).2

theorem course : Import.Course Running Onward where
  trans := Onward.trans
  bare := Onward.of_bare
  assign := Onward.assign
  setClasses hcs := of_kept (fun hm => ⟨_, hm, rfl, fun _ => rfl⟩) (fun hm => hm) rfl ⟨rfl, hcs⟩
  completed new h := h.of_add new rfl
  failed new h f := h.of_failed new f true
  attached := Onward.attached
  stays := Onward.running
  running s m hm := ⟨m, module?_add_self s m, hm⟩

end Onward

end ModuleSpace

/-! ## Lookups -/

namespace Import

open ModuleSpace (Onward)

variable {around : Surroundings} {s s' t : ModuleSpace} {id : ModuleId} {m : Module}
variable {className done name : Text} {path : Option (List Text)} {last : Option ModuleId}

theorem after_executeLinked (className : Text) (m : Module) (code : Code)
    (s : ModuleSpace) :
    after (executeLinked around className m code) s =
      after (execute (importModule around around.nestingLimit) Fault.isOrdinary m code) s := by
  rw [after, after, executeLinked]
  cases execute (importModule around around.nestingLimit) Fault.isOrdinary m code s <;> rfl

theorem loadLinked_onward (className : Text) (new : s.registered? name = none)
    (housed : Housed name s) (entries : List Text) :
    Onward s (after (loadLinked around className name entries) s) := by
  have C := Onward.course
  have hworks := Works.importModule around around.nestingLimit
  refine C.bind (C.find name entries s) fun found? s₁ hfind => ?_
  cases found? with
  | none => exact C.refl s₁
  | some found =>
    refine C.bind (C.moduleOf false name found s₁) fun p s₂ hmake => ?_
    have hmakes : Makes around false name entries s p.1 p.2 s₂ := ⟨found, s₁, hfind, hmake⟩
    have hnew := hmakes.new new
    refine C.runAttached ((registered_of_bare hmakes.bare name).trans new) ?_ ?_ ?_ some
    · rw [after_executeLinked]
      exact C.execute (C.importModule around.nestingLimit) hnew hmakes.running
        (fun f t _ h => h.of_failed hnew f false) p.2
    · intro id s' hrun
      rw [← hmakes.name]
      exact execute_registers hworks (execute_of_executeLinked hrun)
    · rw [after_executeLinked]
      exact (housed.of_bare hmakes.bare).execute hworks hnew _ p.2

theorem stepTo_onward (className : Text) (housed : path ≠ none → Housed name s) :
    Onward s (after (stepTo around className name path) s) := by
  cases hs : s.registered? name with
  | some id =>
    rw [after_ok (stepTo_registered hs path)]
    exact Onward.refl s
  | none =>
    cases path with
    | none =>
      rw [after_ok (stepTo_ended hs)]
      exact Onward.refl s
    | some entries =>
      rw [after, stepTo_anew hs, ← after]
      exact loadLinked_onward className hs (housed (Option.some_ne_none _)) entries

/-- Where a walk goes on, it has come to a package, which the next module is then in. -/
theorem walk_onward {parts : List Text} (undotted : ∀ p ∈ parts, 0x2E ∉ p)
    (housed : path ≠ none → ∀ part, 0x2E ∉ part → Housed (walkedName done last part) s) :
    Onward s (after (walk around className done path last parts) s) := by
  have C := Onward.course
  induction parts generalizing s done path last with
  | nil => exact C.refl s
  | cons part rest ih =>
    have hpart := undotted part List.mem_cons_self
    rw [walk_cons]
    refine C.bind (stepTo_onward className fun hpath => housed hpath part hpart)
      fun found? s₁ hstep => ?_
    cases found? with
    | none => exact C.refl s₁
    | some id =>
      refine C.bind (C.pathOr _ id s₁) fun entries? s₂ hlook => ?_
      refine ih (fun p hp => undotted p (List.mem_cons_of_mem part hp)) fun hentries next hnext => ?_
      have hbare : (after (walkPath around id) s₁).bare = s₁.bare := bare_pathOr around _ id s₁
      rw [after_ok hlook] at hbare
      cases entries? with
      | none => exact absurd rfl hentries
      | some entries =>
        have hpackage : s₁.IsPackage id := route_of_pathOr hlook
        have hreg := (registered_of_bare hbare _).trans (stepTo_registers hstep)
        refine .inr ⟨id, ?_, hpackage.of_bare hbare⟩
        rw [walkedName, Option.isNone_some, if_neg Bool.false_ne_true, parentName_append hnext]
        exact hreg

theorem loadUnder_onward (name : Text) (path : List Text) (s : ModuleSpace) :
    Onward s (after (loadUnder around name path) s) := by
  have C := Onward.course
  by_cases hn : (splitClassName name).1 = [] ∨ (splitClassName name).2 = []
  · rw [after_ok (loadUnder_of_unsplit hn)]
    exact C.refl s
  simp only [loadUnder, Bool.or_eq_true, decide_eq_true_eq, if_neg hn]
  refine C.bind (walk_onward (fun p hp => Text.not_mem_of_mem_splitOn hp) ?_) fun o s' _ => ?_
  · exact fun _ part hpart => .inl (parentName_of_undotted hpart)
  · cases o with
    | none => exact C.refl s'
    | some id => exact C.refl s'

theorem importClass_onward (name : Text) (s : ModuleSpace) :
    Onward s (after (importClass around name) s) := by
  have C := Onward.course
  by_cases hn : (splitClassName name).1 = [] ∨ (splitClassName name).2 = []
  · rw [after_ok (importClass_unsplit hn s)]
    exact C.refl s
  rw [after_importClass hn]
  unfold importNamed
  split
  · exact C.refl s
  · split
    · exact C.refl s
    · exact C.importModule around.nestingLimit _ s

end Import
end ResourceLookup
