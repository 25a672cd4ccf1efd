import Mathlib
import ResourceLookup.Proofs.Modules.Replay
import ResourceLookup.Proofs.Modules.Stages

/-!
# What a failed body leaves behind

Where all registered modules had completed, only the module whose body fails may be left half done.
A lookup below a path takes it out of the registry when the fault is an ordinary one, and then a
lookup of the same name comes to the module again and runs it again. After an interrupt or an exit
the module stays registered, and no later lookup runs it.
-/

namespace ResourceLookup.Import

variable {around : Surroundings} {className done name : Text} {path? : Option (List Text)}
variable {path : List Text} {last : Option ModuleId} {parts : List Text} {depth : Nat}
variable {s t t' u u' : ModuleSpace} {m : Module} {code : Code} {f : Fault}

/-! ## Modules that a lookup runs -/

/-- The walk comes to a module that it finds, and runs its body once the module is added to the
last space. -/
inductive Runs (around : Surroundings) (className : Text) :
    (done : Text) → (path? : Option (List Text)) → (last : Option ModuleId) →
      (parts : List Text) → ModuleSpace → Module → Code → ModuleSpace → Prop
  | here {done part : Text} {entries : List Text} {last : Option ModuleId} {rest : List Text}
    {s u : ModuleSpace} {m : Module} {code : Code}
    (new : s.registered? (walkedName done last part) = none)
    (makes : Makes around false (walkedName done last part) entries s m code u) :
    Runs around className done (some entries) last (part :: rest) s m code u
  | later {done part : Text} {path? : Option (List Text)} {last : Option ModuleId}
    {rest : List Text} {s s₁ s₂ u : ModuleSpace} {id : ModuleId} {entries? : Option (List Text)}
    {m : Module} {code : Code}
    (step : stepTo around className (walkedName done last part) path? s = .ok (some id) s₁)
    (look : walkPath around id s₁ = .ok entries? s₂)
    (onward : Runs around className (walkedName done last part)
      (if (entries?.getD []).isEmpty then none else some (entries?.getD [])) (some id) rest s₂ m
      code u) :
    Runs around className done path? last (part :: rest) s m code u

structure Executes (around : Surroundings) (name : Text) (path : List Text) (s : ModuleSpace)
    (m : Module) (code : Code) (u : ModuleSpace) : Prop where
  module : (splitClassName name).1 ≠ []
  members : (splitClassName name).2 ≠ []
  runs : Runs around name [] (some path) none ((splitClassName name).1.splitOn 0x2E) s m
    code u

def BodyFails (around : Surroundings) (depth : Nat) (u : ModuleSpace) (m : Module)
    (code : Code) (f : Fault) (u' : ModuleSpace) : Prop :=
  runBody (importModule around depth) u.modules.length code (u.add m).2 = .error f u'

theorem executeLinked_error (h : BodyFails around around.nestingLimit u m code f u') :
    executeLinked around className m code u =
      .error (linked className f) (failedIn u' u.modules.length m.name f f.isOrdinary) := by
  rw [executeLinked]
  simp only [execute_error h, linked]

theorem Runs.walk_error (h : Runs around className done path? last parts s m code u)
    (hf : BodyFails around around.nestingLimit u m code f u') :
    walk around className done path? last parts s =
      .error (linked className f) (failedIn u' u.modules.length m.name f f.isOrdinary) := by
  induction h with
  | here new makes =>
    obtain ⟨found, s₁, hfind, hmake⟩ := makes
    rw [walk_cons]
    refine bind_error ?_
    rw [stepTo_anew new, loadLinked, bind_ok hfind]
    exact (bind_ok hmake).trans (bind_error (executeLinked_error hf))
  | later step look _ ih =>
    rw [walk_stepped _ step, walkOn, bind_ok look]
    exact ih hf

theorem Executes.loadUnder_error (h : Executes around name path s m code u)
    (hf : BodyFails around around.nestingLimit u m code f u') :
    loadUnder around name path s =
      .error (linked name f) (failedIn u' u.modules.length m.name f f.isOrdinary) := by
  have hn : ¬((splitClassName name).1 = [] ∨ (splitClassName name).2 = []) :=
    fun he => he.elim h.module h.members
  simp only [loadUnder, Bool.or_eq_true, decide_eq_true_eq, if_neg hn]
  exact bind_error (h.runs.walk_error hf)

/-! ## On the way to the module -/

theorem executeLinked_concludes {id : ModuleId} (new : s.registered? m.name = none)
    (h : executeLinked around className m code s = .ok id s') : s.Concludes s' := by
  have C := ModuleSpace.Concludes.course
  have hbody : (s.add m).2.Concludes
      (after (runBody (importModule around around.nestingLimit) s.modules.length code)
        (s.add m).2) := C.runBody (C.importModule around.nestingLimit) trivial _
  have hx := execute_of_executeLinked h
  cases hr : runBody (importModule around around.nestingLimit) s.modules.length code
      (s.add m).2 with
  | ok a s₁ =>
    rw [execute_ok hr] at hx
    rw [after_ok hr] at hbody
    cases hx
    exact C.completed new hbody
  | error e s₁ =>
    rw [execute_error hr] at hx
    cases hx

theorem stepTo_concludes {o : Option ModuleId}
    (h : stepTo around className name path? s = .ok o s') : s.Concludes s' := by
  have C := ModuleSpace.Concludes.course
  cases hs : s.registered? name with
  | some id =>
    rw [stepTo_registered hs] at h
    cases h
    exact C.refl s
  | none =>
    cases path? with
    | none =>
      rw [stepTo_ended hs] at h
      cases h
      exact C.refl s
    | some entries =>
      rw [stepTo_anew hs] at h
      obtain ⟨found?, s₁, hfind, h⟩ := ok_of_bind h
      have h₁ : s.Concludes (after (find around name entries) s) := C.find name entries s
      rw [after_ok hfind] at h₁
      cases found? with
      | none =>
        cases h
        exact h₁
      | some found =>
        obtain ⟨p, s₂, hmake, h⟩ := ok_of_bind h
        obtain ⟨id, s₃, hrun, h⟩ := ok_of_bind h
        obtain ⟨_, s₄, hattach, h⟩ := ok_of_bind h
        cases h
        have hmakes : Makes around false name entries s p.1 p.2 s₂ := ⟨found, s₁, hfind, hmake⟩
        have h₂ := executeLinked_concludes (hmakes.new hs) hrun
        have h₃ : s₃.Concludes (after (attach name id) s₃) :=
          Course.attach (C.refl s₃) fun p _ _ => .setMember s₃ p _ _
        rw [after_ok hattach] at h₃
        exact (C.bare hmakes.bare).trans (h₂.trans h₃)

theorem Runs.concludes (h : Runs around className done path? last parts s m code u) :
    s.Concludes u := by
  have C := ModuleSpace.Concludes.course
  induction h with
  | here _ makes => exact C.bare makes.bare
  | @later done part path? last rest s s₁ s₂ u id entries? m code step look _ ih =>
    have h₂ : s₁.Concludes (after (walkPath around id) s₁) := C.pathOr _ id s₁
    rw [after_ok look] at h₂
    exact (stepTo_concludes step).trans (h₂.trans ih)

theorem Runs.unregistered (h : Runs around className done path? last parts s m code u) :
    s.registered? m.name = none := by
  induction h with
  | here new makes => rwa [makes.name]
  | @later done part path? last rest s s₁ s₂ u id entries? m code step look _ ih =>
    cases hreg : s.registered? m.name with
    | none => rfl
    | some id' =>
      have h₁ : s₁.registered? m.name = some id' := by
        rw [← after_ok step]
        exact (Works.stepTo _ _ path?).registered hreg
      have h₂ : s₂.registered? m.name = some id' := by
        rw [← after_ok look]
        exact (Works.pathOr _ id).registered h₁
      rw [ih] at h₂
      cases h₂

/-! ## What is left -/

theorem BodyFails.concludes (hf : BodyFails around depth u m code f u') :
    (u.add m).2.Concludes u' := by
  rw [← after_error hf]
  exact ModuleSpace.Concludes.course.runBody
    (ModuleSpace.Concludes.course.importModule depth) trivial _

theorem BodyFails.registered (hf : BodyFails around depth u m code f u') :
    u'.registered? m.name = some u.modules.length := by
  have hreg := (Tally.registered (u.add m).2.registry).runBody (Works.importModule around depth)
    u.modules.length code (fun _ _ hn => hn) _ _ (ModuleSpace.registered_add_self u m)
  rwa [after_error hf] at hreg

theorem registered_failedIn_undone (s : ModuleSpace) (id : ModuleId) (name n : Text) (f : Fault) :
    (failedIn s id name f true).registered? n = if name = n then none else s.registered? n :=
  OrderedMap.get?_remove ..

theorem registered_failedIn_kept (s : ModuleSpace) (id : ModuleId) (name n : Text) (f : Fault) :
    (failedIn s id name f false).registered? n = s.registered? n := rfl

theorem stageOf_failedIn (s : ModuleSpace) (id j : ModuleId) (name : Text) (f : Fault)
    (undo : Bool) : (failedIn s id name f undo).stageOf j = (s.setStage id (.failed f)).stageOf j := by
  cases undo <;> rfl

theorem BodyFails.completed (hf : BodyFails around depth u m code f u') (hu : u.Completed)
    {undo : Bool} {n : Text} {id : ModuleId}
    (hid : (failedIn u' u.modules.length m.name f undo).registered? n = some id)
    (hn : n ≠ m.name) :
    (failedIn u' u.modules.length m.name f undo).stageOf id = some .completed := by
  have hreg : u'.registered? n = some id := by
    cases undo with
    | true => rwa [registered_failedIn_undone, if_neg (Ne.symm hn)] at hid
    | false => exact hid
  rw [stageOf_failedIn]
  rcases hf.concludes.registered_of_add hreg hn with hold | ⟨hnew, hdone⟩
  · have hdone := hu n id hold
    rw [hf.concludes.stage_of_add _ (ModuleSpace.lt_of_stageOf hdone), hdone]
  · rw [ModuleSpace.stageOf_setStage_of_ne (Nat.ne_of_lt hnew), hdone]

/-! ## Coming to the module again -/

theorem Makes.again (h : Makes around false name path s m code u)
    (hf : BodyFails around depth u m code f u') (ht : SameFinders around s t) :
    ∃ u₂, Makes around false name path t m code u₂ := by
  obtain ⟨found, s₁, hfind, hmake⟩ := h
  have hsame := SameFinders.findsAlike.find name path ht
  rw [hfind] at hsame
  obtain ⟨t₁, hfind', -⟩ := hsame.of_ok
  refine ⟨t₁, found, t₁, hfind', ?_⟩
  cases found with
  | regular file =>
    rw [moduleOf] at hmake ⊢
    cases hmade : file.made with
    | error e =>
      rw [hmade] at hmake
      cases hmake
    | ok code =>
      rw [hmade] at hmake
      cases hmake
      rfl
  | portions entries =>
    -- Portions have no code, so that no body of theirs fails.
    rw [moduleOf_portions] at hmake
    obtain ⟨seen, s₂, -, hmake⟩ := ok_of_bind hmake
    cases hmake
    cases hf

/-- A walk that came to a module whose body failed, and that is out of the registry again, comes to
it once more. -/
theorem Runs.again (h : Runs around className done path? last parts s m code u)
    (hs : s.Sound) (hf : BodyFails around around.nestingLimit u m code f u')
    (ordinary : f.isOrdinary = true)
    (ht : Alike around (failedIn u' u.modules.length m.name f true).registry
      (failedIn u' u.modules.length m.name f true) t) :
    ∃ u₂, Runs around className done path? last parts t m code u₂ := by
  induction h generalizing t with
  | @here done part entries last rest s u m code new makes =>
    have hwalk : walk around className done (some entries) last (part :: rest) s =
        .error (linked className f) (failedIn u' u.modules.length m.name f true) := by
      rw [← ordinary]
      exact (Runs.here new makes).walk_error hf
    -- What the entries stand for has not changed since, so the search comes to the same file.
    have hfinders : SameFinders around s (failedIn u' u.modules.length m.name f true) := by
      rw [← after_error hwalk]
      exact (Works.walk _ _ _ _ _).sameFinders hs
    obtain ⟨u₂, hmakes⟩ := makes.again hf fun e => (hfinders e).trans (ht.finder e)
    have hnew : t.registered? (walkedName done last part) = none := by
      rw [ModuleSpace.registered?, ← ht.registry, ← ModuleSpace.registered?, ← makes.name,
        registered_failedIn_undone, if_pos rfl]
    exact ⟨u₂, .here hnew hmakes⟩
  | @later done part path? last rest s s₁ s₂ u id entries? m code step look onward ih =>
    have hs₁ : s₁.Sound := by
      rw [← after_ok step]
      exact (Works.stepTo _ _ path?).sound hs
    have hs₂ : s₂.Sound := by
      rw [← after_ok look]
      exact (Works.pathOr _ id).sound hs₁
    have hreg := stepTo_registers step
    have hrest := onward.walk_error hf
    rw [ordinary] at hrest
    have hwalkOn : walkOn around className (walkedName done last part) id rest s₁ =
        .error (linked className f) (failedIn u' u.modules.length m.name f true) := by
      rw [walkOn, bind_ok look, hrest]
    -- The module of this step is registered by now, and its path comes to the same entries.
    have hstep : t.registered? (walkedName done last part) = some id := by
      rw [ModuleSpace.registered?, ← ht.registry, ← ModuleSpace.registered?,
        ← after_error hwalkOn]
      exact (Works.walkOn _ _ id rest).registered hreg
    obtain ⟨t₁, hlook, h₁⟩ : ∃ t₁, walkPath around id (failedIn u' u.modules.length m.name f true) =
        .ok entries? t₁ ∧ Alike around (failedIn u' u.modules.length m.name f true).registry
          (failedIn u' u.modules.length m.name f true) t₁ :=
      pathOr_again (Works.walk className (walkedName done last part) _ (some id) rest) hs₁
        (hs₁ _ id hreg) look (after_error hrest)
    have hsound : (failedIn u' u.modules.length m.name f true).Sound := by
      rw [← after_error hwalkOn]
      exact (Works.walkOn _ _ id rest).sound hs₁
    have hsame : Same (AlikeFrom around _ _) (walkPath around id _) (walkPath around id t) :=
      (Alike.lockstep around hsound).pathOr _ id ⟨ht, Nat.le_refl _⟩
    rw [hlook] at hsame
    obtain ⟨t₂, hlook₂, h₂⟩ := hsame.of_ok
    obtain ⟨u₂, hu₂⟩ := ih hs₂ hf (h₁.trans h₂.1)
    exact ⟨u₂, .later (stepTo_registered hstep path?) hlook₂ hu₂⟩

/-- After a body has failed, all that was registered before the lookup still is, and what is
registered has completed, but perhaps for the module itself. After an ordinary fault that is out of
the registry, and a lookup of the same name runs it again. After any other fault it is still
registered, half done, and no later lookup runs it. -/
theorem loadUnder_of_failed_body (hs : s.Completed)
    (executes : Executes around name path s m code u)
    (fails : BodyFails around around.nestingLimit u m code f u') :
    ∃ t, loadUnder around name path s = .error (linked name f) t ∧
      (∀ n id, s.registered? n = some id → t.registered? n = some id) ∧
      (∀ n id, t.registered? n = some id → n ≠ m.name → t.stageOf id = some .completed) ∧
      (f.isOrdinary = true → t.Completed ∧ t.registered? m.name = none ∧
        ∃ u₂, Executes around name path t m code u₂) ∧
      (f.isOrdinary = false → t.registered? m.name = some u.modules.length ∧
        t.stageOf u.modules.length = some (.failed f) ∧
        ∀ name' path' m' code' u₂, Executes around name' path' t m' code' u₂ →
          m'.name ≠ m.name) := by
  have hu : u.Completed := executes.runs.concludes.completed hs
  have herror := executes.loadUnder_error fails
  refine ⟨_, herror, fun n id hid => ?_, fun n id hid hn => fails.completed hu hid hn, ?_, ?_⟩
  · have hworks : Works around (loadUnder around name path) := fun _ _ _ L => L.loadUnder name path
    have hkept := hworks.registered hid
    rwa [after_error herror] at hkept
  · intro ordinary
    rw [ordinary]
    have hout : (failedIn u' u.modules.length m.name f true).registered? m.name = none := by
      rw [registered_failedIn_undone, if_pos rfl]
    refine ⟨fun n id hid => fails.completed hu hid ?_, hout, ?_⟩
    · rintro rfl
      rw [hout] at hid
      cases hid
    · obtain ⟨u₂, hu₂⟩ := executes.runs.again hs.sound fails ordinary (Alike.own _)
      exact ⟨u₂, executes.module, executes.members, hu₂⟩
  · intro interrupt
    rw [interrupt]
    have hin : (failedIn u' u.modules.length m.name f false).registered? m.name =
        some u.modules.length := fails.registered
    refine ⟨hin, ?_, fun _ _ m' _ u₂ later hname => ?_⟩
    · rw [stageOf_failedIn, ModuleSpace.stageOf_setStage_self _ fails.concludes.length_of_add]
    · have hnew := later.runs.unregistered
      rw [hname, hin] at hnew
      cases hnew

def raising (cls : FaultClass) (subject : Subject) : Surroundings where
  tree :=
    [([text "a"], .directory),
      ([text "a", text "m.py"], .file (.program [.raise cls none subject]))]
  cwd := []
  searchPath := [text "/a"]

def raisingModule (regular : Bool) : Module :=
  ⟨text "m", some (text "/a/m.py"), .directory (text "/a"), none, [], .running regular⟩

theorem makes_raising (regular : Bool) (cls : FaultClass) (subject : Subject) :
    ∃ u, Makes (raising cls subject) regular (text "m") [text "/a"] .start (raisingModule regular)
      (.ok [.raise cls none subject]) u := by
  obtain ⟨u, hfind⟩ : ∃ u, find (raising cls subject) (text "m") [text "/a"] .start =
      .ok (some (.regular
        ⟨text "/a/m.py", .directory (text "/a"), .ok (.ok [.raise cls none subject]), none⟩)) u :=
    exists_of_run (by cbv)
  exact ⟨u, _, u, hfind, rfl⟩

theorem bodyFails_raising (depth : Nat) (u : ModuleSpace) (m : Module) (cls : FaultClass)
    (subject : Subject) :
    BodyFails (raising cls subject) depth u m (.ok [.raise cls none subject])
      (.ofClass cls none subject) (u.add m).2 := rfl

theorem executes_raising (cls : FaultClass) :
    ∃ u, Executes (raising cls .none) (text "m.C") [text "/a"] .start (raisingModule false)
      (.ok [.raise cls none .none]) u := by
  obtain ⟨u, makes⟩ := makes_raising false cls .none
  have hruns : Runs (raising cls .none) (text "m.C") [] (some [text "/a"]) none [text "m"] .start
      (raisingModule false) (.ok [.raise cls none .none]) u := .here (by decide) makes
  exact ⟨u, by decide, by decide, hruns⟩

/-- Not every failed body leaves the registry without its module. -/
theorem loadUnder_keeps_interrupted :
    ¬ ∀ (around : Surroundings) (name : Text) (path : List Text) (s : ModuleSpace) (m : Module)
      (code : Code) (u : ModuleSpace) (f : Fault) (u' : ModuleSpace),
      s.Completed → Executes around name path s m code u →
      BodyFails around around.nestingLimit u m code f u' →
      ∃ e t, loadUnder around name path s = .error e t ∧ t.registered? m.name = none := by
  intro h
  obtain ⟨u, executes⟩ := executes_raising "KeyboardInterrupt"
  have fails := bodyFails_raising 200 u (raisingModule false) "KeyboardInterrupt" .none
  obtain ⟨e, t, herror, hout⟩ := h _ _ _ _ _ _ _ _ _ ModuleSpace.start_completed executes fails
  have hkept := executes.loadUnder_error fails
  rw [herror] at hkept
  cases hkept
  have hin := fails.registered
  rw [show (Fault.ofClass "KeyboardInterrupt" none .none).isOrdinary = false by decide,
    registered_failedIn_kept, hin] at hout
  cases hout

theorem loadUnder_of_failed_body_raising :
    (∃ t, loadUnder (raising "RuntimeError" .none) (text "m.C") [text "/a"] .start =
        .error (.classLink (text "m.C") (.raised "RuntimeError" none .none)) t ∧
      t.Completed ∧ t.registered? (text "m") = none) ∧
    ∃ t id, loadUnder (raising "KeyboardInterrupt" .none) (text "m.C") [text "/a"] .start =
        .error (.raised "KeyboardInterrupt" none .none) t ∧
      t.registered? (text "m") = some id ∧
      t.stageOf id = some (.failed (.raised "KeyboardInterrupt" none .none)) := by
  constructor
  · obtain ⟨u, executes⟩ := executes_raising "RuntimeError"
    have fails := bodyFails_raising 200 u (raisingModule false) "RuntimeError" .none
    obtain ⟨t, herror, -, -, hordinary, -⟩ :=
      loadUnder_of_failed_body ModuleSpace.start_completed executes fails
    obtain ⟨hcompleted, hout, -⟩ := hordinary (by decide)
    exact ⟨t, herror, hcompleted, hout⟩
  · obtain ⟨u, executes⟩ := executes_raising "KeyboardInterrupt"
    have fails := bodyFails_raising 200 u (raisingModule false) "KeyboardInterrupt" .none
    obtain ⟨t, herror, -, -, -, hinterrupt⟩ :=
      loadUnder_of_failed_body ModuleSpace.start_completed executes fails
    obtain ⟨hin, hfailed, -⟩ := hinterrupt (by decide)
    exact ⟨t, _, herror, hin, hfailed⟩

end ResourceLookup.Import
