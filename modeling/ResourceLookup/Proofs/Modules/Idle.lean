import ResourceLookup.Proofs.Modules.Tally

/-!
# Work that begins no module

A look-up that begins no module leaves a space that cannot be told apart from the one it found:
it has recognised entries and looked portions up again, and nothing else.
-/

namespace ResourceLookup.Import

variable {around : Surroundings} {base : OrderedMap Text ModuleId} {α β : Type}
variable {s t u : ModuleSpace} {id : ModuleId} {name : Text}

structure Idle (around : Surroundings) (s t : ModuleSpace) : Prop where
  length : s.modules.length ≤ t.modules.length
  alike : s.Sound → t.modules.length = s.modules.length → Alike around s.registry s t

theorem Alike.own (s : ModuleSpace) : Alike around s.registry s s := Alike.refl fun _ _ h => h

theorem Idle.refl (s : ModuleSpace) : Idle around s s := ⟨Nat.le_refl _, fun _ _ => Alike.own s⟩

theorem Idle.of_lt (h : s.modules.length < t.modules.length) : Idle around s t :=
  ⟨Nat.le_of_lt h, fun _ he => absurd he (Nat.ne_of_gt h)⟩

theorem Alike.sound (h : Alike around base s t) (hs : s.Sound) : t.Sound := by
  intro n i hn
  rw [← h.length]
  refine hs n i ?_
  rwa [ModuleSpace.registered?, h.registry]

theorem Idle.trans (h : Idle around s t) (h' : Idle around t u) : Idle around s u := by
  refine ⟨Nat.le_trans h.length h'.length, fun hs hlen => ?_⟩
  have hst := h.length
  have htu := h'.length
  have ht := h.alike hs (by omega)
  have hu := h'.alike (ht.sound hs) (by omega)
  rw [← ht.registry] at hu
  exact ht.trans hu

def Idles (around : Surroundings) (f : Import α) : Prop := ∀ s, Idle around s (after f s)

theorem Idles.pure (a : α) : Idles around (pure a : Import α) := fun s => Idle.refl s

theorem Idles.throw (e : Fault) : Idles around (throw e : Import α) := fun s => Idle.refl s

theorem Idles.get_bind {k : ModuleSpace → Import α} (h : ∀ s, Idle around s (after (k s) s)) :
    Idles around ((get : Import ModuleSpace) >>= k) := fun s => by
  rw [after, get_bind_apply, ← after]
  exact h s

theorem Idles.bind {f : Import α} {k : α → Import β} (hf : Idles around f)
    (hk : ∀ a, Idles around (k a)) : Idles around (f >>= k) := by
  intro s
  have hs := hf s
  rw [after]
  cases h : f s with
  | ok a s' =>
    rw [after_ok h] at hs
    rw [bind_ok h, ← after]
    exact hs.trans (hk a s')
  | error e s' =>
    rw [after_error h] at hs
    rwa [bind_error h]

theorem Works.find (name : Text) (path : List Text) : Works around (find around name path) :=
  fun _ _ _ L => L.find name path

theorem Works.packagePath (depth : Nat) (id : ModuleId) :
    Works around (packagePath around depth id) := fun _ _ _ L => L.packagePath depth id

theorem Works.pathOr (instead : Objects → Value → Except Fault (Option (List Text)))
    (id : ModuleId) : Works around (pathOr around instead id) := fun _ _ _ L => L.pathOr instead id

theorem find_idles (name : Text) (path : List Text) : Idles around (find around name path) :=
  fun s => ⟨(Works.find name path).length_le s, fun _ _ => (Alike.own s).find name path⟩

/-! ## Paths -/

inductive Looks (around : Surroundings) (base : OrderedMap Text ModuleId) (s : ModuleSpace)
    (P : α → Prop) : EStateM.Result Fault ModuleSpace α → Prop
  | ok {a : α} {s' : ModuleSpace} (ha : P a) (hs : Alike around base s s') :
    Looks around base s P (.ok a s')
  | error {e : Fault} {s' : ModuleSpace} (hs : Alike around base s s') :
    Looks around base s P (.error e s')

theorem Looks.after {P : α → Prop} {f : Import α} (h : Looks around base s P (f s)) :
    Alike around base s (after f s) := by
  rw [ResourceLookup.after]
  generalize f s = x at h
  cases h with
  | ok _ hs => exact hs
  | error hs => exact hs

theorem Looks.of_ok {P : α → Prop} {a : α} (h : Looks around base s P (.ok a t)) : P a := by
  cases h with
  | ok ha _ => exact ha

theorem parentPath_settles (hs : s.Sound) {depth : Nat} (name : Text)
    (ih : ∀ id, Looks around s.registry s
      (fun a : Option (List Text) => id < s.modules.length →
        Settled around s.registry s id (a.getD [])) (packagePath around depth id s)) :
    Looks around s.registry s (Above around s.registry s name) (parentPath around depth name s) := by
  by_cases hn : parentName name = []
  · rw [parentPath_top hn]
    exact .ok (by rw [Above, if_pos hn]) (Alike.own s)
  cases hp : s.registered? (parentName name) with
  | none =>
    rw [parentPath, if_neg hn, bind_error (registeredAs_error hp)]
    exact .error (Alike.own s)
  | some p =>
    rw [parentPath_inParent hn hp]
    have hlook := ih p
    cases hr : packagePath around depth p s with
    | error e s' =>
      rw [hr] at hlook
      rw [bind_error hr]
      cases hlook with
      | error h => exact .error h
    | ok a s' =>
      rw [hr] at hlook
      rw [bind_ok hr]
      cases hlook with
      | ok settled h =>
        refine .ok ?_ h
        rw [Above, if_neg hn]
        exact ⟨p, hp, settled (hs _ p hp)⟩

theorem renew_settles (h : Alike around base s t) {entries seen path : List Text} {epoch : Nat}
    (route : s.route id = some (name, some (.portions entries seen epoch)))
    (above : Above around base s name path) :
    Looks around base s (fun a : Option (List Text) => Settled around base s id (a.getD []))
      (renew around id name entries seen epoch path t) := by
  have whenCurrent : ∀ v, Current around s name entries seen epoch path v →
      Looks around base s (fun a : Option (List Text) => Settled around base s id (a.getD []))
        (renew around id name entries seen epoch path t) := by
    intro v current
    obtain ⟨t₁, ht₁, h₁⟩ := renew_settled h route above current
    rw [ht₁]
    exact .ok (.portions route above current) (h.trans h₁)
  by_cases hseen : path = seen ∧ epoch = s.epoch
  · exact whenCurrent entries (by rw [Current, if_pos hseen])
  have hseen' : ¬(path = seen ∧ epoch = t.epoch) := h.epoch ▸ hseen
  cases hv : portionsAnew around name entries path t with
  | ok v t₁ =>
    have current : Current around t name entries seen epoch path v := by
      rw [Current, if_neg hseen']
      exact ⟨t₁, hv⟩
    exact whenCurrent v (current.congr h.symm.epoch h.symm.finder)
  | error e t₁ =>
    rw [renew_error hseen' hv]
    refine .error (h.trans ?_)
    rw [← after_error hv]
    exact h.symm.left.portionsAnew name entries path

theorem packagePath_settles (hs : s.Sound) (depth : Nat) (id : ModuleId) :
    Looks around s.registry s
      (fun a : Option (List Text) => id < s.modules.length →
        Settled around s.registry s id (a.getD [])) (packagePath around depth id s) := by
  induction depth generalizing id with
  | zero => exact .error (Alike.own s)
  | succ depth ih =>
    rcases hr : s.route id with _ | ⟨name, _ | entries | ⟨entries, seen, epoch⟩ | ⟨x, package⟩⟩
    · rw [packagePath_missing hr depth]
      refine .ok (fun hlt => ?_) (Alike.own s)
      simp [ModuleSpace.route, ModuleSpace.module?, hlt] at hr
    · rw [packagePath_plain hr depth]
      exact .ok (fun _ => .plain hr) (Alike.own s)
    · rw [packagePath_fixed hr depth]
      exact .ok (fun _ => .fixed hr) (Alike.own s)
    rotate_left
    · rw [packagePath_given hr]
      cases hx : s.objects.entriesOf x with
      | ok entries => exact .ok (fun _ => .given hr hx) (Alike.own s)
      | error f => exact .error (Alike.own s)
    have hparent := parentPath_settles hs name ih
    rw [packagePath_portions hr]
    cases hp : parentPath around depth name s with
    | error e s₁ =>
      rw [hp] at hparent
      rw [bind_error hp]
      cases hparent with
      | error h => exact .error h
    | ok path s₁ =>
      rw [hp] at hparent
      rw [bind_ok hp]
      cases hparent with
      | ok above h =>
        have hrenew := renew_settles h hr above
        generalize renew around id name entries seen epoch path s₁ = x at hrenew
        cases hrenew with
        | ok settled h' => exact .ok (fun _ => settled) h'
        | error h' => exact .error h'

theorem packagePath_idles (depth : Nat) (id : ModuleId) :
    Idles around (packagePath around depth id) :=
  fun s => ⟨(Works.packagePath depth id).length_le s,
    fun hs _ => (packagePath_settles hs depth id).after⟩

theorem pathOr_idles (instead : Objects → Value → Except Fault (Option (List Text)))
    (id : ModuleId) : Idles around (pathOr around instead id) := by
  intro s
  rcases pathOr_cases around instead id s with ⟨entries, h, -⟩ | ⟨f, h⟩ | h
  · rw [after_ok h]
    exact Idle.refl s
  · rw [after_error h]
    exact Idle.refl s
  · rw [after, h, ← after]
    exact packagePath_idles _ id s

theorem registeredAs_idles (name : Text) : Idles around (registeredAs name) := by
  refine Idles.get_bind fun s => ?_
  cases s.registered? name <;> exact Idle.refl s

theorem parentPath_idles (depth : Nat) (name : Text) :
    Idles around (parentPath around depth name) := by
  unfold parentPath
  split
  · exact Idles.pure _
  · refine (registeredAs_idles _).bind fun p => ?_
    exact (packagePath_idles depth p).bind fun _ => Idles.pure _

theorem moduleOf_idles (regular : Bool) (name : Text) (found : Found) :
    Idles around (moduleOf around regular name found) := by
  cases found with
  | regular m =>
    rw [moduleOf]
    cases m.made with
    | error e => exact Idles.throw e
    | ok code => exact Idles.pure _
  | portions entries =>
    rw [moduleOf_portions]
    refine (parentPath_idles _ name).bind fun seen => Idles.get_bind fun s => ?_
    exact Idle.refl s

/-! ## Modules that are begun -/

def Begins (f : Import α) : Prop := ∀ s, s.modules.length < (after f s).modules.length

theorem Begins.idles {f : Import α} (h : Begins f) : Idles around f := fun s => Idle.of_lt (h s)

theorem Begins.bind {f : Import α} {k : α → Import β} (hf : Begins f)
    (hk : ∀ a, Works around (k a)) : Begins (f >>= k) := by
  intro s
  have hs := hf s
  rw [after]
  cases h : f s with
  | ok a s' =>
    rw [after_ok h] at hs
    rw [bind_ok h, ← after]
    exact Nat.lt_of_lt_of_le hs ((hk a).length_le s')
  | error e s' =>
    rw [after_error h] at hs
    rwa [bind_error h]

theorem execute_begins {imp : Text → Import ModuleId} (himp : ∀ name, Works around (imp name))
    (undo : Fault → Bool) (m : Module) (code : Code) :
    Begins (execute imp undo m code) := by
  intro s
  have hadd : (s.add m).2.modules.length = s.modules.length + 1 := by
    simp [ModuleSpace.add, ModuleSpace.register]
  have hle := (Tally.begun (s.add m).2.modules.length).runBody himp (s.add m).1 code (Nat.le_refl _)
  have hstage : ∀ (u : ModuleSpace) id stage,
      (u.setStage id stage).modules.length = u.modules.length := by
    intro u id stage
    simp [ModuleSpace.setStage, ModuleSpace.modifyModule]
  rw [hadd] at hle
  rw [after, execute]
  cases hr : runBody imp (s.add m).1 code (s.add m).2 with
  | ok a s' =>
    rw [after_ok hr] at hle
    simp only [hr, hstage]
    exact hle
  | error e s' =>
    rw [after_error hr] at hle
    simp only [hr]
    split
    · exact Nat.lt_of_lt_of_eq hle (hstage s' _ _).symm
    · exact Nat.lt_of_lt_of_eq hle (hstage s' _ _).symm

theorem Works.importModule (around : Surroundings) (depth : Nat) (name : Text) :
    Works around (importModule around depth name) := fun _ _ _ L => L.importModule depth name

theorem Works.attach (around : Surroundings) (name : Text) (id : ModuleId) :
    Works around (attach name id) := fun _ _ _ L => L.attach name id

theorem attached_works (around : Surroundings) (name : Text) (id : ModuleId) (a : α) :
    Works around (do Import.attach name id; pure a) :=
  fun _ _ _ L => (L.attach name id).bind fun _ => Respects.pure _

theorem load_idles (depth : Nat) (name : Text) (path : List Text) :
    Idles around (load around (importModule around depth) name path) := by
  refine (find_idles name path).bind fun found? => ?_
  cases found? with
  | none => exact Idles.throw _
  | some found =>
    refine (moduleOf_idles true name found).bind fun m => ?_
    have hbegins := execute_begins (Works.importModule around depth) (fun _ => true) m.1 m.2
    exact (hbegins.bind fun id => attached_works around name id id).idles

theorem importInParent_idles (depth : Nat) (name : Text) :
    Idles around (importInParent around depth name) := by
  refine Idles.get_bind fun s => ?_
  cases s.registered? name with
  | some id => exact Idle.refl s
  | none =>
    refine (registeredAs_idles (parentName name)).bind (fun parentId => ?_) s
    refine (pathOr_idles _ parentId).bind fun path? => ?_
    cases path? with
    | none => exact Idles.throw _
    | some path => exact load_idles depth name path

theorem importModule_idles (depth : Nat) (name : Text) :
    Idles around (importModule around depth name) := by
  induction depth generalizing name with
  | zero => exact Idles.throw _
  | succ depth ih =>
    rw [importModule_succ]
    refine Idles.get_bind fun s => ?_
    cases s.registered? name with
    | some id => exact Idle.refl s
    | none =>
      simp only
      split
      · exact load_idles depth name _ s
      · refine Idles.get_bind (fun s => ?_) s
        split
        · have hd : Functor.discard (importModule around depth (parentName name)) =
            importModule around depth (parentName name) >>= fun _ => pure ⟨⟩ := rfl
          rw [hd]
          exact (((ih (parentName name)).bind fun _ => Idles.pure _).bind
            fun _ => importInParent_idles depth name) s
        · exact importInParent_idles depth name s

theorem importNamed_idles (name : Text) : Idles around (importNamed around name) := by
  unfold importNamed
  split
  · exact Idles.throw _
  · split
    · exact Idles.throw _
    · exact importModule_idles _ name

/-! ## Look-ups -/

theorem classIn_idles (id : ModuleId) (members : Text) : Idles around (classIn id members) :=
  Idles.get_bind fun s => Idle.refl s

theorem loadLinked_idles (className name : Text) (path : List Text) :
    Idles around (loadLinked around className name path) := by
  refine (find_idles name path).bind fun found? => ?_
  cases found? with
  | none => exact Idles.pure none
  | some found =>
    refine (moduleOf_idles false name found).bind fun m => ?_
    have hbegins : Begins (executeLinked around className m.1 m.2) := by
      intro s
      have hlt := execute_begins (Works.importModule around around.nestingLimit)
        Fault.isOrdinary m.1 m.2 s
      rw [after] at hlt
      rw [after, executeLinked]
      cases hr : execute (importModule around around.nestingLimit) Fault.isOrdinary m.1 m.2 s with
      | ok id s' =>
        rw [hr] at hlt
        exact hlt
      | error e s' =>
        rw [hr] at hlt
        exact hlt
    exact (hbegins.bind fun id => attached_works around name id (some id)).idles

theorem stepTo_idles (className name : Text) (path : Option (List Text)) :
    Idles around (stepTo around className name path) := by
  refine Idles.get_bind fun s => ?_
  cases s.registered? name with
  | some id => exact Idle.refl s
  | none =>
    cases path with
    | none => exact Idle.refl s
    | some entries => exact loadLinked_idles className name entries s

theorem walk_idles (className done : Text) (path : Option (List Text)) (last : Option ModuleId)
    (parts : List Text) : Idles around (walk around className done path last parts) := by
  induction parts generalizing done path last with
  | nil => exact Idles.pure last
  | cons part rest ih =>
    rw [walk_cons]
    refine (stepTo_idles className _ path).bind fun found? => ?_
    cases found? with
    | none => exact Idles.pure none
    | some id => exact (pathOr_idles _ id).bind fun _ => ih _ _ _

theorem loadUnder_idles (name : Text) (path : List Text) :
    Idles around (loadUnder around name path) := by
  unfold loadUnder
  simp only
  split
  · exact Idles.pure none
  · refine (walk_idles _ _ _ _ _).bind fun found? => ?_
    cases found? with
    | none => exact Idles.pure none
    | some id => exact classIn_idles id _

theorem importClass_unsplit {name : Text}
    (h : (splitClassName name).1 = [] ∨ (splitClassName name).2 = []) (s : ModuleSpace) :
    importClass around name s = .ok none s := by
  simp [importClass, h]

/-- Looking a class up by the import system leaves what importing its module leaves. -/
theorem after_importClass {name : Text}
    (h : ¬((splitClassName name).1 = [] ∨ (splitClassName name).2 = [])) (s : ModuleSpace) :
    after (importClass around name) s = after (importNamed around (splitClassName name).1) s := by
  rw [after, after, importClass]
  simp only [Bool.or_eq_true, decide_eq_true_eq, if_neg h]
  cases importNamed around (splitClassName name).1 s with
  | ok id s' => rfl
  | error e s' =>
    cases hkind : e.isModuleMissing with
    | true =>
      rcases hasked : isMissing s.objects (splitClassName name).1 e.subject with g | _ | _ <;>
        simp only [hkind, hasked, ↓reduceIte, Bool.false_eq_true]
    | false =>
      by_cases ho : e.isOrdinary <;> simp only [hkind, ho, ↓reduceIte, Bool.false_eq_true]

theorem importClass_idles (name : Text) : Idles around (importClass around name) := by
  intro s
  by_cases hn : (splitClassName name).1 = [] ∨ (splitClassName name).2 = []
  · rw [after_ok (importClass_unsplit hn s)]
    exact Idle.refl s
  · rw [after_importClass hn]
    exact importNamed_idles _ s

end ResourceLookup.Import
