import ResourceLookup.Proofs.Modules.Space
import ResourceLookup.Proofs.Outcomes

/-!
# Work on the modules, piece by piece
-/

namespace ResourceLookup.Import

variable {around : Surroundings} {α β : Type}

/-! ## Names of parents -/

theorem parentName_of_undotted {name : Text} (h : 0x2E ∉ name) : parentName name = [] := by
  rw [parentName, Text.cutLast_eq_none_iff.2 h]

theorem parentName_append {name : Text} (h : 0x2E ∉ name) (done : Text) :
    parentName (done ++ 0x2E :: name) = done := by
  rw [parentName, Text.cutLast_append h]

theorem parentName_lastPart {name : Text} (h : parentName name ≠ []) :
    parentName name ++ 0x2E :: Finder.lastPart name = name := by
  rw [parentName] at h ⊢
  rw [Finder.lastPart]
  cases hcut : name.cutLast 0x2E with
  | none =>
    rw [hcut] at h
    exact absurd rfl h
  | some p => exact (Text.eq_of_cutLast hcut).symm

/-! ## Paths of packages -/

theorem registeredAs_ok {s : ModuleSpace} {name : Text} {id : ModuleId}
    (h : s.registered? name = some id) : registeredAs name s = .ok id s := by
  rw [registeredAs, get_bind_apply, h]
  rfl

theorem registeredAs_error {s : ModuleSpace} {name : Text} (h : s.registered? name = none) :
    registeredAs name s = .error (.keyError name) s := by
  rw [registeredAs, get_bind_apply, h]
  rfl

def parentPath (around : Surroundings) (depth : Nat) (name : Text) : Import (List Text) :=
  if parentName name = [] then pure around.searchPath
  else do
    let p ← registeredAs (parentName name)
    pure ((← packagePath around depth p).getD [])

theorem parentPath_top {name : Text} (h : parentName name = []) (depth : Nat) :
    parentPath around depth name = pure around.searchPath := by
  rw [parentPath, if_pos h]

theorem parentPath_inParent {s : ModuleSpace} {name : Text} {p : ModuleId}
    (h : parentName name ≠ []) (hp : s.registered? (parentName name) = some p) (depth : Nat) :
    parentPath around depth name s =
      (packagePath around depth p >>= fun path => pure (path.getD [])) s := by
  rw [parentPath, if_neg h, bind_ok (registeredAs_ok hp)]

theorem after_parentPath (around : Surroundings) (depth : Nat) (name : Text) (s : ModuleSpace) :
    after (parentPath around depth name) s = s ∨
      ∃ p, after (parentPath around depth name) s = after (packagePath around depth p) s := by
  by_cases hn : parentName name = []
  · rw [parentPath_top hn]
    exact .inl rfl
  · cases hp : s.registered? (parentName name) with
    | none =>
      refine .inl (after_error (e := .keyError (parentName name)) ?_)
      rw [parentPath, if_neg hn, bind_error (registeredAs_error hp)]
    | some p =>
      refine .inr ⟨p, ?_⟩
      rw [after, parentPath_inParent hn hp]
      cases hr : packagePath around depth p s with
      | ok a s' =>
        rw [bind_ok hr, after_ok hr]
        rfl
      | error e s' => rw [bind_error hr, after_error hr]

def portionsAnew (around : Surroundings) (name : Text) (entries path : List Text) :
    Import (List Text) := do
  let found? ← find around name path
  pure (match found? with
    | some (.portions ps) => ps
    | _ => entries)

theorem after_portionsAnew (around : Surroundings) (name : Text) (entries path : List Text)
    (s : ModuleSpace) :
    after (portionsAnew around name entries path) s = after (find around name path) s := by
  rw [after, portionsAnew]
  cases h : find around name path s with
  | ok found? s' =>
    rw [bind_ok h, after_ok h]
    rfl
  | error e s' => rw [bind_error h, after_error h]

def renew (around : Surroundings) (id : ModuleId) (name : Text) (entries seen : List Text)
    (epoch : Nat) (path : List Text) : Import (Option (List Text)) := do
  if path = seen ∧ epoch = (← get).epoch then pure (some entries)
  else do
    let v ← portionsAnew around name entries path
    modify fun s => s.setPath id (.portions v path s.epoch)
    pure (some v)

theorem renew_current {s : ModuleSpace} {seen path : List Text} {epoch : Nat}
    (h : path = seen ∧ epoch = s.epoch) (id : ModuleId) (name : Text) (entries : List Text) :
    renew around id name entries seen epoch path s = .ok (some entries) s := by
  rw [renew, get_bind_apply, if_pos h]
  rfl

theorem renew_ok {s s' : ModuleSpace} {name : Text} {entries seen path v : List Text} {epoch : Nat}
    (h : ¬(path = seen ∧ epoch = s.epoch))
    (hv : portionsAnew around name entries path s = .ok v s') (id : ModuleId) :
    renew around id name entries seen epoch path s =
      .ok (some v) (s'.setPath id (.portions v path s'.epoch)) := by
  rw [renew, get_bind_apply, if_neg h, bind_ok hv]
  rfl

theorem renew_error {s s' : ModuleSpace} {name : Text} {entries seen path : List Text}
    {epoch : Nat} {e : Fault} (h : ¬(path = seen ∧ epoch = s.epoch))
    (hv : portionsAnew around name entries path s = .error e s') (id : ModuleId) :
    renew around id name entries seen epoch path s = .error e s' := by
  rw [renew, get_bind_apply, if_neg h, bind_error hv]

theorem packagePath_missing {s : ModuleSpace} {id : ModuleId} (h : s.route id = none)
    (depth : Nat) : packagePath around (depth + 1) id s = .ok none s := by
  simp only [ModuleSpace.route, Option.map_eq_none_iff] at h
  simp only [packagePath, get_bind_apply, h]
  rfl

theorem packagePath_plain {s : ModuleSpace} {id : ModuleId} {name : Text}
    (h : s.route id = some (name, none)) (depth : Nat) :
    packagePath around (depth + 1) id s = .ok none s := by
  obtain ⟨m, hm, hr⟩ := Option.map_eq_some_iff.1 h
  obtain ⟨rfl, hp⟩ := Prod.mk.inj hr
  simp only [packagePath, get_bind_apply, hm, hp]
  rfl

theorem packagePath_fixed {s : ModuleSpace} {id : ModuleId} {name : Text} {entries : List Text}
    (h : s.route id = some (name, some (.fixed entries))) (depth : Nat) :
    packagePath around (depth + 1) id s = .ok (some entries) s := by
  obtain ⟨m, hm, hr⟩ := Option.map_eq_some_iff.1 h
  obtain ⟨rfl, hp⟩ := Prod.mk.inj hr
  simp only [packagePath, get_bind_apply, hm, hp]
  rfl

theorem packagePath_given {s : ModuleSpace} {id : ModuleId} {name : Text} {v : Value}
    {package : Bool} (h : s.route id = some (name, some (.given v package))) (depth : Nat) :
    packagePath around (depth + 1) id s =
      match s.objects.entriesOf v with
      | .ok entries => .ok (some entries) s
      | .error f => .error f s := by
  obtain ⟨m, hm, hr⟩ := Option.map_eq_some_iff.1 h
  obtain ⟨rfl, hp⟩ := Prod.mk.inj hr
  simp only [packagePath, get_bind_apply, hm, hp]
  cases s.objects.entriesOf v <;> rfl

theorem route_of_packagePath {s s' : ModuleSpace} {id : ModuleId} {depth : Nat} {path : List Text}
    (h : packagePath around depth id s = .ok (some path) s') :
    ∃ name entries, s.route id = some (name, some entries) := by
  cases depth with
  | zero => cases h
  | succ depth =>
    rcases hr : s.route id with _ | ⟨name, _ | entries⟩
    · rw [packagePath_missing hr] at h
      cases h
    · rw [packagePath_plain hr] at h
      cases h
    · exact ⟨name, entries, rfl⟩

theorem packagePath_portions {s : ModuleSpace} {id : ModuleId} {name : Text}
    {entries seen : List Text} {epoch : Nat}
    (h : s.route id = some (name, some (.portions entries seen epoch))) (depth : Nat) :
    packagePath around (depth + 1) id s =
      (parentPath around depth name >>= renew around id name entries seen epoch) s := by
  obtain ⟨m, hm, hr⟩ := Option.map_eq_some_iff.1 h
  obtain ⟨rfl, hp⟩ := Prod.mk.inj hr
  rw [packagePath, get_bind_apply]
  simp only [hm, hp]
  by_cases ht : parentName m.name = []
  · simp only [parentPath, renew, portionsAnew, bind_assoc, pure_bind, ht, if_true]
    rfl
  · simp only [parentPath, renew, portionsAnew, bind_assoc, pure_bind, ht, if_false]
    rfl

inductive PathChange (around : Surroundings) (depth : Nat) (id : ModuleId) (s : ModuleSpace) :
    ModuleSpace → Prop
  | nothing : PathChange around depth id s s
  | above {name : Text} {entries seen : List Text} {epoch : Nat}
    (route : s.route id = some (name, some (.portions entries seen epoch))) :
    PathChange around depth id s (after (parentPath around depth name) s)
  | searched {name : Text} {entries seen path : List Text} {epoch : Nat} {s₁ : ModuleSpace}
    (route : s.route id = some (name, some (.portions entries seen epoch)))
    (parent : parentPath around depth name s = .ok path s₁) :
    PathChange around depth id s (after (portionsAnew around name entries path) s₁)
  | renewed {name : Text} {entries seen path v : List Text} {epoch : Nat} {s₁ s₂ : ModuleSpace}
    (route : s.route id = some (name, some (.portions entries seen epoch)))
    (parent : parentPath around depth name s = .ok path s₁)
    (stale : ¬(path = seen ∧ epoch = s₁.epoch))
    (found : portionsAnew around name entries path s₁ = .ok v s₂) :
    PathChange around depth id s (s₂.setPath id (.portions v path s₂.epoch))

theorem packagePath_changes (around : Surroundings) (depth : Nat) (id : ModuleId)
    (s : ModuleSpace) :
    PathChange around depth id s (after (packagePath around (depth + 1) id) s) := by
  rcases hr : s.route id with _ | ⟨name, _ | entries | ⟨entries, seen, epoch⟩ | ⟨v, package⟩⟩
  · rw [after_ok (packagePath_missing hr depth)]
    exact .nothing
  · rw [after_ok (packagePath_plain hr depth)]
    exact .nothing
  · rw [after_ok (packagePath_fixed hr depth)]
    exact .nothing
  rotate_left
  · rw [after, packagePath_given hr]
    cases s.objects.entriesOf v <;> exact .nothing
  rw [after, packagePath_portions hr]
  cases hp : parentPath around depth name s with
  | error e s₁ =>
    rw [bind_error hp]
    exact after_error hp ▸ .above hr
  | ok path s₁ =>
    rw [bind_ok hp]
    by_cases hseen : path = seen ∧ epoch = s₁.epoch
    · rw [renew_current hseen]
      exact after_ok hp ▸ .above hr
    cases hv : portionsAnew around name entries path s₁ with
    | error e s₂ =>
      rw [renew_error hseen hv]
      exact after_error hv ▸ .searched hr hp
    | ok v s₂ =>
      rw [renew_ok hseen hv]
      exact .renewed hr hp hseen hv

theorem given?_of_route {s : ModuleSpace} {id : ModuleId} {name : Text}
    {path : Option PackagePath} (h : s.route id = some (name, path)) :
    s.given? id = path.bind PackagePath.given? := by
  obtain ⟨m, hm, hr⟩ := Option.map_eq_some_iff.1 h
  obtain ⟨rfl, rfl⟩ := Prod.mk.inj hr
  rw [ModuleSpace.given?, hm]
  rfl

section Instead

variable {instead : Objects → Value → Except Fault (Option (List Text))}
variable {s s' : ModuleSpace} {id : ModuleId}

theorem pathOr_apply (instead : Objects → Value → Except Fault (Option (List Text)))
    (id : ModuleId) (s : ModuleSpace) :
    pathOr around instead id s =
      match (s.given? id).map (instead s.objects) with
      | some (.ok (some entries)) => .ok (some entries) s
      | some (.error f) => .error f s
      | _ => packagePath around around.nestingLimit id s := by
  rw [pathOr, get_bind_apply]
  rcases (s.given? id).map (instead s.objects) with _ | _ | _ | _ <;> rfl

theorem pathOr_cases (around : Surroundings)
    (instead : Objects → Value → Except Fault (Option (List Text))) (id : ModuleId)
    (s : ModuleSpace) :
    (∃ entries, pathOr around instead id s = .ok (some entries) s ∧ (s.given? id).isSome) ∨
      (∃ f, pathOr around instead id s = .error f s) ∨
      pathOr around instead id s = packagePath around around.nestingLimit id s := by
  rw [pathOr_apply]
  cases s.given? id with
  | none => exact .inr (.inr rfl)
  | some v =>
    rcases hv : instead s.objects v with f | _ | entries
    · exact .inr (.inl ⟨f, by simp [hv]⟩)
    · exact .inr (.inr (by simp [hv]))
    · exact .inl ⟨entries, by simp [hv], rfl⟩

theorem route_of_pathOr {path : List Text}
    (h : pathOr around instead id s = .ok (some path) s') :
    ∃ name entries, s.route id = some (name, some entries) := by
  rcases pathOr_cases around instead id s with ⟨entries, -, hgiven⟩ | ⟨f, hf⟩ | heq
  · obtain ⟨v, hv⟩ := Option.isSome_iff_exists.1 hgiven
    obtain ⟨m, hm, hpath⟩ := Option.bind_eq_some_iff.1 hv
    obtain ⟨path', hpath', -⟩ := Option.bind_eq_some_iff.1 hpath
    exact ⟨m.name, path', by rw [ModuleSpace.route, hm, Option.map_some, hpath']⟩
  · rw [hf] at h
    cases h
  · rw [heq] at h
    exact route_of_packagePath h

end Instead

/-! ## Modules that are imported and walked to -/

theorem moduleOf_portions (regular : Bool) (name : Text) (entries : List Text) :
    moduleOf around regular name (.portions entries) =
      (do
        let seen ← parentPath around around.nestingLimit name
        let s ← get
        pure (⟨name, none, .portions, some (.portions entries seen s.epoch), [],
          .running regular⟩, .ok [])) := by
  by_cases h : parentName name = [] <;>
    simp only [moduleOf, parentPath, h, if_true, if_false, bind_assoc, pure_bind]

theorem moduleOf_ok {regular : Bool} {name : Text} {found : Found} {m : Module} {code : Code}
    {s s' : ModuleSpace} (h : moduleOf around regular name found s = .ok (m, code) s') :
    m.name = name ∧ m.isRunning := by
  cases found with
  | regular f =>
    rw [moduleOf] at h
    cases hmade : f.made with
    | error e =>
      rw [hmade] at h
      cases h
    | ok code =>
      rw [hmade] at h
      cases h
      exact ⟨rfl, rfl⟩
  | portions entries =>
    rw [moduleOf_portions] at h
    obtain ⟨seen, t, _, h⟩ := ok_of_bind h
    cases h
    exact ⟨rfl, rfl⟩

theorem moduleOf_name {regular : Bool} {name : Text} {found : Found} {m : Module} {code : Code}
    {s s' : ModuleSpace} (h : moduleOf around regular name found s = .ok (m, code) s') :
    m.name = name := (moduleOf_ok h).1

theorem moduleOf_running {regular : Bool} {name : Text} {found : Found} {m : Module} {code : Code}
    {s s' : ModuleSpace} (h : moduleOf around regular name found s = .ok (m, code) s') :
    m.isRunning := (moduleOf_ok h).2

def importedMember (id : ModuleId) (full name : Text) : Import Value := do
  match ← member? id name with
  | some v => pure v
  | none =>
    match (← get).registered? full, (← get).module? id with
    | some id', _ => pure (.ofModule id')
    | none, some m => throw (cannotImport name m)
    | none, none => throw (.keyError full)

theorem importedName_eq (imp : Text → Import ModuleId) (id : ModuleId) (name : Text) :
    importedName imp id name =
      (do
        let full := (← nameOf id) ++ 0x2E :: name
        if (← isPackage id) && (← member? id name).isNone then importSubmodule imp full
        importedMember id full name) := rfl

def importInParent (around : Surroundings) (depth : Nat) (name : Text) : Import ModuleId := do
  match (← get).registered? name with
  | some id => pure id
  | none =>
    let parentId ← registeredAs (parentName name)
    match ← importPath around parentId with
    | none => throw (.moduleMissing name (some (parentName name)))
    | some path => load around (importModule around depth) name path

theorem importModule_succ (depth : Nat) (name : Text) :
    importModule around (depth + 1) name =
      (do
        match (← get).registered? name with
        | some id => pure id
        | none =>
          if parentName name = [] then
            load around (importModule around depth) name around.searchPath
          else
            if !(← get).isRegistered (parentName name) then do
              discard (importModule around depth (parentName name))
              importInParent around depth name
            else importInParent around depth name) := by
  rw [importModule]
  rfl

def linked (className : Text) (f : Fault) : Fault :=
  if f.isOrdinary then .classLink className f else f

def walkedName (done : Text) (last : Option ModuleId) (part : Text) : Text :=
  if last.isNone then part else done ++ 0x2E :: part

def stepTo (around : Surroundings) (className name : Text) (path : Option (List Text)) :
    Import (Option ModuleId) := do
  match (← get).registered? name with
  | some id => pure (some id)
  | none =>
    match path with
    | none => pure none
    | some entries => loadLinked around className name entries

def walkOn (around : Surroundings) (className done : Text) (id : ModuleId)
    (rest : List Text) : Import (Option ModuleId) := do
  let entries := (← walkPath around id).getD []
  walk around className done (if entries.isEmpty then none else some entries) (some id) rest

theorem walk_cons (className done : Text) (path : Option (List Text)) (last : Option ModuleId)
    (part : Text) (rest : List Text) :
    walk around className done path last (part :: rest) =
      (do
        match ← stepTo around className (walkedName done last part) path with
        | none => pure none
        | some id => walkOn around className (walkedName done last part) id rest) := by
  rw [walk]
  funext s
  simp only [stepTo, walkedName, walkOn, bind_assoc, get_bind_apply]
  cases s.registered? (if last.isNone then part else done ++ 0x2E :: part) with
  | some id => rfl
  | none => cases path <;> rfl

end ResourceLookup.Import
