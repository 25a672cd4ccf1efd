import ResourceLookup.Proofs.Modules.Course

/-!
# Stages of registered modules

Whatever a body imports has completed or is out of the registry again by the time the body ends.
-/

namespace ResourceLookup

namespace ModuleSpace

variable {s t u : ModuleSpace} {id : ModuleId} {name : Text}

def stageOf (s : ModuleSpace) (id : ModuleId) : Option Stage := (s.module? id).map (·.stage)

theorem lt_of_stageOf {stage : Stage} (h : s.stageOf id = some stage) : id < s.modules.length := by
  obtain ⟨m, hm, -⟩ := Option.map_eq_some_iff.1 h
  exact (List.getElem?_eq_some_iff.1 hm).1

theorem stageOf_of_bare (h : t.bare = s.bare) (id : ModuleId) : t.stageOf id = s.stageOf id := by
  have hbare : ∀ v : ModuleSpace, v.stageOf id = (v.bare.module? id).map (·.stage) := by
    intro v
    rw [bare_module?, stageOf, Option.map_map]
    rfl
  rw [hbare t, hbare s, h]

theorem stageOf_modifyModule (s : ModuleSpace) (id j : ModuleId) {f : Module → Module}
    (hf : ∀ m, (f m).stage = m.stage) : (s.modifyModule id f).stageOf j = s.stageOf j := by
  simp only [stageOf, module?, modifyModule, List.getElem?_modify]
  cases s.modules[j]? with
  | none => rfl
  | some m => by_cases h : id = j <;> simp [h, hf]

theorem stageOf_setMember (s : ModuleSpace) (id j : ModuleId) (name : Text) (v : Value) :
    (s.setMember id name v).stageOf j = s.stageOf j := stageOf_modifyModule s id j fun _ => rfl

theorem stageOf_givePath (s : ModuleSpace) (id j : ModuleId) (v : Value) :
    (s.givePath id v).stageOf j = s.stageOf j := stageOf_modifyModule s id j fun _ => rfl

theorem stageOf_assign (s : ModuleSpace) (id j : ModuleId) (name : Text) (v : Value) :
    (s.assign id name v).stageOf j = s.stageOf j := by
  rcases Import.assign_cases s id name v with h | h <;> rw [h]
  · exact stageOf_setMember s id j name v
  · rw [stageOf_givePath, stageOf_setMember]

theorem stageOf_setStage_self (stage : Stage) (h : id < s.modules.length) :
    (s.setStage id stage).stageOf id = some stage := by
  simp [stageOf, module?, setStage, modifyModule, h]

theorem stageOf_setStage_of_ne {j : ModuleId} (h : id ≠ j) (stage : Stage) :
    (s.setStage id stage).stageOf j = s.stageOf j := by
  simp only [stageOf, module?, setStage, modifyModule, List.getElem?_modify]
  cases s.modules[j]? <;> simp [h]

theorem stageOf_add_of_lt (h : id < s.modules.length) (m : Module) :
    (s.add m).2.stageOf id = s.stageOf id := by
  simp only [stageOf, module?, add, register]
  rw [List.getElem?_append_left h]

theorem length_add (s : ModuleSpace) (m : Module) :
    (s.add m).2.modules.length = s.modules.length + 1 := by
  simp [add, register]

theorem length_setStage (s : ModuleSpace) (id : ModuleId) (stage : Stage) :
    (s.setStage id stage).modules.length = s.modules.length := by
  simp [setStage, modifyModule]

theorem registered_add (s : ModuleSpace) (m : Module) (name : Text) :
    (s.add m).2.registered? name =
      if m.name = name then some s.modules.length else s.registered? name :=
  OrderedMap.get?_put ..

theorem registered_add_self (s : ModuleSpace) (m : Module) :
    (s.add m).2.registered? m.name = some s.modules.length := by
  rw [registered_add, if_pos rfl]

theorem length_setMember (s : ModuleSpace) (id : ModuleId) (name : Text) (v : Value) :
    (s.setMember id name v).modules.length = s.modules.length := length_modifyModule ..

theorem length_assign (s : ModuleSpace) (id : ModuleId) (name : Text) (v : Value) :
    (s.assign id name v).modules.length = s.modules.length := by
  rcases Import.assign_cases s id name v with h | h <;> rw [h]
  · exact length_setMember s id name v
  · exact (length_modifyModule ..).trans (length_setMember s id name v)

theorem registry_assign (s : ModuleSpace) (id : ModuleId) (name : Text) (v : Value) :
    (s.assign id name v).registry = s.registry := by
  rcases Import.assign_cases s id name v with h | h <;> rw [h] <;> rfl

def Completed (s : ModuleSpace) : Prop :=
  ∀ name id, s.registered? name = some id → s.stageOf id = some .completed

theorem Completed.sound (h : s.Completed) : s.Sound :=
  fun name id hid => lt_of_stageOf (h name id hid)

theorem start_completed : start.Completed := by
  intro name id h
  have hmem := OrderedMap.mem_of_get? h
  simp only [start, List.mem_cons, Prod.mk.injEq, List.not_mem_nil, or_false] at hmem
  rcases hmem with ⟨-, rfl⟩ | ⟨-, rfl⟩ | ⟨-, rfl⟩ | ⟨-, rfl⟩ | ⟨-, rfl⟩ <;> rfl

/-! ## What was begun meanwhile -/

structure Concludes (s t : ModuleSpace) : Prop where
  length : s.modules.length ≤ t.modules.length
  stage : ∀ id, id < s.modules.length → t.stageOf id = s.stageOf id
  registered : ∀ name id, t.registered? name = some id → s.registered? name = some id ∨
    s.modules.length ≤ id ∧ t.stageOf id = some .completed

theorem Concludes.trans (h : Concludes s t) (h' : Concludes t u) : Concludes s u where
  length := Nat.le_trans h.length h'.length
  stage id hid := (h'.stage id (Nat.lt_of_lt_of_le hid h.length)).trans (h.stage id hid)
  registered name id hid := by
    rcases h'.registered name id hid with ht | ⟨hnew, hdone⟩
    · rcases h.registered name id ht with hs | ⟨hnew, hdone⟩
      · exact .inl hs
      · exact .inr ⟨hnew, (h'.stage id (lt_of_stageOf hdone)).trans hdone⟩
    · exact .inr ⟨Nat.le_trans h.length hnew, hdone⟩

theorem Concludes.completed (h : Concludes s t) (hs : s.Completed) : t.Completed := by
  intro name id hid
  rcases h.registered name id hid with hold | ⟨-, hdone⟩
  · have hdone := hs name id hold
    rw [h.stage id (lt_of_stageOf hdone), hdone]
  · exact hdone

/-- A module that is begun and runs its body: what is registered then, apart from the module itself,
was registered or has completed. -/
theorem Concludes.registered_of_add {m : Module} (h : Concludes (s.add m).2 t)
    (hid : t.registered? name = some id) (hname : name ≠ m.name) :
    s.registered? name = some id ∨ s.modules.length < id ∧ t.stageOf id = some .completed := by
  rcases h.registered name id hid with hadd | ⟨hnew, hdone⟩
  · rw [registered_add, if_neg (Ne.symm hname)] at hadd
    exact .inl hadd
  · rw [length_add] at hnew
    exact .inr ⟨hnew, hdone⟩

theorem Concludes.stage_of_add {m : Module} (h : Concludes (s.add m).2 t) (stage : Stage)
    (hid : id < s.modules.length) :
    (t.setStage s.modules.length stage).stageOf id = s.stageOf id := by
  have hlt : id < (s.add m).2.modules.length := by
    rw [length_add]
    exact Nat.lt_succ_of_lt hid
  rw [stageOf_setStage_of_ne (Nat.ne_of_gt hid), h.stage id hlt, stageOf_add_of_lt hid]

theorem Concludes.length_of_add {m : Module} (h : Concludes (s.add m).2 t) :
    s.modules.length < t.modules.length := by
  have hlen := h.length
  rwa [length_add] at hlen

theorem Concludes.setMember (s : ModuleSpace) (id : ModuleId) (name : Text) (v : Value) :
    Concludes s (s.setMember id name v) where
  length := Nat.le_of_eq (length_setMember s id name v).symm
  stage j _ := stageOf_setMember s id j name v
  registered _ _ hj := .inl hj

theorem Concludes.course : Import.Course (fun _ _ => True) Concludes where
  trans := Concludes.trans
  bare {s t} h :=
    { length := Nat.le_of_eq (length_of_bare h).symm
      stage := fun id _ => stageOf_of_bare h id
      registered := fun name id hid => .inl ((Import.registered_of_bare h name).symm.trans hid) }
  assign {s id} _ name v :=
    { length := Nat.le_of_eq (length_assign s id name v).symm
      stage := fun j _ => stageOf_assign s id j name v
      registered := fun n j hj => by
        rw [registered?, registry_assign] at hj
        exact .inl hj }
  attached h _ _ _ _ _ := h.trans (Concludes.setMember ..)
  setClasses _ := ⟨Nat.le_refl _, fun _ _ => rfl, fun _ _ hid => .inl hid⟩
  completed {s t m} new h :=
    { length := by
        rw [length_setStage]
        exact Nat.le_of_lt h.length_of_add
      stage := fun id hid => h.stage_of_add .completed hid
      registered := fun name id hid => by
        have hself := stageOf_setStage_self .completed h.length_of_add
        -- Of what the body has not settled only the module itself is left, and that completes now.
        by_cases hown : id = s.modules.length
        · exact .inr ⟨Nat.le_of_eq hown.symm, hown ▸ hself⟩
        by_cases hname : name = m.name
        · rcases h.registered name id hid with hadd | ⟨hnew, hdone⟩
          · rw [registered_add, if_pos hname.symm] at hadd
            cases hadd
            exact absurd rfl hown
          · rw [length_add] at hnew
            exact .inr ⟨Nat.le_of_lt hnew, by rwa [stageOf_setStage_of_ne (Ne.symm hown)]⟩
        · rcases h.registered_of_add hid hname with hs | ⟨hnew, hdone⟩
          · exact .inl hs
          · exact .inr ⟨Nat.le_of_lt hnew, by rwa [stageOf_setStage_of_ne (Ne.symm hown)]⟩ }
  failed {s t m} new h f :=
    { length := by
        have hlen := length_setStage t s.modules.length (.failed f)
        exact Nat.le_of_lt (Nat.lt_of_lt_of_eq h.length_of_add hlen.symm)
      stage := fun id hid => h.stage_of_add (.failed f) hid
      registered := fun name id hid => by
        have hremoved : (t.registry.remove m.name).get? name = some id := hid
        rw [OrderedMap.get?_remove] at hremoved
        split at hremoved
        · cases hremoved
        · rename_i hname
          rcases h.registered_of_add hremoved (Ne.symm hname) with hs | ⟨hnew, hdone⟩
          · exact .inl hs
          · refine .inr ⟨Nat.le_of_lt hnew, ?_⟩
            exact (stageOf_setStage_of_ne (Nat.ne_of_lt hnew) _).trans hdone }
  stays _ _ := trivial
  running _ _ _ := trivial

end ModuleSpace
end ResourceLookup
