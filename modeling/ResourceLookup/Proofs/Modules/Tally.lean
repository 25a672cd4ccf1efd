import ResourceLookup.Proofs.Modules.Renewal

/-!
# Invariants of the registry

Work on the modules begins modules one after the other, each under a name that is then
registered, and takes names out again. What these three ways of changing the registry and the
number of modules keep is kept by all of the work.
-/

namespace ResourceLookup.Import

variable {around : Surroundings} {kept : Text → Prop} {α : Type}
variable {Q : OrderedMap Text ModuleId → Nat → Prop}

structure Tally (kept : Text → Prop) (Q : OrderedMap Text ModuleId → Nat → Prop) : Prop where
  registered_of_kept : ∀ g n, Q g n → ∀ name, kept name → (g.get? name).isSome
  add : ∀ g n, Q g n → ∀ name, ¬ kept name → Q (g.put name n) (n + 1)
  remove : ∀ g n, Q g n → ∀ name, ¬ kept name → Q (g.remove name) n

theorem Tally.invariant (q : Tally kept Q) :
    Invariant around kept 0 fun s => Q s.registry s.modules.length where
  fresh _ := Nat.zero_le _
  recognize hs e := by
    rcases ModuleSpace.recognize_cases around _ e with h | ⟨_, _, _, h⟩ <;> rw [h] <;> exact hs
  registered_of_kept hs := q.registered_of_kept _ _ hs
  packagePath {s} hs depth id := by
    have hb := bare_packagePath around depth id s
    have hr : (after (Import.packagePath around depth id) s).registry = s.registry :=
      congrArg (·.registry) hb
    rwa [hr, ModuleSpace.length_of_bare hb]
  add hs m hm := by
    simpa [ModuleSpace.add, ModuleSpace.register] using q.add _ _ hs m.name hm
  unregister hs := q.remove _ _ hs
  setStage hs id stage := by
    simpa [ModuleSpace.setStage, ModuleSpace.modifyModule] using hs
  setMember hs id n v := by
    simpa [ModuleSpace.setMember, ModuleSpace.modifyModule] using hs
  givePath hs id v _ := by
    simpa [ModuleSpace.givePath, ModuleSpace.modifyModule] using hs
  setClasses hs _ := hs

theorem Tally.begun (k : Nat) : Tally (fun _ => False) (fun _ n => k ≤ n) where
  registered_of_kept _ _ _ _ h := h.elim
  add _ _ h _ _ := Nat.le_succ_of_le h
  remove _ _ h _ _ := h

theorem Tally.registered (base : OrderedMap Text ModuleId) :
    Tally (fun n => (base.get? n).isSome)
      (fun g _ => ∀ n id, base.get? n = some id → g.get? n = some id) where
  registered_of_kept g _ h n hn := by
    obtain ⟨id, hid⟩ := Option.isSome_iff_exists.1 hn
    rw [h n id hid]
    rfl
  add g _ h name hname n id hid := by
    have hnone := Option.not_isSome_iff_eq_none.1 hname
    rw [OrderedMap.get?_put, if_neg (OrderedMap.ne_of_get? hnone hid)]
    exact h n id hid
  remove g _ h name hname n id hid := by
    have hnone := Option.not_isSome_iff_eq_none.1 hname
    rw [OrderedMap.get?_remove, if_neg (OrderedMap.ne_of_get? hnone hid)]
    exact h n id hid

def Works (around : Surroundings) (f : Import α) : Prop :=
  ∀ ⦃kept first R⦄, Lockstep around kept first R → Respects R f

theorem Works.keeps {f : Import α} (hf : Works around f) {first : Nat} {P : ModuleSpace → Prop}
    (i : Invariant around kept first P) {s : ModuleSpace} (hs : P s) : P (after f s) :=
  (hf i.lockstep).holds hs

theorem Works.length_le {f : Import α} (hf : Works around f) (s : ModuleSpace) :
    s.modules.length ≤ (after f s).modules.length :=
  hf.keeps (Tally.begun s.modules.length).invariant (Nat.le_refl _)

theorem Works.registered {f : Import α} (hf : Works around f) {s : ModuleSpace} {name : Text}
    {id : ModuleId} (h : s.registered? name = some id) :
    (after f s).registered? name = some id :=
  hf.keeps (Tally.registered s.registry).invariant (fun _ _ hn => hn) name id h

theorem Tally.runBody {imp : Text → Import ModuleId} (himp : ∀ name, Works around (imp name))
    (q : Tally kept Q) (id : ModuleId) (code : Code) {s : ModuleSpace}
    (hs : Q s.registry s.modules.length) :
    Q (after (Import.runBody imp id code) s).registry
      (after (Import.runBody imp id code) s).modules.length := by
  have L : Lockstep around kept 0 _ := q.invariant.lockstep
  exact (L.runBody (fun name => himp name L) (Nat.zero_le id) code).holds hs

theorem execute_registers {imp : Text → Import ModuleId} (himp : ∀ name, Works around (imp name))
    {undo : Fault → Bool} {m : Module} {code : Code} {s s' : ModuleSpace}
    {id : ModuleId} (h : execute imp undo m code s = .ok id s') : s'.registered? m.name = some id := by
  have hadd : (s.add m).2.registered? m.name = some (s.add m).1 := by
    rw [ModuleSpace.registered?, ModuleSpace.add, ModuleSpace.register, OrderedMap.get?_put,
      if_pos rfl]
  have hran := (Tally.registered (s.add m).2.registry).runBody himp (s.add m).1 code
    (fun _ _ hn => hn) _ _ hadd
  rw [execute] at h
  cases hr : runBody imp (s.add m).1 code (s.add m).2 with
  | error e s₁ => simp [hr] at h
  | ok a s₁ =>
    rw [after_ok hr] at hran
    simp only [hr] at h
    cases h
    exact hran

end ResourceLookup.Import

namespace ResourceLookup

def ModuleSpace.Sound (s : ModuleSpace) : Prop :=
  ∀ name id, s.registered? name = some id → id < s.modules.length

namespace Import

variable {around : Surroundings} {α : Type}

theorem Tally.sound :
    Tally (fun _ => False) (fun g n => ∀ name id, g.get? name = some id → id < n) where
  registered_of_kept _ _ _ _ h := h.elim
  add g n h name _ name' id hid := by
    rw [OrderedMap.get?_put] at hid
    split at hid
    · cases hid
      exact Nat.lt_succ_self n
    · exact Nat.lt_succ_of_lt (h name' id hid)
  remove g n h name _ name' id hid := by
    rw [OrderedMap.get?_remove] at hid
    split at hid
    · cases hid
    · exact h name' id hid

theorem Invariant.sound (around : Surroundings) :
    Invariant around (fun _ => False) 0 ModuleSpace.Sound := Tally.sound.invariant

theorem Works.sound {f : Import α} (hf : Works around f) {s : ModuleSpace} (hs : s.Sound) :
    (after f s).Sound :=
  hf.keeps (Invariant.sound around) hs

end Import

theorem ModuleSpace.start_sound : ModuleSpace.start.Sound := by
  intro name id h
  have hmem := OrderedMap.mem_of_get? h
  simp only [start, List.mem_cons, Prod.mk.injEq, List.not_mem_nil, or_false] at hmem
  rcases hmem with ⟨-, rfl⟩ | ⟨-, rfl⟩ | ⟨-, rfl⟩ | ⟨-, rfl⟩ | ⟨-, rfl⟩ <;>
    exact Nat.lt_of_sub_pos (by decide)

end ResourceLookup
