import ResourceLookup.Proofs.Chain.BrokenModule
import ResourceLookup.Proofs.Chain.FirstHolder

/-!
# The two spellings of a class

A class is named by its module and its own name, with a full stop between them or a colon. Looking
it up splits the two spellings alike, so that what is found, what is run for it and what it fails
with differ in the name alone that a fault quotes. A package alone looks at the name as it is
spelled, and has nothing under a colon that lies in its own module.
-/

namespace ResourceLookup

/-! ## Results that differ in a quoted name -/

inductive Fault.ButName (n n' : Text) : Fault → Fault → Prop
  | same (f : Fault) : ButName n n' f f
  | classLink (cause : Fault) : ButName n n' (.classLink n cause) (.classLink n' cause)
  | classNotFound : ButName n n' (.classNotFound n) (.classNotFound n')

section Agree

variable {σ α α' β β' : Type} {n n' : Text} {A : α → α' → Prop} {B : β → β' → Prop}
  {R : σ → σ → Prop}

/-- The results are both answers or both faults, these the same but for the names. -/
inductive Agree (n n' : Text) (A : α → α' → Prop) (R : σ → σ → Prop) :
    EStateM.Result Fault σ α → EStateM.Result Fault σ α' → Prop
  | ok {a : α} {a' : α'} {s s' : σ} (answers : A a a') (states : R s s') :
      Agree n n' A R (.ok a s) (.ok a' s')
  | error {f f' : Fault} {s s' : σ} (faults : f.ButName n n' f') (states : R s s') :
      Agree n n' A R (.error f s) (.error f' s')

theorem Agree.refl (n n' : Text) (x : EStateM.Result Fault σ α) : Agree n n' Eq Eq x x := by
  cases x with
  | ok a s => exact .ok rfl rfl
  | error f s => exact .error (.same f) rfl

theorem Agree.bind {x : EStateM Fault σ α} {y : EStateM Fault σ α'} {k : α → EStateM Fault σ β}
    {l : α' → EStateM Fault σ β'} {s t : σ} (h : Agree n n' A R (x s) (y t))
    (hk : ∀ a a' s' t', A a a' → R s' t' → Agree n n' B R (k a s') (l a' t')) :
    Agree n n' B R ((x >>= k) s) ((y >>= l) t) := by
  simp only [Bind.bind, EStateM.bind]
  generalize x s = p at h ⊢
  generalize y t = q at h ⊢
  cases h with
  | ok answers states => exact hk _ _ _ _ answers states
  | error faults states => exact .error faults states

theorem Agree.of_ok {a : α} {s : σ} {y : EStateM.Result Fault σ α'}
    (h : Agree n n' A R (.ok a s) y) : ∃ a' s', y = .ok a' s' ∧ A a a' ∧ R s s' := by
  cases h with
  | ok answers states => exact ⟨_, _, rfl, answers, states⟩

theorem Agree.mono {S : σ → σ → Prop} {x : EStateM.Result Fault σ α}
    {y : EStateM.Result Fault σ α'} (h : Agree n n' A R x y) (hS : ∀ s t, R s t → S s t) :
    Agree n n' A S x y := by
  cases h with
  | ok answers states => exact .ok answers (hS _ _ states)
  | error faults states => exact .error faults (hS _ _ states)

theorem Agree.bind_same {x : EStateM Fault σ α} {k l : α → EStateM Fault σ β} {s : σ}
    (hk : ∀ a t, Agree n n' Eq Eq (k a t) (l a t)) :
    Agree n n' Eq Eq ((x >>= k) s) ((x >>= l) s) := by
  refine Agree.bind (Agree.refl n n' (x s)) ?_
  rintro a _ t _ rfl rfl
  exact hk a t

end Agree

/-! ## Spellings -/

def dotted (m a : Text) : Text := m ++ 0x2E :: a

def coloned (m a : Text) : Text := m ++ 0x3A :: a

section Spelled

variable {m a p : Text}

theorem splitClassName_dotted (hm : 0x3A ∉ m) (hdot : 0x2E ∉ a) (hcolon : 0x3A ∉ a) :
    splitClassName (dotted m a) = (m, a) := by
  have hnone : (dotted m a).cutFirst 0x3A = none := by
    rw [Text.cutFirst_eq_none_iff, dotted, List.mem_append, List.mem_cons]
    rintro (h | h | h)
    · exact hm h
    · cases h
    · exact hcolon h
  rw [splitClassName, hnone, dotted, Text.cutLast_append hdot]

theorem splitClassName_coloned (hm : 0x3A ∉ m) (a : Text) :
    splitClassName (coloned m a) = (m, a) := by
  rw [splitClassName, coloned, Text.cutFirst_append hm]

theorem concat_isPrefixOf_spelled {c : Nat} (hdot : 0x2E ∉ a) :
    (p ++ [0x2E]).isPrefixOf (m ++ c :: a) ↔ p ++ [0x2E] <+: m ∨ p = m ∧ c = 0x2E := by
  rw [List.isPrefixOf_iff_prefix]
  constructor
  · intro h
    rcases List.prefix_or_prefix_of_prefix h (List.prefix_append m (c :: a)) with hp | ⟨t, ht⟩
    · exact .inl hp
    · cases t using List.reverseRecOn with
      | nil =>
        rw [List.append_nil] at ht
        exact .inl (ht ▸ List.prefix_rfl)
      | append_singleton t d =>
        -- The full stop at the end of `p` lies beyond the module, where there is at most one.
        rw [← List.append_assoc] at ht
        obtain ⟨rfl, -⟩ := List.append_inj' ht rfl
        rw [List.append_assoc, List.prefix_append_right_inj] at h
        cases t with
        | nil =>
          have hc := (List.cons_prefix_cons.1 h).1
          exact .inr ⟨List.append_nil m, hc.symm⟩
        | cons e t =>
          have ht := (List.cons_prefix_cons.1 h).2
          exact absurd (ht.subset (by simp)) hdot
  · rintro (h | ⟨rfl, rfl⟩)
    · exact h.trans (List.prefix_append m (c :: a))
    · exact ⟨a, by simp⟩

theorem isPrefixOf_spelled_iff {p : Text} (hp : p ≠ m) (hdot : 0x2E ∉ a) :
    (p ++ [0x2E]).isPrefixOf (dotted m a) ↔ (p ++ [0x2E]).isPrefixOf (coloned m a) := by
  rw [dotted, coloned, concat_isPrefixOf_spelled hdot, concat_isPrefixOf_spelled hdot]
  simp [hp]

end Spelled

namespace Import

variable {around : Surroundings} {n n' : Text}

theorem executeLinked_agree (m : Module) (code : Code) (s : ModuleSpace) :
    Agree n n' Eq Eq (executeLinked around n m code s)
      (executeLinked around n' m code s) := by
  rw [executeLinked, executeLinked]
  cases execute (importModule around around.nestingLimit) Fault.isOrdinary m code s with
  | ok id s' => exact .ok rfl rfl
  | error f s' =>
    refine .error ?_ rfl
    cases f.isOrdinary with
    | true => exact .classLink f
    | false => exact .same f

theorem loadLinked_agree (name : Text) (path : List Text) (s : ModuleSpace) :
    Agree n n' Eq Eq (loadLinked around n name path s) (loadLinked around n' name path s) := by
  rw [loadLinked, loadLinked]
  refine Agree.bind_same fun found s => ?_
  cases found with
  | none => exact .refl n n' _
  | some found =>
    refine Agree.bind_same fun made s => ?_
    refine Agree.bind (executeLinked_agree made.1 made.2 s) ?_
    rintro id _ t _ rfl rfl
    exact .refl n n' _

theorem stepTo_agree (name : Text) (path : Option (List Text)) (s : ModuleSpace) :
    Agree n n' Eq Eq (stepTo around n name path s) (stepTo around n' name path s) := by
  cases h : s.registered? name with
  | some id =>
    rw [stepTo_registered h, stepTo_registered h]
    exact .refl n n' _
  | none =>
    cases path with
    | none =>
      rw [stepTo_ended h, stepTo_ended h]
      exact .refl n n' _
    | some entries =>
      rw [stepTo_anew h, stepTo_anew h]
      exact loadLinked_agree name entries s

theorem walk_agree (done : Text) (path : Option (List Text)) (last : Option ModuleId)
    (parts : List Text) (s : ModuleSpace) :
    Agree n n' Eq Eq (walk around n done path last parts s)
      (walk around n' done path last parts s) := by
  induction parts generalizing done path last s with
  | nil => exact .refl n n' _
  | cons part rest ih =>
    rw [walk_cons, walk_cons]
    refine Agree.bind (stepTo_agree _ path s) ?_
    rintro found _ t _ rfl rfl
    cases found with
    | none => exact .refl n n' _
    | some id => exact Agree.bind_same fun entries u => ih _ _ _ u

theorem loadUnder_agree (hsplit : splitClassName n = splitClassName n') (path : List Text)
    (s : ModuleSpace) :
    Agree n n' Eq Eq (loadUnder around n path s) (loadUnder around n' path s) := by
  rw [loadUnder, loadUnder, hsplit]
  simp only
  split
  · exact .refl n n' _
  · refine Agree.bind (walk_agree _ _ _ _ s) ?_
    rintro last _ t _ rfl rfl
    exact .refl n n' _

theorem importClass_agree (hsplit : splitClassName n = splitClassName n') (s : ModuleSpace) :
    Agree n n' Eq Eq (importClass around n s) (importClass around n' s) := by
  rw [importClass, importClass, hsplit]
  simp only
  split
  · exact .refl n n' _
  · cases importNamed around (splitClassName n').1 s with
    | ok id s' => exact .refl n n' _
    | error f s' =>
      simp only
      split
      · rcases isMissing s.objects (splitClassName n').1 f.subject with g | _ | _
        · exact .error (.same g) rfl
        · exact .error (.classLink f) rfl
        · exact .ok rfl rfl
      · split
        · exact .error (.classLink f) rfl
        · exact .error (.same f) rfl

end Import

namespace Lookup

variable {α : Type} {n n' : Text}

theorem importing_agree {f g : Surroundings → Import α}
    (h : ∀ around s, Agree n n' Eq Eq (f around s) (g around s)) (w : World) :
    Agree n n' Eq Eq (importing f w) (importing g w) := by
  have hw := h w.around w.modules
  rw [importing, importing]
  generalize f w.around w.modules = x at hw ⊢
  generalize g w.around w.modules = y at hw ⊢
  cases hw with
  | ok answers states =>
    subst answers states
    exact .ok rfl rfl
  | error faults states =>
    subst states
    exact .error faults rfl

end Lookup

/-! ## Resolvers -/

namespace Resolver

variable {m a : Text} {r : Resolver}

theorem loadClass_dotted_own (m a : Text) :
    (Resolver.package m).loadClass (dotted m a) =
      Lookup.importing fun around => Import.importClass around (dotted m a) := by
  have hown : (m ++ [0x2E]).isPrefixOf (dotted m a) := by
    rw [List.isPrefixOf_iff_prefix, dotted]
    exact ⟨a, by simp⟩
  rw [loadClass, if_pos hown]

theorem loadClass_coloned_own (hdot : 0x2E ∉ a) (m : Text) :
    (Resolver.package m).loadClass (coloned m a) = pure none := by
  have hnot : ¬(m ++ [0x2E]).isPrefixOf (coloned m a) := by
    rw [coloned, concat_isPrefixOf_spelled hdot]
    rintro (h | ⟨-, h⟩)
    · have hlength := h.length_le
      simp at hlength
    · cases h
  rw [loadClass, if_neg hnot]

theorem loadClass_agree (hr : r.BuiltIn) (hother : r ≠ .package m) (hm : 0x3A ∉ m)
    (hdot : 0x2E ∉ a) (hcolon : 0x3A ∉ a) (w : World) :
    Agree (dotted m a) (coloned m a) Eq Eq (r.loadClass (dotted m a) w)
      (r.loadClass (coloned m a) w) := by
  have hsplit : splitClassName (dotted m a) = splitClassName (coloned m a) :=
    (splitClassName_dotted hm hdot hcolon).trans (splitClassName_coloned hm a).symm
  have hunder (path : List Text) := Lookup.importing_agree
    (fun around => @Import.loadUnder_agree around _ _ hsplit path) w
  have hsystem := Lookup.importing_agree
    (fun around => @Import.importClass_agree around _ _ hsplit) w
  cases r with
  | mapping key =>
    rw [loadClass, loadClass]
    exact .refl _ _ _
  | place p =>
    rw [loadClass, loadClass]
    exact hunder _
  | entries list =>
    rw [loadClass, loadClass]
    exact hunder list
  | searchPath =>
    rw [loadClass, loadClass]
    exact hsystem
  | scripted key => exact absurd rfl (hr key)
  | package p =>
    have hp : p ≠ m := fun h => hother (congrArg Resolver.package h)
    rw [loadClass, loadClass]
    simp only [isPrefixOf_spelled_iff hp hdot]
    split
    · exact hsystem
    · exact .refl _ _ _

end Resolver

/-! ## Chains -/

def World.SameButLog (w v : World) : Prop := ∃ log, v = { w with log := log }

def Chain.SameAnswer {α : Type} (h h' : Option (Chain.Hit Resolver α)) : Prop :=
  h.map (fun x => (x.resolver, x.answer)) = h'.map fun x => (x.resolver, x.answer)

namespace Resolver

variable {m a : Text}

/-- What is found under a colon along some resolvers is what is found under a full stop along those
of them that are not the package itself. -/
theorem firstHit_agree (hm : 0x3A ∉ m) (hdot : 0x2E ∉ a) (hcolon : 0x3A ∉ a) {rs : List Resolver}
    (builtIn : ∀ r ∈ rs, r.BuiltIn) (w : World) :
    Agree (dotted m a) (coloned m a) Chain.SameAnswer Eq
      (Chain.firstHit (family.ask .loadClass)
        (Chain.attempts (rs.filter (· ≠ .package m)) [dotted m a]) w)
      (Chain.firstHit (family.ask .loadClass) (Chain.attempts rs [coloned m a]) w) := by
  induction rs generalizing w with
  | nil => exact .ok rfl rfl
  | cons r rs ih =>
    have hrs : ∀ q ∈ rs, q.BuiltIn := fun q hq => builtIn q (List.mem_cons_of_mem r hq)
    by_cases hr : r = .package m
    · -- It is left out on the one side, and answers nothing on the other.
      subst hr
      have hnone : family.ask .loadClass (.package m) (coloned m a) w = .ok none w := by
        rw [show family.ask .loadClass (.package m) (coloned m a) = _ from
          loadClass_coloned_own hdot m]
        rfl
      rw [List.filter_cons_of_neg (by simp)]
      change Agree _ _ _ _ _
        (Chain.firstHit _ ((.package m, coloned m a) :: Chain.attempts rs [coloned m a]) w)
      rw [Chain.firstHit_cons_none hnone]
      exact ih hrs w
    · rw [List.filter_cons_of_pos (by simpa using hr)]
      refine Agree.bind (loadClass_agree (builtIn r List.mem_cons_self) hr hm hdot hcolon w) ?_
      rintro found _ t _ rfl rfl
      cases found with
      | none => exact ih hrs t
      | some id => exact .ok rfl rfl

end Resolver

namespace Along

variable {m a : Text} {c : Along Resolver} {w : World}

theorem resolveClass_agree (hm : 0x3A ∉ m) (hdot : 0x2E ∉ a) (hcolon : 0x3A ∉ a)
    (builtIn : ∀ r ∈ c.resolvers w.settings, r.BuiltIn)
    (notOwn : .package m ∉ c.resolvers w.settings) :
    Agree (dotted m a) (coloned m a) Eq World.SameButLog (c.resolveClass (dotted m a) w)
      (c.resolveClass (coloned m a) w) := by
  have hall : (c.resolvers w.settings).filter (· ≠ .package m) = c.resolvers w.settings := by
    rw [List.filter_eq_self]
    rintro r hr
    simp only [decide_eq_true_eq]
    rintro rfl
    exact notOwn hr
  have hfirst := Resolver.firstHit_agree hm hdot hcolon builtIn w
  rw [hall] at hfirst
  have hstates : ∀ s t : World, s = t → s.SameButLog t := fun s t hst => ⟨s.log, hst ▸ rfl⟩
  rw [resolveClass, resolveClass, Family.resolve, Family.resolve]
  change Agree _ _ _ _ ((Chain.firstHit (Resolver.family.ask .loadClass)
      (Chain.attempts (c.resolvers w.settings) [dotted m a]) >>= _) w)
    ((Chain.firstHit (Resolver.family.ask .loadClass)
      (Chain.attempts (c.resolvers w.settings) [coloned m a]) >>= _) w)
  refine Agree.bind (hfirst.mono hstates) ?_
  rintro hit hit' s _ hsame ⟨log, rfl⟩
  cases hit with
  | none =>
    cases hit' with
    | none => exact .ok rfl ⟨_, rfl⟩
    | some x => cases hsame
  | some x =>
    cases hit' with
    | none => cases hsame
    | some y =>
      have hanswer : x.answer = y.answer := congrArg Prod.snd (Option.some.inj hsame)
      exact .ok (congrArg some hanswer) ⟨_, rfl⟩

theorem loadClass_agree (hm : 0x3A ∉ m) (hdot : 0x2E ∉ a) (hcolon : 0x3A ∉ a)
    (builtIn : ∀ r ∈ c.resolvers w.settings, r.BuiltIn)
    (notOwn : .package m ∉ c.resolvers w.settings) :
    Agree (dotted m a) (coloned m a) Eq World.SameButLog (Access.loadClass c (dotted m a) w)
      (Access.loadClass c (coloned m a) w) := by
  refine Agree.bind (resolveClass_agree hm hdot hcolon builtIn notOwn) ?_
  rintro found _ s t rfl hst
  cases found with
  | none => exact .error .classNotFound hst
  | some id => exact .ok rfl hst

end Along

namespace Resolver

/-- Both spellings name one class of one module, and every built-in resolver answers alike under
them, but for the package that is the module itself: it has nothing under the colon. So along any
resolvers a lookup with the colon is one with the full stop along those that are not that package,
and along a chain without it the two spellings come to the same. -/
theorem spellings_agree {m a : Text} (hm : 0x3A ∉ m) (hdot : 0x2E ∉ a) (hcolon : 0x3A ∉ a) :
    (splitClassName (dotted m a) = (m, a) ∧ splitClassName (coloned m a) = (m, a)) ∧
    (∀ r : Resolver, r.BuiltIn → r ≠ .package m → ∀ w,
      Agree (dotted m a) (coloned m a) Eq Eq (r.loadClass (dotted m a) w)
        (r.loadClass (coloned m a) w)) ∧
    (∀ w,
      (Resolver.package m).loadClass (dotted m a) w =
        Resolver.searchPath.loadClass (dotted m a) w ∧
      (Resolver.package m).loadClass (coloned m a) w = .ok none w) ∧
    (∀ rs : List Resolver, (∀ r ∈ rs, r.BuiltIn) → ∀ w,
      Agree (dotted m a) (coloned m a) Chain.SameAnswer Eq
        (Chain.firstHit (family.ask .loadClass)
          (Chain.attempts (rs.filter (· ≠ .package m)) [dotted m a]) w)
        (Chain.firstHit (family.ask .loadClass) (Chain.attempts rs [coloned m a]) w)) ∧
    ∀ (c : Along Resolver) (w : World), (∀ r ∈ c.resolvers w.settings, r.BuiltIn) →
      .package m ∉ c.resolvers w.settings →
      Agree (dotted m a) (coloned m a) Eq World.SameButLog (c.resolveClass (dotted m a) w)
          (c.resolveClass (coloned m a) w) ∧
        Agree (dotted m a) (coloned m a) Eq World.SameButLog (Access.loadClass c (dotted m a) w)
          (Access.loadClass c (coloned m a) w) := by
  refine ⟨⟨splitClassName_dotted hm hdot hcolon, splitClassName_coloned hm a⟩, ?_, ?_, ?_, ?_⟩
  · exact fun r hr hother w => loadClass_agree hr hother hm hdot hcolon w
  · intro w
    rw [loadClass_dotted_own, loadClass_coloned_own hdot, loadClass]
    exact ⟨rfl, rfl⟩
  · exact fun rs builtIn w => firstHit_agree hm hdot hcolon builtIn w
  · exact fun c w builtIn notOwn => ⟨Along.resolveClass_agree hm hdot hcolon builtIn notOwn,
      Along.loadClass_agree hm hdot hcolon builtIn notOwn⟩

def ownClass : World := .startIn
  { tree :=
      [([text "a"], .directory), ([text "a", text "p"], .directory),
        ([text "a", text "p", text "__init__.py"],
          .file (.program [.classDef (.mk (text "C") [] [])]))]
    cwd := []
    searchPath := [text "/a"] }

theorem spellings_agree_ownClass :
    ∃ id v, Along.bySearchPath.resolveClass (text "p.C") ownClass = .ok (some id) v ∧
      ∃ u, Along.bySearchPath.resolveClass (text "p:C") ownClass = .ok (some id) u ∧
        v.SameButLog u := by
  obtain ⟨v, hv⟩ : ∃ v, Along.bySearchPath.resolveClass (text "p.C") ownClass = .ok (some 22) v :=
    exists_of_run (by cbv)
  obtain ⟨-, -, -, -, hchain⟩ :=
    @spellings_agree (text "p") (text "C") (by decide) (by decide) (by decide)
  have hresolvers : Along.bySearchPath.resolvers ownClass.settings = [.searchPath] := rfl
  obtain ⟨hagree, -⟩ := hchain Along.bySearchPath ownClass
    (by simp [hresolvers, BuiltIn]) (by simp [hresolvers])
  have hdotted : Along.bySearchPath.resolveClass (dotted (text "p") (text "C")) ownClass =
      .ok (some 22) v := hv
  rw [hdotted] at hagree
  obtain ⟨_, u, hu, rfl, hsame⟩ := hagree.of_ok
  exact ⟨22, v, hv, u, hu, hsame⟩

/-- A package does not have its own class under the colon. -/
theorem spellings_differ :
    ¬ ∀ (m a : Text) (r : Resolver) (w : World), m ≠ [] → 0x3A ∉ m → a ≠ [] → 0x2E ∉ a → 0x3A ∉ a →
      r.BuiltIn → Agree (dotted m a) (coloned m a) Eq Eq (r.loadClass (dotted m a) w)
        (r.loadClass (coloned m a) w) := by
  intro h
  have hagree := h (text "p") (text "C") (.package (text "p")) ownClass (by decide) (by decide)
    (by decide) (by decide) (by decide) (by simp [BuiltIn])
  obtain ⟨v, hdotted⟩ : ∃ v, (Resolver.package (text "p")).loadClass (dotted (text "p") (text "C"))
      ownClass = .ok (some 22) v := exists_of_run (by cbv)
  rw [hdotted, loadClass_coloned_own (by decide)] at hagree
  obtain ⟨_, _, hnone, rfl, -⟩ := hagree.of_ok
  cases hnone

end Resolver
end ResourceLookup
