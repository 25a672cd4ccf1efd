import ResourceLookup.Chain

/-!
# Which resolvers a lookup asks

Resolvers may do anything when they are asked: change what they share, set another default
resolver, answer, answer nothing, or fail. A family that also keeps a list of the calls made shows
in which order they are asked. In every run of lookups each of them calls the resolvers of the five
slots, as these stood when it began, each with every form of the name, and makes no call after the
first that answers or fails.
-/

namespace ResourceLookup

variable {ρ σ ε : Type} {α : Request → Type}

structure Query (ρ : Type) where
  request : Request
  along : Along ρ
  name : Text
  deriving DecidableEq, Repr

namespace Query

def sequence (q : Query ρ) (settings : Settings ρ) : List ρ :=
  q.along.explicit.toList ++ settings.currentDefault.toList ++ settings.currentAmbient.toList ++
    q.along.fallbacks.own.toList ++ q.along.fallbacks.system.toList

def plan (q : Query ρ) (settings : Settings ρ) : List (ρ × Text) :=
  match q.request with
  | .loadClass => (q.sequence settings).map fun r => (r, q.name)
  | _ => (q.sequence settings).flatMap fun r => [(r, q.name), (r, ResourceName.alternate q.name)]

theorem sequence_eq_resolvers (q : Query ρ) (settings : Settings ρ) :
    q.sequence settings = q.along.resolvers settings := by
  simp only [sequence, Along.resolvers, Slots.ofSettings, Slots.toList]
  cases q.along.explicit <;> cases settings.currentDefault <;> cases settings.currentAmbient <;>
    cases q.along.fallbacks.own <;> cases q.along.fallbacks.system <;> rfl

theorem plan_eq_attempts (q : Query ρ) (settings : Settings ρ) :
    q.plan settings = Chain.attempts (q.along.resolvers settings) (q.request.forms q.name) := by
  have hs := q.sequence_eq_resolvers settings
  obtain ⟨request, c, name⟩ := q
  cases request <;> simp [plan, hs, Chain.attempts, Request.forms, List.map_eq_flatMap]

end Query

abbrev Call (ρ : Type) := Request × ρ × Text

namespace Family

/-- The family that also keeps a list of the calls made. -/
def recorded (F : Family ρ σ ε α) : Family ρ (σ × List (Call ρ)) ε α where
  settings s := F.settings s.1
  ask request r n s :=
    match F.ask request r n s.1 with
    | .ok a s' => .ok a (s', s.2 ++ [(request, r, n)])
    | .error e s' => .error e (s', s.2 ++ [(request, r, n)])
  note request n s := (F.note request n s.1, s.2)

def frozen (F : Family ρ σ ε α) (s : σ) : Family ρ σ ε α :=
  { F with settings := fun _ => F.settings s }

def answer (F : Family ρ σ ε α) (q : Query ρ) (s : σ) :
    Except ε (Option (α q.request)) × σ :=
  match F.resolve q.request q.along q.name s with
  | .ok a s' => (.ok a, s')
  | .error e s' => (.error e, s')

abbrev Outcome (ε : Type) (α : Request → Type) := (request : Request) × Except ε (Option (α request))

def run (F : Family ρ σ ε α) : List (Query ρ) → σ → List (Outcome ε α) × σ
  | [], s => ([], s)
  | q :: qs, s =>
    (⟨q.request, (F.answer q s).1⟩ :: (F.run qs (F.answer q s).2).1, (F.run qs (F.answer q s).2).2)

inductive Silent (F : Family ρ σ ε α) (request : Request) : List (ρ × Text) → σ → σ → Prop
  | nil (s : σ) : F.Silent request [] s s
  | cons {r : ρ} {n : Text} {calls : List (ρ × Text)} {s s' s'' : σ}
    (head : F.ask request r n s = .ok none s') (tail : F.Silent request calls s' s'') :
    F.Silent request ((r, n) :: calls) s s''

/-- A lookup that begins in state `s` makes these calls, ends so, and leaves the last state. -/
inductive Consults (F : Family ρ σ ε α) (q : Query ρ) (s : σ) :
    List (ρ × Text) → Except ε (Option (α q.request)) → σ → Prop
  | exhausted {s' : σ} (silent : F.Silent q.request (q.plan (F.settings s)) s s') :
    F.Consults q s (q.plan (F.settings s)) (.ok none)
      (F.note q.request (.miss q.name (q.sequence (F.settings s)).length) s')
  | answered {before rest : List (ρ × Text)} {r : ρ} {n : Text} {a : α q.request} {s' s'' : σ}
    (plan : q.plan (F.settings s) = before ++ (r, n) :: rest)
    (silent : F.Silent q.request before s s') (last : F.ask q.request r n s' = .ok (some a) s'') :
    F.Consults q s (before ++ [(r, n)]) (.ok (some a)) (F.note q.request (.hit r n) s'')
  | failed {before rest : List (ρ × Text)} {r : ρ} {n : Text} {e : ε} {s' s'' : σ}
    (plan : q.plan (F.settings s) = before ++ (r, n) :: rest)
    (silent : F.Silent q.request before s s') (last : F.ask q.request r n s' = .error e s'') :
    F.Consults q s (before ++ [(r, n)]) (.error e) s''

/-- A run whose lookups each follow the settings of the state in which they begin. -/
inductive Follows (F : Family ρ σ ε α) :
    σ → List (Query ρ) → List (Call ρ) → List (Outcome ε α) → σ → Prop
  | nil (s : σ) : F.Follows s [] [] [] s
  | cons {s s' s'' : σ} {q : Query ρ} {qs : List (Query ρ)} {asked : List (ρ × Text)}
    {o : Except ε (Option (α q.request))} {calls : List (Call ρ)} {os : List (Outcome ε α)}
    (head : F.Consults q s asked o s') (tail : F.Follows s' qs calls os s'') :
    F.Follows s (q :: qs) (asked.map (q.request, ·) ++ calls) (⟨q.request, o⟩ :: os) s''

/-! ## One lookup -/

theorem Silent.recorded {F : Family ρ σ ε α} {request : Request} {calls : List (ρ × Text)}
    {s s' : σ} (h : F.Silent request calls s s') (made : List (Call ρ)) :
    F.recorded.Silent request calls (s, made) (s', made ++ calls.map (request, ·)) := by
  induction h generalizing made with
  | nil s => simpa using Silent.nil (s, made)
  | @cons r n calls s s' s'' head tail ih =>
    have hr : F.recorded.ask request r n (s, made) = .ok none (s', made ++ [(request, r, n)]) := by
      simp [Family.recorded, head]
    simpa using Silent.cons hr (ih (made ++ [(request, r, n)]))

theorem Silent.firstHit {F : Family ρ σ ε α} {request : Request} {calls : List (ρ × Text)}
    {s s' : σ} (h : F.Silent request calls s s') (rest : List (ρ × Text)) :
    Chain.firstHit (F.ask request) (calls ++ rest) s = Chain.firstHit (F.ask request) rest s' := by
  induction h with
  | nil s => rfl
  | cons head tail ih => rw [List.cons_append, Chain.firstHit_cons_none head, ih]

theorem Silent.append {F : Family ρ σ ε α} {request : Request} {calls rest : List (ρ × Text)}
    {s s' s'' : σ} (h : F.Silent request calls s s') (h' : F.Silent request rest s' s'') :
    F.Silent request (calls ++ rest) s s'' := by
  induction h with
  | nil s => exact h'
  | cons head tail ih => exact .cons head (ih h')

theorem silent_or_stops (F : Family ρ σ ε α) (request : Request) (plan : List (ρ × Text)) (s : σ) :
    (∃ s', F.Silent request plan s s') ∨
      ∃ before r n rest s', plan = before ++ (r, n) :: rest ∧ F.Silent request before s s' ∧
        ∀ s'', F.ask request r n s' ≠ .ok none s'' := by
  induction plan generalizing s with
  | nil => exact Or.inl ⟨s, .nil s⟩
  | cons p plan ih =>
    obtain ⟨r, n⟩ := p
    by_cases h : ∃ s', F.ask request r n s = .ok none s'
    · obtain ⟨s', h⟩ := h
      rcases ih s' with ⟨s'', hs⟩ | ⟨before, r', n', rest, s'', hp, hs, hstop⟩
      · exact Or.inl ⟨s'', .cons h hs⟩
      · exact Or.inr ⟨(r, n) :: before, r', n', rest, s'', by rw [hp]; rfl, .cons h hs, hstop⟩
    · exact Or.inr ⟨[], r, n, plan, s, rfl, .nil s, fun s' hs => h ⟨s', hs⟩⟩

def concluded (F : Family ρ σ ε α) (q : Query ρ) (asked : Nat) :
    EStateM.Result ε σ (Option (Chain.Hit ρ (α q.request))) → Except ε (Option (α q.request)) × σ
  | .ok (some hit) s => (.ok (some hit.answer), F.note q.request (.hit hit.resolver hit.form) s)
  | .ok none s => (.ok none, F.note q.request (.miss q.name asked) s)
  | .error e s => (.error e, s)

theorem answer_eq_concluded (F : Family ρ σ ε α) (q : Query ρ) (s : σ) :
    F.answer q s =
      F.concluded q (q.sequence (F.settings s)).length
        (Chain.firstHit (F.ask q.request) (q.plan (F.settings s)) s) := by
  rw [Query.plan_eq_attempts, Query.sequence_eq_resolvers]
  have hget : (get : EStateM ε σ σ) s = .ok s s := rfl
  simp only [answer, resolve, bind, EStateM.bind, hget]
  cases Chain.firstHit (F.ask q.request)
    (Chain.attempts (q.along.resolvers (F.settings s)) (q.request.forms q.name)) s with
  | error e s' => rfl
  | ok hit s' => cases hit <;> rfl

/-- A lookup makes its calls in order up to the first that answers or fails. The recorded family
answers likewise and has these calls in its list. -/
theorem answer_consults (F : Family ρ σ ε α) (q : Query ρ) (s : σ) (made : List (Call ρ)) :
    ∃ asked, F.Consults q s asked (F.answer q s).1 (F.answer q s).2 ∧
      F.recorded.answer q (s, made) =
        ((F.answer q s).1, (F.answer q s).2, made ++ asked.map (q.request, ·)) := by
  have hm := F.recorded.answer_eq_concluded q (s, made)
  change F.recorded.answer q (s, made) = F.recorded.concluded q (q.sequence (F.settings s)).length
    (Chain.firstHit (F.recorded.ask q.request) (q.plan (F.settings s)) (s, made)) at hm
  rw [hm, answer_eq_concluded]
  rcases F.silent_or_stops q.request (q.plan (F.settings s)) s with
    ⟨s', hs⟩ | ⟨before, r, n, rest, s', hp, hs, hstop⟩
  · have hf := hs.firstHit []
    have hg := (hs.recorded made).firstHit []
    rw [List.append_nil] at hf hg
    rw [hf, hg]
    exact ⟨_, .exhausted hs, rfl⟩
  · have hf := hs.firstHit ((r, n) :: rest)
    have hg := (hs.recorded made).firstHit ((r, n) :: rest)
    rw [← hp] at hf hg
    rw [hf, hg]
    refine ⟨before ++ [(r, n)], ?_⟩
    cases h : F.ask q.request r n s' with
    | error e s'' =>
      have hr : F.recorded.ask q.request r n (s', made ++ before.map (q.request, ·)) =
          .error e (s'', made ++ before.map (q.request, ·) ++ [(q.request, r, n)]) := by
        simp [recorded, h]
      rw [Chain.firstHit_cons_error h, Chain.firstHit_cons_error hr]
      exact ⟨.failed hp hs h, by simp [concluded]⟩
    | ok found s'' =>
      have hr : F.recorded.ask q.request r n (s', made ++ before.map (q.request, ·)) =
          .ok found (s'', made ++ before.map (q.request, ·) ++ [(q.request, r, n)]) := by
        simp [recorded, h]
      cases found with
      | none => exact absurd h (hstop s'')
      | some a =>
        rw [Chain.firstHit_cons_some h, Chain.firstHit_cons_some hr]
        exact ⟨.answered hp hs h, by simp [concluded, recorded]⟩

/-! ## Runs of lookups -/

/-- In every run each lookup asks the resolvers of the slots as they stood when it began, in their
order and each with every form of the name, up to the first that answers or fails, which ends the
lookup; a lookup ends in the same way, after the same calls, when no resolver can change the
settings. -/
theorem run_follows (F : Family ρ σ ε α) (qs : List (Query ρ)) (s : σ) (made : List (Call ρ)) :
    (∃ calls, F.recorded.run qs (s, made) =
        ((F.run qs s).1, (F.run qs s).2, made ++ calls) ∧
      F.Follows s qs calls (F.run qs s).1 (F.run qs s).2) ∧
    ∀ q, (F.recorded.frozen (s, made)).answer q (s, made) = F.recorded.answer q (s, made) := by
  refine ⟨?_, fun q => rfl⟩
  induction qs generalizing s made with
  | nil => exact ⟨[], by simp [run], .nil s⟩
  | cons q qs ih =>
    obtain ⟨asked, hc, hr⟩ := F.answer_consults q s made
    obtain ⟨calls, hrun, hf⟩ := ih (F.answer q s).2 (made ++ asked.map (q.request, ·))
    refine ⟨asked.map (q.request, ·) ++ calls, ?_, .cons hc hf⟩
    simp only [run, hr, hrun, List.append_assoc]

end Family
end ResourceLookup
