import ResourceLookup.ResourceName
import ResourceLookup.Settings

/-!
# The chain of resolvers

A lookup asks the resolvers of five slots in a fixed order: one given with the call, the
default one, the ambient one, the library's own and the system's. The settings are read
once, when the lookup begins. Each resolver is asked for every form of the name before the
next one, and the first answer ends the lookup; a fault ends it too.
-/

namespace ResourceLookup

inductive Request
  | openStream
  | findUrl
  | loadClass
  deriving DecidableEq, Repr

/-- The forms of a name in which it is asked for. The name of a class has one form only. -/
def Request.forms : Request → Text → List Text
  | loadClass, name => [name]
  | _, name => [name, ResourceName.alternate name]

structure Slots (ρ : Type) where
  explicit : Option ρ
  default : Option ρ
  ambient : Option ρ
  own : Option ρ
  system : Option ρ
  deriving DecidableEq, Repr

namespace Slots

variable {ρ : Type}

def toList (s : Slots ρ) : List ρ :=
  [s.explicit, s.default, s.ambient, s.own, s.system].filterMap id

def ofSettings (settings : Settings ρ) (own system explicit : Option ρ) : Slots ρ :=
  ⟨explicit, settings.currentDefault, settings.currentAmbient, own, system⟩

end Slots

structure Fallbacks (ρ : Type) where
  own : Option ρ
  system : Option ρ
  deriving DecidableEq, Repr

structure Along (ρ : Type) where
  fallbacks : Fallbacks ρ
  explicit : Option ρ
  deriving DecidableEq, Repr

def Along.resolvers {ρ : Type} (c : Along ρ) (settings : Settings ρ) : List ρ :=
  (Slots.ofSettings settings c.fallbacks.own c.fallbacks.system c.explicit).toList

namespace Chain

variable {ρ σ ε α : Type}

def attempts (resolvers : List ρ) (forms : List Text) : List (ρ × Text) :=
  resolvers.flatMap fun r => forms.map fun n => (r, n)

structure Hit (ρ α : Type) where
  resolver : ρ
  form : Text
  answer : α
  deriving DecidableEq, Repr

def firstHit (ask : ρ → Text → EStateM ε σ (Option α)) :
    List (ρ × Text) → EStateM ε σ (Option (Hit ρ α))
  | [] => pure none
  | (r, n) :: rest => do
    match ← ask r n with
    | some a => pure (some ⟨r, n, a⟩)
    | none => firstHit ask rest

theorem firstHit_cons_some {ask : ρ → Text → EStateM ε σ (Option α)} {r : ρ} {n : Text}
    {rest : List (ρ × Text)} {s s' : σ} {a : α} (h : ask r n s = .ok (some a) s') :
    firstHit ask ((r, n) :: rest) s = .ok (some ⟨r, n, a⟩) s' := by
  simp [firstHit, bind, EStateM.bind, h, pure, EStateM.pure]

theorem firstHit_cons_none {ask : ρ → Text → EStateM ε σ (Option α)} {r : ρ} {n : Text}
    {rest : List (ρ × Text)} {s s' : σ} (h : ask r n s = .ok none s') :
    firstHit ask ((r, n) :: rest) s = firstHit ask rest s' := by
  simp [firstHit, bind, EStateM.bind, h]

theorem firstHit_cons_error {ask : ρ → Text → EStateM ε σ (Option α)} {r : ρ} {n : Text}
    {rest : List (ρ × Text)} {s s' : σ} {e : ε} (h : ask r n s = .error e s') :
    firstHit ask ((r, n) :: rest) s = .error e s' := by
  simp [firstHit, bind, EStateM.bind, h]

end Chain

inductive Note (ρ : Type)
  | hit (r : ρ) (form : Text)
  | miss (name : Text) (asked : Nat)
  deriving DecidableEq, Repr

/-- Resolvers over a state that they share. Asking one of them may change the state and the
settings in it, and may end in a fault. -/
structure Family (ρ σ ε : Type) (α : Request → Type) where
  settings : σ → Settings ρ
  ask : (request : Request) → ρ → Text → EStateM ε σ (Option (α request))
  note : Request → Note ρ → σ → σ

def Family.resolve {ρ σ ε : Type} {α : Request → Type} (F : Family ρ σ ε α) (request : Request)
    (c : Along ρ) (name : Text) : EStateM ε σ (Option (α request)) := do
  let rs := c.resolvers (F.settings (← get))
  match ← Chain.firstHit (F.ask request) (Chain.attempts rs (request.forms name)) with
  | some hit =>
    modify (F.note request (.hit hit.resolver hit.form))
    pure (some hit.answer)
  | none =>
    modify (F.note request (.miss name rs.length))
    pure none

theorem Family.resolve_of_hit {ρ σ ε : Type} {α : Request → Type} {F : Family ρ σ ε α}
    {request : Request} {c : Along ρ} {name : Text} {s s' : σ} {hit : Chain.Hit ρ (α request)}
    (h : Chain.firstHit (F.ask request)
      (Chain.attempts (c.resolvers (F.settings s)) (request.forms name)) s = .ok (some hit) s') :
    F.resolve request c name s =
      .ok (some hit.answer) (F.note request (.hit hit.resolver hit.form) s') := by
  have hget : (get : EStateM ε σ σ) s = .ok s s := rfl
  simp only [resolve, bind, EStateM.bind, hget, h]
  rfl

theorem Family.resolve_of_miss {ρ σ ε : Type} {α : Request → Type} {F : Family ρ σ ε α}
    {request : Request} {c : Along ρ} {name : Text} {s s' : σ}
    (h : Chain.firstHit (F.ask request)
      (Chain.attempts (c.resolvers (F.settings s)) (request.forms name)) s = .ok none s') :
    F.resolve request c name s =
      .ok none (F.note request (.miss name (c.resolvers (F.settings s)).length) s') := by
  have hget : (get : EStateM ε σ σ) s = .ok s s := rfl
  simp only [resolve, bind, EStateM.bind, hget, h]
  rfl

theorem Family.resolve_of_error {ρ σ ε : Type} {α : Request → Type} {F : Family ρ σ ε α}
    {request : Request} {c : Along ρ} {name : Text} {s s' : σ} {e : ε}
    (h : Chain.firstHit (F.ask request)
      (Chain.attempts (c.resolvers (F.settings s)) (request.forms name)) s = .error e s') :
    F.resolve request c name s = .error e s' := by
  have hget : (get : EStateM ε σ σ) s = .ok s s := rfl
  simp only [resolve, bind, EStateM.bind, hget, h]

end ResourceLookup
