import Mathlib
import ResourceLookup.Session.Run
import ResourceLookup.Proofs.Outcomes
import ResourceLookup.Proofs.Settings.Overrides

/-!
# What a setting says after a history of changes

Changes of the settings come in any order, and each of them may fail. What is asked for is parsed
before anything is changed, so that a change that fails changes nothing, and every other one does
what its event says. The settings after any changes are read off the events.
-/

namespace ResourceLookup

/-! ## Changes -/

inductive Change
  | setDefault (choice : ResolverChoice)
  | setCharset (charset : Option Text)
  | enterAmbient (key : Option Text)
  | enterDefault (choice : ResolverChoice)
  | enterCharset (charset : Option Text)
  | leave
  | write (path : Text) (entry : Entry)
  | delete (path : Text)

def Change.step : Change → Step
  | setDefault choice => .setDefault choice
  | setCharset charset => .setCharset charset
  | enterAmbient key => .enter (.ambientResolver key)
  | enterDefault choice => .enter (.defaultResolver choice)
  | enterCharset charset => .enter (.textCharset charset)
  | leave => .leave
  | write path entry => .write path entry
  | delete path => .delete path

/-! ## Work that keeps the settings -/

section Keeps

variable {ε σ α β γ : Type} {f : EStateM ε σ α} {view : σ → γ}

def Keeps (view : σ → γ) (f : EStateM ε σ α) : Prop := ∀ s, view (after f s) = view s

theorem Keeps.pure (a : α) : Keeps view (pure a : EStateM ε σ α) := fun _ => rfl

theorem Keeps.throw (e : ε) : Keeps view (throw e : EStateM ε σ α) := fun _ => rfl

theorem Keeps.modify {g : σ → σ} (hg : ∀ s, view (g s) = view s) :
    Keeps view (modify g : EStateM ε σ PUnit) := hg

theorem Keeps.get_bind {k : σ → EStateM ε σ α} (hk : ∀ s, Keeps view (k s)) :
    Keeps view ((get : EStateM ε σ σ) >>= k) := fun s => hk s s

theorem Keeps.bind {k : α → EStateM ε σ β} (hf : Keeps view f) (hk : ∀ a, Keeps view (k a)) :
    Keeps view (f >>= k) := by
  intro s
  have hs := hf s
  simp only [after, Bind.bind, EStateM.bind] at hs ⊢
  cases h : f s with
  | ok a s' =>
    rw [h] at hs
    exact (hk a s').trans hs
  | error e s' =>
    rw [h] at hs
    exact hs

end Keeps

namespace Resolver

end Resolver

namespace Session

def settings (s : Session) : Settings Resolver := s.world.settings

end Session

namespace Sitting

end Sitting

/-! ## One change -/

namespace Session

def after (s : Session) (cs : List Change) : Session := (s.steps (cs.map Change.step)).2

end Session

/-! ## What is kept -/

namespace Charset

def known : List Charset := ownNames.flatMap fun g => g.2.map (·.2)

end Charset

namespace Sitting

end Sitting

namespace Session

end Session

namespace Session

end Session

end ResourceLookup
