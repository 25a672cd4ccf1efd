import Mathlib
import ResourceLookup.Settings

/-!
# Overrides that are open

What happened to the settings is a list of events. An override that was entered is open as long as
no more overrides were left since than entered. A setting says what its innermost open override
says, also where that says that there is none, and else what it was last set to.
-/

namespace ResourceLookup

/-! ## Events -/

inductive Event (ρ : Type)
  | setDefault (r : Option ρ)
  | setCharset (c : Option Text)
  | entered (o : Override ρ)
  | left
  /-- What was asked for could not be done. -/
  | failed
  /-- Something else than the settings was changed. -/
  | elsewhere

namespace Event

variable {ρ : Type}

def apply (s : Settings ρ) : Event ρ → Settings ρ
  | setDefault r => { s with defaultResolver := r }
  | setCharset c => { s with textCharset := c }
  | entered o => s.enter o
  | left => s.leave
  | failed | elsewhere => s

def deepens : Event ρ → Int
  | entered _ => 1
  | left => -1
  | _ => 0

end Event

namespace History

variable {ρ α : Type}

def depth (es : List (Event ρ)) : Int := (es.map Event.deepens).sum

variable {es : List (Event ρ)} {e : Event ρ} {i j k : Nat} {o p : Override ρ}
  {item : Override ρ → Option α} {a b : α}

end History

end ResourceLookup
