import ResourceLookup.Charset

/-!
# Settings

Two settings are kept, the default resolver and the charset of texts, and a third one, the
ambient resolver, only for a while. An override holds until it is left, and the innermost
one of a setting counts, also where it says that there is none. Work apart from all others
sees the settings without any override.
-/

namespace ResourceLookup

inductive Override (ρ : Type)
  | defaultResolver (r : Option ρ)
  | ambientResolver (r : Option ρ)
  | textCharset (c : Option Text)
  deriving DecidableEq, Repr

namespace Override

variable {ρ : Type}

def defaultResolver? : Override ρ → Option (Option ρ)
  | defaultResolver r => some r
  | _ => none

def ambientResolver? : Override ρ → Option (Option ρ)
  | ambientResolver r => some r
  | _ => none

def textCharset? : Override ρ → Option (Option Text)
  | textCharset c => some c
  | _ => none

end Override

structure Settings (ρ : Type) where
  defaultResolver : Option ρ
  textCharset : Option Text
  /-- The innermost override comes first. -/
  overrides : List (Override ρ)
  deriving DecidableEq, Repr

namespace Settings

variable {ρ : Type}

def start : Settings ρ := ⟨none, none, []⟩

def currentDefault (s : Settings ρ) : Option ρ :=
  (s.overrides.findSome? Override.defaultResolver?).getD s.defaultResolver

def currentAmbient (s : Settings ρ) : Option ρ :=
  (s.overrides.findSome? Override.ambientResolver?).getD none

def currentCharset (s : Settings ρ) : Option Text :=
  (s.overrides.findSome? Override.textCharset?).getD s.textCharset

def enter (s : Settings ρ) (o : Override ρ) : Settings ρ := { s with overrides := o :: s.overrides }

def leave (s : Settings ρ) : Settings ρ := { s with overrides := s.overrides.tail }

def apart (s : Settings ρ) : Settings ρ := { s with overrides := [] }

theorem leave_enter (s : Settings ρ) (o : Override ρ) : (s.enter o).leave = s := rfl

end Settings
end ResourceLookup
