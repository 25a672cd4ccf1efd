import ResourceLookup.Path

/-!
# Resource names

A name is read as parts below a root. An absolute name, one that would climb out of the
root, and one without any part have none. A name and its alternate form differ in one
leading slash.
-/

namespace ResourceLookup.ResourceName

def parts? (name : Text) : Option (List Text) :=
  if name.head? = none ∨ name.head? = some Path.slash then none
  else
    let parts := Path.partsOf name
    if parts = [] ∨ Path.dotDot ∈ parts then none else some parts

/-- The name without its leading slash, or with one where it has none. -/
def alternate : Text → Text
  | [] => [Path.slash]
  | c :: r => if c = Path.slash then r else Path.slash :: c :: r

theorem alternate_alternate {name : Text} (h : ¬[Path.slash, Path.slash] <+: name) :
    alternate (alternate name) = name := by
  match name with
  | [] => rfl
  | [c] => by_cases hc : c = Path.slash <;> simp [alternate, hc]
  | c :: d :: r =>
    by_cases hc : c = Path.slash
    · have hd : d ≠ Path.slash := fun hd => h ⟨r, by simp [hc, hd]⟩
      simp [alternate, hc, hd]
    · simp [alternate, hc]

end ResourceLookup.ResourceName
