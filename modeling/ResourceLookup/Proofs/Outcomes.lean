import ResourceLookup.Text

/-!
# What work ends in

Work on a state ends in an answer or a fault, and either way it leaves a state. Where one piece of
work follows another, the fault of the first one ends them both.
-/

namespace ResourceLookup

variable {ε σ α β : Type} {f : EStateM ε σ α} {k : α → EStateM ε σ β} {s s' : σ} {a : α} {e : ε}

def after (f : EStateM ε σ α) (s : σ) : σ :=
  match f s with
  | .ok _ s' => s'
  | .error _ s' => s'

theorem after_ok (h : f s = .ok a s') : after f s = s' := by
  rw [after, h]

theorem after_error (h : f s = .error e s') : after f s = s' := by
  rw [after, h]

theorem get_bind_apply (k : σ → EStateM ε σ α) (s : σ) :
    ((get : EStateM ε σ σ) >>= k) s = k s s := rfl

theorem set_bind_apply (s' : σ) (k : PUnit → EStateM ε σ α) (s : σ) :
    ((set s' : EStateM ε σ PUnit) >>= k) s = k ⟨⟩ s' := rfl

theorem bind_ok (h : f s = .ok a s') : (f >>= k) s = k a s' := by
  simp only [Bind.bind, EStateM.bind, h]

theorem bind_error (h : f s = .error e s') : (f >>= k) s = .error e s' := by
  simp only [Bind.bind, EStateM.bind, h]

theorem ok_of_bind {b : β} (h : (f >>= k) s = .ok b s') :
    ∃ a s₁, f s = .ok a s₁ ∧ k a s₁ = .ok b s' := by
  cases hf : f s with
  | ok a s₁ =>
    rw [bind_ok hf] at h
    exact ⟨a, s₁, rfl, h⟩
  | error e s₁ =>
    rw [bind_error hf] at h
    cases h

theorem exists_of_run (h : EStateM.run' f s = some a) : ∃ s', f s = .ok a s' := by
  unfold EStateM.run' EStateM.run at h
  cases hf : f s with
  | error e s' =>
    rw [hf] at h
    cases h
  | ok a' s' =>
    rw [hf] at h
    cases h
    exact ⟨s', rfl⟩

end ResourceLookup
