import ResourceLookup.Text

/-!
# Surrogates

A supplementary code point is written in sixteen-bit units as a high surrogate followed
by a low one. Texts may hold surrogates as code points of their own; `joinPairs` replaces
each high surrogate that stands directly before a low one by the code point they encode.
-/

namespace ResourceLookup.Text

def isHigh (c : Nat) : Bool := 0xD800 ≤ c && c ≤ 0xDBFF

def isLow (c : Nat) : Bool := 0xDC00 ≤ c && c ≤ 0xDFFF

def isSurrogate (c : Nat) : Bool := 0xD800 ≤ c && c ≤ 0xDFFF

def pair (high low : Nat) : Nat := 0x10000 + (high - 0xD800) * 0x400 + (low - 0xDC00)

def units (c : Nat) : List Nat :=
  if c < 0x10000 then [c]
  else [0xD800 + (c - 0x10000) / 0x400, 0xDC00 + (c - 0x10000) % 0x400]

def joinPairs : Text → Text
  | h :: l :: r =>
    if isHigh h && isLow l then pair h l :: joinPairs r else h :: joinPairs (l :: r)
  | [c] => [c]
  | [] => []

def HasPair : Text → Prop
  | h :: l :: r => (isHigh h ∧ isLow l) ∨ HasPair (l :: r)
  | _ => False

theorem pair_units {c : Nat} (low : 0x10000 ≤ c) :
    pair (0xD800 + (c - 0x10000) / 0x400) (0xDC00 + (c - 0x10000) % 0x400) = c := by
  unfold pair
  omega

theorem joinPairs_eq_self : ∀ {t : Text}, ¬HasPair t → joinPairs t = t
  | [], _ => rfl
  | [_], _ => rfl
  | a :: b :: r, h => by
    have hp : ¬(isHigh a && isLow b) = true := fun hc => h (Or.inl (Bool.and_eq_true_iff.1 hc))
    rw [joinPairs, if_neg hp, joinPairs_eq_self fun hr => h (Or.inr hr)]

theorem pair_supplementary (h l : Nat) : 0x10000 ≤ pair h l := by
  unfold pair
  omega

theorem pair_lt {h l : Nat} (high : isHigh h) (low : isLow l) : pair h l < 0x110000 := by
  simp only [isHigh, isLow, Bool.and_eq_true, decide_eq_true_eq] at high low
  unfold pair
  omega

theorem head_joinPairs {t r : Text} {c : Nat} (h : joinPairs t = c :: r) :
    t.head? = some c ∨ 0x10000 ≤ c := by
  fun_cases joinPairs t with
  | case1 h l r' hp =>
    rw [joinPairs, if_pos hp] at h
    exact .inr ((List.cons.inj h).1 ▸ pair_supplementary _ _)
  | case2 h l r' hp =>
    rw [joinPairs, if_neg hp] at h
    exact .inl (congrArg some (List.cons.inj h).1)
  | case3 c' => exact .inl (congrArg some (List.cons.inj h).1)
  | case4 => cases h

theorem not_hasPair_cons {h : Nat} {t : Text} (lone : ∀ l r, t = l :: r → ¬(isHigh h ∧ isLow l))
    (rest : ¬HasPair t) : ¬HasPair (h :: t) := by
  cases t with
  | nil => exact id
  | cons l r => exact fun hp => hp.elim (lone l r rfl) rest

theorem not_hasPair_joinPairs (t : Text) : ¬HasPair (joinPairs t) := by
  fun_induction joinPairs t with
  | case1 h l r hp ih =>
    refine not_hasPair_cons (fun _ _ _ hs => ?_) ih
    have hhigh := hs.1
    have hlow := pair_supplementary h l
    simp only [isHigh, Bool.and_eq_true, decide_eq_true_eq] at hhigh
    omega
  | case2 h l r hp ih =>
    refine not_hasPair_cons (fun c r' hc hs => ?_) ih
    rcases head_joinPairs hc with hl | hlow
    · rw [Option.some.inj hl] at hp
      exact hp (Bool.and_eq_true_iff.2 hs)
    · have hs := hs.2
      simp only [isLow, Bool.and_eq_true, decide_eq_true_eq] at hs
      omega
  | case3 c => exact id
  | case4 => exact id

theorem units_of_lt {c : Nat} (h : c < 0x10000) : units c = [c] := if_pos h

theorem unit_lt {c u : Nat} (valid : c < 0x110000) (h : u ∈ units c) : u < 0x10000 := by
  by_cases hc : c < 0x10000
  · rw [units_of_lt hc, List.mem_singleton] at h
    omega
  · simp only [units, if_neg hc, List.mem_cons, List.not_mem_nil, or_false] at h
    omega

theorem joinPairs_cons {h : Nat} {t : Text} (lone : ∀ l r, t = l :: r → ¬(isHigh h ∧ isLow l)) :
    joinPairs (h :: t) = h :: joinPairs t := by
  cases t with
  | nil => rfl
  | cons l r =>
    have hp : ¬(isHigh h && isLow l) = true := by simpa using lone l r rfl
    rw [joinPairs, if_neg hp]

/-- The units of a supplementary character are a pair, whatever follows them. -/
theorem joinPairs_units_append {c : Nat} (valid : c < 0x110000) (low : 0x10000 ≤ c) (t : Text) :
    joinPairs (units c ++ t) = c :: joinPairs t := by
  have hh : isHigh (0xD800 + (c - 0x10000) / 0x400) := by
    simp only [isHigh, Bool.and_eq_true, decide_eq_true_eq]
    omega
  have hl : isLow (0xDC00 + (c - 0x10000) % 0x400) := by
    simp only [isLow, Bool.and_eq_true, decide_eq_true_eq]
    omega
  have hu : units c = [0xD800 + (c - 0x10000) / 0x400, 0xDC00 + (c - 0x10000) % 0x400] :=
    if_neg (by omega)
  simp only [hu, List.cons_append, List.nil_append, joinPairs, hh, hl, Bool.and_self, ↓reduceIte,
    pair_units low]

theorem isLow_of_units {t : Text} (valid : Valid t) {l : Nat} {r : Text}
    (h : t.flatMap units = l :: r) (low : isLow l) : ∃ r', t = l :: r' := by
  cases t with
  | nil => simp at h
  | cons c t =>
    have hc : c < 0x110000 := valid c List.mem_cons_self
    by_cases hu : c < 0x10000
    · rw [List.flatMap_cons, units_of_lt hu] at h
      exact ⟨t, by rw [(List.cons.inj h).1]⟩
    · simp only [List.flatMap_cons, units, if_neg hu, List.cons_append] at h
      have he := (List.cons.inj h).1
      simp only [isLow, Bool.and_eq_true, decide_eq_true_eq] at low
      omega

theorem joinPairs_flatMap_units {t : Text} (valid : Valid t) :
    joinPairs (t.flatMap units) = joinPairs t := by
  fun_induction joinPairs t with
  | case1 h l r hp ih =>
    have hs := Bool.and_eq_true_iff.1 hp
    simp only [isHigh, isLow, Bool.and_eq_true, decide_eq_true_eq] at hs
    have hr := ih fun c hc => valid c (List.mem_cons_of_mem _ (List.mem_cons_of_mem _ hc))
    simp only [List.flatMap_cons, units_of_lt (c := h) (by omega), units_of_lt (c := l) (by omega),
      List.cons_append, List.nil_append, joinPairs, hp, ↓reduceIte, hr]
  | case2 h l r hp ih =>
    have hv : Valid (l :: r) := fun c hc => valid c (List.mem_cons_of_mem _ hc)
    rw [List.flatMap_cons, ← ih hv]
    by_cases hh : h < 0x10000
    · rw [units_of_lt hh]
      apply joinPairs_cons
      intro x y hxy hs
      obtain ⟨r', hr'⟩ := isLow_of_units hv hxy hs.2
      rw [(List.cons.inj hr').1] at hp
      exact hp (Bool.and_eq_true_iff.2 hs)
    · exact joinPairs_units_append (valid h List.mem_cons_self) (by omega) _
  | case3 c =>
    by_cases hc : c < 0x10000
    · simp [units_of_lt hc, joinPairs]
    · simpa [joinPairs] using
        joinPairs_units_append (valid c List.mem_cons_self) (by omega) []
  | case4 => rfl

end ResourceLookup.Text
