import Mathlib.Data.List.Basic
import ResourceLookup.Text.Utf8

/-!
# Reading UTF-8 back

The octets of a scalar value are read as that value, whatever follows them, so a text of scalar
values is read back from its UTF-8. As the name of a file such a text has the same octets, and a
text has octets as a name where each of its surrogates stands for one.
-/

namespace ResourceLookup

namespace Text

def IsScalarValue (c : Nat) : Prop := c < 0x110000 ∧ isSurrogate c = false

def HasScalarValues (t : Text) : Prop := ∀ c ∈ t, IsScalarValue c

theorem IsScalarValue.not_between {c : Nat} (h : IsScalarValue c) : c < 0xD800 ∨ 0xDFFF < c := by
  have hs := h.2
  simp only [isSurrogate, Bool.and_eq_false_iff, decide_eq_false_iff_not] at hs
  omega

theorem isScalarValue_of_ascii {c : Nat} (h : c < 0x80) : IsScalarValue c := by
  refine ⟨by omega, ?_⟩
  simp only [isSurrogate, Bool.and_eq_false_iff, decide_eq_false_iff_not]
  omega

end Text

namespace Utf8

open Text

theorem toNat_ofNat {n : Nat} (h : n < 0x100) : (UInt8.ofNat n).toNat = n :=
  UInt8.toNat_ofNat_of_lt' h

/-! ## One character -/

theorem complete_continuation {need got value k : Nat} (h : k < 0x40) (r : Octets) :
    complete (need + 1) got value (UInt8.ofNat (0x80 + k) :: r) =
      complete need (got + 1) (value * 0x40 + k) r := by
  have hk : (UInt8.ofNat (0x80 + k)).toNat = 0x80 + k := toNat_ofNat (by omega)
  have hc : isContinuation (UInt8.ofNat (0x80 + k)) = true := by
    simp only [isContinuation, hk, Bool.and_eq_true, decide_eq_true_eq]
    omega
  rw [complete, if_pos hc, hk, Nat.add_sub_cancel_left]

theorem head_of_lead {first more k : Nat} (hf : first < 0x100) (lead : following? first = some more)
    (hk : k < 0x40) (low : (secondBounds first).1 ≤ 0x80 + k)
    (high : 0x80 + k ≤ (secondBounds first).2) (r : Octets) :
    head (UInt8.ofNat first) (UInt8.ofNat (0x80 + k) :: r) =
      complete (more - 1) 2 (leadBits more first * 0x40 + k) r := by
  have hfirst : (UInt8.ofNat first).toNat = first := toNat_ofNat hf
  have hsecond : (UInt8.ofNat (0x80 + k)).toNat = 0x80 + k := toNat_ofNat (by omega)
  have hascii : ¬first < 0x80 := by
    intro ha
    rw [following?, if_neg (by omega), if_neg (by omega), if_neg (by omega)] at lead
    cases lead
  unfold head
  simp only [hfirst, if_neg hascii, lead, hsecond, low, high, decide_true, Bool.and_self, ↓reduceIte,
    Nat.add_sub_cancel_left]

/-- The octets of a scalar value are a beginning that is read as it. -/
theorem head_encodeOne {c : Nat} (h : IsScalarValue c) (r : Octets) :
    ∃ b s, encodeOne c ++ r = b :: s ∧ head b s = .scalar c r := by
  have hlast := h.1
  have hgap := h.not_between
  rw [encodeOne]
  split
  · next hc =>
    refine ⟨_, _, List.cons_append, ?_⟩
    unfold head
    simp only [toNat_ofNat (show c < 0x100 by omega), if_pos hc, List.nil_append]
  split
  · next hc =>
    refine ⟨_, _, List.cons_append, ?_⟩
    have lead : following? (0xC0 + c / 0x40) = some 1 := if_pos (by omega)
    have hbounds : secondBounds (0xC0 + c / 0x40) = (0x80, 0xBF) := by grind [secondBounds]
    have hbits : leadBits 1 (0xC0 + c / 0x40) = c / 0x40 := by simp [leadBits]
    have hvalue : c / 0x40 * 0x40 + c % 0x40 = c := by omega
    rw [List.cons_append, head_of_lead (by omega) lead (by omega) (by rw [hbounds]; omega)
      (by rw [hbounds]; omega), hbits, hvalue]
    rfl
  split
  · next hc =>
    refine ⟨_, _, List.cons_append, ?_⟩
    have lead : following? (0xE0 + c / 0x1000) = some 2 := by
      rw [following?, if_neg (by omega), if_pos (by omega)]
    have hbounds : (secondBounds (0xE0 + c / 0x1000)).1 ≤ 0x80 + c / 0x40 % 0x40 ∧
        0x80 + c / 0x40 % 0x40 ≤ (secondBounds (0xE0 + c / 0x1000)).2 := by grind [secondBounds]
    have hbits : leadBits 2 (0xE0 + c / 0x1000) = c / 0x1000 := by simp [leadBits]
    have hvalue : (c / 0x1000 * 0x40 + c / 0x40 % 0x40) * 0x40 + c % 0x40 = c := by omega
    rw [List.cons_append, head_of_lead (by omega) lead (by omega) hbounds.1 hbounds.2, hbits,
      List.cons_append, complete_continuation (by omega), hvalue]
    rfl
  · refine ⟨_, _, List.cons_append, ?_⟩
    have lead : following? (0xF0 + c / 0x40000) = some 3 := by
      rw [following?, if_neg (by omega), if_neg (by omega), if_pos (by omega)]
    have hbounds : (secondBounds (0xF0 + c / 0x40000)).1 ≤ 0x80 + c / 0x1000 % 0x40 ∧
        0x80 + c / 0x1000 % 0x40 ≤ (secondBounds (0xF0 + c / 0x40000)).2 := by grind [secondBounds]
    have hbits : leadBits 3 (0xF0 + c / 0x40000) = c / 0x40000 := by simp [leadBits]
    have hvalue : ((c / 0x40000 * 0x40 + c / 0x1000 % 0x40) * 0x40 + c / 0x40 % 0x40) * 0x40 +
        c % 0x40 = c := by omega
    rw [List.cons_append, head_of_lead (by omega) lead (by omega) hbounds.1 hbounds.2, hbits,
      List.cons_append, complete_continuation (by omega), List.cons_append,
      complete_continuation (by omega), hvalue]
    rfl

/-! ## Texts -/

theorem decodeReplacing_encodeOne {c : Nat} (h : IsScalarValue c) (r : Octets) :
    decodeReplacing (encodeOne c ++ r) = c :: decodeReplacing r := by
  obtain ⟨b, s, hoctets, hhead⟩ := head_encodeOne h r
  rw [hoctets, decodeReplacing, hhead]
  rfl

theorem decodeReplacing_flatMap {t : Text} (h : HasScalarValues t) :
    decodeReplacing (t.flatMap encodeOne) = t := by
  induction t with
  | nil => rw [List.flatMap_nil, decodeReplacing]
  | cons c t ih =>
    rw [List.flatMap_cons, decodeReplacing_encodeOne (h c List.mem_cons_self),
      ih fun d hd => h d (List.mem_cons_of_mem _ hd)]

theorem flatMap_encodeOne_of_ascii {t : Text} (h : ∀ c ∈ t, c < 0x80) :
    t.flatMap encodeOne = t.map UInt8.ofNat := by
  rw [List.map_eq_flatMap]
  exact List.flatMap_congr fun c hc => if_pos (h c hc)

theorem encode?_of_scalarValues {t : Text} (h : HasScalarValues t) :
    encode? t = .ok (t.flatMap encodeOne) := by
  have hnone : t.any isSurrogate = false := by
    rw [List.any_eq_false]
    exact fun c hc => by simp [(h c hc).2]
  rw [encode?, hnone]
  rfl

/-! ## Names of files -/

def IsNameCharacter (c : Nat) : Prop := isSurrogate c = true → 0xDC80 ≤ c ∧ c ≤ 0xDCFF

theorem IsNameCharacter.of_scalarValue {c : Nat} (h : IsScalarValue c) : IsNameCharacter c := by
  intro hs
  rw [h.2] at hs
  cases hs

theorem encodeName?_ok_iff {t : Text} :
    (∃ bs, encodeName? t = .ok bs) ↔ ∀ c ∈ t, IsNameCharacter c := by
  rw [encodeName?]
  simp only
  split
  · next hany =>
    refine ⟨fun ⟨bs, h⟩ => (nomatch h), fun h => ?_⟩
    obtain ⟨c, hc, hstray⟩ := List.any_eq_true.1 hany
    simp only [Bool.and_eq_true, Bool.not_eq_true', Bool.and_eq_false_iff,
      decide_eq_false_iff_not] at hstray
    have hname := h c hc hstray.1
    omega
  · next hany =>
    refine ⟨fun _ c hc hs => ?_, fun _ => ⟨_, rfl⟩⟩
    have hstray := List.any_eq_false.1 (Bool.not_eq_true _ ▸ hany) c hc
    simpa [hs] using hstray

theorem encodeName?_of_scalarValues {t : Text} (h : HasScalarValues t) :
    encodeName? t = .ok (t.flatMap encodeOne) := by
  have hsurrogate : ∀ c ∈ t, isSurrogate c = false := fun c hc => (h c hc).2
  rw [encodeName?]
  simp only
  rw [if_neg, List.flatMap_congr fun c hc => if_neg (by simp [hsurrogate c hc])]
  rw [Bool.not_eq_true, List.any_eq_false]
  exact fun c hc => by simp [hsurrogate c hc]

end Utf8
end ResourceLookup
