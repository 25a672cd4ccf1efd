import ResourceLookup.Properties.Reader
import ResourceLookup.Properties.Writer

/-!
# Escaped text

What the writer makes of keys and values is escaped text: bare characters, and backslashes each
with the character after it. All of it is printable. The scans of the reader go over escaped text
in phase: the key is cut behind it, the backslashes at its end are even in number, and each of
its pieces stands for the units of the character that it was written for.
-/

namespace ResourceLookup.Properties

open Text (units hexadecimal hexValue?_digit Valid)

inductive Escaped (bare : Nat → Prop) : Text → Prop
  | nil : Escaped bare []
  | bare {c : Nat} {t : Text} (h : bare c) (rest : Escaped bare t) : Escaped bare (c :: t)
  | escape {c : Nat} {t : Text} (h : isPlain c) (rest : Escaped bare t) :
    Escaped bare (backslash :: c :: t)

structure Bare (blank : Bool) (c : Nat) : Prop where
  plain : isPlain c
  ne_backslash : c ≠ backslash
  not_separator : ¬isSeparator c
  not_mark : ¬isCommentMark c
  blank_of_space : c = 0x20 → blank = true

theorem Bare.not_blank {c : Nat} (h : Bare false c) : ¬isBlank c := by
  intro hb
  have hs : c ≠ 0x20 := fun hc => Bool.false_ne_true (h.blank_of_space hc)
  have hp := h.plain
  simp only [isPlain, isBlank, Bool.and_eq_true, Bool.or_eq_true, decide_eq_true_eq] at hp hb
  omega

namespace Escaped

variable {bare : Nat → Prop} {s t : Text}

theorem append (hs : Escaped bare s) (ht : Escaped bare t) : Escaped bare (s ++ t) := by
  induction hs with
  | nil => exact ht
  | bare h _ ih => exact .bare h ih
  | escape h _ ih => exact .escape h ih

theorem flatMap {α : Type} {f : α → Text} {l : List α} (h : ∀ a ∈ l, Escaped bare (f a)) :
    Escaped bare (l.flatMap f) := by
  induction l with
  | nil => exact .nil
  | cons a l ih =>
    rw [List.flatMap_cons]
    exact (h a List.mem_cons_self).append (ih fun b hb => h b (List.mem_cons_of_mem _ hb))

theorem bares (h : ∀ c ∈ t, bare c) : Escaped bare t := by
  induction t with
  | nil => exact .nil
  | cons c t ih =>
    exact .bare (h c List.mem_cons_self) (ih fun d hd => h d (List.mem_cons_of_mem _ hd))

theorem plain {blank : Bool} (h : Escaped (Bare blank) t) : ∀ c ∈ t, isPlain c := by
  induction h with
  | nil => simp
  | bare hc _ ih => simpa using ⟨hc.plain, ih⟩
  | escape hc _ ih => exact List.forall_mem_cons.2 ⟨by decide, by simpa using ⟨hc, ih⟩⟩

theorem head_cons {c : Nat} (h : Escaped (Bare false) (c :: t)) : ¬isBlank c ∧ ¬isCommentMark c := by
  cases h with
  | bare hc _ => exact ⟨hc.not_blank, hc.not_mark⟩
  | escape _ _ => exact ⟨by decide, by decide⟩

theorem continues_append {blank : Bool} (h : Escaped (Bare blank) t) {l : Text}
    (even : continues l = false) : continues (l ++ t) = false := by
  induction h generalizing l with
  | nil => simpa using even
  | @bare c t hc _ ih =>
    rw [List.append_cons]
    apply ih
    simp [continues_concat, hc.ne_backslash]
  | @escape c t hc _ ih =>
    rw [List.append_cons, List.append_cons]
    apply ih
    rw [continues_concat, continues_concat, even]
    simp

theorem cutKey_append (h : Escaped (Bare false) t) (rest : Text) :
    cutKey false (t ++ rest) = (t ++ (cutKey false rest).1, (cutKey false rest).2) := by
  induction h with
  | nil => rfl
  | @bare c t hc _ ih =>
    have hs := hc.not_separator
    have hb := hc.not_blank
    simp [cutKey, hc.ne_backslash, hs, hb, ih]
  | @escape c t _ _ ih => simp [cutKey, ih]

end Escaped

/-! ## What the writer makes of a character -/

theorem bare_digit {n : Nat} (h : n < 16) : Bare false (Text.digit true n) := by
  have hd : (0x30 ≤ Text.digit true n ∧ Text.digit true n ≤ 0x39) ∨
      (0x41 ≤ Text.digit true n ∧ Text.digit true n ≤ 0x46) := by
    simp only [Text.digit, ↓reduceIte]
    split <;> omega
  generalize Text.digit true n = d at hd
  refine ⟨?_, by unfold backslash; omega, ?_, ?_, fun hc => by omega⟩
  · simp only [isPlain, Bool.and_eq_true, decide_eq_true_eq]
    omega
  · simp only [isSeparator, Bool.or_eq_true, decide_eq_true_eq]
    omega
  · simp only [isCommentMark, Bool.or_eq_true, decide_eq_true_eq]
    omega

theorem hexadecimal_four (upper : Bool) (n : Nat) :
    hexadecimal upper 4 n =
      [Text.digit upper (n / 4096 % 16), Text.digit upper (n / 256 % 16),
        Text.digit upper (n / 16 % 16), Text.digit upper (n / 1 % 16)] := rfl

theorem escaped_numbered (c : Nat) : Escaped (Bare false) (numbered c) := by
  refine Escaped.flatMap fun u _ => .escape (by decide) (Escaped.bares fun d hd => ?_)
  simp only [hexadecimal_four, List.mem_cons, List.not_mem_nil, or_false] at hd
  rcases hd with rfl | rfl | rfl | rfl <;> exact bare_digit (Nat.mod_lt _ (by decide))

theorem Bare.mono {c : Nat} (h : Bare false c) (blank : Bool) : Bare blank c :=
  { h with blank_of_space := fun hc => absurd (h.blank_of_space hc) Bool.false_ne_true }

theorem Escaped.mono {t : Text} (h : Escaped (Bare false) t) (blank : Bool) :
    Escaped (Bare blank) t := by
  induction h with
  | nil => exact .nil
  | bare hc _ ih => exact .bare (hc.mono blank) ih
  | escape hc _ ih => exact .escape hc ih

theorem escapeLetter?_cases {c l : Nat} (h : escapeLetter? c = some l) :
    (c = 0x09 ∧ l = 0x74) ∨ (c = 0x0A ∧ l = 0x6E) ∨ (c = 0x0D ∧ l = 0x72) ∨
      (c = 0x0C ∧ l = 0x66) := by
  unfold escapeLetter? at h
  grind

theorem escaped_escapeOne {blank : Bool} {c : Nat} (h : c = 0x20 → blank = true) :
    Escaped (Bare blank) (escapeOne c) := by
  unfold escapeOne
  split
  · next hs =>
    refine .escape ?_ .nil
    simp only [isSeparator, isCommentMark, Bool.or_eq_true, decide_eq_true_eq] at hs
    simp only [isPlain, Bool.and_eq_true, decide_eq_true_eq]
    unfold backslash at hs
    omega
  · next hs =>
    simp only [Bool.or_eq_true, decide_eq_true_eq, not_or] at hs
    split
    · next l hl =>
      refine .escape ?_ .nil
      rcases escapeLetter?_cases hl with ⟨-, rfl⟩ | ⟨-, rfl⟩ | ⟨-, rfl⟩ | ⟨-, rfl⟩ <;> decide
    · split
      · next hp => exact .bare ⟨hp, hs.1.1, hs.1.2, hs.2, h⟩ .nil
      · exact (escaped_numbered c).mono blank

theorem units_ne_nil (c : Nat) : units c ≠ [] := by
  unfold units
  split <;> simp

theorem escapeOne_ne_nil (c : Nat) : escapeOne c ≠ [] := by
  unfold escapeOne
  split
  · simp
  · split
    · simp
    · split
      · simp
      · obtain ⟨u, us, hu⟩ := List.exists_cons_of_ne_nil (units_ne_nil c)
        simp [numbered, hu]

theorem escaped_escapeKey (t : Text) : Escaped (Bare false) (escapeKey t) := by
  refine Escaped.flatMap fun c _ => ?_
  split
  · next hc => exact .escape (by rw [hc]; decide) .nil
  · next hc => exact escaped_escapeOne fun h => absurd h hc

theorem escaped_escapeValue (t : Text) : Escaped (Bare true) (escapeValue t) := by
  cases t with
  | nil => exact .nil
  | cons c r =>
    refine Escaped.append ?_ (Escaped.flatMap fun d _ => escaped_escapeOne fun _ => rfl)
    split
    · next hc => exact .escape (by rw [hc]; decide) .nil
    · exact escaped_escapeOne fun _ => rfl

theorem escapeValue_head {t : Text} {c : Nat} {r : Text} (h : escapeValue t = c :: r) :
    ¬isBlank c := by
  cases t with
  | nil => simp [escapeValue] at h
  | cons d s =>
    rw [escapeValue] at h
    split at h
    · rw [List.cons_append] at h
      rw [← (List.cons.inj h).1]
      decide
    · next hd =>
      have he := @escaped_escapeOne false d fun hc => absurd hc hd
      cases hp : escapeOne d with
      | nil => exact absurd hp (escapeOne_ne_nil d)
      | cons x p =>
        rw [hp, List.cons_append] at h
        rw [← (List.cons.inj h).1]
        rw [hp] at he
        exact he.head_cons.1

/-! ## What the reader makes of it -/

theorem unescapeUnits_bare {c : Nat} (h : c ≠ backslash) (r : Text) :
    unescapeUnits (c :: r) = (unescapeUnits r).map (c :: ·) := by
  rw [unescapeUnits.eq_def]
  simp [h]

theorem unescapeUnits_escape {c : Nat} (h : c ≠ 0x75) (r : Text) :
    unescapeUnits (backslash :: c :: r) = (unescapeUnits r).map (unescapeOne c :: ·) := by
  rw [unescapeUnits.eq_def]
  simp [h]

theorem hexQuad?_digits {u : Nat} (h : u < 0x10000) :
    hexQuad? (Text.digit true (u / 4096 % 16)) (Text.digit true (u / 256 % 16))
      (Text.digit true (u / 16 % 16)) (Text.digit true (u % 16)) = some u := by
  have hd : ∀ n, Text.hexValue? (Text.digit true (n % 16)) = some (n % 16) :=
    fun n => hexValue?_digit true (Nat.mod_lt _ (by decide))
  simp only [hexQuad?, hd, Option.bind_eq_bind, Option.bind_some, Option.pure_def, Option.some.injEq]
  omega

theorem unescapeUnits_unit {u : Nat} (h : u < 0x10000) (r : Text) :
    unescapeUnits (backslash :: 0x75 :: (hexadecimal true 4 u ++ r)) =
      (unescapeUnits r).map (u :: ·) := by
  rw [unescapeUnits.eq_def]
  simp [hexadecimal_four, hexQuad?_digits h]

theorem unescapeUnits_flatMap {f : Nat → Text} {g : Nat → Text} {t : Text}
    (h : ∀ c ∈ t, ∀ r, unescapeUnits (f c ++ r) = (unescapeUnits r).map (g c ++ ·)) (r : Text) :
    unescapeUnits (t.flatMap f ++ r) = (unescapeUnits r).map (t.flatMap g ++ ·) := by
  induction t with
  | nil => simp
  | cons c t ih =>
    rw [List.flatMap_cons, List.append_assoc, h c List.mem_cons_self,
      ih fun d hd => h d (List.mem_cons_of_mem _ hd)]
    simp [Function.comp_def]

theorem unescapeUnits_escapeOne {c : Nat} (valid : c < 0x110000) (r : Text) :
    unescapeUnits (escapeOne c ++ r) = (unescapeUnits r).map (units c ++ ·) := by
  unfold escapeOne
  split
  · next hs =>
    simp only [isSeparator, isCommentMark, Bool.or_eq_true, decide_eq_true_eq] at hs
    unfold backslash at hs
    have hu : unescapeOne c = c := by unfold unescapeOne; grind
    rw [List.cons_append, List.singleton_append, unescapeUnits_escape (by omega), hu,
      Text.units_of_lt (by omega)]
    rfl
  · next hs =>
    simp only [Bool.or_eq_true, decide_eq_true_eq, not_or] at hs
    split
    · next l hl =>
      have hu : unescapeOne l = c ∧ l ≠ 0x75 ∧ c < 0x10000 := by
        rcases escapeLetter?_cases hl with ⟨rfl, rfl⟩ | ⟨rfl, rfl⟩ | ⟨rfl, rfl⟩ | ⟨rfl, rfl⟩ <;> decide
      rw [List.cons_append, List.singleton_append, unescapeUnits_escape hu.2.1, hu.1,
        Text.units_of_lt hu.2.2]
      rfl
    · split
      · next hp =>
        simp only [isPlain, Bool.and_eq_true, decide_eq_true_eq] at hp
        rw [List.singleton_append, unescapeUnits_bare hs.1.1, Text.units_of_lt (by omega)]
        rfl
      · have hn := unescapeUnits_flatMap (t := units c) (g := fun u => [u])
          (f := fun u => backslash :: 0x75 :: hexadecimal true 4 u)
          (fun u hu => unescapeUnits_unit (Text.unit_lt valid hu)) r
        rwa [List.flatMap_singleton'] at hn

theorem unescapeUnits_space (r : Text) :
    unescapeUnits ([backslash, 0x20] ++ r) = (unescapeUnits r).map (units 0x20 ++ ·) :=
  unescapeUnits_escape (by decide) r

/-- A key that has been written is read as the key with its pairs joined. -/
theorem unescape_escapeKey {t : Text} (valid : Valid t) :
    unescape (escapeKey t) = some (Text.joinPairs t) := by
  have hu := unescapeUnits_flatMap (t := t) (g := units)
    (f := fun c => if c = 0x20 then [backslash, c] else escapeOne c) (fun c hc r => by
      split
      · next h => rw [h]; exact unescapeUnits_space r
      · exact unescapeUnits_escapeOne (valid c hc) r) []
  simp only [List.append_nil, unescapeUnits, Option.map_some] at hu
  rw [unescape, escapeKey, hu, Option.map_some, Text.joinPairs_flatMap_units valid]

theorem unescape_escapeValue {t : Text} (valid : Valid t) :
    unescape (escapeValue t) = some (Text.joinPairs t) := by
  have hu : unescapeUnits (escapeValue t) = some (t.flatMap units) := by
    cases t with
    | nil => rfl
    | cons c r =>
      have hr := unescapeUnits_flatMap (t := r) (f := escapeOne) (g := units)
        (fun d hd => unescapeUnits_escapeOne (valid d (List.mem_cons_of_mem _ hd))) []
      simp only [List.append_nil, unescapeUnits, Option.map_some] at hr
      rw [escapeValue, List.flatMap_cons]
      split
      · next h => rw [h, unescapeUnits_space, hr]; rfl
      · rw [unescapeUnits_escapeOne (valid c List.mem_cons_self), hr]; rfl
  rw [unescape, hu, Option.map_some, Text.joinPairs_flatMap_units valid]

end ResourceLookup.Properties
