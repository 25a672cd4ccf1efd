import ResourceLookup.Access

/-!
# Malformed numbers

A logical line is malformed where a backslash that is not escaped itself stands before `u` and
fewer than four hexadecimal digits follow. The reader cuts the line into key and value first and
looks at each half alone. It finds the same: the key ends at a character that is neither a digit
nor a backslash, and a scan from left to right is in phase behind it. So a text is read unless
one of its logical lines is malformed, and the fault names the natural line on which the first
of these begins.
-/

namespace ResourceLookup.Properties

open Text (hexValue?)

/-! ## What a malformed number is -/

def leavesEscape (escaped : Bool) : Text → Bool
  | [] => escaped
  | c :: r => leavesEscape (c = backslash && !escaped) r

def isHexDigit (c : Nat) : Bool :=
  (0x30 ≤ c && c ≤ 0x39) || (0x41 ≤ c && c ≤ 0x46) || (0x61 ≤ c && c ≤ 0x66)

def beginsWithDigits : Nat → Text → Bool
  | 0, _ => true
  | _ + 1, [] => false
  | n + 1, c :: r => isHexDigit c && beginsWithDigits n r

def HasMalformedNumber (t : Text) : Prop :=
  ∃ before after, t = before ++ backslash :: 0x75 :: after ∧ leavesEscape false before = false ∧
    beginsWithDigits 4 after = false

theorem not_malformed_nil : ¬HasMalformedNumber [] := by
  rintro ⟨before, after, ht, -, -⟩
  simp at ht

theorem not_malformed_backslash : ¬HasMalformedNumber [backslash] := by
  rintro ⟨before, after, ht, -, -⟩
  have hlen := congrArg List.length ht
  rw [List.length_append, List.length_cons, List.length_cons, List.length_cons] at hlen
  rw [List.length_nil] at hlen
  omega

theorem malformed_cons {c : Nat} (hc : c ≠ backslash) (t : Text) :
    HasMalformedNumber (c :: t) ↔ HasMalformedNumber t := by
  have hscan : ∀ b, leavesEscape false (c :: b) = leavesEscape false b := by
    intro b
    simp [leavesEscape, hc]
  constructor
  · rintro ⟨before, after, ht, hphase, hdigits⟩
    cases before with
    | nil => exact absurd (List.cons.inj ht).1 hc
    | cons d before =>
      obtain ⟨rfl, rfl⟩ := List.cons.inj ht
      exact ⟨before, after, rfl, by rwa [hscan] at hphase, hdigits⟩
  · rintro ⟨before, after, rfl, hphase, hdigits⟩
    exact ⟨c :: before, after, rfl, by rwa [hscan], hdigits⟩

theorem malformed_escape (e : Nat) (t : Text) :
    HasMalformedNumber (backslash :: e :: t) ↔
      (e = 0x75 ∧ beginsWithDigits 4 t = false) ∨ HasMalformedNumber t := by
  have hscan : ∀ b, leavesEscape false (backslash :: e :: b) = leavesEscape false b := by
    intro b
    simp [leavesEscape]
  constructor
  · rintro ⟨before, after, ht, hphase, hdigits⟩
    match before with
    | [] =>
      simp only [List.nil_append, List.cons.injEq] at ht
      obtain ⟨-, rfl, rfl⟩ := ht
      exact .inl ⟨rfl, hdigits⟩
    | [b] =>
      -- The backslash of the number would be escaped by the one before it.
      simp only [List.cons_append, List.cons.injEq] at ht
      rw [← ht.1] at hphase
      simp [leavesEscape] at hphase
    | b :: d :: before =>
      simp only [List.cons_append, List.cons.injEq] at ht
      obtain ⟨rfl, rfl, rfl⟩ := ht
      exact .inr ⟨before, after, rfl, by rwa [hscan] at hphase, hdigits⟩
  · rintro (⟨rfl, hdigits⟩ | ⟨before, after, rfl, hphase, hdigits⟩)
    · exact ⟨[], t, rfl, rfl, hdigits⟩
    · exact ⟨backslash :: e :: before, after, rfl, by rwa [hscan], hdigits⟩

/-! ## Digits -/

theorem hexValue?_isSome (c : Nat) : (hexValue? c).isSome = isHexDigit c := by
  unfold hexValue? isHexDigit
  grind

theorem hexQuad?_isSome (a b x y : Nat) (t : Text) :
    (hexQuad? a b x y).isSome = beginsWithDigits 4 (a :: b :: x :: y :: t) := by
  simp only [hexQuad?, beginsWithDigits, ← hexValue?_isSome]
  cases hexValue? a <;> cases hexValue? b <;> cases hexValue? x <;> cases hexValue? y <;> rfl

theorem ne_backslash_of_hexDigit {c : Nat} (h : isHexDigit c) : c ≠ backslash := by
  unfold isHexDigit at h
  unfold backslash
  grind

theorem beginsWithDigits_short {n : Nat} {t : Text} (h : t.length < n) :
    beginsWithDigits n t = false := by
  induction n generalizing t with
  | zero => exact absurd h (Nat.not_lt_zero _)
  | succ n ih =>
    cases t with
    | nil => rfl
    | cons c t => simp [beginsWithDigits, ih (Nat.lt_of_succ_lt_succ h)]

theorem beginsWithDigits_append {rest : Text} (h : ∀ c r, rest = c :: r → isHexDigit c = false)
    (n : Nat) (t : Text) : beginsWithDigits n (t ++ rest) = beginsWithDigits n t := by
  induction n generalizing t with
  | zero => rfl
  | succ n ih =>
    cases t with
    | cons c t => rw [List.cons_append, beginsWithDigits, ih, beginsWithDigits]
    | nil =>
      cases rest with
      | nil => rfl
      | cons c r => simp [beginsWithDigits, h c r rfl]

/-! ## Keys and values -/

theorem malformed_digits {a b x y : Nat} {t : Text}
    (digits : beginsWithDigits 4 (a :: b :: x :: y :: t) = true) :
    HasMalformedNumber (a :: b :: x :: y :: t) ↔ HasMalformedNumber t := by
  simp only [beginsWithDigits, Bool.and_true, Bool.and_eq_true] at digits
  obtain ⟨ha, hb, hx, hy⟩ := digits
  rw [malformed_cons (ne_backslash_of_hexDigit ha), malformed_cons (ne_backslash_of_hexDigit hb),
    malformed_cons (ne_backslash_of_hexDigit hx), malformed_cons (ne_backslash_of_hexDigit hy)]

theorem length_lt_four {t : Text} (h : ∀ a b x y r, t = a :: b :: x :: y :: r → False) :
    t.length < 4 := by
  match t with
  | [] | [_] | [_, _] | [_, _, _] => simp
  | a :: b :: x :: y :: r => exact absurd rfl (h a b x y r)

theorem unescapeUnits_eq_none_iff (t : Text) :
    unescapeUnits t = none ↔ HasMalformedNumber t := by
  fun_induction unescapeUnits t with
  | case1 => simp [not_malformed_nil]
  | case2 => simp [not_malformed_backslash]
  | case3 a b x y r ih =>
    have hquad := hexQuad?_isSome a b x y r
    rw [malformed_escape]
    cases hq : hexQuad? a b x y with
    | none =>
      rw [hq] at hquad
      exact iff_of_true rfl (.inl ⟨rfl, hquad.symm⟩)
    | some n =>
      rw [hq] at hquad
      have hdigits : beginsWithDigits 4 (a :: b :: x :: y :: r) = true := hquad.symm
      simp [hdigits, malformed_digits hdigits, ih]
  | case4 t hshort =>
    rw [malformed_escape]
    exact iff_of_true rfl (.inl ⟨rfl, beginsWithDigits_short (length_lt_four hshort)⟩)
  | case5 e t he ih => simp [malformed_escape, he, ih]
  | case6 c t hc ih => simp [malformed_cons hc, ih]

theorem unescape_eq_none_iff (t : Text) : unescape t = none ↔ HasMalformedNumber t := by
  rw [unescape, Option.map_eq_none_iff, unescapeUnits_eq_none_iff]

theorem cutKey_append_rest (escaped : Bool) (t : Text) :
    (cutKey escaped t).1 ++ (cutKey escaped t).2 = t := by
  fun_induction cutKey escaped t with
  | case1 => rfl
  | case2 c r p ih => exact congrArg (c :: ·) ih
  | case3 escaped r p _ ih => exact congrArg (backslash :: ·) ih
  | case4 => rfl
  | case5 escaped c r p _ _ _ ih => exact congrArg (c :: ·) ih

theorem cutKey_rest {escaped : Bool} {t : Text} {c : Nat} {r : Text}
    (h : (cutKey escaped t).2 = c :: r) : isSeparator c ∨ isBlank c := by
  fun_induction cutKey escaped t with
  | case1 => simp at h
  | case2 _ _ _ ih => exact ih h
  | case3 _ _ _ _ ih => exact ih h
  | case4 escaped d r' _ _ hend =>
    rw [(List.cons.inj h).1] at hend
    exact Bool.or_eq_true_iff.1 hend
  | case5 _ _ _ _ _ _ _ ih => exact ih h

theorem digits_cutKey (n : Nat) (t : Text) :
    beginsWithDigits n (cutKey false t).1 = beginsWithDigits n t := by
  have hrest : ∀ c r, (cutKey false t).2 = c :: r → isHexDigit c = false := by
    intro c r h
    have hc := cutKey_rest h
    simp only [isSeparator, isBlank, Bool.or_eq_true, decide_eq_true_eq] at hc
    unfold isHexDigit
    grind
  rw [← beginsWithDigits_append hrest, cutKey_append_rest]

theorem malformed_cutKey (t : Text) :
    HasMalformedNumber t ↔
      HasMalformedNumber (cutKey false t).1 ∨ HasMalformedNumber (cutKey false t).2 := by
  match t with
  | [] => simp [cutKey]
  | [c] =>
    by_cases hc : c = backslash
    · simp [cutKey, hc, not_malformed_nil]
    · by_cases he : isSeparator c || isBlank c <;> simp [cutKey, hc, he, not_malformed_nil]
  | c :: e :: r =>
    by_cases hc : c = backslash
    · have hcut : cutKey false (c :: e :: r) =
          (c :: e :: (cutKey false r).1, (cutKey false r).2) := by
        simp [cutKey, hc]
      rw [hcut, hc, malformed_escape, malformed_escape, digits_cutKey, malformed_cutKey r, or_assoc]
    · by_cases he : isSeparator c || isBlank c
      · simp [cutKey, hc, he, not_malformed_nil]
      · have hcut : cutKey false (c :: e :: r) =
            (c :: (cutKey false (e :: r)).1, (cutKey false (e :: r)).2) := by
          rw [cutKey]
          simp [hc, he]
        rw [hcut, malformed_cons hc, malformed_cons hc]
        exact malformed_cutKey (e :: r)
  termination_by t.length

theorem malformed_skipSeparation (separated : Bool) (t : Text) :
    HasMalformedNumber (skipSeparation separated t) ↔ HasMalformedNumber t := by
  have hskipped : ∀ c, isBlank c ∨ isSeparator c → c ≠ backslash := by
    intro c hc
    simp only [isSeparator, isBlank, Bool.or_eq_true, decide_eq_true_eq] at hc
    unfold backslash
    omega
  fun_induction skipSeparation separated t with
  | case1 => rfl
  | case2 separated c r hb ih => exact ih.trans (malformed_cons (hskipped c (.inl hb)) r).symm
  | case3 separated c r _ hs ih =>
    have hc : c ≠ backslash := hskipped c (.inr (Bool.and_eq_true_iff.1 hs).1)
    exact ih.trans (malformed_cons hc r).symm
  | case4 => rfl

/-- Cutting a line keeps its malformed numbers, and makes none. -/
theorem malformed_cut (line : Text) :
    HasMalformedNumber line ↔ HasMalformedNumber (cut line).1 ∨ HasMalformedNumber (cut line).2 := by
  rw [malformed_cutKey, cut, malformed_skipSeparation]

/-! ## Entries -/

theorem readEntry_error_iff (l : Line) (e : Malformed) :
    readEntry l = .error e ↔ HasMalformedNumber l.content ∧ e = ⟨l.number⟩ := by
  rw [malformed_cut, ← unescape_eq_none_iff, ← unescape_eq_none_iff, readEntry]
  cases unescape (cut l.content).1 <;> cases unescape (cut l.content).2 <;> simp [eq_comm]

theorem readEntry_ok {l : Line} (h : ¬HasMalformedNumber l.content) :
    ∃ k v, readEntry l = .ok (k, v) := by
  cases hr : readEntry l with
  | ok p => exact ⟨p.1, p.2, rfl⟩
  | error e => exact absurd ((readEntry_error_iff l e).1 hr).1 h

def FirstMalformed (ls : List Line) (l : Line) : Prop :=
  ∃ before after, ls = before ++ l :: after ∧ (∀ k ∈ before, ¬HasMalformedNumber k.content) ∧
    HasMalformedNumber l.content

theorem firstMalformed_cons_of_malformed {l : Line} (h : HasMalformedNumber l.content)
    (ls : List Line) (k : Line) : FirstMalformed (l :: ls) k ↔ k = l := by
  constructor
  · rintro ⟨before, after, hls, hfine, -⟩
    cases before with
    | nil => exact (List.cons.inj hls).1.symm
    | cons b before =>
      obtain ⟨rfl, -⟩ := List.cons.inj hls
      exact absurd h (hfine l List.mem_cons_self)
  · rintro rfl
    exact ⟨[], ls, rfl, by simp, h⟩

theorem firstMalformed_cons_of_fine {l : Line} (h : ¬HasMalformedNumber l.content)
    (ls : List Line) (k : Line) : FirstMalformed (l :: ls) k ↔ FirstMalformed ls k := by
  constructor
  · rintro ⟨before, after, hls, hfine, hk⟩
    cases before with
    | nil =>
      obtain ⟨rfl, -⟩ := List.cons.inj hls
      exact absurd hk h
    | cons b before =>
      obtain ⟨rfl, rfl⟩ := List.cons.inj hls
      exact ⟨before, after, rfl, fun d hd => hfine d (List.mem_cons_of_mem l hd), hk⟩
  · rintro ⟨before, after, rfl, hfine, hk⟩
    exact ⟨l :: before, after, rfl, List.forall_mem_cons.2 ⟨h, hfine⟩, hk⟩

/-- The first malformed line stops the reading. -/
theorem readEntries_error_iff (m : Properties) (ls : List Line) (e : Malformed) :
    readEntries m ls = .error e ↔ ∃ l, FirstMalformed ls l ∧ e = ⟨l.number⟩ := by
  induction ls generalizing m with
  | nil => simp [readEntries, FirstMalformed]
  | cons l ls ih =>
    by_cases hl : HasMalformedNumber l.content
    · have hr := (readEntry_error_iff l ⟨l.number⟩).2 ⟨hl, rfl⟩
      simp [readEntries, hr, firstMalformed_cons_of_malformed hl, eq_comm]
    · obtain ⟨k, v, hr⟩ := readEntry_ok hl
      simp only [readEntries, hr, ih, firstMalformed_cons_of_fine hl]

theorem readEntries_ok_iff (m : Properties) (ls : List Line) :
    (∃ m', readEntries m ls = .ok m') ↔ ∀ l ∈ ls, ¬HasMalformedNumber l.content := by
  induction ls generalizing m with
  | nil => simp [readEntries]
  | cons l ls ih =>
    by_cases hl : HasMalformedNumber l.content
    · have hr := (readEntry_error_iff l ⟨l.number⟩).2 ⟨hl, rfl⟩
      simp [readEntries, hr, hl]
    · obtain ⟨k, v, hr⟩ := readEntry_ok hl
      simp only [readEntries, hr, ih, List.forall_mem_cons, hl, not_false_iff, true_and]

/-! ## Where logical lines begin -/

def Line.BeginsIn (l : Line) (natural : List Text) : Prop :=
  ∃ before first rest, natural = before ++ first :: rest ∧ l.number = before.length + 1 ∧
    isIgnored (dropBlanks first) = false ∧ l.content = (joined (dropBlanks first) rest).1

theorem joined_rest_suffix (l : Text) (ls : List Text) :
    ∃ taken, ls = taken ++ (joined l ls).2 := by
  induction ls generalizing l with
  | nil => exact ⟨[], rfl⟩
  | cons next rest ih =>
    simp only [joined]
    split
    · obtain ⟨taken, h⟩ := ih (l.dropLast ++ dropBlanks next)
      exact ⟨next :: taken, congrArg (next :: ·) h⟩
    · exact ⟨[], rfl⟩

theorem beginsIn_of_mem_logicalFrom {number : Nat} {l : Line} {before ls : List Text}
    (hnumber : number = before.length + 1) (h : l ∈ logicalFrom number ls) :
    l.BeginsIn (before ++ ls) := by
  fun_induction logicalFrom number ls generalizing before with
  | case1 => simp at h
  | case2 number first rest _ ih =>
    have hl := @ih (before ++ [first]) (by simp [hnumber]) h
    rwa [List.append_assoc, List.singleton_append] at hl
  | case3 number first rest counts ih =>
    rcases List.mem_cons.1 h with rfl | h
    · exact ⟨before, first, rest, rfl, hnumber, by simpa using counts, rfl⟩
    · obtain ⟨taken, htaken⟩ := joined_rest_suffix (dropBlanks first) rest
      have hlen := congrArg List.length htaken
      rw [List.length_append] at hlen
      have hbegin : number + 1 + (rest.length - (joined (dropBlanks first) rest).2.length) =
          (before ++ first :: taken).length + 1 := by
        rw [List.length_append, List.length_cons]
        omega
      have hl := ih hbegin h
      rwa [List.append_assoc, List.cons_append, ← htaken] at hl

theorem beginsIn_of_mem {t : Text} {l : Line} (h : l ∈ logicalLines t) :
    l.BeginsIn (naturalLines t) :=
  @beginsIn_of_mem_logicalFrom 1 l [] (naturalLines t) rfl h

theorem FirstMalformed.mem {ls : List Line} {l : Line} (h : FirstMalformed ls l) : l ∈ ls := by
  obtain ⟨before, after, rfl, -, -⟩ := h
  simp

end ResourceLookup.Properties

namespace ResourceLookup.Access

open Properties

theorem parseText_ok_iff (source t : Text) (m : Properties) :
    parseText source t = .ok m ↔ read t = .ok m := by
  rw [parseText]
  cases read t with
  | ok p =>
    constructor <;>
    · intro h
      cases h
      rfl
  | error e =>
    constructor <;>
    · intro h
      cases h

theorem parseText_error_iff (source t : Text) (f : Fault) :
    parseText source t = .error f ↔ ∃ e, read t = .error e ∧ f = malformed source e := by
  rw [parseText]
  cases read t with
  | ok p =>
    constructor
    · intro h
      cases h
    · rintro ⟨e, h, -⟩
      cases h
  | error e =>
    constructor
    · intro h
      cases h
      exact ⟨e, rfl, rfl⟩
    · rintro ⟨e', h, rfl⟩
      cases h
      rfl

/-- A text is read unless one of its logical lines is malformed. The fault then is that of the
first such line, told by the source and the number of the natural line on which it begins, and
there is no other fault. -/
theorem parseText_refuses_malformed (source t : Text) :
    ((∃ m, parseText source t = .ok m) ↔
      ∀ l ∈ logicalLines t, ¬HasMalformedNumber l.content) ∧
    ∀ f, parseText source t = .error f ↔
      ∃ l, FirstMalformed (logicalLines t) l ∧ l.BeginsIn (naturalLines t) ∧
        f = .propertiesDecode (text "Malformed \\uxxxx encoding.") source l.number := by
  constructor
  · simp only [parseText_ok_iff]
    exact readEntries_ok_iff [] (logicalLines t)
  · intro f
    rw [parseText_error_iff]
    constructor
    · rintro ⟨e, he, rfl⟩
      obtain ⟨l, hl, rfl⟩ := (readEntries_error_iff [] (logicalLines t) e).1 he
      exact ⟨l, hl, beginsIn_of_mem hl.mem, rfl⟩
    · rintro ⟨l, hl, -, rfl⟩
      exact ⟨⟨l.number⟩, (readEntries_error_iff [] (logicalLines t) _).2 ⟨l, hl, rfl⟩, rfl⟩

end ResourceLookup.Access
