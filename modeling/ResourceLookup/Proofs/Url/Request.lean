import Mathlib.Data.List.TakeWhile
import ResourceLookup.Url.Opening

/-!
# Addresses that are taken as they stand

An address of graphic characters without a number sign has no fragment, and nothing is stripped
from it. Where it begins with a scheme in small letters, it is split at the colon after the scheme,
and what is asked of the opener is the address as it is written.
-/

namespace ResourceLookup.Url

open Text

def IsGraphic (c : Nat) : Prop := 0x21 ≤ c ∧ c ≤ 0x7E ∧ c ≠ 0x23

instance (c : Nat) : Decidable (IsGraphic c) := inferInstanceAs (Decidable (_ ∧ _))

def IsGraphicText (t : Text) : Prop := ∀ c ∈ t, IsGraphic c

instance (t : Text) : Decidable (IsGraphicText t) := inferInstanceAs (Decidable (∀ c ∈ t, _))

theorem IsGraphicText.append {s t : Text} (hs : IsGraphicText s) (ht : IsGraphicText t) :
    IsGraphicText (s ++ t) := fun c hc => (List.mem_append.1 hc).elim (hs c) (ht c)

def IsSmallLetter (c : Nat) : Prop := 0x61 ≤ c ∧ c ≤ 0x7A

instance (c : Nat) : Decidable (IsSmallLetter c) := inferInstanceAs (Decidable (_ ∧ _))

structure IsScheme (s : Text) : Prop where
  ne_nil : s ≠ []
  small : ∀ c ∈ s, IsSmallLetter c

variable {t scheme rest : Text}

/-! ## Trimming -/

theorem trim_of_none {p : Nat → Bool} (h : ∀ c ∈ t, p c = false) : trim p t = t := by
  have hdrop : ∀ {s : Text}, (∀ c ∈ s, p c = false) → s.dropWhile p = s := by
    intro s hs
    cases s with
    | nil => rfl
    | cons c r => simp [hs c List.mem_cons_self]
  rw [trim, dropLastWhile, hdrop h, hdrop fun c hc => h c (List.mem_reverse.1 hc),
    List.reverse_reverse]

theorem IsGraphic.not_blank {c : Nat} (h : IsGraphic c) : blanks.holds c = false := by
  rw [← Bool.not_eq_true, Ranges.holds_iff]
  rintro ⟨r, hr, hc⟩
  have hlow := h.1
  have hhigh := h.2.1
  simp only [blanks, List.mem_cons, List.not_mem_nil, or_false] at hr
  rcases hr with rfl | rfl | rfl | rfl | rfl | rfl | rfl | rfl | rfl | rfl <;>
    exact absurd hc (by simp only; omega)

theorem strip_of_graphic (h : IsGraphicText t) : strip t = t :=
  trim_of_none fun c hc => (h c hc).not_blank

theorem unwrap_of_graphic {c : Nat} {r : Text} (h : IsGraphicText (c :: r))
    (small : IsSmallLetter c) : unwrap (c :: r) = c :: r := by
  have hangle : c ≠ 0x3C := fun hc => absurd small (by rw [hc]; decide)
  have hurl : after? (text "URL:") (c :: r) = none := by
    have hc : ¬0x55 = c := fun hc => absurd small (by rw [← hc]; decide)
    simp [after?, text, hc]
  simp [unwrap, strip_of_graphic h, hangle, hurl]

/-! ## The scheme -/

theorem lower_of_small (h : ∀ c ∈ t, IsSmallLetter c) : lower t = t := by
  have hafter : ∀ before, lowerAfter before t = t := by
    induction t with
    | nil => exact fun _ => rfl
    | cons c r ih =>
      intro before
      obtain ⟨hlow, hhigh⟩ := h c List.mem_cons_self
      have hone : lowerOne c = [c] := by
        rw [lowerOne, if_pos (by omega), if_neg]
        simp only [Bool.and_eq_true, decide_eq_true_eq]
        omega
      rw [lowerAfter, if_neg (by omega), hone, ih fun d hd => h d (List.mem_cons_of_mem _ hd)]
      rfl
  exact hafter []

theorem asciiLower_of_small (h : ∀ c ∈ t, IsSmallLetter c) : asciiLower t = t := by
  rw [asciiLower]
  refine (List.map_congr_left fun c hc => ?_).trans (List.map_id t)
  have hsmall := (h c hc).1
  exact if_neg (by omega)

theorem IsScheme.colon_notMem (h : IsScheme scheme) : 0x3A ∉ scheme :=
  fun hc => absurd (h.small _ hc) (by decide)

theorem IsScheme.cutFirst (h : IsScheme scheme) (rest : Text) :
    Text.cutFirst 0x3A (scheme ++ 0x3A :: rest) = some (scheme, rest) :=
  cutFirst_append h.colon_notMem rest

theorem requestScheme?_of_scheme (h : IsScheme scheme) (rest : Text) :
    requestScheme? (scheme ++ 0x3A :: rest) = some (scheme, rest) := by
  have hslash : (0x2F : Nat) ∉ scheme := fun hc => absurd (h.small _ hc) (by decide)
  simp [requestScheme?, h.cutFirst, h.ne_nil, hslash, lower_of_small h.small]

theorem splitScheme_of_scheme (h : IsScheme scheme) (rest : Text) :
    splitScheme (scheme ++ 0x3A :: rest) = (scheme, rest) := by
  have hletter : ∀ {c}, c ∈ scheme → isAsciiLetter c = true := by
    intro c hc
    have hsmall := h.small c hc
    simp only [isAsciiLetter, Bool.or_eq_true, Bool.and_eq_true, decide_eq_true_eq]
    exact .inr hsmall
  have hall : scheme.all isSchemeCharacter = true := by
    rw [List.all_eq_true]
    intro c hc
    simp [isSchemeCharacter, hletter hc]
  have hlower := asciiLower_of_small h.small
  rw [splitScheme, h.cutFirst]
  cases scheme with
  | nil => exact absurd rfl h.ne_nil
  | cons c s =>
    simp only [hletter List.mem_cons_self, hall, Bool.and_self, ↓reduceIte, hlower]

/-! ## Splitting -/

theorem splitScheme_snd (t : Text) :
    (splitScheme t).2 = t ∨ ∃ s, t = s ++ 0x3A :: (splitScheme t).2 := by
  cases hcut : t.cutFirst 0x3A with
  | none => exact .inl (by rw [splitScheme, hcut])
  | some p =>
    obtain ⟨named, hnamed⟩ : ∃ named : Bool,
        splitScheme t = if named then (asciiLower p.1, p.2) else ([], t) := by
      rw [splitScheme, hcut]
      exact ⟨_, rfl⟩
    rw [hnamed]
    cases named with
    | true => exact .inr ⟨p.1, eq_of_cutFirst hcut⟩
    | false => exact .inl rfl

theorem mem_of_mem_splitScheme {c : Nat} (h : c ∈ (splitScheme t).2) : c ∈ t := by
  rcases splitScheme_snd t with heq | ⟨s, heq⟩
  · exact heq ▸ h
  · rw [heq]
    exact List.mem_append_right _ (List.mem_cons_of_mem _ h)

theorem mem_of_mem_splitAuthority {a path : Text} {c : Nat} (h : splitAuthority t = (a, path))
    (hc : c ∈ path) : c ∈ t := by
  rw [splitAuthority.eq_def] at h
  split at h
  · next r =>
    obtain ⟨-, rfl⟩ := Prod.mk.inj h
    have hr := (List.dropWhile_sublist _).subset hc
    exact List.mem_cons_of_mem _ (List.mem_cons_of_mem _ hr)
  · obtain ⟨-, rfl⟩ := Prod.mk.inj h
    exact hc

theorem split_of_graphic {path : Text} (h : IsGraphicText t)
    (authority : splitAuthority (splitScheme t).2 = ([], path)) (query : 0x3F ∉ path) :
    split t =
      .ok ⟨(splitScheme t).1, [],
        if parameterSchemes.any (fun k => text k == (splitScheme t).1) then cutParameters path
        else path⟩ := by
  have hdrop : t.dropWhile (· ≤ 0x20) = t := by
    cases t with
    | nil => rfl
    | cons c r =>
      have hc := (h c List.mem_cons_self).1
      simp only [List.dropWhile_cons, decide_eq_true_eq, if_neg (show ¬c ≤ 0x20 by omega)]
  have hfilter : (t.filter fun c => !isRemoved c) = t := by
    rw [List.filter_eq_self]
    intro c hc
    have hlow := (h c hc).1
    simp only [isRemoved, Bool.not_eq_true', Bool.or_eq_false_iff, beq_eq_false_iff_ne]
    omega
  have hpath : (path.takeWhile fun c => c != 0x23).takeWhile (fun c => c != 0x3F) = path := by
    have hnumber : 0x23 ∉ path := fun hc =>
      absurd (h _ (mem_of_mem_splitScheme (mem_of_mem_splitAuthority authority hc))) (by decide)
    rw [List.takeWhile_eq_self_iff.2 fun c hc => bne_iff_ne.2 (ne_of_mem_of_not_mem hc hnumber),
      List.takeWhile_eq_self_iff.2 fun c hc => bne_iff_ne.2 (ne_of_mem_of_not_mem hc query)]
  rw [split, hdrop, hfilter]
  simp only [authority, hpath]
  rfl

theorem request_of_scheme (hs : IsScheme scheme) (hr : IsGraphicText rest) {s : Split}
    (hsplit : split (scheme ++ 0x3A :: rest) = .ok s) :
    request (scheme ++ 0x3A :: rest) =
      .ok ⟨scheme ++ 0x3A :: rest, scheme, (splitHost rest).1.map Percent.decodeText,
        (splitHost rest).2⟩ := by
  have hgraphic : IsGraphicText (scheme ++ 0x3A :: rest) := by
    refine IsGraphicText.append (fun c hc => ?_) (List.forall_mem_cons.2 ⟨by decide, hr⟩)
    obtain ⟨hlow, hhigh⟩ := hs.small c hc
    exact ⟨by omega, by omega, by omega⟩
  have hunwrap : unwrap (scheme ++ 0x3A :: rest) = scheme ++ 0x3A :: rest := by
    cases scheme with
    | nil => exact absurd rfl hs.ne_nil
    | cons c s => exact unwrap_of_graphic hgraphic (hs.small c List.mem_cons_self)
  have hcut : cutLast 0x23 (scheme ++ 0x3A :: rest) = none :=
    cutLast_eq_none_iff.2 fun hc => absurd (hgraphic _ hc) (by decide)
  rw [request, hunwrap]
  simp only [hcut, requestScheme?_of_scheme hs, hsplit]

end ResourceLookup.Url
