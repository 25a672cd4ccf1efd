import Mathlib
import ResourceLookup.Proofs.Properties.MalformedNumber
import ResourceLookup.Proofs.Properties.RoundTrip

/-!
# What has been read is in normal form

The keys that a text is read to are distinct, and in keys and values each pair of surrogates has
been joined, no matter how it was written. Writing loses nothing of that: read again it gives
the same entries, and they are written in the same way.
-/

namespace ResourceLookup

namespace Text

variable {s t : Text}

theorem Valid.of_subset (h : Valid t) (hs : s ⊆ t) : Valid s := fun c hc => h c (hs hc)

theorem Valid.append (hs : Valid s) (ht : Valid t) : Valid (s ++ t) :=
  fun c hc => (List.mem_append.1 hc).elim (hs c) (ht c)

theorem Valid.cons {c : Nat} (hc : c < 0x110000) (ht : Valid t) : Valid (c :: t) :=
  List.forall_mem_cons.2 ⟨hc, ht⟩

theorem Valid.joinPairs (h : Valid t) : Valid (joinPairs t) := by
  fun_induction Text.joinPairs t with
  | case1 high low r hp ih =>
    have hs := Bool.and_eq_true_iff.1 hp
    refine .cons (pair_lt hs.1 hs.2) (ih (h.of_subset ?_))
    exact fun c hc => List.mem_cons_of_mem _ (List.mem_cons_of_mem _ hc)
  | case2 high low r hp ih =>
    exact .cons (h high List.mem_cons_self) (ih (h.of_subset (List.subset_cons_self _ _)))
  | case3 c => exact h
  | case4 => exact h

end Text

namespace Properties

open Text (Valid HasPair joinPairs)

/-! ## Code points -/

theorem naturalLines_subset {t l : Text} (h : l ∈ naturalLines t) : l ⊆ t := by
  fun_induction naturalLines t generalizing l with
  | case1 =>
    rw [List.mem_singleton.1 h]
    exact List.nil_subset _
  | case2 r ih =>
    rcases List.mem_cons.1 h with rfl | h
    · exact List.nil_subset _
    · exact List.subset_cons_of_subset _ (ih h)
  | case3 =>
    simp only [List.mem_cons, List.not_mem_nil, or_false, or_self] at h
    rw [h]
    exact List.nil_subset _
  | case4 r _ ih =>
    rcases List.mem_cons.1 h with rfl | h
    · exact List.nil_subset _
    · exact List.subset_cons_of_subset _ (List.subset_cons_of_subset _ (ih h))
  | case5 d r _ _ ih =>
    rcases List.mem_cons.1 h with rfl | h
    · exact List.nil_subset _
    · exact List.subset_cons_of_subset _ (ih h)
  | case6 c r _ _ hn => exact absurd hn (naturalLines_ne_nil r)
  | case7 c r _ _ first rest hn ih =>
    rw [hn] at ih
    rcases List.mem_cons.1 h with rfl | h
    · exact List.cons_subset_cons c (ih List.mem_cons_self)
    · exact List.subset_cons_of_subset c (ih (List.mem_cons_of_mem first h))

theorem dropBlanks_subset (l : Text) : dropBlanks l ⊆ l := (List.dropWhile_sublist _).subset

theorem joined_valid {l : Text} {ls : List Text} (hl : Valid l) (hls : ∀ n ∈ ls, Valid n) :
    Valid (joined l ls).1 := by
  induction ls generalizing l with
  | nil =>
    rw [joined]
    split
    · exact hl.of_subset (List.dropLast_subset l)
    · exact hl
  | cons next rest ih =>
    rw [joined]
    split
    · refine ih ?_ fun n hn => hls n (List.mem_cons_of_mem next hn)
      exact (hl.of_subset (List.dropLast_subset l)).append
        ((hls next List.mem_cons_self).of_subset (dropBlanks_subset next))
    · exact hl

theorem Line.BeginsIn.valid {t : Text} (valid : Valid t) {l : Line}
    (h : l.BeginsIn (naturalLines t)) : Valid l.content := by
  obtain ⟨before, first, rest, hnatural, -, -, hcontent⟩ := h
  have hlines : ∀ n ∈ before ++ first :: rest, Valid n := fun n hn =>
    valid.of_subset (naturalLines_subset (hnatural ▸ hn))
  rw [hcontent]
  refine joined_valid ?_ fun n hn => hlines n (by simp [hn])
  exact (hlines first (by simp)).of_subset (dropBlanks_subset first)

theorem skipSeparation_subset (separated : Bool) (t : Text) : skipSeparation separated t ⊆ t := by
  fun_induction skipSeparation separated t with
  | case1 => exact fun _ h => h
  | case2 separated c r _ ih => exact fun d hd => List.mem_cons_of_mem c (ih hd)
  | case3 separated c r _ _ ih => exact fun d hd => List.mem_cons_of_mem c (ih hd)
  | case4 => exact fun _ h => h

theorem cut_subset (line : Text) : (cut line).1 ⊆ line ∧ (cut line).2 ⊆ line := by
  have hline := cutKey_append_rest false line
  constructor
  · intro c hc
    rw [← hline]
    exact List.mem_append_left _ hc
  · intro c hc
    rw [← hline]
    exact List.mem_append_right _ (skipSeparation_subset false _ hc)

theorem unescapeOne_lt {c : Nat} (h : c < 0x110000) : unescapeOne c < 0x110000 := by
  unfold unescapeOne
  grind

theorem hexValue?_lt {c n : Nat} (h : Text.hexValue? c = some n) : n < 16 := by
  unfold Text.hexValue? at h
  grind

theorem hexQuad?_lt {a b x y n : Nat} (h : hexQuad? a b x y = some n) : n < 0x10000 := by
  simp only [hexQuad?, Option.bind_eq_bind, Option.bind_eq_some_iff, Option.pure_def,
    Option.some.injEq] at h
  obtain ⟨p, hp, q, hq, r, hr, s, hs, rfl⟩ := h
  have hp := hexValue?_lt hp
  have hq := hexValue?_lt hq
  have hr := hexValue?_lt hr
  have hs := hexValue?_lt hs
  omega

theorem unescapeUnits_valid {t u : Text} (valid : Valid t) (h : unescapeUnits t = some u) :
    Valid u := by
  fun_induction unescapeUnits t generalizing u with
  | case1 =>
    cases h
    exact valid
  | case2 =>
    cases h
    exact fun _ hc => absurd hc List.not_mem_nil
  | case3 a b x y r ih =>
    obtain ⟨n, hn, h⟩ := Option.bind_eq_some_iff.1 h
    obtain ⟨v, hv, rfl⟩ := Option.map_eq_some_iff.1 h
    have hlt := hexQuad?_lt hn
    exact .cons (by omega) (ih (valid.of_subset (by intro c hc; simp [hc])) hv)
  | case4 => cases h
  | case5 e r _ ih =>
    obtain ⟨v, hv, rfl⟩ := Option.map_eq_some_iff.1 h
    have he : e < 0x110000 := valid e (by simp)
    exact .cons (unescapeOne_lt he) (ih (valid.of_subset (by intro c hc; simp [hc])) hv)
  | case6 c r _ ih =>
    obtain ⟨v, hv, rfl⟩ := Option.map_eq_some_iff.1 h
    exact .cons (valid c List.mem_cons_self) (ih (valid.of_subset (List.subset_cons_self c r)) hv)

/-! ## Entries -/

def Joined (t : Text) : Prop := Valid t ∧ ¬HasPair t

theorem joined_of_unescape {t u : Text} (valid : Valid t) (h : unescape t = some u) : Joined u := by
  obtain ⟨v, hv, rfl⟩ := Option.map_eq_some_iff.1 h
  exact ⟨(unescapeUnits_valid valid hv).joinPairs, Text.not_hasPair_joinPairs v⟩

theorem joined_of_readEntry {l : Line} {k v : Text} (valid : Valid l.content)
    (h : readEntry l = .ok (k, v)) : Joined k ∧ Joined v := by
  obtain ⟨hkey, hvalue⟩ := cut_subset l.content
  rw [readEntry] at h
  split at h
  · next k' v' hk hv =>
    cases h
    exact ⟨joined_of_unescape (valid.of_subset hkey) hk,
      joined_of_unescape (valid.of_subset hvalue) hv⟩
  · cases h

structure IsNormal (m : Properties) : Prop where
  distinct : (OrderedMap.keys m).Nodup
  joined : ∀ p ∈ m, Joined p.1 ∧ Joined p.2

theorem IsNormal.put {m : Properties} (h : IsNormal m) {k v : Text} (hk : Joined k)
    (hv : Joined v) : IsNormal (m.put k v) where
  distinct := OrderedMap.nodup_put h.distinct k v
  joined p hp := by
    rcases OrderedMap.mem_put hp with rfl | hp
    · exact ⟨hk, hv⟩
    · exact h.joined p hp

theorem IsNormal.readEntries {m m' : Properties} {ls : List Line} (hm : IsNormal m)
    (valid : ∀ l ∈ ls, Valid l.content) (h : readEntries m ls = .ok m') : IsNormal m' := by
  induction ls generalizing m with
  | nil =>
    cases h
    exact hm
  | cons l ls ih =>
    rw [Properties.readEntries] at h
    split at h
    · next k v hr =>
      obtain ⟨hk, hv⟩ := joined_of_readEntry (valid l List.mem_cons_self) hr
      exact ih (hm.put hk hv) (fun n hn => valid n (List.mem_cons_of_mem l hn)) h
    · cases h

theorem isNormal_of_read {t : Text} {m : Properties} (valid : Valid t) (h : read t = .ok m) :
    IsNormal m := by
  have hnil : IsNormal [] := ⟨List.nodup_nil, fun p hp => absurd hp List.not_mem_nil⟩
  exact hnil.readEntries (fun l hl => (beginsIn_of_mem hl).valid valid) h

theorem IsNormal.read_written {m : Properties} (h : IsNormal m) (comment : Text) :
    read (write m comment) = .ok m := by
  rw [read_entries fun p hp => ⟨(h.joined p hp).1.1, (h.joined p hp).2.1⟩,
    map_joinPairs fun p hp => ⟨(h.joined p hp).1.2, (h.joined p hp).2.2⟩,
    OrderedMap.ofPairs_of_nodup h.distinct]

/-- In what a text is read to no high surrogate stands before a low one. Written, whatever the
comment, it is read as the same entries in the same order, and these are written as before. -/
theorem read_is_normal {t : Text} {m : Properties} (valid : Valid t) (h : read t = .ok m) :
    (∀ p ∈ m, ¬HasPair p.1 ∧ ¬HasPair p.2) ∧
      ∀ comment, read (write m comment) = .ok m ∧
        ∃ m', read (write m comment) = .ok m' ∧ write m' comment = write m comment := by
  have hm := isNormal_of_read valid h
  refine ⟨fun p hp => ⟨(hm.joined p hp).1.2, (hm.joined p hp).2.2⟩, fun comment => ?_⟩
  have hread := hm.read_written comment
  exact ⟨hread, m, hread, rfl⟩

theorem read_is_normal_halves :
    Valid (text "k:x\nu \\ud800\nk=" ++ 0xD83D :: text "\\ude00") ∧
      read (text "k:x\nu \\ud800\nk=" ++ 0xD83D :: text "\\ude00") =
        .ok [([0x6B], [0x1F600]), ([0x75], [0xD800])] ∧
      read (write [([0x6B], [0x1F600]), ([0x75], [0xD800])] []) =
        .ok [([0x6B], [0x1F600]), ([0x75], [0xD800])] := by
  have hvalid : Valid (text "k:x\nu \\ud800\nk=" ++ 0xD83D :: text "\\ude00") := by
    simp [Valid, text]
  have hlines : logicalLines (text "k:x\nu \\ud800\nk=" ++ 0xD83D :: text "\\ude00") =
      [⟨1, text "k:x"⟩, ⟨2, text "u \\ud800"⟩, ⟨3, text "k=" ++ 0xD83D :: text "\\ude00"⟩] := by cbv
  have hfirst : readEntry ⟨1, text "k:x"⟩ = .ok ([0x6B], [0x78]) := by cbv
  have hlone : readEntry ⟨2, text "u \\ud800"⟩ = .ok ([0x75], [0xD800]) := by cbv
  have hkey : unescape (cut (text "k=" ++ 0xD83D :: text "\\ude00")).1 = some [0x6B] := by decide
  have hpair : unescape (cut (text "k=" ++ 0xD83D :: text "\\ude00")).2 = some [0x1F600] := by decide
  have hjoined : readEntry ⟨3, text "k=" ++ 0xD83D :: text "\\ude00"⟩ = .ok ([0x6B], [0x1F600]) := by
    simp only [readEntry, hkey, hpair]
  have hread : read (text "k:x\nu \\ud800\nk=" ++ 0xD83D :: text "\\ude00") =
      .ok [([0x6B], [0x1F600]), ([0x75], [0xD800])] := by
    rw [read, hlines]
    simp only [readEntries, hfirst, hlone, hjoined]
    rfl
  exact ⟨hvalid, hread, ((read_is_normal hvalid hread).2 []).1⟩

end Properties
end ResourceLookup
