import ResourceLookup.Proofs.Properties.Written

/-!
# Reading what was written

A written property file is a list of natural lines, one for each line of the comment and one for
each entry. The reader passes over the former and takes each of the latter whole, so that it
finds the entries in their order, whatever characters they and the comment are made of. Only a
high surrogate directly before a low one is not kept: it comes back as the character that the two
encode.
-/

namespace ResourceLookup.Properties

open Text (Valid HasPair joinPairs)

def octetsOf? (t : Text) : Option Octets :=
  t.mapM fun c => if c < 0x100 then some (UInt8.ofNat c) else none

theorem octetsOf?_eq_some {t : Text} (h : ∀ c ∈ t, c < 0x100) :
    octetsOf? t = some (t.map UInt8.ofNat) := by
  induction t with
  | nil => rfl
  | cons c r ih =>
    have hr := ih fun d hd => h d (List.mem_cons_of_mem _ hd)
    rw [octetsOf?] at hr ⊢
    simp [List.mapM_cons, h c List.mem_cons_self, hr]

theorem textOfOctets_map {t : Text} (h : ∀ c ∈ t, c < 0x100) :
    textOfOctets (t.map UInt8.ofNat) = t := by
  induction t with
  | nil => rfl
  | cons c r ih =>
    have hc : (UInt8.ofNat c).toNat = c := by
      rw [UInt8.toNat_ofNat']
      exact Nat.mod_eq_of_lt (h c List.mem_cons_self)
    have hr := ih fun d hd => h d (List.mem_cons_of_mem _ hd)
    rw [textOfOctets] at hr ⊢
    rw [List.map_cons, List.map_cons, hc, hr]

/-! ## The lines of a written file -/

def commentContent (l : Text) : Text :=
  0x23 :: l.flatMap fun c => if isPlain c then [c] else numbered c

def entryContent (p : Text × Text) : Text := escapeKey p.1 ++ 0x3D :: escapeValue p.2

theorem write_eq (entries : List (Text × Text)) (comment : Text) :
    write entries comment =
      ((commentLines comment).map commentContent ++ entries.map entryContent).flatMap
        (· ++ [0x0A]) := by
  have hc : (fun l => commentContent l ++ [0x0A]) = writeCommentLine := rfl
  have he : (fun p => entryContent p ++ [0x0A]) = writeEntry := by
    funext p
    simp [entryContent, writeEntry]
  rw [List.flatMap_append, List.flatMap_map, List.flatMap_map, hc, he, write]

theorem commentContent_plain (l : Text) : ∀ c ∈ commentContent l, isPlain c := by
  intro c hc
  rcases List.mem_cons.1 hc with rfl | hc
  · decide
  · obtain ⟨d, -, hd⟩ := List.mem_flatMap.1 hc
    split at hd
    · next hp => rwa [List.mem_singleton.1 hd]
    · exact (escaped_numbered d).plain c hd

theorem entryContent_plain (p : Text × Text) : ∀ c ∈ entryContent p, isPlain c := by
  intro c hc
  rcases List.mem_append.1 hc with hc | hc
  · exact (escaped_escapeKey p.1).plain c hc
  · rcases List.mem_cons.1 hc with rfl | hc
    · decide
    · exact (escaped_escapeValue p.2).plain c hc

theorem naturalLines_plain {l : Text} (h : ∀ c ∈ l, isPlain c) (r : Text) :
    naturalLines (l ++ 0x0A :: r) = l :: naturalLines r := by
  induction l with
  | nil =>
    rw [List.nil_append, naturalLines.eq_def]
    simp
  | cons c l ih =>
    have hc := h c List.mem_cons_self
    simp only [isPlain, Bool.and_eq_true, decide_eq_true_eq] at hc
    have hl : ¬c = 0x0A := by omega
    have hr : ¬c = 0x0D := by omega
    rw [List.cons_append, naturalLines.eq_def]
    simp [hl, hr, ih fun d hd => h d (List.mem_cons_of_mem _ hd)]

theorem naturalLines_flatMap {ls : List Text} (h : ∀ l ∈ ls, ∀ c ∈ l, isPlain c) :
    naturalLines (ls.flatMap (· ++ [0x0A])) = ls ++ [[]] := by
  induction ls with
  | nil => rfl
  | cons l ls ih =>
    rw [List.flatMap_cons, List.append_assoc, List.singleton_append,
      naturalLines_plain (h l List.mem_cons_self), ih fun m hm => h m (List.mem_cons_of_mem _ hm)]
    rfl

theorem naturalLines_write (entries : List (Text × Text)) (comment : Text) :
    naturalLines (write entries comment) =
      (commentLines comment).map commentContent ++ (entries.map entryContent ++ [[]]) := by
  rw [write_eq, naturalLines_flatMap, List.append_assoc]
  intro l hl
  rcases List.mem_append.1 hl with hl | hl
  · obtain ⟨x, -, rfl⟩ := List.mem_map.1 hl
    exact commentContent_plain x
  · obtain ⟨p, -, rfl⟩ := List.mem_map.1 hl
    exact entryContent_plain p

theorem write_plain (entries : List (Text × Text)) (comment : Text) :
    ∀ c ∈ write entries comment, isPlain c ∨ c = 0x0A := by
  intro c hc
  rw [write_eq, List.mem_flatMap] at hc
  obtain ⟨l, hl, hc⟩ := hc
  rcases List.mem_append.1 hc with hc | hc
  · left
    rcases List.mem_append.1 hl with hl | hl
    · obtain ⟨x, -, rfl⟩ := List.mem_map.1 hl
      exact commentContent_plain x c hc
    · obtain ⟨p, -, rfl⟩ := List.mem_map.1 hl
      exact entryContent_plain p c hc
  · exact Or.inr (List.mem_singleton.1 hc)

/-! ## The reader on these lines -/

theorem joined_of_even {l : Text} (even : continues l = false) (ls : List Text) :
    joined l ls = (l, ls) := by
  cases ls <;> simp [joined, even]

theorem logicalFrom_comments (number : Nat) (cs ls : List Text) :
    logicalFrom number (cs.map commentContent ++ ls) = logicalFrom (number + cs.length) ls := by
  induction cs generalizing number with
  | nil => rfl
  | cons c cs ih =>
    have hi : isIgnored (dropBlanks (commentContent c)) = true := by
      simp [commentContent, dropBlanks, isBlank, isIgnored, isCommentMark]
    rw [List.map_cons, List.cons_append, logicalFrom, if_pos hi, ih, List.length_cons]
    congr 1
    omega

theorem entryContent_head {p : Text × Text} {c : Nat} {r : Text} (h : entryContent p = c :: r) :
    ¬isBlank c ∧ ¬isCommentMark c := by
  have he := escaped_escapeKey p.1
  rw [entryContent] at h
  cases hk : escapeKey p.1 with
  | nil =>
    rw [hk, List.nil_append] at h
    rw [← (List.cons.inj h).1]
    decide
  | cons d s =>
    rw [hk] at he h
    rw [List.cons_append] at h
    rw [← (List.cons.inj h).1]
    exact he.head_cons

theorem entryContent_even (p : Text × Text) : continues (entryContent p) = false := by
  have hk : continues (escapeKey p.1) = false :=
    (escaped_escapeKey p.1).continues_append (l := []) continues_nil
  rw [entryContent, List.append_cons]
  refine (escaped_escapeValue p.2).continues_append ?_
  rw [continues_concat]
  rfl

theorem logicalFrom_entry (number : Nat) (p : Text × Text) (ls : List Text) :
    logicalFrom number (entryContent p :: ls) =
      ⟨number, entryContent p⟩ :: logicalFrom (number + 1) ls := by
  have hd : dropBlanks (entryContent p) = entryContent p ∧ ¬isIgnored (entryContent p) := by
    cases hp : entryContent p with
    | nil => simp [entryContent] at hp
    | cons c r =>
      obtain ⟨hb, hm⟩ := entryContent_head hp
      simp [dropBlanks, isIgnored, hb, hm]
  rw [logicalFrom, hd.1, if_neg hd.2, joined_of_even (entryContent_even p)]
  simp

theorem cut_entryContent (p : Text × Text) :
    cut (entryContent p) = (escapeKey p.1, escapeValue p.2) := by
  have hs : skipSeparation true (escapeValue p.2) = escapeValue p.2 := by
    cases hv : escapeValue p.2 with
    | nil => rfl
    | cons c r => simp [skipSeparation, escapeValue_head hv]
  have hk := (escaped_escapeKey p.1).cutKey_append (0x3D :: escapeValue p.2)
  simp [cut, entryContent, hk, cutKey, isSeparator, backslash, skipSeparation, isBlank, hs]

theorem readEntry_entryContent {p : Text × Text} (hk : Valid p.1) (hv : Valid p.2) (number : Nat) :
    readEntry ⟨number, entryContent p⟩ = .ok (joinPairs p.1, joinPairs p.2) := by
  simp [readEntry, cut_entryContent, unescape_escapeKey hk, unescape_escapeValue hv]

theorem readEntries_entries (m : Properties) (number : Nat) {entries : List (Text × Text)}
    (valid : ∀ p ∈ entries, Valid p.1 ∧ Valid p.2) :
    readEntries m (logicalFrom number (entries.map entryContent ++ [[]])) =
      .ok ((entries.map (Prod.map joinPairs joinPairs)).foldl (fun m p => m.put p.1 p.2) m) := by
  induction entries generalizing m number with
  | nil => simp [logicalFrom, dropBlanks, isIgnored, readEntries]
  | cons p entries ih =>
    obtain ⟨hk, hv⟩ := valid p List.mem_cons_self
    rw [List.map_cons, List.cons_append, logicalFrom_entry, readEntries,
      readEntry_entryContent hk hv]
    exact ih _ _ fun q hq => valid q (List.mem_cons_of_mem _ hq)

theorem read_entries {entries : List (Text × Text)}
    (valid : ∀ p ∈ entries, Valid p.1 ∧ Valid p.2) (comment : Text) :
    read (write entries comment) =
      .ok (OrderedMap.ofPairs (entries.map (Prod.map joinPairs joinPairs))) := by
  rw [read, logicalLines, naturalLines_write, logicalFrom_comments]
  exact readEntries_entries [] _ valid

theorem map_joinPairs {entries : List (Text × Text)}
    (lone : ∀ p ∈ entries, ¬HasPair p.1 ∧ ¬HasPair p.2) :
    entries.map (Prod.map joinPairs joinPairs) = entries := by
  induction entries with
  | nil => rfl
  | cons p r ih =>
    obtain ⟨hk, hv⟩ := lone p List.mem_cons_self
    rw [List.map_cons, ih fun q hq => lone q (List.mem_cons_of_mem _ hq), Prod.map,
      Text.joinPairs_eq_self hk, Text.joinPairs_eq_self hv]

theorem write_lt (entries : List (Text × Text)) (comment : Text) :
    ∀ c ∈ write entries comment, c < 0x100 := by
  intro c hc
  rcases write_plain entries comment c hc with hp | rfl
  · simp only [isPlain, Bool.and_eq_true, decide_eq_true_eq] at hp
    omega
  · decide

/-- Reading a written file gives its entries, put one after the other with their pairs joined,
and thus the entries themselves where their keys differ and none of them holds a pair. A file
consists of printable characters and line feeds, so that every character of it has an octet, and
the octets are read as the text is. -/
theorem read_write (entries : List (Text × Text)) (comment : Text)
    (valid : ∀ p ∈ entries, Valid p.1 ∧ Valid p.2) :
    read (write entries comment) =
        .ok (OrderedMap.ofPairs (entries.map (Prod.map joinPairs joinPairs))) ∧
      ((OrderedMap.keys entries).Nodup → (∀ p ∈ entries, ¬HasPair p.1 ∧ ¬HasPair p.2) →
        read (write entries comment) = .ok entries) ∧
      (∀ c ∈ write entries comment, (0x20 ≤ c ∧ c ≤ 0x7E) ∨ c = 0x0A) ∧
      octetsOf? (write entries comment) = some (writeOctets entries comment) ∧
      readOctets (writeOctets entries comment) = read (write entries comment) := by
  have hr := read_entries valid comment
  refine ⟨hr, fun distinct lone => ?_, fun c hc => ?_, ?_, ?_⟩
  · rw [hr, map_joinPairs lone, OrderedMap.ofPairs_of_nodup distinct]
  · simpa [isPlain] using write_plain entries comment c hc
  · exact octetsOf?_eq_some (write_lt entries comment)
  · rw [readOctets, writeOctets, textOfOctets_map (write_lt entries comment)]

theorem read_write_specials :
    (∀ p ∈ [([0x20, 0x3D], [0x20, 0x0D, 0x0A, 0x5C]), ([], [0xDC00, 0xD800, 0x0C])],
      Valid p.1 ∧ Valid p.2) ∧
    (OrderedMap.keys [([0x20, 0x3D], [0x20, 0x0D, 0x0A, 0x5C]),
      (([] : Text), [0xDC00, 0xD800, 0x0C])]).Nodup ∧
    (∀ p ∈ [([0x20, 0x3D], [0x20, 0x0D, 0x0A, 0x5C]), ([], [0xDC00, 0xD800, 0x0C])],
      ¬HasPair p.1 ∧ ¬HasPair p.2) ∧
    read (write [([0x20, 0x3D], [0x20, 0x0D, 0x0A, 0x5C]), ([], [0xDC00, 0xD800, 0x0C])]
      [0x0D, 0x2028, 0x5C]) =
      .ok [([0x20, 0x3D], [0x20, 0x0D, 0x0A, 0x5C]), ([], [0xDC00, 0xD800, 0x0C])] := by
  have hv : ∀ p ∈ [([0x20, 0x3D], [0x20, 0x0D, 0x0A, 0x5C]), ([], [0xDC00, 0xD800, 0x0C])],
      Valid p.1 ∧ Valid p.2 := by simp [Valid]
  have hd : (OrderedMap.keys [([0x20, 0x3D], [0x20, 0x0D, 0x0A, 0x5C]),
      (([] : Text), [0xDC00, 0xD800, 0x0C])]).Nodup := by decide
  have hp : ∀ p ∈ [([0x20, 0x3D], [0x20, 0x0D, 0x0A, 0x5C]), ([], [0xDC00, 0xD800, 0x0C])],
      ¬HasPair p.1 ∧ ¬HasPair p.2 := by simp [HasPair, Text.isHigh, Text.isLow]
  exact ⟨hv, hd, hp, (read_write _ _ hv).2.1 hd hp⟩

end ResourceLookup.Properties
