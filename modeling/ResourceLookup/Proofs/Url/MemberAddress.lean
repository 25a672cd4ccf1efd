import ResourceLookup.Proofs.Url.FileAddress

/-!
# Addresses that tell members apart

Between the archive and the member stands a mark, and the member after it is written as it is. The
written path of the archive has no exclamation mark, not even where a directory on it has one, so
the first mark of the address is the one that was put there. Cut at it, the address gives the path of
the archive and the name of the member back, and so it is the address of no other.
-/

namespace ResourceLookup

/-! ## The first mark -/

namespace Text

variable {mark t a b : Text}

theorem after?_eq_some_iff {start r : Text} : after? start t = some r ↔ t = start ++ r := by
  rw [after?]
  split
  · next h =>
    obtain ⟨s, rfl⟩ := List.isPrefixOf_iff_prefix.1 h
    simp
  · next h =>
    refine iff_of_false (Option.some_ne_none r).symm fun ht => h ?_
    rw [ht]
    exact List.isPrefixOf_iff_prefix.2 (List.prefix_append start r)

def cutAtMark (mark : Text) : Text → Option (Text × Text)
  | [] => (after? mark []).map fun rest => ([], rest)
  | c :: r =>
    match after? mark (c :: r) with
    | some rest => some ([], rest)
    | none => (cutAtMark mark r).map fun p => (c :: p.1, p.2)

theorem cutAtMark_of_after {rest : Text} (h : after? mark t = some rest) :
    cutAtMark mark t = some ([], rest) := by
  cases t with
  | nil => rw [cutAtMark, h, Option.map_some]
  | cons c r => simp only [cutAtMark, h]

theorem cutAtMark_eq_some_iff :
    cutAtMark mark t = some (a, b) ↔
      t = a ++ mark ++ b ∧ ∀ x y, t = x ++ mark ++ y → a.length ≤ x.length := by
  induction t generalizing a with
  | nil =>
    rw [cutAtMark, Option.map_eq_some_iff]
    constructor
    · rintro ⟨rest, hafter, hcut⟩
      obtain ⟨rfl, rfl⟩ := Prod.mk.inj hcut
      exact ⟨after?_eq_some_iff.1 hafter, fun _ _ _ => Nat.zero_le _⟩
    · rintro ⟨ht, -⟩
      obtain ⟨rfl, rfl, rfl⟩ : a = [] ∧ mark = [] ∧ b = [] := by simpa using ht
      exact ⟨[], rfl, rfl⟩
  | cons c r ih =>
    cases hafter : after? mark (c :: r) with
    | some rest =>
      rw [cutAtMark_of_after hafter]
      rw [after?_eq_some_iff] at hafter
      constructor
      · intro hcut
        obtain ⟨rfl, rfl⟩ := Prod.mk.inj (Option.some.inj hcut)
        exact ⟨hafter, fun _ _ _ => Nat.zero_le _⟩
      · rintro ⟨ht, hfirst⟩
        obtain rfl := List.length_eq_zero_iff.1 (Nat.le_zero.1 (hfirst [] rest hafter))
        rw [List.nil_append, hafter, List.append_cancel_left_eq] at ht
        rw [ht]
    | none =>
      -- The mark does not stand at the beginning, so that something is before it wherever it is.
      have hbegin : ∀ x y, c :: r = x ++ mark ++ y → ∃ x', x = c :: x' ∧ r = x' ++ mark ++ y := by
        intro x y hx
        cases x with
        | nil =>
          rw [List.nil_append, ← after?_eq_some_iff, hafter] at hx
          cases hx
        | cons d x' =>
          obtain ⟨rfl, hr⟩ := List.cons.inj hx
          exact ⟨x', rfl, hr⟩
      simp only [cutAtMark, hafter, Option.map_eq_some_iff]
      constructor
      · rintro ⟨⟨a', b'⟩, hcut, hpair⟩
        obtain ⟨rfl, rfl⟩ := Prod.mk.inj hpair
        obtain ⟨rfl, hfirst⟩ := ih.1 hcut
        refine ⟨rfl, fun x y hx => ?_⟩
        obtain ⟨x', rfl, hr⟩ := hbegin x y hx
        exact Nat.succ_le_succ (hfirst x' y hr)
      · rintro ⟨ht, hfirst⟩
        obtain ⟨a', rfl, hr⟩ := hbegin a b ht
        refine ⟨(a', b), ih.2 ⟨hr, fun x y hx => ?_⟩, rfl⟩
        have hle := hfirst (c :: x) y (by rw [hx]; rfl)
        exact Nat.le_of_succ_le_succ hle

theorem cutAtMark_append {c : Nat} (h : c ∉ a) (marks b : Text) :
    cutAtMark (c :: marks) (a ++ (c :: marks) ++ b) = some (a, b) := by
  refine cutAtMark_eq_some_iff.2 ⟨rfl, fun x y hx => ?_⟩
  rw [List.append_assoc, List.append_assoc] at hx
  rcases List.append_eq_append_iff.1 hx with ⟨s, rfl, -⟩ | ⟨s, rfl, hs⟩
  · rw [List.length_append]
    exact Nat.le_add_right _ _
  · cases s with
    | nil => exact Nat.le_of_eq (by rw [List.append_nil])
    | cons d s =>
      obtain ⟨rfl, -⟩ := List.cons.inj hs
      exact absurd (List.mem_append_right x List.mem_cons_self) h

end Text

/-! ## The address of a member -/

namespace Url

open Text Percent

def readMember? (url : Text) : Option (Text × Text) :=
  (after? memberScheme url).bind (cutAtMark memberMark)

structure ResolvedPath (t : FileTree) (cwd : Location) (archive path : Text) : Prop where
  resolves : ∃ l, t.resolve cwd (Path.ofText archive) = .ok l ∧ Location.toText l = path
  scalar : HasScalarValues path

variable {t t' : FileTree} {cwd cwd' : Location}
variable {archive archive' path path' member member' : Text}

def ofPath (path : Text) : Text :=
  text "file" ++ 0x3A :: 0x2F :: 0x2F :: encode (path.flatMap Utf8.encodeOne)

theorem ofPath_toText (l : Location) : ofPath (Location.toText l) = ofLocation l := rfl

theorem exclamation_notMem_ofPath (path : Text) : 0x21 ∉ ofPath path := by
  have hbefore : 0x21 ∉ text "file" ++ [0x3A, 0x2F, 0x2F] := by decide
  have hwritten : 0x21 ∉ encode (path.flatMap Utf8.encodeOne) := fun hc =>
    absurd (encode_written hc) (by decide)
  have happend : ofPath path =
      text "file" ++ [0x3A, 0x2F, 0x2F] ++ encode (path.flatMap Utf8.encodeOne) := by simp [ofPath]
  rw [happend, List.mem_append]
  exact not_or.2 ⟨hbefore, hwritten⟩

/-- Percent signs are read back, so that no two paths have one address. -/
theorem ofPath_inj (scalar : HasScalarValues path) (scalar' : HasScalarValues path') :
    ofPath path = ofPath path' ↔ path = path' := by
  refine ⟨fun h => ?_, fun h => h ▸ rfl⟩
  have hwritten : encode (path.flatMap Utf8.encodeOne) = encode (path'.flatMap Utf8.encodeOne) := by
    simpa [ofPath] using h
  rw [← decodeText_encode scalar, hwritten, decodeText_encode scalar']

namespace ResolvedPath

theorem ofMember_eq (h : ResolvedPath t cwd archive path) (member : Text) :
    ofMember t cwd (Path.ofText archive) member =
      .ok (memberScheme ++ ofPath path ++ memberMark ++ member) := by
  obtain ⟨⟨l, hresolve, rfl⟩, scalar⟩ := h
  have hurl : t.urlOf cwd (Path.ofText archive) = .ok (ofPath (Location.toText l)) := by
    rw [FileTree.urlOf, hresolve]
    simp only [toUrl_of_scalarValues scalar, ofPath_toText]
    rfl
  rw [ofMember, hurl]
  rfl

theorem toPath_ofPath (h : ResolvedPath t cwd archive path) :
    toPath (ofPath path) = .ok (Path.ofText path) := by
  obtain ⟨⟨l, -, rfl⟩, scalar⟩ := h
  rw [ofPath_toText, toPath, split_address, ← decodeText_written scalar]
  rfl

end ResolvedPath

theorem readMember?_ofPath (path member : Text) :
    readMember? (memberScheme ++ ofPath path ++ memberMark ++ member) =
      some (ofPath path, member) := by
  have hafter : after? memberScheme (memberScheme ++ ofPath path ++ memberMark ++ member) =
      some (ofPath path ++ memberMark ++ member) :=
    after?_eq_some_iff.2 (by simp only [List.append_assoc])
  rw [readMember?, hafter, Option.bind_some]
  exact cutAtMark_append (exclamation_notMem_ofPath path) (text "/") member

/-- Two members have the same address just where their archives have the same path and they have the
same name, in whatever state of the file system each address was made. Cut at the first mark after
the scheme, the address of a member gives the address of the archive, which leads to its path, and
the name of the member. -/
theorem member_address_unique (h : ResolvedPath t cwd archive path)
    (h' : ResolvedPath t' cwd' archive' path') (member member' : Text) :
    (ofMember t cwd (Path.ofText archive) member = ofMember t' cwd' (Path.ofText archive') member' ↔
      path = path' ∧ member = member') ∧
    ∃ url address, ofMember t cwd (Path.ofText archive) member = .ok url ∧
      readMember? url = some (address, member) ∧ toPath address = .ok (Path.ofText path) := by
  have hread := readMember?_ofPath path member
  refine ⟨⟨fun heq => ?_, ?_⟩, _, _, h.ofMember_eq member, hread, h.toPath_ofPath⟩
  · rw [h.ofMember_eq, h'.ofMember_eq, Except.ok.injEq] at heq
    rw [heq, readMember?_ofPath] at hread
    obtain ⟨haddress, rfl⟩ := Prod.mk.inj (Option.some.inj hread)
    exact ⟨((ofPath_inj h'.scalar h.scalar).1 haddress).symm, rfl⟩
  · rintro ⟨rfl, rfl⟩
    rw [h.ofMember_eq, h'.ofMember_eq]

def besideMark : FileTree :=
  [([text "a!"], .directory), ([text "a!", text "b"], .archive []),
    ([text "a"], .archive [(text "b!/c", .octets [])])]

theorem member_address_unique_besideMark :
    ofMember besideMark [] (Path.ofText (text "/a!/b")) (text "c") ≠
      ofMember besideMark [] (Path.ofText (text "a")) (text "b!/c") ∧
    ∃ url address, ofMember besideMark [] (Path.ofText (text "/a!/b")) (text "c") = .ok url ∧
      readMember? url = some (address, text "c") ∧
      toPath address = .ok (Path.ofText (text "/a!/b")) := by
  have ascii : ∀ {p : Text}, (∀ c ∈ p, c < 0x80) → HasScalarValues p := fun h c hc =>
    isScalarValue_of_ascii (h c hc)
  have inner : ResolvedPath besideMark [] (text "/a!/b") (text "/a!/b") :=
    ⟨⟨[text "a!", text "b"], by cbv, by decide⟩, ascii (by decide)⟩
  have beside : ResolvedPath besideMark [] (text "a") (text "/a") :=
    ⟨⟨[text "a"], by cbv, by decide⟩, ascii (by decide)⟩
  obtain ⟨same, back⟩ := member_address_unique inner beside (text "c") (text "b!/c")
  exact ⟨fun h => absurd (same.1 h).1 (by decide), back⟩

end Url
end ResourceLookup
