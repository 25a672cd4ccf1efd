import ResourceLookup.Access
import ResourceLookup.Proofs.Chain.Address
import ResourceLookup.Proofs.Url.Percent

/-!
# Addresses of files

The address of a place in the file system is split where it was put together, so that reading its
path gives the path of the place back, whatever characters are in it. Opened on this host it is what
the place holds.
-/

namespace ResourceLookup

open Text ResourceLookup.Path

/-! ## The address of a location -/

namespace Url

open Percent

variable {l : Location}

def written (l : Location) : Text := encode ((Location.toText l).flatMap Utf8.encodeOne)

def ofLocation (l : Location) : Text := text "file" ++ 0x3A :: 0x2F :: 0x2F :: written l

theorem toUrl_of_scalarValues (scalar : HasScalarValues (Location.toText l)) :
    Location.toUrl l = .ok (ofLocation l) := by
  rw [Location.toUrl, Utf8.encodeName?_of_scalarValues scalar]
  rfl

theorem written_eq (l : Location) :
    written l = 0x2F :: encode ((joinWith [slash] l).flatMap Utf8.encodeOne) := rfl

theorem decodeText_written (scalar : HasScalarValues (Location.toText l)) :
    decodeText (written l) = Location.toText l := decodeText_encode scalar

theorem head?_encode {t : Text} (scalar : HasScalarValues t) (h : t.head? ≠ some slash) :
    (encode (t.flatMap Utf8.encodeOne)).head? ≠ some 0x2F := by
  intro hhead
  -- Decoding would give the slash back as the first character.
  have htext := decodeText_encode scalar
  have hgraphic := encode_graphic (t.flatMap Utf8.encodeOne)
  obtain ⟨r, hr⟩ := List.head?_eq_some_iff.1 hhead
  rw [hr] at htext hgraphic
  have ascii : ∀ c ∈ 0x2F :: r, c < 0x80 := fun c hc =>
    Nat.lt_of_le_of_lt (hgraphic c hc).2.1 (by decide)
  rw [decodeText_of_ascii ascii, asOctets, List.map_cons, decode_cons_of_ne (by decide)] at htext
  have hslash := Utf8.decodeReplacing_encodeOne (isScalarValue_of_ascii (show 0x2F < 0x80 by decide))
    (decode (r.map UInt8.ofNat))
  rw [← htext] at h
  exact h (congrArg List.head? hslash)

theorem notMem_written {c : Nat} (h : ¬IsWritten c) : c ∉ written l :=
  fun hc => h (encode_written hc)

theorem split_written (components : ∀ n ∈ l, IsComponent n)
    (scalar : HasScalarValues (Location.toText l)) : ∃ s, split (written l) = .ok s := by
  have hscheme : splitScheme (written l) = ([], written l) := by
    rw [splitScheme, cutFirst_eq_none_iff.2 (notMem_written (by decide))]
  have hrest : HasScalarValues (joinWith [slash] l) := fun c hc =>
    scalar c (List.mem_cons_of_mem _ hc)
  have hhead := head?_encode hrest (head?_joinWith fun n hn => (components n hn).toIsStep)
  have hauthority : splitAuthority (splitScheme (written l)).2 = ([], written l) := by
    rw [hscheme, splitAuthority.eq_def]
    split
    · next r hr =>
      rw [written_eq] at hr
      exact absurd (congrArg List.head? (List.cons.inj hr).2) hhead
    · rfl
  exact ⟨_, split_of_graphic (encode_graphic _) hauthority (notMem_written (by decide))⟩

theorem split_address (l : Location) :
    split (ofLocation l) = .ok ⟨text "file", [], written l⟩ := by
  have hscheme : splitScheme (ofLocation l) = (text "file", 0x2F :: 0x2F :: written l) :=
    splitScheme_of_scheme ⟨by decide, by decide⟩ _
  have hauthority : splitAuthority (splitScheme (ofLocation l)).2 = ([], written l) := by
    rw [hscheme]
    rfl
  have hgraphic : IsGraphicText (ofLocation l) :=
    IsGraphicText.append (by decide) (List.forall_mem_cons.2 ⟨by decide, List.forall_mem_cons.2
      ⟨by decide, List.forall_mem_cons.2 ⟨by decide, encode_graphic _⟩⟩⟩)
  have hsplit := split_of_graphic hgraphic hauthority (notMem_written (by decide))
  rw [hscheme] at hsplit
  have hparameters : (parameterSchemes.any fun k => text k == text "file") = false := by decide
  simp only [hparameters, Bool.false_eq_true, ↓reduceIte] at hsplit
  exact hsplit

theorem toPath_address (components : ∀ n ∈ l, IsComponent n)
    (scalar : HasScalarValues (Location.toText l)) :
    toPath (ofLocation l) = .ok ⟨.root, l⟩ := by
  have hnormal : Path.IsNormal ⟨.root, l⟩ := fun n hn => (components n hn).toIsStep
  rw [toPath, split_address]
  refine congrArg Except.ok ?_
  simp only
  rw [decodeText_written scalar, Location.toText_eq, ofText_toText hnormal]

/-! ## Opening it -/

def requestAt (l : Location) : Request := ⟨ofLocation l, text "file", some [], written l⟩

theorem request_address (l : Location) : request (ofLocation l) = .ok (requestAt l) := by
  have hgraphic : IsGraphicText (0x2F :: 0x2F :: written l) :=
    List.forall_mem_cons.2 ⟨by decide, List.forall_mem_cons.2 ⟨by decide, encode_graphic _⟩⟩
  rw [ofLocation, request_of_scheme ⟨by decide, by decide⟩ hgraphic (split_address l)]
  rfl

theorem isBarred_requestAt (l : Location) : (requestAt l).isBarred = false := by
  simp [Request.isBarred, requestAt]

variable {t : FileTree} {cwd : Location} {e : Entry}

theorem openUrl_address (outside : Outside) (holds : t.Holds l e) (file : e.isDirectory = false)
    (scalar : HasScalarValues (Location.toText l)) (nameable : 0 ∉ Location.toText l)
    (short : FileTree.isTooLongPath (Location.toText l) = false) :
    openUrl t cwd (ofLocation l) outside = .ok (.file, e.toOctets) := by
  obtain ⟨s, hsplit⟩ := split_written holds.components scalar
  have hlocate : t.locate cwd (Location.toText l) = .ok (l, e) := by
    rw [holds.locate cwd, short]
    rfl
  have hlocal : openLocal t cwd outside (requestAt l) = .ok e.toOctets := by
    rw [openLocal, requestAt]
    have hnull : (Location.toText l).contains 0 = false := by
      rw [← Bool.not_eq_true, List.contains_iff_mem]
      exact nameable
    have hhost : checkHost outside [] = .ok () := rfl
    simp only [decodeText_written scalar, Utf8.encodeName?_of_scalarValues scalar, hnull, hlocate,
      hsplit, Option.getD_some, hhost, file, Bool.false_eq_true, ↓reduceIte]
  have hopen : openFile t cwd outside (requestAt l) = .ok e.toOctets := by
    rw [openFile, if_neg (Bool.eq_false_iff.1 (isBarred_requestAt l)), hlocal]
  have hrequest : openRequest t cwd outside (requestAt l) = .ok (.file, e.toOctets) := by
    have hscheme : (requestAt l).scheme = text "file" := rfl
    rw [openRequest, hscheme, if_neg (by decide), if_pos rfl, hopen]
    rfl
  rw [openUrl, request_address]
  simp only [hrequest]

end Url

/-! ## Files of a directory -/

namespace Resolver

open Access

variable {root : Path} {name : Text} {w : World} {l : Location}

/-- From the root, a path as reading gives it, the name leads in regular surroundings to this
location, with all links followed, and there are no surrogates in the path of the location. -/
structure ResolvesTo (root : Path) (name : Text) (w : World) (l : Location) : Prop where
  normal : root.IsNormal
  regular : w.around.Regular
  resolved : ∃ parts, ResourceName.parts? name = some parts ∧
    w.around.tree.resolve w.around.cwd (root.below parts) = .ok l
  scalar : HasScalarValues (Location.toText l)

def Found (root : Path) (name : Text) (w : World) (l : Location) (e : Entry) : Prop :=
  (∃ parts, ResourceName.parts? name = some parts ∧
    w.around.tree.lookup w.around.cwd (root.below parts).toText = .ok (some (l, e))) ∧
  w.around.tree.lookup w.around.cwd (Path.toText ⟨.root, l⟩) = .ok (some (l, e))

theorem Found.locate {e : Entry} (h : Found root name w l e) :
    w.around.tree.locate w.around.cwd (Location.toText l) = .ok (l, e) := by
  rw [Location.toText_eq]
  exact FileTree.locate_of_lookup h.2

namespace ResolvesTo

theorem components (h : ResolvesTo root name w l) : ∀ n ∈ l, IsComponent n := by
  obtain ⟨parts, hparts, hresolve⟩ := h.resolved
  have hsteps := ResourceName.steps_of_parts? hparts
  exact FileTree.resolve_components (fun n hn => (h.regular.home.components n hn).slash_notMem)
    (h.normal.below hsteps) hresolve

theorem urlOf (h : ResolvesTo root name w l) {parts : List Text}
    (hparts : ResourceName.parts? name = some parts) :
    w.around.tree.urlOf w.around.cwd (root.below parts) = .ok (Url.ofLocation l) := by
  obtain ⟨parts', hparts', hresolve⟩ := h.resolved
  cases hparts.symm.trans hparts'
  rw [FileTree.urlOf, hresolve]
  simp only [Url.toUrl_of_scalarValues h.scalar]
  rfl

theorem findUrl_eq (h : ResolvesTo root name w l) {parts : List Text}
    (hparts : ResourceName.parts? name = some parts) {r : Location × Entry}
    (hlookup : w.around.tree.lookup w.around.cwd (root.below parts).toText = .ok (some r)) :
    (place (.directory root)).findUrl name w = .ok (some (Url.ofLocation l)) w := by
  have hurl := Place.url_of_lookup hparts hlookup
  rw [h.urlOf hparts] at hurl
  exact findUrl_of_url hurl

theorem url_eq (h : ResolvesTo root name w l) {url : Text} {v : World}
    (hurl : (place (.directory root)).findUrl name w = .ok (some url) v) :
    url = Url.ofLocation l ∧ v = w := by
  obtain ⟨parts, hparts, -⟩ := h.resolved
  obtain ⟨hurl, rfl⟩ := url_of_findUrl hurl
  obtain ⟨r, -, hof⟩ := Place.lookup_of_url hparts hurl
  cases (h.urlOf hparts).symm.trans hof
  exact ⟨rfl, rfl⟩

theorem holds (h : ResolvesTo root name w l) (sees : (place (.directory root)).SeesLinks name w)
    {parts : List Text} (hparts : ResourceName.parts? name = some parts) {r : Location × Entry}
    (found : w.around.tree.lookup w.around.cwd (root.below parts).toText = .ok (some r)) :
    r.1 = l ∧ w.around.tree.Holds l r.2 := by
  obtain ⟨parts', hparts', hresolve⟩ := h.resolved
  cases hparts.symm.trans hparts'
  have hsteps := ResourceName.steps_of_parts? hparts
  have hpath := ofText_toText (h.normal.below hsteps)
  -- What was looked up under the name is where the walk ends, and so where the name is resolved to.
  have hsees := sees parts hparts
  rw [← hpath] at hsees
  obtain ⟨hl, holds⟩ := h.regular.resolve_of_locate hsees (FileTree.locate_of_lookup found)
  rw [hpath, hresolve] at hl
  cases hl
  exact ⟨rfl, holds⟩

theorem found (h : ResolvesTo root name w l) (sees : (place (.directory root)).SeesLinks name w)
    (short : FileTree.isTooLongPath (Location.toText l) = false) {parts : List Text}
    (hparts : ResourceName.parts? name = some parts) {r : Location × Entry}
    (hlookup : w.around.tree.lookup w.around.cwd (root.below parts).toText = .ok (some r)) :
    Found root name w l r.2 := by
  obtain ⟨rfl, holds⟩ := h.holds sees hparts hlookup
  have hlocate : w.around.tree.locate w.around.cwd (Location.toText r.1) = .ok (r.1, r.2) := by
    rw [holds.locate, short]
    rfl
  have hnameable : FileTree.isNameable (Location.toText r.1) = true := by
    rw [FileTree.isNameable, (h.regular.nameable_location holds).not_contains,
      Utf8.encodeName?_of_scalarValues h.scalar]
    rfl
  rw [Found, ← Location.toText_eq]
  exact ⟨⟨parts, hparts, hlookup⟩, FileTree.lookup_of_locate hnameable hlocate⟩

theorem getFile (h : ResolvesTo root name w l) (fallbacks : Fallbacks Resolver) {url : Text}
    {v : World} (hurl : (place (.directory root)).findUrl name w = .ok (some url) v) :
    ∃ v, Access.getFile ⟨fallbacks, some (place (.directory root))⟩ name w = .ok ⟨.root, l⟩ v := by
  obtain ⟨rfl, -⟩ := h.url_eq hurl
  obtain ⟨u, hget⟩ := Along.getUrl_of_hit (c := ⟨fallbacks, some (place (.directory root))⟩)
    (Chain.firstHit_cons_some hurl)
  rw [Access.getFile, bind_ok hget, Url.toPath_address h.components h.scalar]
  exact ⟨_, rfl⟩

theorem serves (h : ResolvesTo root name w l) (sees : (place (.directory root)).SeesLinks name w)
    (short : FileTree.isTooLongPath (Location.toText l) = false) {id : StreamId} {v : World}
    (hopen : (place (.directory root)).openStream name w = .ok (some id) v) :
    ∃ bs, (place (.directory root)).Serves World.Offers name w (Url.ofLocation l) bs := by
  obtain ⟨holding, hread⟩ := read_of_openStream hopen
  obtain ⟨parts, hparts, -⟩ := h.resolved
  obtain ⟨q, e, hlookup, file, rfl⟩ := Place.lookup_of_read hparts hread
  obtain ⟨-, holds⟩ := h.holds sees hparts hlookup
  have plain : e.isDirectory = false := by
    cases e with
    | directory => cases file
    | link | file | archive => rfl
  have hnull : 0 ∉ Location.toText l := fun hc => (h.regular.nameable_location holds 0 hc).1 rfl
  exact ⟨e.toOctets, place_offers hread, h.findUrl_eq hparts hlookup,
    Access.getUrlStream_offers (Url.openUrl_address _ holds plain h.scalar hnull short)⟩

end ResolvesTo

end Resolver

/-! ### Where the resolved path cannot be looked up -/

namespace FileTree

end FileTree

namespace Resolver

end Resolver
end ResourceLookup
