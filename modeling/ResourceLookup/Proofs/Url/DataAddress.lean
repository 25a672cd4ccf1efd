import ResourceLookup.Proofs.Chain.Absence
import ResourceLookup.Proofs.Streams.Reading
import ResourceLookup.Proofs.Url.Percent

/-!
# Addresses that carry their data

Base 64 is read back as what was written, and nothing on the way to the reader takes a letter of it
for anything else: no mark of an address, no blank and no percent sign is among them. So the address
that a resource in memory has is opened as the octets of the resource, and tells them apart from all
others.
-/

namespace ResourceLookup

open Text

/-! ## Base 64 -/

namespace Base64

def IsWritten (c : Nat) : Prop := (∃ n < 64, c = letter n) ∨ c = padding

theorem letter_ne_padding (n : Nat) (h : n < 64) : letter n ≠ padding := by
  simp only [letter, padding]
  grind

theorem encode_written (bs : Octets) : ∀ c ∈ encode bs, IsWritten c := by
  have hletter : ∀ {n}, n < 64 → IsWritten (letter n) := fun hn => .inl ⟨_, hn, rfl⟩
  fun_induction encode bs with
  | case1 a b c r ih =>
    have ha := a.toNat_lt
    have hb := b.toNat_lt
    have hc := c.toNat_lt
    simp only [List.forall_mem_cons]
    exact ⟨hletter (by omega), hletter (by omega), hletter (by omega), hletter (by omega), ih⟩
  | case2 a b =>
    have ha := a.toNat_lt
    have hb := b.toNat_lt
    simp only [List.forall_mem_cons]
    exact ⟨hletter (by omega), hletter (by omega), hletter (by omega), .inr rfl, nofun⟩
  | case3 a =>
    have ha := a.toNat_lt
    simp only [List.forall_mem_cons]
    exact ⟨hletter (by omega), hletter (by omega), .inr rfl, .inr rfl, nofun⟩
  | case4 => exact nofun

theorem run_letter {n : Nat} (h : n < 64) (s : Reading) (r : List Nat) :
    s.run (letter n :: r) = (s.put n).run r := by
  rw [Reading.run, if_neg (letter_ne_padding n h), value?_letter h]

theorem run_padding_last {s : Reading} (h : 4 ≤ s.inGroup + (s.pads + 1)) (low : 2 ≤ s.inGroup)
    (r : List Nat) : s.run (padding :: r) = .ok s.written.reverse := by
  rw [Reading.run, if_pos rfl, if_pos low, if_pos h]

theorem run_padding_first {s : Reading} (h : s.inGroup + (s.pads + 1) < 4) (low : 2 ≤ s.inGroup)
    (r : List Nat) : s.run (padding :: r) = Reading.run { s with pads := s.pads + 1 } r := by
  rw [Reading.run, if_pos rfl, if_pos low, if_neg (by omega)]

theorem run_encode (bs written : Octets) :
    Reading.run ⟨0, 0, 0, written⟩ (encode bs) = .ok (written.reverse ++ bs) := by
  have hoctet : ∀ {b : UInt8} {n : Nat}, n = b.toNat → UInt8.ofNat n = b := by
    rintro b n rfl
    exact UInt8.ofNat_toNat
  fun_induction encode bs generalizing written with
  | case1 a b c r ih =>
    have ha := a.toNat_lt
    have hb := b.toNat_lt
    have hc := c.toNat_lt
    rw [run_letter (by omega), run_letter (by omega), run_letter (by omega), run_letter (by omega)]
    simp only [Reading.put]
    rw [hoctet (b := c) (by omega), hoctet (b := b) (by omega), hoctet (b := a) (by omega), ih]
    simp
  | case2 a b =>
    have ha := a.toNat_lt
    have hb := b.toNat_lt
    rw [run_letter (by omega), run_letter (by omega), run_letter (by omega)]
    simp only [Reading.put]
    rw [hoctet (b := b) (by omega), hoctet (b := a) (by omega),
      run_padding_last (by simp) (by simp)]
    simp
  | case3 a =>
    have ha := a.toNat_lt
    rw [run_letter (by omega), run_letter (by omega)]
    simp only [Reading.put]
    rw [hoctet (b := a) (by omega), run_padding_first (by simp) (by simp),
      run_padding_last (by simp) (by simp)]
    simp
  | case4 => simp [Reading.run, Reading.finish]

theorem decode_encode (bs : Octets) : decode (encode bs) = .ok bs := run_encode bs []

end Base64

/-! ## Data addresses -/

namespace Url

def dataBody (bs : Octets) : Text := defaultMediaType ++ lettersMark ++ 0x2C :: Base64.encode bs

theorem ofOctets_eq (bs : Octets) :
    ofOctets defaultMediaType bs = text "data" ++ 0x3A :: dataBody bs := by
  have hscheme : text "data:" = text "data" ++ [0x3A] := by decide
  have hmark : text ";base64," = lettersMark ++ [0x2C] := by decide
  rw [ofOctets, dataBody, hscheme, hmark]
  simp only [List.append_assoc, List.cons_append, List.nil_append]

theorem letter_harmless {c : Nat} (h : Base64.IsWritten c) :
    IsGraphic c ∧ c ≠ 0x3F ∧ c ≠ Percent.sign := by
  rcases h with ⟨n, hn, rfl⟩ | rfl
  · simp only [IsGraphic, Percent.sign, Base64.letter]
    grind
  · decide

theorem dataBody_graphic (bs : Octets) : IsGraphicText (dataBody bs) :=
  IsGraphicText.append (by decide) <| List.forall_mem_cons.2
    ⟨by decide, fun c hc => (letter_harmless (Base64.encode_written bs c hc)).1⟩

theorem request_data {rest : Text} (graphic : IsGraphicText rest) (query : 0x3F ∉ rest)
    (authority : splitAuthority rest = ([], rest)) :
    request (text "data" ++ 0x3A :: rest) =
      .ok ⟨text "data" ++ 0x3A :: rest, text "data", (splitHost rest).1.map Percent.decodeText,
        (splitHost rest).2⟩ := by
  have hscheme : IsScheme (text "data") := ⟨by decide, by decide⟩
  have hgraphic : IsGraphicText (text "data" ++ 0x3A :: rest) :=
    IsGraphicText.append (by decide) (List.forall_mem_cons.2 ⟨by decide, graphic⟩)
  have hauthority : splitAuthority (splitScheme (text "data" ++ 0x3A :: rest)).2 = ([], rest) := by
    rw [splitScheme_of_scheme hscheme, authority]
  exact request_of_scheme hscheme graphic (split_of_graphic hgraphic hauthority query)

theorem request_ofOctets (bs : Octets) :
    request (ofOctets defaultMediaType bs) =
      .ok ⟨ofOctets defaultMediaType bs, text "data", none, dataBody bs⟩ := by
  have hquery : 0x3F ∉ dataBody bs := by
    intro hc
    rcases List.mem_append.1 hc with hc | hc
    · exact absurd hc (by decide)
    · rcases List.mem_cons.1 hc with hc | hc
      · cases hc
      · exact (letter_harmless (Base64.encode_written bs _ hc)).2.1 rfl
  rw [ofOctets_eq, request_data (dataBody_graphic bs) hquery rfl]
  rfl

theorem openPayload_encode (bs : Octets) : openPayload true (Base64.encode bs) = .ok bs := by
  have hascii : ∀ c ∈ Base64.encode bs, c < 0x80 := fun c hc =>
    Nat.lt_of_le_of_lt (letter_harmless (Base64.encode_written bs c hc)).1.2.1 (by decide)
  have hoctets : (Percent.asOctets (Base64.encode bs)).map UInt8.toNat = Base64.encode bs := by
    rw [Percent.asOctets, List.map_map]
    refine (List.map_congr_left fun c hc => ?_).trans (List.map_id _)
    exact Utf8.toNat_ofNat (Nat.lt_trans (hascii c hc) (by decide))
  have hsign : ∀ b ∈ Percent.asOctets (Base64.encode bs), b.toNat ≠ Percent.sign := by
    intro b hb
    have hc : b.toNat ∈ Base64.encode bs := hoctets ▸ List.mem_map_of_mem hb
    exact (letter_harmless (Base64.encode_written bs _ hc)).2.2
  have hpercent : Percent.octets? (Base64.encode bs) =
      .ok (Percent.asOctets (Base64.encode bs)) := by
    rw [Percent.octets?, Utf8.encode?_of_scalarValues fun c hc => isScalarValue_of_ascii (hascii c hc),
      Utf8.flatMap_encodeOne_of_ascii hascii]
    exact congrArg Except.ok (Percent.decode_of_no_sign hsign)
  rw [openPayload, hpercent]
  simp only [hoctets, Base64.decode_encode]
  rfl

theorem mediaLine_of_graphic {t : Text} (h : IsGraphicText t) : mediaLine t = t := by
  induction t with
  | nil => rfl
  | cons c r ih =>
    obtain ⟨hc, hr⟩ := List.forall_mem_cons.1 h
    have hend : ¬(c = 0x0D ∨ c = 0x0A) := by
      have hlow := hc.1
      omega
    rw [mediaLine.eq_def]
    simp only [if_neg hend, ih hr]

theorem mediaValue_of_graphic {t : Text} (h : IsGraphicText t) : mediaValue t = t := by
  rw [mediaValue, mediaLine_of_graphic h]
  cases t with
  | nil => rfl
  | cons c r =>
    have hlow := (h c List.mem_cons_self).1
    refine List.dropWhile_cons_of_neg ?_
    simp only [isSpaceOrTab, Bool.or_eq_true, beq_iff_eq]
    omega

theorem headersFault?_default (outside : Outside) :
    headersFault? outside defaultMediaType = none := by
  have hgraphic : IsGraphicText defaultMediaType := by decide
  have hvalue : mediaValue defaultMediaType = defaultMediaType := mediaValue_of_graphic hgraphic
  have hwritable : defaultMediaType.any isSurrogate = false := by cbv
  have hsingle : isMultipart defaultMediaType = false := by cbv
  have hflaw : mediaFlaw? defaultMediaType = none := by
    simp only [mediaFlaw?, hvalue, hwritable, hsingle, Bool.false_eq_true, ↓reduceIte]
    rfl
  have hsimple : isSimple defaultMediaType = true := by
    rw [isSimple, mediaLine_of_graphic hgraphic, hvalue, hsingle, beq_self_eq_true]
    rfl
  rw [headersFault?, hflaw, if_pos hsimple]
  rfl

variable (outside : Outside)

theorem openData_ofOctets (bs : Octets) :
    openData outside (ofOctets defaultMediaType bs) = .ok bs := by
  have hscheme : IsScheme (text "data") := ⟨by decide, by decide⟩
  have hcomma : (0x2C : Nat) ∉ defaultMediaType ++ lettersMark := by decide
  have hcut : (dataBody bs).cutFirst 0x2C =
      some (defaultMediaType ++ lettersMark, Base64.encode bs) := cutFirst_append hcomma _
  have hletters : lettersMark.isSuffixOf (defaultMediaType ++ lettersMark) = true := by decide
  have hmedia : (defaultMediaType ++ lettersMark).take
      ((defaultMediaType ++ lettersMark).length - lettersMark.length) = defaultMediaType := by cbv
  rw [openData, ofOctets_eq, hscheme.cutFirst]
  simp only [hcut, hletters, openPayload_encode, ↓reduceIte, hmedia, headersFault?_default]

/-- The address of octets is opened as these octets, wherever it is opened. -/
theorem openUrl_ofOctets (tree : FileTree) (cwd : Location) (bs : Octets) :
    openUrl tree cwd (ofOctets defaultMediaType bs) outside = .ok (.memory, bs) := by
  have hopen : openRequest tree cwd outside
      ⟨ofOctets defaultMediaType bs, text "data", none, dataBody bs⟩ = .ok (.memory, bs) := by
    rw [openRequest, if_pos rfl, openData_ofOctets]
    rfl
  rw [openUrl, request_ofOctets]
  simp only [hopen]

omit outside in
theorem ofOctets_inj {bs bs' : Octets} :
    ofOctets defaultMediaType bs = ofOctets defaultMediaType bs' ↔ bs = bs' := by
  refine ⟨fun h => ?_, fun h => h ▸ rfl⟩
  have hopen := openUrl_ofOctets .plain [] [] bs
  rw [h, openUrl_ofOctets] at hopen
  cases hopen
  rfl

end Url

/-! ## Resources in memory -/

def Content.IsEncodable : Content → Prop
  | octets _ => True
  | characters t => ∀ c ∈ t, isSurrogate c = false

theorem Content.toOctets_of_encodable {c : Content} (h : c.IsEncodable) :
    ∃ bs, c.toOctets = .ok bs := by
  cases c with
  | octets bs => exact ⟨bs, rfl⟩
  | characters t =>
    have hnone : t.any isSurrogate = false := by
      rw [List.any_eq_false]
      exact fun c hc => by simp [h c hc]
    refine ⟨t.flatMap Utf8.encodeOne, ?_⟩
    rw [toOctets, Utf8.encode?, hnone]
    rfl

namespace Resolver

open Lookup

variable {w : World} {key name key' name' : Text} {c c' : Content}

def content? (w : World) (key name : Text) : Option Content :=
  ((w.mappings.get? key).getD []).get? name

theorem serves_of_octets {bs : Octets} (held : content? w key name = some c)
    (octets : c.toOctets = .ok bs) :
    (mapping key).Serves World.Reads name w (Url.ofOctets Url.defaultMediaType bs) bs := by
  have hcontent : answer (contentOf ((w.mappings.get? key).getD []) name) w = .ok (some bs) w := by
    rw [content?] at held
    rw [contentOf, held]
    simp only [octets]
    rfl
  refine ⟨?_, ?_, Access.getUrlStream_reads (Url.openUrl_ofOctets _ _ _ bs)⟩
  · obtain ⟨id, v, hopen, hreads⟩ := openFound_reads w (.memory, bs) (.inl rfl)
    exact ⟨id, v, (bind_ok hcontent).trans hopen, hreads⟩
  · exact bind_ok hcontent

/-- Under each of two names that maps hold, whether in one map or in two, a map gives an address
that is read as the octets of the stream it opens; and the two addresses are the same just where the
octets are. -/
theorem mapping_serves (held : content? w key name = some c)
    (held' : content? w key' name' = some c') (encodable : c.IsEncodable)
    (encodable' : c'.IsEncodable) :
    ∃ url bs url' bs', (c.toOctets = .ok bs ∧ (mapping key).Serves World.Reads name w url bs) ∧
      (c'.toOctets = .ok bs' ∧ (mapping key').Serves World.Reads name' w url' bs') ∧
        (url = url' ↔ bs = bs') := by
  obtain ⟨bs, octets⟩ := c.toOctets_of_encodable encodable
  obtain ⟨bs', octets'⟩ := c'.toOctets_of_encodable encodable'
  exact ⟨_, bs, _, bs', ⟨octets, serves_of_octets held octets⟩,
    ⟨octets', serves_of_octets held' octets'⟩, Url.ofOctets_inj⟩

def twoContents : World :=
  { World.startIn { tree := [], cwd := [] } with
    mappings := [(text "k", [(text "a", .octets []), (text "b", .characters [0xE9])])] }

theorem mapping_serves_twoContents :
    ∃ url url', (mapping (text "k")).Serves World.Reads (text "a") twoContents url [] ∧
      (mapping (text "k")).Serves World.Reads (text "b") twoContents url' [0xC3, 0xA9] ∧
        url ≠ url' := by
  have held : content? twoContents (text "k") (text "a") = some (.octets []) := by decide
  have held' : content? twoContents (text "k") (text "b") = some (.characters [0xE9]) := by decide
  have encodable : (Content.characters [0xE9]).IsEncodable :=
    show ∀ c ∈ [0xE9], isSurrogate c = false by decide
  obtain ⟨url, bs, url', bs', ⟨octets, serves⟩, ⟨octets', serves'⟩, same⟩ :=
    mapping_serves held held' trivial encodable
  have hletter : (Content.characters [0xE9]).toOctets = .ok [0xC3, 0xA9] := by decide
  cases octets
  cases hletter.symm.trans octets'
  exact ⟨url, url', serves, serves', fun h => absurd (same.1 h) (by decide)⟩

end Resolver
end ResourceLookup
