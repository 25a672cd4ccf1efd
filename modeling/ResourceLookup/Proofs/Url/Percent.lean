import ResourceLookup.Proofs.Text.Utf8
import ResourceLookup.Proofs.Url.Request

/-!
# Reading percent encoding back

An encoded path consists of letters, digits, a few marks that divide nothing in an address, and
percent signs. Decoding gives the octets back, and with them every text of scalar values.
-/

namespace ResourceLookup.Url.Percent

open Text Utf8

def IsWritten (c : Nat) : Prop :=
  c = sign ∨ (0x41 ≤ c ∧ c ≤ 0x5A) ∨ (0x61 ≤ c ∧ c ≤ 0x7A) ∨ (0x30 ≤ c ∧ c ≤ 0x39) ∨
    c = 0x5F ∨ c = 0x2E ∨ c = 0x2D ∨ c = 0x7E ∨ c = 0x2F

instance (c : Nat) : Decidable (IsWritten c) := inferInstanceAs (Decidable (_ ∨ _))

theorem IsWritten.graphic {c : Nat} (h : IsWritten c) : IsGraphic c := by
  simp only [IsWritten, sign] at h
  exact ⟨by omega, by omega, by omega⟩

theorem isWritten_of_isPlain {b : UInt8} (h : isPlain b = true) : IsWritten b.toNat := by
  simp only [isPlain, isAsciiLetter, isDecimalDigit, Bool.or_eq_true, Bool.and_eq_true,
    decide_eq_true_eq, beq_iff_eq] at h
  unfold IsWritten
  omega

theorem isWritten_digit {n : Nat} (h : n < 16) : IsWritten (digit true n) := by
  simp only [IsWritten, digit]
  grind

theorem ne_sign_of_isPlain {b : UInt8} (h : isPlain b = true) : b.toNat ≠ sign := by
  intro hb
  rw [isPlain, hb] at h
  exact absurd h (by decide)

theorem hexadecimal_two (upper : Bool) (n : Nat) :
    hexadecimal upper 2 n = [digit upper (n / 16 % 16), digit upper (n / 1 % 16)] := rfl

theorem encode_written {bs : Octets} {c : Nat} (h : c ∈ encode bs) : IsWritten c := by
  obtain ⟨b, -, hc⟩ := List.mem_flatMap.1 h
  rw [encodeOctet] at hc
  split at hc
  · next hplain =>
    obtain rfl := List.mem_singleton.1 hc
    exact isWritten_of_isPlain hplain
  · simp only [hexadecimal_two, List.mem_cons, List.not_mem_nil, or_false] at hc
    rcases hc with rfl | rfl | rfl
    · exact .inl rfl
    · exact isWritten_digit (Nat.mod_lt _ (by decide))
    · exact isWritten_digit (Nat.mod_lt _ (by decide))

theorem encode_graphic (bs : Octets) : IsGraphicText (encode bs) :=
  fun _ hc => (encode_written hc).graphic

/-! ## Octets -/

theorem decode_cons_of_ne {p : UInt8} (h : p.toNat ≠ sign) (r : Octets) :
    decode (p :: r) = p :: decode r := by
  rw [decode.eq_def]
  exact if_neg h

theorem decode_of_no_sign {bs : Octets} (h : ∀ b ∈ bs, b.toNat ≠ sign) : decode bs = bs := by
  induction bs with
  | nil => rw [decode]
  | cons b r ih =>
    rw [decode_cons_of_ne (h b List.mem_cons_self), ih fun d hd => h d (List.mem_cons_of_mem _ hd)]

abbrev asOctets (t : Text) : Octets := t.map UInt8.ofNat

theorem decode_encodeOctet (b : UInt8) (r : Octets) :
    decode (asOctets (encodeOctet b) ++ r) = b :: decode r := by
  rw [encodeOctet]
  split
  · next hplain =>
    have hb : UInt8.ofNat b.toNat = b := UInt8.ofNat_toNat
    rw [asOctets, List.map_singleton, hb]
    exact decode_cons_of_ne (ne_sign_of_isPlain hplain) r
  · have hlt : b.toNat < 256 := b.toNat_lt
    have hdigit : ∀ {n}, n < 16 → hexValue? (UInt8.ofNat (digit true n)).toNat = some n := by
      intro n hn
      have hd : digit true n < 0x100 := by
        simp only [digit]
        grind
      rw [toNat_ofNat hd, hexValue?_digit true hn]
    have hhigh := hdigit (n := b.toNat / 16 % 16) (by omega)
    have hlow := hdigit (n := b.toNat / 1 % 16) (by omega)
    have hsign : (UInt8.ofNat sign).toNat = sign := rfl
    have hvalue : b.toNat / 16 % 16 * 16 + b.toNat / 1 % 16 = b.toNat := by omega
    simp only [asOctets, hexadecimal_two, List.map_cons, List.map_nil, List.cons_append,
      List.nil_append]
    rw [decode, if_pos hsign]
    simp only [hhigh, hlow, hvalue, UInt8.ofNat_toNat]

theorem decode_encode (bs : Octets) : decode (asOctets (encode bs)) = bs := by
  induction bs with
  | nil => exact decode_of_no_sign nofun
  | cons b r ih =>
    rw [encode, List.flatMap_cons, asOctets, List.map_append, decode_encodeOctet]
    exact congrArg (b :: ·) ih

/-! ## Texts -/

theorem decodeText_run {t : Text} (ascii : ∀ c ∈ t, c < 0x80) (held : Octets) :
    decodeText.run held t = decodeReplacing (decode (held.reverse ++ asOctets t)) := by
  induction t generalizing held with
  | nil => rw [decodeText.run, decodeText.flush, asOctets, List.map_nil, List.append_nil]
  | cons c r ih =>
    rw [decodeText.run, if_pos (ascii c List.mem_cons_self),
      ih fun d hd => ascii d (List.mem_cons_of_mem _ hd)]
    simp

theorem decodeText_of_ascii {t : Text} (ascii : ∀ c ∈ t, c < 0x80) :
    decodeText t = decodeReplacing (decode (asOctets t)) := by
  rw [decodeText]
  split
  · exact decodeText_run ascii []
  · next hsign =>
    have hnone : ∀ b ∈ asOctets t, b.toNat ≠ sign := by
      intro b hb
      obtain ⟨c, hc, rfl⟩ := List.mem_map.1 hb
      rw [toNat_ofNat (Nat.lt_trans (ascii c hc) (by decide))]
      rintro rfl
      exact hsign (List.contains_iff_mem.2 hc)
    rw [decode_of_no_sign hnone, asOctets, ← flatMap_encodeOne_of_ascii ascii,
      decodeReplacing_flatMap fun c hc => isScalarValue_of_ascii (ascii c hc)]

theorem decodeText_encode {t : Text} (h : HasScalarValues t) :
    decodeText (encode (t.flatMap encodeOne)) = t := by
  have ascii : ∀ c ∈ encode (t.flatMap encodeOne), c < 0x80 :=
    fun c hc => Nat.lt_of_le_of_lt (encode_graphic _ c hc).2.1 (by decide)
  rw [decodeText_of_ascii ascii, decode_encode, decodeReplacing_flatMap h]

end ResourceLookup.Url.Percent
