import LocaleRegistrar.Text.Utf8

/-! Encoded text is decoded to what it was, and what can be decoded is the encoding of its text. -/

namespace LocaleRegistrar.Text

theorem toList_loop (bs : ByteArray) (i : Nat) (r : List UInt8) :
    ByteArray.toList.loop bs i r = r.reverse ++ bs.data.toList.drop i := by
  fun_induction ByteArray.toList.loop bs i r with
  | case1 i r hi ih =>
    have hlength : i < bs.data.toList.length := by simpa using hi
    have hget : bs.get! i = bs.data.toList[i] := getElem!_pos bs.data i (by simpa using hi)
    rw [ih, List.drop_eq_getElem_cons hlength, hget]
    simp
  | case2 i r hi =>
    have hlength : bs.data.toList.length ≤ i := by simpa using hi
    rw [List.drop_eq_nil_of_le hlength, List.append_nil]

theorem encodeUtf8_eq (s : String) : encodeUtf8 s = s.toList.flatMap String.utf8EncodeChar := by
  rw [encodeUtf8, ByteArray.toList, toList_loop, String.toUTF8_eq_toByteArray,
    ← String.utf8Encode_toList, List.utf8Encode]
  simp

/-! ### One character -/

section Bytes

variable (position : Nat) (rest : List UInt8)

theorem decodeUtf8From_lead {b : UInt8} {lead : Utf8Lead} (hlead : utf8Lead? b.toNat = some lead)
    (hmore : lead.following ≠ 0) :
    decodeUtf8From position none (b :: rest) = decodeUtf8From (position + 1)
      (some ⟨b, 1, lead.following, lead.bits, lead.low, lead.high⟩) rest := by
  rw [decodeUtf8From, hlead]
  simp [hmore]

theorem decodeUtf8From_single {b : UInt8} (hb : b.toNat < 0x80) :
    decodeUtf8From position none (b :: rest) =
      (decodeUtf8From (position + 1) none rest).map (Char.ofNat b.toNat :: ·) := by
  rw [decodeUtf8From]
  simp only [utf8Lead?, if_pos hb]
  cases decodeUtf8From (position + 1) none rest <;> rfl

theorem decodeUtf8From_more {p : Utf8Partial} {b : UInt8} (hlow : p.low ≤ b.toNat)
    (hhigh : b.toNat ≤ p.high) (hmissing : p.missing ≠ 1) :
    decodeUtf8From position (some p) (b :: rest) = decodeUtf8From (position + 1)
      (some { p with
        seen := p.seen + 1, missing := p.missing - 1, bits := p.bits * 64 + (b.toNat - 0x80),
        low := 0x80, high := 0xBF }) rest := by
  rw [decodeUtf8From, if_neg (by omega)]
  simp [hmissing]

theorem decodeUtf8From_last {p : Utf8Partial} {b : UInt8} (hlow : p.low ≤ b.toNat)
    (hhigh : b.toNat ≤ p.high) (hmissing : p.missing = 1) :
    decodeUtf8From position (some p) (b :: rest) =
      (decodeUtf8From (position + 1) none rest).map
        (Char.ofNat (p.bits * 64 + (b.toNat - 0x80)) :: ·) := by
  rw [decodeUtf8From, if_neg (by omega)]
  simp only [hmissing, if_true]
  cases decodeUtf8From (position + 1) none rest <;> rfl

end Bytes

theorem toNat_byte {n : Nat} (h : n < 256) : (UInt8.ofNat n).toNat = n := by
  simp [UInt8.toNat_ofNat', Nat.mod_eq_of_lt h]

theorem toNat_continuation (n : Nat) : (UInt8.ofNat (n % 0x40 + 0x80)).toNat = n % 64 + 0x80 :=
  toNat_byte (by omega)

section Lengths

variable {v : Nat} (position : Nat) (rest : List UInt8)

theorem decodeUtf8From_two (hlow : 0x7f < v) (hhigh : v ≤ 0x7ff) :
    decodeUtf8From position none
      (UInt8.ofNat (v / 64 % 0x20 + 0xc0) :: UInt8.ofNat (v % 0x40 + 0x80) :: rest) =
        (decodeUtf8From (position + 1 + 1) none rest).map (Char.ofNat v :: ·) := by
  have hlead : utf8Lead? (UInt8.ofNat (v / 64 % 0x20 + 0xc0)).toNat =
      some ⟨1, v / 64, 0x80, 0xBF⟩ := by
    rw [toNat_byte (by omega), Nat.mod_eq_of_lt (by omega), utf8Lead?, if_neg (by omega),
      if_neg (by omega), if_pos (by omega), Nat.add_sub_cancel]
  have hlast := toNat_continuation v
  have hbits : v / 64 * 64 + ((UInt8.ofNat (v % 0x40 + 0x80)).toNat - 0x80) = v := by omega
  rw [decodeUtf8From_lead _ _ hlead (by simp), decodeUtf8From_last _ _ (by dsimp only; omega)
    (by dsimp only; omega) rfl]
  dsimp only
  rw [hbits]

/-- The second byte of three keeps clear of overlong forms and of surrogates. -/
theorem decodeUtf8From_three (hlow : 0x7ff < v) (hhigh : v ≤ 0xffff)
    (hvalid : v < 0xD800 ∨ 0xDFFF < v) :
    decodeUtf8From position none
      (UInt8.ofNat (v / 4096 % 0x10 + 0xe0) :: UInt8.ofNat (v / 64 % 0x40 + 0x80) ::
        UInt8.ofNat (v % 0x40 + 0x80) :: rest) =
        (decodeUtf8From (position + 1 + 1 + 1) none rest).map (Char.ofNat v :: ·) := by
  have hlead : utf8Lead? (UInt8.ofNat (v / 4096 % 0x10 + 0xe0)).toNat =
      some ⟨2, v / 4096, if v / 4096 + 0xe0 = 0xE0 then 0xA0 else 0x80,
        if v / 4096 + 0xe0 = 0xED then 0x9F else 0xBF⟩ := by
    rw [toNat_byte (by omega), Nat.mod_eq_of_lt (by omega), utf8Lead?, if_neg (by omega),
      if_neg (by omega), if_neg (by omega), if_pos (by omega), Nat.add_sub_cancel]
  have hsecond := toNat_continuation (v / 64)
  have hlast := toNat_continuation v
  have hbits : (v / 4096 * 64 + ((UInt8.ofNat (v / 64 % 0x40 + 0x80)).toNat - 0x80)) * 64 +
      ((UInt8.ofNat (v % 0x40 + 0x80)).toNat - 0x80) = v := by omega
  rw [decodeUtf8From_lead _ _ hlead (by simp),
    decodeUtf8From_more _ _ (by dsimp only; split <;> omega) (by dsimp only; split <;> omega)
      (by simp),
    decodeUtf8From_last _ _ (by dsimp only; omega) (by dsimp only; omega) rfl]
  dsimp only
  rw [hbits]

/-- The second byte of four keeps clear of overlong forms and of what is past the last code
point. -/
theorem decodeUtf8From_four (hlow : 0xffff < v) (hhigh : v < 0x110000) :
    decodeUtf8From position none
      (UInt8.ofNat (v / 262144 % 0x08 + 0xf0) :: UInt8.ofNat (v / 4096 % 0x40 + 0x80) ::
        UInt8.ofNat (v / 64 % 0x40 + 0x80) :: UInt8.ofNat (v % 0x40 + 0x80) :: rest) =
        (decodeUtf8From (position + 1 + 1 + 1 + 1) none rest).map (Char.ofNat v :: ·) := by
  have hlead : utf8Lead? (UInt8.ofNat (v / 262144 % 0x08 + 0xf0)).toNat =
      some ⟨3, v / 262144, if v / 262144 + 0xf0 = 0xF0 then 0x90 else 0x80,
        if v / 262144 + 0xf0 = 0xF4 then 0x8F else 0xBF⟩ := by
    rw [toNat_byte (by omega), Nat.mod_eq_of_lt (by omega), utf8Lead?, if_neg (by omega),
      if_neg (by omega), if_neg (by omega), if_neg (by omega), if_pos (by omega),
      Nat.add_sub_cancel]
  have hsecond := toNat_continuation (v / 4096)
  have hthird := toNat_continuation (v / 64)
  have hlast := toNat_continuation v
  have hbits : ((v / 262144 * 64 + ((UInt8.ofNat (v / 4096 % 0x40 + 0x80)).toNat - 0x80)) * 64 +
      ((UInt8.ofNat (v / 64 % 0x40 + 0x80)).toNat - 0x80)) * 64 +
      ((UInt8.ofNat (v % 0x40 + 0x80)).toNat - 0x80) = v := by omega
  rw [decodeUtf8From_lead _ _ hlead (by simp),
    decodeUtf8From_more _ _ (by dsimp only; split <;> omega) (by dsimp only; split <;> omega)
      (by simp),
    decodeUtf8From_more _ _ (by dsimp only; omega) (by dsimp only; omega) (by simp),
    decodeUtf8From_last _ _ (by dsimp only; omega) (by dsimp only; omega) rfl]
  dsimp only
  rw [hbits]

end Lengths

/-- A character is decoded from its bytes. -/
theorem decodeUtf8From_encodeChar (c : Char) (position : Nat) (rest : List UInt8) :
    ∃ next, decodeUtf8From position none (String.utf8EncodeChar c ++ rest) =
      (decodeUtf8From next none rest).map (c :: ·) := by
  have hvalid : c.val.toNat < 0xD800 ∨ 0xDFFF < c.val.toNat ∧ c.val.toNat < 0x110000 := c.valid
  have hchar : Char.ofNat c.val.toNat = c := Char.ofNat_toNat c
  unfold String.utf8EncodeChar
  generalize c.val.toNat = v at *
  rw [← hchar]
  dsimp only
  split
  · have hbyte : (UInt8.ofNat v).toNat = v := toNat_byte (by omega)
    have hsingle := decodeUtf8From_single position rest
      (show (UInt8.ofNat v).toNat < 0x80 by omega)
    rw [hbyte] at hsingle
    exact ⟨_, hsingle⟩
  · split
    · exact ⟨_, decodeUtf8From_two position rest (by omega) (by omega)⟩
    · split
      · exact ⟨_, decodeUtf8From_three position rest (by omega) (by omega) (by omega)⟩
      · exact ⟨_, decodeUtf8From_four position rest (by omega) (by omega)⟩

theorem decodeUtf8From_encode (cs : List Char) (position : Nat) :
    decodeUtf8From position none (cs.flatMap String.utf8EncodeChar) = .ok cs := by
  induction cs generalizing position with
  | nil => rfl
  | cons c cs ih =>
    obtain ⟨next, hnext⟩ :=
      decodeUtf8From_encodeChar c position (cs.flatMap String.utf8EncodeChar)
    rw [List.flatMap_cons, hnext, ih]
    rfl

theorem decodeUtf8_encodeUtf8 (s : String) : decodeUtf8 (encodeUtf8 s) = .ok s := by
  rw [decodeUtf8, encodeUtf8_eq, decodeUtf8From_encode]
  simp [Except.map]

/-! ### Bytes that can be decoded -/

/-- The bytes of a text from the code points of its characters. -/
theorem encodeChar_ofNat {v : Nat} (h : v.isValidChar) :
    String.utf8EncodeChar (Char.ofNat v) =
      if v ≤ 0x7f then [UInt8.ofNat v]
      else if v ≤ 0x7ff then
        [UInt8.ofNat (v / 64 % 0x20 + 0xc0), UInt8.ofNat (v % 0x40 + 0x80)]
      else if v ≤ 0xffff then
        [UInt8.ofNat (v / 4096 % 0x10 + 0xe0), UInt8.ofNat (v / 64 % 0x40 + 0x80),
          UInt8.ofNat (v % 0x40 + 0x80)]
      else
        [UInt8.ofNat (v / 262144 % 0x08 + 0xf0), UInt8.ofNat (v / 4096 % 0x40 + 0x80),
          UInt8.ofNat (v / 64 % 0x40 + 0x80), UInt8.ofNat (v % 0x40 + 0x80)] := by
  have hval : (Char.ofNat v).val.toNat = v := by
    rw [Char.ofNat, dif_pos h]
    rfl
  unfold String.utf8EncodeChar
  rw [hval]

/-- What comes of a byte after others of its character. -/
theorem decodeUtf8From_some_eq_ok {position : Nat} {p : Utf8Partial} {bytes : List UInt8}
    {cs : List Char} (h : decodeUtf8From position (some p) bytes = .ok cs) :
    ∃ b rest, bytes = b :: rest ∧ p.low ≤ b.toNat ∧ b.toNat ≤ p.high ∧
      if p.missing = 1 then
        ∃ more, decodeUtf8From (position + 1) none rest = .ok more ∧
          cs = Char.ofNat (p.bits * 64 + (b.toNat - 0x80)) :: more
      else
        decodeUtf8From (position + 1) (some { p with
          seen := p.seen + 1, missing := p.missing - 1, bits := p.bits * 64 + (b.toNat - 0x80),
          low := 0x80, high := 0xBF }) rest = .ok cs := by
  cases bytes with
  | nil => cases h
  | cons b rest =>
    rw [decodeUtf8From] at h
    split at h
    · cases h
    · refine ⟨b, rest, rfl, by omega, by omega, ?_⟩
      dsimp only at h
      split at h
      · next hlast =>
        rw [if_pos hlast]
        cases hrest : decodeUtf8From (position + 1) none rest with
        | error e =>
          rw [hrest] at h
          cases h
        | ok more =>
          rw [hrest] at h
          cases h
          exact ⟨more, rfl, rfl⟩
      · next hlast => rwa [if_neg hlast]

theorem utf8Lead?_eq_some {b : Nat} {lead : Utf8Lead} (h : utf8Lead? b = some lead) :
    (b < 0x80 ∧ lead = ⟨0, b, 0x80, 0xBF⟩) ∨
    (0xC2 ≤ b ∧ b < 0xE0 ∧ lead = ⟨1, b - 0xC0, 0x80, 0xBF⟩) ∨
    (0xE0 ≤ b ∧ b < 0xF0 ∧ lead = ⟨2, b - 0xE0, if b = 0xE0 then 0xA0 else 0x80,
      if b = 0xED then 0x9F else 0xBF⟩) ∨
    (0xF0 ≤ b ∧ b < 0xF5 ∧ lead = ⟨3, b - 0xF0, if b = 0xF0 then 0x90 else 0x80,
      if b = 0xF4 then 0x8F else 0xBF⟩) := by
  unfold utf8Lead? at h
  split at h
  · exact .inl ⟨‹_›, (Option.some.inj h).symm⟩
  split at h
  · cases h
  split at h
  · exact .inr (.inl ⟨by omega, by omega, (Option.some.inj h).symm⟩)
  split at h
  · exact .inr (.inr (.inl ⟨by omega, by omega, (Option.some.inj h).symm⟩))
  split at h
  · exact .inr (.inr (.inr ⟨by omega, by omega, (Option.some.inj h).symm⟩))
  · cases h

/-- Bytes are compared as numbers. -/
theorem ofNat_eq_byte {n : Nat} {b : UInt8} (h : n = b.toNat) : UInt8.ofNat n = b := by
  rw [h, UInt8.ofNat_toNat]

section Decoded

variable {b second third last : UInt8}

theorem encodeChar_two (hb : 0xC2 ≤ b.toNat ∧ b.toNat < 0xE0)
    (hlast : 0x80 ≤ last.toNat ∧ last.toNat ≤ 0xBF) :
    String.utf8EncodeChar (Char.ofNat ((b.toNat - 0xC0) * 64 + (last.toNat - 0x80))) =
      [b, last] := by
  generalize hv : (b.toNat - 0xC0) * 64 + (last.toNat - 0x80) = v
  rw [encodeChar_ofNat (.inl (by omega)), if_neg (by omega), if_pos (by omega),
    ofNat_eq_byte (show v / 64 % 0x20 + 0xc0 = b.toNat by omega),
    ofNat_eq_byte (show v % 0x40 + 0x80 = last.toNat by omega)]

theorem encodeChar_three (hb : 0xE0 ≤ b.toNat ∧ b.toNat < 0xF0)
    (hsecond : (if b.toNat = 0xE0 then 0xA0 else 0x80) ≤ second.toNat ∧
      second.toNat ≤ if b.toNat = 0xED then 0x9F else 0xBF)
    (hlast : 0x80 ≤ last.toNat ∧ last.toNat ≤ 0xBF) :
    String.utf8EncodeChar (Char.ofNat
      (((b.toNat - 0xE0) * 64 + (second.toNat - 0x80)) * 64 + (last.toNat - 0x80))) =
        [b, second, last] := by
  generalize hv : ((b.toNat - 0xE0) * 64 + (second.toNat - 0x80)) * 64 + (last.toNat - 0x80) = v
  have hbounds : 0x80 ≤ second.toNat ∧ second.toNat ≤ 0xBF ∧ 0x7ff < v ∧ v ≤ 0xffff ∧
      (v < 0xD800 ∨ 0xDFFF < v) := by
    split at hsecond <;> split at hsecond <;> omega
  have hvalid : v.isValidChar := by
    unfold Nat.isValidChar
    omega
  rw [encodeChar_ofNat hvalid, if_neg (by omega), if_neg (by omega), if_pos (by omega),
    ofNat_eq_byte (show v / 4096 % 0x10 + 0xe0 = b.toNat by omega),
    ofNat_eq_byte (show v / 64 % 0x40 + 0x80 = second.toNat by omega),
    ofNat_eq_byte (show v % 0x40 + 0x80 = last.toNat by omega)]

theorem encodeChar_four (hb : 0xF0 ≤ b.toNat ∧ b.toNat < 0xF5)
    (hsecond : (if b.toNat = 0xF0 then 0x90 else 0x80) ≤ second.toNat ∧
      second.toNat ≤ if b.toNat = 0xF4 then 0x8F else 0xBF)
    (hthird : 0x80 ≤ third.toNat ∧ third.toNat ≤ 0xBF)
    (hlast : 0x80 ≤ last.toNat ∧ last.toNat ≤ 0xBF) :
    String.utf8EncodeChar (Char.ofNat
      ((((b.toNat - 0xF0) * 64 + (second.toNat - 0x80)) * 64 + (third.toNat - 0x80)) * 64 +
        (last.toNat - 0x80))) = [b, second, third, last] := by
  generalize hv : (((b.toNat - 0xF0) * 64 + (second.toNat - 0x80)) * 64 +
    (third.toNat - 0x80)) * 64 + (last.toNat - 0x80) = v
  have hbounds : 0x80 ≤ second.toNat ∧ second.toNat ≤ 0xBF ∧ 0xffff < v ∧ v < 0x110000 := by
    split at hsecond <;> split at hsecond <;> omega
  have hvalid : v.isValidChar := by
    unfold Nat.isValidChar
    omega
  rw [encodeChar_ofNat hvalid, if_neg (by omega), if_neg (by omega), if_neg (by omega),
    ofNat_eq_byte (show v / 262144 % 0x08 + 0xf0 = b.toNat by omega),
    ofNat_eq_byte (show v / 4096 % 0x40 + 0x80 = second.toNat by omega),
    ofNat_eq_byte (show v / 64 % 0x40 + 0x80 = third.toNat by omega),
    ofNat_eq_byte (show v % 0x40 + 0x80 = last.toNat by omega)]

end Decoded

/-- Every character that is decoded takes up its bytes and no others. -/
theorem encode_of_decodeUtf8From {position : Nat} {bytes : List UInt8} {cs : List Char}
    (h : decodeUtf8From position none bytes = .ok cs) :
    cs.flatMap String.utf8EncodeChar = bytes := by
  induction hn : bytes.length using Nat.strongRecOn generalizing position bytes cs with
  | _ n ih =>
  subst hn
  cases bytes with
  | nil =>
    cases h
    rfl
  | cons b rest =>
    cases hlead : utf8Lead? b.toNat with
    | none =>
      rw [decodeUtf8From, hlead] at h
      cases h
    | some lead =>
      obtain ⟨hb, rfl⟩ | ⟨hlow, hhigh, rfl⟩ | ⟨hlow, hhigh, rfl⟩ | ⟨hlow, hhigh, rfl⟩ :=
        utf8Lead?_eq_some hlead
      · rw [decodeUtf8From_single _ _ hb] at h
        cases hrest : decodeUtf8From (position + 1) none rest with
        | error e =>
          rw [hrest] at h
          cases h
        | ok more =>
          rw [hrest] at h
          cases h
          have hvalid : b.toNat.isValidChar := .inl (by omega)
          rw [List.flatMap_cons, ih _ (by simp) hrest rfl, encodeChar_ofNat hvalid,
            if_pos (by omega), UInt8.ofNat_toNat]
          rfl
      · -- two bytes
        rw [decodeUtf8From_lead _ _ hlead (by simp)] at h
        obtain ⟨last, rest, rfl, hlast, hlast', more, hrest, rfl⟩ := decodeUtf8From_some_eq_ok h
        rw [List.flatMap_cons, ih _ (by simp only [List.length_cons]; omega) hrest rfl,
          encodeChar_two ⟨hlow, hhigh⟩ ⟨hlast, hlast'⟩]
        rfl
      · -- three bytes
        rw [decodeUtf8From_lead _ _ hlead (by simp)] at h
        obtain ⟨second, rest, rfl, hsecond, hsecond', h⟩ := decodeUtf8From_some_eq_ok h
        obtain ⟨last, rest, rfl, hlast, hlast', more, hrest, rfl⟩ := decodeUtf8From_some_eq_ok h
        rw [List.flatMap_cons, ih _ (by simp only [List.length_cons]; omega) hrest rfl,
          encodeChar_three ⟨hlow, hhigh⟩ ⟨hsecond, hsecond'⟩ ⟨hlast, hlast'⟩]
        rfl
      · -- four bytes
        rw [decodeUtf8From_lead _ _ hlead (by simp)] at h
        obtain ⟨second, rest, rfl, hsecond, hsecond', h⟩ := decodeUtf8From_some_eq_ok h
        obtain ⟨third, rest, rfl, hthird, hthird', h⟩ := decodeUtf8From_some_eq_ok h
        obtain ⟨last, rest, rfl, hlast, hlast', more, hrest, rfl⟩ := decodeUtf8From_some_eq_ok h
        rw [List.flatMap_cons, ih _ (by simp only [List.length_cons]; omega) hrest rfl,
          encodeChar_four ⟨hlow, hhigh⟩ ⟨hsecond, hsecond'⟩ ⟨hthird, hthird'⟩ ⟨hlast, hlast'⟩]
        rfl

theorem encodeUtf8_of_decodeUtf8 {bytes : List UInt8} {text : String}
    (h : decodeUtf8 bytes = .ok text) : encodeUtf8 text = bytes := by
  unfold decodeUtf8 at h
  cases hcs : decodeUtf8From 0 none bytes with
  | error e =>
    rw [hcs] at h
    cases h
  | ok cs =>
    rw [hcs] at h
    cases h
    rw [encodeUtf8_eq, String.toList_ofList]
    exact encode_of_decodeUtf8From hcs

end LocaleRegistrar.Text
