import Mathlib.Logic.Function.Basic
import VoiceHub.Text.Utf8

/-!
# Texts in bytes and in units of 16 bits

What is written as bytes is read back as it was.  One character at a time: its bytes
are as many as its size says, and `next` takes just them off the front.

A character beyond the first 2 ^ 16 has two units, and neither of them is a character.  So
the units of a text determine it.
-/

namespace VoiceHub.Text

def utf16 (c : Char) : List Nat :=
  if c.toNat < 0x10000 then [c.toNat]
  else [0xD800 + (c.toNat - 0x10000) / 0x400, 0xDC00 + (c.toNat - 0x10000) % 0x400]

def units (cs : List Char) : List Nat := cs.flatMap utf16

theorem toNat_lt_or (c : Char) : c.toNat < 0xD800 ∨ 0xE000 ≤ c.toNat ∧ c.toNat < 0x110000 := by
  have hvalid : c.toNat.isValidChar := c.valid
  unfold Nat.isValidChar at hvalid
  omega

/-- The first of two units cannot be taken for a unit alone. -/
theorem utf16_append_inj {c d : Char} {us vs : List Nat} (h : utf16 c ++ us = utf16 d ++ vs) :
    c = d ∧ us = vs := by
  have hc := toNat_lt_or c
  have hd := toNat_lt_or d
  have hchar (hnat : c.toNat = d.toNat) : c = d :=
    Char.ext (UInt32.toNat_inj.mp hnat)
  unfold utf16 at h
  split at h <;> split at h <;> simp only [List.cons_append, List.nil_append, List.cons.injEq] at h
  · exact ⟨hchar h.1, h.2⟩
  · omega
  · omega
  · obtain ⟨hhigh, hlow, hrest⟩ := h
    have hquotient : (c.toNat - 0x10000) / 0x400 = (d.toNat - 0x10000) / 0x400 :=
      Nat.add_left_cancel hhigh
    have hremainder : (c.toNat - 0x10000) % 0x400 = (d.toNat - 0x10000) % 0x400 :=
      Nat.add_left_cancel hlow
    exact ⟨hchar (by omega), hrest⟩

theorem utf16_ne_nil (c : Char) : utf16 c ≠ [] := by
  unfold utf16
  split <;> simp

theorem units_inj {cs ds : List Char} (h : units cs = units ds) : cs = ds := by
  unfold units at h
  induction cs generalizing ds with
  | nil =>
      cases ds with
      | nil => rfl
      | cons d ds => simp [utf16_ne_nil] at h
  | cons c cs ih =>
      cases ds with
      | nil => simp [utf16_ne_nil] at h
      | cons d ds =>
          obtain ⟨rfl, hrest⟩ := utf16_append_inj h
          rw [ih hrest]

theorem units_toList_inj {s t : String} : units s.toList = units t.toList ↔ s = t := by
  constructor
  · intro h
    exact String.toList_inj.mp (units_inj h)
  · rintro rfl
    rfl

end VoiceHub.Text

namespace VoiceHub.Utf8

/-! ## The bytes of a text are those of its characters -/

theorem toList_loop (bytes : ByteArray) (i : Nat) (done : List UInt8) :
    ByteArray.toList.loop bytes i done = done.reverse ++ bytes.data.toList.drop i := by
  fun_induction ByteArray.toList.loop bytes i done with
  | case1 i done h ih =>
      have hlength : i < bytes.data.toList.length := by simpa using h
      rw [ih, List.drop_eq_getElem_cons hlength]
      simp [ByteArray.get!, h]
  | case2 i done h =>
      have hlength : bytes.data.toList.length ≤ i := by simpa using h
      rw [List.drop_eq_nil_of_le hlength, List.append_nil]

theorem encode_eq (s : String) : encode s = s.toList.flatMap String.utf8EncodeChar := by
  have hbytes : s.toUTF8 = (s.toList.flatMap String.utf8EncodeChar).toByteArray := by
    exact String.utf8Encode_toList.symm
  rw [encode, hbytes, ByteArray.toList, toList_loop]
  simp

/-! ## One character -/

section Bytes

variable {n : Nat} {m : UInt8}

theorem toNat_byte (h : n < 256) : (UInt8.ofNat n).toNat = n := by
  simp [Nat.mod_eq_of_lt h]

theorem byte_lt_iff (h : n < 256) : UInt8.ofNat n < m ↔ n < m.toNat := by
  rw [UInt8.lt_iff_toNat_lt, toNat_byte h]

theorem lt_byte_iff (h : n < 256) : m < UInt8.ofNat n ↔ m.toNat < n := by
  rw [UInt8.lt_iff_toNat_lt, toNat_byte h]

theorem le_byte_iff (h : n < 256) : m ≤ UInt8.ofNat n ↔ m.toNat ≤ n := by
  rw [UInt8.le_iff_toNat_le, toNat_byte h]

theorem byte_eq_iff (h : n < 256) : UInt8.ofNat n = m ↔ n = m.toNat := by
  rw [← UInt8.toNat_inj, toNat_byte h]

theorem isContinuation_byte (h : n < 64) : isContinuation (UInt8.ofNat (n + 128)) = true := by
  have hbyte : n + 128 < 256 := by omega
  simp only [isContinuation, le_byte_iff hbyte, byte_lt_iff hbyte, Bool.and_eq_true,
    decide_eq_true_eq]
  constructor
  · exact Nat.le_add_left 128 n
  · change n + 128 < 192
    omega

theorem low_byte (h : n < 64) : low (UInt8.ofNat (n + 128)) = n := by
  rw [low, toNat_byte (by omega)]
  omega

theorem mayFollow_byte {first : Nat} (hfirst : first < 256) (h : n < 64)
    (hshort : first = 0xE0 → 0x20 ≤ n) (hsurrogate : first = 0xED → n < 0x20)
    (hplane : first = 0xF0 → 0x10 ≤ n) (hlast : first = 0xF4 → n < 0x10) :
    mayFollow (UInt8.ofNat first) (UInt8.ofNat (n + 128)) = true := by
  have hbyte : n + 128 < 256 := by omega
  simp only [mayFollow, byte_eq_iff hfirst, le_byte_iff hbyte, byte_lt_iff hbyte,
    isContinuation_byte h]
  simp only [UInt8.reduceToNat]
  split
  · next heq =>
      have := hshort heq
      simp
      omega
  split
  · next heq =>
      have := hsurrogate heq
      simp
      omega
  split
  · next heq =>
      have := hplane heq
      simp
      omega
  split
  · next heq =>
      have := hlast heq
      simp
      omega
  · rfl

end Bytes

section Next

variable {first n k l : Nat} {rest : List UInt8}

theorem next_one (h : first < 0x80) :
    next (UInt8.ofNat first :: rest) = .char (Char.ofNat first) rest := by
  have hbyte : first < 256 := by omega
  have hascii : UInt8.ofNat first < 0x80 := (byte_lt_iff hbyte).mpr h
  simp only [next, if_pos hascii, toNat_byte hbyte]

/-- Bytes from 0xC2 to 0xF4 begin a character of more than one byte. -/
theorem lead_byte (hlow : 0xC2 ≤ first) (hhigh : first ≤ 0xF4) :
    ¬ UInt8.ofNat first < 0x80 ∧
      ¬ (UInt8.ofNat first < 0xC2 ∨ 0xF4 < UInt8.ofNat first) := by
  have hbyte : first < 256 := by omega
  simp only [byte_lt_iff hbyte, lt_byte_iff hbyte, UInt8.reduceToNat]
  omega

theorem next_two (hlow : 0xC2 ≤ first) (hhigh : first < 0xE0) (hn : n < 64) :
    next (UInt8.ofNat first :: UInt8.ofNat (n + 128) :: rest) =
      .char (Char.ofNat (first % 32 * 64 + n)) rest := by
  have hbyte : first < 256 := by omega
  obtain ⟨hone, hlead⟩ := lead_byte hlow (by omega)
  have hfollow := mayFollow_byte hbyte hn (by omega) (by omega) (by omega) (by omega)
  have htwo : UInt8.ofNat first < 0xE0 := (byte_lt_iff hbyte).mpr hhigh
  simp only [next, if_neg hone, if_neg hlead, hfollow, if_pos htwo, toNat_byte hbyte,
    low_byte hn]
  rfl

theorem next_three (hlow : 0xE0 ≤ first) (hhigh : first < 0xF0) (hn : n < 64) (hk : k < 64)
    (hshort : first = 0xE0 → 0x20 ≤ n) (hsurrogate : first = 0xED → n < 0x20) :
    next (UInt8.ofNat first :: UInt8.ofNat (n + 128) :: UInt8.ofNat (k + 128) :: rest) =
      .char (Char.ofNat ((first % 16 * 64 + n) * 64 + k)) rest := by
  have hbyte : first < 256 := by omega
  obtain ⟨hone, hlead⟩ := lead_byte (Nat.le_trans (by decide) hlow) (by omega)
  have hfollow := mayFollow_byte hbyte hn hshort hsurrogate (by omega) (by omega)
  have htwo : ¬ UInt8.ofNat first < 0xE0 := by
    simp only [byte_lt_iff hbyte, UInt8.reduceToNat]
    omega
  have hthree : UInt8.ofNat first < 0xF0 := (byte_lt_iff hbyte).mpr hhigh
  simp only [next, if_neg hone, if_neg hlead, hfollow, if_neg htwo, isContinuation_byte hk,
    if_pos hthree, toNat_byte hbyte, low_byte hn, low_byte hk]
  rfl

theorem next_four (hlow : 0xF0 ≤ first) (hhigh : first ≤ 0xF4) (hn : n < 64) (hk : k < 64)
    (hl : l < 64) (hplane : first = 0xF0 → 0x10 ≤ n) (hlast : first = 0xF4 → n < 0x10) :
    next (UInt8.ofNat first :: UInt8.ofNat (n + 128) :: UInt8.ofNat (k + 128) ::
        UInt8.ofNat (l + 128) :: rest) =
      .char (Char.ofNat (((first % 8 * 64 + n) * 64 + k) * 64 + l)) rest := by
  have hbyte : first < 256 := by omega
  obtain ⟨hone, hlead⟩ := lead_byte (Nat.le_trans (by decide) hlow) hhigh
  have hfollow := mayFollow_byte hbyte hn (by omega) (by omega) hplane hlast
  have htwo : ¬ UInt8.ofNat first < 0xE0 := by
    simp only [byte_lt_iff hbyte, UInt8.reduceToNat]
    omega
  have hthree : ¬ UInt8.ofNat first < 0xF0 := by
    simp only [byte_lt_iff hbyte, UInt8.reduceToNat]
    omega
  simp only [next, if_neg hone, if_neg hlead, hfollow, if_neg htwo, isContinuation_byte hk,
    if_neg hthree, isContinuation_byte hl, toNat_byte hbyte, low_byte hn, low_byte hk,
    low_byte hl]
  rfl

end Next

theorem next_utf8EncodeChar (c : Char) (rest : List UInt8) :
    next (String.utf8EncodeChar c ++ rest) = .char c rest := by
  have hvalid : c.val.toNat < 0xD800 ∨ 0xDFFF < c.val.toNat ∧ c.val.toNat < 0x110000 :=
    c.valid
  have hback : ∀ n, n = c.val.toNat → Next.char (Char.ofNat n) rest = .char c rest := by
    rintro n rfl
    exact congrArg (Next.char · rest) (Char.ofNat_toNat c)
  unfold String.utf8EncodeChar
  generalize c.val.toNat = v at hvalid hback
  dsimp only
  -- the number of bytes decides
  split
  · next hone =>
      refine (next_one (by omega)).trans ?_
      exact hback v rfl
  split
  · next hone htwo =>
      refine (next_two (by omega) (by omega) (by omega)).trans ?_
      exact hback _ (by omega)
  split
  · next hone htwo hthree =>
      refine (next_three (by omega) (by omega) (by omega) (by omega) ?_ ?_).trans ?_
      · omega
      · omega
      · exact hback _ (by omega)
  · next hone htwo hthree =>
      refine (next_four (by omega) (by omega) (by omega) (by omega) (by omega) ?_ ?_).trans ?_
      · omega
      · omega
      · exact hback _ (by omega)

/-! ## All characters -/

theorem decodeFrom_encoded (index : Nat) {steps : Nat} {chars : List Char}
    (h : chars.length ≤ steps) :
    decodeFrom index steps (chars.flatMap String.utf8EncodeChar) = .ok chars := by
  induction chars generalizing index steps with
  | nil =>
      cases steps with
      | zero => rfl
      | succ steps => rfl
  | cons c chars ih =>
      cases steps with
      | zero => cases h
      | succ steps =>
          rw [List.flatMap_cons, decodeFrom, next_utf8EncodeChar]
          simp only [ih _ (Nat.le_of_succ_le_succ h)]
          rfl

theorem length_le_encoded (chars : List Char) :
    chars.length ≤ (chars.flatMap String.utf8EncodeChar).length := by
  induction chars with
  | nil => simp
  | cons c chars ih =>
      have hsize : 0 < c.utf8Size := c.utf8Size_pos
      simp only [List.length_cons, List.flatMap_cons, List.length_append,
        String.length_utf8EncodeChar]
      omega

theorem decode_encode (s : String) : decode (encode s) = .ok s := by
  have hlength := length_le_encoded s.toList
  rw [decode, encode_eq, decodeFrom_encoded 0 (Nat.le_succ_of_le hlength)]
  exact congrArg Except.ok String.ofList_toList

end VoiceHub.Utf8
