import DocStore.Bytes
/-!
# Bytes read back from their text

Hexadecimal, base64 and Latin-1 text gives back every byte sequence, and UTF-8 text those that are
the bytes of a text (`Encoding.decode_encode`), which are the valid ones, and no others
(`Encoding.decode_encode_iff`).
-/

namespace DocStore

/-! ## Hexadecimal -/

theorem hexValue?_hexDigit {n : Nat} (h : n < 16) : hexValue? (hexDigit n) = some n := by
  have hall : ∀ n ∈ List.range 16, hexValue? (hexDigit n) = some n := by decide
  exact hall n (List.mem_range.mpr h)

theorem hexDigit_ne_plus {n : Nat} (h : n < 16) : hexDigit n ≠ '+' := by
  have hall : ∀ n ∈ List.range 16, hexDigit n ≠ '+' := by decide
  exact hall n (List.mem_range.mpr h)

namespace Hex

theorem pair?_encodeByte (b : UInt8) :
    pair? (hexDigit (b.toNat / 16)) (hexDigit (b.toNat % 16)) = some b := by
  have hb : b.toNat < 256 := b.toNat_lt_size
  have hhigh : b.toNat / 16 < 16 := by omega
  have hlow : b.toNat % 16 < 16 := by omega
  have hsum : 16 * (b.toNat / 16) + b.toNat % 16 = b.toNat := by omega
  simp only [pair?, hexValue?_hexDigit hlow, hexValue?_hexDigit hhigh, hexDigit_ne_plus hhigh,
    if_false, Option.bind_eq_bind, Option.bind_some, hsum, UInt8.ofNat_toNat]

theorem decodeChars_encode (bytes : List UInt8) :
    decodeChars (bytes.flatMap encodeByte) = some bytes := by
  induction bytes with
  | nil => rfl
  | cons b bytes ih =>
    rw [List.flatMap_cons, encodeByte, List.cons_append, List.cons_append, List.nil_append,
      decodeChars, pair?_encodeByte, ih]
    rfl

/-- **Hexadecimal text gives back the bytes.** -/
theorem decode_encode (bytes : List UInt8) : decode (encode bytes) = some bytes := by
  rw [decode, encode, String.toList_ofList, decodeChars_encode]

end Hex

/-! ## Base64 -/

namespace Base64

theorem value?_digit {n : Nat} (h : n < 64) : value? (digit n) = some n := by
  have hall : ∀ n ∈ List.range 64, value? (digit n) = some n := by decide
  exact hall n (List.mem_range.mpr h)

theorem digit_ne_pad {n : Nat} (h : n < 64) : digit n ≠ '=' := by
  have hall : ∀ n ∈ List.range 64, digit n ≠ '=' := by decide
  exact hall n (List.mem_range.mpr h)

/-- A full group is read before the rest, also when the rest looks like padding. -/
theorem decodeChars_group {c₁ c₂ c₃ c₄ : Char} (h : c₄ ≠ '=') (rest : List Char) :
    decodeChars (c₁ :: c₂ :: c₃ :: c₄ :: rest) = (do
      let a ← value? c₁
      let b ← value? c₂
      let c ← value? c₃
      let d ← value? c₄
      let n := a * 262144 + b * 4096 + c * 64 + d
      let bytes ← decodeChars rest
      some (UInt8.ofNat (n / 65536) :: UInt8.ofNat (n / 256 % 256) :: UInt8.ofNat (n % 256) ::
        bytes)) := by
  rw [decodeChars]
  · rintro rfl rfl rfl
    exact absurd rfl h
  · rintro rfl rfl
    exact absurd rfl h

/-- The digits of two bytes make up their number again. -/
theorem sum_of_two (n : Nat) : n / 1024 * 1024 + n / 16 % 64 * 16 + n % 16 * 4 / 4 = n := by
  omega

/-- The digits of three bytes make up their number again. -/
theorem sum_of_three (n : Nat) :
    n / 262144 * 262144 + n / 4096 % 64 * 4096 + n / 64 % 64 * 64 + n % 64 = n := by
  omega

theorem decodeChars_encodeChars : ∀ bytes, decodeChars (encodeChars bytes) = some bytes
  | [] => rfl
  | [a] => by
    have ha : a.toNat < 256 := a.toNat_lt_size
    have hfirst : a.toNat / 4 < 64 := by omega
    have hsecond : a.toNat % 4 * 16 < 64 := by omega
    have hunused : a.toNat % 4 * 16 % 16 = 0 := by omega
    have hbyte : a.toNat / 4 * 4 + a.toNat % 4 * 16 / 16 = a.toNat := by omega
    rw [encodeChars]
    simp only [decodeChars, value?_digit hfirst, value?_digit hsecond, Option.bind_eq_bind,
      Option.bind_some, hunused, if_true, hbyte, UInt8.ofNat_toNat]
  | [a, b] => by
    have ha : a.toNat < 256 := a.toNat_lt_size
    have hb : b.toNat < 256 := b.toNat_lt_size
    rw [encodeChars]
    generalize hn : a.toNat * 256 + b.toNat = n
    have hfirst : n / 1024 < 64 := by omega
    have hsecond : n / 16 % 64 < 64 := by omega
    have hthird : n % 16 * 4 < 64 := by omega
    have hpad : digit (n % 16 * 4) ≠ '=' := digit_ne_pad hthird
    have hunused : n % 16 * 4 % 4 = 0 := by omega
    have hhigh : n / 256 = a.toNat := by omega
    have hlow : n % 256 = b.toNat := by omega
    rw [decodeChars]
    · simp only [value?_digit hfirst, value?_digit hsecond, value?_digit hthird,
        Option.bind_eq_bind, Option.bind_some, hunused, if_true, sum_of_two, hhigh, hlow,
        UInt8.ofNat_toNat]
    · exact hpad
  | a :: b :: c :: rest => by
    have ha : a.toNat < 256 := a.toNat_lt_size
    have hb : b.toNat < 256 := b.toNat_lt_size
    have hc : c.toNat < 256 := c.toNat_lt_size
    rw [encodeChars]
    generalize hn : a.toNat * 65536 + b.toNat * 256 + c.toNat = n
    have hfirst : n / 262144 < 64 := by omega
    have hsecond : n / 4096 % 64 < 64 := by omega
    have hthird : n / 64 % 64 < 64 := by omega
    have hfourth : n % 64 < 64 := by omega
    have hhigh : n / 65536 = a.toNat := by omega
    have hmiddle : n / 256 % 256 = b.toNat := by omega
    have hlow : n % 256 = c.toNat := by omega
    rw [decodeChars_group (digit_ne_pad hfourth)]
    simp only [value?_digit hfirst, value?_digit hsecond, value?_digit hthird,
      value?_digit hfourth, decodeChars_encodeChars rest, Option.bind_eq_bind, Option.bind_some,
      sum_of_three, hhigh, hmiddle, hlow, UInt8.ofNat_toNat]

/-- **Base64 text gives back the bytes.** -/
theorem decode_encode (bytes : List UInt8) : decode (encode bytes) = some bytes := by
  rw [decode, encode, String.toList_ofList, decodeChars_encodeChars]

end Base64

/-! ## UTF-8 -/

namespace Utf8

theorem toNat_ofNat_of_lt {n : Nat} (h : n < 256) : (UInt8.ofNat n).toNat = n := by
  rw [UInt8.toNat_ofNat', Nat.mod_eq_of_lt h]

theorem isContinuation_ofNat (n : Nat) : isContinuation (UInt8.ofNat (n % 64 + 128)) = true := by
  have h : n % 64 + 128 < 256 := by omega
  simp only [isContinuation, Bool.and_eq_true, decide_eq_true_eq, UInt8.le_iff_toNat_le,
    toNat_ofNat_of_lt h]
  constructor
  · show 128 ≤ n % 64 + 128
    omega
  · show n % 64 + 128 ≤ 191
    omega

theorem low_ofNat (n : Nat) : low (UInt8.ofNat (n % 64 + 128)) = n % 64 := by
  have h : n % 64 + 128 < 256 := by omega
  rw [low, toNat_ofNat_of_lt h]
  omega

theorem decodeLossy_one {a : UInt8} (ha : a.toNat < 0x80) (rest : List UInt8) :
    decodeLossy (a :: rest) = Char.ofNat a.toNat :: decodeLossy rest := by
  have hlt : a < 0x80 := UInt8.lt_iff_toNat_lt.mpr ha
  rw [decodeLossy.eq_def]
  dsimp only
  rw [if_pos hlt]

theorem decodeLossy_two {a b : UInt8} (ha : 0xC2 ≤ a.toNat ∧ a.toNat ≤ 0xDF)
    (hb : isContinuation b = true) (rest : List UInt8) :
    decodeLossy (a :: b :: rest) =
      Char.ofNat (a.toNat % 32 * 64 + low b) :: decodeLossy rest := by
  have hlt : ¬ a < 0x80 := by
    rw [UInt8.lt_iff_toNat_lt]
    show ¬ a.toNat < 128
    omega
  have hfirst : (0xC2 ≤ a && a ≤ 0xDF) = true := by
    rw [Bool.and_eq_true, decide_eq_true_eq, decide_eq_true_eq, UInt8.le_iff_toNat_le,
      UInt8.le_iff_toNat_le]
    exact ha
  rw [decodeLossy.eq_def]
  dsimp only
  rw [if_neg hlt, if_pos hfirst, if_pos hb]

theorem decodeLossy_three {a b c : UInt8} (ha : 0xE0 ≤ a.toNat ∧ a.toNat ≤ 0xEF)
    (hb : isSecond a b = true) (hc : isContinuation c = true) (rest : List UInt8) :
    decodeLossy (a :: b :: c :: rest) =
      Char.ofNat (a.toNat % 16 * 4096 + low b * 64 + low c) :: decodeLossy rest := by
  have hlt : ¬ a < 0x80 := by
    rw [UInt8.lt_iff_toNat_lt]
    show ¬ a.toNat < 128
    omega
  have hnotTwo : ¬ (0xC2 ≤ a && a ≤ 0xDF) = true := by
    rw [Bool.and_eq_true, decide_eq_true_eq, decide_eq_true_eq, UInt8.le_iff_toNat_le,
      UInt8.le_iff_toNat_le]
    show ¬ (194 ≤ a.toNat ∧ a.toNat ≤ 223)
    omega
  have hfirst : (0xE0 ≤ a && a ≤ 0xF4) = true := by
    rw [Bool.and_eq_true, decide_eq_true_eq, decide_eq_true_eq, UInt8.le_iff_toNat_le,
      UInt8.le_iff_toNat_le]
    show 224 ≤ a.toNat ∧ a.toNat ≤ 244
    omega
  have hthree : a ≤ 0xEF := UInt8.le_iff_toNat_le.mpr ha.2
  have hread : ¬ (!isContinuation c) = true := by
    rw [hc]
    exact Bool.false_ne_true
  rw [decodeLossy.eq_def]
  dsimp only
  rw [if_neg hlt, if_neg hnotTwo, if_pos hfirst, if_pos hb, if_neg hread, if_pos hthree]

theorem decodeLossy_four {a b c d : UInt8} (ha : 0xF0 ≤ a.toNat ∧ a.toNat ≤ 0xF4)
    (hb : isSecond a b = true) (hc : isContinuation c = true) (hd : isContinuation d = true)
    (rest : List UInt8) :
    decodeLossy (a :: b :: c :: d :: rest) =
      Char.ofNat (a.toNat % 8 * 262144 + low b * 4096 + low c * 64 + low d) ::
        decodeLossy rest := by
  have hlt : ¬ a < 0x80 := by
    rw [UInt8.lt_iff_toNat_lt]
    show ¬ a.toNat < 128
    omega
  have hnotTwo : ¬ (0xC2 ≤ a && a ≤ 0xDF) = true := by
    rw [Bool.and_eq_true, decide_eq_true_eq, decide_eq_true_eq, UInt8.le_iff_toNat_le,
      UInt8.le_iff_toNat_le]
    show ¬ (194 ≤ a.toNat ∧ a.toNat ≤ 223)
    omega
  have hfirst : (0xE0 ≤ a && a ≤ 0xF4) = true := by
    rw [Bool.and_eq_true, decide_eq_true_eq, decide_eq_true_eq, UInt8.le_iff_toNat_le,
      UInt8.le_iff_toNat_le]
    show 224 ≤ a.toNat ∧ a.toNat ≤ 244
    omega
  have hnotThree : ¬ a ≤ 0xEF := by
    rw [UInt8.le_iff_toNat_le]
    show ¬ a.toNat ≤ 239
    omega
  have hread : ¬ (!isContinuation c) = true := by
    rw [hc]
    exact Bool.false_ne_true
  rw [decodeLossy, if_neg hlt, if_neg hnotTwo, if_pos hfirst, if_pos hb, if_neg hread,
    if_neg hnotThree, if_pos hd]

theorem isSecond_iff (a b : UInt8) :
    isSecond a b = true ↔ (0x80 ≤ b.toNat ∧ b.toNat ≤ 0xBF) ∧
      (a.toNat = 0xE0 → 0xA0 ≤ b.toNat) ∧ (a.toNat = 0xED → b.toNat ≤ 0x9F) ∧
      (a.toNat = 0xF0 → 0x90 ≤ b.toNat) ∧ (a.toNat = 0xF4 → b.toNat ≤ 0x8F) := by
  have hbetween : ∀ low high : UInt8, (low ≤ b && b ≤ high) = true ↔
      low.toNat ≤ b.toNat ∧ b.toNat ≤ high.toNat := fun low high => by
    rw [Bool.and_eq_true, decide_eq_true_eq, decide_eq_true_eq, UInt8.le_iff_toNat_le,
      UInt8.le_iff_toNat_le]
  have hother := hbetween 0x80 0xBF
  have hE0 := hbetween 0xA0 0xBF
  have hED := hbetween 0x80 0x9F
  have hF0 := hbetween 0x90 0xBF
  have hF4 := hbetween 0x80 0x8F
  simp only [UInt8.reduceToNat] at hother hE0 hED hF0 hF4
  simp only [isSecond, isContinuation, beq_iff_eq, ← UInt8.toNat_inj, UInt8.reduceToNat]
  split
  · rw [hE0]
    omega
  · split
    · rw [hED]
      omega
    · split
      · rw [hF0]
        omega
      · split
        · rw [hF4]
          omega
        · rw [hother]
          omega

/-- The bytes of a character are read as it. -/
theorem decodeLossy_utf8EncodeChar (c : Char) (rest : List UInt8) :
    decodeLossy (String.utf8EncodeChar c ++ rest) = c :: decodeLossy rest := by
  have hc : Char.ofNat c.val.toNat = c := Char.ofNat_toNat c
  have hvalid : c.val.toNat < 0xD800 ∨ 0xDFFF < c.val.toNat ∧ c.val.toNat < 0x110000 := c.valid
  rw [String.utf8EncodeChar]
  generalize c.val.toNat = v at hc hvalid
  split
  · next hone =>
    have ha : (UInt8.ofNat v).toNat = v := toNat_ofNat_of_lt (by omega)
    rw [List.singleton_append, decodeLossy_one (by omega), ha, hc]
  · split
    · next hone htwo =>
      have ha : (UInt8.ofNat (v / 64 % 32 + 192)).toNat = v / 64 % 32 + 192 :=
        toNat_ofNat_of_lt (by omega)
      have hsum : (v / 64 % 32 + 192) % 32 * 64 + v % 64 = v := by omega
      rw [List.cons_append, List.singleton_append,
        decodeLossy_two (by rw [ha]; omega) (isContinuation_ofNat v), ha, low_ofNat, hsum, hc]
    · split
      · next hone htwo hthree =>
        have ha : (UInt8.ofNat (v / 4096 % 16 + 224)).toNat = v / 4096 % 16 + 224 :=
          toNat_ofNat_of_lt (by omega)
        have hb : (UInt8.ofNat (v / 64 % 64 + 128)).toNat = v / 64 % 64 + 128 :=
          toNat_ofNat_of_lt (by omega)
        have hhigh : v / 64 / 64 = v / 4096 := Nat.div_div_eq_div_mul v 64 64
        have hsum : (v / 4096 % 16 + 224) % 16 * 4096 + v / 64 % 64 * 64 + v % 64 = v := by omega
        have hsecond : isSecond (UInt8.ofNat (v / 4096 % 16 + 224))
            (UInt8.ofNat (v / 64 % 64 + 128)) = true := by
          rw [isSecond_iff, ha, hb]
          omega
        rw [List.cons_append, List.cons_append, List.singleton_append,
          decodeLossy_three (by rw [ha]; omega) hsecond (isContinuation_ofNat v), ha, low_ofNat,
          low_ofNat, hsum, hc]
      · next hone htwo hthree =>
        have ha : (UInt8.ofNat (v / 262144 % 8 + 240)).toNat = v / 262144 % 8 + 240 :=
          toNat_ofNat_of_lt (by omega)
        have hb : (UInt8.ofNat (v / 4096 % 64 + 128)).toNat = v / 4096 % 64 + 128 :=
          toNat_ofNat_of_lt (by omega)
        have hhigh : v / 64 / 64 = v / 4096 := Nat.div_div_eq_div_mul v 64 64
        have hhighest : v / 4096 / 64 = v / 262144 := Nat.div_div_eq_div_mul v 4096 64
        have hsum : (v / 262144 % 8 + 240) % 8 * 262144 + v / 4096 % 64 * 4096 +
            v / 64 % 64 * 64 + v % 64 = v := by omega
        have hsecond : isSecond (UInt8.ofNat (v / 262144 % 8 + 240))
            (UInt8.ofNat (v / 4096 % 64 + 128)) = true := by
          rw [isSecond_iff, ha, hb]
          omega
        rw [List.cons_append, List.cons_append, List.cons_append, List.singleton_append,
          decodeLossy_four (by rw [ha]; omega) hsecond (isContinuation_ofNat (v / 64))
            (isContinuation_ofNat v), ha, low_ofNat, low_ofNat, low_ofNat, hsum, hc]

/-- Valid UTF-8 is the bytes of a text. -/
theorem isValidUTF8_iff {bytes : List UInt8} :
    bytes.toByteArray.IsValidUTF8 ↔ ∃ text, bytes = encode text := by
  constructor
  · rintro ⟨cs, hcs⟩
    refine ⟨String.ofList cs, ?_⟩
    rw [encode, String.toList_ofList]
    exact List.toByteArray_inj.mp hcs
  · rintro ⟨text, rfl⟩
    exact ⟨text.toList, rfl⟩

/-- The bytes of a text are read as the text. -/
theorem decodeLossy_encode (text : String) : decodeLossy (encode text) = text.toList := by
  rw [encode]
  induction text.toList with
  | nil => rfl
  | cons c cs ih => rw [List.flatMap_cons, decodeLossy_utf8EncodeChar, ih]

end Utf8

/-! ## All encodings -/

namespace Encoding

/-- Whether an encoding can write bytes down: UTF-8 needs the bytes of a text. -/
def CanWrite (encoding : Encoding) (bytes : List UInt8) : Prop :=
  encoding = .utf8 → ∃ text, bytes = Utf8.encode text

/-- **What an encoding can write it reads back.** -/
theorem decode_encode {encoding : Encoding} {bytes : List UInt8} (h : encoding.CanWrite bytes) :
    encoding.decode (encoding.encode bytes) = some bytes := by
  cases encoding with
  | hex => exact Hex.decode_encode bytes
  | base64 => exact Base64.decode_encode bytes
  | utf8 =>
    obtain ⟨text, rfl⟩ := h rfl
    rw [decode, encode, Utf8.decodeLossy_encode, String.ofList_toList]
  | latin1 =>
    have hchar : ∀ b : UInt8, UInt8.ofNat (Char.ofNat b.toNat).toNat = b := fun b => by
      have hb : b.toNat < 256 := b.toNat_lt_size
      have hvalid : b.toNat.isValidChar := .inl (by omega)
      rw [Char.ofNat, dif_pos hvalid]
      exact UInt8.ofNat_toNat
    rw [decode, encode]
    simp only [String.toList_ofList, List.map_map, Function.comp_def, hchar, List.map_id']

/-- **Bytes are read back from their text exactly where they can be.** Hexadecimal, base64 and
Latin-1 give back any bytes, and UTF-8 gives back what is valid UTF-8, and nothing else. -/
theorem decode_encode_iff (encoding : Encoding) (bytes : List UInt8) :
    encoding.decode (encoding.encode bytes) = some bytes ↔
      encoding ≠ .utf8 ∨ bytes.toByteArray.IsValidUTF8 := by
  rw [Utf8.isValidUTF8_iff]
  constructor
  · intro h
    by_cases hutf8 : encoding = .utf8
    · subst hutf8
      exact .inr ⟨_, (Option.some.inj h).symm⟩
    · exact .inl hutf8
  · exact fun h => decode_encode fun hutf8 => h.resolve_left (absurd hutf8)

end Encoding

end DocStore
