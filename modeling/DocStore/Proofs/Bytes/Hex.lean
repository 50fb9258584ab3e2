import DocStore.Proofs.Bytes.Encoding
/-!
# What the hexadecimal reader takes

Hexadecimal text is pairs of digits of either case. The reader takes all of it, but also a plus sign
for the first digit of a pair, which it counts as zero. So it reads just the texts that are
`Hex.IsReadable`, and the bytes that it gives have the text in lower case, with zeros for the signs,
as their text (`Hex.decode_eq_some_iff`). What has no sign in it is read if and only if it is
hexadecimal (`Hex.isReadAsHexText_iff`).
-/

namespace DocStore.Hex

/-- A digit from 0 to 9, or a letter from a to f of either case. -/
def IsDigit (c : Char) : Prop :=
  ('0' ≤ c ∧ c ≤ '9') ∨ ('a' ≤ c ∧ c ≤ 'f') ∨ ('A' ≤ c ∧ c ≤ 'F')

instance : DecidablePred IsDigit := fun c => by
  unfold IsDigit
  infer_instance

/-- An even number of digits. -/
def IsHexText (text : String) : Prop := text.length % 2 = 0 ∧ ∀ c ∈ text.toList, IsDigit c

/-- An even number of characters that are digits, or plus signs at the first place of a pair. -/
def Readable (cs : List Char) : Prop :=
  cs.length % 2 = 0 ∧ ∀ i c, cs[i]? = some c → IsDigit c ∨ c = '+' ∧ i % 2 = 0

/-- A text of an even number of characters that are digits, or plus signs at the first place of a
pair. -/
def IsReadable (text : String) : Prop := Readable text.toList

/-- The lower-case digit that a character counts as; a plus sign counts as zero. -/
def plain (c : Char) : Char := if c = '+' then '0' else c.toLower

/-! ## Digits -/

theorem toNat_lt_of_isDigit {c : Char} (h : IsDigit c) : c.toNat < 128 := by
  simp only [IsDigit, Char.le_def, UInt32.le_iff_toNat_le] at h
  change _ ∨ _ ∧ c.toNat ≤ 102 ∨ _ ∧ c.toNat ≤ 70 at h
  have hdigit : c.val.toNat = c.toNat := rfl
  simp at h
  omega

/-- The value of a digit is the number whose lower-case digit it is. -/
theorem hexValue?_of_isDigit {c : Char} (h : IsDigit c) :
    ∃ n < 16, hexValue? c = some n ∧ hexDigit n = c.toLower := by
  have hall : ∀ k ∈ List.range 128, IsDigit (Char.ofNat k) → ∃ n < 16,
      hexValue? (Char.ofNat k) = some n ∧ hexDigit n = (Char.ofNat k).toLower := by
    decide +kernel
  have hchar := hall c.toNat (List.mem_range.mpr (toNat_lt_of_isDigit h))
  rw [Char.ofNat_toNat] at hchar
  exact hchar h

theorem isDigit_of_hexValue? {c : Char} {n : Nat} (h : hexValue? c = some n) : IsDigit c := by
  unfold hexValue? at h
  split at h
  · next hdigit => exact .inl hdigit
  · split at h
    · next hlower => exact .inr (.inl hlower)
    · split at h
      · next hupper => exact .inr (.inr hupper)
      · cases h

theorem not_isDigit_plus : ¬ IsDigit '+' := by decide

theorem plain_of_isDigit {c : Char} (h : IsDigit c) : plain c = c.toLower := by
  rw [plain, if_neg]
  rintro rfl
  exact not_isDigit_plus h

/-! ## Pairs -/

theorem encodeByte_ofNat {high low : Nat} (hhigh : high < 16) (hlow : low < 16) :
    encodeByte (UInt8.ofNat (16 * high + low)) = [hexDigit high, hexDigit low] := by
  have hbyte : (UInt8.ofNat (16 * high + low)).toNat = 16 * high + low :=
    Utf8.toNat_ofNat_of_lt (by omega)
  have hfirst : (16 * high + low) / 16 = high := by omega
  have hsecond : (16 * high + low) % 16 = low := by omega
  rw [encodeByte, hbyte, hfirst, hsecond]

theorem encodeByte_injective {a b : UInt8} (h : encodeByte a = encodeByte b) : a = b := by
  simp only [encodeByte, List.cons.injEq, and_true] at h
  have hpair : some a = some b := by
    rw [← pair?_encodeByte a, ← pair?_encodeByte b, h.1, h.2]
  exact Option.some.inj hpair

/-- Two digits, or a plus sign and a digit, are read to the byte whose digits they count as. -/
theorem exists_pair? {high low : Char} (hhigh : IsDigit high ∨ high = '+') (hlow : IsDigit low) :
    ∃ b, pair? high low = some b ∧ encodeByte b = [plain high, plain low] := by
  obtain ⟨l, hl, hlowValue, hlowDigit⟩ := hexValue?_of_isDigit hlow
  rw [plain_of_isDigit hlow, ← hlowDigit]
  rcases hhigh with hhigh | rfl
  · obtain ⟨h, hh, hhighValue, hhighDigit⟩ := hexValue?_of_isDigit hhigh
    have hne : high ≠ '+' := fun heq => not_isDigit_plus (heq ▸ hhigh)
    refine ⟨UInt8.ofNat (16 * h + l), ?_, ?_⟩
    · simp [pair?, hlowValue, hhighValue, hne]
    · rw [plain_of_isDigit hhigh, ← hhighDigit, encodeByte_ofNat hh hl]
  · refine ⟨UInt8.ofNat (16 * 0 + l), ?_, ?_⟩
    · simp [pair?, hlowValue]
    · rw [encodeByte_ofNat (by omega) hl]
      rfl

theorem isDigit_of_pair? {high low : Char} {b : UInt8} (h : pair? high low = some b) :
    (IsDigit high ∨ high = '+') ∧ IsDigit low := by
  simp only [pair?, Option.bind_eq_bind, Option.bind_eq_some_iff] at h
  obtain ⟨l, hlow, h⟩ := h
  refine ⟨?_, isDigit_of_hexValue? hlow⟩
  split at h
  · next hplus => exact .inr hplus
  · obtain ⟨n, hhigh, -⟩ := Option.bind_eq_some_iff.mp h
    exact .inl (isDigit_of_hexValue? hhigh)

/-- A pair is read to the byte whose digits it counts as. -/
theorem pair?_eq_some_iff {high low : Char} {b : UInt8} :
    pair? high low = some b ↔
      (IsDigit high ∨ high = '+') ∧ IsDigit low ∧ encodeByte b = [plain high, plain low] := by
  constructor
  · intro h
    obtain ⟨hhigh, hlow⟩ := isDigit_of_pair? h
    obtain ⟨b', hread, hdigits⟩ := exists_pair? hhigh hlow
    rw [h] at hread
    cases hread
    exact ⟨hhigh, hlow, hdigits⟩
  · rintro ⟨hhigh, hlow, hdigits⟩
    obtain ⟨b', hread, hdigits'⟩ := exists_pair? hhigh hlow
    rw [hread, encodeByte_injective (hdigits.trans hdigits'.symm)]

/-! ## Texts -/

theorem readable_nil : Readable [] := ⟨rfl, by simp⟩

theorem readable_cons_cons {high low : Char} {rest : List Char} :
    Readable (high :: low :: rest) ↔ (IsDigit high ∨ high = '+') ∧ IsDigit low ∧ Readable rest := by
  constructor
  · rintro ⟨heven, hall⟩
    refine ⟨?_, ?_, ?_, ?_⟩
    · simpa using hall 0 high
    · simpa using hall 1 low
    · simp only [List.length_cons] at heven
      omega
    · intro i c hc
      have hplace := hall (i + 2) c (by simpa using hc)
      rwa [Nat.add_mod_right] at hplace
  · rintro ⟨hhigh, hlow, heven, hall⟩
    refine ⟨?_, ?_⟩
    · simp only [List.length_cons]
      omega
    · intro i c hc
      match i with
      | 0 =>
        cases hc
        simpa using hhigh
      | 1 =>
        cases hc
        exact .inl hlow
      | i + 2 =>
        rw [Nat.add_mod_right]
        exact hall i c (by simpa using hc)

theorem decodeChars_eq_some_iff (cs : List Char) (bytes : List UInt8) :
    decodeChars cs = some bytes ↔ Readable cs ∧ bytes.flatMap encodeByte = cs.map plain := by
  induction cs using decodeChars.induct generalizing bytes with
  | case1 =>
    cases bytes <;> simp [decodeChars, readable_nil, encodeByte]
  | case2 c => simp [decodeChars, Readable]
  | case3 high low rest ih =>
    simp only [decodeChars, Option.bind_eq_bind, Option.bind_eq_some_iff, pair?_eq_some_iff, ih,
      readable_cons_cons, List.map_cons]
    constructor
    · rintro ⟨b, ⟨hhigh, hlow, hdigits⟩, bs, ⟨hrest, hbytes⟩, ⟨⟩⟩
      refine ⟨⟨hhigh, hlow, hrest⟩, ?_⟩
      rw [List.flatMap_cons, hdigits, hbytes]
      rfl
    · rintro ⟨⟨hhigh, hlow, hrest⟩, hbytes⟩
      cases bytes with
      | nil => simp at hbytes
      | cons b bs =>
        simp only [List.flatMap_cons, encodeByte, List.cons_append, List.nil_append,
          List.cons.injEq] at hbytes
        obtain ⟨hfirst, hsecond, hbytes⟩ := hbytes
        exact ⟨b, ⟨hhigh, hlow, by rw [encodeByte, hfirst, hsecond]⟩, bs, ⟨hrest, hbytes⟩, rfl⟩

/-- The reader takes just the readable texts, and the text of the bytes that it gives is the text
read, in lower case and with zeros for its signs. -/
theorem decode_eq_some_iff {text : String} {bytes : List UInt8} :
    decode text = some bytes ↔ IsReadable text ∧ encode bytes = text.map plain := by
  rw [decode, decodeChars_eq_some_iff, IsReadable, encode, ← String.toList_inj,
    String.toList_ofList, String.toList_map]

theorem exists_decode_of_isReadable {text : String} (h : IsReadable text) :
    ∃ bytes, decode text = some bytes := by
  suffices hchars : ∀ cs, Readable cs → ∃ bytes, decodeChars cs = some bytes from hchars _ h
  intro cs
  induction cs using decodeChars.induct with
  | case1 => exact fun _ => ⟨[], rfl⟩
  | case2 c => simp [Readable]
  | case3 high low rest ih =>
    intro h
    obtain ⟨hhigh, hlow, hrest⟩ := readable_cons_cons.mp h
    obtain ⟨b, hread, -⟩ := exists_pair? hhigh hlow
    obtain ⟨bs, hbytes⟩ := ih hrest
    exact ⟨b :: bs, by simp [decodeChars, hread, hbytes]⟩

/-- Readable text is hexadecimal text if there is no sign in it. -/
theorem isHexText_iff {text : String} : IsHexText text ↔ IsReadable text ∧ '+' ∉ text.toList := by
  constructor
  · rintro ⟨heven, hall⟩
    refine ⟨⟨by rwa [String.length_toList], fun i c hc => .inl (hall c (List.mem_of_getElem? hc))⟩,
      fun hplus => not_isDigit_plus (hall _ hplus)⟩
  · rintro ⟨⟨heven, hall⟩, hplus⟩
    refine ⟨by rwa [String.length_toList] at heven, fun c hc => ?_⟩
    obtain ⟨i, hi⟩ := List.getElem?_of_mem hc
    rcases hall i c hi with hdigit | ⟨rfl, -⟩
    · exact hdigit
    · exact absurd hc hplus

theorem map_plain_of_isHexText {text : String} (h : IsHexText text) :
    text.map plain = text.toLower := by
  have hlower : text.toLower = text.map Char.toLower := rfl
  rw [hlower, ← String.toList_inj, String.toList_map, String.toList_map]
  exact List.map_congr_left fun c hc => plain_of_isDigit (h.2 c hc)

/-- A text is given bytes just if it is hexadecimal, and then their text is that text in lower
case. -/
def IsReadAsHexText (text : String) : Prop :=
  ((∃ bytes, decode text = some bytes) ↔ IsHexText text) ∧
    ∀ bytes, decode text = some bytes → encode bytes = text.toLower

/-- **The reader takes hexadecimal text, and signs for the first digits of pairs.** It gives bytes
for the readable texts and no others, and the text of these bytes is the text read, in lower case
and with zeros for its signs. So it takes a text as hexadecimal, or turns it down as not, unless the
text is readable and has a sign in it. -/
theorem isReadAsHexText_iff (text : String) :
    ((∃ bytes, decode text = some bytes) ↔ IsReadable text) ∧
    (∀ bytes, decode text = some bytes → encode bytes = text.map plain) ∧
    (IsReadAsHexText text ↔ (IsReadable text → '+' ∉ text.toList)) := by
  have hread : (∃ bytes, decode text = some bytes) ↔ IsReadable text :=
    ⟨fun ⟨_, h⟩ => (decode_eq_some_iff.mp h).1, exists_decode_of_isReadable⟩
  refine ⟨hread, fun bytes h => (decode_eq_some_iff.mp h).2, ?_⟩
  rw [IsReadAsHexText, hread, isHexText_iff]
  constructor
  · rintro ⟨hhex, -⟩ hreadable
    exact (hhex.mp hreadable).2
  · intro hunsigned
    refine ⟨⟨fun h => ⟨h, hunsigned h⟩, And.left⟩, fun bytes h => ?_⟩
    obtain ⟨hreadable, hbytes⟩ := decode_eq_some_iff.mp h
    rw [hbytes, map_plain_of_isHexText (isHexText_iff.mpr ⟨hreadable, hunsigned hreadable⟩)]

/-- The text `+5` is not hexadecimal and is read all the same. -/
theorem signed_text_read : decode "+5" = some [5] ∧ ¬ IsHexText "+5" := by
  refine ⟨by decide, fun h => not_isDigit_plus (h.2 '+' (by decide))⟩

end DocStore.Hex
