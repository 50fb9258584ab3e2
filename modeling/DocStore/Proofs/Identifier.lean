import DocStore.Session
import Mathlib.Data.Nat.ModEq
/-!
# Identifiers are told apart

The digits of a number at a width say the number up to multiples of `36 ^ width`
(`base36_eq_base36_iff`), and the fields of an identifier have fixed widths, so that two identifiers
of one source are equal if and only if each of their fields agrees up to such a multiple
(`IdSource.nth_eq_nth_iff`). Before the counter wraps, draws of one source are told apart by the
digits of their counts, unless they are a multiple of `36 ^ 4` draws apart, whatever the clock does
(`IdSource.ids_told_apart`).
-/

namespace DocStore

/-! ## Digits -/

/-- A digit from 0 to 9, or a letter from a to z. -/
def IsBase36Digit (c : Char) : Prop := ('0' ≤ c ∧ c ≤ '9') ∨ ('a' ≤ c ∧ c ≤ 'z')

instance : DecidablePred IsBase36Digit := fun c => by
  unfold IsBase36Digit
  infer_instance

theorem isBase36Digit_base36Digit {n : Nat} (h : n < 36) : IsBase36Digit (base36Digit n) := by
  have hall : ∀ n < 36, IsBase36Digit (base36Digit n) := by decide
  exact hall n h

theorem toNat_base36Digit {n : Nat} (h : n < 36) :
    (base36Digit n).toNat = if n < 10 then 48 + n else 87 + n := by
  have hall : ∀ n < 36, (base36Digit n).toNat = if n < 10 then 48 + n else 87 + n := by decide
  exact hall n h

theorem base36Digit_inj {n m : Nat} (hn : n < 36) (hm : m < 36) :
    base36Digit n = base36Digit m ↔ n = m := by
  refine ⟨fun h => ?_, congrArg base36Digit⟩
  have hcode := congrArg Char.toNat h
  rw [toNat_base36Digit hn, toNat_base36Digit hm] at hcode
  split at hcode <;> split at hcode <;> omega

/-- A digit is one byte. -/
theorem IsBase36Digit.utf8Size_eq {c : Char} (h : IsBase36Digit c) : c.utf8Size = 1 := by
  rw [Char.utf8Size_eq_one_iff]
  have hnine : ('9'.val : UInt32) ≤ 127 := by decide
  have hz : ('z'.val : UInt32) ≤ 127 := by decide
  rcases h with h | h
  · exact UInt32.le_trans (Char.le_def.mp h.2) hnine
  · exact UInt32.le_trans (Char.le_def.mp h.2) hz

/-- A text of digits has a byte for each. -/
theorem utf8ByteSize_of_digits {cs : List Char} (h : ∀ c ∈ cs, IsBase36Digit c) :
    (String.ofList cs).utf8ByteSize = cs.length := by
  induction cs with
  | nil => rfl
  | cons c cs ih =>
    obtain ⟨hc, hcs⟩ := List.forall_mem_cons.mp h
    rw [String.ofList_cons, String.utf8ByteSize_append, String.utf8ByteSize_singleton,
      hc.utf8Size_eq, ih hcs, List.length_cons, Nat.add_comm]

/-! ## Numbers at a width -/

theorem length_base36 (width n : Nat) : (base36 width n).length = width := by
  induction width generalizing n with
  | zero => rfl
  | succ width ih => rw [base36, List.length_append, ih, List.length_singleton]

theorem isBase36Digit_of_mem_base36 {width n : Nat} {c : Char} (h : c ∈ base36 width n) :
    IsBase36Digit c := by
  induction width generalizing n with
  | zero => cases h
  | succ width ih =>
    rw [base36, List.mem_append, List.mem_singleton] at h
    rcases h with h | rfl
    · exact ih h
    · exact isBase36Digit_base36Digit (Nat.mod_lt n (by decide))

/-- The digits of two numbers are equal exactly if the numbers agree modulo the power of the
base. -/
theorem base36_eq_base36_iff {width n m : Nat} :
    base36 width n = base36 width m ↔ n ≡ m [MOD 36 ^ width] := by
  induction width generalizing n m with
  | zero => exact iff_of_true rfl Nat.modEq_one
  | succ width ih =>
    have hn : n % 36 < 36 := Nat.mod_lt n (by decide)
    have hm : m % 36 < 36 := Nat.mod_lt m (by decide)
    rw [base36, base36, List.append_singleton_inj, ih, base36Digit_inj hn hm, Nat.ModEq, Nat.ModEq,
      Nat.pow_succ', Nat.mod_mul, Nat.mod_mul]
    omega

/-- A field is read off the front of what follows. -/
theorem base36_append_inj {width n m : Nat} {cs ds : List Char} :
    base36 width n ++ cs = base36 width m ++ ds ↔ n ≡ m [MOD 36 ^ width] ∧ cs = ds := by
  rw [← base36_eq_base36_iff]
  constructor
  · intro h
    exact List.append_inj h (by rw [length_base36, length_base36])
  · rintro ⟨hdigits, rfl⟩
    rw [hdigits]

namespace IdSource

/-! ## One identifier -/

section

variable {fingerprint : List Char} {count : Nat} {reading : IdReading}

theorem length_fingerprintOf (process : Nat) (host : List UInt8) :
    (fingerprintOf process host).length = 4 := by
  rw [fingerprintOf, List.length_append, length_base36, length_base36]

theorem isBase36Digit_of_mem_fingerprintOf {process : Nat} {host : List UInt8} {c : Char}
    (h : c ∈ fingerprintOf process host) : IsBase36Digit c :=
  (List.mem_append.mp h).elim isBase36Digit_of_mem_base36 isBase36Digit_of_mem_base36

theorem length_compose (h : fingerprint.length = 4) :
    (compose fingerprint count reading).length = 25 := by
  simp [compose, length_base36, h]

theorem isBase36Digit_of_mem_compose (h : ∀ c ∈ fingerprint, IsBase36Digit c) :
    ∀ c ∈ compose fingerprint count reading, IsBase36Digit c := by
  have hc : IsBase36Digit 'c' := by decide
  simp only [compose, List.cons_append, List.append_assoc, List.forall_mem_cons,
    List.forall_mem_append]
  exact ⟨hc, fun _ => isBase36Digit_of_mem_base36, fun _ => isBase36Digit_of_mem_base36, h,
    fun _ => isBase36Digit_of_mem_base36, fun _ => isBase36Digit_of_mem_base36⟩

/-- Under one fingerprint, identifiers are equal exactly if their fields are, digit by digit. -/
theorem compose_eq_compose_iff {count' : Nat} {reading' : IdReading} :
    compose fingerprint count reading = compose fingerprint count' reading' ↔
      reading.millis ≡ reading'.millis [MOD 36 ^ 8] ∧ count ≡ count' [MOD 36 ^ 4] ∧
        reading.first ≡ reading'.first [MOD 36 ^ 4] ∧
        reading.second ≡ reading'.second [MOD 36 ^ 4] := by
  simp only [compose, List.cons_append, List.append_assoc, List.cons.injEq, true_and,
    base36_append_inj, List.append_cancel_left_eq, base36_eq_base36_iff]

end

/-! ## Draws in turn -/

/-- The source after some draws. -/
def after (source : IdSource) : Nat → IdSource
  | 0 => source
  | n + 1 => (source.after n).draw.2

/-- The identifier of a draw; the next draw is number zero. -/
def nth (source : IdSource) (n : Nat) : String := (source.after n).draw.1

/-- What the source is told at a draw. -/
def reading (source : IdSource) (n : Nat) : IdReading := source.readings (source.drawn + n)

/-- A draw moves on to the next count and the next reading, and changes nothing else. -/
theorem draw_snd (source : IdSource) :
    source.draw.2 =
      { source with counter := source.counter + 1, drawn := source.drawn + 1 } := rfl

theorem after_eq (source : IdSource) (n : Nat) :
    source.after n =
      { source with counter := source.counter + UInt64.ofNat n, drawn := source.drawn + n } := by
  induction n with
  | zero => simp [after]
  | succ n ih =>
    rw [after, ih, draw_snd]
    simp only [UInt64.ofNat_add, UInt64.add_assoc, Nat.add_assoc]
    rfl

theorem nth_eq (source : IdSource) (n : Nat) :
    source.nth n = String.ofList (compose source.fingerprint
      (source.counter + UInt64.ofNat n).toNat (source.reading n)) := by
  rw [nth, after_eq, draw, reading]

/-- Before the counter wraps, counts are as far apart as their draws. -/
theorem toNat_count {counter : UInt64} {n : Nat} (h : counter.toNat + n < 2 ^ 64) :
    (counter + UInt64.ofNat n).toNat = counter.toNat + n := by
  rw [UInt64.toNat_add, UInt64.toNat_ofNat', Nat.add_mod_mod, Nat.mod_eq_of_lt h]

/-- **When two draws give one identifier.** Their clocks and random blocks agree digit by digit, and
they are a multiple of `36 ^ 4` draws apart. -/
theorem nth_eq_nth_iff {source : IdSource} {i j : Nat} (hlt : i < j)
    (hwrap : source.counter.toNat + j < 2 ^ 64) :
    source.nth i = source.nth j ↔
      (source.reading i).millis ≡ (source.reading j).millis [MOD 36 ^ 8] ∧ 36 ^ 4 ∣ j - i ∧
        (source.reading i).first ≡ (source.reading j).first [MOD 36 ^ 4] ∧
        (source.reading i).second ≡ (source.reading j).second [MOD 36 ^ 4] := by
  have hcounts : source.counter.toNat + i ≡ source.counter.toNat + j [MOD 36 ^ 4] ↔
      36 ^ 4 ∣ j - i := by
    rw [Nat.modEq_iff_dvd' (by omega), Nat.add_sub_add_left]
  rw [nth_eq, nth_eq, String.ofList_inj, compose_eq_compose_iff, toNat_count hwrap,
    toNat_count (by omega), hcounts]

/-! ## The form of identifiers -/

/-- The form of an identifier: twenty-five digits, of which the first is `c`. -/
structure Formed (id : String) : Prop where
  length_eq : id.length = 25
  head_eq : id.toList.head? = some 'c'
  digits : ∀ c ∈ id.toList, IsBase36Digit c

/-- What has the form passes for an identifier. -/
theorem Formed.isIdentifier_eq {id : String} (h : Formed id) : isIdentifier id = true := by
  have hbytes : id.utf8ByteSize = 25 := by
    rw [← h.length_eq, ← id.ofList_toList, utf8ByteSize_of_digits h.digits, String.length_ofList]
  rw [isIdentifier, h.head_eq, hbytes]
  rfl

theorem formed_nth {source : IdSource} {process : Nat} {host : List UInt8}
    (h : source.fingerprint = fingerprintOf process host) (n : Nat) : Formed (source.nth n) := by
  rw [nth_eq, h]
  constructor
  · rw [String.length_ofList]
    exact length_compose (length_fingerprintOf process host)
  · rw [String.toList_ofList]
    rfl
  · rw [String.toList_ofList]
    exact isBase36Digit_of_mem_compose fun _ => isBase36Digit_of_mem_fingerprintOf

/-- **Identifiers of one source are told apart, and have the form of identifiers.** Two draws before
the counter wraps give one identifier only if they are a multiple of `36 ^ 4` draws apart and the
clock says the same up to multiples of `36 ^ 8`. Nothing is assumed of the clock and of the random
blocks. -/
theorem ids_told_apart {source : IdSource} {process : Nat} {host : List UInt8}
    (h : source.fingerprint = fingerprintOf process host) :
    (∀ i j, i < j → source.counter.toNat + j < 2 ^ 64 → source.nth i = source.nth j →
        36 ^ 4 ∣ j - i ∧ (source.reading i).millis ≡ (source.reading j).millis [MOD 36 ^ 8]) ∧
      (∀ i j, i < j → j < i + 36 ^ 4 → source.counter.toNat + j < 2 ^ 64 →
        source.nth i ≠ source.nth j) ∧
      ∀ n, Formed (source.nth n) ∧ isIdentifier (source.nth n) = true := by
  have hequal : ∀ i j, i < j → source.counter.toNat + j < 2 ^ 64 → source.nth i = source.nth j →
      36 ^ 4 ∣ j - i ∧
        (source.reading i).millis ≡ (source.reading j).millis [MOD 36 ^ 8] := by
    intro i j hlt hwrap hsame
    obtain ⟨hclock, hapart, -, -⟩ := (nth_eq_nth_iff hlt hwrap).mp hsame
    exact ⟨hapart, hclock⟩
  refine ⟨hequal, ?_, fun n => ⟨formed_nth h n, (formed_nth h n).isIdentifier_eq⟩⟩
  -- A multiple of `36 ^ 4` that is not zero is no less than `36 ^ 4`.
  intro i j hlt hnear hwrap hsame
  have hfar := Nat.le_of_dvd (by omega) (hequal i j hlt hwrap hsame).1
  omega

/-- A source whose clock stands still and whose random blocks are always the same. -/
def stopped : IdSource where
  counter := 0
  fingerprint := fingerprintOf 4242 [104, 111, 115, 116]
  readings := fun _ => ⟨1722470400123, 7, 11⟩
  drawn := 0

/-- Without help from the clock and the random blocks, the counter alone tells `36 ^ 4` draws apart,
and no more. -/
theorem ids_told_apart_stopped :
    stopped.nth 0 = stopped.nth (36 ^ 4) ∧ 36 ^ 4 ∣ 36 ^ 4 - 0 ∧
      stopped.nth 0 ≠ stopped.nth (36 ^ 4 - 1) ∧ Formed (stopped.nth 0) := by
  have hlt : 0 < 36 ^ 4 := by decide
  have hwrap : stopped.counter.toNat + 36 ^ 4 < 2 ^ 64 := by decide
  have hsame : stopped.nth 0 = stopped.nth (36 ^ 4) :=
    (nth_eq_nth_iff hlt hwrap).mpr ⟨Nat.ModEq.refl _, Nat.dvd_refl _, Nat.ModEq.refl _,
      Nat.ModEq.refl _⟩
  obtain ⟨hequal, hapart, hformed⟩ :=
    @ids_told_apart stopped 4242 [104, 111, 115, 116] rfl
  exact ⟨hsame, (hequal 0 _ hlt hwrap hsame).1,
    hapart 0 _ (by decide) (by decide) (by decide), (hformed 0).1⟩

end IdSource

end DocStore
