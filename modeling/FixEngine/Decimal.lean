/-
Byte strings and decimal numerals.

`std::to_chars` / `std::from_chars` on byte strings, stated over `List UInt8`
and nothing else: the printer, the scanner that stops at the first byte it
cannot use, and the three facts every user of them needs -- what the printer
emits is a non-empty digit string, the scanner reads it back, and the scanner's
success on a *whole* string is exactly "non-empty, all digits, value in range".

The scanner keeps the standard's three outcomes apart (`ok` with the unread
rest, `invalid_argument`, `result_out_of_range`) because callers differ in which
of them they look at: some demand that the rest is empty, some never check it.
-/
import Mathlib

set_option autoImplicit false

namespace FixEngine.Decimal

/-! ## Byte strings -/

/-- A byte string. -/
abbrev Bytes : Type := List UInt8

/-- An ASCII literal as bytes. -/
def ascii (s : String) : Bytes := s.toList.map (fun c => UInt8.ofNat c.toNat)

/-- One of the ten ASCII digits. -/
def is_digit (c : UInt8) : Bool := decide (48 ≤ c.toNat) && decide (c.toNat ≤ 57)

theorem is_digit_iff (c : UInt8) : is_digit c = true ↔ 48 ≤ c.toNat ∧ c.toNat ≤ 57 := by
  simp [is_digit]

/-- The value of a digit string, most significant digit first. -/
def digits_value (ds : Bytes) : ℕ := ds.foldl (fun acc c => 10 * acc + (c.toNat - 48)) 0

/-! ## Printing -/

/-- `std::to_chars` / `std::to_string` of an unsigned value. -/
def to_chars (n : ℕ) : Bytes := (Nat.toDigits 10 n).map (fun c => UInt8.ofNat c.toNat)

/-- `std::to_chars` / `std::to_string` of a signed value: a minus sign, then the
magnitude. -/
def to_chars_int : ℤ → Bytes
  | .ofNat n => to_chars n
  | .negSucc n => 45 :: to_chars (n + 1)

/-- `printf("%0<w>u")`: left-padded with zeros to at least `w` digits. -/
def zero_pad (w n : ℕ) : Bytes := List.replicate (w - (to_chars n).length) 48 ++ to_chars n

theorem toNat_digit_byte {c : Char} (hc : c.isDigit) : (UInt8.ofNat c.toNat).toNat = c.toNat := by
  have h : c.toNat ≤ 57 := by
    simp only [Char.isDigit, Bool.and_eq_true, decide_eq_true_eq] at hc
    have h2 := UInt32.le_iff_toNat_le.mp hc.2
    simpa using h2
  rw [UInt8.toNat_ofNat']
  omega

theorem isDigit_toNat {c : Char} (hc : c.isDigit) : 48 ≤ c.toNat ∧ c.toNat ≤ 57 := by
  simp only [Char.isDigit, Bool.and_eq_true, decide_eq_true_eq] at hc
  have h1 := UInt32.le_iff_toNat_le.mp hc.1
  have h2 := UInt32.le_iff_toNat_le.mp hc.2
  exact ⟨by simpa using h1, by simpa using h2⟩

theorem is_digit_of_mem_to_chars {n : ℕ} {c : UInt8} (hc : c ∈ to_chars n) : is_digit c = true := by
  obtain ⟨d, hd, rfl⟩ := List.mem_map.mp hc
  have hdig : d.isDigit := Nat.isDigit_of_mem_toDigits (by decide) (by decide) hd
  rw [is_digit_iff, toNat_digit_byte hdig]
  exact isDigit_toNat hdig

theorem to_chars_ne_nil (n : ℕ) : to_chars n ≠ [] := by
  simp [to_chars]

theorem length_to_chars_pos (n : ℕ) : 0 < (to_chars n).length :=
  List.length_pos_iff.mpr (to_chars_ne_nil n)

theorem length_to_chars_le {n k : ℕ} (hk : 0 < k) (hn : n < 10 ^ k) : (to_chars n).length ≤ k := by
  rw [to_chars, List.length_map]
  exact (Nat.length_toDigits_le_iff (by decide) hk).mpr hn

theorem length_to_chars_mono {m n : ℕ} (h : m ≤ n) : (to_chars m).length ≤ (to_chars n).length := by
  have hpos := length_to_chars_pos n
  refine length_to_chars_le hpos (lt_of_le_of_lt h ?_)
  have hle : (Nat.toDigits 10 n).length ≤ (to_chars n).length := by rw [to_chars, List.length_map]
  exact (Nat.length_toDigits_le_iff (by decide) hpos).mp hle

/-- **Printing then reading.** -/
theorem digits_value_to_chars (n : ℕ) : digits_value (to_chars n) = n := by
  have hfold : ∀ (l : List Char) (acc : ℕ), (∀ c ∈ l, c.isDigit) →
      (l.map (fun c => UInt8.ofNat c.toNat)).foldl (fun acc c => 10 * acc + (c.toNat - 48)) acc
        = Nat.ofDigitChars 10 l acc := by
    intro l
    induction l with
    | nil => intro acc _; simp
    | cons c l ih =>
      intro acc h
      rw [List.map_cons, List.foldl_cons, toNat_digit_byte (h c List.mem_cons_self),
        ih _ (fun d hd => h d (List.mem_cons_of_mem _ hd)), Nat.ofDigitChars_cons]
      simp
  rw [digits_value, to_chars,
    hfold _ _ (fun c hc => Nat.isDigit_of_mem_toDigits (by decide) (by decide) hc)]
  exact Nat.ofDigitChars_ten_toDigits

/-! ## Scanning -/

/-- What `std::from_chars` reports: the value and the unread rest, or one of the
two error codes. -/
inductive FromChars (α : Type) : Type where
  | ok (value : α) (rest : Bytes)
  | invalid_argument
  | result_out_of_range
  deriving DecidableEq, Repr

/-- `std::from_chars` into an unsigned type with `bound` values: the longest
digit prefix, no sign. -/
def from_chars_unsigned (bound : ℕ) (s : Bytes) : FromChars ℕ :=
  let ds := s.takeWhile is_digit
  if ds.isEmpty then .invalid_argument
  else if bound ≤ digits_value ds then .result_out_of_range
  else .ok (digits_value ds) (s.dropWhile is_digit)

/-- `std::from_chars` into `std::int64_t`: an optional minus sign, then the
longest digit prefix. -/
def from_chars_int64 (s : Bytes) : FromChars ℤ :=
  match s with
  | [] => .invalid_argument
  | c :: cs =>
    let neg := c == 45
    let body := if neg then cs else c :: cs
    let ds := body.takeWhile is_digit
    if ds.isEmpty then .invalid_argument
    else
      let v : ℤ := if neg then -(digits_value ds : ℤ) else (digits_value ds : ℤ)
      if v < -(2 ^ 63) ∨ 2 ^ 63 ≤ v then .result_out_of_range
      else .ok v (body.dropWhile is_digit)

/-- A successful `from_chars` that also consumed everything. -/
def parse_unsigned (bound : ℕ) (s : Bytes) : Option ℕ :=
  match from_chars_unsigned bound s with
  | .ok v [] => some v
  | _ => none

theorem takeWhile_digits {s : Bytes} (h : ∀ c ∈ s, is_digit c = true) :
    s.takeWhile is_digit = s := List.takeWhile_eq_self_iff.mpr h

theorem dropWhile_digits {s : Bytes} (h : ∀ c ∈ s, is_digit c = true) :
    s.dropWhile is_digit = [] := List.dropWhile_eq_nil_iff.mpr h

/-- **Strict reading.** A whole string parses exactly when it is a non-empty
digit string whose value is in range. -/
theorem parse_unsigned_eq_some_iff (bound : ℕ) (s : Bytes) (v : ℕ) :
    parse_unsigned bound s = some v
      ↔ s ≠ [] ∧ (∀ c ∈ s, is_digit c = true) ∧ digits_value s = v ∧ v < bound := by
  constructor
  · intro h
    unfold parse_unsigned from_chars_unsigned at h
    by_cases hemp : (s.takeWhile is_digit).isEmpty
    · simp [hemp] at h
    · by_cases hbd : bound ≤ digits_value (s.takeWhile is_digit)
      · simp [hemp, hbd] at h
      · simp only [hemp, hbd, Bool.false_eq_true, if_false] at h
        cases hrest : s.dropWhile is_digit with
        | nil =>
          have hall : ∀ c ∈ s, is_digit c = true := List.dropWhile_eq_nil_iff.mp hrest
          rw [hrest, takeWhile_digits hall] at h
          rw [takeWhile_digits hall] at hemp hbd
          simp only [Option.some.injEq] at h
          exact ⟨by simpa using hemp, hall, h, by omega⟩
        | cons c cs => simp [hrest] at h
  · rintro ⟨hne, hall, hv, hlt⟩
    have hemp : s.isEmpty = false := by simpa using hne
    have hbd : ¬ bound ≤ v := by omega
    simp only [parse_unsigned, from_chars_unsigned, takeWhile_digits hall, dropWhile_digits hall,
      hemp, Bool.false_eq_true, if_false, hv, if_neg hbd]

theorem parse_unsigned_to_chars {bound n : ℕ} (h : n < bound) :
    parse_unsigned bound (to_chars n) = some n :=
  (parse_unsigned_eq_some_iff bound (to_chars n) n).mpr
    ⟨to_chars_ne_nil n, fun _ hc => is_digit_of_mem_to_chars hc, digits_value_to_chars n, h⟩

theorem from_chars_int64_to_chars {n : ℕ} (h : n < 2 ^ 63) :
    from_chars_int64 (to_chars n) = .ok (n : ℤ) [] := by
  have hall : ∀ c ∈ to_chars n, is_digit c = true := fun c hc => is_digit_of_mem_to_chars hc
  obtain ⟨c, cs, hcs⟩ := List.exists_cons_of_ne_nil (to_chars_ne_nil n)
  have hc45 : (c == 45) = false := by
    have hd := (is_digit_iff c).mp (hall c (by rw [hcs]; exact List.mem_cons_self))
    rw [beq_eq_false_iff_ne]
    rintro rfl
    simp at hd
  rw [hcs] at hall ⊢
  simp only [from_chars_int64, hc45, Bool.false_eq_true, if_false]
  rw [takeWhile_digits hall, dropWhile_digits hall, ← hcs, digits_value_to_chars]
  have hemp : (to_chars n).isEmpty = false := by simpa using to_chars_ne_nil n
  have hrange : ¬ ((n : ℤ) < -(2 ^ 63) ∨ 2 ^ 63 ≤ (n : ℤ)) := by omega
  simp only [hemp, Bool.false_eq_true, if_false, if_neg hrange]

theorem from_chars_int64_to_chars_int {i : ℤ} (hlo : -(2 ^ 63) ≤ i) (hhi : i < 2 ^ 63) :
    from_chars_int64 (to_chars_int i) = .ok i [] := by
  cases i with
  | ofNat n => exact from_chars_int64_to_chars (by simp only [Int.ofNat_eq_natCast] at hhi; omega)
  | negSucc n =>
    have hall : ∀ c ∈ to_chars (n + 1), is_digit c = true :=
      fun c hc => is_digit_of_mem_to_chars hc
    have hemp : (to_chars (n + 1)).isEmpty = false := by simpa using to_chars_ne_nil (n + 1)
    simp only [to_chars_int, from_chars_int64, beq_self_eq_true, if_true]
    rw [takeWhile_digits hall, dropWhile_digits hall, digits_value_to_chars]
    have hrange : ¬ (-((n + 1 : ℕ) : ℤ) < -(2 ^ 63) ∨ 2 ^ 63 ≤ -((n + 1 : ℕ) : ℤ)) := by omega
    simp only [hemp, Bool.false_eq_true, if_false, if_neg hrange]
    congr 1

theorem mem_to_chars_int {i : ℤ} {c : UInt8} (hc : c ∈ to_chars_int i) :
    c = 45 ∨ is_digit c = true := by
  cases i with
  | ofNat n => exact Or.inr (is_digit_of_mem_to_chars hc)
  | negSucc n =>
    rcases List.mem_cons.mp hc with h | h
    · exact Or.inl h
    · exact Or.inr (is_digit_of_mem_to_chars h)

theorem length_to_chars_int_le {i : ℤ} (hlo : -(2 ^ 63) ≤ i) (hhi : i < 2 ^ 63) :
    (to_chars_int i).length ≤ 20 := by
  cases i with
  | ofNat n =>
    have hn : n < 10 ^ 19 := by simp only [Int.ofNat_eq_natCast] at hhi; omega
    exact le_trans (length_to_chars_le (by decide) hn) (by decide)
  | negSucc n =>
    have hn : n + 1 < 10 ^ 19 := by omega
    have hle := length_to_chars_le (k := 19) (by decide) hn
    simp only [to_chars_int, List.length_cons]
    omega

/-! ## Zero padding -/

theorem is_digit_of_mem_zero_pad {w n : ℕ} {c : UInt8} (hc : c ∈ zero_pad w n) :
    is_digit c = true := by
  rcases List.mem_append.mp hc with h | h
  · rw [List.eq_of_mem_replicate h]; decide
  · exact is_digit_of_mem_to_chars h

theorem length_zero_pad {w n : ℕ} (hw : 0 < w) (hn : n < 10 ^ w) : (zero_pad w n).length = w := by
  have hle := length_to_chars_le hw hn
  rw [zero_pad, List.length_append, List.length_replicate]
  omega

theorem digits_value_zero_pad (w n : ℕ) : digits_value (zero_pad w n) = n := by
  have hzeros : ∀ k : ℕ,
      (List.replicate k (48 : UInt8)).foldl (fun acc c => 10 * acc + (c.toNat - 48)) 0 = 0 := by
    intro k
    induction k with
    | zero => rfl
    | succ k ih => rw [List.replicate_succ, List.foldl_cons]; exact ih
  rw [digits_value, zero_pad, List.foldl_append, hzeros]
  exact digits_value_to_chars n

end FixEngine.Decimal
