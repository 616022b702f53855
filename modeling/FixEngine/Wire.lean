/-
Fields on the wire, and what each stage of the parser reads.

`RawField` is a `tag=value<SOH>` as it may stand on the wire, with its
well-formedness carried by the value, so that `RawField.bytes` ranges over exactly
the byte strings of that shape. `parse_field_ok_iff`, `parse_body_ok_iff`,
`header_field_ok_iff` and `parse_trailer_ok_iff` say what the stages of the parser
accept in these terms.

What becomes of a repeated standard-header field is in `keep_first` and
`repeated`: its value is dropped before `Message::add` could look at it.
-/
import FixEngine.Scan
import FixEngine.Parser

set_option autoImplicit false

namespace FixEngine

open FixEngine.Decimal FixEngine.Scan

/-! ## Fields on the wire -/

/-- A `tag=value<SOH>` as the parser may find it: the tag is a digit string, with
leading zeros allowed, that fits `TagNum`. -/
@[ext]
structure RawField : Type where
  tag_text : Bytes
  value : Bytes
  tag_ne : tag_text ≠ []
  tag_digits : ∀ c ∈ tag_text, is_digit c = true
  tag_lt : digits_value tag_text < 2 ^ 32
  value_soh : SOH ∉ value

namespace RawField

/-- The tag number. -/
def tag (f : RawField) : TagNum := UInt32.ofNat (digits_value f.tag_text)

/-- The field as the message stores it. -/
def field (f : RawField) : Field := ⟨f.tag, f.value⟩

/-- The field on the wire. -/
def bytes (f : RawField) : Bytes := f.tag_text ++ EQ :: (f.value ++ [SOH])

/-- The serializer's spelling of a field. -/
def of_field (f : Field) (h : SOH ∉ f.value) : RawField where
  tag_text := to_chars f.tag.toNat
  value := f.value
  tag_ne := to_chars_ne_nil _
  tag_digits := fun _ hc => is_digit_of_mem_to_chars hc
  tag_lt := by rw [digits_value_to_chars]; exact f.tag.toNat_lt
  value_soh := h

theorem field_of_field (f : Field) (h : SOH ∉ f.value) : (of_field f h).field = f := by
  unfold field tag of_field
  simp only [digits_value_to_chars, UInt32.ofNat_toNat]

theorem bytes_of_field (f : Field) (h : SOH ∉ f.value) : (of_field f h).bytes = field_bytes f := rfl

theorem length_bytes (f : RawField) :
    f.bytes.length = f.tag_text.length + 1 + f.value.length + 1 := by
  simp only [bytes, List.length_append, List.length_cons, List.length_nil]
  omega

theorem bytes_append_inj {f g : RawField} {r r' : Bytes} (h : f.bytes ++ r = g.bytes ++ r') :
    f = g ∧ r = r' := by
  have hEQ : ∀ f : RawField, EQ ∉ f.tag_text := fun f hm => absurd (f.tag_digits _ hm) (by decide)
  simp only [bytes, List.append_assoc, List.cons_append, List.nil_append] at h
  obtain ⟨htag, hrest⟩ := append_cons_inj (hEQ f) (hEQ g) h
  obtain ⟨hval, hr⟩ := append_cons_inj f.value_soh g.value_soh hrest
  exact ⟨RawField.ext htag hval, hr⟩

theorem toNat_tag (f : RawField) : f.tag.toNat = digits_value f.tag_text := by
  unfold tag
  rw [UInt32.toNat_ofNat']
  exact Nat.mod_eq_of_lt f.tag_lt

end RawField

/-- The wire form of a list of raw fields. -/
def raw_bytes (fs : List RawField) : Bytes := fs.flatMap RawField.bytes

@[simp] theorem raw_bytes_nil : raw_bytes [] = [] := rfl

theorem raw_bytes_cons (f : RawField) (fs : List RawField) :
    raw_bytes (f :: fs) = f.bytes ++ raw_bytes fs := rfl

theorem digit_ne_stop {c : UInt8} (h : is_digit c = true) : (c != EQ && c != SOH) = true := by
  have h1 : c ≠ EQ := fun e => absurd h (by rw [e]; decide)
  have h2 : c ≠ SOH := fun e => absurd h (by rw [e]; decide)
  simp [h1, h2]

theorem ne_soh_of_notMem {v : Bytes} (h : SOH ∉ v) : ∀ c ∈ v, (c != SOH) = true := by
  intro c hc
  have : c ≠ SOH := fun e => h (e ▸ hc)
  simpa using this

theorem parse_field_bytes (f : RawField) (rest : Bytes) :
    parse_field (f.bytes ++ rest) = .Ok f.tag f.value f.bytes.length := by
  have hstop : (EQ != EQ && EQ != SOH) = false := by decide
  have hsoh : (SOH != SOH) = false := by decide
  have hdata : f.bytes ++ rest = f.tag_text ++ EQ :: (f.value ++ SOH :: rest) := by
    simp [RawField.bytes]
  have hdig : ∀ c ∈ f.tag_text, (c != EQ && c != SOH) = true :=
    fun c hc => digit_ne_stop (f.tag_digits c hc)
  have hval := ne_soh_of_notMem f.value_soh
  have hnum : parse_unsigned (2 ^ 32) f.tag_text = some (digits_value f.tag_text) :=
    (parse_unsigned_eq_some_iff _ _ _).2 ⟨f.tag_ne, f.tag_digits, rfl, f.tag_lt⟩
  unfold parse_field
  rw [hdata, takeWhile_append_cons hdig hstop, dropWhile_append_cons hdig hstop]
  simp only [if_neg (by decide : ¬ EQ = SOH), hnum, takeWhile_append_cons hval hsoh,
    dropWhile_append_cons hval hsoh, RawField.length_bytes]
  rfl

/-- **One field.** `parse_field` succeeds exactly on a field and something behind
it. -/
theorem parse_field_ok_iff (data : Bytes) (tag : TagNum) (value : Bytes) (n : ℕ) :
    parse_field data = .Ok tag value n ↔
      ∃ (f : RawField) (rest : Bytes),
        data = f.bytes ++ rest ∧ f.tag = tag ∧ f.value = value ∧ f.bytes.length = n := by
  constructor
  · intro h
    simp only [parse_field] at h
    split at h
    · cases h
    · rename_i c rest hdrop
      obtain ⟨hdata, hc⟩ := eq_append_of_dropWhile hdrop
      split at h
      · cases h
      · rename_i hsoh
        have hceq : c = EQ := by
          by_contra hne
          simp [hne, hsoh] at hc
        split at h
        · cases h
        · rename_i t hnum
          obtain ⟨hne, hdig, hv, hlt⟩ := (parse_unsigned_eq_some_iff _ _ _).1 hnum
          split at h
          · cases h
          · rename_i d rest' hdrop'
            obtain ⟨hrest, hd⟩ := eq_append_of_dropWhile hdrop'
            have hdsoh : d = SOH := by simpa using hd
            cases h
            refine ⟨⟨data.takeWhile (fun c => c != EQ && c != SOH),
              rest.takeWhile (fun c => c != SOH), hne, hdig, by rw [hv]; exact hlt, ?_⟩,
              rest', ?_, ?_, rfl, ?_⟩
            · intro hmem
              have := List.mem_takeWhile_imp hmem
              simp at this
            · subst hdsoh hceq
              nth_rewrite 1 [hdata]
              nth_rewrite 1 [hrest]
              simp [RawField.bytes]
            · simp only [RawField.tag, hv]
            · rw [RawField.length_bytes]
  · rintro ⟨f, rest, rfl, rfl, rfl, rfl⟩
    exact parse_field_bytes f rest

theorem parse_field_append {data : Bytes} (e : Bytes) (h : parse_field data ≠ .Incomplete) :
    parse_field (data ++ e) = parse_field data := by
  simp only [parse_field] at h ⊢
  split at h
  · exact absurd rfl h
  · rename_i c rest hdrop
    rw [takeWhile_append_of_stop e hdrop, dropWhile_append_of_stop e hdrop]
    simp only
    split
    · rfl
    · rename_i hc
      rw [if_neg hc] at h
      split
      · rfl
      · rename_i t ht
        rw [ht] at h
        simp only at h
        split at h
        · exact absurd rfl h
        · rename_i d rest' hdrop'
          rw [takeWhile_append_of_stop e hdrop', dropWhile_append_of_stop e hdrop']

/-! ## The body -/

/-- The standard-header tags recorded once `tag` has been kept. -/
def mark (seen : List TagNum) (tag : TagNum) : List TagNum :=
  if is_standard_header_tag tag then (check_and_mark seen tag).2 else seen

/-- Is this field a standard-header field that was already there? -/
def is_repeat (seen : List TagNum) (f : Field) : Bool :=
  is_standard_header_tag f.tag && seen.contains f.tag

/-- The fields the body loop stores: of a standard-header tag the first only. -/
def keep_first : List TagNum → List Field → List Field
  | _, [] => []
  | seen, f :: fs =>
    if is_repeat seen f then keep_first seen fs else f :: keep_first (mark seen f.tag) fs

theorem keep_first_sublist (seen : List TagNum) (fs : List Field) :
    (keep_first seen fs).Sublist fs := by
  induction fs generalizing seen with
  | nil => exact .slnil
  | cons f fs ih =>
    rw [keep_first]
    split
    · exact (ih seen).cons f
    · exact (ih _).cons_cons f

/-- The fields the body loop drops. -/
def repeated : List TagNum → List Field → List Field
  | _, [] => []
  | seen, f :: fs =>
    if is_repeat seen f then f :: repeated seen fs else repeated (mark seen f.tag) fs

/-- The tags recorded before the body. -/
abbrev header_seen : List TagNum := [tags.BeginString, tags.BodyLength]

theorem add_of_clean {m : Message} {tag : TagNum} {v : Bytes} (h : clean v = true) :
    m.add tag v = .ok { m with fields := m.fields ++ [⟨tag, v⟩] } := by
  rw [clean_eq_true] at h
  simp [Message.add, h]

theorem add_of_not_clean {m : Message} {tag : TagNum} {v : Bytes} (h : ¬ clean v = true) :
    m.add tag v = .error .InvalidField := by
  rw [clean_eq_true, Bool.not_eq_false] at h
  simp [Message.add, h]

theorem parse_body_cons (fuel body_end : ℕ) (f : RawField) (rest : Bytes) (msg : Message)
    (seen : List TagNum) (dup : Bool) :
    parse_body (fuel + 1) body_end (f.bytes ++ rest) msg seen dup =
      if f.tag = tags.CheckSum then
        .error (.skip (body_end - (f.bytes ++ rest).length) .ParseError)
      else if is_repeat seen f.field then parse_body fuel body_end rest msg seen true
      else if clean f.value then
        parse_body fuel body_end rest { msg with fields := msg.fields ++ [f.field] }
          (mark seen f.tag) dup
      else .error (.skip (body_end - (f.bytes ++ rest).length) .InvalidField) := by
  obtain ⟨c, cs, hcs⟩ : ∃ c cs, f.bytes ++ rest = c :: cs := by
    rcases h : f.bytes ++ rest with _ | ⟨c, cs⟩
    · have := congrArg List.length h
      rw [List.length_append, f.length_bytes, List.length_nil] at this
      omega
    · exact ⟨c, cs, rfl⟩
  have hfield := parse_field_bytes f rest
  have hdrop : (f.bytes ++ rest).drop f.bytes.length = rest := List.drop_left
  rw [hcs] at hfield hdrop ⊢
  rw [parse_body]
  simp only [hfield, hdrop]
  by_cases h10 : f.tag = tags.CheckSum
  · rw [if_pos h10, if_pos h10]
  rw [if_neg h10, if_neg h10]
  have hrep : (is_standard_header_tag f.tag = true ∧ (check_and_mark seen f.tag).1 = true)
      ↔ is_repeat seen f.field = true := by
    simp only [is_repeat, RawField.field, check_and_mark, Bool.and_eq_true]
    split <;> simp_all
  by_cases hr : is_repeat seen f.field = true
  · rw [if_pos hr, if_pos (hrep.2 hr)]
  rw [if_neg hr, if_neg (fun h => hr (hrep.1 h))]
  by_cases hc : clean f.value = true
  · rw [if_pos hc, add_of_clean hc]
    rfl
  · rw [if_neg hc, add_of_not_clean hc]

theorem raw_bytes_eq_nil {fs : List RawField} : raw_bytes fs = [] ↔ fs = [] := by
  rcases fs with _ | ⟨f, fs⟩
  · simp
  · rw [raw_bytes_cons, List.append_eq_nil_iff]
    have := f.length_bytes
    constructor
    · rintro ⟨h, -⟩
      rw [h, List.length_nil] at this
      omega
    · intro h
      cases h

theorem parse_body_nil_iff (fuel body_end : ℕ) (msg : Message) (seen : List TagNum) (dup : Bool)
    (m : Message) (d : Bool) :
    parse_body fuel body_end [] msg seen dup = .ok (m, d) ↔
      ∃ fs : List RawField, [] = raw_bytes fs ∧ (∀ f ∈ fs, f.tag ≠ tags.CheckSum) ∧
        (∀ g ∈ keep_first seen (fs.map RawField.field), clean g.value = true) ∧
        m = { msg with fields := msg.fields ++ keep_first seen (fs.map RawField.field) } ∧
        d = (dup || !(repeated seen (fs.map RawField.field)).isEmpty) := by
  have hnil : parse_body fuel body_end [] msg seen dup = .ok (msg, dup) := by
    unfold parse_body
    rfl
  rw [hnil]
  constructor
  · intro h
    cases h
    exact ⟨[], by simp [keep_first, repeated]⟩
  · rintro ⟨fs, hfs, -, -, rfl, rfl⟩
    obtain rfl := raw_bytes_eq_nil.1 hfs.symm
    simp [keep_first, repeated]

/-- **The body.** The loop succeeds exactly on a concatenation of fields, none of
them a CheckSum, whose kept values are clean. -/
theorem parse_body_ok_iff (fuel body_end : ℕ) (rem : Bytes) (msg : Message)
    (seen : List TagNum) (dup : Bool) (hfuel : rem.length ≤ fuel) (m : Message) (d : Bool) :
    parse_body fuel body_end rem msg seen dup = .ok (m, d) ↔
      ∃ fs : List RawField, rem = raw_bytes fs ∧ (∀ f ∈ fs, f.tag ≠ tags.CheckSum) ∧
        (∀ g ∈ keep_first seen (fs.map RawField.field), clean g.value = true) ∧
        m = { msg with fields := msg.fields ++ keep_first seen (fs.map RawField.field) } ∧
        d = (dup || !(repeated seen (fs.map RawField.field)).isEmpty) := by
  induction fuel generalizing rem msg seen dup with
  | zero =>
    obtain rfl : rem = [] := List.length_eq_zero_iff.1 (Nat.le_zero.1 hfuel)
    exact parse_body_nil_iff 0 body_end msg seen dup m d
  | succ fuel ih =>
    rcases rem with _ | ⟨c, cs⟩
    · exact parse_body_nil_iff (fuel + 1) body_end msg seen dup m d
    by_cases hex : ∃ (f : RawField) (rest : Bytes), c :: cs = f.bytes ++ rest
    · obtain ⟨f, rest, hcs⟩ := hex
      have hlen : rest.length ≤ fuel := by
        have := congrArg List.length hcs
        rw [List.length_append, f.length_bytes] at this
        omega
      rw [hcs, parse_body_cons]
      -- the fields on the right start with `f`, and `rest` holds the others
      have hcons : ∀ P : List RawField → Prop,
          (∃ fs, f.bytes ++ rest = raw_bytes fs ∧ P fs)
            ↔ ∃ fs, rest = raw_bytes fs ∧ P (f :: fs) := by
        intro P
        constructor
        · rintro ⟨_ | ⟨g, fs⟩, hfs, hP⟩
          · rw [← hcs] at hfs
            cases hfs
          · obtain ⟨rfl, hrest⟩ := RawField.bytes_append_inj (hfs.trans (raw_bytes_cons g fs))
            exact ⟨fs, hrest, hP⟩
        · rintro ⟨fs, rfl, hP⟩
          exact ⟨f :: fs, (raw_bytes_cons f fs).symm, hP⟩
      rw [hcons]
      by_cases h10 : f.tag = tags.CheckSum
      · rw [if_pos h10]
        constructor
        · intro h
          cases h
        · rintro ⟨fs, -, hno, -⟩
          exact absurd h10 (hno f List.mem_cons_self)
      rw [if_neg h10]
      by_cases hr : is_repeat seen f.field = true
      · rw [if_pos hr, ih rest msg seen true hlen]
        simp [keep_first, repeated, hr, h10]
      rw [if_neg hr]
      by_cases hc : clean f.value = true
      · rw [if_pos hc, ih rest _ _ dup hlen]
        have hcf : clean f.field.value = true := hc
        have htag : f.field.tag = f.tag := rfl
        simp only [List.map_cons, keep_first, repeated, if_neg hr, htag, List.forall_mem_cons, hcf,
          ne_eq, h10, not_false_eq_true, true_and, List.append_assoc, List.singleton_append]
      · rw [if_neg hc]
        constructor
        · intro h
          cases h
        · rintro ⟨fs, -, -, hcl, -⟩
          rw [List.map_cons, keep_first, if_neg hr] at hcl
          exact absurd (hcl _ List.mem_cons_self) hc
    · constructor
      · intro h
        rw [parse_body] at h
        rcases hf : parse_field (c :: cs) with ⟨tag, value, n⟩ | _ | _
        · obtain ⟨f, rest, hcs, -⟩ := (parse_field_ok_iff _ _ _ _).1 hf
          exact absurd ⟨f, rest, hcs⟩ hex
        · simp [hf] at h
        · simp [hf] at h
      · rintro ⟨_ | ⟨f, fs⟩, hfs, -⟩
        · cases hfs
        · exact absurd ⟨f, raw_bytes fs, hfs⟩ hex

/-! ## The header and the trailer -/

/-- **A header field is accepted** exactly if it stands there as a field, within the limit of
the scan, with the tag that is expected. -/
theorem header_field_ok_iff (base : Bytes) (pos : ℕ) (expected : TagNum) (on_error : ℕ)
    (mismatch : ErrorCode) (value : Bytes) (n : ℕ) :
    header_field base pos expected on_error mismatch = .ok (value, n) ↔
      ∃ (f : RawField) (rest : Bytes), base.drop pos = f.bytes ++ rest ∧
        f.bytes.length ≤ kMaxHeaderScan ∧ f.tag = expected ∧ f.value = value ∧
        f.bytes.length = n := by
  unfold header_field
  constructor
  · intro h
    split at h
    · split at h <;> cases h
    · cases h
    · rename_i tag v len hf
      obtain ⟨f, rest, hdata, htag, hval, hlen⟩ := (parse_field_ok_iff _ _ _ _).1 hf
      split at h
      · rename_i heq
        cases h
        refine ⟨f, rest ++ (base.drop pos).drop kMaxHeaderScan, ?_, ?_, htag.trans heq, hval, hlen⟩
        · rw [← List.append_assoc, ← hdata, List.take_append_drop]
        · have := congrArg List.length hdata
          rw [List.length_append, List.length_take] at this
          omega
      · cases h
  · rintro ⟨f, rest, hdata, hlen, rfl, rfl, rfl⟩
    have htake : (base.drop pos).take kMaxHeaderScan
        = f.bytes ++ rest.take (kMaxHeaderScan - f.bytes.length) := by
      rw [hdata, List.take_append, List.take_of_length_le hlen]
    rw [htake, parse_field_bytes]
    simp

theorem eq_ten_of_value {t : Bytes} (hlen : t.length = 2) (hdig : ∀ c ∈ t, is_digit c = true)
    (hv : digits_value t = 10) : t = ascii "10" := by
  obtain ⟨a, b, rfl⟩ := List.length_eq_two.1 hlen
  have ha := (is_digit_iff a).1 (hdig a (by simp))
  have hb := (is_digit_iff b).1 (hdig b (by simp))
  simp only [digits_value, List.foldl_cons, List.foldl_nil, mul_zero, zero_add] at hv
  have ha' : a = 49 := UInt8.toNat_inj.1 (by change a.toNat = 49; omega)
  have hb' : b = 48 := UInt8.toNat_inj.1 (by change b.toNat = 48; omega)
  rw [ha', hb']
  rfl

theorem eq_eight_of_take {t : Bytes} (rest : Bytes) (hne : t ≠ [])
    (hdig : ∀ c ∈ t, is_digit c = true) (h : (t ++ EQ :: rest).take 2 = ascii "8=") :
    t = ascii "8" := by
  have h' : (t ++ EQ :: rest).take 2 = [56, 61] := h
  rcases t with _ | ⟨a, _ | ⟨b, t⟩⟩
  · exact absurd rfl hne
  · simp only [List.cons_append, List.nil_append, List.take_succ_cons, List.take_zero,
      List.cons.injEq] at h'
    rw [h'.1]
    rfl
  · simp only [List.cons_append, List.take_succ_cons, List.take_zero, List.cons.injEq] at h'
    exact absurd (hdig b (by simp)) (by rw [h'.2.1]; decide)

/-- **A checksum is accepted** exactly if it is three digits that spell a byte. -/
theorem parse_checksum_eq_some_iff (sv : Bytes) (v : ℕ) :
    parse_checksum sv = some v ↔
      sv.length = 3 ∧ (∀ c ∈ sv, is_digit c = true) ∧ digits_value sv = v ∧ v ≤ 255 := by
  unfold parse_checksum
  constructor
  · intro h
    split at h
    · rename_i hsv
      split at h
      · rename_i out hout
        obtain ⟨-, hdig, hv, -⟩ := (parse_unsigned_eq_some_iff _ _ _).1 hout
        split at h
        · cases h
        · cases h
          exact ⟨hsv.1, hdig, hv, by omega⟩
      · cases h
    · cases h
  · rintro ⟨hlen, hdig, hv, hle⟩
    have hne : sv ≠ [] := by
      rintro rfl
      cases hlen
    have hout := (parse_unsigned_eq_some_iff (2 ^ 32) sv v).2 ⟨hne, hdig, hv, by omega⟩
    rw [if_pos ⟨hlen, List.all_eq_true.2 hdig⟩, hout]
    simp only [if_neg (by omega : ¬ v > 255)]

/-- `"10=" C <SOH>`. -/
def trailer (checksum : Bytes) : Bytes := ascii "10=" ++ checksum ++ [SOH]

theorem length_trailer {checksum : Bytes} (h : checksum.length = 3) :
    (trailer checksum).length = kTrailerBytes := by
  rw [trailer, List.length_append, List.length_append, h]
  rfl

/-- The trailer as a field. -/
def trailer_field (checksum : Bytes) (h : ∀ c ∈ checksum, is_digit c = true) : RawField :=
  ⟨ascii "10", checksum, by decide, by decide +kernel, by decide +kernel,
    fun hm => absurd (h _ hm) (by decide)⟩

theorem bytes_trailer_field {checksum : Bytes} (h : ∀ c ∈ checksum, is_digit c = true) :
    (trailer_field checksum h).bytes = trailer checksum := by
  simp [trailer_field, RawField.bytes, trailer, ascii]

theorem tag_trailer_field {checksum : Bytes} (h : ∀ c ∈ checksum, is_digit c = true) :
    (trailer_field checksum h).tag = tags.CheckSum := by
  change UInt32.ofNat (digits_value (ascii "10")) = 10
  decide

theorem parse_trailer_digits {base checksum rest : Bytes} {body_end : ℕ}
    (hdata : base.drop body_end = trailer checksum ++ rest) (hlen : checksum.length = 3)
    (hdig : ∀ c ∈ checksum, is_digit c = true) :
    parse_trailer base body_end = if digits_value checksum ≤ 255 then .ok (digits_value checksum)
      else .error (.skip body_end .BadChecksum) := by
  have hfl := length_trailer hlen
  have htake :
      (base.drop body_end).take kTrailerBytes = (trailer_field checksum hdig).bytes ++ [] := by
    rw [hdata, bytes_trailer_field, List.append_nil, ← hfl, List.take_left]
  have hvalue : (trailer_field checksum hdig).value = checksum := rfl
  rw [parse_trailer, htake, parse_field_bytes, bytes_trailer_field, hfl]
  simp only [tag_trailer_field, hvalue, if_true]
  by_cases hle : digits_value checksum ≤ 255
  · rw [(parse_checksum_eq_some_iff checksum _).2 ⟨hlen, hdig, rfl, hle⟩, if_pos hle]
  · have hnone : parse_checksum checksum = none := by
      rcases hsome : parse_checksum checksum with _ | provided
      · rfl
      · obtain ⟨-, -, rfl, hle'⟩ := (parse_checksum_eq_some_iff _ _).1 hsome
        exact absurd hle' hle
    rw [hnone, if_neg hle]

/-- **The trailer.** -/
theorem parse_trailer_ok_iff (base : Bytes) (body_end provided : ℕ) :
    parse_trailer base body_end = .ok provided ↔
      ∃ checksum rest : Bytes, base.drop body_end = trailer checksum ++ rest ∧
        checksum.length = 3 ∧ (∀ c ∈ checksum, is_digit c = true) ∧
        digits_value checksum = provided ∧ provided ≤ 255 := by
  unfold parse_trailer
  constructor
  · intro h
    split at h
    · rename_i tag value len hf
      obtain ⟨f, rest, hdata, htag, hval, hlen⟩ := (parse_field_ok_iff _ _ _ _).1 hf
      split at h
      · rename_i hten
        split at h
        · cases h
        · rename_i out hout
          obtain ⟨hl, hdig, hv, hle⟩ := (parse_checksum_eq_some_iff _ _).1 hout
          split at h
          · rename_i hseven
            cases h
            have hfl : f.tag_text.length + 1 + f.value.length + 1 = 7 :=
              f.length_bytes.symm.trans (hlen.trans hseven)
            have hval_len : f.value.length = 3 := by rw [hval, hl]
            have htext : f.tag_text = ascii "10" := by
              refine eq_ten_of_value (by omega) f.tag_digits ?_
              rw [← f.toNat_tag, htag, hten]
              rfl
            refine ⟨value, rest ++ (base.drop body_end).drop kTrailerBytes, ?_, hl, hdig, hv, hle⟩
            have hfb : f.bytes = trailer value := by
              simp [RawField.bytes, trailer, htext, hval, ascii]
            rw [← hfb, ← List.append_assoc, ← hdata, List.take_append_drop]
          · cases h
      · cases h
    · cases h
  · rintro ⟨checksum, rest, hdata, hlen, hdig, rfl, hle⟩
    rw [← parse_trailer, parse_trailer_digits hdata hlen hdig, if_pos hle]

end FixEngine
