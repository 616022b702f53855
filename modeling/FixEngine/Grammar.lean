/-
The frame grammar and what the parser accepts.

`Frame` is the syntax of a whole frame, well-formed by construction;
`Frame.Accepted` are the two conditions that depend on the parser's options, and
`Frame.message` is the message made of a frame. `scan_frame_ok_iff` says that the
parser delivers exactly the frames whose kept fields are clean.

The grammar one would write down (`InGrammar`) asks that of every field. The two
differ on a NUL in a repeated standard-header field, and on nothing else
(`delivers_iff_in_grammar_iff`).
-/
import FixEngine.Wire

set_option autoImplicit false

namespace FixEngine

open FixEngine.Decimal FixEngine.Scan

/-! ## Frames -/

theorem compute_checksum_toNat (data : Bytes) :
    (compute_checksum data).toNat = (data.map UInt8.toNat).sum % 256 := by
  have hfold : ∀ (acc : UInt32) (l : Bytes),
      (l.foldl (fun (sum : UInt32) c => sum + c.toUInt32) acc).toNat % 256
        = (acc.toNat + (l.map UInt8.toNat).sum) % 256 := by
    intro acc l
    induction l generalizing acc with
    | nil => simp
    | cons c l ih =>
      rw [List.foldl_cons, ih, List.map_cons, List.sum_cons, UInt32.toNat_add,
        UInt8.toNat_toUInt32]
      omega
  unfold compute_checksum
  rw [UInt32.toNat_toUInt8, UInt32.toNat_and]
  have hmask := hfold 0 data
  have hand : ∀ n : ℕ, n &&& (0xFF : UInt32).toNat = n % 256 := fun n =>
    Nat.and_two_pow_sub_one_eq_mod n 8
  rw [hand, hmask]
  simp

theorem clean_to_chars_int (i : ℤ) : clean (to_chars_int i) = true := by
  rw [clean_iff]
  constructor
  · intro h
    rcases mem_to_chars_int h with h | h
    · exact absurd h (by decide)
    · exact absurd h (by decide)
  · intro h
    rcases mem_to_chars_int h with h | h
    · exact absurd h (by decide)
    · exact absurd h (by decide)

/-- The frame grammar: `"8=" B <SOH> T "=" D <SOH> body "10=" C <SOH>`. The values
of the body fields are SOH-free by `RawField`; nothing is said here about NUL. -/
@[ext]
structure Frame : Type where
  begin_string : Bytes
  length_tag : Bytes
  length_text : Bytes
  fields : List RawField
  checksum : Bytes
  begin_clean : clean begin_string = true
  begin_short : 3 + begin_string.length ≤ 64
  length_tag_digits : ∀ c ∈ length_tag, is_digit c = true
  length_tag_value : digits_value length_tag = 9
  length_text_ne : length_text ≠ []
  length_text_digits : ∀ c ∈ length_text, is_digit c = true
  length_text_value : digits_value length_text = (raw_bytes fields).length
  length_short : length_tag.length + length_text.length + 2 ≤ 64
  no_checksum : ∀ f ∈ fields, f.tag ≠ tags.CheckSum
  checksum_length : checksum.length = 3
  checksum_digits : ∀ c ∈ checksum, is_digit c = true
  checksum_le : digits_value checksum ≤ 255

namespace Frame

/-- BeginString and BodyLength. -/
def header (f : Frame) : Bytes :=
  ascii "8=" ++ f.begin_string ++ [SOH] ++ f.length_tag ++ [EQ] ++ f.length_text ++ [SOH]

/-- Everything before the trailer. -/
def before_trailer (f : Frame) : Bytes := f.header ++ raw_bytes f.fields

/-- The whole frame. -/
def bytes (f : Frame) : Bytes := f.before_trailer ++ trailer f.checksum

/-- The conditions on a frame that depend on the parser's options. -/
def Accepted (opts : StreamParserOptions) (f : Frame) : Prop :=
  (opts.validate_checksum = true →
      digits_value f.checksum = (f.before_trailer.map UInt8.toNat).sum % 256) ∧
    (opts.max_msg_len = 0 ∨ f.bytes.length ≤ opts.max_msg_len)

/-- The message the parser makes of a frame. -/
def message (f : Frame) : Message where
  fields := ⟨tags.BeginString, f.begin_string⟩
    :: ⟨tags.BodyLength, to_chars_int (to_i64 (raw_bytes f.fields).length)⟩
    :: keep_first header_seen (f.fields.map RawField.field)
  raw := f.bytes
  duplicate_header := !(repeated header_seen (f.fields.map RawField.field)).isEmpty

theorem length_bytes (f : Frame) :
    f.bytes.length = f.header.length + (raw_bytes f.fields).length + 7 := by
  simp only [bytes, before_trailer, trailer, List.length_append, f.checksum_length]
  rfl

end Frame

/-- **The end of a frame is accepted** exactly if it does not wrap around and is within
`max_msg_len`. -/
theorem frame_end_of_ok_iff {opts : StreamParserOptions} {avail body_start body_length : ℕ}
    (hs : body_start ≤ 128) (fe : ℕ) :
    frame_end_of opts avail body_start body_length = .ok fe ↔
      fe = body_start + body_length + 7 ∧ fe < 2 ^ 64 ∧
        (opts.max_msg_len = 0 ∨ fe ≤ opts.max_msg_len) := by
  unfold frame_end_of
  simp only
  split
  · rename_i hover
    constructor
    · intro h
      split_ifs at h
    · rintro ⟨rfl, hlt, hmax⟩
      exfalso
      rcases hover with hover | ⟨hpos, hover⟩ <;> omega
  · rename_i hnot
    push Not at hnot
    obtain ⟨hok, hmax⟩ := hnot
    rw [if_pos hok, Except.ok.injEq]
    constructor
    · rintro rfl
      refine ⟨rfl, by omega, ?_⟩
      by_cases h0 : opts.max_msg_len > 0
      · have := hmax h0
        omega
      · omega
    · rintro ⟨rfl, -, -⟩
      rfl

/-! ## What is accepted -/

/-- The message the body loop starts from. -/
def seed_message (begin_value : Bytes) (body_length : ℕ) : Message :=
  { fields := [⟨tags.BeginString, begin_value⟩,
      ⟨tags.BodyLength, to_chars_int (to_i64 body_length)⟩] }

theorem parse_frame_eq (opts : StreamParserOptions) {base begin_value : Bytes}
    {body_start body_length frame_end : ℕ} (hlen : frame_end ≤ base.length)
    (hc : clean begin_value = true) :
    parse_frame opts base begin_value body_start body_length frame_end =
      match parse_body body_length (body_start + body_length)
        ((base.drop body_start).take body_length)
          (seed_message begin_value body_length) header_seen false with
      | .error r => .error r
      | .ok (m, d) =>
        match parse_trailer base (body_start + body_length) with
        | .error r => .error r
        | .ok provided =>
          if opts.validate_checksum = true ∧
              compute_checksum (base.take (body_start + body_length)) ≠ UInt8.ofNat provided then
            .error (.skip (body_start + body_length + 7) .BadChecksum)
          else
            .ok ({ m with raw := base.take (body_start + body_length + 7), duplicate_header := d },
              body_start + body_length + 7) := by
  have hseed : ({} : Message).add tags.BeginString begin_value
      = .ok { fields := [⟨tags.BeginString, begin_value⟩] } := add_of_clean hc
  have hseed2 : ({ fields := [⟨tags.BeginString, begin_value⟩] } : Message).add tags.BodyLength
        (to_chars_int (to_i64 body_length)) = .ok (seed_message begin_value body_length) :=
    add_of_clean (clean_to_chars_int _)
  have hlen2 : ¬ (opts.validate_body_len = true ∧
      body_start + body_length - body_start ≠ body_length) := by
    rintro ⟨-, hne⟩
    exact hne (Nat.add_sub_cancel_left _ _)
  rw [parse_frame, if_neg (not_lt.2 hlen)]
  simp only [hseed, hseed2]
  rcases parse_body body_length (body_start + body_length) ((base.drop body_start).take body_length)
      (seed_message begin_value body_length) header_seen false with r | ⟨m, d⟩
  · rfl
  rcases parse_trailer base (body_start + body_length) with r | provided
  · rfl
  simp only [bind, Except.bind, Nat.add_sub_cancel]
  rw [if_neg hlen2]
  by_cases hsum : opts.validate_checksum = true ∧
      compute_checksum (base.take (body_start + body_length)) ≠ UInt8.ofNat provided
  · rw [if_pos hsum, if_pos hsum]
    rfl
  · rw [if_neg hsum, if_neg hsum]
    rfl

/-- **A frame is accepted**, its header given, exactly if its body, its trailer and its checksum
are. -/
theorem parse_frame_ok_iff (opts : StreamParserOptions) (base begin_value : Bytes)
    (body_start body_length frame_end : ℕ) (msg : Message) (k : ℕ) :
    parse_frame opts base begin_value body_start body_length frame_end = .ok (msg, k) ↔
      frame_end ≤ base.length ∧ clean begin_value = true ∧
        ∃ (m : Message) (d : Bool) (provided : ℕ),
          parse_body body_length (body_start + body_length)
            ((base.drop body_start).take body_length) (seed_message begin_value body_length)
            header_seen false = .ok (m, d) ∧
          parse_trailer base (body_start + body_length) = .ok provided ∧
          (opts.validate_checksum = true →
            compute_checksum (base.take (body_start + body_length)) = UInt8.ofNat provided) ∧
          k = body_start + body_length + 7 ∧
          msg = { m with raw := base.take k, duplicate_header := d } := by
  by_cases hlen : base.length < frame_end
  · rw [parse_frame, if_pos hlen]
    constructor
    · intro h
      cases h
    · rintro ⟨hle, -⟩
      omega
  by_cases hc : clean begin_value = true
  · rw [parse_frame_eq opts (not_lt.1 hlen) hc]
    rcases hb : parse_body body_length (body_start + body_length)
        ((base.drop body_start).take body_length) (seed_message begin_value body_length)
        header_seen false with e | ⟨m, d⟩
    · simp
    rcases ht : parse_trailer base (body_start + body_length) with e | provided
    · simp
    dsimp only
    by_cases hsum : opts.validate_checksum = true ∧
        compute_checksum (base.take (body_start + body_length)) ≠ UInt8.ofNat provided
    · rw [if_pos hsum]
      constructor
      · intro h
        cases h
      · rintro ⟨-, -, m', d', p', hm, hp, hck, -⟩
        cases hp
        exact absurd (hck hsum.1) hsum.2
    · rw [if_neg hsum]
      constructor
      · intro h
        cases h
        refine ⟨not_lt.1 hlen, hc, m, d, provided, rfl, rfl, ?_, rfl, rfl⟩
        intro hv
        by_contra hne
        exact hsum ⟨hv, hne⟩
      · rintro ⟨-, -, m', d', p', hm, hp, hck, rfl, rfl⟩
        cases hm
        rfl
  · have hseed : ({} : Message).add tags.BeginString begin_value = .error .InvalidField :=
      add_of_not_clean hc
    rw [parse_frame, if_neg hlen]
    simp only [hseed]
    constructor
    · intro h
      cases h
    · rintro ⟨-, hcl, -⟩
      exact absurd hcl hc

theorem scan_frame_ok_iff_stages (opts : StreamParserOptions) (w : Bytes) (msg : Message) (k : ℕ) :
    scan_frame opts w = .ok (msg, k) ↔
      w.take 2 = ascii "8=" ∧ kMinMsgLen ≤ w.length ∧
        ∃ (bv : Bytes) (p : ℕ) (v : Bytes) (l bl fe : ℕ),
          begin_string_field w = .ok (bv, p) ∧ body_length_field w p = .ok (v, l) ∧
          parse_unsigned (2 ^ 64) v = some bl ∧
          frame_end_of opts w.length (p + l) bl = .ok fe ∧
          parse_frame opts w bv (p + l) bl fe = .ok (msg, k) := by
  unfold scan_frame
  by_cases h2 : w.length < 2
  · rw [if_pos h2]
    constructor
    · intro h
      cases h
    · rintro ⟨-, hmin, -⟩
      unfold kMinMsgLen at hmin
      omega
  rw [if_neg h2]
  by_cases h8 : w.take 2 = ascii "8="
  · simp only [h8, ne_eq, not_true_eq_false, if_false, true_and]
    by_cases hmin : w.length < kMinMsgLen
    · rw [if_pos hmin]
      constructor
      · intro h
        cases h
      · rintro ⟨hle, -⟩
        omega
    rw [if_neg hmin]
    rcases hb : begin_string_field w with e | ⟨bv, p⟩
    · simp [bind, Except.bind]
    rcases hl : body_length_field w p with e | ⟨v, l⟩
    · simp [bind, Except.bind, hl]
    rcases hv : parse_unsigned (2 ^ 64) v with _ | bl
    · simp [bind, Except.bind, hl, hv, -Nat.reducePow, throw, throwThe, MonadExceptOf.throw]
    rcases hfe : frame_end_of opts w.length (p + l) bl with e | fe
    · simp [bind, Except.bind, hl, hv, hfe, -Nat.reducePow]
    · simp [bind, Except.bind, hl, hv, hfe, not_lt.1 hmin, -Nat.reducePow]
  · simp [h8]
    intro h
    cases h

/-- BeginString and BodyLength in front of a frame, whatever length they claim. -/
structure Header : Type where
  begin_string : Bytes
  length_tag : Bytes
  length_text : Bytes
  begin_clean : clean begin_string = true
  begin_short : 3 + begin_string.length ≤ 64
  length_tag_digits : ∀ c ∈ length_tag, is_digit c = true
  length_tag_value : digits_value length_tag = 9
  length_text_ne : length_text ≠ []
  length_text_digits : ∀ c ∈ length_text, is_digit c = true
  length_short : length_tag.length + length_text.length + 2 ≤ 64

namespace Header

def bytes (h : Header) : Bytes :=
  ascii "8=" ++ h.begin_string ++ [SOH] ++ h.length_tag ++ [EQ] ++ h.length_text ++ [SOH]

/-- The length of the body, as claimed. -/
def claims (h : Header) : ℕ := digits_value h.length_text

/-- The end of the frame, as claimed. -/
def frame_end (h : Header) : ℕ := h.bytes.length + h.claims + 7

/-- The BeginString field. -/
def begin_field (h : Header) : RawField :=
  ⟨ascii "8", h.begin_string, by decide, by decide +kernel, by decide +kernel,
    (clean_iff.1 h.begin_clean).2⟩

/-- The BodyLength field. -/
def length_field (h : Header) : RawField where
  tag_text := h.length_tag
  value := h.length_text
  tag_ne := by
    intro hnil
    have hvalue := h.length_tag_value
    rw [hnil] at hvalue
    cases hvalue
  tag_digits := h.length_tag_digits
  tag_lt := by rw [h.length_tag_value]; norm_num
  value_soh := fun hm => absurd (h.length_text_digits _ hm) (by decide)

theorem bytes_eq (h : Header) : h.bytes = h.begin_field.bytes ++ h.length_field.bytes := by
  simp [bytes, begin_field, length_field, RawField.bytes, ascii]

theorem length_begin_field (h : Header) :
    h.begin_field.bytes.length = 3 + h.begin_string.length := by
  rw [RawField.length_bytes]
  change 1 + 1 + h.begin_string.length + 1 = _
  omega

theorem length_length_field (h : Header) :
    h.length_field.bytes.length = h.length_tag.length + h.length_text.length + 2 := by
  rw [RawField.length_bytes]
  change h.length_tag.length + 1 + h.length_text.length + 1 = _
  omega

theorem length_bytes (h : Header) :
    h.bytes.length = h.begin_field.bytes.length + h.length_field.bytes.length := by
  rw [h.bytes_eq, List.length_append]

theorem length_le (h : Header) : h.bytes.length ≤ 128 := by
  have hbegin := h.begin_short
  have hlength := h.length_short
  rw [h.length_bytes, h.length_begin_field, h.length_length_field]
  omega

theorem tag_length_field (h : Header) : h.length_field.tag = tags.BodyLength := by
  change UInt32.ofNat (digits_value h.length_tag) = _
  rw [h.length_tag_value]
  rfl

/-- **The stages of the header.** -/
theorem stages (h : Header) (rest : Bytes) (hlt : h.claims < 2 ^ 64) :
    (h.bytes ++ rest).take 2 = ascii "8=" ∧
      begin_string_field (h.bytes ++ rest) = .ok (h.begin_string, h.begin_field.bytes.length) ∧
      body_length_field (h.bytes ++ rest) h.begin_field.bytes.length =
        .ok (h.length_text, h.length_field.bytes.length) ∧
      parse_unsigned (2 ^ 64) h.length_text = some h.claims := by
  have hbytes : h.bytes ++ rest = h.begin_field.bytes ++ (h.length_field.bytes ++ rest) := by
    rw [h.bytes_eq, List.append_assoc]
  refine ⟨?_, ?_, ?_, ?_⟩
  · rw [hbytes]
    rfl
  · refine (header_field_ok_iff _ _ _ _ _ _ _).2 ⟨h.begin_field, _, hbytes, ?_, ?_, rfl, rfl⟩
    · rw [h.length_begin_field]
      exact h.begin_short
    · change UInt32.ofNat (digits_value (ascii "8")) = 8
      decide
  · refine (header_field_ok_iff _ _ _ _ _ _ _).2
      ⟨h.length_field, rest, ?_, ?_, h.tag_length_field, rfl, rfl⟩
    · rw [hbytes, List.drop_left]
    · rw [h.length_length_field]
      exact h.length_short
  · exact (parse_unsigned_eq_some_iff _ _ _).2 ⟨h.length_text_ne, h.length_text_digits, rfl, hlt⟩

end Header

namespace Frame

/-- The header of a frame. -/
def head (f : Frame) : Header :=
  ⟨f.begin_string, f.length_tag, f.length_text, f.begin_clean, f.begin_short, f.length_tag_digits,
    f.length_tag_value, f.length_text_ne, f.length_text_digits, f.length_short⟩

theorem claims_head (f : Frame) : f.head.claims = (raw_bytes f.fields).length := f.length_text_value

end Frame

theorem checksum_eq_iff {data : Bytes} {provided : ℕ} (h : provided ≤ 255) :
    compute_checksum data = UInt8.ofNat provided ↔
      provided = (data.map UInt8.toNat).sum % 256 := by
  rw [← UInt8.toNat_inj, compute_checksum_toNat, UInt8.toNat_ofNat']
  omega

theorem Frame.header_stages (f : Frame) (rest : Bytes)
    (hlen : (raw_bytes f.fields).length < 2 ^ 64) :
    (f.bytes ++ rest).take 2 = ascii "8=" ∧
      begin_string_field (f.bytes ++ rest) = .ok (f.begin_string, f.head.begin_field.bytes.length) ∧
      body_length_field (f.bytes ++ rest) f.head.begin_field.bytes.length =
        .ok (f.length_text, f.head.length_field.bytes.length) ∧
      parse_unsigned (2 ^ 64) f.length_text = some (raw_bytes f.fields).length := by
  have hbytes : f.bytes ++ rest =
      f.head.bytes ++ (raw_bytes f.fields ++ (trailer f.checksum ++ rest)) := by
    rw [Frame.bytes, Frame.before_trailer, List.append_assoc, List.append_assoc]
    rfl
  rw [hbytes, ← f.claims_head]
  exact f.head.stages _ (f.claims_head ▸ hlen)

theorem scan_frame_of_frame (opts : StreamParserOptions) (f : Frame) (rest : Bytes)
    (hmin : kMinMsgLen ≤ (f.bytes ++ rest).length) (hw : f.bytes.length < 2 ^ 64)
    (hacc : f.Accepted opts)
    (hkept : ∀ g ∈ keep_first header_seen (f.fields.map RawField.field), clean g.value = true) :
    scan_frame opts (f.bytes ++ rest) = .ok (f.message, f.bytes.length) := by
  obtain ⟨hsum, hmax⟩ := hacc
  have hblen := f.length_bytes
  have hhlen : f.header.length =
      f.head.begin_field.bytes.length + f.head.length_field.bytes.length :=
    f.head.length_bytes
  have hshort : f.header.length ≤ 128 := f.head.length_le
  have hwlen : (f.bytes ++ rest).length = f.bytes.length + rest.length := List.length_append
  have hbody : (f.bytes ++ rest).drop f.header.length
      = raw_bytes f.fields ++ (trailer f.checksum ++ rest) := by
    simp only [Frame.bytes, Frame.before_trailer, List.append_assoc, List.drop_left]
  have hbefore : (f.bytes ++ rest).take (f.header.length + (raw_bytes f.fields).length)
      = f.before_trailer := by
    have : (f.bytes ++ rest) = f.before_trailer ++ (trailer f.checksum ++ rest) := by
      simp only [Frame.bytes, List.append_assoc]
    rw [this, ← List.length_append, ← Frame.before_trailer, List.take_left]
  obtain ⟨height, hbegin, hlength, hvalue⟩ := f.header_stages rest (by omega)
  refine (scan_frame_ok_iff_stages _ _ _ _).2 ⟨height, hmin, f.begin_string,
    f.head.begin_field.bytes.length, f.length_text, f.head.length_field.bytes.length,
    (raw_bytes f.fields).length, f.bytes.length, hbegin, hlength, hvalue, ?_, ?_⟩
  · rw [← hhlen]
    exact (frame_end_of_ok_iff (by omega) _).2 ⟨hblen, by omega, hmax⟩
  · rw [← hhlen]
    refine (parse_frame_ok_iff _ _ _ _ _ _ _ _).2 ⟨by omega, f.begin_clean, _, _,
      digits_value f.checksum, (parse_body_ok_iff _ _ _ _ _ _ ?_ _ _).2
        ⟨f.fields, ?_, f.no_checksum, hkept, rfl, rfl⟩, ?_, ?_, hblen, ?_⟩
    · rw [List.length_take]; omega
    · rw [hbody, List.take_left]
    · refine (parse_trailer_ok_iff _ _ _).2 ⟨f.checksum, rest, ?_, f.checksum_length,
        f.checksum_digits, rfl, f.checksum_le⟩
      rw [← List.drop_drop, hbody, List.drop_left]
    · intro hv
      rw [hbefore, checksum_eq_iff f.checksum_le]
      exact hsum hv
    · rw [List.take_left]
      simp only [Frame.message, seed_message, List.cons_append, List.nil_append, Bool.false_or]

theorem scan_frame_oversized (opts : StreamParserOptions) (f : Frame)
    (hmin : kMinMsgLen ≤ f.bytes.length) (hw : f.bytes.length < 2 ^ 64)
    (hlimit : 0 < opts.max_msg_len) (hover : opts.max_msg_len < f.bytes.length) :
    scan_frame opts f.bytes = .error (.skip f.bytes.length .BadLength) := by
  have hblen := f.length_bytes
  have hhlen : f.header.length =
      f.head.begin_field.bytes.length + f.head.length_field.bytes.length :=
    f.head.length_bytes
  obtain ⟨height, hbegin, hlength, hvalue⟩ := f.header_stages [] (by omega)
  rw [List.append_nil] at height hbegin hlength
  have hend : frame_end_of opts f.bytes.length
      (f.head.begin_field.bytes.length + f.head.length_field.bytes.length)
      (raw_bytes f.fields).length = .error (.skip f.bytes.length .BadLength) := by
    have hok : (raw_bytes f.fields).length ≤ 2 ^ 64 - 1 - (f.header.length + 7) := by omega
    rw [← hhlen, frame_end_of]
    simp only [hok, if_true, ← hblen]
    rw [if_pos (.inr ⟨hlimit, by omega⟩), if_neg (by omega), if_pos (by omega)]
  have hlong : ¬f.bytes.length < 2 := by
    unfold kMinMsgLen at hmin
    omega
  simp only [scan_frame, hlong, height, not_lt.2 hmin, hbegin, hlength, hvalue, hend, bind,
    Except.bind, if_false, ne_eq, not_true_eq_false]

theorem frame_of_scan_frame {opts : StreamParserOptions} {w : Bytes} {msg : Message} {k : ℕ}
    (h : scan_frame opts w = .ok (msg, k)) :
    kMinMsgLen ≤ w.length ∧ ∃ (f : Frame) (rest : Bytes), w = f.bytes ++ rest ∧
      k = f.bytes.length ∧ f.Accepted opts ∧
      (∀ g ∈ keep_first header_seen (f.fields.map RawField.field), clean g.value = true) ∧
      msg = f.message := by
  obtain ⟨h8, hmin, bv, p, v, l, bl, fe, hb, hl, hv, hfe, hpf⟩ :=
    (scan_frame_ok_iff_stages _ _ _ _).1 h
  refine ⟨hmin, ?_⟩
  obtain ⟨bf, r1, hw1, hbf64, hbftag, rfl, rfl⟩ := (header_field_ok_iff _ _ _ _ _ _ _).1 hb
  rw [List.drop_zero] at hw1
  obtain ⟨lf, r2, hw2, hlf64, hlftag, rfl, rfl⟩ := (header_field_ok_iff _ _ _ _ _ _ _).1 hl
  rw [hw1, List.drop_left] at hw2
  obtain ⟨hDne, hDdig, hDval, -⟩ := (parse_unsigned_eq_some_iff _ _ _).1 hv
  have hstart : bf.bytes.length + lf.bytes.length ≤ 128 := by
    unfold kMaxHeaderScan at hbf64 hlf64
    omega
  obtain ⟨rfl, -, hmax⟩ := (frame_end_of_ok_iff hstart _).1 hfe
  obtain ⟨hfit, hclean, m, d, provided, hbody, htrail, hck, rfl, rfl⟩ :=
    (parse_frame_ok_iff _ _ _ _ _ _ _ _).1 hpf
  have hdrop : w.drop (bf.bytes.length + lf.bytes.length) = r2 := by
    rw [hw1, hw2, ← List.append_assoc, ← List.length_append, List.drop_left]
  obtain ⟨fs, hfs, hno, hkept, rfl, rfl⟩ := (parse_body_ok_iff _ _ _ _ _ _
    (by rw [List.length_take]; omega) _ _).1 hbody
  obtain ⟨cs, r3, hw3, hcl, hcdig, hcv, hcle⟩ := (parse_trailer_ok_iff _ _ _).1 htrail
  rw [← List.drop_drop, hdrop] at hw3
  rw [hdrop] at hfs
  have hr2len : w.length = bf.bytes.length + lf.bytes.length + r2.length := by
    rw [hw1, hw2, List.length_append, List.length_append, Nat.add_assoc]
  have hfslen : (raw_bytes fs).length = bl := by
    rw [← hfs, List.length_take]
    omega
  have hr2 : r2 = raw_bytes fs ++ (trailer cs ++ r3) := by
    rw [← hfs, ← hw3, List.take_append_drop]
  have hbtext : bf.tag_text = ascii "8" := by
    refine eq_eight_of_take (bf.value ++ [SOH] ++ r1) bf.tag_ne bf.tag_digits ?_
    rw [← h8, hw1]
    simp only [RawField.bytes, List.append_assoc, List.cons_append]
  let f : Frame :=
    { begin_string := bf.value
      length_tag := lf.tag_text
      length_text := lf.value
      fields := fs
      checksum := cs
      begin_clean := hclean
      begin_short := by
        have := bf.length_bytes
        rw [hbtext] at this
        change _ = 1 + 1 + _ + 1 at this
        unfold kMaxHeaderScan at hbf64
        omega
      length_tag_digits := lf.tag_digits
      length_tag_value := by rw [← lf.toNat_tag, hlftag]; rfl
      length_text_ne := hDne
      length_text_digits := hDdig
      length_text_value := hDval.trans hfslen.symm
      length_short := by
        have := lf.length_bytes
        unfold kMaxHeaderScan at hlf64
        omega
      no_checksum := hno
      checksum_length := hcl
      checksum_digits := hcdig
      checksum_le := by rw [hcv]; exact hcle }
  have hheader : f.header = bf.bytes ++ lf.bytes := by
    simp only [Frame.header, f, RawField.bytes, hbtext, ascii]
    simp
  have hbefore : w.take (bf.bytes.length + lf.bytes.length + bl) = f.before_trailer := by
    rw [hw1, hw2, hr2, Frame.before_trailer, hheader, ← hfslen, ← List.append_assoc,
      ← List.append_assoc, ← List.length_append, ← List.length_append, List.take_left]
  have hbytes : w = f.bytes ++ r3 := by
    rw [Frame.bytes, Frame.before_trailer, hheader, hw1, hw2, hr2]
    simp only [f, List.append_assoc]
  have hk : bf.bytes.length + lf.bytes.length + bl + 7 = f.bytes.length := by
    rw [f.length_bytes, hheader, List.length_append]
    change _ = _ + (raw_bytes fs).length + 7
    rw [hfslen]
  refine ⟨f, r3, hbytes, hk, ⟨?_, ?_⟩, hkept, ?_⟩
  · intro hval
    have := hck hval
    rw [hbefore, ← hcv, checksum_eq_iff f.checksum_le] at this
    exact this
  · rw [← hk]
    exact hmax
  · rw [hk, hbytes, List.take_left]
    simp only [Frame.message, seed_message, f, List.cons_append, List.nil_append, Bool.false_or,
      hfslen]

/-- **What the parser accepts.** -/
theorem scan_frame_ok_iff (opts : StreamParserOptions) (w : Bytes) (hw : w.length < 2 ^ 64)
    (msg : Message) (k : ℕ) :
    scan_frame opts w = .ok (msg, k) ↔
      kMinMsgLen ≤ w.length ∧ ∃ (f : Frame) (rest : Bytes), w = f.bytes ++ rest ∧
        k = f.bytes.length ∧ f.Accepted opts ∧
        (∀ g ∈ keep_first header_seen (f.fields.map RawField.field), clean g.value = true) ∧
        msg = f.message := by
  constructor
  · exact frame_of_scan_frame
  · rintro ⟨hmin, f, rest, rfl, rfl, hacc, hkept, rfl⟩
    rw [List.length_append] at hw
    exact scan_frame_of_frame opts f rest hmin (by omega) hacc hkept

/-! ## The grammar, and the difference -/

theorem mem_keep_first_or_repeated (seen : List TagNum) {fs : List Field} {g : Field}
    (h : g ∈ fs) : g ∈ keep_first seen fs ∨ g ∈ repeated seen fs := by
  induction fs generalizing seen with
  | nil => cases h
  | cons f fs ih =>
    unfold keep_first repeated
    rcases List.mem_cons.1 h with rfl | h
    · split
      · exact Or.inr List.mem_cons_self
      · exact Or.inl List.mem_cons_self
    · split
      · exact (ih _ h).imp id (List.mem_cons_of_mem _)
      · exact (ih _ h).imp (List.mem_cons_of_mem _) id

theorem mem_of_mem_keep_first {seen : List TagNum} {fs : List Field} {g : Field}
    (h : g ∈ keep_first seen fs) : g ∈ fs := (keep_first_sublist seen fs).subset h

theorem mem_of_mem_repeated {seen : List TagNum} {fs : List Field} {g : Field}
    (h : g ∈ repeated seen fs) : g ∈ fs := by
  induction fs generalizing seen with
  | nil => cases h
  | cons f fs ih =>
    unfold repeated at h
    split at h
    · rcases List.mem_cons.1 h with rfl | h
      · exact List.mem_cons_self
      · exact List.mem_cons_of_mem _ (ih h)
    · exact List.mem_cons_of_mem _ (ih h)

theorem Frame.nul_mem_bytes_iff (f : Frame) :
    (0 : UInt8) ∈ f.bytes ↔ ∃ g ∈ f.fields, (0 : UInt8) ∈ g.value := by
  have hdig : ∀ t : Bytes, (∀ c ∈ t, is_digit c = true) → (0 : UInt8) ∉ t :=
    fun t ht hm => absurd (ht _ hm) (by decide)
  have hEQ : (0 : UInt8) ≠ EQ := by decide
  have hSOH : (0 : UInt8) ≠ SOH := by decide
  have hB := (clean_iff.1 f.begin_clean).1
  have hT := hdig _ f.length_tag_digits
  have hD := hdig _ f.length_text_digits
  have hC := hdig _ f.checksum_digits
  have hfield : ∀ g : RawField, (0 : UInt8) ∈ g.bytes ↔ (0 : UInt8) ∈ g.value := by
    intro g
    have := hdig _ g.tag_digits
    simp [RawField.bytes, this, hEQ, hSOH]
  have h8 : (0 : UInt8) ∉ ascii "8=" := by decide
  have h10 : (0 : UInt8) ∉ ascii "10=" := by decide
  simp [Frame.bytes, Frame.before_trailer, Frame.header, trailer, hB, hT, hD, hC, h8, h10,
    raw_bytes, hfield, hEQ, hSOH]

/-- The frame grammar: the first `k` bytes of `w` are a frame in which no value
holds a NUL. -/
def InGrammar (opts : StreamParserOptions) (w : Bytes) (k : ℕ) : Prop :=
  kMinMsgLen ≤ w.length ∧ ∃ (f : Frame) (rest : Bytes), w = f.bytes ++ rest ∧
    k = f.bytes.length ∧ f.Accepted opts ∧ ∀ g ∈ f.fields, (0 : UInt8) ∉ g.value

/-- The first `k` bytes of `w` meet the grammar but for a NUL in the value of a
standard-header field that repeats an earlier one. -/
def NulInRepeat (opts : StreamParserOptions) (w : Bytes) (k : ℕ) : Prop :=
  kMinMsgLen ≤ w.length ∧ ∃ (f : Frame) (rest : Bytes), w = f.bytes ++ rest ∧
    k = f.bytes.length ∧ f.Accepted opts ∧
    (∀ g ∈ keep_first header_seen (f.fields.map RawField.field), (0 : UInt8) ∉ g.value) ∧
    ∃ g ∈ repeated header_seen (f.fields.map RawField.field), (0 : UInt8) ∈ g.value

/-- `try_parse_one` delivers a message and consumes `k` bytes. -/
def Delivers (p : StreamParser) (k : ℕ) : Prop :=
  p.try_parse_one.2 = .Message ∧ p.try_parse_one.1.consumed = p.consumed + k

theorem delivers_iff (p : StreamParser) (k : ℕ) :
    Delivers p k ↔ ∃ msg, scan_frame p.opts p.unread = .ok (msg, k) := by
  unfold Delivers StreamParser.try_parse_one
  rcases scan_frame p.opts p.unread with e | ⟨msg, n⟩
  · rcases e with (_ | err) | _ | ⟨n, err⟩
    · simp
    · simp
    · simp only [reduceCtorEq, exists_false, iff_false, not_and]
      intro h
      split at h <;> cases h
    · simp
  · simp [StreamParser.advance]

theorem clean_value_iff (f : RawField) : clean f.field.value = true ↔ (0 : UInt8) ∉ f.value := by
  rw [clean_iff]
  exact ⟨fun h => h.1, fun h => ⟨h, f.value_soh⟩⟩

theorem clean_kept_iff (fs : List RawField) (seen : List TagNum) :
    (∀ g ∈ keep_first seen (fs.map RawField.field), clean g.value = true) ↔
      ∀ g ∈ keep_first seen (fs.map RawField.field), (0 : UInt8) ∉ g.value := by
  refine forall₂_congr fun g hg => ?_
  obtain ⟨f, -, rfl⟩ := List.mem_map.1 (mem_of_mem_keep_first hg)
  exact clean_value_iff f

/-- **The grammar, and where the parser departs from it.** On every buffer, for
every options and every `k`, delivering `k` bytes is the same as the grammar,
unless a repeated standard-header field holds a NUL: its value is dropped before
`Message::add` checks it. `p.unread` lies in a buffer whose positions are
`std::size_t`. -/
theorem delivers_iff_in_grammar_iff (p : StreamParser) (hp : p.write_pos < 2 ^ 64) (k : ℕ) :
    (Delivers p k ↔ InGrammar p.opts p.unread k) ↔ ¬ NulInRepeat p.opts p.unread k := by
  have hw : p.unread.length < 2 ^ 64 := by
    unfold StreamParser.write_pos at hp
    omega
  have hdel : Delivers p k ↔ kMinMsgLen ≤ p.unread.length ∧ ∃ (f : Frame) (rest : Bytes),
      p.unread = f.bytes ++ rest ∧ k = f.bytes.length ∧ f.Accepted p.opts ∧
      ∀ g ∈ keep_first header_seen (f.fields.map RawField.field), (0 : UInt8) ∉ g.value := by
    simp only [delivers_iff, scan_frame_ok_iff p.opts p.unread hw, clean_kept_iff]
    constructor
    · rintro ⟨msg, hmin, f, rest, h1, h2, h3, h4, -⟩
      exact ⟨hmin, f, rest, h1, h2, h3, h4⟩
    · rintro ⟨hmin, f, rest, h1, h2, h3, h4⟩
      exact ⟨f.message, hmin, f, rest, h1, h2, h3, h4, rfl⟩
  rw [hdel]
  constructor
  · rintro hiff ⟨hmin, f, rest, hf, hk, hacc, hkept, g, hg, hnul⟩
    obtain ⟨-, f', rest', hf', hk', -, hall⟩ := hiff.1 ⟨hmin, f, rest, hf, hk, hacc, hkept⟩
    have hsame : f.bytes = f'.bytes := by
      have := congrArg (List.take k) (hf.symm.trans hf')
      rwa [hk, List.take_left, ← hk, hk', List.take_left] at this
    obtain ⟨raw, hraw, rfl⟩ := List.mem_map.1 (mem_of_mem_repeated hg)
    have hnul' := (Frame.nul_mem_bytes_iff f).2 ⟨raw, hraw, hnul⟩
    rw [hsame, Frame.nul_mem_bytes_iff] at hnul'
    obtain ⟨raw', hraw', h0⟩ := hnul'
    exact hall raw' hraw' h0
  · intro hno
    constructor
    · rintro ⟨hmin, f, rest, hf, hk, hacc, hkept⟩
      refine ⟨hmin, f, rest, hf, hk, hacc, fun g hg h0 => ?_⟩
      have hg' : g.field ∈ f.fields.map RawField.field := List.mem_map_of_mem hg
      rcases mem_keep_first_or_repeated header_seen hg' with hm | hm
      · exact hkept _ hm h0
      · exact hno ⟨hmin, f, rest, hf, hk, hacc, hkept, _, hm, h0⟩
    · rintro ⟨hmin, f, rest, hf, hk, hacc, hall⟩
      refine ⟨hmin, f, rest, hf, hk, hacc, fun g hg => ?_⟩
      obtain ⟨raw, hraw, rfl⟩ := List.mem_map.1 (mem_of_mem_keep_first hg)
      exact hall raw hraw

/-- A frame whose second MsgType is a lone NUL. -/
def nul_repeat_frame : Bytes :=
  ascii "8=FIX.4.2" ++ [SOH] ++ ascii "9=10" ++ [SOH] ++ ascii "35=0" ++ [SOH] ++ ascii "35="
    ++ [0, SOH] ++ ascii "10=115" ++ [SOH]

/-- The parser delivers `nul_repeat_frame`, which is not in the grammar. -/
theorem nul_repeat_frame_delivered :
    Delivers { unread := nul_repeat_frame } 32 ∧ ¬ InGrammar {} nul_repeat_frame 32 := by
  refine ⟨by unfold Delivers; decide, ?_⟩
  rintro ⟨-, f, rest, hf, hk, -, hall⟩
  have hbytes : f.bytes = nul_repeat_frame.take 32 := by rw [hf, hk, List.take_left]
  have hnul : (0 : UInt8) ∈ f.bytes := by rw [hbytes]; decide
  obtain ⟨g, hg, h0⟩ := (Frame.nul_mem_bytes_iff f).1 hnul
  exact hall g hg h0

/-- The equivalence at `nul_repeat_frame`, where both sides fail. -/
theorem delivers_iff_in_grammar_nul_repeat :
    ({ unread := nul_repeat_frame } : StreamParser).write_pos < 2 ^ 64 ∧
      ((Delivers { unread := nul_repeat_frame } 32 ↔ InGrammar {} nul_repeat_frame 32) ↔
        ¬ NulInRepeat {} nul_repeat_frame 32) :=
  ⟨by decide,
    delivers_iff_in_grammar_iff { unread := nul_repeat_frame } (by decide) 32⟩

end FixEngine
