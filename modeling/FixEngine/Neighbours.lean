/-
`Neighbours.lean` -- a corrupt frame does not take its neighbours with it.

The stream is a list of segments: valid frames, frames with other checksum digits,
and frames whose BodyLength was raised. What `try_parse_one` does with a segment
depends on its header alone until the claimed end is buffered (`Header.waits`). Then
a valid frame is delivered, and every way in which a corrupt one is refused skips to
its trailer or into it (`FrameSegment.InScope.scan`): the end of the frame behind a wrong
checksum, the claimed end of the body if that cuts the trailer, the trailer itself
otherwise. What is left is the end of a trailer, where no frame starts, and the
resync that follows stops at the next segment or waits for it. So the stream stays
on a plan (`Plan`) in which the valid frames are due. What can keep a frame from being
delivered is the buffer: a segment beyond its cap is never decided, and what stands
behind it is lost (`WithinCap`).
-/
import FixEngine.Conservation
import FixEngine.RoundTrip

set_option autoImplicit false

namespace FixEngine

open FixEngine.Decimal FixEngine.Incremental

/-! ## What a header announces -/

namespace Header

variable {opts : StreamParserOptions} (h : Header)

theorem scan_frame_eq (rest : Bytes) (hlt : h.frame_end < 2 ^ 64)
    (hlimit : opts.max_msg_len = 0 ∨ h.frame_end ≤ opts.max_msg_len)
    (hmin : kMinMsgLen ≤ (h.bytes ++ rest).length) :
    scan_frame opts (h.bytes ++ rest) =
      parse_frame opts (h.bytes ++ rest) h.begin_string h.bytes.length h.claims h.frame_end := by
  have hclaims : h.claims < 2 ^ 64 := by
    rw [frame_end] at hlt
    omega
  obtain ⟨height, hbegin, hlength, hvalue⟩ := h.stages rest hclaims
  have hend : frame_end_of opts (h.bytes ++ rest).length h.bytes.length h.claims =
      .ok h.frame_end :=
    (frame_end_of_ok_iff h.length_le _).2 ⟨rfl, hlt, hlimit⟩
  have hlong : ¬(h.bytes ++ rest).length < 2 := by
    unfold kMinMsgLen at hmin
    omega
  rw [h.length_bytes] at hend
  simp only [scan_frame, hlong, height, not_lt.2 hmin, hbegin, hlength, hvalue, hend, bind,
    Except.bind, if_false, ne_eq, not_true_eq_false, h.length_bytes]

/-- **Until the claimed end is buffered the parser waits.** -/
theorem waits {x rest : Bytes} (hx : x <+: h.bytes ++ rest) (hlt : h.frame_end < 2 ^ 64)
    (hlimit : opts.max_msg_len = 0 ∨ h.frame_end ≤ opts.max_msg_len)
    (hshort : x.length < max h.frame_end kMinMsgLen) : parse_step opts x = none := by
  have hclaims : h.claims < 2 ^ 64 := by
    rw [frame_end] at hlt
    omega
  obtain ⟨e, he⟩ := hx
  obtain ⟨height, hbegin, hlength, hvalue⟩ := h.stages rest hclaims
  rw [← he] at height hbegin hlength
  suffices hscan : scan_frame opts x = .error (.need_more none) by
    rw [parse_step, hscan]
  by_cases h2 : x.length < 2
  · rw [scan_frame, if_pos h2]
    rfl
  have h8 : x.take 2 = ascii "8=" := by
    rw [← height, List.take_append_of_le_length (by omega)]
  by_cases hmin : x.length < kMinMsgLen
  · simp only [scan_frame, h2, h8, hmin, if_true, if_false, ne_eq, not_true_eq_false]
    rfl
  -- the fields of the header are read as they will be, or awaited
  rcases header_field_append x e 0 tags.BeginString 1 .InvalidField (Nat.zero_le _) with hb | hb
  · have hb' : begin_string_field x = .error (.need_more none) := hb
    simp only [scan_frame, h2, h8, hmin, hb', bind, Except.bind, if_false, ne_eq, not_true_eq_false]
  have hb' : begin_string_field x = .ok (h.begin_string, h.begin_field.bytes.length) :=
    hb.symm.trans hbegin
  have hpos := (header_field_bounds hb').2.2
  rw [Nat.zero_add] at hpos
  rcases header_field_append x e h.begin_field.bytes.length tags.BodyLength
    h.begin_field.bytes.length
      .BadLength hpos with hl | hl
  · have hl' : body_length_field x h.begin_field.bytes.length = .error (.need_more none) := hl
    simp only [scan_frame, h2, h8, hmin, hb', hl', bind, Except.bind, if_false, ne_eq,
      not_true_eq_false]
  have hl' : body_length_field x h.begin_field.bytes.length =
      .ok (h.length_text, h.length_field.bytes.length) := hl.symm.trans hlength
  have hend : frame_end_of opts x.length
      (h.begin_field.bytes.length + h.length_field.bytes.length) h.claims
      = .ok h.frame_end := by
    rw [← h.length_bytes]
    exact (frame_end_of_ok_iff h.length_le _).2 ⟨rfl, hlt, hlimit⟩
  have hframe : x.length < h.frame_end := by omega
  simp only [scan_frame, h2, h8, hmin, hb', hl', hvalue, hend, parse_frame, hframe, bind,
    Except.bind, if_true, if_false, ne_eq, not_true_eq_false]
  rfl

end Header

/-! ## Segments -/

/-- One piece of a stream: a valid frame, or what has become of one. -/
inductive FrameSegment : Type where
  | valid (f : Frame)
  | bad_checksum (f : Frame) (digits : Bytes)
  | raised_length (f : Frame) (text : Bytes)

namespace FrameSegment

/-- The valid frame that a segment is or was. -/
def frame : FrameSegment → Frame
  | valid f => f
  | bad_checksum f _ => f
  | raised_length f _ => f

/-- BeginString and BodyLength, as they are in the segment. -/
def header : FrameSegment → Bytes
  | valid f => f.header
  | bad_checksum f _ => f.header
  | raised_length f text =>
    ascii "8=" ++ f.begin_string ++ [SOH] ++ f.length_tag ++ [EQ] ++ text ++ [SOH]

/-- The length of the body that the header claims. -/
def claims : FrameSegment → ℕ
  | valid f => (raw_bytes f.fields).length
  | bad_checksum f _ => (raw_bytes f.fields).length
  | raised_length _ text => digits_value text

/-- The digits of the trailer. -/
def checksum : FrameSegment → Bytes
  | valid f => f.checksum
  | bad_checksum _ digits => digits
  | raised_length f _ => f.checksum

def before_trailer (s : FrameSegment) : Bytes := s.header ++ raw_bytes s.frame.fields

/-- The segment on the wire. -/
def bytes (s : FrameSegment) : Bytes := s.before_trailer ++ trailer s.checksum

/-- The end of the frame that the header claims. -/
def claimed_end (s : FrameSegment) : ℕ := s.header.length + s.claims + 7

/-- How many bytes must be buffered for a decision. -/
def reach (s : FrameSegment) : ℕ := max s.claimed_end kMinMsgLen

/-- Was it corrupted in one of the two ways? `left` bytes of the stream are left from the start of
the segment on. -/
def Corruption (opts : StreamParserOptions) (left : ℕ) : FrameSegment → Prop
  | valid _ => True
  | bad_checksum f digits =>
    digits.length = 3 ∧ (∀ c ∈ digits, is_digit c = true) ∧ digits ≠ f.checksum
  | raised_length f text =>
    (text ≠ [] ∧ (∀ c ∈ text, is_digit c = true) ∧
    (raw_bytes f.fields).length < digits_value text) ∧
      (opts.max_msg_len = 0 ∨ (raised_length f text).claimed_end ≤ opts.max_msg_len) ∧
      (raised_length f text).claimed_end ≤ left

/-- The raised BodyLength still is a field of at most 64 bytes. -/
def HeaderFits : FrameSegment → Prop
  | valid _ => True
  | bad_checksum _ _ => True
  | raised_length f text => f.length_tag.length + text.length + 2 ≤ kMaxHeaderScan

end FrameSegment

/-- A valid frame of 20 bytes or more within the limit. -/
structure ValidFrame (opts : StreamParserOptions) (f : Frame) : Prop where
  accepted : f.Accepted opts
  long_enough : kMinMsgLen ≤ f.bytes.length
  no_nul : ∀ g ∈ f.fields, (0 : UInt8) ∉ g.value

/-- A valid frame or one corrupted, with `left` bytes of the stream from its start on. -/
structure FrameSegment.InScope (opts : StreamParserOptions) (left : ℕ)
    (s : FrameSegment) : Prop where
  valid_frame : ValidFrame opts s.frame
  corruption : s.Corruption opts left

namespace ValidFrame

variable {opts : StreamParserOptions} {f : Frame}

theorem clean (h : ValidFrame opts f) : ∀ g ∈ f.fields, clean g.value = true :=
  fun g hg => (clean_value_iff g).mpr (h.no_nul g hg)

theorem kept_clean (h : ValidFrame opts f) :
    ∀ g ∈ keep_first header_seen (f.fields.map RawField.field), FixEngine.clean g.value = true := by
  intro g hg
  obtain ⟨r, hr, rfl⟩ := List.mem_map.mp (mem_of_mem_keep_first hg)
  exact h.clean r hr

end ValidFrame

/-! ## What is refused, and how much of it is skipped -/

theorem parse_body_through (fs : List RawField) (z : Bytes) {fuel : ℕ} (body_end : ℕ)
    (msg : Message) (seen : List TagNum) (dup : Bool) (hno : ∀ f ∈ fs, f.tag ≠ tags.CheckSum)
    (hclean : ∀ f ∈ fs, clean f.value = true) (hfuel : (raw_bytes fs ++ z).length ≤ fuel) :
    ∃ (fuel' : ℕ) (msg' : Message) (seen' : List TagNum) (dup' : Bool), z.length ≤ fuel' ∧
      parse_body fuel body_end (raw_bytes fs ++ z) msg seen dup =
      parse_body fuel' body_end z msg' seen' dup' := by
  induction fs generalizing fuel msg seen dup with
  | nil => exact ⟨fuel, msg, seen, dup, hfuel, rfl⟩
  | cons f fs ih =>
    have hpos := f.length_bytes
    rw [raw_bytes_cons, List.append_assoc, List.length_append] at hfuel
    obtain ⟨fuel, rfl⟩ : ∃ k, fuel = k + 1 := ⟨fuel - 1, by omega⟩
    have hno' : ∀ g ∈ fs, g.tag ≠ tags.CheckSum := fun g hg => hno g (List.mem_cons_of_mem _ hg)
    have hclean' : ∀ g ∈ fs, clean g.value = true :=
      fun g hg => hclean g (List.mem_cons_of_mem _ hg)
    rw [raw_bytes_cons, List.append_assoc, parse_body_cons, if_neg (hno f List.mem_cons_self)]
    by_cases hrep : is_repeat seen f.field = true
    · rw [if_pos hrep]
      exact ih _ _ _ hno' hclean' (by omega)
    · rw [if_neg hrep, if_pos (hclean f List.mem_cons_self)]
      exact ih _ _ _ hno' hclean' (by omega)

theorem parse_body_trailer {digits rest : Bytes} (hlen : digits.length = 3)
    (hdig : ∀ c ∈ digits, is_digit c = true) (body_end : ℕ) (msg : Message) (seen : List TagNum)
    (dup : Bool) {k fuel : ℕ} (hk : 0 < k) (hrest : k ≤ (trailer digits ++ rest).length)
    (hfuel : k ≤ fuel) :
    ∃ err, parse_body fuel body_end ((trailer digits ++ rest).take k) msg seen dup =
      .error (.skip (if k < kTrailerBytes then body_end else body_end - k) err) := by
  have htrailer := length_trailer hlen
  have hlength : ((trailer digits ++ rest).take k).length = k := by
    rw [List.length_take, Nat.min_eq_left hrest]
  obtain ⟨fuel, rfl⟩ : ∃ j, fuel = j + 1 := ⟨fuel - 1, by omega⟩
  by_cases hcut : k < kTrailerBytes
  · -- a part of the field is no field, or the whole would be as short
    have htake : (trailer digits ++ rest).take k = (trailer digits).take k :=
      List.take_append_of_le_length (by omega)
    have hwhole : parse_field (trailer digits) = .Ok tags.CheckSum digits kTrailerBytes := by
      have hfield := parse_field_bytes (trailer_field digits hdig) []
      rw [List.append_nil, bytes_trailer_field, tag_trailer_field, htrailer] at hfield
      exact hfield
    have hinc : parse_field ((trailer digits).take k) = .Incomplete := by
      by_contra hne
      have hsame := parse_field_append ((trailer digits).drop k) hne
      rw [List.take_append_drop, hwhole] at hsame
      obtain ⟨f, more, hdata, -, -, hf⟩ := (parse_field_ok_iff _ _ _ _).1 hsame.symm
      rw [← htake] at hdata
      have := congrArg List.length hdata
      rw [hlength, List.length_append] at this
      omega
    refine ⟨.BadLength, ?_⟩
    rw [if_pos hcut]
    rcases hz : (trailer digits ++ rest).take k with _ | ⟨c, cs⟩
    · rw [hz, List.length_nil] at hlength
      omega
    · rw [parse_body, ← hz, htake, hinc]
  · refine ⟨.ParseError, ?_⟩
    have htake : (trailer digits ++ rest).take k =
        (trailer_field digits hdig).bytes ++ rest.take (k - kTrailerBytes) := by
      rw [List.take_append, List.take_of_length_le (by omega), bytes_trailer_field, htrailer]
    rw [if_neg hcut, htake, parse_body_cons, if_pos (tag_trailer_field hdig), ← htake, hlength]

theorem eq_of_digits_value {d e : Bytes} (hd : d.length = 3) (he : e.length = 3)
    (hdig : ∀ c ∈ d, is_digit c = true) (hdig' : ∀ c ∈ e, is_digit c = true)
    (h : digits_value d = digits_value e) : d = e := by
  obtain ⟨a, b, c, rfl⟩ := List.length_eq_three.mp hd
  obtain ⟨a', b', c', rfl⟩ := List.length_eq_three.mp he
  simp only [List.forall_mem_cons, is_digit_iff] at hdig hdig'
  simp only [digits_value, List.foldl_cons, List.foldl_nil, mul_zero, zero_add] at h
  rw [UInt8.toNat_inj.mp (show a.toNat = a'.toNat by omega),
    UInt8.toNat_inj.mp (show b.toNat = b'.toNat by omega),
    UInt8.toNat_inj.mp (show c.toNat = c'.toNat by omega)]

namespace FrameSegment

variable {opts : StreamParserOptions} {s : FrameSegment} {left : ℕ}

theorem InScope.checksum_digits (h : s.InScope opts left) :
    s.checksum.length = 3 ∧ ∀ c ∈ s.checksum, is_digit c = true := by
  cases s with
  | valid f => exact ⟨f.checksum_length, f.checksum_digits⟩
  | bad_checksum f digits => exact ⟨h.corruption.1, h.corruption.2.1⟩
  | raised_length f text => exact ⟨f.checksum_length, f.checksum_digits⟩

theorem InScope.length_bytes (h : s.InScope opts left) :
    s.bytes.length = s.header.length + (raw_bytes s.frame.fields).length + 7 := by
  rw [bytes, before_trailer, List.length_append, List.length_append,
    length_trailer h.checksum_digits.1, kTrailerBytes]

theorem InScope.exists_header (h : s.InScope opts left) (hfits : s.HeaderFits) :
    ∃ H : Header, H.bytes = s.header ∧ H.frame_end = s.claimed_end ∧
      H.begin_string = s.frame.begin_string ∧ H.claims = s.claims := by
  cases s with
  | valid f =>
    refine ⟨f.head, rfl, ?_, rfl, f.claims_head⟩
    rw [Header.frame_end, f.claims_head]
    rfl
  | bad_checksum f digits =>
    refine ⟨f.head, rfl, ?_, rfl, f.claims_head⟩
    rw [Header.frame_end, f.claims_head]
    rfl
  | raised_length f text =>
    obtain ⟨⟨hne, hdig, -⟩, -⟩ := h.corruption
    exact ⟨⟨f.begin_string, f.length_tag, text, f.begin_clean, f.begin_short, f.length_tag_digits,
      f.length_tag_value, hne, hdig, hfits⟩, rfl, rfl, rfl, rfl⟩

theorem InScope.limited (h : s.InScope opts left) :
    opts.max_msg_len = 0 ∨ s.claimed_end ≤ opts.max_msg_len := by
  cases s with
  | valid f =>
    have hlimit := h.valid_frame.accepted.2
    rw [Frame.length_bytes] at hlimit
    exact hlimit
  | bad_checksum f digits =>
    have hlimit := h.valid_frame.accepted.2
    rw [Frame.length_bytes] at hlimit
    exact hlimit
  | raised_length f text => exact h.corruption.2.1

theorem InScope.length_le_claimed_end (h : s.InScope opts left) :
    s.bytes.length ≤ s.claimed_end := by
  rw [h.length_bytes, claimed_end]
  cases s with
  | valid f => exact le_rfl
  | bad_checksum f digits => exact le_rfl
  | raised_length f text =>
    have hraised := h.corruption.1.2.2
    have hframe : (raised_length f text).frame = f := rfl
    have hclaims : (raised_length f text).claims = digits_value text := rfl
    rw [hframe, hclaims]
    omega

theorem scan_bad_checksum {f : Frame} {digits : Bytes}
    (h : (bad_checksum f digits).InScope opts left) (hval : opts.validate_checksum = true)
    {base : Bytes} (hbase : (bad_checksum f digits).bytes <+: base) :
    ∃ n err, parse_frame opts base f.begin_string f.header.length (raw_bytes f.fields).length
        (bad_checksum f digits).claimed_end = .error (.skip n err) ∧
      (bad_checksum f digits).before_trailer.length ≤ n ∧
      n ≤ (bad_checksum f digits).bytes.length := by
  obtain ⟨hlen, hdig, hne⟩ := h.corruption
  have hlength := h.length_bytes
  obtain ⟨rest, rfl⟩ := hbase
  have hbytes : (bad_checksum f digits).bytes ++ rest =
      f.header ++ (raw_bytes f.fields ++ (trailer digits ++ rest)) := by
    simp only [bytes, before_trailer, header, frame, checksum, List.append_assoc]
  have hdrop :
      ((bad_checksum f digits).bytes ++ rest).drop (f.header.length + (raw_bytes f.fields).length) =
      trailer digits ++ rest := by
    rw [hbytes, ← List.append_assoc, ← List.length_append, List.drop_left]
  have hbefore :
      ((bad_checksum f digits).bytes ++ rest).take (f.header.length + (raw_bytes f.fields).length) =
      f.before_trailer := by
    rw [hbytes, ← List.append_assoc, ← List.length_append, List.take_left, Frame.before_trailer]
  have hend :
      (bad_checksum f digits).claimed_end ≤ ((bad_checksum f digits).bytes ++ rest).length := by
    rw [List.length_append, hlength]
    exact Nat.le_add_right _ _
  have hbody : parse_body (raw_bytes f.fields).length
      (f.header.length + (raw_bytes f.fields).length)
      ((((bad_checksum f digits).bytes ++ rest).drop f.header.length).take
        (raw_bytes f.fields).length)
      (seed_message f.begin_string (raw_bytes f.fields).length) header_seen false =
        .ok ({ seed_message f.begin_string (raw_bytes f.fields).length with
          fields := (seed_message f.begin_string (raw_bytes f.fields).length).fields ++
            keep_first header_seen (f.fields.map RawField.field) },
          false || !(repeated header_seen (f.fields.map RawField.field)).isEmpty) := by
    rw [hbytes, List.drop_left, List.take_left]
    exact (parse_body_ok_iff _ _ _ _ _ _ le_rfl _ _).2
      ⟨f.fields, rfl, f.no_checksum, h.valid_frame.kept_clean, rfl, rfl⟩
  have hcut : (bad_checksum f digits).before_trailer.length =
      f.header.length + (raw_bytes f.fields).length :=
    List.length_append
  have hbytes_length : (bad_checksum f digits).bytes.length =
      f.header.length + (raw_bytes f.fields).length + 7 := hlength
  rw [parse_frame_eq opts hend f.begin_clean, hbody]
  dsimp only
  rw [parse_trailer_digits hdrop hlen hdig]
  by_cases hle : digits_value digits ≤ 255
  · have hwrong : compute_checksum f.before_trailer ≠ UInt8.ofNat (digits_value digits) := by
      have hsum : digits_value f.checksum = (f.before_trailer.map UInt8.toNat).sum % 256 :=
        h.valid_frame.accepted.1 hval
      rw [ne_eq, checksum_eq_iff hle, ← hsum]
      intro hsame
      exact hne (eq_of_digits_value hlen f.checksum_length hdig f.checksum_digits hsame)
    rw [if_pos hle, hbefore]
    dsimp only
    rw [if_pos ⟨hval, hwrong⟩]
    exact ⟨_, _, rfl, by omega, by omega⟩
  · rw [if_neg hle]
    exact ⟨_, _, rfl, by omega, by omega⟩

theorem scan_raised_length {f : Frame} {text : Bytes} (h : (raised_length f text).InScope opts left)
    {base : Bytes} (hbase : (raised_length f text).bytes <+: base)
    (hend : (raised_length f text).claimed_end ≤ base.length) :
    ∃ n err, parse_frame opts base f.begin_string (raised_length f text).header.length
      (digits_value text)
        (raised_length f text).claimed_end = .error (.skip n err) ∧
      (raised_length f text).before_trailer.length ≤ n ∧
      n ≤ (raised_length f text).bytes.length := by
  obtain ⟨⟨-, -, hraised⟩, -⟩ := h.corruption
  have hlength := h.length_bytes
  obtain ⟨rest, rfl⟩ := hbase
  have hbytes : (raised_length f text).bytes ++ rest =
      (raised_length f text).header ++ (raw_bytes f.fields ++ (trailer f.checksum ++ rest)) := by
    simp only [bytes, before_trailer, frame, checksum, List.append_assoc]
  obtain ⟨k, hk⟩ : ∃ k, digits_value text = (raw_bytes f.fields).length + k :=
    ⟨digits_value text - (raw_bytes f.fields).length, by omega⟩
  have hkpos : 0 < k := by omega
  -- the claimed body is the body and the first `k` bytes behind it
  have hslice :
      (((raised_length f text).bytes ++ rest).drop (raised_length f text).header.length).take
      (digits_value text) = raw_bytes f.fields ++ (trailer f.checksum ++ rest).take k := by
    rw [hbytes, List.drop_left, hk, List.take_append, List.take_of_length_le (Nat.le_add_right _ _),
      Nat.add_sub_cancel_left]
  have hrest : k ≤ (trailer f.checksum ++ rest).length := by
    have htotal := congrArg List.length hbytes
    have hclaims : (raised_length f text).claims = digits_value text := rfl
    rw [List.length_append, List.length_append, List.length_append] at htotal
    rw [claimed_end, hclaims, List.length_append] at hend
    omega
  have hcut : (raised_length f text).before_trailer.length =
      (raised_length f text).header.length + (raw_bytes f.fields).length := List.length_append
  have hbytes_length : (raised_length f text).bytes.length =
      (raised_length f text).header.length + (raw_bytes f.fields).length + 7 := hlength
  have hfuel :
      (raw_bytes f.fields ++ (trailer f.checksum ++ rest).take k).length ≤ digits_value text := by
    rw [List.length_append, List.length_take]
    omega
  rw [parse_frame_eq opts hend f.begin_clean, hslice]
  obtain ⟨fuel, msg, seen, dup, hfuel', hthrough⟩ := parse_body_through f.fields
    ((trailer f.checksum ++ rest).take k) ((raised_length f text).header.length + digits_value text)
    (seed_message f.begin_string (digits_value text)) header_seen false f.no_checksum
      h.valid_frame.clean hfuel
  rw [List.length_take, Nat.min_eq_left hrest] at hfuel'
  obtain ⟨err, hstop⟩ := parse_body_trailer f.checksum_length f.checksum_digits
    ((raised_length f text).header.length + digits_value text) msg seen dup hkpos hrest hfuel'
  rw [hthrough, hstop]
  refine ⟨_, _, rfl, ?_, ?_⟩
  · split
    · omega
    · omega
  · unfold kTrailerBytes
    split
    · omega
    · omega

/-- The messages that are due of a segment. -/
def due : FrameSegment → List Message
  | valid f => [f.message]
  | bad_checksum _ _ => []
  | raised_length _ _ => []

theorem InScope.claimed_end_le (h : s.InScope opts left) (hleft : s.bytes.length ≤ left) :
    s.claimed_end ≤ left := by
  rw [h.length_bytes] at hleft
  cases s with
  | valid f => exact hleft
  | bad_checksum f digits => exact hleft
  | raised_length f text => exact h.corruption.2.2

theorem InScope.claimed_end_lt (h : s.InScope opts left) (hleft : s.bytes.length ≤ left)
    (hsize : opts.max_msg_len = 0 → left < 2 ^ 64) : s.claimed_end < 2 ^ 64 := by
  rcases h.limited with hzero | hlimit
  · exact (h.claimed_end_le hleft).trans_lt (hsize hzero)
  · exact hlimit.trans_lt opts.max_msg_len_lt

theorem InScope.scan (h : s.InScope opts left) (hfits : s.HeaderFits)
    (hval : opts.validate_checksum = true) (hlt : s.claimed_end < 2 ^ 64) {rest : Bytes}
    (hend : s.claimed_end ≤ (s.bytes ++ rest).length)
    (hmin : kMinMsgLen ≤ (s.bytes ++ rest).length) :
    (∃ m, s.due = [m] ∧ scan_frame opts (s.bytes ++ rest) = .ok (m, s.bytes.length)) ∨
      s.due = [] ∧ ∃ n err, scan_frame opts (s.bytes ++ rest) = .error (.skip n err) ∧
        s.before_trailer.length ≤ n ∧ n ≤ s.bytes.length := by
  obtain ⟨H, hbytes, hframe_end, hbegin, hclaims⟩ := h.exists_header hfits
  have hheader : s.bytes ++ rest =
      H.bytes ++ (raw_bytes s.frame.fields ++ (trailer s.checksum ++ rest)) := by
    rw [hbytes, bytes, before_trailer, List.append_assoc, List.append_assoc]
  have hscan : scan_frame opts (s.bytes ++ rest) =
      parse_frame opts (s.bytes ++ rest) s.frame.begin_string s.header.length s.claims
        s.claimed_end := by
    rw [← hframe_end] at hlt
    have hlimit := h.limited
    rw [← hframe_end] at hlimit
    rw [← hbegin, ← hbytes, ← hclaims, ← hframe_end, hheader]
    exact H.scan_frame_eq _ hlt hlimit (hheader ▸ hmin)
  cases s with
  | valid f =>
    refine .inl ⟨f.message, rfl, ?_⟩
    rw [claimed_end] at hlt
    exact scan_frame_of_frame opts f rest hmin (f.length_bytes ▸ hlt) h.valid_frame.accepted
      h.valid_frame.kept_clean
  | bad_checksum f digits =>
    refine .inr ⟨rfl, ?_⟩
    rw [hscan]
    exact scan_bad_checksum h hval (List.prefix_append _ _)
  | raised_length f text =>
    refine .inr ⟨rfl, ?_⟩
    rw [hscan]
    exact scan_raised_length h (List.prefix_append _ _) hend

end FrameSegment

/-! ## What is left of a refused segment -/

/-- The end of a trailer, or nothing. -/
def Residue (r : Bytes) : Prop :=
  ∃ digits : Bytes, digits.length = 3 ∧ (∀ c ∈ digits, is_digit c = true) ∧ r <:+ trailer digits

namespace Residue

variable {opts : StreamParserOptions} {r : Bytes}

theorem nil : Residue [] := ⟨ascii "000", by decide, by decide +kernel, List.nil_suffix⟩

theorem drop (h : Residue r) (n : ℕ) : Residue (r.drop n) := by
  obtain ⟨digits, hlen, hdig, hsuffix⟩ := h
  exact ⟨digits, hlen, hdig, (List.drop_suffix n r).trans hsuffix⟩

theorem length_le (h : Residue r) : r.length ≤ 7 := by
  obtain ⟨digits, hlen, -, hsuffix⟩ := h
  exact hsuffix.length_le.trans (length_trailer hlen).le

theorem no_frame_start (h : Residue r) : find_frame_start r = none := by
  obtain ⟨digits, hlen, hdig, hsuffix⟩ := h
  have htrailer : find_frame_start (trailer digits) = none := by
    obtain ⟨a, b, c, rfl⟩ := List.length_eq_three.mp hlen
    have hne : ∀ d ∈ [a, b, c], d ≠ EQ := fun d hd heq => absurd (hdig d hd) (by rw [heq]; decide)
    simp only [List.forall_mem_cons] at hne
    have hbytes : trailer [a, b, c] = [49, 48, EQ, a, b, c, SOH] := rfl
    have hsoh : SOH ≠ EQ := by decide
    have hEQ : EQ ≠ 56 := by decide
    rw [hbytes]
    simp [find_frame_start, hne, hsoh, hEQ]
  rw [List.suffix_iff_eq_drop.mp hsuffix]
  exact find_frame_start_skip htrailer _

theorem take_two (h : Residue r) (hne : r ≠ []) (t : Bytes) : (r ++ t).take 2 ≠ ascii "8=" := by
  have hfind := h.no_frame_start
  obtain ⟨digits, -, -, hsuffix⟩ := h
  have h8 : ascii "8=" = [56, EQ] := rfl
  rw [h8]
  rcases r with _ | ⟨a, _ | ⟨b, r⟩⟩
  · exact absurd rfl hne
  · obtain ⟨before, hbefore⟩ := hsuffix
    have hlast : [a].getLast? = [SOH].getLast? := by
      have := congrArg List.getLast? hbefore
      rw [trailer, List.getLast?_append, List.getLast?_append] at this
      exact this
    obtain rfl : a = SOH := by simpa using hlast
    intro htake
    rw [List.singleton_append, List.take_succ_cons, List.cons.injEq] at htake
    exact absurd htake.1 (by decide)
  · intro htake
    rw [List.cons_append, List.cons_append, List.take_succ_cons, List.take_succ_cons,
      List.take_zero, List.cons.injEq, List.cons.injEq] at htake
    rw [find_frame_start, if_pos ⟨htake.1, htake.2.1⟩] at hfind
    simp at hfind

/-- **The resync stops at the next segment at the latest**, and there if its start is buffered. -/
theorem resync_stops (h : Residue r) {t y : Bytes} (hy : y <+: r ++ t)
    (ht : t = [] ∨ (∃ u, t = 56 :: EQ :: u) ∧
    (opts.max_msg_len = 0 ∨ kMinMsgLen ≤ opts.max_msg_len)) :
    resync_len opts y ≤ r.length ∧ (r.length + 2 ≤ y.length → resync_len opts y = r.length) := by
  have hshort := h.length_le
  have hlen := hy.length_le
  rw [List.prefix_iff_eq_take] at hy
  rw [resync_len]
  dsimp only
  by_cases h2 : y.length < 2
  · rw [if_pos h2]
    omega
  rw [if_neg h2]
  set window :=
    if opts.max_msg_len > 0 then min y.length opts.max_msg_len else y.length with hwindow
  have hle : window ≤ y.length := by
    rw [hwindow]
    split <;> omega
  have htake : y.take window = (r ++ t).take window := by
    rw [hy, List.take_take, Nat.min_eq_left hle]
  rw [htake]
  rcases ht with rfl | ⟨⟨u, rfl⟩, hmax⟩
  · rw [List.append_nil] at hlen ⊢
    rw [find_frame_start_take h.no_frame_start, Option.getD_none]
    unfold kKeepTail
    omega
  · rw [find_frame_start_behind h.no_frame_start]
    by_cases hfound : r.length + 2 ≤ window
    · rw [if_pos hfound, Option.getD_some]
      exact ⟨le_rfl, fun _ => rfl⟩
    · -- the window is all that is buffered
      have hall : window = y.length := by
        by_cases hpos : opts.max_msg_len > 0
        · have hmin : window = min y.length opts.max_msg_len := if_pos hpos
          unfold kMinMsgLen at hmax
          omega
        · exact if_neg hpos
      rw [if_neg hfound, Option.getD_none]
      unfold kKeepTail
      omega

end Residue

/-! ## The plan of a stream -/

/-- A list of segments on the wire. -/
def wire (segs : List FrameSegment) : Bytes := segs.flatMap FrameSegment.bytes

theorem wire_cons (s : FrameSegment) (segs : List FrameSegment) :
    wire (s :: segs) = s.bytes ++ wire segs := rfl

/-- Every segment is in scope where it stands in the stream. -/
def InScope (opts : StreamParserOptions) : List FrameSegment → Prop
  | [] => True
  | s :: segs => s.InScope opts (wire (s :: segs)).length ∧ InScope opts segs

/-- The valid segments. -/
def valid_frames (segs : List FrameSegment) : List Frame :=
  segs.filterMap fun s =>
    match s with
    | .valid f => some f
    | _ => none

/-- The buffer can hold every segment that is valid or stands before a valid one. -/
def WithinCap (opts : StreamParserOptions) : List FrameSegment → Prop
  | [] => True
  | s :: segs => (valid_frames (s :: segs) ≠ [] → s.reach ≤ opts.buf_cap) ∧ WithinCap opts segs

/-- The messages that are due of a stream, which may begin with what is left of a segment that was
refused. `Q` is what is known of the segments ahead. -/
def Plan (opts : StreamParserOptions) (Q : List FrameSegment → Prop) (ahead : Bytes)
    (due : List Message) : Prop :=
  ∃ r segs, ahead = r ++ wire segs ∧ Residue r ∧ InScope opts segs ∧ (∀ s ∈ segs, s.HeaderFits) ∧
    (opts.max_msg_len = 0 → (wire segs).length < 2 ^ 64) ∧ Q segs ∧
    due = segs.flatMap FrameSegment.due

theorem flatMap_due (segs : List FrameSegment) :
    segs.flatMap FrameSegment.due = (valid_frames segs).map Frame.message := by
  induction segs with
  | nil => rfl
  | cons s segs ih =>
    rw [List.flatMap_cons, ih]
    cases s with
    | valid f => rfl
    | bad_checksum f digits => rfl
    | raised_length f text => rfl

section Plan

variable {opts : StreamParserOptions} {segs : List FrameSegment} {Q : List FrameSegment → Prop}

theorem wire_start (h : InScope opts segs) :
    wire segs = [] ∨ (∃ u, wire segs = 56 :: EQ :: u) ∧
      (opts.max_msg_len = 0 ∨ kMinMsgLen ≤ opts.max_msg_len) := by
  rcases segs with _ | ⟨s, segs⟩
  · exact .inl rfl
  · refine .inr ⟨?_, ?_⟩
    · cases s with
      | valid f => exact ⟨_, rfl⟩
      | bad_checksum f digits => exact ⟨_, rfl⟩
      | raised_length f text => exact ⟨_, rfl⟩
    · exact h.1.valid_frame.accepted.2.imp id h.1.valid_frame.long_enough.trans

theorem length_wire (h : InScope opts segs) (hne : segs ≠ []) :
    kMinMsgLen ≤ (wire segs).length := by
  induction segs with
  | nil => exact absurd rfl hne
  | cons s segs ih =>
    have hlong := h.1.valid_frame.long_enough
    have hlength := h.1.length_bytes
    rw [Frame.length_bytes] at hlong
    rw [wire_cons, List.length_append]
    cases s with
    | valid f => exact (hlong.trans hlength.ge).trans (Nat.le_add_right _ _)
    | bad_checksum f digits => exact (hlong.trans hlength.ge).trans (Nat.le_add_right _ _)
    | raised_length f text =>
      obtain ⟨⟨-, -, hraised⟩, -, hinside⟩ := h.1.corruption
      have hmore : segs ≠ [] := by
        rintro rfl
        have hclaims : (FrameSegment.raised_length f text).claims = digits_value text := rfl
        have hframe : (FrameSegment.raised_length f text).frame = f := rfl
        rw [FrameSegment.claimed_end, hclaims, wire_cons, List.length_append, hlength,
          hframe] at hinside
        have hnil : (wire []).length = 0 := rfl
        omega
      exact (ih h.2 hmore).trans (Nat.le_add_left _ _)

theorem FrameSegment.before_trailer_pos (s : FrameSegment) : 0 < s.before_trailer.length := by
  cases s with
  | valid f => exact Nat.succ_pos _
  | bad_checksum f digits => exact Nat.succ_pos _
  | raised_length f text => exact Nat.succ_pos _

theorem FrameSegment.InScope.residue {s : FrameSegment} {left n : ℕ} (h : s.InScope opts left)
    (hn : s.before_trailer.length ≤ n) : Residue (s.bytes.drop n) := by
  obtain ⟨hlen, hdig⟩ := h.checksum_digits
  refine ⟨s.checksum, hlen, hdig, ?_⟩
  rw [FrameSegment.bytes, List.drop_append, List.drop_of_length_le hn, List.nil_append]
  exact List.drop_suffix _ _

/-- **A segment of which the claimed end is buffered is decided**: what is due of it is delivered,
and the plan goes on behind it. -/
theorem Plan.segment {s : FrameSegment} {x : Bytes} (h : InScope opts (s :: segs))
    (hfits : ∀ g ∈ s :: segs, g.HeaderFits) (hval : opts.validate_checksum = true)
    (hsize : opts.max_msg_len = 0 → (wire (s :: segs)).length < 2 ^ 64)
    (hx : x <+: wire (s :: segs)) (hlong : s.reach ≤ x.length) :
    ∃ n, parse_step opts x = some (s.due, n) ∧
      (Q segs → Plan opts Q ((wire (s :: segs)).drop n) (segs.flatMap FrameSegment.due)) := by
  have htotal : (wire (s :: segs)).length = s.bytes.length + (wire segs).length :=
    List.length_append
  have hlt := h.1.claimed_end_lt (by omega) hsize
  have hlen : s.bytes.length ≤ s.reach := h.1.length_le_claimed_end.trans (Nat.le_max_left _ _)
  have hfits' : ∀ g ∈ segs, g.HeaderFits := fun g hg => hfits g (List.mem_cons_of_mem _ hg)
  have hsize' : opts.max_msg_len = 0 → (wire segs).length < 2 ^ 64 := by
    intro hzero
    have := hsize hzero
    omega
  obtain ⟨x', rfl⟩ :=
    List.prefix_of_prefix_length_le (List.prefix_append s.bytes (wire segs)) hx (by omega)
  have hx' : x' <+: wire segs := (List.prefix_append_right_inj s.bytes).mp hx
  have hend : s.claimed_end ≤ (s.bytes ++ x').length := (Nat.le_max_left _ _).trans hlong
  have hmin : kMinMsgLen ≤ (s.bytes ++ x').length := (Nat.le_max_right _ _).trans hlong
  rcases h.1.scan (hfits s List.mem_cons_self) hval hlt hend hmin with
    ⟨m, hdue, hscan⟩ | ⟨hdue, n, err, hscan, hlo, hhi⟩
  · refine ⟨s.bytes.length, ?_, fun hQ => ⟨[], segs, ?_, Residue.nil, h.2, hfits', hsize', hQ, rfl⟩⟩
    · rw [parse_step, hscan, hdue]
    · rw [wire_cons, List.drop_left, List.nil_append]
  · have hpos := s.before_trailer_pos
    have hskip : min (max n 1) (s.bytes ++ x').length = n := by
      rw [List.length_append]
      omega
    have hdrop : ∀ t : Bytes, (s.bytes ++ t).drop n = s.bytes.drop n ++ t :=
      fun t => List.drop_append_of_le_length hhi
    have hresidue := h.1.residue hlo
    have hresync :=
      (hresidue.resync_stops ((List.prefix_append_right_inj _).mpr hx') (wire_start h.2)).1
    refine ⟨n + resync_len opts (s.bytes.drop n ++ x'), ?_,
      fun hQ => ⟨(s.bytes.drop n).drop (resync_len opts (s.bytes.drop n ++ x')), segs, ?_,
      hresidue.drop _,
        h.2, hfits', hsize', hQ, rfl⟩⟩
    · rw [parse_step, hscan, hdue]
      dsimp only
      rw [hskip, hdrop]
    · rw [wire_cons, ← List.drop_drop, hdrop, List.drop_append_of_le_length hresync]

theorem Residue.resynced {r t y : Bytes} (h : Residue r) (hne : r ≠ []) (hy : y <+: r ++ t)
    (h2 : 2 ≤ y.length) :
    parse_step opts y = if resync_len opts y > 0 then some ([], resync_len opts y) else none := by
  have h8 : y.take 2 ≠ ascii "8=" := by
    obtain ⟨e, he⟩ := hy
    rw [← List.take_append_of_le_length h2, he]
    exact h.take_two hne t
  rw [parse_step, scan_frame_resync_iff.2 ⟨h2, h8⟩]

theorem lt_reach_of_waits {s : FrameSegment} {x : Bytes} (h : InScope opts (s :: segs))
    (hfits : ∀ g ∈ s :: segs, g.HeaderFits) (hval : opts.validate_checksum = true)
    (hsize : opts.max_msg_len = 0 → (wire (s :: segs)).length < 2 ^ 64)
    (hx : x <+: wire (s :: segs)) (hwaits : parse_step opts x = none) : x.length < s.reach := by
  by_contra hlong
  obtain ⟨n, hn, -⟩ := Plan.segment (Q := fun _ => True) h hfits hval hsize hx (Nat.not_lt.mp hlong)
  rw [hn] at hwaits
  simp at hwaits

theorem Residue.short_of_waits {r t y : Bytes} (h : Residue r) (hne : r ≠ []) (hy : y <+: r ++ t)
    (hwaits : parse_step opts y = none) : y.length ≤ kKeepTail := by
  by_cases h2 : 2 ≤ y.length
  · rw [h.resynced hne hy h2] at hwaits
    have hzero : resync_len opts y = 0 := by
      by_contra hpos
      rw [if_pos (Nat.pos_of_ne_zero hpos)] at hwaits
      simp at hwaits
    refine length_le_of_resync_len_eq_zero ?_ hzero
    obtain ⟨e, he⟩ := hy
    rw [← List.take_append_of_le_length h2, he]
    exact h.take_two hne t
  · unfold kKeepTail
    omega

/-- **The parser keeps to the plan**, whatever part of the stream it sees. What is known of the
segments ahead has to be known behind one that was decided in the buffer. -/
theorem follows_plan (hval : opts.validate_checksum = true)
    (hQ : ∀ {s segs}, Q (s :: segs) → opts.buf_cap = 0 ∨ s.reach ≤ opts.buf_cap → Q segs) :
    Follows (buffered_step opts) (Plan opts Q) := by
  rintro _ x _ o n ⟨r, segs, rfl, hr, hscope, hfits, hsize, hq, rfl⟩ hx hbuffered
  obtain ⟨hstep, hroom⟩ := parse_step_of_buffered hbuffered
  by_cases hnil : r = []
  · subst hnil
    rw [List.nil_append] at hx ⊢
    rcases segs with _ | ⟨s, segs⟩
    · -- the end of the stream
      rw [List.prefix_nil.mp hx, parse_step_nil] at hstep
      simp at hstep
    · have hlong : s.reach ≤ x.length := by
        by_contra hshort
        obtain ⟨H, hbytes, hframe_end, -, -⟩ := hscope.1.exists_header (hfits s List.mem_cons_self)
        have hleft : s.bytes.length ≤ (wire (s :: segs)).length := by
          rw [wire_cons, List.length_append]
          exact Nat.le_add_right _ _
        have hlt := hscope.1.claimed_end_lt hleft hsize
        have hlimit := hscope.1.limited
        rw [FrameSegment.reach, ← hframe_end] at hshort
        rw [← hframe_end] at hlt hlimit
        rw [wire_cons, FrameSegment.bytes, FrameSegment.before_trailer, ← hbytes, List.append_assoc,
          List.append_assoc] at hx
        rw [H.waits hx hlt hlimit (by omega)] at hstep
        simp at hstep
      obtain ⟨k, hk, hplan⟩ := Plan.segment hscope hfits hval hsize hx hlong
      rw [hk] at hstep
      obtain ⟨rfl, rfl⟩ := Prod.mk.inj (Option.some.inj hstep)
      exact ⟨_, List.flatMap_cons, hplan (hQ hq (hroom.imp id hlong.trans))⟩
  · -- the resync stops within what is left, or at the next segment
    have h2 : 2 ≤ x.length := by
      by_contra hshort
      have hscan : scan_frame opts x = .error (.need_more none) := by
        rw [scan_frame, if_pos (by omega)]
        rfl
      rw [parse_step, hscan] at hstep
      simp at hstep
    have hle := (hr.resync_stops hx (wire_start hscope)).1
    rw [hr.resynced hnil hx h2] at hstep
    split at hstep
    · obtain ⟨rfl, rfl⟩ := Prod.mk.inj (Option.some.inj hstep)
      refine ⟨_, rfl, r.drop (resync_len opts x), segs, ?_, hr.drop _, hscope, hfits,
        hsize, hq, rfl⟩
      rw [List.drop_append_of_le_length hle]
    · simp at hstep

theorem Plan.due_of_waits {ahead : Bytes} {due : List Message}
    (hval : opts.validate_checksum = true) (h : Plan opts Q ahead due)
    (hwaits : parse_step opts ahead = none) : due = [] := by
  obtain ⟨r, segs, rfl, hr, hscope, hfits, hsize, -, rfl⟩ := h
  rcases segs with _ | ⟨s, segs⟩
  · rfl
  have hlong := length_wire hscope (List.cons_ne_nil _ _)
  by_cases hnil : r = []
  · subst hnil
    have hend : s.claimed_end ≤ (wire (s :: segs)).length := by
      apply hscope.1.claimed_end_le
      rw [wire_cons, List.length_append]
      exact Nat.le_add_right _ _
    have hlt := lt_reach_of_waits hscope hfits hval hsize List.prefix_rfl hwaits
    exact absurd (Nat.max_le.mpr ⟨hend, hlong⟩) (Nat.not_le.mpr hlt)
  · have hshort := hr.short_of_waits hnil List.prefix_rfl hwaits
    rw [List.length_append] at hshort
    unfold kKeepTail at hshort
    unfold kMinMsgLen at hlong
    omega

theorem Plan.due_of_full {ahead x : Bytes} {due : List Message}
    (hval : opts.validate_checksum = true) (h : Plan opts (WithinCap opts) ahead due)
    (hx : x <+: ahead) (hfull : opts.buf_cap ≤ x.length) (hwaits : parse_step opts x = none) :
    due = [] := by
  obtain ⟨r, segs, rfl, hr, hscope, hfits, hsize, hwithin, rfl⟩ := h
  rcases segs with _ | ⟨s, segs⟩
  · rfl
  rw [flatMap_due]
  by_contra hdue
  have hreach : s.reach ≤ opts.buf_cap := hwithin.1 fun hnone => hdue (by rw [hnone]; rfl)
  by_cases hnil : r = []
  · subst hnil
    have hlt := lt_reach_of_waits hscope hfits hval hsize hx hwaits
    omega
  · have hshort := hr.short_of_waits hnil hx hwaits
    have hmin : kMinMsgLen ≤ s.reach := Nat.le_max_right _ _
    unfold kKeepTail at hshort
    unfold kMinMsgLen at hmin
    omega

end Plan

/-! ## Delivery -/

section Delivery

variable {opts : StreamParserOptions} {segs : List FrameSegment} {ops : List ParserOp}

/-- **The stream follows its plan**, if the condition `Q` holds of it. -/
theorem plan_wire {Q : List FrameSegment → Prop} (hscope : InScope opts segs)
    (hfits : ∀ s ∈ segs, s.HeaderFits) (hsize : opts.buf_cap = 0 → (wire segs).length < 2 ^ 64)
    (hq : Q segs) : Plan opts Q (wire segs) ((valid_frames segs).map Frame.message) := by
  refine ⟨[], segs, rfl, Residue.nil, hscope, hfits, fun hzero => hsize ?_, hq,
    (flatMap_due segs).symm⟩
  rw [StreamParserOptions.buf_cap, hzero]
  rfl

/-- **The valid segments are delivered** where there is no cap. -/
theorem delivered_of_uncapped (hval : opts.validate_checksum = true) (hscope : InScope opts segs)
    (hfits : ∀ s ∈ segs, s.HeaderFits) (hzero : opts.buf_cap = 0)
    (hsize : (wire segs).length < 2 ^ 64) (hops : stream ops = wire segs) :
    (parse_all opts ops).2 = (valid_frames segs).map Frame.message := by
  have hplan := plan_wire (Q := fun _ => True) hscope hfits (fun _ => hsize) trivial
  rw [← hops] at hplan hsize
  have hrest := at_rest_run ops (.inr ⟨hzero, hsize⟩)
  obtain ⟨later, hdue, hlater⟩ :=
    hrest.decisions.follows (follows_plan hval fun _ _ => trivial) hplan
  rw [parse_all_got, hdue, hlater.due_of_waits hval (hrest.unread ▸ hrest.waits), List.append_nil]

/-- **They are delivered under a cap** that holds every segment up to the last of them. -/
theorem delivered_of_within (hval : opts.validate_checksum = true) (hscope : InScope opts segs)
    (hfits : ∀ s ∈ segs, s.HeaderFits) (hcap : opts.buf_cap ≠ 0) (hwithin : WithinCap opts segs)
    (hops : stream ops = wire segs) :
    (parse_all opts ops).2 = (valid_frames segs).map Frame.message := by
  have hplan := plan_wire hscope hfits (fun hzero => absurd hzero hcap) hwithin
  have hfollows : Follows (buffered_step opts) (Plan opts (WithinCap opts)) :=
    follows_plan hval fun hq _ => hq.2
  rw [← hops] at hplan
  rw [parse_all_got]
  rcases standing_run ops fun hzero => absurd hzero hcap with hrest | hstuck
  · obtain ⟨later, hdue, hlater⟩ := hrest.decisions.follows hfollows hplan
    rw [hdue, hlater.due_of_waits hval (hrest.unread ▸ hrest.waits), List.append_nil]
  · obtain ⟨c, x, hconsumes, hx, -, hfull, hwaits⟩ := hstuck.waits
    obtain ⟨later, hdue, hlater⟩ := hconsumes.follows hfollows hplan
    rw [hdue, hlater.due_of_full hval hx hfull hwaits, List.append_nil]

theorem withinCap_of_no_valid (h : valid_frames segs = []) : WithinCap opts segs := by
  induction segs with
  | nil => trivial
  | cons s segs ih =>
    refine ⟨fun hsome => absurd h hsome, ih ?_⟩
    cases s with
    | valid f => exact absurd h (List.cons_ne_nil _ _)
    | bad_checksum f digits => exact h
    | raised_length f text => exact h

/-- **One is lost if a segment before it, or itself, is beyond the cap**, however the stream is
cut. -/
theorem lost_of_beyond (hval : opts.validate_checksum = true) (hscope : InScope opts segs)
    (hfits : ∀ s ∈ segs, s.HeaderFits) (hcap : opts.buf_cap ≠ 0) (hbeyond : ¬WithinCap opts segs)
    (hops : stream ops = wire segs) :
    (parse_all opts ops).2.length < (valid_frames segs).length := by
  have hplan := plan_wire (Q := fun segs => ¬WithinCap opts segs) hscope hfits
    (fun hzero => absurd hzero hcap) hbeyond
  -- what is beyond the cap is never decided, and stays ahead
  have hfollows : Follows (buffered_step opts) (Plan opts fun segs => ¬WithinCap opts segs) := by
    refine follows_plan hval ?_
    intro s segs hq hroom hwithin
    exact hq ⟨fun _ => hroom.resolve_left hcap, hwithin⟩
  have hsome : ∃ c, Consumes (buffered_step opts) (stream ops) c (parse_all opts ops).2 := by
    rw [parse_all_got]
    rcases standing_run ops fun hzero => absurd hzero hcap with hrest | hstuck
    · exact ⟨_, hrest.decisions⟩
    · obtain ⟨c, x, hconsumes, -⟩ := hstuck.waits
      exact ⟨c, hconsumes⟩
  obtain ⟨c, hconsumes⟩ := hsome
  rw [← hops] at hplan
  obtain ⟨later, hdue, r, ahead, -, -, -, -, -, hahead, rfl⟩ := hconsumes.follows hfollows hplan
  have hlater : valid_frames ahead ≠ [] := fun hnone => hahead (withinCap_of_no_valid hnone)
  have hcount := congrArg List.length hdue
  rw [List.length_map, List.length_append, flatMap_due, List.length_map] at hcount
  have hpos := List.length_pos_of_ne_nil hlater
  omega

theorem withinCap_of_le (hle : opts.max_msg_len ≤ opts.buf_cap) (hcap : opts.buf_cap ≠ 0)
    (hscope : InScope opts segs) : WithinCap opts segs := by
  have hpos : opts.max_msg_len ≠ 0 := by
    intro hzero
    rw [StreamParserOptions.buf_cap, hzero] at hcap
    exact hcap rfl
  induction segs with
  | nil => trivial
  | cons s segs ih =>
    refine ⟨fun _ => ?_, ih hscope.2⟩
    have hlimited := hscope.1.limited.resolve_left hpos
    have hmin := hscope.1.valid_frame.accepted.2.resolve_left hpos
    have hlong := hscope.1.valid_frame.long_enough
    exact (Nat.max_le.mpr ⟨hlimited, hlong.trans hmin⟩).trans hle

end Delivery

/-- The delivered messages are the valid segments, each once and in order, however the stream is
cut. -/
def DeliversValid (opts : StreamParserOptions) (segs : List FrameSegment) : Prop :=
  ∀ ops, stream ops = wire segs →
    (parse_all opts ops).2.map Message.raw = (valid_frames segs).map Frame.bytes

theorem exists_long_frame {opts : StreamParserOptions} (hmax : 2 ^ 33 ≤ opts.max_msg_len) :
    ∃ f : Frame, ValidFrame opts f ∧ 5000 < f.bytes.length ∧ f.bytes.length < 2 ^ 33 := by
  have hclean : clean (List.replicate 5000 65) = true :=
    clean_replicate (by decide) (by decide) 5000
  have hrep : (List.replicate 5000 (65 : UInt8)).length = 5000 := List.length_replicate
  obtain ⟨w, hser, hlo, hhi⟩ := text_order_serialized _ hclean (by omega)
  obtain ⟨hbegin, hfields, hw⟩ := try_serialize_ok hser
  have hlen := length_build (ascii "FIX.4.2")
    (encode_fields (emitted_fields (text_order (List.replicate 5000 65)) 1 (ascii "A") (ascii "B")
      (ascii "t")))
  rw [← hw] at hlen
  obtain ⟨f, hbytes, -, hmap, -, hsum⟩ := exists_frame _ _ hbegin (by decide) hfields
    (emitted_tag_ne_checksum _ _ _ _ _) (by omega)
  rw [← hw] at hbytes
  refine ⟨f, ⟨⟨fun _ => hsum, .inr ?_⟩, ?_, ?_⟩, ?_, ?_⟩
  · rw [hbytes]
    omega
  · rw [hbytes]
    unfold kMinMsgLen
    omega
  · intro g hg
    have hmem : g.field ∈ f.fields.map RawField.field := List.mem_map_of_mem hg
    rw [hmap] at hmem
    exact (clean_iff.1 (hfields _ hmem)).1
  · rw [hbytes]
    omega
  · rw [hbytes]
    exact hhi

/-- **A stream is delivered exactly if its segments are within the cap.** -/
theorem deliversValid_iff {opts : StreamParserOptions} (hval : opts.validate_checksum = true)
    {segs : List FrameSegment} (hscope : InScope opts segs) (hfits : ∀ s ∈ segs, s.HeaderFits)
    (hsize : opts.buf_cap = 0 → (wire segs).length < 2 ^ 64) :
    DeliversValid opts segs ↔ opts.buf_cap = 0 ∨ WithinCap opts segs := by
  constructor
  · intro h
    by_contra hnot
    push Not at hnot
    have hops : stream [.feed (wire segs)] = wire segs := List.append_nil _
    have hlost := lost_of_beyond hval hscope hfits hnot.1 hnot.2 hops
    have hcount := congrArg List.length (h _ hops)
    rw [List.length_map, List.length_map] at hcount
    omega
  · intro h ops hops
    have hdelivered : (parse_all opts ops).2 = (valid_frames segs).map Frame.message := by
      by_cases hzero : opts.buf_cap = 0
      · exact delivered_of_uncapped hval hscope hfits hzero (hsize hzero) hops
      · exact delivered_of_within hval hscope hfits hzero (h.resolve_left hzero) hops
    rw [hdelivered, List.map_map]
    rfl

theorem not_deliversValid_of_long {opts : StreamParserOptions}
    (hval : opts.validate_checksum = true) {f : Frame} (hf : ValidFrame opts f)
    (hcap : opts.buf_cap ≠ 0) (hlong : opts.buf_cap < f.bytes.length) :
    ¬DeliversValid opts [.valid f] := by
  have hscope : InScope opts [.valid f] := ⟨⟨hf, trivial⟩, trivial⟩
  have hfits : ∀ s ∈ [FrameSegment.valid f], s.HeaderFits := by
    intro s hs
    rw [List.mem_singleton.mp hs]
    trivial
  rw [deliversValid_iff hval hscope hfits fun hzero => absurd hzero hcap]
  rintro (hzero | hwithin)
  · exact hcap hzero
  · have hreach : (FrameSegment.valid f).reach ≤ opts.buf_cap := hwithin.1 (List.cons_ne_nil _ _)
    have hend := hscope.1.length_le_claimed_end.trans (Nat.le_max_left _ kMinMsgLen)
    exact absurd (hend.trans hreach) (Nat.not_le.mpr hlong)

/-- **Corrupt frames do not take their neighbours with them**, unless the cap has wrapped. For a
parser that checks checksums the valid segments of a stream are delivered, however it is cut,
exactly if there is no backlog cap, or all segments up to the last valid one are within it; and
those of every stream exactly if there is none or it is not below `max_msg_len`. A raised
BodyLength counts if its field can still be read, and a stream kept whole in one buffer has a
length of a buffer. -/
theorem neighbours_delivered_iff {opts : StreamParserOptions}
    (hval : opts.validate_checksum = true) :
    (∀ segs, InScope opts segs → (∀ s ∈ segs, s.HeaderFits) →
      (opts.buf_cap = 0 → (wire segs).length < 2 ^ 64) →
      (DeliversValid opts segs ↔ opts.buf_cap = 0 ∨ WithinCap opts segs)) ∧
    ((∀ segs, InScope opts segs → (∀ s ∈ segs, s.HeaderFits) →
      (opts.buf_cap = 0 → (wire segs).length < 2 ^ 64) → DeliversValid opts segs) ↔
      (opts.buf_cap = 0 ∨ opts.max_msg_len ≤ opts.buf_cap)) := by
  refine ⟨fun segs => deliversValid_iff hval, fun hall => ?_,
    fun hcap segs hscope hfits hsize => ?_⟩
  · by_contra hnot
    push Not at hnot
    obtain ⟨hcap, hlt⟩ := hnot
    have hwraps : ¬Capped opts := by
      intro hc
      rw [hc.buf_cap_eq] at hlt
      omega
    obtain ⟨hsmall, hmax⟩ := wrapped_of_not_capped hcap hwraps
    unfold kBacklogSlack at hsmall
    obtain ⟨f, hf, hlong, -⟩ := exists_long_frame hmax
    refine not_deliversValid_of_long hval hf hcap (by omega) ?_
    refine hall [.valid f] ⟨⟨hf, trivial⟩, trivial⟩ ?_ (fun hzero => absurd hzero hcap)
    rintro s hs
    rw [List.mem_singleton.mp hs]
    trivial
  · refine (deliversValid_iff hval hscope hfits hsize).mpr ?_
    by_cases hzero : opts.buf_cap = 0
    · exact .inl hzero
    · exact .inr (withinCap_of_le (hcap.resolve_left hzero) hzero hscope)

/-- A Heartbeat. -/
def heartbeat : Frame where
  begin_string := ascii "FIX.4.2"
  length_tag := ascii "9"
  length_text := ascii "5"
  fields := [⟨ascii "35", ascii "0", by decide, by decide +kernel, by decide +kernel, by decide⟩]
  checksum := ascii "161"
  begin_clean := by decide
  begin_short := by decide
  length_tag_digits := by decide +kernel
  length_tag_value := by decide
  length_text_ne := by decide
  length_text_digits := by decide +kernel
  length_text_value := by decide
  length_short := by decide
  no_checksum := by decide
  checksum_length := by decide
  checksum_digits := by decide +kernel
  checksum_le := by decide

theorem valid_heartbeat : ValidFrame {} heartbeat :=
  ⟨⟨fun _ => by decide, .inr (by decide)⟩, by decide, by decide⟩

/-- A Heartbeat with a wrong checksum, one that claims seven bytes of the next, and a valid one. -/
def corrupted_heartbeats : List FrameSegment :=
  [.bad_checksum heartbeat (ascii "999"), .raised_length heartbeat (ascii "12"), .valid heartbeat]

/-- The Heartbeat behind the two corrupted ones is delivered. -/
theorem neighbours_delivered_heartbeats :
    InScope {} corrupted_heartbeats ∧ (∀ s ∈ corrupted_heartbeats, s.HeaderFits) ∧
      DeliversValid {} corrupted_heartbeats := by
  have hscope : InScope {} corrupted_heartbeats :=
    ⟨⟨valid_heartbeat, by decide, by decide +kernel, by decide⟩,
      ⟨valid_heartbeat, ⟨by decide, by decide +kernel, by decide⟩, .inr (by decide), by decide⟩,
      ⟨valid_heartbeat, trivial⟩, trivial⟩
  have hfits : ∀ s ∈ corrupted_heartbeats, s.HeaderFits := by
    have hfield : (ascii "9").length + (ascii "12").length + 2 ≤ kMaxHeaderScan := by decide
    simp only [corrupted_heartbeats, List.forall_mem_cons]
    exact ⟨trivial, hfield, trivial, by simp⟩
  exact ⟨hscope, hfits, (neighbours_delivered_iff rfl).2.mpr (.inr (by decide)) _ hscope hfits
    (by decide)⟩

/-- A frame with zeros in front of the tag of its BodyLength, so that the field has 64 bytes, and a
Heartbeat in its body. The checksum is that of both. -/
def padded_frame : Frame where
  begin_string := ascii "FIX.4.2"
  length_tag := List.replicate 59 48 ++ ascii "9"
  length_text := ascii "99"
  fields := [
    ⟨ascii "1", List.replicate 77 67 ++ ascii "S8=FIX.4.2", by decide, by decide +kernel,
      by decide +kernel,
      by decide⟩,
    ⟨ascii "9", ascii "5", by decide, by decide +kernel, by decide +kernel, by decide⟩,
    ⟨ascii "35", ascii "0", by decide, by decide +kernel, by decide +kernel, by decide⟩]
  checksum := ascii "161"
  begin_clean := by decide
  begin_short := by decide
  length_tag_digits := by decide +kernel
  length_tag_value := by decide
  length_text_ne := by decide
  length_text_digits := by decide +kernel
  length_text_value := by decide
  length_short := by decide
  no_checksum := by decide
  checksum_length := by decide
  checksum_digits := by decide +kernel
  checksum_le := by decide

theorem valid_padded_frame : ValidFrame {} padded_frame :=
  ⟨⟨fun _ => by decide +kernel, .inr (by decide +kernel)⟩, by decide +kernel, by decide +kernel⟩

/-- The frame with its BodyLength raised from 99 to 100, before a Heartbeat. -/
def padded_stream : List FrameSegment :=
  [.raised_length padded_frame (ascii "100"), .valid heartbeat]

theorem inScope_padded_stream : InScope {} padded_stream :=
  ⟨⟨valid_padded_frame, ⟨by decide, by decide +kernel, by decide +kernel⟩, .inr (by decide +kernel),
    by decide +kernel⟩, ⟨valid_heartbeat, trivial⟩, trivial⟩

theorem parse_padded_stream :
    (parse_all {} [.feed (wire padded_stream)]).2.map Message.raw =
    [heartbeat.bytes, heartbeat.bytes] := by
  decide +kernel

/-- The number of bytes of a BodyLength field that was raised. -/
def FrameSegment.raised_field : FrameSegment → ℕ
  | .raised_length f text => f.length_tag.length + text.length + 2
  | _ => 0

/-- **64 bytes are the most that a raised field may have**, under the default options. -/
theorem delivers_raised_fields_iff (k : ℕ) :
    (∀ segs, InScope {} segs → (∀ s ∈ segs, s.raised_field ≤ k) → DeliversValid {} segs) ↔
      k ≤ kMaxHeaderScan := by
  constructor
  · intro hall
    by_contra hmore
    have hfields : ∀ s ∈ padded_stream, s.raised_field ≤ k := by
      have hfield : (List.replicate 59 48 ++ ascii "9").length + (ascii "100").length + 2 =
          kMaxHeaderScan + 1 := by decide
      simp only [padded_stream, List.forall_mem_cons]
      refine ⟨?_, Nat.zero_le k, by simp⟩
      show (List.replicate 59 48 ++ ascii "9").length + (ascii "100").length + 2 ≤ k
      omega
    have hdelivered := hall padded_stream inScope_padded_stream hfields [.feed (wire padded_stream)]
      (List.append_nil _)
    rw [parse_padded_stream] at hdelivered
    exact absurd (congrArg List.length hdelivered) (by decide)
  · intro hk segs hscope hfields
    have hcap : ({} : StreamParserOptions).buf_cap ≠ 0 := by decide
    refine (deliversValid_iff rfl hscope ?_ fun hzero => absurd hzero hcap).mpr ?_
    · intro s hs
      cases s with
      | valid f => trivial
      | bad_checksum f digits => trivial
      | raised_length f text => exact (hfields _ hs).trans hk
    · exact .inr (withinCap_of_le (by decide) hcap hscope)

/-- With the largest `max_msg_len` a valid frame is not delivered. With the default options a frame
whose BodyLength is raised from 99 to 100 gets a BodyLength field of 65 bytes, and the Heartbeat in
its body is delivered beside the one behind it. -/
theorem neighbours_not_delivered :
    (∃ f, InScope largest_opts [.valid f] ∧ ¬DeliversValid largest_opts [.valid f]) ∧
      InScope {} [.raised_length padded_frame (ascii "100"), .valid heartbeat] ∧
      (parse_all {} [.feed
        (wire [.raised_length padded_frame (ascii "100"), .valid heartbeat])]).2.map Message.raw =
        [heartbeat.bytes, heartbeat.bytes] := by
  refine ⟨?_, inScope_padded_stream, parse_padded_stream⟩
  have hmax : largest_opts.max_msg_len = 2 ^ 64 - 1 := rfl
  have hcap : largest_opts.buf_cap = 4095 := by decide
  obtain ⟨f, hf, hlong, hshort⟩ :=
    exists_long_frame (show 2 ^ 33 ≤ largest_opts.max_msg_len by rw [hmax]; omega)
  refine ⟨f, ⟨⟨hf, trivial⟩, trivial⟩, not_deliversValid_of_long rfl hf ?_ ?_⟩
  · rw [hcap]
    decide
  · rw [hcap]
    omega

end FixEngine
