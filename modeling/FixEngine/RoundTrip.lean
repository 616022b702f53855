/-
Decoding what the serializer wrote.

`scan_serialized` is the bridge: the output of `try_serialize` is a `Frame`, so the
parser reads it, and the message it makes of it is `decoded`. `feed_frame` is what
one complete frame does to an idle parser.

Feeding it also has to get past the backlog cap. The constructor computes the cap
as `max_msg_len + 4096` in `std::size_t`, and for a `max_msg_len` within 4096 of the
largest size the sum wraps to a small number; a frame longer than that is cut
short and the parser turns unhealthy. `round_trip_iff` says that this is the only
way the round trip fails.
-/
import FixEngine.Chunking

set_option autoImplicit false

namespace FixEngine

open FixEngine.Decimal FixEngine.Incremental MessageBuilder

/-! ## Repeated header tags -/

theorem keep_first_eq_self {seen : List TagNum} {fs : List Field}
    (hnd : (fs.map Field.tag |>.filter is_standard_header_tag).Nodup)
    (hdisj : ∀ f ∈ fs, is_standard_header_tag f.tag = true → f.tag ∉ seen) :
    keep_first seen fs = fs ∧ repeated seen fs = [] := by
  induction fs generalizing seen with
  | nil => exact ⟨rfl, rfl⟩
  | cons f fs ih =>
    have hrep : is_repeat seen f = false := by
      unfold is_repeat
      by_cases hs : is_standard_header_tag f.tag = true
      · have := hdisj f List.mem_cons_self hs
        simp [hs, this]
      · simp [hs]
    have hnd' : (fs.map Field.tag |>.filter is_standard_header_tag).Nodup := by
      rw [List.map_cons] at hnd
      by_cases hs : is_standard_header_tag f.tag = true
      · rw [List.filter_cons_of_pos hs] at hnd
        exact hnd.of_cons
      · rwa [List.filter_cons_of_neg hs] at hnd
    have hdisj' : ∀ g ∈ fs, is_standard_header_tag g.tag = true → g.tag ∉ mark seen f.tag := by
      intro g hg hgs
      have hold := hdisj g (List.mem_cons_of_mem _ hg) hgs
      unfold mark check_and_mark
      split
      · rename_i hs
        split
        · exact hold
        · intro hm
          rcases List.mem_append.1 hm with hm | hm
          · exact hold hm
          · obtain hm : g.tag = f.tag := by simpa using hm
            rw [List.map_cons, List.filter_cons_of_pos hs] at hnd
            refine (List.nodup_cons.1 hnd).1 (List.mem_filter.2 ⟨?_, hs⟩)
            rw [← hm]
            exact List.mem_map_of_mem hg
      · exact hold
    obtain ⟨h1, h2⟩ := ih hnd' hdisj'
    unfold keep_first repeated
    rw [hrep]
    simp [h1, h2]

/-! ## What is emitted, read back -/

section Emitted

variable (m : Message) (seq_num : ℕ) (sender target sending_time : Bytes)

theorem emitted_tag_ne_checksum :
    ∀ f ∈ emitted_fields m seq_num sender target sending_time, f.tag ≠ tags.CheckSum := by
  intro f hf
  unfold emitted_fields at hf
  simp only [List.mem_append, List.mem_cons, List.not_mem_nil, or_false, Option.mem_toList,
    Option.map_eq_some_iff, List.mem_filter] at hf
  rcases hf with (((h | h) | h) | h) | h
  · rcases h with rfl | rfl | rfl | rfl <;> dsimp only <;> decide
  · obtain ⟨v, -, rfl⟩ := h
    dsimp only
    decide
  · obtain ⟨v, -, rfl⟩ := h
    dsimp only
    decide
  · rw [h]
    dsimp only
    decide
  · intro he
    rw [he] at h
    exact absurd h.2 (by decide)

theorem lookup_emitted (t : TagNum) :
    lookup t (emitted_fields m seq_num sender target sending_time) =
      if t = tags.MsgType then some m.msg_type
      else if t = tags.SenderCompID then some sender
      else if t = tags.TargetCompID then some target
      else if t = tags.MsgSeqNum then some (to_chars_int (to_i64 seq_num))
      else if t = tags.SendingTime then some sending_time
      else if t = tags.PossDupFlag ∨ t = tags.OrigSendingTime ∨ skipped t = false then m.get t
      else none := by
  have hopt : ∀ t' : TagNum, lookup t ((m.get t').map (Field.mk t')).toList
      = if t = t' then m.get t' else none := by
    intro t'
    cases m.get t' with
    | none => simp
    | some v => simp [lookup, eq_comm]
  have hbody : lookup t (m.fields.filter (fun f => !skipped f.tag))
      = if skipped t = false then m.get t else none := by
    by_cases hs : skipped t = false
    · rw [if_pos hs]
      exact lookup_filter (fun f hf => by simp [hf, hs]) m.fields
    · rw [if_neg hs, lookup_eq_none]
      rintro f hf rfl
      exact hs (by simpa using (List.mem_filter.1 hf).2)
  unfold emitted_fields
  rw [lookup_append, lookup_append, lookup_append, lookup_append, hopt, hopt, hbody]
  by_cases h1 : t = tags.MsgType
  · subst h1
    rfl
  by_cases h2 : t = tags.SenderCompID
  · subst h2
    rfl
  by_cases h3 : t = tags.TargetCompID
  · subst h3
    rfl
  by_cases h4 : t = tags.MsgSeqNum
  · subst h4
    rfl
  have hfirst : lookup t [⟨tags.MsgType, m.msg_type⟩, ⟨tags.SenderCompID, sender⟩,
      ⟨tags.TargetCompID, target⟩, ⟨tags.MsgSeqNum, to_chars_int (to_i64 seq_num)⟩] = none := by
    simp [lookup, Ne.symm h1, Ne.symm h2, Ne.symm h3, Ne.symm h4]
  rw [hfirst, if_neg h1, if_neg h2, if_neg h3, if_neg h4, Option.none_or]
  by_cases h5 : t = tags.SendingTime
  · subst h5
    rfl
  have hlast : lookup t [⟨tags.SendingTime, sending_time⟩] = none := by
    simp [lookup, Ne.symm h5]
  rw [hlast, if_neg h5, Option.or_none]
  by_cases h6 : t = tags.PossDupFlag
  · subst h6
    cases m.get tags.PossDupFlag <;> rfl
  by_cases h7 : t = tags.OrigSendingTime
  · subst h7
    cases m.get tags.OrigSendingTime <;> rfl
  simp [h6, h7]

theorem filter_emitted :
    (emitted_fields m seq_num sender target sending_time).filter (fun f => !skipped f.tag)
      = m.fields.filter (fun f => !skipped f.tag) := by
  have hopt : ∀ t : TagNum, skipped t = true →
      ((m.get t).map (Field.mk t)).toList.filter (fun f => !skipped f.tag) = [] := by
    intro t ht
    cases m.get t <;> simp [ht]
  unfold emitted_fields
  rw [List.filter_append, List.filter_append, List.filter_append, List.filter_append,
    hopt _ (by decide), hopt _ (by decide), List.filter_filter]
  simp only [Bool.and_self, List.append_nil]
  rfl

theorem keep_first_emitted
    (hnodup : ∀ t : TagNum, is_standard_header_tag t = true → skipped t = false →
      (m.fields.map Field.tag).count t ≤ 1) :
    keep_first header_seen (emitted_fields m seq_num sender target sending_time)
        = emitted_fields m seq_num sender target sending_time ∧
      repeated header_seen (emitted_fields m seq_num sender target sending_time) = [] := by
  set body := m.fields.filter (fun f => !skipped f.tag) with hbody
  have hbodyskip : ∀ t ∈ body.map Field.tag, skipped t = false := by
    intro t ht
    obtain ⟨f, hf, rfl⟩ := List.mem_map.1 ht
    simpa using (List.mem_filter.1 hf).2
  have hbodynd : (body.map Field.tag |>.filter is_standard_header_tag).Nodup := by
    refine List.nodup_iff_count_le_one.2 fun t => ?_
    by_cases hs : is_standard_header_tag t = true
    · by_cases hk : skipped t = false
      · rw [List.count_filter hs]
        refine le_trans ?_ (hnodup t hs hk)
        rw [hbody]
        exact (List.filter_sublist.map Field.tag).count_le t
      · have : t ∉ body.map Field.tag := fun hm => hk (hbodyskip t hm)
        rw [List.count_filter hs, List.count_eq_zero_of_not_mem this]
        exact Nat.zero_le _
    · have : t ∉ (body.map Field.tag).filter is_standard_header_tag :=
        fun hm => hs (List.mem_filter.1 hm).2
      rw [List.count_eq_zero_of_not_mem this]
      exact Nat.zero_le _
  -- the header part is a fixed list of distinct tags, all of them skipped in the body
  obtain ⟨hdr, hsplit, hdrnd, hdrskip⟩ : ∃ hdr : List Field,
      emitted_fields m seq_num sender target sending_time = hdr ++ body ∧
      (hdr.map Field.tag).Nodup ∧
      ∀ t ∈ hdr.map Field.tag, skipped t = true ∧ t ∉ header_seen := by
    refine ⟨_, rfl, ?_, ?_⟩
    · cases m.get tags.PossDupFlag <;> cases m.get tags.OrigSendingTime <;> simp <;> decide
    · cases m.get tags.PossDupFlag <;> cases m.get tags.OrigSendingTime <;> simp <;> decide
  rw [hsplit]
  refine keep_first_eq_self ?_ ?_
  · rw [List.map_append, List.filter_append, List.nodup_append]
    refine ⟨hdrnd.filter _, hbodynd, ?_⟩
    intro a ha b hb hab
    subst hab
    have h1 := (hdrskip a (List.mem_filter.1 ha).1).1
    have h2 := hbodyskip a (List.mem_filter.1 hb).1
    rw [h1] at h2
    cases h2
  · intro f hf hs
    rcases List.mem_append.1 hf with hf | hf
    · exact (hdrskip _ (List.mem_map_of_mem hf)).2
    · have := hbodyskip _ (List.mem_map_of_mem hf)
      intro hm
      simp only [List.mem_cons, List.not_mem_nil, or_false] at hm
      rcases hm with hm | hm <;> rw [hm] at this <;> exact absurd this (by decide)

end Emitted

/-! ## The serializer writes frames -/

theorem exists_raw_fields (fs : List Field) (h : ∀ f ∈ fs, clean f.value = true) :
    ∃ rs : List RawField, rs.map RawField.field = fs ∧ raw_bytes rs = encode_fields fs := by
  induction fs with
  | nil => exact ⟨[], rfl, rfl⟩
  | cons f fs ih =>
    obtain ⟨rs, hmap, hbytes⟩ := ih (fun g hg => h g (List.mem_cons_of_mem _ hg))
    have hsoh : SOH ∉ f.value := (clean_iff.1 (h f List.mem_cons_self)).2
    refine ⟨RawField.of_field f hsoh :: rs, ?_, ?_⟩
    · rw [List.map_cons, hmap, RawField.field_of_field]
    · rw [raw_bytes_cons, hbytes, RawField.bytes_of_field, encode_fields_cons]

theorem exists_frame (begin_string : Bytes) (fs : List Field)
    (hbegin : clean begin_string = true) (hshort : begin_string.length ≤ 61)
    (hclean : ∀ f ∈ fs, clean f.value = true) (hno : ∀ f ∈ fs, f.tag ≠ tags.CheckSum)
    (hlen : (encode_fields fs).length < 2 ^ 64) :
    ∃ f : Frame, f.bytes = build begin_string (encode_fields fs) ∧ f.begin_string = begin_string ∧
      f.fields.map RawField.field = fs ∧ raw_bytes f.fields = encode_fields fs ∧
      digits_value f.checksum = (f.before_trailer.map UInt8.toNat).sum % 256 := by
  obtain ⟨rs, hmap, hbytes⟩ := exists_raw_fields fs hclean
  have hcs : (compute_checksum (pre_cs begin_string (encode_fields fs))).toNat < 256 :=
    UInt8.toNat_lt _
  have hdigits : (to_chars (encode_fields fs).length).length ≤ 20 :=
    length_to_chars_le (by omega) (by omega)
  let f : Frame :=
    { begin_string := begin_string
      length_tag := ascii "9"
      length_text := to_chars (encode_fields fs).length
      fields := rs
      checksum := zero_pad 3 (compute_checksum (pre_cs begin_string (encode_fields fs))).toNat
      begin_clean := hbegin
      begin_short := by omega
      length_tag_digits := by decide +kernel
      length_tag_value := rfl
      length_text_ne := to_chars_ne_nil _
      length_text_digits := fun _ hc => is_digit_of_mem_to_chars hc
      length_text_value := by rw [digits_value_to_chars, hbytes]
      length_short := by
        change 1 + _ + 2 ≤ 64
        omega
      no_checksum := by
        intro r hr
        exact hno r.field (hmap ▸ List.mem_map_of_mem hr)
      checksum_length := length_zero_pad (by omega) (by omega)
      checksum_digits := fun _ hc => is_digit_of_mem_zero_pad hc
      checksum_le := by rw [digits_value_zero_pad]; omega }
  have hbefore : f.before_trailer = pre_cs begin_string (encode_fields fs) := by
    simp [Frame.before_trailer, Frame.header, pre_cs, f, hbytes, ascii]
  refine ⟨f, ?_, rfl, hmap, hbytes, ?_⟩
  · rw [Frame.bytes, hbefore]
    simp only [build, trailer, f, List.append_assoc]
  · rw [hbefore, ← compute_checksum_toNat]
    exact digits_value_zero_pad _ _

theorem length_field_bytes (f : Field) :
    (field_bytes f).length = (to_chars f.tag.toNat).length + f.value.length + 2 := by
  simp only [field_bytes, List.length_append, List.length_cons, List.length_nil]
  omega

theorem length_build (begin_string body : Bytes) :
    (build begin_string body).length
      = begin_string.length + (to_chars body.length).length + body.length + 13 := by
  have hcs : (compute_checksum (pre_cs begin_string body)).toNat < 256 := UInt8.toNat_lt _
  have hz := length_zero_pad (w := 3) (by omega)
    (show (compute_checksum (pre_cs begin_string body)).toNat < 10 ^ 3 by omega)
  have hpre : (pre_cs begin_string body).length
      = begin_string.length + (to_chars body.length).length + body.length + 6 := by
    simp [pre_cs, ascii]
    omega
  have h10 : (ascii "10=").length = 3 := rfl
  simp only [build, List.length_append, List.length_cons, List.length_nil, hz, hpre, h10]

theorem length_emitted_ge (m : Message) (seq_num : ℕ) (sender target sending_time : Bytes) :
    15 ≤ (encode_fields (emitted_fields m seq_num sender target sending_time)).length := by
  have hpos := length_to_chars_pos
  have h1 := hpos tags.MsgType.toNat
  have h2 := hpos tags.SenderCompID.toNat
  have h3 := hpos tags.TargetCompID.toNat
  have h4 := hpos tags.MsgSeqNum.toNat
  have h5 := hpos tags.SendingTime.toNat
  simp only [emitted_fields, encode_fields_append, encode_fields_cons, List.length_append,
    encode_fields_nil, List.length_nil, length_field_bytes]
  omega

/-- The message the parser makes of a serialized one. -/
def decoded (m : Message) (begin_string : Bytes) (seq_num : ℕ)
    (sender target sending_time w : Bytes) : Message where
  fields := ⟨tags.BeginString, begin_string⟩
    :: ⟨tags.BodyLength, to_chars_int (to_i64
        (encode_fields (emitted_fields m seq_num sender target sending_time)).length)⟩
    :: keep_first header_seen (emitted_fields m seq_num sender target sending_time)
  raw := w
  duplicate_header :=
    !(repeated header_seen (emitted_fields m seq_num sender target sending_time)).isEmpty

section Serialized

variable {m : Message} {begin_string : Bytes} {seq_num : ℕ} {sender target sending_time : Bytes}
  {b : MessageBuilder} {w : Bytes}

theorem try_serialize_ok
    (h : ((try_serialize m begin_string seq_num sender target sending_time).run b).1 = .ok w) :
    clean begin_string = true ∧
      (∀ f ∈ emitted_fields m seq_num sender target sending_time, clean f.value = true) ∧
      w = build begin_string
        (encode_fields (emitted_fields m seq_num sender target sending_time)) := by
  rw [try_serialize_run] at h
  split at h
  · rename_i hc
    rw [Bool.and_eq_true, List.all_eq_true] at hc
    cases h
    exact ⟨hc.1, hc.2, rfl⟩
  · cases h

/-- How long a serialized message is. -/
theorem length_serialized
    (h : ((try_serialize m begin_string seq_num sender target sending_time).run b).1 = .ok w) :
    w.length = begin_string.length
      + (to_chars
          (encode_fields (emitted_fields m seq_num sender target sending_time)).length).length
      + (encode_fields (emitted_fields m seq_num sender target sending_time)).length + 13 := by
  obtain ⟨-, -, hw⟩ := try_serialize_ok h
  rw [hw, length_build]

/-- **A serialized message is read back.** -/
theorem scan_serialized (opts : StreamParserOptions)
    (h : ((try_serialize m begin_string seq_num sender target sending_time).run b).1 = .ok w)
    (hshort : begin_string.length ≤ 61) (hsize : w.length < 2 ^ 64)
    (hmax : opts.max_msg_len = 0 ∨ w.length ≤ opts.max_msg_len) :
    scan_frame opts w
      = .ok (decoded m begin_string seq_num sender target sending_time w, w.length) := by
  obtain ⟨hbegin, hclean, hw⟩ := try_serialize_ok h
  have hlen := length_serialized h
  obtain ⟨f, hfb, hfbegin, hfmap, hfraw, hfsum⟩ := exists_frame begin_string _ hbegin hshort hclean
    (emitted_tag_ne_checksum m seq_num sender target sending_time) (by omega)
  have hbytes : f.bytes = w := hfb.trans hw.symm
  have hmin := length_emitted_ge m seq_num sender target sending_time
  have hkept : ∀ g ∈ keep_first header_seen (f.fields.map RawField.field),
      clean g.value = true := by
    intro g hg
    exact hclean g (hfmap ▸ mem_of_mem_keep_first hg)
  have hscan := scan_frame_of_frame opts f []
    (by rw [List.append_nil, hbytes]; unfold kMinMsgLen; omega) (hbytes ▸ hsize)
    ⟨fun _ => hfsum, by rw [hbytes]; exact hmax⟩ hkept
  rw [List.append_nil, hbytes] at hscan
  rw [hscan]
  simp only [Frame.message, decoded, hfbegin, hfmap, hfraw, hbytes]

theorem scan_serialized_oversized (opts : StreamParserOptions)
    (h : ((try_serialize m begin_string seq_num sender target sending_time).run b).1 = .ok w)
    (hshort : begin_string.length ≤ 61) (hsize : w.length < 2 ^ 64) (hlimit : 0 < opts.max_msg_len)
    (hover : opts.max_msg_len < w.length) :
    scan_frame opts w = .error (.skip w.length .BadLength) := by
  obtain ⟨hbegin, hclean, hw⟩ := try_serialize_ok h
  have hlen := length_serialized h
  obtain ⟨f, hfb, -⟩ := exists_frame begin_string _ hbegin hshort hclean
    (emitted_tag_ne_checksum m seq_num sender target sending_time) (by omega)
  have hbytes : f.bytes = w := hfb.trans hw.symm
  have hmin := length_emitted_ge m seq_num sender target sending_time
  rw [← hbytes] at hlen hsize hover ⊢
  exact scan_frame_oversized opts f (by unfold kMinMsgLen; omega) hsize hlimit hover

end Serialized

/-! ## One frame through an idle parser -/

namespace StreamParser

theorem drain_of_empty {p : StreamParser} (h : p.unread = []) : p.drain = p := by
  unfold drain drain_loop try_parse_one
  rw [h]
  rfl

/-- The parser after `w` has been read as the message `msg`. -/
def delivered (p : StreamParser) (msg : Message) (w : Bytes) : StreamParser :=
  { p with
    unread := []
    read_pos := w.length
    consumed := p.consumed + w.length
    msg_count := p.msg_count + 1
    last_error := if msg.duplicate_header then some .DuplicateField else none
    pending := p.pending ++ [msg] }

theorem feed_idle {p : StreamParser} {w : Bytes} (hh : p.healthy = true) (hidle : p.unread = [])
    (hpos : 0 < w.length) (hsize : w.length < 2 ^ 64)
    (hcap : p.opts.buf_cap = 0 ∨ w.length ≤ p.opts.buf_cap) :
    p.feed w = drain { p with unread := w, read_pos := 0 } := by
  obtain ⟨c, cs, hw⟩ : ∃ c cs, w = c :: cs := List.exists_cons_of_length_pos hpos
  have hspace : w.length ≤ p.compact.space w.length := by
    have hwp : p.compact.write_pos = 0 := by simp [write_pos, compact, hidle]
    unfold space
    rw [hwp]
    change w.length ≤ if p.opts.buf_cap = 0 then _ else _
    split
    · exact le_refl _
    · change _ ≤ if 0 < p.opts.buf_cap then p.opts.buf_cap - 0 else 0
      split <;> omega
  have happ : append_bytes w p.compact = { p with unread := w, read_pos := 0 } := by
    unfold append_bytes write_pos compact
    rw [if_neg (by omega), if_neg (by simp [hidle])]
    simp [hidle]
  have hloop : feed_loop (2 * w.length + 1) w p = (append_bytes w p.compact).drain := by
    rw [hw, feed_loop, ← hw]
    simp only [drain_of_empty hidle]
    rw [if_neg (by omega), Nat.min_eq_left hspace, List.drop_length, List.take_length]
    cases 2 * w.length <;> rfl
  unfold feed
  rw [if_neg (by omega), if_neg (by simp [hh]), hidle, List.length_nil, Nat.add_zero, hloop, happ]

/-- **One frame.** A healthy parser with nothing buffered, fed one complete frame
that fits the cap, queues its message and is idle again. -/
theorem feed_frame {p : StreamParser} {w : Bytes} {msg : Message} (hh : p.healthy = true)
    (hidle : p.unread = []) (hscan : scan_frame p.opts w = .ok (msg, w.length))
    (hsize : w.length < 2 ^ 64) (hcap : p.opts.buf_cap = 0 ∨ w.length ≤ p.opts.buf_cap) :
    p.feed w = p.delivered msg w := by
  obtain ⟨hpos, -⟩ := scan_frame_ok_bounds hscan
  have hone : try_parse_one { p with unread := w, read_pos := 0 }
      = (p.delivered msg w, .Message) := by
    unfold try_parse_one
    simp only [hscan]
    simp [delivered, advance]
  rw [feed_idle hh hidle hpos hsize hcap]
  change drain_loop (w.length + 1) _ = _
  rw [drain_loop, hone]
  obtain ⟨k, hk⟩ : ∃ k, w.length = k + 1 := ⟨w.length - 1, by omega⟩
  rw [hk]
  rfl

/-- The parser after `w` has been skipped. -/
def skipped_frame (p : StreamParser) (err : ErrorCode) (w : Bytes) : StreamParser :=
  { p with
    unread := []
    read_pos := w.length
    consumed := p.consumed + w.length
    last_error := some err }

theorem feed_skipped {p : StreamParser} {w : Bytes} {err : ErrorCode} (hh : p.healthy = true)
    (hidle : p.unread = []) (hscan : scan_frame p.opts w = .error (.skip w.length err))
    (hpos : 0 < w.length) (hsize : w.length < 2 ^ 64)
    (hcap : p.opts.buf_cap = 0 ∨ w.length ≤ p.opts.buf_cap) :
    p.feed w = p.skipped_frame err w := by
  have hone : try_parse_one { p with unread := w, read_pos := 0 } =
      (p.skipped_frame err w, .Error) := by
    unfold try_parse_one
    simp only [hscan]
    simp [skip_frame, resync_scan, resync_len, advance, skipped_frame]
  rw [feed_idle hh hidle hpos hsize hcap]
  change drain_loop (w.length + 1) _ = _
  rw [drain_loop, hone]
  obtain ⟨k, hk⟩ : ∃ k, w.length = k + 1 := ⟨w.length - 1, by omega⟩
  rw [hk]
  rfl

end StreamParser

/-! ## The round trip -/

theorem emitted_fields_decoded (m : Message) (begin_string : Bytes) (seq_num : ℕ)
    (sender target sending_time w : Bytes)
    (hkeep : keep_first header_seen (emitted_fields m seq_num sender target sending_time)
      = emitted_fields m seq_num sender target sending_time) :
    emitted_fields (decoded m begin_string seq_num sender target sending_time w) seq_num sender
        target sending_time = emitted_fields m seq_num sender target sending_time := by
  set es := emitted_fields m seq_num sender target sending_time with hes
  have hget : ∀ t : TagNum, t ≠ tags.BeginString → t ≠ tags.BodyLength →
      (decoded m begin_string seq_num sender target sending_time w).get t = lookup t es := by
    intro t h8 h9
    unfold Message.get decoded
    rw [lookup_cons_ne h8.symm, lookup_cons_ne h9.symm, hkeep]
  have h35 : (decoded m begin_string seq_num sender target sending_time w).msg_type
      = m.msg_type := by
    unfold Message.msg_type
    rw [hget _ (by decide) (by decide), hes, lookup_emitted]
    rfl
  have h43 : (decoded m begin_string seq_num sender target sending_time w).get tags.PossDupFlag
      = m.get tags.PossDupFlag := by
    rw [hget _ (by decide) (by decide), hes, lookup_emitted]
    rfl
  have h122 : (decoded m begin_string seq_num sender target sending_time w).get
      tags.OrigSendingTime = m.get tags.OrigSendingTime := by
    rw [hget _ (by decide) (by decide), hes, lookup_emitted]
    rfl
  have hbody : (decoded m begin_string seq_num sender target sending_time w).fields.filter
      (fun f => !skipped f.tag) = m.fields.filter (fun f => !skipped f.tag) := by
    unfold decoded
    rw [hkeep, List.filter_cons_of_neg (by dsimp only; decide),
      List.filter_cons_of_neg (by dsimp only; decide), filter_emitted]
  unfold emitted_fields
  rw [h35, h43, h122, hbody]
  rfl

/-- Feeding `w` to a fresh parser gives back the message it was made of: one
message, unflagged and without an error or a backlog, with the emitted fields
behind BeginString and the true BodyLength, that serializes to `w` again. -/
def RoundTrips (opts : StreamParserOptions) (m : Message) (begin_string : Bytes) (seq_num : ℕ)
    (sender target sending_time w : Bytes) : Prop :=
  ∃ out : Message, ((StreamParser.create opts).feed w).pending = [out] ∧ out.raw = w ∧
    out.duplicate_header = false ∧ ((StreamParser.create opts).feed w).last_error = none ∧
    ((StreamParser.create opts).feed w).unread = [] ∧
    out.fields = ⟨tags.BeginString, begin_string⟩
      :: ⟨tags.BodyLength,
          to_chars (encode_fields (emitted_fields m seq_num sender target sending_time)).length⟩
      :: emitted_fields m seq_num sender target sending_time ∧
    ∀ b : MessageBuilder,
      ((try_serialize out begin_string seq_num sender target sending_time).run b).1 = .ok w

theorem feed_over_cap {opts : StreamParserOptions} {w : Bytes} {msg : Message}
    (hscan : scan_frame opts w = .ok (msg, w.length)) (hfit : Fits opts w.length)
    (hcap : opts.buf_cap ≠ 0) (hlong : opts.buf_cap < w.length) :
    ((StreamParser.create opts).feed w).pending = [] := by
  have hinit : (StreamParser.create opts).obs.Settled opts :=
    ⟨parse_step_nil opts, Or.inr (Nat.zero_le _)⟩
  obtain ⟨-, hobs⟩ := feed_obs (StreamParser.create opts) w hinit
    (by simpa [StreamParser.create] using hfit)
  have htake : (w.take opts.buf_cap).length = opts.buf_cap := by
    rw [List.length_take]
    omega
  -- the part that fits the cap is only the beginning of a frame
  have hwait : parse_step opts (w.take opts.buf_cap) = none := by
    rcases scan_frame_append opts (w.take opts.buf_cap) (w.drop opts.buf_cap)
        (by rw [List.take_append_drop]; exact hfit) with ⟨err, hn⟩ | heq
    · unfold parse_step
      rw [hn]
    · rw [List.take_append_drop, hscan] at heq
      have := (scan_frame_ok_bounds heq.symm).2
      omega
  obtain ⟨c, cs, hdrop⟩ : ∃ c cs, w.drop opts.buf_cap = c :: cs :=
    List.exists_cons_of_length_pos (by rw [List.length_drop]; omega)
  have hfold := foldl_push_eq_settle opts (w.take opts.buf_cap) (StreamParser.create opts).obs rfl
    hinit.1 (Fits.mono _ _ (by simp [StreamParser.create, StreamParser.obs]) hfit)
    (Or.inr (by simp [StreamParser.create, StreamParser.obs]))
  rw [settle_of_none opts _ hwait] at hfold
  have hpush : push opts { (StreamParser.create opts).obs with
        unread := (StreamParser.create opts).obs.unread ++ w.take opts.buf_cap } c
      = ⟨false, [], 0 + (w.take opts.buf_cap).length, []⟩ := by
    unfold push
    rw [if_neg (by simp [StreamParser.create, StreamParser.obs]), if_pos ⟨hcap, by
      change opts.buf_cap ≤ (w.take opts.buf_cap).length
      omega⟩]
    rfl
  have hall : w.foldl (push opts) (StreamParser.create opts).obs
      = ⟨false, [], 0 + (w.take opts.buf_cap).length, []⟩ := by
    conv_lhs => rw [← List.take_append_drop opts.buf_cap w]
    rw [List.foldl_append, hfold, hdrop, List.foldl_cons, hpush, push_unhealthy rfl]
  exact congrArg Obs.pending (hobs.trans hall)

section

variable {opts : StreamParserOptions} {m : Message} {begin_string : Bytes} {seq_num : ℕ}
  {sender target sending_time : Bytes} {b : MessageBuilder} {w : Bytes}

theorem round_trips_of_cap
    (hser : ((try_serialize m begin_string seq_num sender target sending_time).run b).1 = .ok w)
    (hshort : begin_string.length ≤ 61)
    (hnodup : ∀ t : TagNum, is_standard_header_tag t = true → skipped t = false →
      (m.fields.map Field.tag).count t ≤ 1)
    (hmax : opts.max_msg_len = 0 ∨ w.length ≤ opts.max_msg_len) (hsize : w.length < 2 ^ 63)
    (hcap : opts.buf_cap = 0 ∨ w.length ≤ opts.buf_cap) :
    RoundTrips opts m begin_string seq_num sender target sending_time w := by
  have hscan := scan_serialized opts hser hshort (by omega) hmax
  obtain ⟨hkeep, hrep⟩ := keep_first_emitted m seq_num sender target sending_time hnodup
  have hfeed := StreamParser.feed_frame (p := StreamParser.create opts) rfl rfl hscan (by omega)
    hcap
  obtain ⟨hbegin, hclean, hw⟩ := try_serialize_ok hser
  have hblen := length_serialized hser
  have hdup : (decoded m begin_string seq_num sender target sending_time w).duplicate_header
      = false := by
    change (!(repeated header_seen _).isEmpty) = false
    rw [hrep]
    rfl
  refine ⟨decoded m begin_string seq_num sender target sending_time w, ?_, rfl, hdup, ?_, ?_, ?_,
    fun b' => ?_⟩
  · rw [hfeed]
    rfl
  · rw [hfeed]
    change (if _ = true then _ else _) = none
    rw [hdup]
    rfl
  · rw [hfeed]
    rfl
  · change _ :: ⟨tags.BodyLength, to_chars_int (to_i64 _)⟩ :: keep_first header_seen _ = _
    rw [hkeep, to_i64, if_pos (by omega)]
    rfl
  · rw [try_serialize_run, emitted_fields_decoded m begin_string seq_num sender target sending_time
      w hkeep, if_pos, ← hw]
    rw [Bool.and_eq_true, List.all_eq_true]
    exact ⟨hbegin, hclean⟩

theorem not_round_trips_of_cap
    (hser : ((try_serialize m begin_string seq_num sender target sending_time).run b).1 = .ok w)
    (hshort : begin_string.length ≤ 61)
    (hmax : opts.max_msg_len = 0 ∨ w.length ≤ opts.max_msg_len) (hsize : w.length < 2 ^ 63)
    (hcap : opts.buf_cap ≠ 0) (hlong : opts.buf_cap < w.length) :
    ¬ RoundTrips opts m begin_string seq_num sender target sending_time w := by
  rintro ⟨out, hout, -⟩
  have hscan := scan_serialized opts hser hshort (by omega) hmax
  rw [feed_over_cap hscan ⟨by omega, hmax⟩ hcap hlong] at hout
  cases hout

/-- **Decode undoes encode, exactly when the frame fits the wrapped cap.** The cap
is `max_msg_len + 4096` modulo 2^64; unless that sum wraps, every frame within
`max_msg_len` fits. A `std::string` has fewer than 2^63 bytes. -/
theorem round_trip_iff
    (hser : ((try_serialize m begin_string seq_num sender target sending_time).run b).1 = .ok w)
    (hshort : begin_string.length ≤ 61)
    (hnodup : ∀ t : TagNum, is_standard_header_tag t = true → skipped t = false →
      (m.fields.map Field.tag).count t ≤ 1)
    (hmax : opts.max_msg_len = 0 ∨ w.length ≤ opts.max_msg_len) (hsize : w.length < 2 ^ 63) :
    RoundTrips opts m begin_string seq_num sender target sending_time w ↔
      opts.buf_cap = 0 ∨ w.length ≤ opts.buf_cap := by
  constructor
  · intro hrt
    by_contra hno
    push Not at hno
    exact not_round_trips_of_cap hser hshort hmax hsize hno.1 hno.2 hrt
  · exact round_trips_of_cap hser hshort hnodup hmax hsize

end

/-- The largest `max_msg_len`; its cap wraps to 4095. -/
def largest_opts : StreamParserOptions := { max_msg_len := 2 ^ 64 - 1, max_msg_len_lt := by omega }

/-- An order with a free text. -/
def text_order (text : Bytes) : Message :=
  { fields := [⟨tags.MsgType, ascii "D"⟩, ⟨tags.Text, text⟩] }

theorem text_order_serialized (text : Bytes) (h : clean text = true) (hlen : text.length < 2 ^ 32) :
    ∃ w : Bytes,
      ((try_serialize (text_order text) (ascii "FIX.4.2") 1 (ascii "A") (ascii "B")
        (ascii "t")).run {}).1 = .ok w ∧ text.length < w.length ∧ w.length < 2 ^ 33 := by
  have hes : emitted_fields (text_order text) 1 (ascii "A") (ascii "B") (ascii "t")
      = [⟨tags.MsgType, ascii "D"⟩, ⟨tags.SenderCompID, ascii "A"⟩, ⟨tags.TargetCompID, ascii "B"⟩,
        ⟨tags.MsgSeqNum, to_chars_int (to_i64 1)⟩, ⟨tags.SendingTime, ascii "t"⟩,
        ⟨tags.Text, text⟩] := rfl
  refine ⟨build (ascii "FIX.4.2") (encode_fields (emitted_fields (text_order text) 1 (ascii "A")
    (ascii "B") (ascii "t"))), ?_, ?_⟩
  · rw [try_serialize_run, if_pos]
    rw [hes, Bool.and_eq_true, List.all_eq_true]
    refine ⟨by decide, ?_⟩
    simp only [List.forall_mem_cons, h, clean_to_chars_int]
    simp only [List.not_mem_nil, false_implies, implies_true, and_true]
    decide
  · have hbody : (encode_fields (emitted_fields (text_order text) 1 (ascii "A") (ascii "B")
        (ascii "t"))).length = text.length + 29 := by
      simp only [hes, encode_fields_cons, encode_fields_nil, List.length_append, length_field_bytes]
      change 2 + 1 + 2 + (2 + 1 + 2 + (2 + 1 + 2 + (2 + 1 + 2 + (2 + 1 + 2
        + (2 + text.length + 2 + 0))))) = _
      omega
    have hdigits : (to_chars (text.length + 29)).length ≤ 10 :=
      length_to_chars_le (by omega) (by omega)
    rw [length_build, hbody]
    change _ < 7 + _ + _ + _ ∧ 7 + _ + _ + _ < _
    omega

/-- With the largest `max_msg_len` an order with a text of 5000 letters does not
come back. -/
theorem text_order_round_trip_fails :
    ∃ w : Bytes,
      ((try_serialize (text_order (List.replicate 5000 65)) (ascii "FIX.4.2") 1 (ascii "A")
        (ascii "B") (ascii "t")).run {}).1 = .ok w ∧
      (ascii "FIX.4.2").length ≤ 61 ∧
      (∀ t : TagNum, is_standard_header_tag t = true → skipped t = false →
        ((text_order (List.replicate 5000 65)).fields.map Field.tag).count t ≤ 1) ∧
      w.length ≤ largest_opts.max_msg_len ∧
      ¬ RoundTrips largest_opts (text_order (List.replicate 5000 65))
        (ascii "FIX.4.2") 1 (ascii "A")
        (ascii "B") (ascii "t") w := by
  have hclean : clean (List.replicate 5000 65) = true :=
    clean_replicate (by decide) (by decide) 5000
  have hrep : (List.replicate 5000 (65 : UInt8)).length = 5000 := List.length_replicate
  obtain ⟨w, hser, hlo, hhi⟩ := text_order_serialized _ hclean (by omega)
  have hcap : largest_opts.buf_cap = 4095 := by decide
  have hmax : w.length ≤ largest_opts.max_msg_len := by
    change w.length ≤ 2 ^ 64 - 1
    omega
  refine ⟨w, hser, by decide, ?_, hmax, ?_⟩
  · intro t hs hk
    have h35 : t ≠ tags.MsgType := fun e => absurd hk (by rw [e]; decide)
    have h58 : t ≠ tags.Text := fun e => absurd hs (by rw [e]; decide)
    have : ((text_order (List.replicate 5000 65)).fields.map Field.tag)
        = [tags.MsgType, tags.Text] := rfl
    rw [this, List.count_eq_zero_of_not_mem (by simp [h35, h58])]
    omega
  · exact not_round_trips_of_cap hser (by decide) (Or.inr hmax) (by omega) (by rw [hcap]; decide)
      (by omega)

/-- An order that is sent again, with two parties. -/
def resent_order : Message :=
  { fields := [⟨tags.MsgType, ascii "D"⟩, ⟨tags.PossDupFlag, ascii "Y"⟩,
      ⟨tags.OrigSendingTime, ascii "20240101-00:00:00.000"⟩, ⟨11, ascii "order-1"⟩,
      ⟨453, ascii "2"⟩, ⟨448, ascii "desk"⟩, ⟨448, ascii "client"⟩,
      ⟨tags.Text, ascii "all or none"⟩] }

/-- The order on the wire. -/
def resent_order_wire : Bytes :=
  build (ascii "FIX.4.4") (encode_fields
    (emitted_fields resent_order 7 (ascii "A") (ascii "B") (ascii "20240102-00:00:00.000")))

set_option maxRecDepth 8000 in
/-- The order comes back as it was sent, under the default options. -/
theorem round_trip_resent_order :
    ((try_serialize resent_order (ascii "FIX.4.4") 7 (ascii "A") (ascii "B")
        (ascii "20240102-00:00:00.000")).run {}).1 = .ok resent_order_wire ∧
      RoundTrips {} resent_order (ascii "FIX.4.4") 7 (ascii "A") (ascii "B")
        (ascii "20240102-00:00:00.000") resent_order_wire := by
  have hser : ((try_serialize resent_order (ascii "FIX.4.4") 7 (ascii "A") (ascii "B")
      (ascii "20240102-00:00:00.000")).run {}).1 = .ok resent_order_wire := by decide
  have hlength : resent_order_wire.length ≤ 256 := by decide
  have hmax : resent_order_wire.length ≤ ({} : StreamParserOptions).max_msg_len :=
    hlength.trans (by decide)
  have hcap : resent_order_wire.length ≤ ({} : StreamParserOptions).buf_cap :=
    hlength.trans (by decide)
  refine ⟨hser, (round_trip_iff hser (by decide) ?_ (.inr hmax) (by omega)).mpr (.inr hcap)⟩
  intro t hheader _
  -- only the party is repeated, and it is no tag of the header
  have hparty : t ≠ 448 := by
    rintro rfl
    exact absurd hheader (by decide)
  have htags : resent_order.fields.map Field.tag = [35, 43, 122, 11, 453] ++ [448, 448] ++ [58] :=
    rfl
  have honce : ([35, 43, 122, 11, 453] ++ [58] : List TagNum).count t ≤ 1 :=
    List.nodup_iff_count_le_one.mp (by decide) t
  have hnone : ([448, 448] : List TagNum).count t = 0 :=
    List.count_eq_zero_of_not_mem (by simp [hparty])
  rw [List.count_append] at honce
  rw [htags, List.count_append, List.count_append, hnone]
  exact honce

end FixEngine
