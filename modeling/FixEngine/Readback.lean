/-
`Readback.lean` -- one frame of the send path, read at the other end.

`Buildable` says for which messages the send path has a frame, `length_of_carries` how long
it is. `ReadAs` is what the receiver knows of a message that its peer has sent under a
number: the type, the number, the identity, and the fields of the message itself.
`carries_read` says that the parser makes such a message of the frame. Tags of the standard
header that a message repeats are lost on the way; a message that has been read once has
none left (`once`), so it can be sent again and read without loss.
-/
import FixEngine.SessionSend
import FixEngine.RoundTrip

set_option autoImplicit false

namespace FixEngine

open IMessageStore Decimal MessageBuilder

/-! ## The frame of a message -/

theorem length_format_timestamp (t : UtcTime) : (format_timestamp t).length = 21 := by
  have hdash : (ascii "-").length = 1 := by decide
  have hcolon : (ascii ":").length = 1 := by decide
  have hdot : (ascii ".").length = 1 := by decide
  simp only [format_timestamp, List.length_append, hdash, hcolon, hdot,
    length_zero_pad (w := 4) (by decide) t.year_lt,
    length_zero_pad (w := 3) (by decide) t.millis_lt,
    length_zero_pad (w := 2) (by decide) t.month_lt, length_zero_pad (w := 2) (by decide) t.day_lt,
    length_zero_pad (w := 2) (by decide) t.hour_lt,
    length_zero_pad (w := 2) (by decide) t.minute_lt,
    length_zero_pad (w := 2) (by decide) t.second_lt]

theorem clean_append (v v' : Bytes) :
    clean (v ++ v') = true ↔ clean v = true ∧ clean v' = true := by
  rw [clean_iff, clean_iff, clean_iff, List.mem_append, List.mem_append]
  tauto

theorem clean_zero_pad (w n : ℕ) : clean (zero_pad w n) = true := by
  rw [clean_iff]
  constructor
  · intro h
    exact absurd (is_digit_of_mem_zero_pad h) (by decide)
  · intro h
    exact absurd (is_digit_of_mem_zero_pad h) (by decide)

theorem clean_format_timestamp (t : UtcTime) : clean (format_timestamp t) = true := by
  have hdash : clean (ascii "-") = true := by decide
  have hcolon : clean (ascii ":") = true := by decide
  have hdot : clean (ascii ".") = true := by decide
  simp only [format_timestamp, clean_append, clean_zero_pad, hdash, hcolon, hdot, and_self]

theorem clean_version (v : FixVersion) : clean v.to_string = true := by
  cases v <;> decide

/-- The send path has a frame for the message: no value that goes into it has a NUL or a SOH.
The number and the time never do, so any will do here. -/
def Buildable (id : SessionID) (msg : Message) : Prop :=
  ∀ f ∈ emitted_fields msg 0 id.senderCompID id.targetCompID [], clean f.value = true

instance (id : SessionID) (msg : Message) : Decidable (Buildable id msg) :=
  inferInstanceAs (Decidable (∀ f ∈ _, _))

variable {id : SessionID} {msg : Message}

theorem all_clean_iff (n : ℕ) (t : UtcTime) :
    (∀ f ∈ emitted_fields msg n id.senderCompID id.targetCompID (format_timestamp t), clean
      f.value = true) ↔
      Buildable id msg := by
  have hnil : clean [] = true := rfl
  simp only [Buildable, emitted_fields, List.forall_mem_append, List.forall_mem_cons,
    List.not_mem_nil, false_implies, implies_true, and_true, clean_to_chars_int,
    clean_format_timestamp, hnil]

/-- **The frame of a message**, and that there is one exactly if no value is refused. -/
theorem try_serialize_buildable (id : SessionID) (msg : Message) (n : ℕ) (t : UtcTime)
    (b : MessageBuilder) :
    ((try_serialize msg id.version.to_string n id.senderCompID id.targetCompID
        (format_timestamp t)).run b).1 =
      if Buildable id msg then
        .ok (build id.version.to_string
          (encode_fields (emitted_fields msg n id.senderCompID id.targetCompID
            (format_timestamp t))))
      else .error .InvalidField := by
  have hall : (clean id.version.to_string &&
      (emitted_fields msg n id.senderCompID id.targetCompID (format_timestamp t)).all
        fun f => clean f.value) = true ↔ Buildable id msg := by
    rw [clean_version, Bool.true_and, List.all_eq_true]
    exact all_clean_iff n t
  rw [try_serialize_run]
  by_cases hb : Buildable id msg
  · rw [if_pos hb, if_pos (hall.mpr hb)]
  · rw [if_neg hb, if_neg (mt hall.mp hb)]

variable {n : ℕ}

theorem Buildable.of_carries {w : Bytes}
    (h : Carries id msg n w) :
    Buildable id msg := by
  obtain ⟨t, b, hser⟩ := h
  rw [try_serialize_buildable] at hser
  by_contra hnot
  rw [if_neg hnot] at hser
  simp at hser

/-- The fields of a message that are its own, not those of the session. -/
def body_fields (msg : Message) : List Field := msg.fields.filter fun f => !skipped f.tag

theorem buildable_iff :
    Buildable id msg ↔ clean id.senderCompID = true ∧ clean id.targetCompID = true ∧
      clean msg.msg_type = true ∧ (∀ v ∈ msg.get tags.PossDupFlag, clean v = true) ∧
      (∀ v ∈ msg.get tags.OrigSendingTime, clean v = true) ∧
      ∀ f ∈ body_fields msg, clean f.value = true := by
  have hopt : ∀ t : TagNum, (∀ f ∈ ((msg.get t).map (Field.mk t)).toList, clean f.value = true) ↔
      ∀ v ∈ msg.get t, clean v = true := by
    intro t
    cases msg.get t <;> simp
  have hnil : clean [] = true := rfl
  simp only [Buildable, emitted_fields, List.forall_mem_append, List.forall_mem_cons,
    List.not_mem_nil, false_implies, implies_true, and_true, clean_to_chars_int, hnil, hopt,
    body_fields]
  tauto

/-- What a message puts into its frame. -/
def own_fields (msg : Message) : List Field :=
  ⟨tags.MsgType, msg.msg_type⟩ ::
    (((msg.get tags.PossDupFlag).map (Field.mk tags.PossDupFlag)).toList
    ++ ((msg.get tags.OrigSendingTime).map (Field.mk tags.OrigSendingTime)).toList
    ++ body_fields msg)

def own_size (msg : Message) : ℕ := (encode_fields (own_fields msg)).length

theorem length_emitted (msg : Message) (n : ℕ) (sender target time : Bytes) :
    (encode_fields (emitted_fields msg n sender target time)).length =
      own_size msg + sender.length + target.length + (to_chars_int (to_i64 n)).length
        + time.length + 16 := by
  have h49 : (to_chars tags.SenderCompID.toNat).length = 2 := by decide
  have h56 : (to_chars tags.TargetCompID.toNat).length = 2 := by decide
  have h34 : (to_chars tags.MsgSeqNum.toNat).length = 2 := by decide
  have h52 : (to_chars tags.SendingTime.toNat).length = 2 := by decide
  simp only [own_size, own_fields, body_fields, emitted_fields, List.cons_append, List.nil_append,
    encode_fields_cons, encode_fields_append, encode_fields_nil, List.length_append,
    List.length_nil, length_field_bytes, h49, h56, h34, h52]
  omega

theorem length_of_carries {w : Bytes}
    (h : Carries id msg n w) :
    ∃ L, L = own_size msg + id.senderCompID.length + id.targetCompID.length
        + (to_chars_int (to_i64 n)).length + 37 ∧
      w.length = id.version.to_string.length + (to_chars L).length + L + 13 := by
  obtain ⟨t, b, hser⟩ := h
  obtain ⟨-, -, hw⟩ := try_serialize_ok hser
  refine ⟨_, rfl, ?_⟩
  have hL := length_emitted msg n id.senderCompID id.targetCompID (format_timestamp t)
  rw [length_format_timestamp] at hL
  rw [hw, length_build, hL]

theorem carries_fits {w : Bytes} (h : Carries id msg n w)
    (hn : n < 2 ^ 64)
    (hfit : own_size msg + id.senderCompID.length + id.targetCompID.length + 87 ≤ 2 ^ 20) :
    w.length ≤ 2 ^ 20 := by
  obtain ⟨L, hL, hw⟩ := length_of_carries h
  obtain ⟨hlo, hhi⟩ := to_i64_range hn
  have hnumber := length_to_chars_int_le hlo hhi
  have hversion := length_version_le id.version
  have hdigits : (to_chars L).length ≤ 7 := length_to_chars_le (by decide) (by omega)
  omega

/-! ## Messages that are put together

A value that is set is a field of its own, and the others stay as they are. -/

section SetField

variable {m : Message} {t : TagNum} {v : Bytes}

theorem get_set_discard_self (h : clean v = true) : (m.set_discard t v).get t = some v := by
  rw [Message.set_discard_of_clean (by simpa [clean] using h), Message.get, lookup_upsert_self]

theorem get_set_discard_ne {t' : TagNum} (h : t ≠ t') : (m.set_discard t v).get t' = m.get t' := by
  rcases hv : has_invalid_wire_chars v with _ | _
  · rw [Message.set_discard_of_clean hv, Message.get, Message.get, lookup_upsert_ne h]
  · rw [Message.set_discard_of_invalid hv]

theorem body_fields_set_discard (h : skipped t = true) :
    body_fields (m.set_discard t v) = body_fields m := by
  rcases hv : has_invalid_wire_chars v with _ | _
  · rw [Message.set_discard_of_clean hv]
    exact filter_upsert (fun _ => by simp [h]) v m.fields
  · rw [Message.set_discard_of_invalid hv]

theorem get_int_set_int {v : ℤ} (hlo : -(2 ^ 63) ≤ v) (hhi : v < 2 ^ 63) :
    (m.set_int t v).get_int t = some v := by
  rw [Message.get_int, Message.set_int, get_set_discard_self (clean_to_chars_int v)]
  dsimp only
  rw [from_chars_int64_to_chars_int hlo hhi]

end SetField

/-! ## Repeated header tags -/

variable {seen : List TagNum}

theorem mem_mark {t tag : TagNum} (h : t ∈ mark seen tag) :
    t ∈ seen ∨ t = tag := by
  rw [mark, check_and_mark] at h
  split at h
  · split at h
    · exact .inl h
    · exact (List.mem_append.mp h).imp id List.mem_singleton.mp
  · exact .inl h

variable {t : TagNum}

theorem mem_mark_of_mem (h : t ∈ seen) (tag : TagNum) :
    t ∈ mark seen tag := by
  rw [mark, check_and_mark]
  split
  · split
    · exact h
    · exact List.mem_append_left _ h
  · exact h

theorem mem_mark_self (ht : is_standard_header_tag t = true) :
    t ∈ mark seen t := by
  rw [mark, if_pos ht, check_and_mark]
  split
  · rename_i hseen
    exact List.contains_iff_mem.mp hseen
  · exact List.mem_append_right _ List.mem_cons_self

theorem lookup_keep_first (ht : t ∉ seen) (fs : List Field) :
    lookup t (keep_first seen fs) = lookup t fs := by
  induction fs generalizing seen with
  | nil => rfl
  | cons f fs ih =>
    rw [keep_first, lookup_cons]
    split
    · -- a repeated field has a tag that was seen before
      rename_i hrep
      have hseen : f.tag ∈ seen := by
        rw [is_repeat, Bool.and_eq_true] at hrep
        simpa using hrep.2
      have hne : f.tag ≠ t := fun heq => ht (heq ▸ hseen)
      rw [if_neg hne, ih ht]
    · rw [lookup_cons]
      by_cases heq : f.tag = t
      · rw [if_pos heq, if_pos heq]
      · rw [if_neg heq, if_neg heq]
        apply ih
        intro hmem
        rcases mem_mark hmem with hold | hnew
        · exact ht hold
        · exact heq hnew.symm

theorem count_keep_first (seen : List TagNum) (fs : List Field)
    (ht : is_standard_header_tag t = true) :
    ((keep_first seen fs).map Field.tag).count t ≤ if t ∈ seen then 0 else 1 := by
  induction fs generalizing seen with
  | nil => exact Nat.zero_le _
  | cons f fs ih =>
    rw [keep_first]
    split
    · exact ih seen
    · rename_i hrep
      rw [List.map_cons, List.count_cons]
      by_cases heq : f.tag = t
      · -- the first one: from here on the tag counts as seen
        have hnot : t ∉ seen := by
          intro hmem
          rw [is_repeat, heq, ht, Bool.true_and] at hrep
          exact hrep (by simpa using hmem)
        have hseen : t ∈ mark seen f.tag := by
          rw [heq]
          exact mem_mark_self ht
        have hrest := ih (mark seen f.tag)
        rw [if_pos hseen] at hrest
        rw [if_neg hnot, if_pos (by rw [heq]; exact BEq.rfl)]
        omega
      · have hrest := ih (mark seen f.tag)
        have hsame : t ∈ mark seen f.tag ↔ t ∈ seen := by
          constructor
          · intro hmem
            exact (mem_mark hmem).resolve_right fun h => heq h.symm
          · intro hmem
            exact mem_mark_of_mem hmem _
        simp only [hsame] at hrest
        simpa [heq] using hrest

/-- No standard-header tag that the message itself carries is there twice. -/
def NoRepeats (msg : Message) : Prop :=
  ∀ t : TagNum, is_standard_header_tag t = true → skipped t = false →
    (msg.fields.map Field.tag).count t ≤ 1

theorem count_unskipped (fs : List Field) (ht : skipped t = false) :
    ((fs.filter fun f => !skipped f.tag).map Field.tag).count t = (fs.map Field.tag).count t := by
  have hmap : (fs.filter fun f => !skipped f.tag).map Field.tag =
      (fs.map Field.tag).filter fun t => !skipped t := by
    rw [List.filter_map]
    rfl
  rw [hmap, List.count_filter (by simp [ht])]

theorem NoRepeats.of_body {msg msg' : Message} (h : NoRepeats msg)
    (hbody : body_fields msg' = body_fields msg) : NoRepeats msg' := by
  intro t hstd hskip
  rw [← count_unskipped msg'.fields hskip]
  change ((body_fields msg').map Field.tag).count t ≤ 1
  rw [hbody, body_fields, count_unskipped msg.fields hskip]
  exact h t hstd hskip

theorem keep_first_of_repeated {fs : List Field} (h : repeated seen fs = []) :
    keep_first seen fs = fs := by
  induction fs generalizing seen with
  | nil => rfl
  | cons f fs ih =>
    rw [repeated] at h
    rw [keep_first]
    by_cases hrep : is_repeat seen f = true
    · rw [if_pos hrep] at h
      simp at h
    · rw [if_neg hrep] at h
      rw [if_neg hrep, ih h]

/-- **A frame has no repeated header field exactly if its message has none.** -/
theorem repeated_emitted_iff (m : Message) (n : ℕ) (sender target time : Bytes) :
    repeated header_seen (emitted_fields m n sender target time) = [] ↔ NoRepeats m := by
  constructor
  · intro hnone t hstd hskip
    have h8 : t ≠ tags.BeginString := fun h => absurd (h ▸ hskip) (by decide)
    have h9 : t ≠ tags.BodyLength := fun h => absurd (h ▸ hskip) (by decide)
    have hcount := count_keep_first header_seen (emitted_fields m n sender target time) hstd
    rw [keep_first_of_repeated hnone, if_neg (by simp [h8, h9])] at hcount
    rw [← count_unskipped m.fields hskip, ← filter_emitted m n sender target time,
      count_unskipped _ hskip]
    exact hcount
  · intro honce
    exact (keep_first_emitted m n sender target time honce).2

/-! ## A frame read back -/

/-- `m` is what is read of a frame in which the session `id` has sent `msg` under the
number `n`. -/
structure ReadAs (id : SessionID) (msg : Message) (n : ℕ) (m : Message) : Prop where
  version : m.begin_string_version = id.version
  sender : m.get tags.SenderCompID = some id.senderCompID
  target : m.get tags.TargetCompID = some id.targetCompID
  has_type : m.has tags.MsgType = true
  msg_type : m.msg_type = msg.msg_type
  seq_num : m.seq_num = n
  sending_time : ∃ t : UtcTime, m.get tags.SendingTime = some (format_timestamp t)
  own : ∀ t, t = tags.PossDupFlag ∨ t = tags.OrigSendingTime ∨ skipped t = false →
    m.get t = msg.get t
  clean : ∀ f ∈ m.fields, FixEngine.clean f.value = true
  once : NoRepeats m
  unique : NoRepeats msg → m.duplicate_header = false ∧ body_fields m = body_fields msg
  body : (body_fields m).Sublist (body_fields msg)

theorem ReadAs.poss_dup {msg m : Message} (h : ReadAs id msg n m) :
    m.poss_dup = msg.poss_dup := by
  rw [Message.poss_dup, Message.poss_dup, h.own _ (.inl rfl)]

theorem ReadAs.get_int {msg m : Message} (h : ReadAs id msg n m)
    (ht : skipped t = false) : m.get_int t = msg.get_int t := by
  rw [Message.get_int, Message.get_int, h.own t (.inr (.inr ht))]

section Decoded

variable (m : Message) (begin_string : Bytes) (n : ℕ) (sender target time w : Bytes)

theorem decoded_get {t : TagNum} (h8 : t ≠ tags.BeginString) (h9 : t ≠ tags.BodyLength) :
    (decoded m begin_string n sender target time w).get t =
      lookup t (emitted_fields m n sender target time) := by
  have hseen : t ∉ header_seen := by simp [h8, h9]
  rw [Message.get, decoded, lookup_cons_ne h8.symm, lookup_cons_ne h9.symm, lookup_keep_first hseen]

theorem decoded_begin_string :
    (decoded m begin_string n sender target time w).get tags.BeginString = some begin_string := by
  rw [Message.get, decoded, lookup_cons, if_pos rfl]

theorem body_fields_decoded :
    body_fields (decoded m begin_string n sender target time w) =
      (keep_first header_seen (emitted_fields m n sender target time)).filter fun f =>
      !skipped f.tag := by
  have h8 : skipped tags.BeginString = true := by decide
  have h9 : skipped tags.BodyLength = true := by decide
  simp [body_fields, decoded, h8, h9]

theorem no_repeats_decoded : NoRepeats (decoded m begin_string n sender target time w) := by
  intro t hstd hskip
  have h8 : tags.BeginString ≠ t := fun h => absurd (h ▸ hskip) (by decide)
  have h9 : tags.BodyLength ≠ t := fun h => absurd (h ▸ hskip) (by decide)
  have hcount := count_keep_first header_seen (emitted_fields m n sender target time) hstd
  rw [if_neg (by simp [h8.symm, h9.symm])] at hcount
  rw [decoded, List.map_cons, List.map_cons, List.count_cons_of_ne h8, List.count_cons_of_ne h9]
  exact hcount

theorem decoded_unique (h : NoRepeats m) :
    (decoded m begin_string n sender target time w).duplicate_header = false ∧
      body_fields (decoded m begin_string n sender target time w) = body_fields m := by
  obtain ⟨hkeep, hrep⟩ := keep_first_emitted m n sender target time h
  constructor
  · rw [decoded, hrep]
    rfl
  · rw [body_fields_decoded, hkeep]
    exact filter_emitted m n sender target time

end Decoded

theorem seq_num_of_get {m : Message} (hn : n < 2 ^ 64)
    (h : m.get tags.MsgSeqNum = some (to_chars_int (to_i64 n))) : m.seq_num = n := by
  obtain ⟨hlo, hhi⟩ := to_i64_range hn
  rw [Message.seq_num, Message.get_int, h]
  dsimp only
  rw [from_chars_int64_to_chars_int hlo hhi]
  exact to_u64_to_i64 hn

section Read

variable {id : SessionID} {msg : Message} {n : ℕ} {w : Bytes}

/-- **A frame of the send path is read back.** -/
theorem carries_read (h : Carries id msg n w) (hn : n < 2 ^ 64) (hlen : w.length ≤ 2 ^ 20) :
    ∃ m, scan_frame {} w = .ok (m, w.length) ∧ ReadAs id msg n m := by
  obtain ⟨time, b, hser⟩ := h
  obtain ⟨hbegin, hclean, hw⟩ := try_serialize_ok hser
  have hshort : id.version.to_string.length ≤ 61 := (length_version_le id.version).trans (by decide)
  have hscan := scan_serialized {} hser hshort (by omega) (.inr hlen)
  have hget : ∀ t : TagNum, t ≠ tags.BeginString → t ≠ tags.BodyLength →
      (decoded msg id.version.to_string n id.senderCompID id.targetCompID
        (format_timestamp time) w).get t = _ :=
    fun t h8 h9 => (decoded_get msg _ n _ _ _ w h8 h9).trans (lookup_emitted msg n _ _ _ t)
  refine ⟨_, hscan, ?_⟩
  constructor
  case version =>
    rw [Message.begin_string_version, decoded_begin_string]
    exact parse_version_to_string id.version
  case sender => exact hget tags.SenderCompID (by decide) (by decide)
  case target => exact hget tags.TargetCompID (by decide) (by decide)
  case has_type =>
    rw [Message.has, hget tags.MsgType (by decide) (by decide)]
    rfl
  case msg_type =>
    rw [Message.msg_type, hget tags.MsgType (by decide) (by decide)]
    rfl
  case seq_num => exact seq_num_of_get hn (hget tags.MsgSeqNum (by decide) (by decide))
  case sending_time => exact ⟨time, hget tags.SendingTime (by decide) (by decide)⟩
  case own =>
    intro t ht
    have hne : ∀ t' : TagNum, skipped t' = true → t' ≠ tags.PossDupFlag →
        t' ≠ tags.OrigSendingTime → t ≠ t' := by
      rintro t' hskip hdup horig rfl
      rcases ht with h | h | h
      · exact hdup h
      · exact horig h
      · exact absurd (hskip.symm.trans h) (by decide)
    rw [hget t (hne _ (by decide) (by decide) (by decide))
      (hne _ (by decide) (by decide) (by decide)),
      if_neg (hne _ (by decide) (by decide) (by decide)),
      if_neg (hne _ (by decide) (by decide) (by decide)),
      if_neg (hne _ (by decide) (by decide) (by decide)),
      if_neg (hne _ (by decide) (by decide) (by decide)),
      if_neg (hne _ (by decide) (by decide) (by decide)), if_pos ht]
  case clean =>
    intro f hf
    rcases List.mem_cons.mp hf with rfl | hf
    · exact hbegin
    rcases List.mem_cons.mp hf with rfl | hf
    · exact clean_to_chars_int _
    · exact hclean f ((keep_first_sublist _ _).subset hf)
  case once => exact no_repeats_decoded msg _ n _ _ _ w
  case unique => exact decoded_unique msg _ n _ _ _ w
  case body =>
    rw [body_fields_decoded, body_fields, ← filter_emitted msg n id.senderCompID id.targetCompID]
    exact (keep_first_sublist _ _).filter _

end Read

end FixEngine
