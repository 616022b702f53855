/-
`FieldList.lean` -- the fields of a delivered message against those on the wire.

`Frame.wire_fields` are the fields of a frame as they stand on the wire, each with its
exact value. A body field is `removed` when it is a standard-header field of a tag that
stands further to the front. This is said by positions, without the running set that
the parser keeps; `keep_first_eq` and `repeated_eq` show that the parser's set comes to
the same. `Faithful` collects what a reader of the message can rely on.

Two tags are not read back as they were sent. The BodyLength is delivered as the
decimal length, whatever zeros were in front of it, and the CheckSum is not delivered.
-/
import FixEngine.Readback

set_option autoImplicit false

namespace FixEngine

open Decimal

/-- `Message::get_all`. -/
def Message.get_all (m : Message) (tag : TagNum) : List Bytes :=
  (m.fields.filter fun f => f.tag == tag).map Field.value

/-! ## Removed fields -/

/-- The field at a position is a standard-header field whose tag stands further to the front, or
was `seen` before the list. -/
def removed (seen : List TagNum) (fs : List Field) (g : Field × ℕ) : Bool :=
  is_standard_header_tag g.1.tag && (seen ++ (fs.take g.2).map Field.tag).contains g.1.tag

theorem removed_head (seen : List TagNum) (f : Field) (fs : List Field) :
    removed seen (f :: fs) (f, 0) = is_repeat seen f := by
  simp [removed, is_repeat]

theorem removed_succ (seen : List TagNum) (f : Field) (fs : List Field) (g : Field) (i : ℕ) :
    removed seen (f :: fs) (g, i + 1) =
      removed (if is_repeat seen f then seen else mark seen f.tag) fs (g, i) := by
  rcases hstd : is_standard_header_tag g.tag with _ | _
  · simp [removed, hstd]
  simp only [removed, hstd, Bool.true_and, List.take_succ_cons, List.map_cons]
  rw [Bool.eq_iff_iff, List.contains_iff_mem, List.contains_iff_mem, List.mem_append,
    List.mem_append, List.mem_cons]
  by_cases hrep : is_repeat seen f = true
  · -- the tag of a repeated field was seen already
    rw [if_pos hrep]
    rw [is_repeat, Bool.and_eq_true, List.contains_iff_mem] at hrep
    constructor
    · rintro (hseen | heq | hmem)
      · exact .inl hseen
      · exact .inl (heq ▸ hrep.2)
      · exact .inr hmem
    · rintro (hseen | hmem)
      · exact .inl hseen
      · exact .inr (.inr hmem)
  · rw [if_neg hrep]
    constructor
    · rintro (hseen | heq | hmem)
      · exact .inl (mem_mark_of_mem hseen _)
      · exact .inl (heq ▸ mem_mark_self hstd)
      · exact .inr hmem
    · rintro (hmark | hmem)
      · exact (mem_mark hmark).imp id .inl
      · exact .inr (.inr hmem)

theorem filter_zipIdx_cons {α : Type} (p : α × ℕ → Bool) (a : α) (as : List α) :
    (((a :: as).zipIdx.filter p).map Prod.fst) =
      (if p (a, 0) then [a] else []) ++
        ((as.zipIdx.filter fun x => p (x.1, x.2 + 1)).map Prod.fst) := by
  rw [List.zipIdx_cons, List.zipIdx_succ, List.filter_cons, List.filter_map, Function.comp_def]
  split_ifs
  · simp [Function.comp_def]
  · simp [Function.comp_def]

/-- **The parser keeps the fields that are not removed**, in their order. -/
theorem keep_first_eq (seen : List TagNum) (fs : List Field) :
    keep_first seen fs = (fs.zipIdx.filter fun g => !removed seen fs g).map Prod.fst := by
  induction fs generalizing seen with
  | nil => rfl
  | cons f fs ih =>
    rw [filter_zipIdx_cons, keep_first]
    simp only [removed_head, removed_succ]
    by_cases hrep : is_repeat seen f = true
    · simp only [hrep, if_true, Bool.not_true, Bool.false_eq_true, if_false, List.nil_append]
      exact ih seen
    · simp only [hrep, Bool.false_eq_true, if_false, Bool.not_false, if_true, List.singleton_append]
      exact congrArg _ (ih _)

theorem repeated_eq (seen : List TagNum) (fs : List Field) :
    repeated seen fs = (fs.zipIdx.filter fun g => removed seen fs g).map Prod.fst := by
  induction fs generalizing seen with
  | nil => rfl
  | cons f fs ih =>
    rw [filter_zipIdx_cons, repeated]
    simp only [removed_head, removed_succ]
    by_cases hrep : is_repeat seen f = true
    · simp only [hrep, if_true, List.singleton_append]
      exact congrArg _ (ih seen)
    · simp only [hrep, Bool.false_eq_true, if_false, List.nil_append]
      exact ih _

theorem filter_keep_first {tag : TagNum} (htag : is_standard_header_tag tag = false)
    (seen : List TagNum) (fs : List Field) :
    (keep_first seen fs).filter (fun f => f.tag == tag) = fs.filter fun f => f.tag == tag := by
  induction fs generalizing seen with
  | nil => rfl
  | cons f fs ih =>
    rw [keep_first]
    split
    · rename_i hrep
      have hne : (f.tag == tag) = false := by
        rw [beq_eq_false_iff_ne]
        rintro rfl
        rw [is_repeat, htag, Bool.false_and] at hrep
        simp at hrep
      rw [List.filter_cons_of_neg (by rw [hne]; exact Bool.noConfusion), ih]
    · rw [List.filter_cons, List.filter_cons, ih]

/-! ## Delivered messages -/

namespace Frame

/-- The fields of the body. -/
def body_fields (f : Frame) : List Field := f.fields.map RawField.field

/-- The fields of the frame as they stand on the wire. -/
def wire_fields (f : Frame) : List Field :=
  ⟨tags.BeginString, f.begin_string⟩ :: ⟨tags.BodyLength, f.length_text⟩ ::
    (f.body_fields ++ [⟨tags.CheckSum, f.checksum⟩])

end Frame

/-- What a reader of the message can rely on. -/
structure Faithful (f : Frame) (msg : Message) : Prop where
  raw : msg.raw = f.bytes
  fields : msg.fields = ⟨tags.BeginString, f.begin_string⟩ ::
    ⟨tags.BodyLength, to_chars (raw_bytes f.fields).length⟩ ::
      ((f.body_fields.zipIdx.filter fun g => !removed header_seen f.body_fields g).map Prod.fst)
  duplicate : msg.duplicate_header = true ↔
    ∃ g ∈ f.body_fields.zipIdx, removed header_seen f.body_fields g = true
  first : ∀ tag, tag ≠ tags.BodyLength → tag ≠ tags.CheckSum →
    msg.get tag = lookup tag f.wire_fields
  length : msg.get tags.BodyLength = some (to_chars (raw_bytes f.fields).length)
  checksum : msg.get tags.CheckSum = none
  groups : ∀ tag, is_standard_header_tag tag = false → tag ≠ tags.CheckSum →
    msg.get_all tag = (f.wire_fields.filter fun g => g.tag == tag).map Field.value
  once : ∀ tag, is_standard_header_tag tag = true → (msg.fields.map Field.tag).count tag ≤ 1

theorem Frame.message_fields (f : Frame) (h : (raw_bytes f.fields).length < 2 ^ 63) :
    f.message.fields = ⟨tags.BeginString, f.begin_string⟩ ::
      ⟨tags.BodyLength, to_chars (raw_bytes f.fields).length⟩ :: keep_first header_seen
        f.body_fields := by
  rw [Frame.message, to_i64, if_pos h]
  rfl

theorem Frame.checksum_not_mem_body (f : Frame) : ∀ g ∈ f.body_fields, g.tag ≠ tags.CheckSum := by
  intro g hg
  obtain ⟨raw, hraw, rfl⟩ := List.mem_map.mp hg
  exact f.no_checksum raw hraw

/-- **The message of a frame is faithful to it.** -/
theorem Frame.faithful (f : Frame) (h : (raw_bytes f.fields).length < 2 ^ 63) :
    Faithful f f.message := by
  have hfields := f.message_fields h
  have hbody : ∀ g ∈ keep_first header_seen f.body_fields, g.tag ≠ tags.CheckSum := fun g hg =>
    f.checksum_not_mem_body g (mem_of_mem_keep_first hg)
  refine ⟨rfl, ?_, ?_, ?_, ?_, ?_, ?_, ?_⟩
  · rw [hfields, keep_first_eq]
  · have hdup : f.message.duplicate_header = !(repeated header_seen f.body_fields).isEmpty := rfl
    rw [hdup, repeated_eq, Bool.not_eq_true', List.isEmpty_eq_false_iff_exists_mem]
    simp only [List.mem_map, List.mem_filter]
    constructor
    · rintro ⟨-, g, hg, -⟩
      exact ⟨g, hg⟩
    · rintro ⟨g, hg⟩
      exact ⟨g.1, g, hg, rfl⟩
  · intro tag h9 h10
    rw [Message.get, hfields, Frame.wire_fields]
    by_cases h8 : tag = tags.BeginString
    · rw [h8, lookup_cons_self, lookup_cons_self]
    · have hseen : tag ∉ header_seen := by
        simp only [List.mem_cons, List.not_mem_nil, or_false, not_or]
        exact ⟨h8, h9⟩
      rw [lookup_cons_ne (Ne.symm h8), lookup_cons_ne (Ne.symm h8), lookup_cons_ne h9.symm,
        lookup_cons_ne h9.symm, lookup_keep_first hseen, lookup_append, lookup_cons_ne h10.symm,
        lookup_nil, Option.or_none]
  · rw [Message.get, hfields, lookup_cons_ne (by decide), lookup_cons_self]
  · rw [Message.get, hfields, lookup_cons_ne (by decide), lookup_cons_ne (by decide),
      lookup_eq_none]
    exact hbody
  · intro tag htag h10
    have h8 : (tags.BeginString == tag) = false := by
      rw [beq_eq_false_iff_ne]
      rintro rfl
      exact absurd htag (by decide)
    have h9 : (tags.BodyLength == tag) = false := by
      rw [beq_eq_false_iff_ne]
      rintro rfl
      exact absurd htag (by decide)
    have h10' : (tags.CheckSum == tag) = false := beq_eq_false_iff_ne.mpr h10.symm
    simp only [Message.get_all, hfields, Frame.wire_fields, List.filter_cons, List.filter_append,
      h8, h9, h10', Bool.false_eq_true, if_false, List.filter_nil, List.append_nil,
      filter_keep_first htag]
  · intro tag htag
    have hcount := count_keep_first header_seen f.body_fields htag
    rw [hfields, List.map_cons, List.map_cons]
    by_cases hseen : tag ∈ header_seen
    · -- 8 or 9: the one in front is the only one
      rw [if_pos hseen, Nat.le_zero] at hcount
      simp only [List.mem_cons, List.not_mem_nil, or_false] at hseen
      have hne : tags.BeginString ≠ tags.BodyLength := by decide
      rcases hseen with rfl | rfl
      · rw [List.count_cons_self, List.count_cons_of_ne hne.symm, hcount]
      · rw [List.count_cons_of_ne hne, List.count_cons_self, hcount]
    · rw [if_neg hseen] at hcount
      simp only [List.mem_cons, List.not_mem_nil, or_false, not_or] at hseen
      rw [List.count_cons_of_ne (Ne.symm hseen.1), List.count_cons_of_ne (Ne.symm hseen.2)]
      exact hcount

theorem scan_of_delivered {p : StreamParser} (h : p.try_parse_one.2 = .Message) :
    ∃ msg k, scan_frame p.opts p.unread = .ok (msg, k) ∧
    p.try_parse_one.1.pending = p.pending ++ [msg] := by
  revert h
  rw [StreamParser.try_parse_one]
  rcases scan_frame p.opts p.unread with ((_ | err) | _ | ⟨n, err⟩) | ⟨msg, k⟩ <;> intro h
  · cases h
  · cases h
  · dsimp only at h
    split at h <;> cases h
  · cases h
  · exact ⟨msg, k, rfl, rfl⟩

/-- **The delivered field list is faithful** to the frame at the read position. The buffer is a
`std::vector<char>`, which holds less than 2^63 bytes. -/
theorem delivered_fields_faithful {p : StreamParser} (hp : p.buffered < 2 ^ 63)
    (h : p.try_parse_one.2 = .Message) :
    ∃ (f : Frame) (rest : Bytes) (msg : Message), p.unread = f.bytes ++ rest ∧
      p.try_parse_one.1.pending = p.pending ++ [msg] ∧ Faithful f msg := by
  obtain ⟨msg, k, hscan, hpending⟩ := scan_of_delivered h
  obtain ⟨-, f, rest, hunread, -, -, -, rfl⟩ := frame_of_scan_frame hscan
  have hlen : (raw_bytes f.fields).length < 2 ^ 63 := by
    have hsplit := congrArg List.length hunread
    have hframe := f.length_bytes
    rw [StreamParser.buffered] at hp
    rw [List.length_append] at hsplit
    omega
  exact ⟨f, rest, f.message, hunread, hpending, f.faithful hlen⟩

/-- A frame with zeros in front of its BodyLength, a second MsgType and a group of two entries. -/
def padded_length_frame : Bytes :=
  ascii "8=FIX.4.2" ++ [SOH] ++ ascii "9=0024" ++ [SOH] ++ ascii "35=D" ++ [SOH] ++
    ascii "448=A" ++ [SOH] ++
    ascii "448=B" ++ [SOH] ++ ascii "0035=8" ++ [SOH] ++ ascii "10=195" ++ [SOH]

/-- The parser delivers it, with the first MsgType and both entries of the group. -/
theorem delivered_fields_padded_length :
    ({ unread := padded_length_frame } : StreamParser).try_parse_one.2 = .Message ∧
      ∃ (f : Frame) (rest : Bytes) (msg : Message), padded_length_frame = f.bytes ++ rest ∧
        ({ unread := padded_length_frame } : StreamParser).try_parse_one.1.pending = [msg] ∧
        Faithful f msg := by
  have hdelivered :
      ({ unread := padded_length_frame } : StreamParser).try_parse_one.2 = .Message := by
    decide
  exact ⟨hdelivered, delivered_fields_faithful (by decide) hdelivered⟩

/-- On the wire the first BodyLength is `0024` and there is a CheckSum; the message has `24` and
none. -/
theorem padded_length_read_as_number :
    ((({} : StreamParser).feed padded_length_frame).pending.map fun m =>
        (m.raw, m.get tags.BodyLength, m.get tags.CheckSum)) =
          [(padded_length_frame, some (ascii "24"), none)] := by
  decide

end FixEngine
