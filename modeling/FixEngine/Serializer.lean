/-
`MessageBuilder`: from a message to wire bytes.

Translated from `include/fix/parser/serializer.hpp` and `src/parser/serializer.cpp`.
The builder is a member object that survives from one message to the next, so it
is a state here, and a call that may fail is a computation in
`ExceptT ErrorCode (StateM MessageBuilder)`: an error ends the call and leaves
the builder as it was when the error was latched.

What a caller can rely on is `try_serialize_run`: the outcome does not depend on
what the builder was used for before, it is an error exactly when the
BeginString or one of the emitted values holds a NUL or an SOH, and otherwise it
is the frame around the emitted fields in their order.
-/
import FixEngine.Message

set_option autoImplicit false

namespace FixEngine

open FixEngine.Decimal

/-! ## Checksum and timestamps -/

/-- `compute_checksum`, the same code in the builder and in the parser: a
`std::uint32_t` sum whose low byte is returned. -/
def compute_checksum (data : Bytes) : UInt8 :=
  ((data.foldl (fun (sum : UInt32) c => sum + c.toUInt32) 0) &&& 0xFF).toUInt8

/-- The broken-down UTC time `gmtime_r` yields, with the ranges that make the
`%04d%02d%02d-%02d:%02d:%02d.%03d` format exactly 21 characters wide. -/
structure UtcTime : Type where
  year : ℕ
  month : ℕ
  day : ℕ
  hour : ℕ
  minute : ℕ
  second : ℕ
  millis : ℕ
  year_lt : year < 10000
  month_lt : month < 100
  day_lt : day < 100
  hour_lt : hour < 100
  minute_lt : minute < 100
  second_lt : second < 100
  millis_lt : millis < 1000

/-- The first instant of a day. -/
def midnight : UtcTime :=
  { year := 2024, month := 1, day := 1, hour := 0, minute := 0, second := 0, millis := 0
    year_lt := by decide, month_lt := by decide, day_lt := by decide, hour_lt := by decide
    minute_lt := by decide, second_lt := by decide, millis_lt := by decide }

/-- `MessageBuilder::format_timestamp`. -/
def format_timestamp (t : UtcTime) : Bytes :=
  zero_pad 4 t.year ++ zero_pad 2 t.month ++ zero_pad 2 t.day ++ ascii "-"
    ++ zero_pad 2 t.hour ++ ascii ":" ++ zero_pad 2 t.minute ++ ascii ":"
    ++ zero_pad 2 t.second ++ ascii "." ++ zero_pad 3 t.millis

/-! ## The builder -/

/-- The private state of a `MessageBuilder`. -/
structure MessageBuilder : Type where
  begin_string : Bytes := []
  body : Bytes := []
  last_error : Option ErrorCode := none
  deriving DecidableEq, Repr

/-- A builder call: may fail, and changes the builder either way. -/
abbrev Build (α : Type) : Type := ExceptT ErrorCode (StateM MessageBuilder) α

/-- One `tag=value<SOH>` on the wire. -/
def field_bytes (f : Field) : Bytes := to_chars f.tag.toNat ++ EQ :: (f.value ++ [SOH])

namespace MessageBuilder

/-- `MessageBuilder::fail`. -/
def fail {α : Type} (ec : ErrorCode) : Build α := do
  modify fun b => { b with last_error := some ec }
  throw ec

/-- `MessageBuilder::append_field`; an error, once latched, is sticky. -/
def append_field (tag : TagNum) (value : Bytes) : Build Unit := do
  match (← get).last_error with
  | some ec => throw ec
  | none =>
    if has_invalid_wire_chars value then fail .InvalidField
    else modify fun b => { b with body := b.body ++ field_bytes ⟨tag, value⟩ }

/-- `MessageBuilder::begin`. -/
def begin_ (begin_string msg_type : Bytes) : Build Unit := do
  set ({ begin_string := [], body := [], last_error := none } : MessageBuilder)
  if has_invalid_wire_chars begin_string || has_invalid_wire_chars msg_type then
    fail .InvalidField
  else
    modify fun b => { b with begin_string := begin_string }
    append_field tags.MsgType msg_type

/-- `MessageBuilder::add(TagNum, std::string_view)`. -/
def add (tag : TagNum) (value : Bytes) : Build Unit := append_field tag value

/-- `MessageBuilder::add(TagNum, std::int64_t)`. -/
def add_int (tag : TagNum) (value : ℤ) : Build Unit := add tag (to_chars_int value)

/-- What `MessageBuilder::build` puts in front of the trailer: BeginString,
BodyLength and the body. -/
def pre_cs (begin_string body : Bytes) : Bytes :=
  ascii "8=" ++ begin_string ++ [SOH] ++ ascii "9=" ++ to_chars body.length ++ [SOH] ++ body

/-- `MessageBuilder::build`. -/
def build (begin_string body : Bytes) : Bytes :=
  pre_cs begin_string body ++ ascii "10="
    ++ zero_pad 3 (compute_checksum (pre_cs begin_string body)).toNat ++ [SOH]

/-- `MessageBuilder::finish`: empty while an error is latched. -/
def finish (b : MessageBuilder) : Bytes :=
  match b.last_error with
  | some _ => []
  | none => build b.begin_string b.body

/-- The optional header field `tag` of `msg`, emitted when present. -/
def add_first (msg : Message) (tag : TagNum) : Build Unit :=
  match msg.get tag with
  | some value => add tag value
  | none => pure ()

/-- The tags the body loop of `try_serialize` skips. -/
def skipped (tag : TagNum) : Bool :=
  tag == tags.BeginString || tag == tags.BodyLength || tag == tags.MsgType
    || tag == tags.SenderCompID || tag == tags.TargetCompID || tag == tags.MsgSeqNum
    || tag == tags.PossDupFlag || tag == tags.OrigSendingTime || tag == tags.SendingTime
    || tag == tags.CheckSum

/-- The body loop of `try_serialize`. -/
def add_body : List Field → Build Unit
  | [] => pure ()
  | f :: fs => do
    if skipped f.tag then add_body fs
    else
      add f.tag f.value
      add_body fs

/-- `MessageBuilder::try_serialize`. -/
def try_serialize (msg : Message) (begin_string : Bytes) (seq_num : ℕ)
    (sender target sending_time : Bytes) : Build Bytes := do
  begin_ begin_string msg.msg_type
  add tags.SenderCompID sender
  add tags.TargetCompID target
  add_int tags.MsgSeqNum (to_i64 seq_num)
  add_first msg tags.PossDupFlag
  add_first msg tags.OrigSendingTime
  add tags.SendingTime sending_time
  add_body msg.fields
  let b ← get
  match b.last_error with
  | some ec => throw ec
  | none => pure (build b.begin_string b.body)

end MessageBuilder

/-! ## What is emitted -/

/-- The fields `try_serialize` emits between BodyLength and CheckSum, in order. -/
def emitted_fields (msg : Message) (seq_num : ℕ) (sender target sending_time : Bytes) :
    List Field :=
  [⟨tags.MsgType, msg.msg_type⟩, ⟨tags.SenderCompID, sender⟩, ⟨tags.TargetCompID, target⟩,
    ⟨tags.MsgSeqNum, to_chars_int (to_i64 seq_num)⟩]
  ++ ((msg.get tags.PossDupFlag).map (Field.mk tags.PossDupFlag)).toList
  ++ ((msg.get tags.OrigSendingTime).map (Field.mk tags.OrigSendingTime)).toList
  ++ [⟨tags.SendingTime, sending_time⟩]
  ++ msg.fields.filter (fun f => !MessageBuilder.skipped f.tag)

/-- The wire form of a list of fields. -/
def encode_fields (fs : List Field) : Bytes := fs.flatMap field_bytes

/-- A value that may go on the wire: no NUL, no SOH. -/
def clean (value : Bytes) : Bool := !has_invalid_wire_chars value

@[simp] theorem clean_eq_true {value : Bytes} :
    clean value = true ↔ has_invalid_wire_chars value = false := by
  simp [clean]

theorem clean_iff {value : Bytes} : clean value = true ↔ (0 : UInt8) ∉ value ∧ SOH ∉ value := by
  rw [clean_eq_true, has_invalid_wire_chars_eq_false]

theorem clean_replicate {c : UInt8} (hnul : c ≠ 0) (hsoh : c ≠ SOH) (n : ℕ) :
    clean (List.replicate n c) = true := by
  rw [clean_iff]
  constructor
  · intro h
    exact hnul (List.eq_of_mem_replicate h).symm
  · intro h
    exact hsoh (List.eq_of_mem_replicate h).symm

@[simp] theorem encode_fields_nil : encode_fields [] = [] := rfl

theorem encode_fields_cons (f : Field) (fs : List Field) :
    encode_fields (f :: fs) = field_bytes f ++ encode_fields fs := rfl

theorem encode_fields_append (l₁ l₂ : List Field) :
    encode_fields (l₁ ++ l₂) = encode_fields l₁ ++ encode_fields l₂ := List.flatMap_append

namespace MessageBuilder

/-- Appending the fields `fs` one after the other, stopping at the first rejected
value. -/
def add_all : List Field → Build Unit
  | [] => pure ()
  | f :: fs => do
    add f.tag f.value
    add_all fs

theorem add_all_append (l₁ l₂ : List Field) :
    add_all (l₁ ++ l₂) = (do add_all l₁; add_all l₂) := by
  induction l₁ with
  | nil => simp [add_all]
  | cons f l₁ ih => simp only [List.cons_append, add_all, ih, bind_assoc]

theorem add_body_eq (fs : List Field) :
    add_body fs = add_all (fs.filter (fun f => !skipped f.tag)) := by
  induction fs with
  | nil => rfl
  | cons f fs ih =>
    unfold add_body
    by_cases h : skipped f.tag = true
    · rw [if_pos h, ih, List.filter_cons_of_neg (by simp [h])]
    · rw [if_neg h, ih, List.filter_cons_of_pos (by simp [h])]
      rfl

theorem add_first_eq (msg : Message) (tag : TagNum) :
    add_first msg tag = add_all ((msg.get tag).map (Field.mk tag)).toList := by
  unfold add_first
  cases msg.get tag with
  | none => rfl
  | some v => simp [add_all]

theorem try_serialize_eq (msg : Message) (begin_string : Bytes) (seq_num : ℕ)
    (sender target sending_time : Bytes) :
    try_serialize msg begin_string seq_num sender target sending_time = (do
      begin_ begin_string msg.msg_type
      add_all (emitted_fields msg seq_num sender target sending_time).tail
      let b ← get
      match b.last_error with
      | some ec => throw ec
      | none => pure (build b.begin_string b.body)) := by
  unfold try_serialize emitted_fields
  simp only [add_first_eq, add_body_eq, add_int, List.cons_append, List.tail_cons,
    List.nil_append, add_all, add_all_append, bind_assoc, pure_bind]

theorem run_bind {α β : Type} (m : Build α) (k : α → Build β) (b : MessageBuilder) :
    (m >>= k).run b = match m.run b with
      | (.ok a, b') => (k a).run b'
      | (.error e, b') => (.error e, b') := by
  change (m.run >>= ExceptT.bindCont k) b = _
  simp only [bind, StateT.bind]
  rcases m.run b with ⟨_ | _, b'⟩ <;> rfl

theorem run_bind_error {α β : Type} {m : Build α} {b : MessageBuilder} {e : ErrorCode}
    (k : α → Build β) (h : (m.run b).1 = .error e) : ((m >>= k).run b).1 = .error e := by
  rw [run_bind]
  rcases hr : m.run b with ⟨r, b'⟩
  have he : r = .error e := by rw [← h, hr]
  rw [he]

theorem add_run (f : Field) (b : MessageBuilder) (hb : b.last_error = none) :
    (add f.tag f.value).run b =
      if clean f.value then (.ok (), { b with body := b.body ++ field_bytes f })
      else (.error .InvalidField, { b with last_error := some .InvalidField }) := by
  unfold add append_field
  rw [run_bind]
  change (match b.last_error with | some ec => throw ec | none => _ : Build Unit).run b = _
  rw [hb]
  by_cases hf : has_invalid_wire_chars f.value = true
  · simp only [hf, if_true, clean, Bool.not_true, Bool.false_eq_true, if_false]
    rfl
  · simp only [hf, if_false, clean, Bool.not_false, if_true, Bool.false_eq_true]
    cases b
    cases hb
    rfl

theorem add_all_run (fs : List Field) (b : MessageBuilder) (hb : b.last_error = none) :
    if fs.all (fun f => clean f.value) then
      (add_all fs).run b = (.ok (), { b with body := b.body ++ encode_fields fs })
    else ((add_all fs).run b).1 = .error .InvalidField := by
  induction fs generalizing b with
  | nil =>
    rw [List.all_nil, if_pos rfl, encode_fields_nil, List.append_nil]
    rfl
  | cons f fs ih =>
    rw [add_all, run_bind, add_run f b hb, List.all_cons]
    by_cases hf : clean f.value = true
    · rw [if_pos hf, hf, Bool.true_and]
      specialize ih { b with body := b.body ++ field_bytes f } hb
      simpa only [encode_fields_cons, List.append_assoc] using ih
    · rw [if_neg hf]
      simp [hf]

theorem begin_run (begin_string msg_type : Bytes) (b : MessageBuilder) :
    if clean begin_string && clean msg_type then
      (begin_ begin_string msg_type).run b
        = (.ok (), ⟨begin_string, field_bytes ⟨tags.MsgType, msg_type⟩, none⟩)
    else ((begin_ begin_string msg_type).run b).1 = .error .InvalidField := by
  unfold begin_
  by_cases h1 : has_invalid_wire_chars begin_string = true
  · simp only [clean, h1, Bool.not_true, Bool.false_and, Bool.false_eq_true, if_false,
      Bool.true_or, if_true]
    rfl
  by_cases h2 : has_invalid_wire_chars msg_type = true
  · simp only [clean, h2, Bool.not_true, Bool.and_false, Bool.false_eq_true, if_false,
      Bool.or_true, if_true]
    rfl
  · have hadd := add_run ⟨tags.MsgType, msg_type⟩ { begin_string := begin_string } rfl
    simp only [clean, h2, Bool.not_false, if_true] at hadd
    simp only [clean, h1, h2, Bool.not_false, Bool.and_self, if_true, Bool.or_self,
      Bool.false_eq_true, if_false]
    exact hadd

/-- **`try_serialize`.** Whatever the builder held before, the call fails exactly
when the BeginString or an emitted value holds a NUL or an SOH, and otherwise
returns the frame around the emitted fields. -/
theorem try_serialize_run (msg : Message) (begin_string : Bytes) (seq_num : ℕ)
    (sender target sending_time : Bytes) (b : MessageBuilder) :
    ((try_serialize msg begin_string seq_num sender target sending_time).run b).1 =
      if clean begin_string &&
          (emitted_fields msg seq_num sender target sending_time).all (fun f => clean f.value) then
        .ok (build begin_string
          (encode_fields (emitted_fields msg seq_num sender target sending_time)))
      else .error .InvalidField := by
  obtain ⟨rest, hrest⟩ : ∃ rest, emitted_fields msg seq_num sender target sending_time
      = ⟨tags.MsgType, msg.msg_type⟩ :: rest := ⟨_, rfl⟩
  rw [try_serialize_eq, hrest, List.tail_cons, List.all_cons, ← Bool.and_assoc]
  have hbegin := begin_run begin_string msg.msg_type b
  by_cases h1 : (clean begin_string && clean msg.msg_type) = true
  · rw [if_pos h1] at hbegin
    rw [run_bind, hbegin, h1, Bool.true_and]
    have hall := add_all_run rest
      ⟨begin_string, field_bytes ⟨tags.MsgType, msg.msg_type⟩, none⟩ rfl
    by_cases h2 : rest.all (fun f => clean f.value) = true
    · rw [if_pos h2] at hall
      simp only [run_bind, hall, if_pos h2]
      rfl
    · rw [if_neg h2] at hall
      rw [if_neg h2]
      exact run_bind_error _ hall
  · rw [if_neg h1] at hbegin
    rw [if_neg (by simp_all)]
    exact run_bind_error _ hbegin

end MessageBuilder

end FixEngine
