/-
The core types: error codes, versions, session identifiers, fields, messages.

Translated from `include/fix/core/{types,constants,field,message}.hpp`. A
message is an ordered list of `(tag, value)` fields plus the raw bytes it was
parsed from and the duplicate-header mark; `TagNum` is the 32-bit tag type, so a
tag out of range cannot be written down. Values are byte strings.

`SeqNum` is `std::uint64_t` in the source. Sequence numbers are `ℕ` here and
the two casts the source performs on them (`static_cast<std::int64_t>` when one
is written to the wire, `static_cast<SeqNum>` when one is read back) are
`to_i64` and `to_u64`, with their wrap-around; `seq_succ` is the wrapping `+ 1`.
-/
import FixEngine.Decimal

set_option autoImplicit false

namespace FixEngine

export FixEngine.Decimal (Bytes ascii)

open FixEngine.Decimal

/-! ## Fundamental types -/

/-- `using TagNum = std::uint32_t`. -/
abbrev TagNum : Type := UInt32

/-- `n + 1` on `SeqNum`. -/
def seq_succ (n : ℕ) : ℕ := (n + 1) % 2 ^ 64

/-- `static_cast<std::int64_t>(n)` of a `SeqNum`. -/
def to_i64 (n : ℕ) : ℤ := if n < 2 ^ 63 then (n : ℤ) else (n : ℤ) - 2 ^ 64

/-- `static_cast<SeqNum>(i)` of a `std::int64_t`. -/
def to_u64 (i : ℤ) : ℕ := (i % 2 ^ 64).toNat

theorem seq_succ_of_lt {n : ℕ} (h : n + 1 < 2 ^ 64) : seq_succ n = n + 1 :=
  Nat.mod_eq_of_lt h

theorem to_u64_lt (i : ℤ) : to_u64 i < 2 ^ 64 := by
  unfold to_u64
  omega

theorem to_u64_of_nonneg {i : ℤ} (h0 : 0 ≤ i) (h : i < 2 ^ 64) : to_u64 i = i.toNat := by
  unfold to_u64
  rw [Int.emod_eq_of_lt h0 h]

theorem to_i64_range {n : ℕ} (h : n < 2 ^ 64) : -(2 ^ 63) ≤ to_i64 n ∧ to_i64 n < 2 ^ 63 := by
  unfold to_i64
  split <;> omega

theorem to_u64_to_i64 {n : ℕ} (h : n < 2 ^ 64) : to_u64 (to_i64 n) = n := by
  unfold to_u64 to_i64
  split <;> omega

/-- `enum class ErrorCode`. -/
inductive ErrorCode : Type where
  | Ok | ParseError | ValidationError | SequenceError | SessionError | TransportError
  | StoreError | DictionaryError | TimeoutError | AuthError | UnsupportedVersion
  | MissingField | InvalidField | DuplicateField | BadChecksum | BadLength
  | UnknownMessage | RejectCode
  deriving DecidableEq, Repr

/-- `FixErrorCategory::message`. -/
def ErrorCode.message : ErrorCode → Bytes
  | .Ok => ascii "ok"
  | .ParseError => ascii "parse error"
  | .ValidationError => ascii "validation error"
  | .SequenceError => ascii "sequence error"
  | .SessionError => ascii "session error"
  | .TransportError => ascii "transport error"
  | .StoreError => ascii "store error"
  | .DictionaryError => ascii "dictionary error"
  | .TimeoutError => ascii "timeout"
  | .AuthError => ascii "authentication error"
  | .UnsupportedVersion => ascii "unsupported FIX version"
  | .MissingField => ascii "missing required field"
  | .InvalidField => ascii "invalid field value"
  | .DuplicateField => ascii "duplicate field"
  | .BadChecksum => ascii "bad checksum"
  | .BadLength => ascii "bad body length"
  | .UnknownMessage => ascii "unknown message type"
  | .RejectCode => ascii "message rejected"

/-- `Result<T>`, i.e. `std::expected<T, std::error_code>`. -/
abbrev Result (α : Type) : Type := Except ErrorCode α

/-- `enum class FixVersion`. -/
inductive FixVersion : Type where
  | FIX_4_0 | FIX_4_1 | FIX_4_2 | FIX_4_3 | FIX_4_4 | FIX_5_0 | FIX_5_0SP1 | FIX_5_0SP2
  | FIXT_1_1 | Unknown
  deriving DecidableEq, Repr

/-- `to_string(FixVersion)`. -/
def FixVersion.to_string : FixVersion → Bytes
  | .FIX_4_0 => ascii "FIX.4.0"
  | .FIX_4_1 => ascii "FIX.4.1"
  | .FIX_4_2 => ascii "FIX.4.2"
  | .FIX_4_3 => ascii "FIX.4.3"
  | .FIX_4_4 => ascii "FIX.4.4"
  | .FIX_5_0 => ascii "FIX.5.0"
  | .FIX_5_0SP1 => ascii "FIX.5.0SP1"
  | .FIX_5_0SP2 => ascii "FIX.5.0SP2"
  | .FIXT_1_1 => ascii "FIXT.1.1"
  | .Unknown => ascii "Unknown"

/-- `parse_version`. -/
def parse_version (sv : Bytes) : FixVersion :=
  if sv = ascii "FIX.4.0" then .FIX_4_0
  else if sv = ascii "FIX.4.1" then .FIX_4_1
  else if sv = ascii "FIX.4.2" then .FIX_4_2
  else if sv = ascii "FIX.4.3" then .FIX_4_3
  else if sv = ascii "FIX.4.4" then .FIX_4_4
  else if sv = ascii "FIX.5.0" then .FIX_5_0
  else if sv = ascii "FIX.5.0SP1" then .FIX_5_0SP1
  else if sv = ascii "FIX.5.0SP2" then .FIX_5_0SP2
  else if sv = ascii "FIXT.1.1" then .FIXT_1_1
  else .Unknown

theorem parse_version_to_string (v : FixVersion) : parse_version v.to_string = v := by
  cases v <;> decide

theorem length_version_le (v : FixVersion) : v.to_string.length ≤ 10 := by
  cases v <;> decide

/-- `struct SessionID`. -/
structure SessionID : Type where
  version : FixVersion
  senderCompID : Bytes
  targetCompID : Bytes
  qualifier : Bytes
  deriving DecidableEq, Repr

/-- `inline constexpr char SOH`. -/
abbrev SOH : UInt8 := 1

/-- The `=` between a tag and its value. -/
abbrev EQ : UInt8 := 61

/-- The line feed at the end of a line in a file. -/
def LF : UInt8 := 10

/-! ## Tags and message types -/

namespace tags

abbrev BeginString : TagNum := 8
abbrev BodyLength : TagNum := 9
abbrev MsgType : TagNum := 35
abbrev SenderCompID : TagNum := 49
abbrev TargetCompID : TagNum := 56
abbrev MsgSeqNum : TagNum := 34
abbrev SendingTime : TagNum := 52
abbrev OrigSendingTime : TagNum := 122
abbrev PossDupFlag : TagNum := 43
abbrev PossResend : TagNum := 97
abbrev OnBehalfOfCompID : TagNum := 115
abbrev DeliverToCompID : TagNum := 128
abbrev SecureDataLen : TagNum := 90
abbrev SecureData : TagNum := 91
abbrev SenderSubID : TagNum := 50
abbrev SenderLocationID : TagNum := 142
abbrev TargetSubID : TagNum := 57
abbrev TargetLocationID : TagNum := 143
abbrev XmlData : TagNum := 618
abbrev XmlDataLen : TagNum := 212
abbrev MessageEncoding : TagNum := 347
abbrev LastMsgSeqNumProcessed : TagNum := 369
abbrev NoHops : TagNum := 627
abbrev ApplVerID : TagNum := 1128
abbrev CstmApplVerID : TagNum := 1129
abbrev CheckSum : TagNum := 10
abbrev EncryptMethod : TagNum := 98
abbrev HeartBtInt : TagNum := 108
abbrev ResetSeqNumFlag : TagNum := 141
abbrev TestReqID : TagNum := 112
abbrev GapFillFlag : TagNum := 123
abbrev NewSeqNo : TagNum := 36
abbrev BeginSeqNo : TagNum := 7
abbrev EndSeqNo : TagNum := 16
abbrev RefSeqNum : TagNum := 45
abbrev RefMsgType : TagNum := 372
abbrev SessionRejectReason : TagNum := 373
abbrev Text : TagNum := 58
abbrev RefTagID : TagNum := 371
abbrev Username : TagNum := 553
abbrev Password : TagNum := 554
abbrev DefaultApplVerID : TagNum := 1137
abbrev BusinessRejectReason : TagNum := 380

end tags

namespace msg_types

abbrev Heartbeat : Bytes := ascii "0"
abbrev TestRequest : Bytes := ascii "1"
abbrev ResendRequest : Bytes := ascii "2"
abbrev Reject : Bytes := ascii "3"
abbrev SequenceReset : Bytes := ascii "4"
abbrev Logout : Bytes := ascii "5"
abbrev Logon : Bytes := ascii "A"
abbrev BusinessMessageReject : Bytes := ascii "j"

end msg_types

/-! ## Fields and messages -/

/-- `has_invalid_wire_chars`: NUL or SOH. -/
def has_invalid_wire_chars (value : Bytes) : Bool := value.any (fun c => c == 0 || c == SOH)

theorem has_invalid_wire_chars_eq_false {value : Bytes} :
    has_invalid_wire_chars value = false ↔ (0 : UInt8) ∉ value ∧ SOH ∉ value := by
  simp only [has_invalid_wire_chars, List.any_eq_false, Bool.or_eq_true, beq_iff_eq, not_or]
  constructor
  · intro h
    exact ⟨fun h0 => (h 0 h0).1 rfl, fun h1 => (h SOH h1).2 rfl⟩
  · rintro ⟨h0, h1⟩ c hc
    exact ⟨fun e => h0 (e ▸ hc), fun e => h1 (e ▸ hc)⟩

/-- `struct Field`. -/
structure Field : Type where
  tag : TagNum
  value : Bytes
  deriving DecidableEq, Repr

/-- `class Message`. -/
structure Message : Type where
  fields : List Field := []
  raw : Bytes := []
  duplicate_header : Bool := false
  deriving DecidableEq, Repr

/-- The upsert loop of `Message::set`: overwrite the first occurrence, else append. -/
def upsert (tag : TagNum) (value : Bytes) : List Field → List Field
  | [] => [⟨tag, value⟩]
  | f :: fs => if f.tag = tag then ⟨tag, value⟩ :: fs else f :: upsert tag value fs

/-- First occurrence of a tag in a field list. -/
def lookup (tag : TagNum) : List Field → Option Bytes
  | [] => none
  | f :: fs => if f.tag = tag then some f.value else lookup tag fs

namespace Message

/-- `Message::set(TagNum, std::string_view)`. -/
def set (m : Message) (tag : TagNum) (value : Bytes) : Result Message :=
  if has_invalid_wire_chars value then .error .InvalidField
  else .ok { m with fields := upsert tag value m.fields }

/-- `m.set(tag, value);` with the `Result` discarded, as every call site of the
session does: a rejected value leaves the message unchanged. -/
def set_discard (m : Message) (tag : TagNum) (value : Bytes) : Message :=
  match m.set tag value with
  | .ok m' => m'
  | .error _ => m

/-- `Message::set(TagNum, std::int64_t)`, result discarded. -/
def set_int (m : Message) (tag : TagNum) (value : ℤ) : Message :=
  m.set_discard tag (to_chars_int value)

/-- `Message::add(TagNum, std::string_view)`. -/
def add (m : Message) (tag : TagNum) (value : Bytes) : Result Message :=
  if has_invalid_wire_chars value then .error .InvalidField
  else .ok { m with fields := m.fields ++ [⟨tag, value⟩] }

/-- `explicit Message(std::string_view msg_type)`. -/
def of_type (msg_type : Bytes) : Message := ({} : Message).set_discard tags.MsgType msg_type

/-- `Message::get`: first occurrence wins. -/
def get (m : Message) (tag : TagNum) : Option Bytes := lookup tag m.fields

/-- `Message::has`. -/
def has (m : Message) (tag : TagNum) : Bool := (m.get tag).isSome

/-- `Message::get_int`. The rest after the number is not looked at: `"12abc"` is
`12`. -/
def get_int (m : Message) (tag : TagNum) : Option ℤ :=
  match m.get tag with
  | none => none
  | some sv =>
    match from_chars_int64 sv with
    | .ok v _ => some v
    | _ => none

/-- `Message::msg_type`. -/
def msg_type (m : Message) : Bytes := (m.get tags.MsgType).getD []

/-- `Message::begin_string_version`. -/
def begin_string_version (m : Message) : FixVersion :=
  parse_version ((m.get tags.BeginString).getD [])

/-- `Message::seq_num`. -/
def seq_num (m : Message) : ℕ := to_u64 ((m.get_int tags.MsgSeqNum).getD 0)

/-- `Message::poss_dup`. -/
def poss_dup (m : Message) : Bool := (m.get tags.PossDupFlag).getD (ascii "N") = ascii "Y"

theorem seq_num_lt (m : Message) : m.seq_num < 2 ^ 64 := to_u64_lt _

end Message

/-! ## Lookup lemmas -/

@[simp] theorem lookup_nil (tag : TagNum) : lookup tag [] = none := rfl

theorem lookup_cons (tag : TagNum) (f : Field) (fs : List Field) :
    lookup tag (f :: fs) = if f.tag = tag then some f.value else lookup tag fs := rfl

theorem lookup_cons_self (tag : TagNum) (v : Bytes) (fs : List Field) :
    lookup tag (⟨tag, v⟩ :: fs) = some v := if_pos rfl

theorem lookup_cons_ne {tag t : TagNum} (h : t ≠ tag) (v : Bytes) (fs : List Field) :
    lookup tag (⟨t, v⟩ :: fs) = lookup tag fs := if_neg h

theorem lookup_append (tag : TagNum) (l₁ l₂ : List Field) :
    lookup tag (l₁ ++ l₂) = (lookup tag l₁).or (lookup tag l₂) := by
  induction l₁ with
  | nil => simp
  | cons f l₁ ih =>
    rw [List.cons_append, lookup_cons, lookup_cons]
    split
    · simp
    · exact ih

theorem lookup_eq_none {tag : TagNum} {fs : List Field} :
    lookup tag fs = none ↔ ∀ f ∈ fs, f.tag ≠ tag := by
  induction fs with
  | nil => simp
  | cons f fs ih =>
    rw [lookup_cons]
    by_cases h : f.tag = tag
    · simp [h]
    · simp [h, ih]

theorem lookup_filter {tag : TagNum} {p : Field → Bool} (h : ∀ f : Field, f.tag = tag → p f = true)
    (fs : List Field) : lookup tag (fs.filter p) = lookup tag fs := by
  induction fs with
  | nil => rfl
  | cons f fs ih =>
    by_cases hf : f.tag = tag
    · rw [List.filter_cons_of_pos (h f hf), lookup_cons, lookup_cons, if_pos hf, if_pos hf]
    · by_cases hp : p f = true
      · rw [List.filter_cons_of_pos hp, lookup_cons, lookup_cons, if_neg hf, if_neg hf, ih]
      · rw [List.filter_cons_of_neg hp, lookup_cons, if_neg hf, ih]

theorem lookup_upsert_self (tag : TagNum) (v : Bytes) (fs : List Field) :
    lookup tag (upsert tag v fs) = some v := by
  induction fs with
  | nil => exact if_pos rfl
  | cons f fs ih =>
    unfold upsert
    by_cases h : f.tag = tag
    · rw [if_pos h]; exact if_pos rfl
    · rw [if_neg h, lookup_cons, if_neg h, ih]

theorem lookup_upsert_ne {tag t : TagNum} (h : t ≠ tag) (v : Bytes) (fs : List Field) :
    lookup tag (upsert t v fs) = lookup tag fs := by
  induction fs with
  | nil => exact if_neg h
  | cons f fs ih =>
    unfold upsert
    by_cases hf : f.tag = t
    · have hft : f.tag ≠ tag := fun e => h (hf.symm.trans e)
      rw [if_pos hf, lookup_cons, lookup_cons, if_neg h, if_neg hft]
    · rw [if_neg hf, lookup_cons, lookup_cons, ih]

theorem filter_upsert {p : Field → Bool} {tag : TagNum} (hp : ∀ v, p ⟨tag, v⟩ = false)
    (v : Bytes) (fs : List Field) : (upsert tag v fs).filter p = fs.filter p := by
  induction fs with
  | nil => simp [upsert, hp]
  | cons f fs ih =>
    unfold upsert
    by_cases hf : f.tag = tag
    · have hpf : p f = false := by
        have := hp f.value
        rwa [← hf] at this
      rw [if_pos hf, List.filter_cons_of_neg (by simp [hp]),
        List.filter_cons_of_neg (by simp [hpf])]
    · rw [if_neg hf, List.filter_cons, List.filter_cons, ih]

namespace Message

theorem set_discard_of_clean {m : Message} {tag : TagNum} {v : Bytes}
    (h : has_invalid_wire_chars v = false) :
    m.set_discard tag v = { m with fields := upsert tag v m.fields } := by
  simp [set_discard, set, h]

theorem set_discard_of_invalid {m : Message} {tag : TagNum} {v : Bytes}
    (h : has_invalid_wire_chars v = true) : m.set_discard tag v = m := by
  simp [set_discard, set, h]

end Message

end FixEngine
