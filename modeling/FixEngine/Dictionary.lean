/-
`Dictionary.lean` -- the data dictionary (`include/fix/dictionary/data_dictionary.hpp`,
`src/dictionary/data_dictionary.cpp`).

A dictionary knows which values a field may have and which fields a message must have.
The maps of the class are functions here: they are only ever asked for one key, and the
index by name, which goes through them in an unspecified order, is not used by any part
of the engine. Of a definition the members that `validate` reads are kept.

`Passes` says what a message has to be like, and `check_eq_none_iff` that this is what the
session asks. What is read of a frame, and what is sent again, resembles the message that
was sent: it differs from it in the standard header only. A dictionary that leaves the
header to the session lets the one through if it lets the other through
(`Neutral.passes`), and each of the built-in dictionaries does (`neutral_builtin`).
-/
import FixEngine.Handshake
import FixEngine.Receive
import FixEngine.Traffic

set_option autoImplicit false

namespace FixEngine

open IMessageStore MessageBuilder

/-! ## Tags and types of application messages -/

namespace tags

abbrev ClOrdID : TagNum := 11
abbrev OrigClOrdID : TagNum := 41
abbrev OrderID : TagNum := 37
abbrev ExecID : TagNum := 17
abbrev ExecType : TagNum := 150
abbrev OrdStatus : TagNum := 39
abbrev Symbol : TagNum := 55
abbrev Side : TagNum := 54
abbrev OrderQty : TagNum := 38
abbrev OrdType : TagNum := 40
abbrev Price : TagNum := 44
abbrev StopPx : TagNum := 99
abbrev TimeInForce : TagNum := 59
abbrev TransactTime : TagNum := 60
abbrev LeavesQty : TagNum := 151
abbrev CumQty : TagNum := 14
abbrev AvgPx : TagNum := 6
abbrev LastQty : TagNum := 32
abbrev LastPx : TagNum := 31
abbrev OrdRejReason : TagNum := 103
abbrev CxlRejReason : TagNum := 102
abbrev CxlRejResponseTo : TagNum := 434
abbrev HandlInst : TagNum := 21
abbrev Account : TagNum := 1
abbrev SecurityID : TagNum := 48
abbrev SecurityIDSource : TagNum := 22
abbrev Currency : TagNum := 15
abbrev MDReqID : TagNum := 262
abbrev SubscriptionRequestType : TagNum := 263
abbrev MarketDepth : TagNum := 264
abbrev MDUpdateType : TagNum := 265
abbrev NoMDEntryTypes : TagNum := 267
abbrev NoRelatedSym : TagNum := 146
abbrev MDEntryType : TagNum := 269
abbrev MDEntryPx : TagNum := 270
abbrev MDEntrySize : TagNum := 271
abbrev MDEntryID : TagNum := 278
abbrev MDUpdateAction : TagNum := 279
abbrev NoMDEntries : TagNum := 268

end tags

namespace msg_types

abbrev ExecutionReport : Bytes := ascii "8"
abbrev NewOrderSingle : Bytes := ascii "D"
abbrev OrderCancelRequest : Bytes := ascii "F"
abbrev OrderCancelReplaceRequest : Bytes := ascii "G"
abbrev MarketDataRequest : Bytes := ascii "V"
abbrev MarketDataSnapshotFullRefresh : Bytes := ascii "W"
abbrev MarketDataIncrementalRefresh : Bytes := ascii "X"

end msg_types

/-! ## Dictionaries -/

/-- `struct FieldDef`: the tag and the values it may have, all of them if none is listed. -/
structure FieldDef where
  tag : TagNum
  valid_values : List Bytes := []

def FieldDef.is_enum (d : FieldDef) : Bool := !d.valid_values.isEmpty

/-- `FieldDef::validate_value`. -/
def FieldDef.validate_value (d : FieldDef) (v : Bytes) : Bool :=
  if !d.is_enum then true else d.valid_values.contains v

/-- `struct MessageDef`: the type and the tags it must have. -/
structure MessageDef where
  msg_type : Bytes
  required_tags : List TagNum

/-- `class DataDictionary`. -/
structure DataDictionary where
  version : FixVersion := .Unknown
  fields_by_tag : TagNum → Option FieldDef := fun _ => none
  messages_by_type : Bytes → Option MessageDef := fun _ => none

namespace DataDictionary

/-- `DataDictionary::find_field`. -/
def find_field (d : DataDictionary) (tag : TagNum) : Option FieldDef := d.fields_by_tag tag

/-- `DataDictionary::find_message`. -/
def find_message (d : DataDictionary) (msg_type : Bytes) : Option MessageDef :=
  d.messages_by_type msg_type

/-- `DataDictionary::register_field`. -/
def register_field (d : DataDictionary) (f : FieldDef) : DataDictionary :=
  { d with fields_by_tag := fun tag => if tag = f.tag then some f else d.fields_by_tag tag }

/-- `DataDictionary::register_message`. -/
def register_message (d : DataDictionary) (m : MessageDef) : DataDictionary :=
  { d with
    messages_by_type := fun type =>
      if type = m.msg_type then some m else d.messages_by_type type }

/-- The field is defined, and its value is not one that it may have. -/
def refuses (d : DataDictionary) (f : Field) : Bool :=
  match d.fields_by_tag f.tag with
  | none => false
  | some fdef => !fdef.validate_value f.value

/-- `DataDictionary::validate`: the type, the tags it must have, the values of the fields. -/
def validate (d : DataDictionary) (msg : Message) : Result Unit :=
  match d.messages_by_type msg.msg_type with
  | none => .error .UnknownMessage
  | some mdef =>
    if mdef.required_tags.any fun req => !msg.has req then .error .MissingField
    else if msg.fields.any d.refuses then .error .InvalidField
    else .ok ()

/-- What `process_app` asks: types that the dictionary does not define are let through. -/
def check (d : DataDictionary) (msg : Message) : Option ErrorCode :=
  match d.find_message msg.msg_type with
  | none => none
  | some _ =>
    match d.validate msg with
    | .ok _ => none
    | .error e => some e

/-! ### The built-in dictionaries -/

/-- One-letter values. -/
def letters (s : String) : List Bytes := (ascii s).map fun c => [c]

/-- The fields of `load_builtin_fields`. -/
def builtin_fields : List FieldDef :=
  [{ tag := tags.BeginString }, { tag := tags.BodyLength }, { tag := tags.MsgType },
    { tag := tags.MsgSeqNum }, { tag := tags.SenderCompID }, { tag := tags.TargetCompID },
    { tag := tags.SendingTime }, { tag := tags.CheckSum },
    { tag := tags.PossDupFlag, valid_values := letters "YN" },
    { tag := tags.PossResend, valid_values := letters "YN" }, { tag := tags.OrigSendingTime },
    -- session
    { tag := tags.EncryptMethod, valid_values := letters "0123456" }, { tag := tags.HeartBtInt },
    { tag := tags.TestReqID }, { tag := tags.GapFillFlag, valid_values := letters "YN" },
    { tag := tags.NewSeqNo }, { tag := tags.BeginSeqNo }, { tag := tags.EndSeqNo },
    { tag := tags.RefSeqNum }, { tag := tags.RefMsgType }, { tag := tags.SessionRejectReason },
    { tag := tags.Text }, { tag := tags.RefTagID },
    { tag := tags.ResetSeqNumFlag, valid_values := letters "YN" }, { tag := tags.Username },
    { tag := tags.Password }, { tag := tags.DefaultApplVerID }, { tag := tags.ApplVerID },
    -- order
    { tag := tags.ClOrdID }, { tag := tags.OrigClOrdID }, { tag := tags.OrderID },
    { tag := tags.ExecID },
    { tag := tags.ExecType, valid_values := letters "0123456789ABCDEF" },
    { tag := tags.OrdStatus, valid_values := letters "0123456789ABC" }, { tag := tags.Symbol },
    { tag := tags.Side, valid_values := letters "123456789" }, { tag := tags.OrderQty },
    { tag := tags.OrdType, valid_values := letters "123456789ABCD" }, { tag := tags.Price },
    { tag := tags.StopPx }, { tag := tags.TimeInForce, valid_values := letters "0123456789" },
    { tag := tags.TransactTime }, { tag := tags.LeavesQty }, { tag := tags.CumQty },
    { tag := tags.AvgPx }, { tag := tags.LastQty }, { tag := tags.LastPx },
    { tag := tags.OrdRejReason }, { tag := tags.CxlRejReason },
    { tag := tags.CxlRejResponseTo, valid_values := letters "123" }, { tag := tags.Account },
    { tag := tags.SecurityID }, { tag := tags.SecurityIDSource }, { tag := tags.Currency },
    -- market data
    { tag := tags.MDReqID }, { tag := tags.SubscriptionRequestType, valid_values := letters "012" },
    { tag := tags.MarketDepth }, { tag := tags.MDUpdateType, valid_values := letters "01" },
    { tag := tags.NoMDEntryTypes }, { tag := tags.NoRelatedSym },
    { tag := tags.MDEntryType, valid_values := letters "0123456789ABCDEFGHIJ" },
    { tag := tags.MDEntryPx }, { tag := tags.MDEntrySize }, { tag := tags.MDEntryID },
    { tag := tags.MDUpdateAction, valid_values := letters "012" }, { tag := tags.NoMDEntries }]

/-- `DataDictionary::load_builtin_fields`. -/
def load_builtin_fields (d : DataDictionary) : DataDictionary :=
  builtin_fields.foldl register_field d

/-- The messages of `load_builtin_messages_42`. -/
def builtin_messages : List MessageDef :=
  [⟨msg_types.Heartbeat, []⟩, ⟨msg_types.TestRequest, [tags.TestReqID]⟩,
    ⟨msg_types.ResendRequest, [tags.BeginSeqNo, tags.EndSeqNo]⟩,
    ⟨msg_types.Reject, [tags.RefSeqNum]⟩, ⟨msg_types.SequenceReset, [tags.NewSeqNo]⟩,
    ⟨msg_types.Logout, []⟩, ⟨msg_types.Logon, [tags.EncryptMethod, tags.HeartBtInt]⟩,
    ⟨msg_types.NewOrderSingle, [tags.ClOrdID, tags.HandlInst, tags.Symbol, tags.Side,
      tags.TransactTime, tags.OrderQty, tags.OrdType]⟩,
    ⟨msg_types.ExecutionReport, [tags.OrderID, tags.ExecID, tags.ExecType, tags.OrdStatus,
      tags.Symbol, tags.Side, tags.LeavesQty, tags.CumQty, tags.AvgPx]⟩,
    ⟨msg_types.OrderCancelRequest, [tags.OrigClOrdID, tags.ClOrdID, tags.Symbol, tags.Side,
      tags.TransactTime]⟩,
    ⟨msg_types.OrderCancelReplaceRequest, [tags.OrigClOrdID, tags.ClOrdID, tags.HandlInst,
      tags.Symbol, tags.Side, tags.TransactTime, tags.OrderQty, tags.OrdType]⟩,
    ⟨msg_types.MarketDataRequest, [tags.MDReqID, tags.SubscriptionRequestType, tags.MarketDepth,
      tags.NoMDEntryTypes, tags.NoRelatedSym]⟩,
    ⟨msg_types.MarketDataSnapshotFullRefresh, [tags.Symbol, tags.NoMDEntries]⟩,
    ⟨msg_types.MarketDataIncrementalRefresh, [tags.NoMDEntries]⟩,
    ⟨msg_types.BusinessMessageReject, [tags.RefMsgType, tags.BusinessRejectReason]⟩]

/-- `DataDictionary::load_builtin_messages_42`. -/
def load_builtin_messages_42 (d : DataDictionary) : DataDictionary :=
  builtin_messages.foldl register_message d

/-- `DataDictionary::load_builtin_messages_44`. -/
def load_builtin_messages_44 (d : DataDictionary) : DataDictionary :=
  { d.load_builtin_messages_42 with version := .FIX_4_4 }

/-- `DataDictionary::load_builtin_messages_50sp2`. -/
def load_builtin_messages_50sp2 (d : DataDictionary) : DataDictionary :=
  { d.load_builtin_messages_44 with version := .FIX_5_0SP2 }.register_field
    { tag := tags.ApplVerID, valid_values := letters "0123456789" }

/-- `DataDictionary::load_builtin`. -/
def load_builtin (v : FixVersion) : DataDictionary :=
  let d := load_builtin_fields { version := v }
  let d :=
    match v with
    | .FIX_4_2 => d.load_builtin_messages_42
    | .FIX_4_4 => d.load_builtin_messages_44
    | .FIX_5_0SP2 => d.load_builtin_messages_50sp2
    | .FIXT_1_1 => d.load_builtin_messages_50sp2
    | _ => d.load_builtin_messages_44
  { d with version := v }

/-! ## What is let through -/

/-- The dictionary has nothing against the value. -/
def Admits (d : DataDictionary) (tag : TagNum) (v : Bytes) : Prop :=
  ∀ fdef, d.find_field tag = some fdef → fdef.validate_value v = true

/-- A message that has the tags it must have, and no value that its tag may not have. -/
structure Conforms (d : DataDictionary) (mdef : MessageDef) (msg : Message) : Prop where
  required : ∀ tag ∈ mdef.required_tags, msg.has tag = true
  values : ∀ f ∈ msg.fields, d.Admits f.tag f.value

/-- If the dictionary defines the type, then the message conforms to the definition. -/
def Passes (d : DataDictionary) (msg : Message) : Prop :=
  ∀ mdef, d.find_message msg.msg_type = some mdef → d.Conforms mdef msg

variable {d : DataDictionary}

theorem refuses_iff {f : Field} : d.refuses f = true ↔ ¬d.Admits f.tag f.value := by
  rw [refuses, Admits, find_field]
  cases d.fields_by_tag f.tag with
  | none => simp
  | some fdef => simp

theorem validate_ok_iff {mdef : MessageDef} {msg : Message}
    (h : d.find_message msg.msg_type = some mdef) :
    d.validate msg = .ok () ↔ d.Conforms mdef msg := by
  have hdefined : d.messages_by_type msg.msg_type = some mdef := h
  rw [validate, hdefined]
  dsimp only
  split
  · -- a tag is missing
    rename_i hmissing
    obtain ⟨tag, htag, habsent⟩ := List.any_eq_true.mp hmissing
    refine iff_of_false (by simp) fun hconforms => ?_
    simp [hconforms.required tag htag] at habsent
  rename_i hpresent
  have hrequired : ∀ tag ∈ mdef.required_tags, msg.has tag = true := by simpa using hpresent
  split
  · -- a value is not listed
    rename_i hlisted
    obtain ⟨f, hf, hbad⟩ := List.any_eq_true.mp hlisted
    exact iff_of_false (by simp) fun hconforms => refuses_iff.mp hbad (hconforms.values f hf)
  · rename_i hgood
    refine iff_of_true rfl ⟨hrequired, fun f hf => ?_⟩
    by_contra hbad
    exact hgood (List.any_eq_true.mpr ⟨f, hf, refuses_iff.mpr hbad⟩)

theorem check_eq_none_iff {msg : Message} : d.check msg = none ↔ d.Passes msg := by
  rw [check, Passes]
  rcases hdef : d.find_message msg.msg_type with _ | mdef
  · simp
  · have hok := validate_ok_iff hdef
    rcases hresult : d.validate msg with e | ⟨⟩
    · rw [hresult] at hok
      simpa using hok
    · simpa using hok.mp hresult

/-! ### Messages that differ in their header -/

end DataDictionary

/-- `m` is `msg` up to the standard header. -/
structure Resembles (msg m : Message) : Prop where
  msg_type : m.msg_type = msg.msg_type
  own : ∀ t, skipped t = false → m.get t = msg.get t
  fields : ∀ f ∈ m.fields, f ∈ msg.fields ∨ f = ⟨tags.PossDupFlag, ascii "Y"⟩ ∨
    (skipped f.tag = true ∧ f.tag ≠ tags.PossDupFlag)

theorem mem_of_lookup {tag : TagNum} {v : Bytes} {fs : List Field} (h : lookup tag fs = some v) :
    ⟨tag, v⟩ ∈ fs := by
  induction fs with
  | nil => exact absurd h (by simp)
  | cons f fs ih =>
    rw [lookup_cons] at h
    split at h
    · rename_i heq
      rw [← heq, ← Option.some.inj h]
      exact List.mem_cons_self
    · exact List.mem_cons_of_mem f (ih h)

theorem resembles_decoded (msg : Message) (begin_string : Bytes) (n : ℕ)
    (sender target time w : Bytes) :
    Resembles msg (decoded msg begin_string n sender target time w) := by
  have hget : ∀ t : TagNum, t ≠ tags.BeginString → t ≠ tags.BodyLength →
      (decoded msg begin_string n sender target time w).get t = _ :=
    fun t h8 h9 => (decoded_get msg _ n _ _ _ w h8 h9).trans (lookup_emitted msg n _ _ _ t)
  refine ⟨?_, ?_, ?_⟩
  · rw [Message.msg_type, hget tags.MsgType (by decide) (by decide)]
    rfl
  · intro t ht
    have hne : ∀ t' : TagNum, skipped t' = true → t ≠ t' := by
      rintro t' hskip rfl
      exact absurd (hskip.symm.trans ht) (by decide)
    rw [hget t (hne _ (by decide)) (hne _ (by decide)), if_neg (hne _ (by decide)),
      if_neg (hne _ (by decide)), if_neg (hne _ (by decide)), if_neg (hne _ (by decide)),
      if_neg (hne _ (by decide)), if_pos (.inr (.inr ht))]
  · -- the fields in the order in which they are emitted
    intro f hf
    have hheader : ∀ (t : TagNum) (v : Bytes), skipped t = true → t ≠ tags.PossDupFlag →
        f = ⟨t, v⟩ →
        skipped f.tag = true ∧ f.tag ≠ tags.PossDupFlag := by
      rintro t v hskip hdup rfl
      exact ⟨hskip, hdup⟩
    rcases List.mem_cons.mp hf with hbegin | hf
    · exact .inr (.inr (hheader _ _ (by decide) (by decide) hbegin))
    rcases List.mem_cons.mp hf with hlength | hf
    · exact .inr (.inr (hheader _ _ (by decide) (by decide) hlength))
    have hemitted := (keep_first_sublist _ _).subset hf
    rw [emitted_fields, List.mem_append, List.mem_append, List.mem_append,
      List.mem_append] at hemitted
    rcases hemitted with (((hfirst | hdup) | horig) | htime) | hown
    · have hskip : ∀ g ∈ [(⟨tags.MsgType, msg.msg_type⟩ : Field), ⟨tags.SenderCompID, sender⟩,
          ⟨tags.TargetCompID, target⟩, ⟨tags.MsgSeqNum, Decimal.to_chars_int (to_i64 n)⟩],
          skipped g.tag = true ∧ g.tag ≠ tags.PossDupFlag := by
        simp only [List.forall_mem_cons, List.not_mem_nil, false_implies, implies_true, and_true]
        decide
      exact .inr (.inr (hskip f hfirst))
    · obtain ⟨v, hv, rfl⟩ := Option.map_eq_some_iff.mp (Option.mem_toList.mp hdup)
      exact .inl (mem_of_lookup hv)
    · obtain ⟨v, hv, rfl⟩ := Option.map_eq_some_iff.mp (Option.mem_toList.mp horig)
      exact .inl (mem_of_lookup hv)
    · exact .inr (.inr (hheader _ _ (by decide) (by decide) (List.mem_singleton.mp htime)))
    · exact .inl (List.mem_of_mem_filter hown)

theorem mem_fields_set_discard {m : Message} {tag : TagNum} {v : Bytes} {f : Field}
    (h : f ∈ (m.set_discard tag v).fields) : f = ⟨tag, v⟩ ∨ f ∈ m.fields := by
  rcases hv : has_invalid_wire_chars v with _ | _
  · rw [Message.set_discard_of_clean hv] at h
    exact mem_upsert h
  · rw [Message.set_discard_of_invalid hv] at h
    exact .inr h

theorem resembles_retag (stored : Message) : Resembles stored (retag stored) := by
  refine ⟨msg_type_retag stored, ?_, ?_⟩
  · intro t ht
    have hdup : tags.PossDupFlag ≠ t := fun h => absurd (h ▸ ht) (by decide)
    have horig : tags.OrigSendingTime ≠ t := fun h => absurd (h ▸ ht) (by decide)
    rw [retag]
    split
    · rw [get_set_discard_ne horig, get_set_discard_ne hdup]
    · rw [get_set_discard_ne hdup]
  · intro f hf
    have hflag : f ∈ (stored.set_discard tags.PossDupFlag (ascii "Y")).fields →
        f ∈ stored.fields ∨ f = ⟨tags.PossDupFlag, ascii "Y"⟩ ∨
          (skipped f.tag = true ∧ f.tag ≠ tags.PossDupFlag) := by
      intro h
      rcases mem_fields_set_discard h with hset | hold
      · exact .inr (.inl hset)
      · exact .inl hold
    rw [retag] at hf
    split at hf
    · rcases mem_fields_set_discard hf with rfl | hf
      · have hheader : skipped tags.OrigSendingTime = true ∧
            tags.OrigSendingTime ≠ tags.PossDupFlag := by decide
        exact .inr (.inr hheader)
      · exact hflag hf
    · exact hflag hf

namespace DataDictionary

variable {d : DataDictionary}

/-- The tags of a BusinessMessageReject beside the header. All but the text are always there. -/
def reject_fields : List TagNum :=
  [tags.RefSeqNum, tags.BusinessRejectReason, tags.RefMsgType, tags.Text]

/-- A dictionary that leaves the standard header to the session, and that asks of a
BusinessMessageReject nothing that the session does not give. -/
structure Neutral (d : DataDictionary) : Prop where
  header : ∀ tag v, skipped tag = true → tag ≠ tags.PossDupFlag → d.Admits tag v
  poss_dup : d.Admits tags.PossDupFlag (ascii "Y")
  required : ∀ msg_type mdef, d.find_message msg_type = some mdef →
    ∀ tag ∈ mdef.required_tags, skipped tag = false
  types : ∀ msg_type mdef, d.find_message msg_type = some mdef →
    msg_type ≠ [] ∧ clean msg_type = true
  reject_values : ∀ tag ∈ reject_fields, ∀ v, d.Admits tag v
  reject_tags : ∀ mdef, d.find_message msg_types.BusinessMessageReject = some mdef →
    ∀ tag ∈ mdef.required_tags, tag ∈ reject_fields ∧ tag ≠ tags.Text

/-- **The header is not looked at.** -/
theorem Neutral.passes (hd : d.Neutral) {msg m : Message} (h : Resembles msg m)
    (hmsg : d.Passes msg) :
    d.Passes m := by
  intro mdef hdef
  rw [h.msg_type] at hdef
  have hconforms := hmsg mdef hdef
  refine ⟨fun tag htag => ?_, fun f hf => ?_⟩
  · rw [Message.has, h.own tag (hd.required _ mdef hdef tag htag)]
    exact hconforms.required tag htag
  · rcases h.fields f hf with hold | rfl | ⟨hskip, hdup⟩
    · exact hconforms.values f hold
    · exact hd.poss_dup
    · exact hd.header _ _ hskip hdup

end DataDictionary

theorem mem_fields_set_nonempty {m : Message} {tag : TagNum} {v : Bytes} {f : Field}
    (h : f ∈ (set_nonempty m tag v).fields) : f = ⟨tag, v⟩ ∨ f ∈ m.fields := by
  rw [set_nonempty] at h
  split at h
  · exact .inr h
  · exact mem_fields_set_discard h

theorem business_reject_tags {ref_seq : ℕ} {reason : ℤ} {mt text : Bytes} {f : Field}
    (h : f ∈ (business_reject_message ref_seq reason mt text).fields) :
    f.tag = tags.MsgType ∨ f.tag ∈ DataDictionary.reject_fields := by
  rw [business_reject_message] at h
  rcases mem_fields_set_nonempty h with rfl | h
  · exact .inr (by simp [DataDictionary.reject_fields])
  rcases mem_fields_set_nonempty h with rfl | h
  · exact .inr (by simp [DataDictionary.reject_fields])
  rcases mem_fields_set_discard h with rfl | h
  · exact .inr (by simp [DataDictionary.reject_fields])
  rcases mem_fields_set_discard h with rfl | h
  · exact .inr (by simp [DataDictionary.reject_fields])
  rcases mem_fields_set_discard h with rfl | h
  · exact .inl rfl
  · exact absurd h (by simp)

theorem msg_type_business_reject (ref_seq : ℕ) (reason : ℤ) (mt text : Bytes) :
    (business_reject_message ref_seq reason mt text).msg_type =
    msg_types.BusinessMessageReject := by
  rw [business_reject_message, msg_type_set_nonempty _ _ (by decide),
    msg_type_set_nonempty _ _ (by decide), msg_type_set_int _ _ (by decide),
    msg_type_set_int _ _ (by decide)]
  rfl

theorem has_business_reject (ref_seq : ℕ) (reason : ℤ) {mt : Bytes} (hmt : mt ≠ [])
    (hclean : clean mt = true) (text : Bytes) {tag : TagNum}
    (h : tag ∈ DataDictionary.reject_fields) (htext : tag ≠ tags.Text) :
    (business_reject_message ref_seq reason mt text).has tag = true := by
  have hnamed : ∀ m : Message, set_nonempty m tags.RefMsgType mt =
      m.set_discard tags.RefMsgType mt :=
    fun m => if_neg (by simpa using hmt)
  rw [business_reject_message, Message.has, get_set_nonempty_ne htext.symm, hnamed]
  rcases List.mem_cons.mp h with rfl | h
  · rw [get_set_discard_ne (by decide), Message.set_int, get_set_discard_ne (by decide),
      Message.set_int, get_set_discard_self (clean_to_chars_int _)]
    rfl
  rcases List.mem_cons.mp h with rfl | h
  · rw [get_set_discard_ne (by decide), Message.set_int,
      get_set_discard_self (clean_to_chars_int _)]
    rfl
  rcases List.mem_cons.mp h with rfl | h
  · rw [get_set_discard_self hclean]
    rfl
  · exact absurd (List.mem_singleton.mp h) htext

namespace DataDictionary

variable {d : DataDictionary}

theorem Neutral.passes_business_reject (hd : d.Neutral) (ref_seq : ℕ) (reason : ℤ) {mt : Bytes}
    (hmt : mt ≠ []) (hclean : clean mt = true) (text : Bytes) :
    d.Passes (business_reject_message ref_seq reason mt text) := by
  intro mdef hdef
  rw [msg_type_business_reject] at hdef
  refine ⟨fun tag htag => ?_, fun f hf => ?_⟩
  · obtain ⟨hmem, htext⟩ := hd.reject_tags mdef hdef tag htag
    exact has_business_reject _ _ hmt hclean _ hmem htext
  rcases business_reject_tags hf with htype | htag
  · rw [htype]
    exact hd.header _ _ (by decide) (by decide)
  · exact hd.reject_values _ htag _

/-! ### The built-in dictionaries are neutral -/

theorem find_field_foldl (fs : List FieldDef) (d : DataDictionary) {tag : TagNum} {fdef : FieldDef}
    (h : (fs.foldl register_field d).find_field tag = some fdef) :
    (fdef ∈ fs ∧ fdef.tag = tag) ∨ d.find_field tag = some fdef := by
  induction fs generalizing d with
  | nil => exact .inr h
  | cons f fs ih =>
    rcases ih _ h with ⟨hmem, htag⟩ | hfound
    · exact .inl ⟨List.mem_cons_of_mem f hmem, htag⟩
    · rw [find_field, register_field] at hfound
      dsimp only at hfound
      split at hfound
      · rename_i heq
        obtain rfl := Option.some.inj hfound
        exact .inl ⟨List.mem_cons_self, heq.symm⟩
      · exact .inr hfound

theorem find_message_foldl (ms : List MessageDef) (d : DataDictionary) {msg_type : Bytes}
    {mdef : MessageDef} (h : (ms.foldl register_message d).find_message msg_type = some mdef) :
    (mdef ∈ ms ∧ mdef.msg_type = msg_type) ∨ d.find_message msg_type = some mdef := by
  induction ms generalizing d with
  | nil => exact .inr h
  | cons m ms ih =>
    rcases ih _ h with ⟨hmem, htype⟩ | hfound
    · exact .inl ⟨List.mem_cons_of_mem m hmem, htype⟩
    · rw [find_message, register_message] at hfound
      dsimp only at hfound
      split at hfound
      · rename_i heq
        obtain rfl := Option.some.inj hfound
        exact .inl ⟨List.mem_cons_self, heq.symm⟩
      · exact .inr hfound

theorem find_field_register_messages (ms : List MessageDef) (d : DataDictionary) (tag : TagNum) :
    (ms.foldl register_message d).find_field tag = d.find_field tag := by
  induction ms generalizing d with
  | nil => rfl
  | cons m ms ih => exact ih (d.register_message m)

theorem find_message_register_fields (fs : List FieldDef) (d : DataDictionary) (msg_type : Bytes) :
    (fs.foldl register_field d).find_message msg_type = d.find_message msg_type := by
  induction fs generalizing d with
  | nil => rfl
  | cons f fs ih => exact ih (d.register_field f)

/-- The field that `load_builtin_messages_50sp2` registers once more. -/
def appl_ver_id : FieldDef := { tag := tags.ApplVerID, valid_values := letters "0123456789" }

/-- What `load_builtin` loads, up to the version. -/
def builtin (v : FixVersion) : DataDictionary :=
  load_builtin_messages_42 (load_builtin_fields { version := v })

theorem load_builtin_eq (v : FixVersion) :
    load_builtin v = { builtin v with version := v } ∨
      load_builtin v = { (builtin v).register_field appl_ver_id with version := v } := by
  simp only [load_builtin, load_builtin_messages_50sp2, load_builtin_messages_44, builtin]
  generalize load_builtin_messages_42 (load_builtin_fields { version := v }) = d
  cases v with
  | FIX_5_0SP2 => exact .inr rfl
  | FIXT_1_1 => exact .inr rfl
  | _ => exact .inl rfl

theorem find_field_version (d : DataDictionary) (v : FixVersion) (tag : TagNum) :
    { d with version := v }.find_field tag = d.find_field tag := rfl

theorem find_message_version (d : DataDictionary) (v : FixVersion) (msg_type : Bytes) :
    { d with version := v }.find_message msg_type = d.find_message msg_type := rfl

theorem find_field_builtin {v : FixVersion} {tag : TagNum} {fdef : FieldDef}
    (h : (load_builtin v).find_field tag = some fdef) : fdef ∈ appl_ver_id :: builtin_fields ∧
    fdef.tag = tag := by
  have hfields : (builtin v).find_field tag = some fdef →
      fdef ∈ appl_ver_id :: builtin_fields ∧ fdef.tag = tag := by
    intro h
    rw [builtin, load_builtin_messages_42, find_field_register_messages] at h
    rcases find_field_foldl builtin_fields _ h with ⟨hmem, htag⟩ | hnone
    · exact ⟨List.mem_cons_of_mem _ hmem, htag⟩
    · exact absurd hnone (by simp [find_field])
  rcases load_builtin_eq v with heq | heq
  · rw [heq, find_field_version] at h
    exact hfields h
  · rw [heq, find_field_version] at h
    rcases find_field_foldl [appl_ver_id] (builtin v) h with ⟨hmem, htag⟩ | hold
    · exact ⟨List.mem_singleton.mp hmem ▸ List.mem_cons_self, htag⟩
    · exact hfields hold

theorem find_message_builtin {v : FixVersion} {msg_type : Bytes} {mdef : MessageDef}
    (h : (load_builtin v).find_message msg_type = some mdef) :
    mdef ∈ builtin_messages ∧ mdef.msg_type = msg_type := by
  have hfound : (builtin v).find_message msg_type = some mdef := by
    rcases load_builtin_eq v with heq | heq
    · rw [heq, find_message_version] at h
      exact h
    · rw [heq, find_message_version] at h
      rw [← find_message_register_fields [appl_ver_id]]
      exact h
  rw [builtin, load_builtin_messages_42] at hfound
  rcases find_message_foldl builtin_messages _ hfound with hmem | hnone
  · exact hmem
  · rw [load_builtin_fields, find_message_register_fields] at hnone
    exact absurd hnone (by simp [find_message])

set_option maxRecDepth 8000 in
theorem builtin_values {fdef : FieldDef} (h : fdef ∈ appl_ver_id :: builtin_fields) :
    fdef.valid_values.isEmpty = true ∨
    (skipped fdef.tag = false ∧ reject_fields.contains fdef.tag = false) ∨
      (fdef.tag = tags.PossDupFlag ∧ fdef.validate_value (ascii "Y") = true) := by
  have hall : (appl_ver_id :: builtin_fields).all (fun fdef => fdef.valid_values.isEmpty ||
      (!skipped fdef.tag && !reject_fields.contains fdef.tag ||
        fdef.tag == tags.PossDupFlag && fdef.validate_value (ascii "Y"))) = true := by decide
  have hone := List.all_eq_true.mp hall fdef h
  simpa only [Bool.or_eq_true, Bool.and_eq_true, Bool.not_eq_true', beq_iff_eq] using hone

set_option maxRecDepth 8000 in
theorem builtin_requirements {mdef : MessageDef} (h : mdef ∈ builtin_messages) :
    mdef.msg_type ≠ [] ∧ clean mdef.msg_type = true ∧
    ∀ tag ∈ mdef.required_tags, skipped tag = false ∧
      (mdef.msg_type = msg_types.BusinessMessageReject → tag ∈ reject_fields ∧
      tag ≠ tags.Text) := by
  have hall : builtin_messages.all (fun mdef => !mdef.msg_type.isEmpty && clean mdef.msg_type &&
      mdef.required_tags.all fun tag => !skipped tag &&
        (mdef.msg_type != msg_types.BusinessMessageReject ||
          reject_fields.contains tag && tag != tags.Text)) = true := by decide
  have hone := List.all_eq_true.mp hall mdef h
  simp only [Bool.and_eq_true, Bool.not_eq_true', List.isEmpty_eq_false_iff, List.all_eq_true,
    Bool.or_eq_true, bne_iff_ne, List.contains_iff_mem] at hone
  obtain ⟨⟨htype, hclean⟩, htags⟩ := hone
  refine ⟨htype, hclean, fun tag htag => ⟨(htags tag htag).1, fun heq => ?_⟩⟩
  exact (htags tag htag).2.resolve_left (not_not.mpr heq)

/-- **Each of the built-in dictionaries** leaves the header to the session. -/
theorem neutral_builtin (v : FixVersion) : (load_builtin v).Neutral := by
  have hfree : ∀ {fdef : FieldDef} (value : Bytes), fdef.valid_values.isEmpty = true →
      fdef.validate_value value = true := by
    intro fdef value hempty
    rw [FieldDef.validate_value, FieldDef.is_enum, hempty]
    rfl
  refine ⟨?_, ?_, ?_, ?_, ?_, ?_⟩
  · intro tag value hskip hdup fdef hfound
    obtain ⟨hmem, rfl⟩ := find_field_builtin hfound
    rcases builtin_values hmem with hempty | ⟨hown, -⟩ | ⟨heq, -⟩
    · exact hfree value hempty
    · exact absurd (hskip.symm.trans hown) (by decide)
    · exact absurd heq hdup
  · intro fdef hfound
    obtain ⟨hmem, htag⟩ := find_field_builtin hfound
    rcases builtin_values hmem with hempty | ⟨hown, -⟩ | ⟨-, hyes⟩
    · exact hfree _ hempty
    · rw [htag] at hown
      exact absurd hown (by decide)
    · exact hyes
  · intro msg_type mdef hfound tag htag
    exact ((builtin_requirements (find_message_builtin hfound).1).2.2 tag htag).1
  · intro msg_type mdef hfound
    obtain ⟨hmem, rfl⟩ := find_message_builtin hfound
    exact ⟨(builtin_requirements hmem).1, (builtin_requirements hmem).2.1⟩
  · intro tag htag value fdef hfound
    obtain ⟨hmem, rfl⟩ := find_field_builtin hfound
    rcases builtin_values hmem with hempty | ⟨-, hother⟩ | ⟨heq, -⟩
    · exact hfree value hempty
    · have hmem : reject_fields.contains fdef.tag = true := List.contains_iff_mem.mpr htag
      exact absurd (hmem.symm.trans hother) (by decide)
    · rw [heq] at htag
      exact absurd htag (by decide)
  · intro mdef hfound tag htag
    obtain ⟨hmem, htype⟩ := find_message_builtin hfound
    exact ((builtin_requirements hmem).2.2 tag htag).2 htype

end DataDictionary

end FixEngine
