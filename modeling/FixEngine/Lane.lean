/-
`Lane.lean` -- one direction of the link between two sessions.

A lane is what lies between the sender of a direction and its receiver: the frames on
their way, under the numbers from the receiver's NextTarget up to the sender's NextSender,
and the messages of the application in them. `Conveys` says that of the two numbers, the
queue, the messages that `send()` has accepted and those that `on_message` was given; it is
kept when the sender sends more and when the receiver takes the first frame in.
-/
import FixEngine.Handshake

set_option autoImplicit false

namespace FixEngine

open IMessageStore Decimal MessageBuilder

/-! ## The size of the messages of a session -/

theorem length_encode_upsert_le (keep : Field → Bool) (t : TagNum) (v : Bytes) (fs : List Field) :
    (encode_fields ((upsert t v fs).filter keep)).length ≤
      (encode_fields (fs.filter keep)).length + (field_bytes ⟨t, v⟩).length := by
  have hone : ∀ (f : Field) (fs : List Field), (encode_fields ((f :: fs).filter keep)).length ≤
      (field_bytes f).length + (encode_fields (fs.filter keep)).length := by
    intro f fs
    rw [List.filter_cons]
    split
    · rw [encode_fields_cons, List.length_append]
    · exact Nat.le_add_left _ _
  induction fs with
  | nil =>
    have hnew := hone ⟨t, v⟩ []
    rw [upsert]
    simp only [List.filter_nil, encode_fields_nil, List.length_nil] at hnew ⊢
    omega
  | cons f fs ih =>
    rw [upsert]
    split
    · -- the old field goes, and the rest of the message stays
      have hnew := hone ⟨t, v⟩ fs
      have hmono : (encode_fields (fs.filter keep)).length ≤
          (encode_fields ((f :: fs).filter keep)).length := by
        rw [List.filter_cons]
        split
        · rw [encode_fields_cons, List.length_append]
          exact Nat.le_add_left _ _
        · exact le_rfl
      omega
    · rw [List.filter_cons, List.filter_cons]
      split
      · rw [encode_fields_cons, encode_fields_cons, List.length_append, List.length_append]
        omega
      · exact ih

section Sizes

variable {m : Message} {t : TagNum}

theorem own_size_set_discard_le (htype : t ≠ tags.MsgType) (hdup : t ≠ tags.PossDupFlag)
    (horig : t ≠ tags.OrigSendingTime) (v : Bytes) :
    own_size (m.set_discard t v) ≤ own_size m + (to_chars t.toNat).length + v.length + 2 := by
  rcases hv : has_invalid_wire_chars v with _ | _
  · have hbody := length_encode_upsert_le (fun f => !skipped f.tag) t v m.fields
    rw [length_field_bytes] at hbody
    dsimp only at hbody
    have hown : own_fields (m.set_discard t v) =
        ⟨tags.MsgType, m.msg_type⟩ ::
        (((m.get tags.PossDupFlag).map (Field.mk tags.PossDupFlag)).toList
          ++ ((m.get tags.OrigSendingTime).map (Field.mk tags.OrigSendingTime)).toList
          ++ body_fields (m.set_discard t v)) := by
      rw [own_fields, msg_type_set_discard m t htype, get_set_discard_ne hdup,
        get_set_discard_ne horig]
    have hfields : body_fields (m.set_discard t v) =
        (upsert t v m.fields).filter fun f => !skipped f.tag := by
      rw [body_fields, Message.set_discard_of_clean hv]
    rw [own_size, own_size, hown, own_fields, hfields]
    simp only [encode_fields_cons, encode_fields_append, List.length_append, body_fields]
    omega
  · rw [Message.set_discard_of_invalid hv]
    omega

theorem own_size_set_nonempty_le (htype : t ≠ tags.MsgType) (hdup : t ≠ tags.PossDupFlag)
    (horig : t ≠ tags.OrigSendingTime) (v : Bytes) :
    own_size (set_nonempty m t v) ≤ own_size m + (to_chars t.toNat).length + v.length + 2 := by
  rw [set_nonempty]
  split
  · omega
  · exact own_size_set_discard_le htype hdup horig v

end Sizes

theorem own_size_heartbeat_le (id : Bytes) : own_size (heartbeat_message id) ≤ id.length + 10 := by
  have hset := own_size_set_nonempty_le (m := Message.of_type msg_types.Heartbeat)
    (show tags.TestReqID ≠ tags.MsgType by decide) (by decide) (by decide) id
  have hsize : own_size (Message.of_type msg_types.Heartbeat) = 5 := by decide
  have htag : (to_chars tags.TestReqID.toNat).length = 3 := by decide
  rw [hsize, htag] at hset
  exact hset.trans (by omega)

theorem own_size_test_request_le (id : Bytes) :
    own_size (test_request_message id) ≤ id.length + 10 := by
  have hset := own_size_set_discard_le (m := Message.of_type msg_types.TestRequest)
    (show tags.TestReqID ≠ tags.MsgType by decide) (by decide) (by decide) id
  have hsize : own_size (Message.of_type msg_types.TestRequest) = 5 := by decide
  have htag : (to_chars tags.TestReqID.toNat).length = 3 := by decide
  rw [hsize, htag] at hset
  exact hset.trans (by omega)

theorem own_size_logon_le (cfg : SessionConfig) {hb : ℤ} (hlo : -(2 ^ 63) ≤ hb)
    (hhi : hb < 2 ^ 63) :
    own_size (logon_message cfg hb) ≤
      cfg.username.length + cfg.password.length + cfg.default_appl_ver_id.length + 64 := by
  have hdigits := length_to_chars_int_le hlo hhi
  have hencrypt := own_size_set_discard_le (m := Message.of_type msg_types.Logon)
    (show tags.EncryptMethod ≠ tags.MsgType by decide) (by decide) (by decide) (to_chars_int 0)
  have hinterval :=
    own_size_set_discard_le (m := (Message.of_type msg_types.Logon).set_int tags.EncryptMethod 0)
    (show tags.HeartBtInt ≠ tags.MsgType by decide) (by decide) (by decide) (to_chars_int hb)
  have hcore : own_size (logon_core hb) ≤ 36 := by
    have hsize : own_size (Message.of_type msg_types.Logon) = 5 := by decide
    have h98 : (to_chars tags.EncryptMethod.toNat).length = 2 := by decide
    have h108 : (to_chars tags.HeartBtInt.toNat).length = 3 := by decide
    have hzero : (to_chars_int 0).length = 1 := by decide
    rw [hsize, h98, hzero] at hencrypt
    rw [h108] at hinterval
    exact hinterval.trans (by rw [Message.set_int] at *; omega)
  have hflag : ∀ b : Bool,
      own_size (if b then (logon_core hb).set_discard tags.ResetSeqNumFlag (ascii "Y")
      else logon_core hb) ≤ 42 := by
    intro b
    have hset := own_size_set_discard_le (m := logon_core hb)
      (show tags.ResetSeqNumFlag ≠ tags.MsgType by decide) (by decide) (by decide) (ascii "Y")
    have h141 : (to_chars tags.ResetSeqNumFlag.toNat).length = 3 := by decide
    have hone : (ascii "Y").length = 1 := by decide
    rw [h141, hone] at hset
    split
    · omega
    · omega
  have h553 : (to_chars tags.Username.toNat).length = 3 := by decide
  have h554 : (to_chars tags.Password.toNat).length = 3 := by decide
  have h1137 : (to_chars tags.DefaultApplVerID.toNat).length = 4 := by decide
  rw [logon_message]
  generalize hm :
    (if cfg.reset_on_logon then (logon_core hb).set_discard tags.ResetSeqNumFlag (ascii "Y")
    else logon_core hb) = m
  have hm_size : own_size m ≤ 42 := hm ▸ hflag cfg.reset_on_logon
  have huser :=
    own_size_set_nonempty_le (m := m) (show tags.Username ≠ tags.MsgType by decide) (by decide)
    (by decide) cfg.username
  have hpass := own_size_set_nonempty_le (m := set_nonempty m tags.Username cfg.username)
    (show tags.Password ≠ tags.MsgType by decide) (by decide) (by decide) cfg.password
  have happl := own_size_set_nonempty_le
    (m := set_nonempty (set_nonempty m tags.Username cfg.username) tags.Password cfg.password)
    (show tags.DefaultApplVerID ≠ tags.MsgType by decide) (by decide)
      (by decide) cfg.default_appl_ver_id
  rw [h553] at huser
  rw [h554] at hpass
  rw [h1137] at happl
  show own_size (set_nonempty (set_nonempty (set_nonempty (if cfg.reset_on_logon then
    (logon_core hb).set_discard tags.ResetSeqNumFlag (ascii "Y") else logon_core hb) _ _) _ _) _
      _) ≤ _
  rw [hm]
  omega

theorem Flow.fits {id : SessionID} {a b : ℕ} {ws : List Bytes} {msgs : List Message}
    (h : Flow id a ws msgs b) (hb : b ≤ 2 ^ 64)
    (hsize : ∀ msg ∈ msgs,
      own_size msg + id.senderCompID.length + id.targetCompID.length + 87 ≤ 2 ^ 20) :
    ∀ w ∈ ws, w.length ≤ 2 ^ 20 := by
  induction h with
  | nil a => simp
  | @cons a b w ws msg msgs hw hrest ih =>
    have hlength := hrest.add_length
    intro w' hw'
    rcases List.mem_cons.mp hw' with rfl | hw'
    · exact carries_fits hw (by omega) (hsize msg List.mem_cons_self)
    · exact ih hb (fun msg' h => hsize msg' (List.mem_cons_of_mem _ h)) w' hw'

/-! ## What lies on a lane -/

/-- The messages that an established session sends by itself. -/
inductive Routine : Message → Prop where
  | heartbeat {id : Bytes} (h : id.length ≤ 32) : Routine (heartbeat_message id)
  | test_request {id : Bytes} (h : id.length ≤ 32) : Routine (test_request_message id)

/-- A message of the application that `send()` may be given: its type is there and is not
administrative, no header tag is there twice, its frames fit the parser of the other end,
and the dictionary there has nothing against it. -/
structure AppMessage (id : SessionID) (known : Message → Prop) (msg : Message) : Prop where
  typed : msg.msg_type ≠ []
  app : is_admin_msg msg.msg_type = false
  once : NoRepeats msg
  fits : ∀ n w, n < 2 ^ 64 → Carries id msg n w → w.length ≤ 2 ^ 20
  known : ∀ n d, ReadAs id msg n d → known d

/-- The messages on a lane. -/
def OnLane (id : SessionID) (known : Message → Prop) (msg : Message) : Prop :=
  Routine msg ∨ AppMessage id known msg

theorem Routine.own_size_le {msg : Message} (h : Routine msg) : own_size msg ≤ 42 := by
  cases h with
  | heartbeat h => exact (own_size_heartbeat_le _).trans (by omega)
  | test_request h => exact (own_size_test_request_le _).trans (by omega)

theorem Routine.ordinary {msg : Message} (h : Routine msg) : Ordinary msg := by
  cases h with
  | heartbeat _ => exact ordinary_heartbeat _
  | test_request _ => exact ordinary_test_request _

theorem Routine.admin {msg : Message} (h : Routine msg) : is_admin_msg msg.msg_type = true := by
  cases h with
  | heartbeat _ =>
    rw [msg_type_heartbeat]
    decide
  | test_request _ =>
    rw [msg_type_test_request]
    decide

theorem OnLane.answer {id : SessionID} {known : Message → Prop} {msg r : Message}
    (h : OnLane id known msg) (hanswer : Answer msg r) : Routine r := by
  obtain ⟨htype, rfl⟩ := hanswer
  rcases h with h | h
  · cases h with
    | heartbeat _ =>
      rw [msg_type_heartbeat] at htype
      exact absurd htype (by decide)
    | @test_request id hlen =>
      refine .heartbeat ?_
      by_cases hclean : clean id = true
      · rw [test_request_message, get_set_discard_self hclean]
        exact hlen
      · have hdropped : test_request_message id = Message.of_type msg_types.TestRequest :=
          Message.set_discard_of_invalid (by simpa [clean] using hclean)
        rw [hdropped]
        decide
  · have happ := h.app
    rw [htype] at happ
    exact absurd happ (by decide)

theorem OnLane.ordinary {id : SessionID} {known : Message → Prop} {msg : Message}
    (h : OnLane id known msg) :
    Ordinary msg :=
  h.elim Routine.ordinary fun h => ⟨h.once, .inr (.inr h.app)⟩

theorem OnLane.msg_type_ne {id : SessionID} {known : Message → Prop} {msg : Message}
    (h : OnLane id known msg) {mt : Bytes} (hadmin : is_admin_msg mt = true)
    (hbeat : mt ≠ msg_types.Heartbeat) (htest : mt ≠ msg_types.TestRequest) :
    msg.msg_type ≠ mt := by
  rintro rfl
  rcases h.ordinary.kind with htype | htype | happ
  · exact hbeat htype
  · exact htest htype
  · exact absurd (hadmin.symm.trans happ) (by decide)

theorem app_messages_routine {msgs : List Message} (h : ∀ msg ∈ msgs, Routine msg) :
    app_messages msgs = [] := by
  rw [app_messages, List.filter_eq_nil_iff]
  intro msg hmsg
  simp [(h msg hmsg).admin]

theorem app_messages_append (msgs msgs' : List Message) :
    app_messages (msgs ++ msgs') = app_messages msgs ++ app_messages msgs' := List.filter_append _ _

/-- **A lane.** The frames of the queue carry the numbers from NextTarget up to NextSender,
and the messages accepted are those delivered followed by those on their way. -/
def Conveys (id : SessionID) (known : Message → Prop) (next_target : ℕ) (queue : List Bytes)
    (next_sender : ℕ) (accepted delivered : List Message) : Prop :=
  ∃ msgs done, Flow id next_target queue msgs next_sender ∧ (∀ msg ∈ msgs, OnLane id known msg) ∧
    (∀ w ∈ queue, w.length ≤ 2 ^ 20) ∧ accepted = done ++ app_messages msgs ∧
    List.Forall₂ (fun msg d => ∃ n, ReadAs id msg n d) done delivered

namespace Conveys

variable {id : SessionID} {known : Message → Prop} {nt ns ns' : ℕ} {queue ws : List Bytes}
variable {accepted delivered msgs : List Message}

theorem nil (n : ℕ) : Conveys id known n [] n [] [] :=
  ⟨[], [], .nil n, by simp, by simp, rfl, .nil⟩

theorem le (h : Conveys id known nt queue ns accepted delivered) : nt ≤ ns := by
  obtain ⟨msgs, done, hflow, -⟩ := h
  have hlength := hflow.add_length
  omega

theorem emit (h : Conveys id known nt queue ns accepted delivered) (hflow : Flow id ns ws msgs ns')
    (hmsgs : ∀ msg ∈ msgs, OnLane id known msg) (hfits : ∀ w ∈ ws, w.length ≤ 2 ^ 20) :
    Conveys id known nt (queue ++ ws) ns' (accepted ++ app_messages msgs) delivered := by
  obtain ⟨msgs₀, done, hflow₀, hlane, hfits₀, haccepted, hdone⟩ := h
  refine ⟨msgs₀ ++ msgs, done, hflow₀.append hflow, ?_, ?_, ?_, hdone⟩
  · intro msg hmsg
    exact (List.mem_append.mp hmsg).elim (hlane msg) (hmsgs msg)
  · intro w hw
    exact (List.mem_append.mp hw).elim (hfits₀ w) (hfits w)
  · rw [app_messages_append, haccepted, List.append_assoc]

theorem take {w : Bytes} (h : Conveys id known nt (w :: queue) ns accepted delivered) :
    ∃ msg, OnLane id known msg ∧ Carries id msg nt w ∧ w.length ≤ 2 ^ 20 ∧ nt < ns ∧
      ∀ m, ReadAs id msg nt m → Conveys id known (nt + 1) queue ns accepted
        (delivered ++ if is_admin_msg msg.msg_type then [] else [m]) := by
  obtain ⟨msgs, done, hflow, hlane, hfits, haccepted, hdone⟩ := h
  cases hflow with
  | @cons _ _ _ _ msg msgs hw hrest =>
    have hlength := hrest.add_length
    refine ⟨msg, hlane msg List.mem_cons_self, hw, hfits w List.mem_cons_self, by omega,
      fun m hm => ?_⟩
    have hlane' : ∀ msg' ∈ msgs, OnLane id known msg' :=
      fun msg' h => hlane msg' (List.mem_cons_of_mem _ h)
    have hfits' : ∀ w' ∈ queue, w'.length ≤ 2 ^ 20 :=
      fun w' h => hfits w' (List.mem_cons_of_mem _ h)
    by_cases hadmin : is_admin_msg msg.msg_type = true
    · refine ⟨msgs, done, hrest, hlane', hfits', ?_, ?_⟩
      · rw [haccepted, app_messages, List.filter_cons_of_neg (by simp [hadmin])]
        rfl
      · rw [if_pos hadmin, List.append_nil]
        exact hdone
    · refine ⟨msgs, done ++ [msg], hrest, hlane', hfits', ?_, ?_⟩
      · rw [haccepted, app_messages, List.filter_cons_of_pos (by simp [hadmin]), List.append_assoc]
        rfl
      · rw [if_neg hadmin]
        exact List.rel_append hdone (.cons ⟨nt, hm⟩ .nil)

end Conveys

end FixEngine
