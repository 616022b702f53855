/-
`Session.lean` -- the state of a session and its send path
(`include/fix/session/session.hpp`, `src/session/session.cpp`).

A session is a record with the members of the class, over any store. What the
class does to the outside is a trace of events: frames handed to `do_send`,
callbacks, audit entries, and three that only the model sees and that mark a
frame written to the store, a reset of the store and a rollback that failed.

What a session reads from the outside is an `Env`: the clock, the wall clock of
SendingTime, the process-wide TestRequest counter, which callbacks throw, the
audit log and the dictionary. Every reading is taken at its own index, so no two
readings are tied to each other.

All callbacks are set, and none of them calls back into the session. Operations
run one after the other: the members that the class makes atomic are plain here,
and a `transition` compares with the present state.
-/
import FixEngine.Store
import FixEngine.Parser

set_option autoImplicit false

namespace FixEngine

open Decimal

/-! ## Configuration and state -/

/-- `SessionConfig`, without the members that the session never reads. -/
structure SessionConfig where
  id : SessionID
  initiator : Bool
  heartbeat_interval : ℤ
  logon_timeout : ℤ
  logout_timeout : ℤ
  reset_on_logon : Bool
  validate_fields : Bool
  username : Bytes
  password : Bytes
  default_appl_ver_id : Bytes
  deriving DecidableEq

inductive SessionState where
  | NotConnected
  | WaitingLogon
  | LogonSent
  | Active
  | LogoutSent
  | Disconnected
  deriving DecidableEq, Repr

/-- Which part of the session handed a frame to `do_send`. -/
inductive Origin where
  /-- `send_message_locked`, under this number. -/
  | sent (seq : ℕ)
  /-- `emit_wire_locked`: the replay of a ResendRequest. -/
  | replayed
  /-- `send_raw`. -/
  | raw
  deriving DecidableEq

/-- What a session does to the outside. -/
inductive Event where
  | do_send (origin : Origin) (wire : Bytes)
  | do_disconnect
  | on_logon
  | on_logout (reason : Bytes)
  | on_sequence_gap (expected received : ℕ)
  | on_heartbeat_timeout
  | on_resend_request (first last : ℕ)
  | on_message (msg : Message)
  | on_reject (ref_seq : ℕ) (text : Bytes)
  /-- With whether this thread held `send_mutex_` at the time. -/
  | on_error (what : Bytes) (owner : Bool)
  | audit (outbound : Bool) (raw : Bytes)
  /-- `store_outbound` has returned for the frame of this number, under which the store now
  holds this. -/
  | stored (seq : ℕ) (held : Option Bytes)
  /-- `reset` of the store was called. -/
  | store_reset
  /-- The number claimed for a frame that was not sent could not be given back. -/
  | rollback_failed
  deriving DecidableEq

/-- What a session reads from the outside, by the index of the reading. -/
structure Env where
  clock : ℕ → ℤ
  utc : ℕ → UtcTime
  test_req_counter : ℕ → ℕ
  /-- The `what()` of the exception, where a callback throws one. -/
  throws : ℕ → Option Bytes
  /-- The audit log, if one is wired, with the exceptions of its `log()`. -/
  audit : Option (ℕ → Option Bytes)
  /-- The error of the dictionary for a message of a type that it defines. -/
  validate : Message → Option ErrorCode

/-- `kMaxPendingErrors`. -/
def kMaxPendingErrors : ℕ := 64

/-- The members through which a session reads from the outside and speaks to it. -/
structure Outside where
  env : Env
  /-- How many readings of `env` were taken. -/
  reads : ℕ
  errors : ℕ
  pending_errors : List Bytes
  /-- `send_mutex_` is held by this thread. -/
  send_owner : Bool
  /-- `send_mutex_` was taken by a thread that held it. -/
  relocked : Bool
  events : List Event

namespace Outside

def emit (e : Event) (o : Outside) : Outside := { o with events := o.events ++ [e] }

/-- `clock_now()`. -/
def clock_now (o : Outside) : ℤ := o.env.clock o.reads

/-- The next reading. -/
def tick (o : Outside) : Outside := { o with reads := o.reads + 1 }

/-- The constructor of `SendLock`. -/
def acquire (o : Outside) : Outside :=
  { o with send_owner := true, relocked := o.relocked || o.send_owner }

/-- `Session::report`: counted at once, and buffered while the send lock is held. -/
def report (what : Bytes) (o : Outside) : Outside :=
  let o := { o with errors := o.errors + 1 }
  if o.send_owner then
    if o.pending_errors.length < kMaxPendingErrors then
      { o with pending_errors := o.pending_errors ++ [what] }
    else o
  else o.emit (.on_error what o.send_owner)

/-- `Session::drain_pending_errors`. -/
def drain_pending_errors (o : Outside) : Outside :=
  { o with
    events := o.events ++ o.pending_errors.map fun what => .on_error what o.send_owner
    pending_errors := [] }

/-- `guarded` around one callback: an exception is reported. -/
def guarded (e : Event) (o : Outside) : Outside :=
  match o.env.throws o.reads with
  | none => (o.emit e).tick
  | some what => (o.emit e).tick.report what

/-- `Session::audit_frame`. -/
def audit_frame (outbound : Bool) (raw : Bytes) (o : Outside) : Outside :=
  match o.env.audit with
  | none => o
  | some log =>
    match log o.reads with
    | none => o.tick.emit (.audit outbound raw)
    | some what => o.tick.report (ascii "audit log: entry dropped: " ++ what)

end Outside

/-- The members of the gap throttle. -/
structure Gap where
  is_open : Bool
  rr_last : ℤ
  rr_attempts : ℤ
  deriving DecidableEq

/-- What `clear_gap` leaves. -/
def Gap.closed : Gap := ⟨false, 0, 0⟩

/-- `class Session`. -/
structure Session (σ : Type) where
  cfg : SessionConfig
  store : σ
  parser : StreamParser
  builder : MessageBuilder
  state : SessionState
  gap : Gap
  heartbeat_sec : ℤ
  logout_notified : Bool
  test_req_pending : Bool
  pending_test_req_id : Bytes
  last_send_time : ℤ
  last_recv_time : ℤ
  logon_sent_time : ℤ
  test_req_sent_time : ℤ
  logout_sent_time : ℤ
  msgs_sent : ℕ
  msgs_received : ℕ
  resend_corrupt : ℕ
  io : Outside

/-- `kMaxGapRetries`. -/
def kMaxGapRetries : ℤ := 5

/-- `Session::is_admin_msg`. -/
def is_admin_msg (mt : Bytes) : Bool :=
  mt == msg_types.Logon || mt == msg_types.Logout || mt == msg_types.Heartbeat
    || mt == msg_types.TestRequest || mt == msg_types.ResendRequest
    || mt == msg_types.SequenceReset || mt == msg_types.Reject

/-- The states in which `process_message` does not judge sequence numbers. -/
def SessionState.unnumbered (st : SessionState) : Bool :=
  st == .WaitingLogon || st == .LogonSent || st == .NotConnected

/-- `static_cast<int>` of a 64-bit value. -/
def to_i32 (v : ℤ) : ℤ := (v + 2 ^ 31) % 2 ^ 32 - 2 ^ 31

/-! ## Messages the session builds -/

/-- `SessionRejectReason`, the values the session uses. -/
inductive SessionRejectReason where
  | RequiredTagMissing
  | ValueIncorrect
  | TagAppearsMoreThanOnce
  | Other
  deriving DecidableEq

def SessionRejectReason.code : SessionRejectReason → ℤ
  | .RequiredTagMissing => 1
  | .ValueIncorrect => 5
  | .TagAppearsMoreThanOnce => 13
  | .Other => 99

/-- Set a field unless its value is empty. -/
def set_nonempty (m : Message) (tag : TagNum) (value : Bytes) : Message :=
  if value.isEmpty then m else m.set_discard tag value

def logon_message (cfg : SessionConfig) (heartbeat_sec : ℤ) : Message :=
  let m := ((Message.of_type msg_types.Logon).set_int tags.EncryptMethod 0).set_int
    tags.HeartBtInt heartbeat_sec
  let m := if cfg.reset_on_logon then m.set_discard tags.ResetSeqNumFlag (ascii "Y") else m
  let m := set_nonempty m tags.Username cfg.username
  let m := set_nonempty m tags.Password cfg.password
  set_nonempty m tags.DefaultApplVerID cfg.default_appl_ver_id

def logout_message (reason : Bytes) : Message :=
  set_nonempty (Message.of_type msg_types.Logout) tags.Text reason

def heartbeat_message (test_req_id : Bytes) : Message :=
  set_nonempty (Message.of_type msg_types.Heartbeat) tags.TestReqID test_req_id

def test_request_message (req_id : Bytes) : Message :=
  (Message.of_type msg_types.TestRequest).set_discard tags.TestReqID req_id

def resend_request_message (first last : ℕ) : Message :=
  ((Message.of_type msg_types.ResendRequest).set_int tags.BeginSeqNo (to_i64 first)).set_int
    tags.EndSeqNo (to_i64 last)

def reject_message (ref_seq : ℕ) (reason : SessionRejectReason) (ref_msg_type : Bytes)
    (ref_tag : TagNum) (text : Bytes) : Message :=
  let m := ((Message.of_type msg_types.Reject).set_int tags.RefSeqNum (to_i64 ref_seq)).set_int
    tags.SessionRejectReason reason.code
  let m := set_nonempty m tags.RefMsgType ref_msg_type
  let m := if ref_tag = 0 then m else m.set_int tags.RefTagID ref_tag.toNat
  set_nonempty m tags.Text text

def business_reject_message (ref_seq : ℕ) (business_reject_reason : ℤ) (ref_msg_type text : Bytes) :
    Message :=
  let m := ((Message.of_type msg_types.BusinessMessageReject).set_int tags.RefSeqNum
    (to_i64 ref_seq)).set_int tags.BusinessRejectReason business_reject_reason
  set_nonempty (set_nonempty m tags.RefMsgType ref_msg_type) tags.Text text

/-- The SequenceReset of `flush_gap`. -/
def gap_fill_message (up_to : ℕ) : Message :=
  (((Message.of_type msg_types.SequenceReset).set_discard tags.GapFillFlag (ascii "Y")).set_discard
    tags.PossDupFlag (ascii "Y")).set_int tags.NewSeqNo (to_i64 up_to)

namespace Session

variable {σ : Type}

/-! ## Events, errors and clocks -/

def emit (e : Event) (s : Session σ) : Session σ := { s with io := s.io.emit e }

def report (what : Bytes) (s : Session σ) : Session σ := { s with io := s.io.report what }

def guarded (e : Event) (s : Session σ) : Session σ := { s with io := s.io.guarded e }

def audit_frame (outbound : Bool) (raw : Bytes) (s : Session σ) : Session σ :=
  { s with io := s.io.audit_frame outbound raw }

/-- `last_send_time_ms_.store(clock_now()); ++msgs_sent_`. -/
def mark_sent (s : Session σ) : Session σ :=
  { s with last_send_time := s.io.clock_now, io := s.io.tick, msgs_sent := s.msgs_sent + 1 }

/-- `clear_gap`. -/
def clear_gap (s : Session σ) : Session σ := { s with gap := .closed }

/-- `Session::transition`. -/
def transition (expected desired : SessionState) (s : Session σ) : Bool × Session σ :=
  (s.state = expected, { s with state := if s.state = expected then desired else s.state })

/-- A scope of `SendLock` with the drain behind it. -/
def locked {α : Type} (body : Session σ → α × Session σ) (s : Session σ) : α × Session σ :=
  let r := body { s with io := s.io.acquire }
  (r.1, { r.2 with io := { r.2.io with send_owner := false }.drain_pending_errors })

variable [IMessageStore σ]

def next_sender (s : Session σ) : ℕ := IMessageStore.next_sender_seq_num s.store

def next_target (s : Session σ) : ℕ := IMessageStore.next_target_seq_num s.store

/-! ## The send path -/

/-- `abort_with` of `send_message_locked`: the claimed number is given back. -/
def abort_send (seq : ℕ) (s : Session σ) : Session σ :=
  let r := IMessageStore.set_next_sender_seq_num seq s.store
  { s with
    store := r.2
    io := match r.1 with
      | .ok _ => s.io
      | .error _ => (s.io.emit .rollback_failed).report
          (ascii "send: sequence rollback failed after a send abort") }

/-- Build the frame of `msg` under the number `seq`, with the time of now. -/
def serialize (msg : Message) (seq : ℕ) (s : Session σ) : Result Bytes × Session σ :=
  let built := (MessageBuilder.try_serialize msg s.cfg.id.version.to_string seq
    s.cfg.id.senderCompID s.cfg.id.targetCompID
    (format_timestamp (s.io.env.utc s.io.reads))).run s.builder
  (built.1, { s with builder := built.2, io := s.io.tick })

/-- `Session::send_message_locked`. -/
def send_message_locked (msg : Message) (s : Session σ) : Result Unit × Session σ :=
  let claimed := IMessageStore.next_sender_seq_num_incr s.store
  let s := { s with store := claimed.2 }
  match claimed.1 with
  | .error e => (.error e, s)
  | .ok seq =>
    let built := s.serialize msg seq
    match built.1 with
    | .error e => (.error e, built.2.abort_send seq)
    | .ok wire =>
      let stored := IMessageStore.store_outbound seq wire built.2.store
      let s := { built.2 with store := stored.2 }
      match stored.1 with
      | .error e => (.error e, s.abort_send seq)
      | .ok _ =>
        let s := s.emit (.stored seq (IMessageStore.held seq s.store))
        let s := s.emit (.do_send (.sent seq) wire)
        (.ok (), (s.audit_frame true wire).mark_sent)

/-- `Session::send_message`. -/
def send_message (msg : Message) (s : Session σ) : Result Unit × Session σ :=
  s.locked (send_message_locked msg)

/-- `Session::emit_wire_locked`. -/
def emit_wire_locked (wire : Bytes) (s : Session σ) : Session σ :=
  ((s.emit (.do_send .replayed wire)).audit_frame true wire).mark_sent

/-- The end of `send_logout`: the deadline and the state, unless the session was
torn down. -/
def mark_logout (s : Session σ) : Session σ :=
  { s with
    logout_sent_time := s.io.clock_now
    io := s.io.tick
    state := if s.state = .Disconnected then .Disconnected else .LogoutSent }

/-- `Session::send_logout`. -/
def send_logout (reason : Bytes) (s : Session σ) : Session σ :=
  (s.send_message (logout_message reason)).2.mark_logout

/-- `Session::send_logout_echo`. -/
def send_logout_echo (s : Session σ) : Session σ := (s.send_message (logout_message [])).2

/-- `Session::send_heartbeat`. -/
def send_heartbeat (test_req_id : Bytes) (s : Session σ) : Session σ :=
  (s.send_message (heartbeat_message test_req_id)).2

/-- The start of `send_test_request`: a new request is pending. -/
def arm_test_request (s : Session σ) : Session σ :=
  { s with
    pending_test_req_id := ascii "TEST-" ++ to_chars (s.io.env.test_req_counter s.io.reads)
    test_req_sent_time := s.io.tick.clock_now
    test_req_pending := true
    io := s.io.tick.tick }

/-- `Session::send_test_request`. -/
def send_test_request (s : Session σ) : Session σ :=
  let s := s.arm_test_request
  (s.send_message (test_request_message s.pending_test_req_id)).2

/-- `Session::send_resend_request`. -/
def send_resend_request (first last : ℕ) (s : Session σ) : Session σ :=
  (s.send_message (resend_request_message first last)).2

/-- `Session::send_reject`. -/
def send_reject (ref_seq : ℕ) (reason : SessionRejectReason) (ref_msg_type : Bytes)
    (ref_tag : TagNum) (text : Bytes) (s : Session σ) : Session σ :=
  (s.send_message (reject_message ref_seq reason ref_msg_type ref_tag text)).2

/-- `Session::send_business_reject`. -/
def send_business_reject (ref_seq : ℕ) (business_reject_reason : ℤ) (ref_msg_type text : Bytes)
    (s : Session σ) : Session σ :=
  (s.send_message (business_reject_message ref_seq business_reject_reason ref_msg_type text)).2

/-- The reset of the store. -/
def reset_store (s : Session σ) : Result Unit × Session σ :=
  let r := IMessageStore.reset s.store
  (r.1, { s with store := r.2, io := s.io.emit .store_reset })

/-- The state that `send_logon` publishes. -/
def handshake_state (s : Session σ) : SessionState :=
  if s.cfg.initiator then .LogonSent else .WaitingLogon

/-- The roll back of `send_logon` to the state `prev`. -/
def unpublish (prev : SessionState) (s : Session σ) : Session σ :=
  if prev ≠ s.handshake_state then (s.transition s.handshake_state prev).2 else s

/-- The deadline and the handshake state, before anything is sent. -/
def publish (s : Session σ) : Session σ :=
  { s with logon_sent_time := s.io.clock_now, io := s.io.tick, state := s.handshake_state }

/-- With `reset_on_logon` the store is reset before the Logon is numbered. -/
def reset_for_logon (s : Session σ) : Result Unit × Session σ :=
  if s.cfg.reset_on_logon then
    let r := s.reset_store
    match r.1 with
    | .error e => (.error e, r.2.report (ascii "logon: store reset failed; Logon not sent"))
    | .ok _ => (.ok (), r.2.clear_gap)
  else (.ok (), s)

/-- `send_logon` behind its checks. A failure rolls the published state back. -/
def publish_logon (m : Message) (s : Session σ) : Result Unit × Session σ :=
  let prev := s.state
  let ready := s.publish.reset_for_logon
  match ready.1 with
  | .error e => (.error e, ready.2.unpublish prev)
  | .ok _ =>
    let sent := ready.2.send_message_locked m
    match sent.1 with
    | .error e => (.error e, sent.2.unpublish prev)
    | .ok _ => (.ok (), sent.2)

/-- `Session::send_logon` under the send lock. -/
def send_logon_locked (m : Message) (s : Session σ) : Result Unit × Session σ :=
  let desired := s.handshake_state
  if s.state ≠ desired ∧ s.state ≠ .NotConnected ∧ s.state ≠ .Disconnected then
    (.error .SessionError, s)
  -- a second Logon of an initiator lost the race
  else if s.state = desired ∧ s.cfg.initiator then (.error .SessionError, s)
  else s.publish_logon m

/-- `Session::send_logon`. -/
def send_logon (s : Session σ) : Result Unit × Session σ :=
  s.locked (send_logon_locked (logon_message s.cfg s.heartbeat_sec))

end Session

end FixEngine
