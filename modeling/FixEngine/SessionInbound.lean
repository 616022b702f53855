/-
`SessionInbound.lean` -- the handlers, the dispatch and the public calls of a session
(`src/session/session.cpp`).

The functions follow the source one by one, in the order of their dependencies.
The replay of a ResendRequest keeps the cursor of the source, the first number
still unaccounted for, next to the session. `on_data` takes the messages that its
own `feed` queued; no handler feeds the parser, so their number bounds the loop.
-/
import FixEngine.Session

set_option autoImplicit false

namespace FixEngine

open Decimal

namespace Session

variable {σ : Type}

/-- `Session::disconnect`. -/
def disconnect (s : Session σ) : Session σ :=
  { s with
    state := .Disconnected
    test_req_pending := false
    pending_test_req_id := []
    gap := .closed
    parser := s.parser.reset
    io := s.io.emit .do_disconnect }

/-- `Session::notify_logout`: at most once in a connection cycle. -/
def notify_logout (reason : Bytes) (s : Session σ) : Session σ :=
  if s.logout_notified then s
  else { s with logout_notified := true }.guarded (.on_logout reason)

variable [IMessageStore σ]

/-! ## Sequence numbers -/

/-- `Session::request_gap`. -/
def request_gap (first : ℕ) (s : Session σ) : Session σ :=
  if s.gap.is_open then s
  else
    { s with gap := ⟨true, s.io.clock_now, 1⟩, io := s.io.tick }.send_resend_request first 0

/-- `Session::validate_seq_num`. -/
def validate_seq_num (msg : Message) (s : Session σ) : Bool × Session σ :=
  let expected := s.next_target
  let received := msg.seq_num
  if received = 0 then
    (false, s.send_reject 0 .RequiredTagMissing msg.msg_type tags.MsgSeqNum [])
  else if expected < received then
    (false, (s.guarded (.on_sequence_gap expected received)).request_gap expected)
  else if received < expected then
    if msg.poss_dup then (false, s)
    else (false, (s.send_logout (ascii "MsgSeqNum too low")).disconnect)
  else (true, s)

/-- `store_inbound`, its failure reported. -/
def store_inbound (msg : Message) (what : Bytes) (s : Session σ) : Session σ :=
  let r := IMessageStore.store_inbound msg.seq_num msg.raw s.store
  { s with
    store := r.2
    io := match r.1 with
      | .ok _ => s.io
      | .error _ => s.io.report what }

/-- `advance_next_target_seq_num(msg.seq_num() + 1)`, its failure reported. -/
def advance_target (msg : Message) (what : Bytes) (s : Session σ) : Session σ :=
  let r := IMessageStore.advance_next_target_seq_num (seq_succ msg.seq_num) s.store
  { s with
    store := r.2
    io := match r.1 with
      | .ok _ => s.io
      | .error _ => s.io.report what }

/-- `set_next_target_seq_num(n)`, its failure reported. -/
def set_target (n : ℕ) (what : Bytes) (s : Session σ) : Session σ :=
  let r := IMessageStore.set_next_target_seq_num n s.store
  { s with
    store := r.2
    io := match r.1 with
      | .ok _ => s.io
      | .error _ => s.io.report what }

/-- `Session::consume_inbound`. -/
def consume_inbound (msg : Message) (seq_validated : Bool) (s : Session σ) : Session σ :=
  if !seq_validated && msg.poss_dup then s
  else
    (s.advance_target msg (ascii "consume: NextTargetMsgSeqNum advance failed")).store_inbound msg
      (ascii "consume: inbound audit persist failed")

/-! ## Handlers -/

/-- `Session::handle_logon`. -/
def handle_logon (msg : Message) (s : Session σ) : Session σ :=
  let st := s.state
  match msg.get_int tags.HeartBtInt with
  | none => (s.send_logout (ascii "HeartBtInt required")).disconnect
  | some hb =>
    if hb ≤ 0 then (s.send_logout (ascii "HeartBtInt required")).disconnect
    else if s.cfg.initiator ∧ st = .LogonSent ∧ hb ≠ s.heartbeat_sec then
      (s.send_logout (ascii "HeartBtInt mismatch")).disconnect
    else
      let s := { s with
        cfg := { s.cfg with heartbeat_interval := to_i32 hb }, heartbeat_sec := to_i32 hb }
      let reset_flag := (msg.get tags.ResetSeqNumFlag).getD (ascii "N") = ascii "Y"
      let s := if reset_flag ∧ (st = .WaitingLogon ∨ st = .LogonSent) then
          s.set_target 1 (ascii "logon: ResetSeqNumFlag baseline persist failed")
        else s
      let s := s.clear_gap
      match st with
      | .WaitingLogon =>
        let sent := s.send_logon
        match sent.1 with
        | .ok _ =>
          let moved := sent.2.transition .WaitingLogon .Active
          if moved.1 then { moved.2 with logout_notified := false }.guarded .on_logon
          else moved.2.report
            (ascii "logon race: session left WaitingLogon before Active was published")
        | .error _ => sent.2.report
            (ascii "logon race: Logon response failed to send; on_logon suppressed")
      | .LogonSent =>
        let moved := s.transition .LogonSent .Active
        if moved.1 then { moved.2 with logout_notified := false }.guarded .on_logon
        else moved.2.report (ascii
          "logon race: session left LogonSent before Active was published; on_logon suppressed")
      | .Active => (s.send_logout (ascii "Duplicate Logon")).disconnect
      | _ => s

/-- `Session::handle_logout`. -/
def handle_logout (msg : Message) (s : Session σ) : Session σ :=
  let reason := (msg.get tags.Text).getD []
  let s :=
    if s.state = .LogoutSent then (s.transition .LogoutSent .Disconnected).2.disconnect
    else s.send_logout_echo.disconnect
  s.notify_logout reason

/-- `Session::handle_heartbeat`. -/
def handle_heartbeat (msg : Message) (s : Session σ) : Session σ :=
  let test_id := (msg.get tags.TestReqID).getD []
  if s.test_req_pending ∧ test_id = s.pending_test_req_id then
    { s with pending_test_req_id := [], test_req_pending := false }
  else s

/-- `Session::handle_test_request`. -/
def handle_test_request (msg : Message) (s : Session σ) : Session σ :=
  s.send_heartbeat ((msg.get tags.TestReqID).getD (ascii "TEST"))

/-- `flush_gap` of `handle_resend_request`: one SequenceReset GapFill from the cursor up
to `up_to`. -/
def flush_gap (up_to : ℕ) (at_cursor : ℕ × Session σ) : ℕ × Session σ :=
  let cursor := at_cursor.1
  let s := at_cursor.2
  if up_to ≤ cursor then (cursor, s)
  else
    let built := s.serialize (gap_fill_message up_to) cursor
    match built.1 with
    | .error _ => (cursor, built.2.report (ascii "resend: gap-fill serialisation failed"))
    | .ok wire => (up_to, built.2.emit_wire_locked wire)

end Session

/-- The message a parser of its own reads from a stored frame. -/
def read_stored (wire : Bytes) : Option Message := ((StreamParser.create {}).feed wire).next.2

/-- A stored message with the tags of a re-send. -/
def retag (stored : Message) : Message :=
  let m := stored.set_discard tags.PossDupFlag (ascii "Y")
  match m.get tags.SendingTime with
  | some orig => m.set_discard tags.OrigSendingTime orig
  | none => m

namespace Session

variable {σ : Type} [IMessageStore σ]

/-- The loop of `handle_resend_request` over the stored frames. -/
def replay_frames (range_end : ℕ) : List (ℕ × Bytes) → ℕ × Session σ → ℕ × Session σ
  | [], at_cursor => at_cursor
  | (seq, wire) :: frames, (cursor, s) =>
    if seq < cursor then replay_frames range_end frames (cursor, s)
    else if range_end < seq then (cursor, s)
    else
      match read_stored wire with
      | some stored =>
        if stored.msg_type.isEmpty then
          -- corrupt: counted, and covered by the enclosing gap-fill
          replay_frames range_end frames (cursor, { s with resend_corrupt := s.resend_corrupt + 1 })
        else if is_admin_msg stored.msg_type then replay_frames range_end frames (cursor, s)
        else
          let filled := flush_gap seq (cursor, s)
          let built := filled.2.serialize (retag stored) seq
          match built.1 with
          | .ok w => replay_frames range_end frames (seq_succ seq, built.2.emit_wire_locked w)
          | .error _ =>
            let s := { built.2 with resend_corrupt := built.2.resend_corrupt + 1 }
            replay_frames range_end frames (flush_gap (seq_succ seq) (filled.1, s))
      | none =>
        replay_frames range_end frames (cursor, { s with resend_corrupt := s.resend_corrupt + 1 })

/-- The replay of the window from `first` to `range_end`, under the send lock. -/
def replay (first range_end : ℕ) (frames : List (ℕ × Bytes)) (s : Session σ) : Session σ :=
  (s.locked fun s =>
    let done := replay_frames range_end frames (first, s)
    ((), (flush_gap (seq_succ range_end) done).2)).2

/-- `Session::handle_resend_request`. -/
def handle_resend_request (msg : Message) (s : Session σ) : Session σ :=
  match msg.get_int tags.BeginSeqNo with
  | none =>
    s.send_reject msg.seq_num .RequiredTagMissing msg.msg_type tags.BeginSeqNo
      (ascii "missing BeginSeqNo")
  | some begin_opt =>
    let first := to_u64 begin_opt
    let last := ((msg.get_int tags.EndSeqNo).map to_u64).getD 0
    if begin_opt < 1 then
      s.send_reject msg.seq_num .ValueIncorrect msg.msg_type tags.BeginSeqNo
        (ascii "BeginSeqNo must be >= 1")
    else
      let s := s.guarded (.on_resend_request first last)
      let next_sender := s.next_sender
      if next_sender < first then
        s.send_reject msg.seq_num .ValueIncorrect msg.msg_type tags.BeginSeqNo
          (ascii "BeginSeqNo > NextSenderMsgSeqNum")
      else
        let snap := IMessageStore.get_messages first last s.store
        let s := { s with store := snap.2 }
        match snap.1 with
        | .error _ => s.report (ascii "resend: store read failed; replay suppressed")
        | .ok frames =>
          let range_end := if last = 0 ∨ next_sender ≤ last then next_sender - 1 else last
          if range_end < first then s else s.replay first range_end frames

/-- `Session::handle_sequence_reset`: whether the message was consumed. -/
def handle_sequence_reset (msg : Message) (s : Session σ) : Bool × Session σ :=
  let gap_fill := (msg.get tags.GapFillFlag).getD (ascii "N") = ascii "Y"
  let expected := s.next_target
  let received := msg.seq_num
  let persist_failed := ascii "sequence reset: NewSeqNo persist failed"
  if gap_fill then
    if !msg.poss_dup then
      (true, (s.send_logout (ascii "SequenceReset GapFill requires PossDupFlag")).disconnect)
    else if expected < received then (false, s.request_gap expected)
    else if received < expected then (true, s)
    else
      match (msg.get_int tags.NewSeqNo).map to_u64 with
      | none => (true, (s.send_logout (ascii "invalid NewSeqNo")).disconnect)
      | some new_seq =>
        if new_seq ≤ expected then (true, (s.send_logout (ascii "invalid NewSeqNo")).disconnect)
        else (true, (s.set_target new_seq persist_failed).clear_gap)
  else
    match msg.get_int tags.NewSeqNo with
    | none => (true, (s.send_logout (ascii "invalid NewSeqNo")).disconnect)
    | some v =>
      if v ≤ 0 then (true, (s.send_logout (ascii "invalid NewSeqNo")).disconnect)
      else (true, (s.set_target (to_u64 v) persist_failed).clear_gap)

/-- `Session::handle_reject`. -/
def handle_reject (msg : Message) (s : Session σ) : Session σ :=
  let ref_seq := to_u64 ((msg.get_int tags.RefSeqNum).getD 0)
  let text := (msg.get tags.Text).getD []
  let info :=
    if text.isEmpty then
      match msg.get_int tags.SessionRejectReason with
      | some reason => ascii "session reject reason " ++ to_chars_int reason
      | none => []
    else text
  if s.state = .LogonSent then
    let why := ascii "Logon rejected: " ++ (if info.isEmpty then ascii "unknown" else info)
    (s.notify_logout why).disconnect
  else s.guarded (.on_reject ref_seq info)

/-! ## Dispatch -/

/-- `Session::process_admin`. -/
def process_admin (msg : Message) (s : Session σ) : Session σ :=
  let mt := msg.msg_type
  if mt = msg_types.Logon then s.handle_logon msg
  else if mt = msg_types.Logout then s.handle_logout msg
  else if mt = msg_types.Heartbeat then s.handle_heartbeat msg
  else if mt = msg_types.TestRequest then s.handle_test_request msg
  else if mt = msg_types.ResendRequest then s.handle_resend_request msg
  else if mt = msg_types.SequenceReset then (s.handle_sequence_reset msg).2
  else if mt = msg_types.Reject then s.handle_reject msg
  else s

/-- `Session::process_app`. -/
def process_app (msg : Message) (s : Session σ) : Session σ :=
  if s.state ≠ .Active then
    s.send_reject msg.seq_num .Other msg.msg_type 0 (ascii "Session not active")
  else
    match (if s.cfg.validate_fields then s.io.env.validate msg else none) with
    | some ec => s.send_business_reject msg.seq_num 0 msg.msg_type ec.message
    | none => s.guarded (.on_message msg)

/-- The identity checks of `process_message`: what is wrong with the message, if
anything. -/
def identity_error (msg : Message) (s : Session σ) : Option Bytes :=
  if msg.begin_string_version ≠ s.cfg.id.version then
    some (ascii "BeginString does not match session")
  else if msg.get tags.SenderCompID ≠ some s.cfg.id.targetCompID
      ∨ msg.get tags.TargetCompID ≠ some s.cfg.id.senderCompID then some (ascii "CompID mismatch")
  else none

/-- The branch of `process_message` for a message without MsgType. -/
def reject_untyped (msg : Message) (s : Session σ) : Session σ :=
  let s := if !s.state.unnumbered ∧ !msg.poss_dup ∧ msg.seq_num = s.next_target then
      (s.advance_target msg (ascii "reject: NextTargetMsgSeqNum advance failed")).store_inbound msg
        (ascii "reject: inbound audit persist failed")
    else s
  s.send_reject msg.seq_num .RequiredTagMissing [] tags.MsgType (ascii "Missing MsgType")

/-- `++msgs_received_`. -/
def count_received (s : Session σ) : Session σ := { s with msgs_received := s.msgs_received + 1 }

/-- `process_message` behind the sequence validation. -/
def dispatch (msg : Message) (seq_validated : Bool) (s : Session σ) : Session σ :=
  let s :=
    if msg.duplicate_header then
      s.send_reject msg.seq_num .TagAppearsMoreThanOnce msg.msg_type 0
        (ascii "Tag appears more than once")
    else if is_admin_msg msg.msg_type then s.process_admin msg
    else s.process_app msg
  (s.consume_inbound msg seq_validated).count_received

/-- `Session::process_message` for a message of this session's counterparty. -/
def process_identified (msg : Message) (s : Session σ) : Session σ :=
  if !msg.has tags.MsgType then (s.reject_untyped msg).count_received
  else if msg.msg_type = msg_types.SequenceReset then
    let r := s.handle_sequence_reset msg
    if r.1 then r.2.count_received else r.2
  else if s.state.unnumbered then s.dispatch msg false
  else
    let r := s.validate_seq_num msg
    if r.1 then r.2.clear_gap.dispatch msg true else r.2

/-- The bookkeeping at the start of `process_message`. -/
def note_inbound (msg : Message) (s : Session σ) : Session σ :=
  let s := s.audit_frame false msg.raw
  { s with last_recv_time := s.io.clock_now, io := s.io.tick, test_req_pending := false }

/-- `Session::process_message`. -/
def process_message (msg : Message) (s : Session σ) : Session σ :=
  let s := s.note_inbound msg
  match s.identity_error msg with
  | some reason => (s.send_logout reason).disconnect
  | none => s.process_identified msg

/-- The loop of `on_data` over the queued messages. -/
def drain_messages : ℕ → Session σ → Session σ
  | 0, s => s
  | n + 1, s =>
    match s.parser.next with
    | (_, none) => s
    | (parser, some msg) =>
      let s := { s with parser := parser }
      if s.state = .Disconnected then s else drain_messages n (s.process_message msg)

/-! ## Public calls -/

/-- `Session::on_data`. -/
def on_data (data : Bytes) (s : Session σ) : Session σ :=
  let s := { s with parser := s.parser.feed data }
  if !s.parser.healthy then s.disconnect
  else drain_messages s.parser.pending.length s

/-- `Session::send`. -/
def send (msg : Message) (s : Session σ) : Result Unit × Session σ :=
  if s.state ≠ .Active then (.error .SessionError, s) else s.send_message msg

/-- `Session::send_raw`. -/
def send_raw (raw : Bytes) (s : Session σ) : Session σ :=
  (s.locked fun s => ((), ((s.emit (.do_send .raw raw)).audit_frame true raw).mark_sent)).2

/-- `Session::logon`. -/
def logon (s : Session σ) : Result Unit × Session σ :=
  if s.state ≠ .NotConnected ∧ s.state ≠ .Disconnected then (.error .SessionError, s)
  else s.send_logon

/-- `Session::logout`. -/
def logout (reason : Bytes) (s : Session σ) : Result Unit × Session σ :=
  if s.state ≠ .Active ∧ s.state ≠ .LogonSent ∧ s.state ≠ .WaitingLogon then
    (.error .SessionError, s)
  else (.ok (), s.send_logout reason)

/-- `Session::on_transport_connected`. -/
def on_transport_connected (s : Session σ) : Session σ :=
  let now := s.io.clock_now
  let s := { s with
    parser := s.parser.reset
    test_req_pending := false
    pending_test_req_id := []
    gap := .closed
    logout_notified := false
    last_send_time := now
    last_recv_time := now
    logon_sent_time := now
    logout_sent_time := now
    io := s.io.tick }
  if s.cfg.initiator then
    -- a dropped connection can leave any state behind
    let r := logon { s with state := if s.state = .NotConnected then s.state else .Disconnected }
    match r.1 with
    | .ok _ => r.2
    | .error e => r.2.report (ascii "reconnect: logon failed: " ++ e.message)
  else { s with state := .WaitingLogon }

/-- `Session::reset`. -/
def reset (s : Session σ) : Result Unit × Session σ :=
  if s.state = .Active ∨ s.state = .LogonSent ∨ s.state = .LogoutSent then (.error .SessionError, s)
  else
    { s with
      state := .NotConnected
      parser := s.parser.reset
      test_req_pending := false
      pending_test_req_id := []
      gap := .closed
      logout_notified := false }.reset_store

/-- The liveness part of `on_timer` in the state Active: whether the handler of the
heartbeat timeout threw. -/
def probe_peer (now hb_ms : ℤ) (s : Session σ) : Bool × Session σ :=
  if !s.test_req_pending then
    (false, if hb_ms ≤ now - s.last_recv_time then s.send_test_request else s)
  else if hb_ms + hb_ms / 5 ≤ now - s.test_req_sent_time then
    let thrown := s.io.env.throws s.io.reads
    let s := { s with io := (s.io.emit .on_heartbeat_timeout).tick }
    if thrown.isSome then (true, s) else (false, s.disconnect)
  else (false, s)

/-- The retry of an open gap in `on_timer`. -/
def retry_gap (now hb_ms : ℤ) (s : Session σ) : Session σ :=
  if s.gap.is_open ∧ 1 ≤ s.gap.rr_attempts ∧ hb_ms + hb_ms / 5 ≤ now - s.gap.rr_last then
    let attempt := s.gap.rr_attempts + 1
    let s := { s with gap := { s.gap with rr_attempts := attempt } }
    if kMaxGapRetries < attempt then
      (s.report (ascii ("sequence gap: ResendRequest retry budget exhausted " ++
        "(kMaxGapRetries); disconnecting"))).disconnect
    else { s with gap := { s.gap with rr_last := now } }.send_resend_request s.next_target 0
  else s

/-- `Session::on_timer`. -/
def on_timer (s : Session σ) : Session σ :=
  let now := s.io.clock_now
  let s := { s with io := s.io.tick }
  let hb_ms := s.heartbeat_sec * 1000
  let s :=
    match s.state with
    | .Active =>
      let s := if hb_ms ≤ now - s.last_send_time then s.send_heartbeat [] else s
      let probed := s.probe_peer now hb_ms
      if probed.1 then probed.2 else probed.2.retry_gap now hb_ms
    | .LogonSent => if s.cfg.logon_timeout * 1000 ≤ now - s.logon_sent_time then s.disconnect else s
    | .LogoutSent =>
      if s.cfg.logout_timeout * 1000 ≤ now - s.logout_sent_time then
        (s.notify_logout (ascii "logout timeout")).disconnect
      else if hb_ms ≤ now - s.last_send_time then s.send_heartbeat []
      else s
    | _ => s
  { s with io := s.io.drain_pending_errors }

/-- `Session::Session`. -/
def create (cfg : SessionConfig) (store : σ) (env : Env) : Session σ where
  cfg := { cfg with heartbeat_interval := max 1 cfg.heartbeat_interval }
  store := store
  parser := StreamParser.create {}
  builder := {}
  state := .NotConnected
  gap := .closed
  heartbeat_sec := max 1 cfg.heartbeat_interval
  logout_notified := false
  test_req_pending := false
  pending_test_req_id := []
  last_send_time := env.clock 0
  last_recv_time := env.clock 0
  logon_sent_time := env.clock 0
  test_req_sent_time := 0
  logout_sent_time := 0
  msgs_sent := 0
  msgs_received := 0
  resend_corrupt := 0
  io :=
    { env := env
      reads := 1
      errors := 0
      pending_errors := []
      send_owner := false
      relocked := false
      events := [] }

end Session

end FixEngine
