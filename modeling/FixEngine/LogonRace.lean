/-
`LogonRace.lean` -- calls of `logon()` that race with each other.

Any number of threads call `logon()` on one initiator session, others call `disconnect()`, and
the IO thread processes what the peer answers: a Logon, a Logout or a Reject. A thread is a
position in the source, and a move takes it to the next access of `state_`, of the send lock or
of the store. A run is any sequence of moves; a move of a thread that waits for the lock leaves
everything as it is.

The functions are those of the sequential model, cut at these accesses: a thread that is left
alone computes what they compute (`logon_alone`, `process_message_alone`). What holds the race
together is a budget. Every Logon is paid for by the compare-and-swap that publishes LogonSent,
this takes a state from which a Logon may go out, and only `disconnect()` brings one back.
-/
import FixEngine.Handshake

set_option autoImplicit false

namespace FixEngine

open IMessageStore

/-! ## A call of `logon()` -/

/-- Where a call of `logon()` is. From `entered` to `leaving` it holds the send lock. -/
inductive LogonPc where
  | start
  /-- The state allowed a Logon. -/
  | passed
  | built (m : Message)
  | entered (m : Message)
  /-- The state `prev` was read under the lock. -/
  | checked (m : Message) (prev : SessionState)
  | stamped (m : Message) (prev : SessionState)
  | published (m : Message) (prev : SessionState)
  /-- The store is reset, if that was asked for. -/
  | ready (m : Message) (prev : SessionState)
  | failed (e : ErrorCode) (prev : SessionState)
  | leaving (r : Result Unit)
  | returned (r : Result Unit)
  deriving DecidableEq

/-- The next access of a call of `logon()`. -/
def LogonPc.step {σ : Type} [IMessageStore σ] (s : Session σ) : LogonPc → LogonPc × Session σ
  | .start =>
    if s.state ≠ .NotConnected ∧ s.state ≠ .Disconnected then (.returned (.error .SessionError), s)
    else (.passed, s)
  | .passed => (.built (logon_message s.cfg s.heartbeat_sec), s)
  | .built m => (.entered m, { s with io := s.io.acquire })
  | .entered m =>
    if s.state ≠ s.handshake_state ∧ s.state ≠ .NotConnected ∧ s.state ≠ .Disconnected then
      (.leaving (.error .SessionError), s)
    else if s.state = s.handshake_state ∧ s.cfg.initiator then (.leaving (.error .SessionError), s)
    else (.checked m s.state, s)
  | .checked m prev =>
    (.stamped m prev, { s with logon_sent_time := s.io.clock_now, io := s.io.tick })
  | .stamped m prev =>
    if prev ≠ s.handshake_state then
      let moved := s.transition prev s.handshake_state
      -- a teardown that came in between wins
      if moved.1 then (.published m prev, moved.2) else (.leaving (.error .SessionError), moved.2)
    else (.published m prev, s)
  | .published m prev =>
    let r := s.reset_for_logon
    match r.1 with
    | .error e => (.failed e prev, r.2)
    | .ok _ => (.ready m prev, r.2)
  | .ready m prev =>
    let r := s.send_message_locked m
    match r.1 with
    | .error e => (.failed e prev, r.2)
    | .ok _ => (.leaving (.ok ()), r.2)
  | .failed e prev => (.leaving (.error e), s.unpublish prev)
  | .leaving r =>
    (.returned r, { s with io := { s.io with send_owner := false }.drain_pending_errors })
  | .returned r => (.returned r, s)

/-- The call waits for the send lock. -/
def LogonPc.waits : LogonPc → Bool
  | .built _ => true
  | _ => false

/-- The next move claims the number of the Logon. -/
def LogonPc.sends : LogonPc → Bool
  | .ready _ _ => true
  | _ => false

/-- The call holds the send lock. -/
def LogonPc.holds : LogonPc → Bool
  | .start | .passed | .built _ | .returned _ => false
  | _ => true

/-- A call with nobody else about. -/
inductive LogonPc.Runs {σ : Type} [IMessageStore σ] :
    LogonPc → Session σ → LogonPc → Session σ → Prop where
  | stays (pc : LogonPc) (s : Session σ) : Runs pc s pc s
  | moves {pc pc' : LogonPc} {s s' : Session σ} (h : Runs (pc.step s).1 (pc.step s).2 pc' s') :
      Runs pc s pc' s'

/-! ## The IO thread -/

/-- What the IO thread has still to do for the answer that it processes. -/
inductive IoOp where
  | inbound (msg : Message)
  | judge (msg : Message)
  | request (first : ℕ)
  | dispatch (msg : Message) (seq_validated : Bool)
  | send (m : Message)
  /-- The Logout of `send_logout`, with `disconnect()` to follow. -/
  | refuse (reason : Bytes)
  | mark_logout
  /-- The transition of `handle_logout` from LogoutSent to Disconnected. -/
  | complete_logout
  | disconnect
  | notify (reason : Bytes)
  /-- The Logon of an acceptor that has waited for one. -/
  | respond
  | activate
  | consume (msg : Message) (seq_validated : Bool)

namespace Session

variable {σ : Type} [IMessageStore σ]

/-- `handle_logon` up to what it does to the state that it has read. -/
def begin_logon (msg : Message) (s : Session σ) : List IoOp × Session σ :=
  let st := s.state
  match msg.get_int tags.HeartBtInt with
  | none => ([.refuse (ascii "HeartBtInt required")], s)
  | some hb =>
    if hb ≤ 0 then ([.refuse (ascii "HeartBtInt required")], s)
    else if s.cfg.initiator ∧ st = .LogonSent ∧ hb ≠ s.heartbeat_sec then
      ([.refuse (ascii "HeartBtInt mismatch")], s)
    else
      match st with
      | .WaitingLogon => ([.respond], s.logon_ready hb msg)
      | .LogonSent => ([.activate], s.logon_ready hb msg)
      | .Active => ([.refuse (ascii "Duplicate Logon")], s.logon_ready hb msg)
      | _ => ([], s.logon_ready hb msg)

/-- `handle_logout`, by the state that it has read. -/
def begin_logout (msg : Message) (s : Session σ) : List IoOp × Session σ :=
  let reason := (msg.get tags.Text).getD []
  if s.state = .LogoutSent then ([.complete_logout, .disconnect, .notify reason], s)
  else ([.send (logout_message []), .disconnect, .notify reason], s)

/-- `handle_reject`, by the state that it has read. -/
def begin_reject (msg : Message) (s : Session σ) : List IoOp × Session σ :=
  let ref_seq := to_u64 ((msg.get_int tags.RefSeqNum).getD 0)
  let text := (msg.get tags.Text).getD []
  let info :=
    if text.isEmpty then
      match msg.get_int tags.SessionRejectReason with
      | some reason => ascii "session reject reason " ++ Decimal.to_chars_int reason
      | none => []
    else text
  if s.state = .LogonSent then
    ([.notify (ascii "Logon rejected: " ++ (if info.isEmpty then ascii "unknown" else info)),
      .disconnect], s)
  else ([], s.guarded (.on_reject ref_seq info))

/-- The handler of an answer. -/
def begin_answer (msg : Message) (s : Session σ) : List IoOp × Session σ :=
  if msg.msg_type = msg_types.Logon then s.begin_logon msg
  else if msg.msg_type = msg_types.Logout then s.begin_logout msg
  else s.begin_reject msg

/-- `validate_seq_num`, and where it leads. -/
def begin_numbered (msg : Message) (s : Session σ) : List IoOp × Session σ :=
  let expected := s.next_target
  let received := msg.seq_num
  if received = 0 then
    ([.send (reject_message 0 .RequiredTagMissing msg.msg_type tags.MsgSeqNum [])], s)
  else if expected < received then
    ([.request expected], s.guarded (.on_sequence_gap expected received))
  else if received < expected then
    if msg.poss_dup then ([], s) else ([.refuse (ascii "MsgSeqNum too low")], s)
  else ([.dispatch msg true], s.clear_gap)

/-- The last step of a handshake: Active is published, unless the session has left `expected`. -/
def publish_active (expected : SessionState) (what : Bytes) (s : Session σ) : Session σ :=
  let moved := s.transition expected .Active
  if moved.1 then { moved.2 with logout_notified := false }.guarded .on_logon
  else moved.2.report what

/-- The acceptor has answered our Logon. -/
def activate (s : Session σ) : Session σ :=
  s.publish_active .LogonSent
    (ascii "logon race: session left LogonSent before Active was published; on_logon suppressed")

/-- The answer of an acceptor. -/
def respond (s : Session σ) : Session σ :=
  let sent := s.send_logon
  match sent.1 with
  | .ok _ => sent.2.publish_active .WaitingLogon
      (ascii "logon race: session left WaitingLogon before Active was published")
  | .error _ =>
    sent.2.report (ascii "logon race: Logon response failed to send; on_logon suppressed")

end Session

/-- The next access of the IO thread: what follows it, and the session behind it. -/
def IoOp.step {σ : Type} [IMessageStore σ] (s : Session σ) : IoOp → List IoOp × Session σ
  | .inbound msg =>
    let s := s.note_inbound msg
    match s.identity_error msg with
    | some reason => ([.refuse reason], s)
    | none => ([.judge msg], s)
  | .judge msg => if s.state.unnumbered then ([.dispatch msg false], s) else s.begin_numbered msg
  | .request first =>
    if s.gap.is_open then ([], s)
    else ([.send (resend_request_message first 0)],
      { s with gap := ⟨true, s.io.clock_now, 1⟩, io := s.io.tick })
  | .dispatch msg seq_validated =>
    if msg.duplicate_header then
      ([.send (reject_message msg.seq_num .TagAppearsMoreThanOnce msg.msg_type 0
        (ascii "Tag appears more than once")), .consume msg seq_validated], s)
    else
      let r := s.begin_answer msg
      (r.1 ++ [.consume msg seq_validated], r.2)
  | .send m => ([], (s.send_message m).2)
  | .refuse reason => ([.mark_logout], (s.send_message (logout_message reason)).2)
  | .mark_logout => ([.disconnect], s.mark_logout)
  | .complete_logout => ([], (s.transition .LogoutSent .Disconnected).2)
  | .disconnect => ([], s.disconnect)
  | .notify reason => ([], s.notify_logout reason)
  | .respond => ([], s.respond)
  | .activate => ([], s.activate)
  | .consume msg seq_validated => ([], (s.consume_inbound msg seq_validated).count_received)

/-- The access is made under the send lock. -/
def IoOp.locks : IoOp → Bool
  | .send _ | .refuse _ | .respond => true
  | _ => false

/-- How often the access executes `disconnect()`. -/
def IoOp.disconnects : IoOp → ℕ
  | .disconnect => 1
  | _ => 0

/-- The IO thread with nobody else about. -/
inductive IoOp.Runs {σ : Type} [IMessageStore σ] : List IoOp → Session σ → Session σ → Prop where
  | done (s : Session σ) : Runs [] s s
  | moves {op : IoOp} {ops : List IoOp} {s s' : Session σ}
      (h : Runs ((op.step s).1 ++ ops) (op.step s).2 s') :
      Runs (op :: ops) s s'

/-! ## A thread that is left alone -/

theorem LogonPc.Runs.trans {σ : Type} [IMessageStore σ] {pc pc₁ pc₂ : LogonPc} {s s₁ s₂ : Session σ}
    (h : Runs pc s pc₁ s₁) (h' : Runs pc₁ s₁ pc₂ s₂) : Runs pc s pc₂ s₂ := by
  induction h with
  | stays => exact h'
  | moves _ ih => exact .moves (ih h')

namespace Session

variable {σ : Type} [IMessageStore σ]

theorem publish_logon_alone (m : Message) (s : Session σ) :
    LogonPc.Runs (.published m s.state) s.publish (.leaving (s.publish_logon m).1)
      (s.publish_logon m).2 := by
  apply LogonPc.Runs.moves
  rw [LogonPc.step, publish_logon]
  dsimp only
  rcases s.publish.reset_for_logon with ⟨e | _, ready⟩
  · exact .moves (.stays _ _)
  · apply LogonPc.Runs.moves
    rw [LogonPc.step]
    dsimp only
    rcases ready.send_message_locked m with ⟨e | _, sent⟩
    · exact .moves (.stays _ _)
    · exact .stays _ _

theorem send_logon_locked_alone (m : Message) (s : Session σ) :
    LogonPc.Runs (.entered m) s (.leaving (s.send_logon_locked m).1) (s.send_logon_locked m).2 := by
  apply LogonPc.Runs.moves
  rw [LogonPc.step, send_logon_locked]
  split
  · exact .stays _ _
  split
  · exact .stays _ _
  -- the deadline, and then the state
  apply LogonPc.Runs.moves
  apply LogonPc.Runs.moves
  rw [LogonPc.step, LogonPc.step]
  dsimp only
  split
  · have hmoved :
        (({ s with logon_sent_time := s.io.clock_now, io := s.io.tick } : Session σ).transition
          s.state
        s.handshake_state) = (true, s.publish) := by
      rw [transition, publish]
      simp
    rw [show handshake_state { s with logon_sent_time := s.io.clock_now, io := s.io.tick } =
      s.handshake_state from rfl,
      hmoved]
    exact publish_logon_alone m s
  · rename_i hsame
    have hsame : s.state = s.handshake_state := not_not.mp hsame
    have hpublish : s.publish = { s with logon_sent_time := s.io.clock_now, io := s.io.tick } := by
      rw [publish, ← hsame]
    rw [← hpublish]
    exact publish_logon_alone m s

theorem send_logon_alone (s : Session σ) :
    LogonPc.Runs (.built (logon_message s.cfg s.heartbeat_sec)) s
      (.returned s.send_logon.1) s.send_logon.2 := by
  apply LogonPc.Runs.moves
  exact (send_logon_locked_alone _ _).trans (.moves (.stays _ _))

/-- **A call of `logon()` that is left alone is `logon`.** -/
theorem logon_alone (s : Session σ) : LogonPc.Runs .start s (.returned s.logon.1) s.logon.2 := by
  apply LogonPc.Runs.moves
  rw [LogonPc.step, logon]
  split
  · exact .stays _ _
  · exact .moves (send_logon_alone s)

/-- The peer's answer to a Logon. -/
def Answers (msg : Message) : Prop :=
  msg.has tags.MsgType = true ∧
    (msg.msg_type = msg_types.Logon ∨ msg.msg_type = msg_types.Logout ∨
    msg.msg_type = msg_types.Reject)

instance (msg : Message) : Decidable (Answers msg) := inferInstanceAs (Decidable (_ ∧ _))

section Io

variable {ops : List IoOp} {s s' : Session σ}

theorem refuse_alone {reason : Bytes} (h : IoOp.Runs ops (s.send_logout reason).disconnect s') :
    IoOp.Runs (.refuse reason :: ops) s s' :=
  .moves (.moves (.moves h))

theorem begin_logon_alone {msg : Message} (h : IoOp.Runs ops (s.handle_logon msg) s') :
    IoOp.Runs ((s.begin_logon msg).1 ++ ops) (s.begin_logon msg).2 s' := by
  rw [begin_logon]
  rcases hhb : msg.get_int tags.HeartBtInt with _ | hb
  · rw [handle_logon, hhb] at h
    exact refuse_alone h
  dsimp only
  by_cases hpos : hb ≤ 0
  · rw [handle_logon, hhb] at h
    dsimp only at h
    rw [if_pos hpos] at h ⊢
    exact refuse_alone h
  by_cases hecho : s.cfg.initiator = true ∧ s.state = .LogonSent ∧ hb ≠ s.heartbeat_sec
  · rw [handle_logon, hhb] at h
    dsimp only at h
    rw [if_neg hpos, if_pos hecho] at h ⊢
    exact refuse_alone h
  -- what follows depends on the state that was read first
  rw [handle_logon_eq hhb hpos hecho] at h
  rw [if_neg hpos, if_neg hecho]
  generalize s.state = st at h ⊢
  cases st with
  | WaitingLogon => exact .moves h
  | LogonSent => exact .moves h
  | Active => exact refuse_alone h
  | NotConnected => exact h
  | LogoutSent => exact h
  | Disconnected => exact h

theorem begin_answer_alone {msg : Message} (hanswer : Answers msg)
    (h : IoOp.Runs ops (s.process_admin msg) s') :
    IoOp.Runs ((s.begin_answer msg).1 ++ ops) (s.begin_answer msg).2 s' := by
  rw [begin_answer]
  rw [process_admin] at h
  rcases hanswer.2 with htype | htype | htype
  · rw [if_pos htype] at h ⊢
    exact begin_logon_alone h
  · rw [htype] at h ⊢
    rw [if_neg (by decide), if_pos rfl, handle_logout] at h
    rw [if_neg (by decide), if_pos rfl, begin_logout]
    split
    · rename_i hstate
      rw [if_pos hstate] at h
      exact .moves (.moves (.moves h))
    · rename_i hstate
      rw [if_neg hstate] at h
      exact .moves (.moves (.moves h))
  · rw [htype] at h ⊢
    rw [if_neg (by decide), if_neg (by decide), if_neg (by decide), if_neg (by decide),
      if_neg (by decide), if_neg (by decide), if_pos rfl, handle_reject] at h
    rw [if_neg (by decide), if_neg (by decide), begin_reject]
    dsimp only at h ⊢
    split
    · rename_i hstate
      rw [if_pos hstate] at h
      exact .moves (.moves h)
    · rename_i hstate
      rw [if_neg hstate] at h
      exact h

theorem dispatch_alone {msg : Message} (hanswer : Answers msg) (seq_validated : Bool)
    (h : IoOp.Runs ops (s.dispatch msg seq_validated) s') :
    IoOp.Runs (.dispatch msg seq_validated :: ops) s s' := by
  have hadmin : is_admin_msg msg.msg_type = true := by
    rcases hanswer.2 with htype | htype | htype
    all_goals
      rw [htype]
      decide
  apply IoOp.Runs.moves
  rw [IoOp.step]
  rw [dispatch, hadmin, if_pos rfl] at h
  split
  · rename_i hdup
    rw [if_pos hdup] at h
    exact .moves (.moves h)
  · rename_i hdup
    rw [if_neg hdup] at h
    rw [List.append_assoc]
    exact begin_answer_alone hanswer (.moves h)

theorem begin_numbered_alone {msg : Message} (hanswer : Answers msg)
    (h : IoOp.Runs ops (if (s.validate_seq_num msg).1 = true then
      (s.validate_seq_num msg).2.clear_gap.dispatch msg true else (s.validate_seq_num msg).2) s') :
    IoOp.Runs ((s.begin_numbered msg).1 ++ ops) (s.begin_numbered msg).2 s' := by
  rw [validate_seq_num] at h
  rw [begin_numbered]
  by_cases hzero : msg.seq_num = 0
  · rw [if_pos hzero] at h ⊢
    exact .moves h
  rw [if_neg hzero] at h ⊢
  by_cases hgap : s.next_target < msg.seq_num
  · -- a gap is asked for unless that was done before
    rw [if_pos hgap] at h ⊢
    apply IoOp.Runs.moves
    rw [if_neg Bool.false_ne_true, request_gap] at h
    rw [IoOp.step]
    split
    · rename_i hopen
      rw [if_pos hopen] at h
      exact h
    · rename_i hopen
      rw [if_neg hopen] at h
      exact .moves h
  rw [if_neg hgap] at h ⊢
  by_cases hlow : msg.seq_num < s.next_target
  · rw [if_pos hlow] at h ⊢
    by_cases hdup : msg.poss_dup = true
    · rw [if_pos hdup] at h ⊢
      exact h
    · rw [if_neg hdup] at h ⊢
      exact refuse_alone h
  · rw [if_neg hlow] at h ⊢
    exact dispatch_alone hanswer true h

/-- **The processing of an answer that is left alone is `process_message`.** -/
theorem process_message_alone (s : Session σ) {msg : Message} (hanswer : Answers msg) :
    IoOp.Runs [.inbound msg] s (s.process_message msg) := by
  have htype : msg.msg_type ≠ msg_types.SequenceReset := by
    rcases hanswer.2 with htype | htype | htype
    all_goals
      rw [htype]
      decide
  have hhas : ¬(!msg.has tags.MsgType) = true := by
    rw [hanswer.1]
    decide
  have hdone := IoOp.Runs.done (s.process_message msg)
  generalize hafter : s.process_message msg = s' at hdone ⊢
  rw [process_message] at hafter
  apply IoOp.Runs.moves
  rw [IoOp.step]
  rcases hidentity : (s.note_inbound msg).identity_error msg with _ | reason
  · rw [hidentity] at hafter
    dsimp only at hafter
    rw [process_identified, if_neg hhas, if_neg htype] at hafter
    apply IoOp.Runs.moves
    rw [IoOp.step]
    generalize s.note_inbound msg = s at hafter ⊢
    by_cases hunnumbered : s.state.unnumbered = true
    · rw [if_pos hunnumbered] at hafter ⊢
      exact dispatch_alone hanswer false (hafter ▸ hdone)
    · rw [if_neg hunnumbered] at hafter ⊢
      exact begin_numbered_alone hanswer (hafter ▸ hdone)
  · rw [hidentity] at hafter
    exact refuse_alone (hafter ▸ hdone)

end Io

end Session

/-! ## The race -/

/-- A frame of MsgType Logon. -/
def is_logon_frame (w : Bytes) : Bool := frame_type w == some msg_types.Logon

/-- How many Logons were handed to `do_send`. -/
def Session.logon_frames {σ : Type} (s : Session σ) : ℕ := s.wire_trace.countP is_logon_frame

/-- A call of `logon()` with what it has done: the Logons handed over, the numbers claimed and
the resets of the store. -/
structure LogonCall where
  pc : LogonPc := .start
  frames : ℕ := 0
  claims : ℕ := 0
  resets : ℕ := 0

/-- The call behind a move to `pc` that has made `s'` of `s`. A send begins with a claim. -/
def LogonCall.moved {σ : Type} (c : LogonCall) (s : Session σ) (pc : LogonPc) (s' : Session σ) :
    LogonCall where
  pc := pc
  frames := c.frames + (s'.logon_frames - s.logon_frames)
  claims := c.claims + (match c.pc with
    | .ready _ _ => 1
    | _ => 0)
  resets := c.resets + (s'.resets - s.resets)

/-- The threads and what they share. -/
structure Race (σ : Type) where
  session : Session σ
  /-- The call that holds the send lock between its moves. -/
  holder : Option ℕ
  calls : ℕ → LogonCall
  ops : List IoOp
  /-- How often `disconnect()` was executed. -/
  disconnects : ℕ

/-- Which thread moves. -/
inductive Move where
  | logon (i : ℕ)
  | disconnect
  | answer (msg : Message)
  | io

namespace Race

variable {σ : Type} [IMessageStore σ]

/-- No call has begun. -/
def start (s : Session σ) : Race σ :=
  { session := s, holder := none, calls := fun _ => {}, ops := [], disconnects := 0 }

/-- The holder of the send lock behind a move of call `i` from `pc`. -/
def next_holder (w : Race σ) (i : ℕ) : LogonPc → Option ℕ
  | .built _ => some i
  | .leaving _ => none
  | _ => w.holder

/-- A move of call `i` of `logon()`. -/
def logon (i : ℕ) (w : Race σ) : Race σ :=
  if (w.calls i).pc.waits ∧ w.holder ≠ none then w
  else
    let r := (w.calls i).pc.step w.session
    { w with
      session := r.2
      holder := w.next_holder i (w.calls i).pc
      calls := Function.update w.calls i ((w.calls i).moved w.session r.1 r.2) }

/-- An access of the IO thread. It is not the owner of the send lock, whoever is. -/
def io_access (op : IoOp) (s : Session σ) : List IoOp × Session σ :=
  if s.io.send_owner then
    let r := op.step { s with io := { s.io with send_owner := false } }
    (r.1, { r.2 with io := { r.2.io with send_owner := true } })
  else op.step s

/-- A move of the IO thread. -/
def io (w : Race σ) : Race σ :=
  match w.ops with
  | [] => w
  | op :: ops =>
    if op.locks ∧ w.holder ≠ none then w
    else
      let r := io_access op w.session
      { w with
        session := r.2
        ops := r.1 ++ ops
        disconnects := w.disconnects + op.disconnects }

/-- A move. The IO thread takes an answer when it is done with the one before. -/
def move (w : Race σ) : Move → Race σ
  | .logon i => w.logon i
  | .disconnect => { w with session := w.session.disconnect, disconnects := w.disconnects + 1 }
  | .answer msg => if w.ops = [] ∧ Session.Answers msg then { w with ops := [.inbound msg] } else w
  | .io => w.io

/-- The threads behind a sequence of moves. -/
def run (w : Race σ) (moves : List Move) : Race σ := moves.foldl move w

end Race

/-! ## The IO thread hands over no Logon -/

namespace Session

variable {σ : Type} {s s₁ s₂ : Session σ}

/-- The configuration without the interval that a Logon of the peer may change. -/
def settings (s : Session σ) : SessionConfig := { s.cfg with heartbeat_interval := 0 }

/-- No event in `E` is a Logon. -/
def NoLogon (E : Event → Prop) : Prop :=
  ∀ e, E e → ∀ w, wire_of e = some w → is_logon_frame w = false

theorem no_logon_false : NoLogon fun _ => False := fun _ => False.elim

theorem no_logon_on_logon : NoLogon fun e => e = .on_logon := by
  rintro e rfl w hw
  cases hw

theorem no_logon_sends {id : SessionID} {m : Message} (h : m.msg_type ≠ msg_types.Logon) :
    NoLogon (Sends (FrameOfMessage id m)) := by
  rintro e ⟨origin, w, rfl, n, -, hcarries⟩ w' hw'
  obtain rfl : w = w' := Option.some.inj hw'
  rw [is_logon_frame, frame_type_of_carries hcarries]
  simpa using h

theorem logon_frames_of_adds {E : Event → Prop} (h : s.io.Adds E s₁.io) (hE : NoLogon E) :
    s₁.logon_frames = s.logon_frames := by
  obtain ⟨more, hevents, hmore⟩ := h
  have hnone : (more.filterMap wire_of).countP is_logon_frame = 0 := by
    rw [List.countP_eq_zero]
    intro w hw
    obtain ⟨e, he, hwire⟩ := List.mem_filterMap.mp hw
    rcases hmore e he with hminor | hin
    · -- a frame is no minor event
      cases e with
      | do_send _ _ => exact absurd hminor Bool.false_ne_true
      | _ => cases hwire
    · rw [hE e hin w hwire]
      decide
  rw [logon_frames, logon_frames, wire_trace, wire_trace, hevents, List.filterMap_append,
    List.countP_append, hnone, Nat.add_zero]

variable [IMessageStore σ]

/-- A step that hands over no Logon and leaves the settings alone. -/
structure Aside (s s' : Session σ) : Prop where
  settings : s'.settings = s.settings
  store : Relation.ReflTransGen AnyStep s.store s'.store
  logons : s'.logon_frames = s.logon_frames

theorem Aside.trans (h : Aside s s₁) (h' : Aside s₁ s₂) : Aside s s₂ :=
  ⟨h'.settings.trans h.settings, h.store.trans h'.store, h'.logons.trans h.logons⟩

theorem Aside.healthy (h : Aside s s₁) (hstore : Healthy s.store) : Healthy s₁.store :=
  fun st hst => hstore st (h.store.trans hst)

theorem Footprint.aside {E : Event → Prop} (h : Footprint E AnyStep s s₁) (hE : NoLogon E)
    (hsettings : s₁.settings = s.settings) : Aside s s₁ :=
  ⟨hsettings, h.store, logon_frames_of_adds h.events hE⟩

/-- One that keeps the state as well. -/
structure Calm (s s' : Session σ) : Prop where
  aside : Aside s s'
  state : s'.state = s.state

theorem Calm.refl (s : Session σ) : Calm s s := ⟨⟨rfl, .refl, rfl⟩, rfl⟩

theorem Calm.trans (h : Calm s s₁) (h' : Calm s₁ s₂) : Calm s s₂ :=
  ⟨h.aside.trans h'.aside, h'.state.trans h.state⟩

theorem Talks.calm {E : Event → Prop} (h : Talks E s s₁) (hE : NoLogon E)
    (hsettings : s₁.settings = s.settings) : Calm s s₁ :=
  ⟨h.anyStep.aside hE hsettings, h.state⟩

theorem calm_guarded (s : Session σ) {e : Event} (h : e.minor = true) : Calm s (s.guarded e) :=
  (talks_guarded s (.inl h)).calm no_logon_false rfl

theorem calm_send_message {m : Message} (h : m.msg_type ≠ msg_types.Logon) (s : Session σ) :
    Calm s (s.send_message m).2 := by
  refine (talks_send_message m s).calm (no_logon_sends h) ?_
  have hcfg : (s.send_message m).2.cfg = s.cfg :=
    cfg_send_message_locked m { s with io := s.io.acquire }
  rw [settings, hcfg, settings]

theorem calm_notify_logout (reason : Bytes) (s : Session σ) : Calm s (s.notify_logout reason) := by
  refine (talks_notify_logout reason s).calm no_logon_false ?_
  rw [notify_logout]
  split
  · rfl
  · rfl

theorem calm_consume (msg : Message) (seq_validated : Bool) (s : Session σ) :
    Calm s (s.consume_inbound msg seq_validated).count_received := by
  obtain ⟨hfoot, hstate⟩ := footprint_consume (E := fun _ => False) msg seq_validated s
  refine ⟨hfoot.aside no_logon_false ?_, hstate⟩
  rw [consume_inbound]
  split
  · rfl
  · rfl

theorem calm_logon_ready (hb : ℤ) (msg : Message) (s : Session σ) :
    Calm s (s.logon_ready hb msg) := by
  have hadopted : Aside s (s.adopt hb) := ⟨rfl, .refl, rfl⟩
  refine ⟨?_, (handshakes_logon_ready hb msg s).2.1⟩
  rw [logon_ready, rebaseline]
  split
  · have htarget := (footprint_set_target 1 (ascii "logon: ResetSeqNumFlag baseline persist failed")
      (s.adopt hb)).aside no_logon_false rfl
    exact (hadopted.trans htarget).trans ⟨rfl, .refl, rfl⟩
  · exact hadopted.trans ⟨rfl, .refl, rfl⟩

theorem calm_report (what : Bytes) (s : Session σ) : Calm s (s.report what) :=
  (talks_report what s).calm no_logon_false rfl

theorem publish_active_spec (expected : SessionState) (what : Bytes) (s : Session σ) :
    Aside s (s.publish_active expected what) ∧
      (s.publish_active expected what).state = if s.state = expected then .Active else s.state := by
  have hcalled : ∀ s' : Session σ, Calm s' (s'.guarded .on_logon) :=
    fun s' => (talks_guarded (E := fun e => e = .on_logon) s' (.inr rfl)).calm no_logon_on_logon rfl
  rw [publish_active]
  dsimp only
  split
  · have hmoved : Aside s { (s.transition expected .Active).2 with logout_notified := false } :=
      ⟨rfl, .refl, rfl⟩
    exact ⟨hmoved.trans (hcalled _).aside, rfl⟩
  · have hmoved : Aside s (s.transition expected .Active).2 := ⟨rfl, .refl, rfl⟩
    exact ⟨hmoved.trans (calm_report what _).aside, rfl⟩

end Session

/-- The message that the access sends, if any, is no Logon. -/
def IoOp.Harmless : IoOp → Prop
  | .send m => m.msg_type ≠ msg_types.Logon
  | _ => True

namespace Session

variable {σ : Type} [IMessageStore σ]

/-- A part of the IO thread up to its next access: it is calm, and what it leaves to send is no
Logon. -/
structure Prepares (s : Session σ) (r : List IoOp × Session σ) : Prop where
  calm : Calm s r.2
  harmless : ∀ op ∈ r.1, op.Harmless

theorem Prepares.one {s s' : Session σ} {op : IoOp} (h : Calm s s') (hop : op.Harmless) :
    Prepares s ([op], s') := by
  refine ⟨h, ?_⟩
  intro op' hmem
  rw [List.mem_singleton.mp hmem]
  exact hop

theorem Prepares.none {s s' : Session σ} (h : Calm s s') : Prepares s ([], s') := ⟨h, by simp⟩

theorem prepares_begin_logon (msg : Message) (s : Session σ) : Prepares s (s.begin_logon msg) := by
  rw [begin_logon]
  split
  · exact .one (.refl s) trivial
  split
  · exact .one (.refl s) trivial
  split
  · exact .one (.refl s) trivial
  rename_i hb _ _ _
  have hready := calm_logon_ready hb msg s
  split
  · exact .one hready trivial
  · exact .one hready trivial
  · exact .one hready trivial
  · exact .none hready

theorem prepares_begin_answer (msg : Message) (s : Session σ) :
    Prepares s (s.begin_answer msg) := by
  rw [begin_answer]
  split
  · exact prepares_begin_logon msg s
  split
  · rw [begin_logout]
    split
    · refine ⟨.refl s, ?_⟩
      simp [IoOp.Harmless]
    · refine ⟨.refl s, ?_⟩
      have hlogout : (logout_message []).msg_type ≠ msg_types.Logon := by
        rw [msg_type_logout]
        decide
      simp [IoOp.Harmless, hlogout]
  · rw [begin_reject]
    split
    · refine ⟨.refl s, ?_⟩
      simp [IoOp.Harmless]
    · exact .none (calm_guarded s rfl)

theorem prepares_begin_numbered (msg : Message) (s : Session σ) :
    Prepares s (s.begin_numbered msg) := by
  rw [begin_numbered]
  split
  · refine .one (.refl s) ?_
    rw [IoOp.Harmless, msg_type_reject]
    decide
  split
  · exact .one (calm_guarded s rfl) trivial
  split
  · split
    · exact .none (.refl s)
    · exact .one (.refl s) trivial
  · exact .one ⟨⟨rfl, .refl, rfl⟩, rfl⟩ trivial

end Session

/-- What an access of the IO thread does to the state. -/
def IoOp.next_state (st : SessionState) : IoOp → SessionState
  | .mark_logout => if st = .Disconnected then .Disconnected else .LogoutSent
  | .complete_logout => if st = .LogoutSent then .Disconnected else st
  | .disconnect => .Disconnected
  | .activate => if st = .LogonSent then .Active else st
  | _ => st

open Session in
/-- **An access of the IO thread** hands over no Logon, unless it answers one. -/
theorem IoOp.step_spec {σ : Type} [IMessageStore σ] {op : IoOp} (h : op.Harmless)
    (hop : op ≠ .respond) (s : Session σ) :
    Aside s (op.step s).2 ∧ (op.step s).2.state = op.next_state s.state ∧
    ∀ op' ∈ (op.step s).1, op'.Harmless := by
  -- most accesses leave the state alone
  have hkept : ∀ r : List IoOp × Session σ, Prepares s r → op.next_state s.state = s.state →
      Aside s r.2 ∧ r.2.state = op.next_state s.state ∧ ∀ op' ∈ r.1, op'.Harmless := by
    intro r hr hsame
    exact ⟨hr.calm.aside, hr.calm.state.trans hsame.symm, hr.harmless⟩
  cases op with
  | inbound msg =>
    have hnoted := (talks_note_inbound msg s).calm no_logon_false rfl
    apply hkept _ _ rfl
    rw [step]
    split
    · exact .one hnoted trivial
    · exact .one hnoted trivial
  | judge msg =>
    apply hkept _ _ rfl
    rw [step]
    split
    · exact .one (.refl s) trivial
    · exact prepares_begin_numbered msg s
  | request first =>
    apply hkept _ _ rfl
    rw [step]
    split
    · exact .none (.refl s)
    · refine .one ⟨⟨rfl, .refl, rfl⟩, rfl⟩ ?_
      rw [Harmless, msg_type_resend_request]
      decide
  | dispatch msg seq_validated =>
    apply hkept _ _ rfl
    rw [step]
    split
    · refine ⟨.refl s, ?_⟩
      have hreject : (reject_message msg.seq_num .TagAppearsMoreThanOnce msg.msg_type 0
          (ascii "Tag appears more than once")).msg_type ≠ msg_types.Logon := by
        rw [msg_type_reject]
        decide
      simp [Harmless, hreject]
    · have hanswer := prepares_begin_answer msg s
      refine ⟨hanswer.calm, ?_⟩
      intro op' hmem
      rcases List.mem_append.mp hmem with hmem | hmem
      · exact hanswer.harmless op' hmem
      · rw [List.mem_singleton.mp hmem]
        trivial
  | send m => exact hkept _ (.none (calm_send_message h s)) rfl
  | refuse reason =>
    refine hkept _ (.one (calm_send_message ?_ s) trivial) rfl
    rw [msg_type_logout]
    decide
  | mark_logout =>
    refine ⟨⟨rfl, .refl, rfl⟩, rfl, ?_⟩
    simp [step, Harmless]
  | complete_logout => exact ⟨⟨rfl, .refl, rfl⟩, rfl, fun _ h => absurd h List.not_mem_nil⟩
  | disconnect =>
    exact ⟨(footprint_disconnect s).aside no_logon_false rfl, rfl,
      fun _ h => absurd h List.not_mem_nil⟩
  | notify reason => exact hkept _ (.none (calm_notify_logout reason s)) rfl
  | respond => exact absurd rfl hop
  | activate =>
    obtain ⟨haside, hactive⟩ := publish_active_spec .LogonSent
      (ascii "logon race: session left LogonSent before Active was published; on_logon suppressed")
        s
    exact ⟨haside, hactive, fun _ h => absurd h List.not_mem_nil⟩
  | consume msg seq_validated => exact hkept _ (.none (calm_consume msg seq_validated s)) rfl

open Session in
theorem Race.io_access_spec {σ : Type} [IMessageStore σ] {op : IoOp} (h : op.Harmless)
    (hop : op ≠ .respond) (s : Session σ) :
    Aside s (io_access op s).2 ∧ (io_access op s).2.state = op.next_state s.state ∧
      ∀ op' ∈ (io_access op s).1, op'.Harmless := by
  rw [io_access]
  split
  · obtain ⟨haside, hnext, hops⟩ :=
      IoOp.step_spec h hop { s with io := { s.io with send_owner := false } }
    exact ⟨⟨haside.settings, haside.store, haside.logons⟩, hnext, hops⟩
  · exact IoOp.step_spec h hop s

/-! ## The budget -/

/-- The states from which a Logon may go out. -/
def SessionState.Idle (st : SessionState) : Prop := st = .NotConnected ∨ st = .Disconnected

instance (st : SessionState) : Decidable st.Idle := inferInstanceAs (Decidable (_ ∨ _))

/-- The next access of the IO thread is `disconnect()`. -/
def closing : List IoOp → Bool
  | .disconnect :: _ => true
  | _ => false

/-- Whether a Logon may go out before the next `disconnect()`. LogoutSent counts, unless the IO
thread is about to disconnect: the peer's Logout takes it to Disconnected. -/
def chance (st : SessionState) (ops : List IoOp) : ℕ :=
  if st.Idle ∨ (st = .LogoutSent ∧ closing ops = false) then 1 else 0

theorem chance_le_one (st : SessionState) (ops : List IoOp) : chance st ops ≤ 1 := by
  rw [chance]
  split
  · exact le_rfl
  · exact Nat.zero_le 1

theorem chance_of_idle {st : SessionState} (h : st.Idle) (ops : List IoOp) : chance st ops = 1 :=
  if_pos (.inl h)

/-- A Logon that is published and has not gone out, nor was given up. -/
def LogonPc.weight : LogonPc → ℕ
  | .published _ _ | .ready _ _ | .failed _ _ => 1
  | _ => 0

theorem chance_of_not_closing {ops : List IoOp} (h : closing ops = false) (st : SessionState)
    (ops' : List IoOp) :
    chance st ops' ≤ chance st ops := by
  rw [chance, chance]
  split
  · rename_i hopen
    rw [if_pos (hopen.imp_right fun hsent => ⟨hsent.1, h⟩)]
  · exact Nat.zero_le _

/-- **The IO thread opens a chance only by `disconnect()`.** -/
theorem chance_io (op : IoOp) (st : SessionState) (next ops : List IoOp)
    (hmark : op = .mark_logout → next = [.disconnect]) :
    chance (op.next_state st) (next ++ ops) ≤ chance st (op :: ops) + op.disconnects := by
  cases op with
  | mark_logout =>
    rw [hmark rfl, IoOp.next_state]
    by_cases hdown : st = .Disconnected
    · rw [if_pos hdown, hdown, chance_of_idle (.inr rfl)]
      exact Nat.le_refl 1
    · -- LogoutSent is left by `disconnect()` alone
      rw [if_neg hdown]
      exact Nat.zero_le _
  | complete_logout =>
    rw [IoOp.next_state]
    by_cases hsent : st = .LogoutSent
    · rw [if_pos hsent, hsent]
      exact chance_le_one _ _
    · rw [if_neg hsent]
      exact chance_of_not_closing rfl st _
  | activate =>
    rw [IoOp.next_state]
    by_cases hsent : st = .LogonSent
    · rw [if_pos hsent]
      exact Nat.zero_le _
    · rw [if_neg hsent]
      exact chance_of_not_closing rfl st _
  | disconnect => exact (chance_le_one _ _).trans (Nat.le_add_left 1 _)
  | _ => exact chance_of_not_closing rfl st _

/-! ## The moves of a call -/

/-- The Logon of a session with these settings. -/
def IsLogon (cfg : SessionConfig) (m : Message) : Prop := ∃ hb, m = logon_message cfg hb

/-- The CompIDs can be sent. -/
def CleanIds (cfg : SessionConfig) : Prop :=
  clean cfg.id.senderCompID = true ∧ clean cfg.id.targetCompID = true

/-- The call has done nothing yet. -/
def LogonCall.Fresh (c : LogonCall) : Prop := c.frames = 0 ∧ c.claims = 0 ∧ c.resets = 0

/-- What a call has done, by where it is. If there was a number for it, a call that fails has
done nothing when its Logon could be built. -/
def LogonCall.Good (cfg : SessionConfig) (numbered : Prop) (c : LogonCall) : Prop :=
  match c.pc with
  | .start | .passed => c.Fresh
  | .built m | .entered m => c.Fresh ∧ IsLogon cfg m
  | .checked m prev | .stamped m prev | .published m prev => c.Fresh ∧ IsLogon cfg m ∧ prev.Idle
  | .ready m prev => c.frames = 0 ∧ IsLogon cfg m ∧ prev.Idle
  | .failed _ _ => c.frames = 0 ∧ (numbered → ¬CleanIds cfg)
  | .leaving (.ok _) | .returned (.ok _) => c.frames = 1
  | .leaving (.error _) | .returned (.error _) =>
    c.frames = 0 ∧ (numbered → CleanIds cfg → c.claims = 0 ∧ c.resets = 0)

namespace Session

variable {σ : Type} [IMessageStore σ] {s s' : Session σ}

/-- What a move of a call leaves of the session, and that it keeps within the budget. -/
structure Pays (ops : List IoOp) (pc pc' : LogonPc) (s s' : Session σ) : Prop where
  settings : s'.settings = s.settings
  store : Relation.ReflTransGen AnyStep s.store s'.store
  budget : s'.logon_frames + pc'.weight + chance s'.state ops ≤
    s.logon_frames + pc.weight + chance s.state ops

theorem Calm.pays {ops : List IoOp} {pc pc' : LogonPc} (h : Calm s s')
    (hweight : pc'.weight = pc.weight) :
    Pays ops pc pc' s s' := by
  refine ⟨h.aside.settings, h.aside.store, ?_⟩
  rw [h.aside.logons, hweight, h.state]

theorem pays_publish {ops : List IoOp} {m : Message} {prev : SessionState} (hidle : prev.Idle)
    (hstate : s.state = prev) (hinit : s.cfg.initiator = true) :
    Pays ops (.stamped m prev) (.published m prev) s (s.transition prev s.handshake_state).2 := by
  have hsent : s.handshake_state = .LogonSent := by
    rw [handshake_state, if_pos hinit]
  have hafter : (s.transition prev s.handshake_state).2.state = .LogonSent := by
    rw [transition, if_pos hstate, hsent]
  refine ⟨rfl, .refl, ?_⟩
  rw [hafter, hstate, chance_of_idle hidle]
  exact Nat.le_refl _

theorem pays_unpublish {ops : List IoOp} {e : ErrorCode} {prev : SessionState} :
    Pays ops (.failed e prev) (.leaving (.error e)) s (s.unpublish prev) := by
  have hsame : (s.unpublish prev).settings = s.settings ∧ (s.unpublish prev).store = s.store := by
    rw [unpublish]
    split
    · exact ⟨rfl, rfl⟩
    · exact ⟨rfl, rfl⟩
  have hlogons : (s.unpublish prev).logon_frames = s.logon_frames := by
    rw [logon_frames, wire_trace, io_unpublish]
    rfl
  have hle := chance_le_one (s.unpublish prev).state ops
  refine ⟨hsame.1, hsame.2 ▸ .refl, ?_⟩
  rw [hlogons]
  show s.logon_frames + 0 + _ ≤ s.logon_frames + 1 + _
  omega

theorem calm_reset_for_logon (h : Healthy s.store) :
    s.reset_for_logon.1 = .ok () ∧ Calm s s.reset_for_logon.2 := by
  have hok : (IMessageStore.reset s.store).1 = .ok () := h.succeeds.reset
  rw [reset_for_logon]
  split
  · have hreset : Calm s s.reset_store.2 := by
      refine ⟨⟨rfl, .single (.reset s.store), ?_⟩, rfl⟩
      have hadds : s.io.Adds (fun e => e = .store_reset) s.reset_store.2.io :=
        Outside.adds_emit s.io (.inr rfl)
      refine logon_frames_of_adds hadds ?_
      rintro e rfl w hw
      cases hw
    dsimp only
    have hresult : s.reset_store.1 = .ok () := hok
    rw [hresult]
    exact ⟨rfl, hreset.trans ⟨⟨rfl, .refl, rfl⟩, rfl⟩⟩
  · exact ⟨rfl, .refl s⟩

theorem send_message_locked_unnumbered (h : ¬s.HasNumber) (m : Message) :
    (∃ e, (s.send_message_locked m).1 = .error e) ∧
      (s.send_message_locked m).2.logon_frames = s.logon_frames := by
  rcases hclaim : (next_sender_seq_num_incr s.store).1 with e | n
  · simp only [send_message_locked, hclaim]
    exact ⟨⟨e, rfl⟩, rfl⟩
  · exact absurd ⟨n, hclaim⟩ h

variable [StoreContract σ]

/-- **The Logon goes out**, or there is no number for it, or it cannot be built. -/
theorem send_logon_message (h : Healthy s.store) {m : Message} (hm : IsLogon s.settings m) :
    (s.send_message_locked m).2.settings = s.settings ∧
      Relation.ReflTransGen AnyStep s.store (s.send_message_locked m).2.store ∧
      (s.send_message_locked m).2.state = s.state ∧
      ((s.send_message_locked m).1 = .ok () ∧
      (s.send_message_locked m).2.logon_frames = s.logon_frames + 1 ∨
        (∃ e, (s.send_message_locked m).1 = .error e) ∧
          (s.send_message_locked m).2.logon_frames = s.logon_frames ∧
          (s.HasNumber → ¬CleanIds s.settings)) := by
  obtain ⟨hb, rfl⟩ := hm
  have htype := msg_type_logon s.settings hb
  have htalks := talks_send_message_locked (logon_message s.settings hb) s
  refine ⟨?_, htalks.anyStep.store, htalks.state, ?_⟩
  · rw [settings, cfg_send_message_locked, settings]
  · by_cases hnumber : s.HasNumber
    swap
    · obtain ⟨herr, hlogons⟩ := send_message_locked_unnumbered hnumber (logon_message s.settings hb)
      exact .inr ⟨herr, hlogons, fun h => absurd h hnumber⟩
    have hview := send_message_locked_view h hnumber (logon_message s.settings hb)
    by_cases hbuild : Buildable s.cfg.id (logon_message s.settings hb)
    · rw [if_pos hbuild] at hview
      obtain ⟨hok, w, hcarries, hafter⟩ := hview
      have htrace : (s.send_message_locked (logon_message s.settings hb)).2.wire_trace =
          s.wire_trace ++ [w] :=
        congrArg View.frames hafter
      have hframe : is_logon_frame w = true := by
        rw [is_logon_frame, frame_type_of_carries hcarries, htype]
        decide
      refine .inl ⟨hok, ?_⟩
      rw [logon_frames, htrace, List.countP_append, List.countP_singleton, if_pos hframe]
      rfl
    · rw [if_neg hbuild] at hview
      obtain ⟨herr, hafter⟩ := hview
      have htrace :
          (s.send_message_locked (logon_message s.settings hb)).2.wire_trace = s.wire_trace :=
        congrArg View.frames hafter
      refine .inr ⟨herr, ?_, ?_⟩
      · rw [logon_frames, htrace, logon_frames]
      · intro _ hclean
        exact hbuild ((tidy_logon s.settings hb).buildable hclean.1 hclean.2)

end Session

theorem LogonCall.moved_still {σ : Type} {c : LogonCall} {s s' : Session σ} (pc : LogonPc)
    (hlogons : s'.logon_frames = s.logon_frames) (hresets : s'.resets = s.resets)
    (hpc : ∀ m prev, c.pc ≠ .ready m prev) : c.moved s pc s' = { c with pc := pc } := by
  rw [moved, hlogons, hresets, Nat.sub_self, Nat.sub_self]
  split
  · rename_i m prev hready
    exact absurd hready (hpc m prev)
  · rfl

open Session in
/-- **A move of a call keeps within the budget, and the record says what the call has done.** -/
theorem LogonCall.move_spec {σ : Type} [IMessageStore σ] [StoreContract σ] {c : LogonCall}
    {s : Session σ} {numbered : Prop} (hgood : c.Good s.settings numbered)
    (hhealthy : Healthy s.store) (hinit : s.cfg.initiator = true)
    (hnumber : numbered → c.pc.sends = true → s.HasNumber) (ops : List IoOp) :
    Pays ops c.pc (c.pc.step s).1 s (c.pc.step s).2 ∧
      (c.moved s (c.pc.step s).1 (c.pc.step s).2).Good s.settings numbered := by
  -- a calm move between two positions keeps what the call has done
  have hstill : ∀ {pc : LogonPc} {s' : Session σ}, Calm s s' → s'.resets = s.resets →
      (∀ m prev, c.pc ≠ .ready m prev) → pc.weight = c.pc.weight →
      LogonCall.Good s.settings numbered { c with pc := pc } →
        Pays ops c.pc pc s s' ∧ (c.moved s pc s').Good s.settings numbered := by
    intro pc s' hcalm hresets hpc hweight hgood'
    refine ⟨hcalm.pays hweight, ?_⟩
    rw [moved_still pc hcalm.aside.logons hresets hpc]
    exact hgood'
  have hsent : s.handshake_state = .LogonSent := by
    rw [handshake_state, if_pos hinit]
  obtain ⟨pc, frames, claims, resets⟩ := c
  cases pc with
  | start =>
    rw [LogonPc.step]
    split
    · exact hstill (.refl s) rfl (by simp) rfl ⟨hgood.1, fun _ _ => hgood.2⟩
    · exact hstill (.refl s) rfl (by simp) rfl hgood
  | passed => exact hstill (.refl s) rfl (by simp) rfl ⟨hgood, _, rfl⟩
  | built m => exact hstill ⟨⟨rfl, .refl, rfl⟩, rfl⟩ rfl (by simp) rfl hgood
  | entered m =>
    rw [LogonPc.step]
    split
    · exact hstill (.refl s) rfl (by simp) rfl ⟨hgood.1.1, fun _ _ => hgood.1.2⟩
    split
    · exact hstill (.refl s) rfl (by simp) rfl ⟨hgood.1.1, fun _ _ => hgood.1.2⟩
    · rename_i hfree hfirst
      have hidle : s.state.Idle := by
        have hnot : s.state ≠ s.handshake_state := fun hsame => hfirst ⟨hsame, hinit⟩
        by_contra hbusy
        exact hfree ⟨hnot, fun h => hbusy (.inl h), fun h => hbusy (.inr h)⟩
      exact hstill (.refl s) rfl (by simp) rfl ⟨hgood.1, hgood.2, hidle⟩
  | checked m prev => exact hstill ⟨⟨rfl, .refl, rfl⟩, rfl⟩ rfl (by simp) rfl hgood
  | stamped m prev =>
    obtain ⟨hfresh, hlogon, hidle⟩ := hgood
    have hne : prev ≠ s.handshake_state := by
      rw [hsent]
      rcases hidle with rfl | rfl
      · simp
      · simp
    rw [LogonPc.step, if_pos hne]
    dsimp only
    split
    · rename_i hmoved
      have hstate : s.state = prev := of_decide_eq_true hmoved
      have hrecord : LogonCall.moved ⟨.stamped m prev, frames, claims, resets⟩ s (.published m prev)
          (s.transition prev s.handshake_state).2 = ⟨.published m prev, frames, claims, resets⟩ :=
        moved_still _ rfl rfl (by simp)
      refine ⟨pays_publish hidle hstate hinit, ?_⟩
      rw [hrecord]
      exact ⟨hfresh, hlogon, hidle⟩
    · rename_i hmoved
      have hstate : s.state ≠ prev := fun hsame => hmoved (decide_eq_true hsame)
      have hkept : (s.transition prev s.handshake_state).2.state = s.state := if_neg hstate
      exact hstill ⟨⟨rfl, .refl, rfl⟩, hkept⟩ rfl (by simp) rfl ⟨hfresh.1, fun _ _ => hfresh.2⟩
  | published m prev =>
    obtain ⟨hok, hcalm⟩ := calm_reset_for_logon hhealthy
    rw [LogonPc.step]
    dsimp only
    rw [hok]
    refine ⟨hcalm.pays rfl, ?_, hgood.2⟩
    show frames + (s.reset_for_logon.2.logon_frames - s.logon_frames) = 0
    rw [hcalm.aside.logons, Nat.sub_self]
    exact hgood.1.1
  | ready m prev =>
    obtain ⟨hframes, hlogon, hidle⟩ := hgood
    obtain ⟨hsettings, hstore, hstate, hcases⟩ := send_logon_message hhealthy hlogon
    rw [LogonPc.step]
    generalize s.send_message_locked m = r at hsettings hstore hstate hcases ⊢
    obtain ⟨result, s'⟩ := r
    rcases hcases with ⟨rfl, hlogons⟩ | ⟨⟨e, rfl⟩, hlogons, hunclean⟩
    · -- what was owed is paid
      refine ⟨⟨hsettings, hstore, ?_⟩, ?_⟩
      · rw [hlogons, hstate]
        exact Nat.le_refl _
      · show frames + (s'.logon_frames - s.logon_frames) = 1
        rw [hlogons]
        have hzero : frames = 0 := hframes
        omega
    · refine ⟨⟨hsettings, hstore, ?_⟩, ?_, fun h => hunclean (hnumber h rfl)⟩
      · rw [hlogons, hstate]
        exact Nat.le_refl _
      · show frames + (s'.logon_frames - s.logon_frames) = 0
        rw [hlogons, Nat.sub_self]
        exact hframes
  | failed e prev =>
    obtain ⟨hframes, hunclean⟩ := hgood
    have hio : (s.unpublish prev).io = s.io := io_unpublish _ _
    have hlogons : (s.unpublish prev).logon_frames = s.logon_frames := by
      rw [logon_frames, wire_trace, hio]
      rfl
    refine ⟨pays_unpublish, ?_, fun h hclean => absurd hclean (hunclean h)⟩
    show frames + ((s.unpublish prev).logon_frames - s.logon_frames) = 0
    rw [hlogons, Nat.sub_self]
    exact hframes
  | leaving r =>
    have hadds : s.io.Adds (fun _ => False)
        { s.io with send_owner := false }.drain_pending_errors :=
      Outside.adds_drain_pending_errors _
    have hdrained : Talks (fun _ => False) s
        { s with io := { s.io with send_owner := false }.drain_pending_errors } :=
          .of_adds rfl rfl hadds
    refine hstill (hdrained.calm no_logon_false rfl) (hadds.count_eq rfl (by simp)) (by simp) rfl ?_
    cases r with
    | ok _ => exact hgood
    | error e => exact hgood
  | returned r => exact hstill (.refl s) rfl (by simp) rfl hgood

open Session in
theorem LogonPc.Runs.pays {σ : Type} [IMessageStore σ] [StoreContract σ] {pc pc' : LogonPc}
    {s s' : Session σ} (h : Runs pc s pc' s') {c : LogonCall} (hc : c.pc = pc)
    (hgood : c.Good s.settings False) (hhealthy : Healthy s.store) (hinit : s.cfg.initiator = true)
    (ops : List IoOp) : Pays ops pc pc' s s' := by
  induction h generalizing c with
  | stays pc s => exact ⟨rfl, .refl, le_rfl⟩
  | @moves pc pc' s s' _ ih =>
    obtain ⟨hpays, hrecord⟩ := LogonCall.move_spec hgood hhealthy hinit (fun h => h.elim) ops
    rw [hc] at hpays hrecord
    have hinit' : (pc.step s).2.cfg.initiator = true :=
      (congrArg SessionConfig.initiator hpays.settings).trans hinit
    rw [← hpays.settings] at hrecord
    have hrest := ih rfl hrecord (fun st hst => hhealthy st (hpays.store.trans hst)) hinit'
    exact ⟨hrest.settings.trans hpays.settings, hpays.store.trans hrest.store,
      hrest.budget.trans hpays.budget⟩

open Session in
/-- **The answer of the IO thread keeps within the budget as well.** -/
theorem respond_spec {σ : Type} [IMessageStore σ] [StoreContract σ] {s : Session σ}
    (hhealthy : Healthy s.store) (hinit : s.cfg.initiator = true) (ops : List IoOp) :
    s.respond.settings = s.settings ∧ Relation.ReflTransGen AnyStep s.store s.respond.store ∧
      s.respond.logon_frames + chance s.respond.state ops ≤
      s.logon_frames + chance s.state (.respond :: ops) := by
  have hfresh : LogonCall.Good s.settings False
      { pc := .built (logon_message s.cfg s.heartbeat_sec) } :=
    ⟨⟨rfl, rfl, rfl⟩, s.heartbeat_sec, rfl⟩
  have hsent := (send_logon_alone s).pays rfl hfresh hhealthy hinit (.respond :: ops)
  have hbudget := hsent.budget
  rw [respond]
  generalize s.send_logon = sent at hsent hbudget ⊢
  -- what comes behind the Logon opens no chance
  have hbehind : ∀ s' : Session σ, Aside sent.2 s' →
      (s'.state = sent.2.state ∨ s'.state = .Active) →
      s'.settings = s.settings ∧ Relation.ReflTransGen AnyStep s.store s'.store ∧
        s'.logon_frames + chance s'.state ops ≤
        s.logon_frames + chance s.state (.respond :: ops) := by
    intro s' haside hstate
    refine ⟨haside.settings.trans hsent.settings, hsent.store.trans haside.store, ?_⟩
    have hchance : chance s'.state ops ≤ chance sent.2.state (.respond :: ops) := by
      rcases hstate with hstate | hstate
      · rw [hstate]
        exact chance_of_not_closing rfl _ _
      · rw [hstate]
        exact Nat.zero_le _
    have hlogons := haside.logons
    have hweight : (LogonPc.returned sent.1).weight = 0 := rfl
    have hbuilt : (LogonPc.built (logon_message s.cfg s.heartbeat_sec)).weight = 0 := rfl
    omega
  split
  · obtain ⟨haside, hactive⟩ := publish_active_spec .WaitingLogon
      (ascii "logon race: session left WaitingLogon before Active was published") sent.2
    apply hbehind _ haside
    rw [hactive]
    split
    · exact .inr rfl
    · exact .inl rfl
  · exact hbehind _ (calm_report _ _).aside (.inl rfl)

/-! ## Every run -/

namespace LogonPc

theorem holds_step {σ : Type} [IMessageStore σ] (pc : LogonPc) (s : Session σ) :
    (pc.step s).1.holds = match pc with
      | .built _ => true
      | .leaving _ => false
      | _ => pc.holds := by
  cases pc with
  | start =>
    rw [step]
    split
    · rfl
    · rfl
  | entered m =>
    rw [step]
    split
    · rfl
    split
    · rfl
    · rfl
  | stamped m prev =>
    rw [step]
    split
    · dsimp only
      split
      · rfl
      · rfl
    · rfl
  | published m prev =>
    rw [step]
    dsimp only
    split
    · rfl
    · rfl
  | ready m prev =>
    rw [step]
    dsimp only
    split
    · rfl
    · rfl
  | _ => rfl

theorem weight_of_not_holds {pc : LogonPc} (h : pc.holds = false) : pc.weight = 0 := by
  cases pc with
  | published m prev => cases h
  | ready m prev => cases h
  | failed e prev => cases h
  | _ => rfl

end LogonPc

namespace Race

variable {σ : Type} [IMessageStore σ] {s₀ : Session σ} {w : Race σ} {numbered : Prop}

/-- The Logon that the holder of the send lock owes. -/
def owed (w : Race σ) : ℕ :=
  match w.holder with
  | none => 0
  | some i => (w.calls i).pc.weight

/-- A call that comes to send finds a number. -/
def Numbered (w : Race σ) : Prop := ∀ i, (w.calls i).pc.sends = true → w.session.HasNumber

/-- What is known of the threads at any time. -/
structure Inv (s₀ : Session σ) (numbered : Prop) (w : Race σ) : Prop where
  settings : w.session.settings = s₀.settings
  healthy : Healthy w.session.store
  harmless : ∀ op ∈ w.ops, op.Harmless
  held : ∀ i, (w.calls i).pc.holds = true ↔ w.holder = some i
  budget : w.session.logon_frames + w.owed + chance w.session.state w.ops ≤
    s₀.logon_frames + 1 + w.disconnects
  calls : ∀ i, (w.calls i).Good s₀.settings numbered

theorem inv_start (hhealthy : Healthy s₀.store) : Inv s₀ numbered (start s₀) := by
  have hheld : ∀ i, ((start s₀).calls i).pc.holds = true ↔ (start s₀).holder = some i :=
    fun i => ⟨fun h => absurd h Bool.false_ne_true, fun h => by cases h⟩
  refine ⟨rfl, hhealthy, fun _ h => absurd h List.not_mem_nil, hheld, ?_, fun i => ⟨rfl, rfl, rfl⟩⟩
  exact Nat.add_le_add_left (chance_le_one _ _) _

theorem next_holder_cases (h : Inv s₀ numbered w) {i : ℕ}
    (hfree : ¬((w.calls i).pc.waits = true ∧ w.holder ≠ none)) :
    (w.holder = none ∧ w.next_holder i (w.calls i).pc = some i ∧
    ((w.calls i).pc.step w.session).1.holds = true) ∨
    (w.holder = some i ∧ w.next_holder i (w.calls i).pc = none ∧
    ((w.calls i).pc.step w.session).1.holds = false) ∨ (w.next_holder i (w.calls i).pc = w.holder ∧
      ((w.calls i).pc.step w.session).1.holds = (w.calls i).pc.holds) := by
  have hholds := LogonPc.holds_step (w.calls i).pc w.session
  have hheld := h.held i
  generalize (w.calls i).pc = pc at hfree hholds hheld ⊢
  cases pc with
  | built m =>
    have hnone : w.holder = none := by
      by_contra hsome
      exact hfree ⟨rfl, hsome⟩
    exact .inl ⟨hnone, rfl, hholds⟩
  | leaving r => exact .inr (.inl ⟨hheld.mp rfl, rfl, hholds⟩)
  | _ => exact .inr (.inr ⟨rfl, hholds⟩)

theorem logon_of_free {i : ℕ} (hfree : ¬((w.calls i).pc.waits = true ∧ w.holder ≠ none)) :
    w.logon i = { w with
      session := ((w.calls i).pc.step w.session).2
      holder := w.next_holder i (w.calls i).pc
      calls :=
        Function.update w.calls i ((w.calls i).moved w.session ((w.calls i).pc.step w.session).1
        ((w.calls i).pc.step w.session).2) } := if_neg hfree

theorem pc_logon {i : ℕ} (hfree : ¬((w.calls i).pc.waits = true ∧ w.holder ≠ none)) (j : ℕ) :
    ((w.logon i).calls j).pc = if j = i then ((w.calls i).pc.step w.session).1
    else (w.calls j).pc := by
  rw [logon_of_free hfree]
  dsimp only
  split
  · rename_i hj
    rw [hj, Function.update_self]
    rfl
  · rename_i hj
    rw [Function.update_of_ne hj]

theorem Inv.held_logon (h : Inv s₀ numbered w) {i : ℕ}
    (hfree : ¬((w.calls i).pc.waits = true ∧ w.holder ≠ none)) (j : ℕ) :
    ((w.logon i).calls j).pc.holds = true ↔ (w.logon i).holder = some j := by
  have hholder : (w.logon i).holder = w.next_holder i (w.calls i).pc := by rw [logon_of_free hfree]
  rw [pc_logon hfree, hholder]
  have hj := h.held j
  have hi := h.held i
  rcases next_holder_cases h hfree with ⟨hnone, hnext, hholds⟩ | ⟨hsome, hnext, hholds⟩ |
    ⟨hnext, hholds⟩
  · -- the lock was free and is taken
    rw [hnext]
    split
    · rename_i hsame
      rw [hholds, hsame]
      simp
    · rename_i hne
      rw [hj, hnone]
      simp [Ne.symm hne]
  · rw [hnext]
    split
    · rw [hholds]
      simp
    · rename_i hne
      rw [hj, hsome]
      simp [Ne.symm hne]
  · rw [hnext]
    split
    · rename_i hsame
      rw [hholds, hsame, hi]
    · exact hj

theorem Inv.owed_logon (h : Inv s₀ numbered w) {i : ℕ}
    (hfree : ¬((w.calls i).pc.waits = true ∧ w.holder ≠ none)) :
    (w.logon i).owed + (w.calls i).pc.weight =
    w.owed + ((w.calls i).pc.step w.session).1.weight := by
  have hholder : (w.logon i).holder = w.next_holder i (w.calls i).pc := by rw [logon_of_free hfree]
  have hpc := pc_logon hfree
  have hi := h.held i
  rw [owed, owed, hholder]
  rcases next_holder_cases h hfree with ⟨hnone, hnext, hholds⟩ | ⟨hsome, hnext, hholds⟩ |
    ⟨hnext, hholds⟩
  · have hidle : (w.calls i).pc.holds = false := by
      rw [hnone] at hi
      simpa using hi
    rw [hnext, hnone]
    dsimp only
    rw [hpc, if_pos rfl, LogonPc.weight_of_not_holds hidle, Nat.zero_add, Nat.add_zero]
  · rw [hnext, hsome]
    dsimp only
    rw [LogonPc.weight_of_not_holds hholds, Nat.zero_add, Nat.add_zero]
  · rw [hnext]
    by_cases hmine : w.holder = some i
    · rw [hmine]
      dsimp only
      rw [hpc, if_pos rfl, Nat.add_comm]
    · -- another call holds the lock, or none does
      have hidle : (w.calls i).pc.holds = false := by
        rw [← Bool.not_eq_true, hi]
        exact hmine
      rw [LogonPc.weight_of_not_holds hidle, LogonPc.weight_of_not_holds (hholds.trans hidle)]
      rcases hother : w.holder with _ | j
      · rfl
      · have hj : j ≠ i := by
          rintro rfl
          exact hmine hother
        dsimp only
        rw [hpc, if_neg hj]

variable [StoreContract σ]

/-- **A move of a call keeps the invariant.** Its Logon was paid for by the weight that the call
gained when it published LogonSent. -/
theorem Inv.logon (hinit : s₀.cfg.initiator = true) (h : Inv s₀ numbered w)
    (hnumber : numbered → w.Numbered) (i : ℕ) : Inv s₀ numbered (w.logon i) := by
  by_cases hblocked : (w.calls i).pc.waits = true ∧ w.holder ≠ none
  · rw [Race.logon, if_pos hblocked]
    exact h
  have hheld := h.held_logon hblocked
  have howed := h.owed_logon hblocked
  have hinit : w.session.cfg.initiator = true :=
    (congrArg SessionConfig.initiator h.settings).trans hinit
  have hgood := h.calls i
  rw [← h.settings] at hgood
  obtain ⟨hpays, hrecord⟩ :=
    LogonCall.move_spec hgood h.healthy hinit (fun hn => hnumber hn i) w.ops
  have hmoved := logon_of_free hblocked
  have hbudget := h.budget
  have hpaid := hpays.budget
  refine ⟨?_, ?_, ?_, hheld, ?_, ?_⟩
  · rw [hmoved]
    exact hpays.settings.trans h.settings
  · rw [hmoved]
    exact fun st hst => h.healthy st (hpays.store.trans hst)
  · rw [hmoved]
    exact h.harmless
  · have hsession : (w.logon i).session = ((w.calls i).pc.step w.session).2 := by rw [hmoved]
    have hops : (w.logon i).ops = w.ops := by rw [hmoved]
    have hcount : (w.logon i).disconnects = w.disconnects := by rw [hmoved]
    rw [hsession, hops, hcount]
    omega
  · intro j
    rw [hmoved]
    by_cases hj : j = i
    · rw [hj]
      show (Function.update w.calls i _ i).Good s₀.settings numbered
      rw [Function.update_self, ← h.settings]
      exact hrecord
    · show (Function.update w.calls i _ j).Good s₀.settings numbered
      rw [Function.update_of_ne hj]
      exact h.calls j

/-- **A move of the IO thread keeps it.** What it does is aside of the Logons, but for
`respond`, which takes the chance that there is. -/
theorem Inv.io (hinit : s₀.cfg.initiator = true) (h : Inv s₀ numbered w) :
    Inv s₀ numbered w.io := by
  have hinit : w.session.cfg.initiator = true :=
    (congrArg SessionConfig.initiator h.settings).trans hinit
  rw [Race.io]
  split
  · exact h
  rename_i op ops hops
  split
  · exact h
  have hbudget := h.budget
  rw [hops] at hbudget
  have hrest : ∀ op' ∈ ops, op'.Harmless :=
    fun op' hmem => h.harmless op' (hops ▸ List.mem_cons_of_mem op hmem)
  by_cases hop : op = .respond
  · subst hop
    -- with the flag of the owner set aside, the answer is that of the session
    obtain ⟨s', hs', hsettings, hstore, hpaid⟩ :
        ∃ s' : Session σ, io_access .respond w.session = ([], s') ∧
        s'.settings = w.session.settings ∧
        Relation.ReflTransGen Session.AnyStep w.session.store s'.store ∧
        s'.logon_frames + chance s'.state ops ≤ w.session.logon_frames + chance w.session.state
          (.respond :: ops) := by
      rw [io_access]
      split
      · exact ⟨_, rfl, respond_spec
          (s := { w.session with io := { w.session.io with send_owner := false } })
          h.healthy hinit ops⟩
      · exact ⟨_, rfl, respond_spec h.healthy hinit ops⟩
    rw [hs']
    refine ⟨hsettings.trans h.settings, fun st hst => h.healthy st (hstore.trans hst), hrest,
      h.held, ?_, h.calls⟩
    show s'.logon_frames + w.owed + chance s'.state ops ≤ s₀.logon_frames + 1 + (w.disconnects + 0)
    omega
  · obtain ⟨haside, hstate, hnext⟩ :=
      io_access_spec (h.harmless op (hops ▸ List.mem_cons_self)) hop w.session
    have hmark : op = .mark_logout → (io_access op w.session).1 = [.disconnect] := by
      rintro rfl
      rw [io_access]
      split
      · rfl
      · rfl
    have hchance := chance_io op w.session.state (io_access op w.session).1 ops hmark
    refine ⟨haside.settings.trans h.settings, haside.healthy h.healthy, ?_, h.held, ?_, h.calls⟩
    · intro op' hmem
      rcases List.mem_append.mp hmem with hmem | hmem
      · exact hnext op' hmem
      · exact hrest op' hmem
    · show (io_access op w.session).2.logon_frames + w.owed +
        chance (io_access op w.session).2.state ((io_access op w.session).1 ++ ops) ≤
          s₀.logon_frames + 1 + (w.disconnects + op.disconnects)
      rw [haside.logons, hstate]
      omega

theorem Inv.move (hinit : s₀.cfg.initiator = true) (h : Inv s₀ numbered w)
    (hnumber : numbered → w.Numbered) (m : Move) : Inv s₀ numbered (w.move m) := by
  cases m with
  | logon i => exact h.logon hinit hnumber i
  | disconnect =>
    have haside : Session.Aside w.session w.session.disconnect :=
      (Session.footprint_disconnect w.session).aside Session.no_logon_false rfl
    have hbudget := h.budget
    have hchance := chance_le_one w.session.disconnect.state w.ops
    have hlogons := haside.logons
    refine ⟨haside.settings.trans h.settings, haside.healthy h.healthy, h.harmless, h.held,
      ?_, h.calls⟩
    show w.session.disconnect.logon_frames + w.owed + chance w.session.disconnect.state w.ops ≤
      s₀.logon_frames + 1 + (w.disconnects + 1)
    omega
  | answer msg =>
    rw [Race.move]
    split
    · rename_i htaken
      have hbudget := h.budget
      rw [htaken.1] at hbudget
      refine ⟨h.settings, h.healthy, ?_, h.held, ?_, h.calls⟩
      · intro op hmem
        rw [List.mem_singleton.mp hmem]
        trivial
      · exact hbudget
    · exact h
  | io => exact h.io hinit

theorem inv_run (hinit : s₀.cfg.initiator = true) (h : Inv s₀ numbered w) (moves : List Move)
    (hnumbers : numbered → ∀ before, before <+: moves → (w.run before).Numbered) :
    Inv s₀ numbered (w.run moves) := by
  induction moves generalizing w with
  | nil => exact h
  | cons m moves ih =>
    have hnow : numbered → w.Numbered := fun hn => hnumbers hn [] List.nil_prefix
    refine ih (h.move hinit hnow m) ?_
    intro hn before hbefore
    exact hnumbers hn (m :: before) (List.cons_prefix_cons.mpr ⟨rfl, hbefore⟩)

/-- **Racing logons emit one Logon.** In every run at most one Logon more goes out than there
were executions of `disconnect()`, a call that succeeds has emitted exactly one, and a call that
fails none. If the CompIDs can be sent and the calls that come to send find a number, a call
that fails has neither claimed one nor reset the store. -/
theorem racing_logons (s₀ : Session σ) (hinit : s₀.cfg.initiator = true)
    (hhealthy : Healthy s₀.store) (moves : List Move) :
    ((start s₀).run moves).session.logon_frames ≤
    s₀.logon_frames + 1 + ((start s₀).run moves).disconnects ∧
    ∀ i,
      ((((start s₀).run moves).calls i).pc = .returned (.ok ()) →
      (((start s₀).run moves).calls i).frames = 1) ∧
      ∀ e, (((start s₀).run moves).calls i).pc = .returned (.error e) →
        (((start s₀).run moves).calls i).frames = 0 ∧
        ((∀ before, before <+: moves → ((start s₀).run before).Numbered) → CleanIds s₀.cfg →
          (((start s₀).run moves).calls i).claims = 0 ∧
          (((start s₀).run moves).calls i).resets = 0) := by
  have hinv := inv_run hinit (inv_start hhealthy) moves (fun hnumbers => hnumbers)
  have hbudget := hinv.budget
  refine ⟨by omega, ?_⟩
  intro i
  have hgood := hinv.calls i
  rw [LogonCall.Good] at hgood
  refine ⟨?_, ?_⟩
  · intro hreturned
    rw [hreturned] at hgood
    exact hgood
  · intro e hreturned
    rw [hreturned] at hgood
    exact hgood

end Race

/-- Two calls that both find the session idle. The second waits for the lock. -/
def two_calls : List Move :=
  [.logon 0, .logon 1, .logon 0, .logon 1, .logon 0, .logon 1] ++ List.replicate 6 (.logon 0) ++
    List.replicate 3 (.logon 1)

/-- The second call has lost the race. -/
theorem racing_logons_two :
    (((Race.start quiet_session).run two_calls).calls 0).pc = .returned (.ok ()) ∧
    (((Race.start quiet_session).run two_calls).calls 1).pc = .returned (.error .SessionError) ∧
    ((Race.start quiet_session).run two_calls).session.logon_frames ≤
      quiet_session.logon_frames + 1 + ((Race.start quiet_session).run two_calls).disconnects ∧
    (((Race.start quiet_session).run two_calls).calls 0).frames = 1 ∧
    (((Race.start quiet_session).run two_calls).calls 1).frames = 0 ∧
    (((Race.start quiet_session).run two_calls).calls 1).claims = 0 ∧
    (((Race.start quiet_session).run two_calls).calls 1).resets = 0 := by
  have hclean : CleanIds quiet_session.cfg := ⟨by decide, by decide⟩
  have hwon : (((Race.start quiet_session).run two_calls).calls 0).pc = .returned (.ok ()) := by
    decide
  have hlost : (((Race.start quiet_session).run two_calls).calls 1).pc =
      .returned (.error .SessionError) := by
    decide
  obtain ⟨hframes, hcalls⟩ :=
    Race.racing_logons quiet_session rfl (healthy_memory_store _) two_calls
  obtain ⟨hnone, hquiet⟩ := (hcalls 1).2 _ hlost
  obtain ⟨hclaims, hresets⟩ := hquiet (fun _ _ _ _ => ⟨_, rfl⟩) hclean
  exact ⟨hwon, hlost, hframes, (hcalls 0).1 hwon, hnone, hclaims, hresets⟩

/-- An initiator that resets its store at a logon, and whose CompID cannot be sent. Its next
number is 7. -/
def unsendable_session : Session MemoryStore :=
  Session.create { quiet_config with
      id := { quiet_config.id with senderCompID := ascii "CLIENT" ++ [SOH] },
        reset_on_logon := true }
    (set_next_sender_seq_num 7 MemoryStore.create).2 quiet_env

/-- **A Logon that cannot be built has reset the store.** The call fails and emits nothing, but
it has claimed a number, and the numbering has started over. -/
theorem unsendable_logon_resets :
    unsendable_session.cfg.initiator = true ∧ Healthy unsendable_session.store ∧
    unsendable_session.next_sender = 7 ∧
    (((Race.start unsendable_session).run (List.replicate 11 (.logon 0))).calls 0).pc =
      .returned (.error .InvalidField) ∧
    (((Race.start unsendable_session).run (List.replicate 11 (.logon 0))).calls 0).claims = 1 ∧
    (((Race.start unsendable_session).run (List.replicate 11 (.logon 0))).calls 0).resets = 1 ∧
    ((Race.start unsendable_session).run (List.replicate 11 (.logon 0))).session.next_sender = 1 :=
  ⟨rfl, healthy_memory_store _, by decide, by decide, by decide, by decide,
    by decide⟩

end FixEngine
