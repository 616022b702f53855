/-
`ErrorSink.lean` -- the error sink of a session, with a handler that may re-enter.

The model of a session has no re-entrance: `report` outside of the send lock and
`drain_pending_errors` record the invocations of `on_error` and go on. Here every
public call is shown to be a **script** in the sense of `Deferred.lean`: reports
outside of the lock, scopes of `SendLock` with their reports and the drain behind
each of them, and the drain at the end of `on_timer`. With a handler that re-enters,
which reports a call makes may depend on what the handler has done to the session; so
what is proved is proved of every script, and of every script that the handler calls.
-/
import FixEngine.Deferred
import FixEngine.Numbering
import FixEngine.SessionStep

set_option autoImplicit false

namespace FixEngine

open Deferred

/-! ## What a session shows of its sink -/

/-- The text of an invocation of `on_error`, and whether the thread held `send_mutex_`. -/
def Event.error_shown : Event → Option (Bytes × Bool)
  | .on_error what owner => some (what, owner)
  | _ => none

namespace Outside

/-- The counter, the buffer, what `on_error` has seen, and whether the send lock was taken
while it was held. -/
def board (o : Outside) : Board Bytes :=
  ⟨o.errors, o.pending_errors, o.events.filterMap Event.error_shown, o.relocked⟩

theorem board_emit {e : Event} (he : e.error_shown = none) (o : Outside) :
    (o.emit e).board = o.board := by
  simp [board, emit, he]

theorem board_drain {o : Outside} (hfree : o.send_owner = false) :
    o.drain_pending_errors.board = o.board.flush := by
  have hshown : ∀ texts : List Bytes, (texts.map fun what => Event.on_error what false).filterMap
      Event.error_shown = texts.map fun what => (what, false) := by
    intro texts
    rw [List.filterMap_map]
    exact congrFun List.filterMap_eq_map' texts
  simp [board, drain_pending_errors, Board.flush, hfree, hshown]

/-- The send lock is as it was, free or held, and the board has moved by a sequence of
acts. -/
def Moves {α : Type} (owner : Bool) (play : Board Bytes → α → Board Bytes) (P : α → Prop)
    (o o' : Outside) : Prop :=
  o.send_owner = owner → o'.send_owner = owner ∧
    ∃ acts : List α, (∀ act ∈ acts, P act) ∧ o'.board = acts.foldl play o.board

/-- The reports made in a scope of the send lock. -/
abbrev Buffers : Outside → Outside → Prop :=
  Moves true (Board.buffer kMaxPendingErrors) fun _ => True

/-- A script, of pieces with the property `P`. -/
abbrev Follows : (Segment Bytes → Prop) → Outside → Outside → Prop :=
  Moves false (Board.play kMaxPendingErrors)

namespace Moves

variable {α : Type} {owner : Bool} {play : Board Bytes → α → Board Bytes} {P : α → Prop}
variable {o o' o'' : Outside}

theorem quiet (howner : o'.send_owner = o.send_owner) (hboard : o'.board = o.board) :
    Moves owner play P o o' :=
  fun h => ⟨howner.trans h, [], by simp, hboard⟩

/-- Nothing happens. -/
theorem refl (o : Outside) : Moves owner play P o o := quiet rfl rfl

/-- Two sequences of acts, one after the other. -/
theorem trans (h : Moves owner play P o o') (h' : Moves owner play P o' o'') :
    Moves owner play P o o'' := by
  intro hfree
  obtain ⟨howner, acts, hacts, hboard⟩ := h hfree
  obtain ⟨howner', acts', hacts', hboard'⟩ := h' howner
  refine ⟨howner', acts ++ acts', ?_, ?_⟩
  · intro act hact
    exact (List.mem_append.mp hact).elim (hacts act) (hacts' act)
  · rw [hboard', hboard, List.foldl_append]

theorem after (h' : Moves owner play P o' o'') (h : Moves owner play P o o') :
    Moves owner play P o o'' := h.trans h'

/-- What is known of the acts may be forgotten. -/
theorem mono {Q : α → Prop} (h : Moves owner play P o o') (hPQ : ∀ act, P act → Q act) :
    Moves owner play Q o o' := by
  intro hfree
  obtain ⟨howner, acts, hacts, hboard⟩ := h hfree
  exact ⟨howner, acts, fun act hact => hPQ act (hacts act hact), hboard⟩

/-- To emit another event than `on_error` is no act. -/
theorem emit {e : Event} (he : e.error_shown = none) (o : Outside) :
    Moves owner play P o (o.emit e) := quiet rfl (board_emit he o)

/-- To read the clock is none. -/
theorem tick (o : Outside) : Moves owner play P o o.tick := quiet rfl rfl

end Moves

theorem Buffers.report (what : Bytes) (o : Outside) : Buffers o (o.report what) := by
  intro hheld
  by_cases hroom : o.pending_errors.length < kMaxPendingErrors
  · refine ⟨?_, [what], by simp, ?_⟩
    · simp [Outside.report, hheld, hroom]
    · simp [Outside.report, hheld, hroom, board, Board.buffer]
  · refine ⟨?_, [what], by simp, ?_⟩
    · simp [Outside.report, hheld, hroom]
    · simp [Outside.report, hheld, hroom, board, Board.buffer]

theorem Buffers.audit_frame (outbound : Bool) (raw : Bytes) (o : Outside) :
    Buffers o (o.audit_frame outbound raw) := by
  unfold Outside.audit_frame
  split
  · exact .refl o
  · split
    · exact (Moves.tick o).trans (.emit rfl _)
    · exact (Moves.tick o).trans (Buffers.report _ _)

/-- Outside of the lock `report` hands the text to `on_error`. -/
theorem Follows.report (what : Bytes) (o : Outside) :
    Follows (fun _ => True) o (o.report what) := by
  intro hfree
  refine ⟨?_, [.report what], by simp, ?_⟩
  · simp [Outside.report, hfree, Outside.emit]
  · simp [Outside.report, hfree, Outside.emit, board, Board.play, Event.error_shown]

/-- A callback that throws outside of the lock is reported at once. -/
theorem Follows.guarded {e : Event} (he : e.error_shown = none) (o : Outside) :
    Follows (fun _ => True) o (o.guarded e) := by
  unfold Outside.guarded
  split
  · exact (Moves.emit he o).trans (.tick _)
  · exact ((Moves.emit he o).trans (.tick _)).trans (Follows.report _ _)

/-- So is an audit entry that is dropped there. -/
theorem Follows.audit_frame (outbound : Bool) (raw : Bytes) (o : Outside) :
    Follows (fun _ => True) o (o.audit_frame outbound raw) := by
  unfold Outside.audit_frame
  split
  · exact .refl o
  · split
    · exact (Moves.tick o).trans (.emit rfl _)
    · exact (Moves.tick o).trans (Follows.report _ _)

/-- A drain of its own, as at the end of `on_timer`, is one piece. -/
theorem Follows.drain (o : Outside) : Follows (fun _ => True) o o.drain_pending_errors :=
  fun hfree => ⟨hfree, [.drain], by simp, board_drain hfree⟩

end Outside

/-! ## The scopes of the send lock -/

namespace Session

open Outside

variable {σ : Type}

/-- A call that reports in scopes of the send lock only. -/
abbrev Quietly (s s' : Session σ) : Prop := Follows (fun seg => seg.is_locked = true) s.io s'.io

/-- A call that follows some script. -/
abbrev Scripted (s s' : Session σ) : Prop := Follows (fun _ => True) s.io s'.io

/-- A call that reports under the lock only follows a script. -/
theorem Quietly.scripted {s s' : Session σ} (h : Quietly s s') : Scripted s s' :=
  h.mono fun _ _ => trivial

/-- A scope of the send lock is one piece of a script. -/
theorem locked_quietly {α : Type} {body : Session σ → α × Session σ}
    (hbody : ∀ s : Session σ, Buffers s.io (body s).2.io) (s : Session σ) :
    Quietly s (s.locked body).2 := by
  intro hfree
  -- the lock is free, so taking it shows nothing
  have hacquire : s.io.acquire.board = s.io.board := by
    simp [board, acquire, hfree]
  obtain ⟨_, whats, _, hboard⟩ := hbody { s with io := s.io.acquire } rfl
  refine ⟨rfl, [.locked whats], by simp [Segment.is_locked], ?_⟩
  show (Outside.drain_pending_errors _).board = _
  rw [board_drain rfl]
  exact congrArg Board.flush (hboard.trans (congrArg (whats.foldl _) hacquire))

theorem emit_wire_locked_buffers (wire : Bytes) (s : Session σ) :
    Buffers s.io (s.emit_wire_locked wire).io :=
  (Moves.emit rfl _).trans ((Buffers.audit_frame true _ _).trans (.tick _))

variable [IMessageStore σ]

/-- A failed rollback reports into the buffer. -/
theorem abort_send_buffers (seq : ℕ) (s : Session σ) : Buffers s.io (s.abort_send seq).io := by
  unfold abort_send
  dsimp only
  split
  · exact .refl _
  · exact (Moves.emit rfl _).trans (Buffers.report _ _)

/-- The send path reports into the buffer, on each of its ways. -/
theorem send_message_locked_buffers (msg : Message) (s : Session σ) :
    Buffers s.io (s.send_message_locked msg).2.io := by
  unfold send_message_locked
  dsimp only
  split
  · exact .refl _
  · split
    · exact (abort_send_buffers _ _).after (.tick _)
    · split
      · exact (abort_send_buffers _ _).after (.tick _)
      · refine Moves.after ((Moves.tick _).after (Buffers.audit_frame true _ _)) ?_
        exact Moves.after (.emit rfl _) (Moves.after (.emit rfl _) (.tick _))

/-- `send_message` is one scope of the lock. -/
theorem send_message_quietly (msg : Message) (s : Session σ) : Quietly s (s.send_message msg).2 :=
  locked_quietly (send_message_locked_buffers msg) s

/-- To publish a logon reports into the buffer, also when the reset fails and the state is taken
back. -/
theorem publish_logon_buffers (m : Message) (s : Session σ) :
    Buffers s.io (s.publish_logon m).2.io := by
  have hunpublish : ∀ (prev : SessionState) (s : Session σ), (s.unpublish prev).io = s.io := by
    intro prev s
    unfold unpublish
    split
    · rfl
    · rfl
  have hready : Buffers s.io s.publish.reset_for_logon.2.io := by
    unfold reset_for_logon
    dsimp only
    split
    · split
      · exact (Moves.tick _).trans ((Moves.emit rfl _).trans (Buffers.report _ _))
      · exact (Moves.tick _).trans (.emit rfl _)
    · exact .tick _
  unfold publish_logon
  dsimp only
  split
  · rw [hunpublish]
    exact hready
  · split
    · rw [hunpublish]
      exact hready.trans (send_message_locked_buffers m _)
    · exact hready.trans (send_message_locked_buffers m _)

/-- `send_logon` is one scope of the lock. -/
theorem send_logon_quietly (s : Session σ) : Quietly s s.send_logon.2 := by
  refine locked_quietly (fun s => ?_) s
  unfold send_logon_locked
  dsimp only
  split
  · exact .refl _
  · split
    · exact .refl _
    · exact publish_logon_buffers _ s

omit [IMessageStore σ] in
/-- A GapFill that cannot be built is reported into the buffer. -/
theorem flush_gap_buffers (up_to cursor : ℕ) (s : Session σ) :
    Buffers s.io (flush_gap up_to (cursor, s)).2.io := by
  unfold flush_gap
  dsimp only
  split
  · exact .refl _
  · split
    · exact (Moves.tick _).trans (Buffers.report _ _)
    · exact (emit_wire_locked_buffers _ _).after (.tick _)

omit [IMessageStore σ] in
/-- So is what goes wrong at each of the frames of a replay. -/
theorem replay_frames_buffers (range_end : ℕ) (frames : List (ℕ × Bytes)) (cursor : ℕ)
    (s : Session σ) : Buffers s.io (replay_frames range_end frames (cursor, s)).2.io := by
  induction frames generalizing cursor s with
  | nil => exact .refl _
  | cons frame frames ih =>
    unfold replay_frames
    dsimp only
    split
    · exact ih _ _
    · split
      · exact .refl _
      · split
        · split
          · exact ih _ { s with resend_corrupt := s.resend_corrupt + 1 }
          · split
            · exact ih _ _
            · -- the gap before the message, and the message or a gap in its place
              have hfilled := flush_gap_buffers frame.1 cursor s
              split
              · exact ((ih _ _).after (emit_wire_locked_buffers _ _)).after
                  (hfilled.trans (.tick _))
              · exact ((ih _ _).after (flush_gap_buffers _ _ _)).after (hfilled.trans (.tick _))
        · exact ih _ { s with resend_corrupt := s.resend_corrupt + 1 }

omit [IMessageStore σ] in
/-- A replay is one scope of the lock, however many frames it has. -/
theorem replay_quietly (first range_end : ℕ) (frames : List (ℕ × Bytes)) (s : Session σ) :
    Quietly s (s.replay first range_end frames) :=
  locked_quietly (fun s => (replay_frames_buffers range_end frames first s).trans
    (flush_gap_buffers _ _ _)) s

/-! ## Handlers and calls -/

omit [IMessageStore σ] in
/-- `send_raw()` is one scope of the lock. -/
theorem send_raw_quietly (raw : Bytes) (s : Session σ) : Quietly s (s.send_raw raw) :=
  locked_quietly
    (fun _ => (Moves.emit rfl _).trans ((Buffers.audit_frame true _ _).trans (.tick _))) s

theorem send_quietly (msg : Message) (s : Session σ) : Quietly s (s.send msg).2 := by
  unfold send
  split
  · exact .refl _
  · exact send_message_quietly msg s

theorem logon_quietly (s : Session σ) : Quietly s s.logon.2 := by
  unfold logon
  split
  · exact .refl _
  · exact send_logon_quietly s

theorem send_logout_quietly (reason : Bytes) (s : Session σ) : Quietly s (s.send_logout reason) :=
  (send_message_quietly _ s).trans (.tick _)

/-- A ResendRequest is one scope of the lock. -/
theorem send_resend_request_quietly (first last : ℕ) (s : Session σ) :
    Quietly s (s.send_resend_request first last) := send_message_quietly _ s

/-- So a gap is asked for in one scope, or not at all. -/
theorem request_gap_quietly (first : ℕ) (s : Session σ) : Quietly s (s.request_gap first) := by
  unfold request_gap
  split
  · exact .refl _
  · exact (send_resend_request_quietly _ _ _).after (.tick _)

omit [IMessageStore σ] in
/-- `disconnect()` reports nothing. -/
theorem disconnect_quietly (s : Session σ) : Quietly s s.disconnect := .emit rfl _

/-- A Logout and the end of the connection. -/
theorem refuse_quietly (reason : Bytes) (s : Session σ) :
    Quietly s (s.send_logout reason).disconnect :=
  (send_logout_quietly reason s).trans (disconnect_quietly _)

omit [IMessageStore σ] in
theorem notify_logout_scripted (reason : Bytes) (s : Session σ) :
    Scripted s (s.notify_logout reason) := by
  unfold notify_logout
  split
  · exact .refl _
  · exact Follows.guarded rfl _

theorem validate_seq_num_scripted (msg : Message) (s : Session σ) :
    Scripted s (s.validate_seq_num msg).2 := by
  unfold validate_seq_num
  dsimp only
  split
  · exact (send_message_quietly _ s).scripted
  · split
    · exact (request_gap_quietly _ _).scripted.after (Follows.guarded rfl _)
    · split
      · split
        · exact .refl _
        · exact (refuse_quietly _ s).scripted
      · exact .refl _

theorem scripted_of_result (result : Result Unit) (what : Bytes) (o : Outside) :
    Follows (fun _ => True) o (match result with | .ok _ => o | .error _ => o.report what) := by
  cases result with
  | ok _ => exact .refl o
  | error _ => exact Follows.report what o

theorem store_inbound_scripted (msg : Message) (what : Bytes) (s : Session σ) :
    Scripted s (s.store_inbound msg what) := scripted_of_result _ what s.io

/-- A failed advance is reported outside the lock. -/
theorem advance_target_scripted (msg : Message) (what : Bytes) (s : Session σ) :
    Scripted s (s.advance_target msg what) := scripted_of_result _ what s.io

/-- A failed set is, too. -/
theorem set_target_scripted (n : ℕ) (what : Bytes) (s : Session σ) :
    Scripted s (s.set_target n what) := scripted_of_result _ what s.io

/-- `consume_inbound` has these two reports at most. -/
theorem consume_inbound_scripted (msg : Message) (seq_validated : Bool) (s : Session σ) :
    Scripted s (s.consume_inbound msg seq_validated) := by
  unfold consume_inbound
  split
  · exact .refl _
  · exact (advance_target_scripted _ _ _).trans (store_inbound_scripted _ _ _)

omit [IMessageStore σ] in
/-- The publication of Active, or the report of the lost race. -/
theorem activate_scripted (expected : SessionState) (what : Bytes) (s : Session σ) :
    Scripted s (if (s.transition expected .Active).1 then
      { (s.transition expected .Active).2 with logout_notified := false }.guarded .on_logon
    else (s.transition expected .Active).2.report what) := by
  split
  · exact Follows.guarded rfl _
  · exact Follows.report what _

theorem logon_ready_scripted (hb : ℤ) (msg : Message) (s : Session σ) :
    Scripted s (s.logon_ready hb msg) := by
  unfold logon_ready rebaseline
  split
  · exact set_target_scripted _ _ (s.adopt hb)
  · exact .refl _

/-- **A Logon**: the answer is a scope of the lock, and `on_logon` is called behind it. -/
theorem handle_logon_scripted (msg : Message) (s : Session σ) :
    Scripted s (s.handle_logon msg) := by
  have hrefuse : ∀ reason, Scripted s (s.send_logout reason).disconnect :=
    fun reason => (refuse_quietly reason s).scripted
  rcases hhb : msg.get_int tags.HeartBtInt with _ | hb
  · rw [handle_logon, hhb]
    exact hrefuse _
  by_cases hpos : hb ≤ 0
  · rw [handle_logon, hhb]
    dsimp only
    rw [if_pos hpos]
    exact hrefuse _
  by_cases hecho : s.cfg.initiator ∧ s.state = .LogonSent ∧ hb ≠ s.heartbeat_sec
  · rw [handle_logon, hhb]
    dsimp only
    rw [if_neg hpos, if_pos hecho]
    exact hrefuse _
  rw [handle_logon_eq hhb hpos hecho]
  have hready := logon_ready_scripted hb msg s
  have hsent := hready.trans (send_logon_quietly _).scripted
  split
  · dsimp only
    split
    · exact hsent.trans (activate_scripted .WaitingLogon _ _)
    · exact hsent.trans (Follows.report _ _)
  · exact hready.trans (activate_scripted .LogonSent _ _)
  · exact hready.trans (refuse_quietly _ _).scripted
  · exact hready

theorem handle_logout_scripted (msg : Message) (s : Session σ) :
    Scripted s (s.handle_logout msg) := by
  unfold handle_logout
  dsimp only
  refine Moves.after (notify_logout_scripted _ _) ?_
  split
  · exact (disconnect_quietly _).scripted
  · exact (disconnect_quietly _).scripted.after (send_message_quietly _ s).scripted

theorem handle_resend_request_scripted (msg : Message) (s : Session σ) :
    Scripted s (s.handle_resend_request msg) := by
  have hreject : ∀ (ref_seq : ℕ) (reason : SessionRejectReason) (mt : Bytes) (tag : TagNum)
      (text : Bytes)
      (s : Session σ), Scripted s (s.send_reject ref_seq reason mt tag text) :=
    fun _ _ _ _ _ s => (send_message_quietly _ s).scripted
  have hreplay : ∀ (p : Prop) [Decidable p] (first range_end : ℕ) (frames : List (ℕ × Bytes))
      (s : Session σ), Scripted s (if p then s else s.replay first range_end frames) := by
    intro p _ first range_end frames s
    split
    · exact .refl _
    · exact (replay_quietly first range_end frames s).scripted
  unfold handle_resend_request
  split
  · exact hreject _ _ _ _ _ s
  · rename_i begin_opt _
    dsimp only
    have hasked : Scripted s (s.guarded (.on_resend_request (to_u64 begin_opt)
        (((msg.get_int tags.EndSeqNo).map to_u64).getD 0))) := Follows.guarded rfl _
    split
    · exact hreject _ _ _ _ _ s
    · split
      · exact hasked.trans (hreject _ _ _ _ _ _)
      · split
        · exact hasked.trans (Follows.report _ _)
        · exact Moves.after (hreplay _ _ _ _ _) hasked

theorem handle_sequence_reset_scripted (msg : Message) (s : Session σ) :
    Scripted s (s.handle_sequence_reset msg).2 := by
  have hrefuse : ∀ reason, Scripted s (s.send_logout reason).disconnect :=
    fun reason => (refuse_quietly reason s).scripted
  unfold handle_sequence_reset
  dsimp only
  split
  · split
    · exact hrefuse _
    · split
      · exact (request_gap_quietly _ s).scripted
      · split
        · exact .refl _
        · split
          · exact hrefuse _
          · split
            · exact hrefuse _
            · exact set_target_scripted _ _ s
  · split
    · exact hrefuse _
    · split
      · exact hrefuse _
      · exact set_target_scripted _ _ s

omit [IMessageStore σ] in
theorem handle_reject_scripted (msg : Message) (s : Session σ) :
    Scripted s (s.handle_reject msg) := by
  unfold handle_reject
  dsimp only
  split
  · exact (disconnect_quietly _).scripted.after (notify_logout_scripted _ s)
  · exact Follows.guarded rfl _

omit [IMessageStore σ] in
/-- A Heartbeat reports nothing. -/
theorem handle_heartbeat_scripted (msg : Message) (s : Session σ) :
    Scripted s (s.handle_heartbeat msg) := by
  unfold handle_heartbeat
  dsimp only
  split
  · exact .refl _
  · exact .refl _

theorem process_admin_scripted (msg : Message) (s : Session σ) :
    Scripted s (s.process_admin msg) := by
  unfold process_admin
  dsimp only
  split
  · exact handle_logon_scripted msg s
  · split
    · exact handle_logout_scripted msg s
    · split
      · exact handle_heartbeat_scripted msg s
      · split
        · exact (send_message_quietly _ s).scripted
        · split
          · exact handle_resend_request_scripted msg s
          · split
            · exact handle_sequence_reset_scripted msg s
            · split
              · exact handle_reject_scripted msg s
              · exact .refl _

theorem process_app_scripted (msg : Message) (s : Session σ) : Scripted s (s.process_app msg) := by
  unfold process_app
  split
  · exact (send_message_quietly _ s).scripted
  · split
    · exact (send_message_quietly _ s).scripted
    · exact Follows.guarded rfl _

/-- `dispatch`, with what is written behind the handler. -/
theorem dispatch_scripted (msg : Message) (seq_validated : Bool) (s : Session σ) :
    Scripted s (s.dispatch msg seq_validated) := by
  unfold dispatch
  dsimp only
  refine Moves.after (consume_inbound_scripted msg seq_validated _) ?_
  split
  · exact (send_message_quietly _ s).scripted
  · split
    · exact process_admin_scripted msg s
    · exact process_app_scripted msg s

/-- A message without a type: a Reject, and its number is consumed. -/
theorem reject_untyped_scripted (msg : Message) (s : Session σ) :
    Scripted s (s.reject_untyped msg) := by
  unfold reject_untyped
  dsimp only
  refine Moves.after (send_message_quietly _ _).scripted ?_
  split
  · exact (advance_target_scripted _ _ _).trans (store_inbound_scripted _ _ _)
  · exact .refl _

/-- A message that passed the identity checks. -/
theorem process_identified_scripted (msg : Message) (s : Session σ) :
    Scripted s (s.process_identified msg) := by
  unfold process_identified
  split
  · exact reject_untyped_scripted msg s
  · split
    · dsimp only
      split
      · exact handle_sequence_reset_scripted msg s
      · exact handle_sequence_reset_scripted msg s
    · split
      · exact dispatch_scripted msg false s
      · dsimp only
        split
        · exact (dispatch_scripted msg true _).after (validate_seq_num_scripted msg s)
        · exact validate_seq_num_scripted msg s

/-- **A message**, from the audit entry on. -/
theorem process_message_scripted (msg : Message) (s : Session σ) :
    Scripted s (s.process_message msg) := by
  have hnote : Scripted s (s.note_inbound msg) :=
    (Follows.audit_frame false msg.raw s.io).trans (.tick _)
  unfold process_message
  dsimp only
  split
  · exact hnote.trans (refuse_quietly _ _).scripted
  · exact hnote.trans (process_identified_scripted msg _)

/-- The probe reports in the scope of its TestRequest only: `on_heartbeat_timeout` is not
guarded there. -/
theorem probe_peer_quietly (now hb_ms : ℤ) (s : Session σ) :
    Quietly s (s.probe_peer now hb_ms).2 := by
  unfold probe_peer
  dsimp only
  split
  · split
    · exact (send_message_quietly _ _).after ((Moves.tick _).trans (.tick _))
    · exact .refl _
  · split
    · split
      · exact (Moves.emit rfl _).trans (.tick _)
      · exact (disconnect_quietly _).after ((Moves.emit rfl _).trans (.tick _))
    · exact .refl _

theorem retry_gap_scripted (now hb_ms : ℤ) (s : Session σ) :
    Scripted s (s.retry_gap now hb_ms) := by
  unfold retry_gap
  dsimp only
  split
  · split
    · exact (disconnect_quietly _).scripted.after (Follows.report _ _)
    · exact Moves.after (send_resend_request_quietly _ _ _).scripted (.quiet rfl rfl)
  · exact .refl _

theorem probe_and_retry_scripted (now hb_ms : ℤ) (s : Session σ) :
    Scripted s (if (s.probe_peer now hb_ms).1 then (s.probe_peer now hb_ms).2
      else (s.probe_peer now hb_ms).2.retry_gap now hb_ms) := by
  have hprobe := (probe_peer_quietly now hb_ms s).scripted
  split
  · exact hprobe
  · exact hprobe.trans (retry_gap_scripted now hb_ms _)

/-- **A tick**, with the drain at its end. -/
theorem on_timer_scripted (s : Session σ) : Scripted s s.on_timer := by
  have hbeat : ∀ (p : Prop) [Decidable p] (s : Session σ),
      Scripted s (if p then s.send_heartbeat [] else s) := by
    intro p _ s
    split
    · exact (send_message_quietly _ s).scripted
    · exact .refl _
  unfold on_timer
  dsimp only
  -- whatever the tick does, the drain is behind it
  refine Moves.after (Follows.drain _) (Moves.after ?_ (.tick s.io))
  split
  · exact Moves.after (probe_and_retry_scripted _ _ _) (hbeat _ { s with io := s.io.tick })
  · split
    · exact (disconnect_quietly _).scripted
    · exact .refl _
  · split
    · exact (disconnect_quietly _).scripted.after
        (notify_logout_scripted _ { s with io := s.io.tick })
    · exact hbeat _ { s with io := s.io.tick }
  · exact .refl _

theorem on_transport_connected_scripted (s : Session σ) : Scripted s s.on_transport_connected := by
  unfold on_transport_connected
  dsimp only
  split
  · split
    · exact (logon_quietly _).scripted.after (.tick _)
    · exact (Follows.report _ _).after ((logon_quietly _).scripted.after (.tick _))
  · exact .tick _

/-- `reset()` reports nothing. -/
theorem reset_quietly (s : Session σ) : Quietly s s.reset.2 := by
  unfold reset
  split
  · exact .refl _
  · exact .emit rfl _

theorem logout_quietly (reason : Bytes) (s : Session σ) : Quietly s (s.logout reason).2 := by
  unfold logout
  split
  · exact .refl _
  · exact send_logout_quietly reason s

/-- **Every call follows a script.** -/
theorem call_scripted (s : Session σ) (c : Call) : Scripted s (s.call c) := by
  cases c with
  | buffer parser => exact .refl _
  | message msg =>
    show Scripted s (if s.state = .Disconnected then s else s.process_message msg)
    split
    · exact .refl _
    · exact process_message_scripted msg s
  | timer => exact on_timer_scripted s
  | send msg => exact (send_quietly msg s).scripted
  | send_raw raw => exact (send_raw_quietly raw s).scripted
  | logon => exact (logon_quietly s).scripted
  | logout reason => exact (logout_quietly reason s).scripted
  | disconnect => exact (disconnect_quietly s).scripted
  | reset => exact (reset_quietly s).scripted
  | transport_connected => exact on_transport_connected_scripted s

end Session

/-- `send()`, `send_raw()` and `logon()`. -/
def Call.sends : Call → Bool
  | .send _ | .send_raw _ | .logon => true
  | _ => false

theorem Session.call_quietly {σ : Type} [IMessageStore σ] {c : Call} (hc : c.sends = true)
    (s : Session σ) : s.Quietly (s.call c) := by
  cases c with
  | send msg => exact s.send_quietly msg
  | send_raw raw => exact s.send_raw_quietly raw
  | logon => exact s.logon_quietly
  | _ => exact absurd hc Bool.false_ne_true

/-! ## The sink under every handler -/

/-- The machine of the sink, with the operations of `script` to do. -/
def sink_run (cb : Callbacks Bytes) (script : List (Segment Bytes)) (n : ℕ) :
    List (Instr Bytes) × Sink Bytes :=
  Deferred.run kMaxPendingErrors cb n (code script, .fresh)

/-- What the sink promises, of the configuration that a run has reached. -/
structure SinkSound (m : List (Instr Bytes) × Sink Bytes) : Prop where
  /-- `on_error` was never invoked with `send_mutex_` held. -/
  outside : ∀ d ∈ m.2.delivered, d.2 = false
  /-- The lock was never taken while it was held. -/
  granted : m.2.relocked = false
  /-- Every report was counted once. -/
  counted : m.2.errors = m.2.reported.length
  /-- Nothing was delivered twice. -/
  once : (m.2.delivered.map Prod.fst).Nodup
  /-- Between two operations, what did not find the buffer full is delivered or buffered. -/
  kept : ∀ rest, m.1 = code rest → ∀ r, (r, false) ∈ m.2.reported →
    r ∈ m.2.delivered.map Prod.fst ∨ r ∈ m.2.pending

/-- What a call of a session does to its sink is what the machine does with a script, when
the handler calls nothing. -/
def PlaysScript {σ : Type} (script : List (Segment Bytes)) (s s' : Session σ) : Prop :=
  ∀ sink : Sink Bytes, sink.held = false → sink.draining = false → sink.board = s.io.board →
    ∃ sink', Reaches kMaxPendingErrors .passive (code script, sink) ([], sink') ∧
      sink'.held = false ∧ sink'.draining = false ∧ sink'.board = s'.io.board

/-- What follows a script on the board is what the machine does with it under a handler that
calls nothing. -/
theorem plays_script {σ : Type} {s s' : Session σ} {P : Segment Bytes → Prop}
    (h : Outside.Follows P s.io s'.io) (hfree : s.io.send_owner = false) :
    ∃ script, (∀ seg ∈ script, P seg) ∧ PlaysScript script s s' := by
  obtain ⟨_, script, hscript, hboard⟩ := h hfree
  refine ⟨script, hscript, fun sink hheld hgate hsame => ?_⟩
  obtain ⟨sink', hreach, hheld', hgate', hboard'⟩ :=
    passive_script (show 0 < kMaxPendingErrors by decide) script hheld hgate []
  rw [List.append_nil] at hreach
  refine ⟨sink', hreach, hheld', hgate'.trans hgate, ?_⟩
  rw [hboard', hboard, hsame]

/-- What a call leaves of the send lock: it is free, it was never taken while it was held, and
every invocation of `on_error` was made with it free. -/
def LeavesUnlocked {σ : Type} (s s' : Session σ) : Prop :=
  s'.io.send_owner = false ∧ Board.Unlocked s.io.board s'.io.board

theorem leaves_unlocked {σ : Type} {s s' : Session σ} {P : Segment Bytes → Prop}
    (h : Outside.Follows P s.io s'.io) (hfree : s.io.send_owner = false) : LeavesUnlocked s s' := by
  obtain ⟨hfree', script, _, hboard⟩ := h hfree
  refine ⟨hfree', ?_⟩
  rw [hboard]
  exact Board.unlocked_play _ script _

/-- **The error sink never runs under the send lock.** Every call of a session that finds the
lock free leaves it free, takes it only when it is free and invokes `on_error` only when it is
free. Every call follows a script, and one of locked scopes only if it is `send()`,
`send_raw()` or `logon()`. Whatever the scripts of the operations and of the calls of the
handler are, `on_error` runs outside of the lock, the lock is granted, every report is counted
once, and delivered or buffered unless the buffer was full. If the handler re-enters by calls
of locked scopes only, every drain comes to its end, and so does every operation. -/
theorem error_sink_outside_lock {σ : Type} [IMessageStore σ] :
    (∀ (s : Session σ) (c : Call), s.io.send_owner = false →
      LeavesUnlocked s (s.call c) ∧ ∃ script,
        (c.sends = true → ∀ seg ∈ script, seg.is_locked = true) ∧
          PlaysScript script s (s.call c)) ∧
    ∀ (cb : Callbacks Bytes) (script : List (Segment Bytes)),
      (∀ n, SinkSound (sink_run cb script n)) ∧
      (cb.LockedOnly → ∃ n, (sink_run cb script n).1 = []) := by
  refine ⟨fun s c hfree => ⟨leaves_unlocked (s.call_scripted c) hfree, ?_⟩,
    fun cb script => ⟨fun n => ?_, fun hcb => ?_⟩⟩
  · by_cases hc : c.sends = true
    · obtain ⟨script, hscript, hplays⟩ := plays_script (s.call_quietly hc) hfree
      exact ⟨script, fun _ => hscript, hplays⟩
    · obtain ⟨script, _, hplays⟩ := plays_script (s.call_scripted c) hfree
      exact ⟨script, fun h => absurd h hc, hplays⟩
  · have hinv : Inv (sink_run cb script n).1 (sink_run cb script n).2 :=
      Inv.run (m := (code script, .fresh)) (Inv.fresh script) n
    refine ⟨hinv.unlocked, hinv.granted, hinv.numbered.errors_eq, hinv.nodup_delivered, ?_⟩
    intro rest hrest r hr
    exact hinv.delivered_or_pending (by rw [hrest]; exact inflight_code rest) hr
  · obtain ⟨s', ⟨n, hn⟩, _⟩ :=
      runs_off_operation kMaxPendingErrors hcb script (s := .fresh) rfl rfl []
    refine ⟨n, ?_⟩
    rw [List.append_nil] at hn
    rw [sink_run, hn]

/-- A handler that sends on every call, and whose every send fails in the audit log. -/
def resending : Callbacks Bytes :=
  ⟨fun _ => [.locked [ascii "audit log: entry dropped: full"]], fun _ => []⟩

/-- A send that fails in the audit log, with that handler, returns; and a send is a script of
locked scopes. -/
theorem error_sink_outside_lock_resending :
    (∃ n, (sink_run resending [.locked [ascii "audit log: entry dropped: full"]] n).1 = []) ∧
    ∃ script, (∀ seg ∈ script, seg.is_locked = true) ∧
      PlaysScript script (Session.create quiet_config MemoryStore.create quiet_env)
        ((Session.create quiet_config MemoryStore.create quiet_env).call
          (.send_raw (ascii "raw"))) := by
  obtain ⟨hscripts, hruns⟩ := error_sink_outside_lock (σ := MemoryStore)
  have hlocked : resending.LockedOnly :=
    ⟨fun _ seg hseg => by rw [List.mem_singleton.mp hseg]; rfl,
      fun _ _ hseg => absurd hseg List.not_mem_nil⟩
  obtain ⟨_, script, hscript, hplays⟩ :=
    hscripts (Session.create quiet_config MemoryStore.create quiet_env)
      (.send_raw (ascii "raw")) rfl
  exact ⟨(hruns resending _).2 hlocked, script, hscript rfl, hplays⟩

/-! ## A handler that re-enters otherwise -/

/-- An initiator whose CompID cannot be sent. -/
def nameless_session : Session MemoryStore :=
  Session.create { quiet_config with
      id := { quiet_config.id with senderCompID := ascii "CLIENT" ++ [SOH] } }
    MemoryStore.create quiet_env

/-- A handler that calls `on_transport_connected()` on every call: the logon fails, and the
failure is reported outside of the lock. -/
def reconnecting : Callbacks Bytes :=
  ⟨fun _ => [.locked [],
    .report (ascii "reconnect: logon failed: " ++ ErrorCode.InvalidField.message)], fun _ => []⟩

theorem reconnecting_again (r : Report Bytes) (todo : List (Instr Bytes)) (s : Sink Bytes)
    (hheld : s.held = false) (hgate : s.draining = true) :
    ∃ r' s', Deferred.run kMaxPendingErrors reconnecting 5 (.invoke r :: todo, s)
      = (.invoke r' :: todo, s') ∧ s'.held = false ∧ s'.draining = true := by
  simp [Deferred.run, Deferred.step, reconnecting, Segment.code, hheld, hgate, Sink.count]

/-- **A handler that reconnects never returns**: each reconnect reports at once, outside of
the lock and of the gate, and so calls the handler again. -/
theorem reconnecting_never_returns :
    (nameless_session.call .transport_connected).io.board =
      [.locked [], .report
        (ascii "reconnect: logon failed: " ++ ErrorCode.InvalidField.message)].foldl
        (Board.play kMaxPendingErrors) nameless_session.io.board ∧
    (nameless_session.run [.transport_connected, .transport_connected]).io.board =
      [.locked [], .report
        (ascii "reconnect: logon failed: " ++ ErrorCode.InvalidField.message)].foldl
        (Board.play kMaxPendingErrors) (nameless_session.call .transport_connected).io.board ∧
    ∀ n, (sink_run reconnecting [.locked [ascii "audit log: entry dropped: full"]] n).1 ≠ [] := by
  refine ⟨by decide, by decide, fun n hn => ?_⟩
  -- five steps from one invocation to the next, so the machine is never done
  have hcycle : ∀ k, ∃ r todo s,
      sink_run reconnecting [.locked [ascii "audit log: entry dropped: full"]]
      (5 * k + 5) = (.invoke r :: todo, s) ∧ s.held = false ∧ s.draining = true := by
    intro k
    induction k with
    | zero =>
      refine ⟨_, _, _, rfl, rfl, rfl⟩
    | succ k ih =>
      obtain ⟨r, todo, s, hrun, hheld, hgate⟩ := ih
      obtain ⟨r', s', hnext, hheld', hgate'⟩ := reconnecting_again r todo s hheld hgate
      refine ⟨r', todo, s', ?_, hheld', hgate'⟩
      rw [sink_run, show 5 * (k + 1) + 5 = 5 + (5 * k + 5) by omega, Deferred.run_add]
      rw [sink_run] at hrun
      rw [hrun, hnext]
  obtain ⟨r, todo, s, hrun, _⟩ := hcycle n
  have hdone : sink_run reconnecting [.locked [ascii "audit log: entry dropped: full"]] (5 * n + 5)
      = sink_run reconnecting [.locked [ascii "audit log: entry dropped: full"]] n := by
    rw [sink_run, show 5 * n + 5 = (4 * n + 5) + n by omega, Deferred.run_add, ← sink_run]
    generalize sink_run reconnecting [.locked [ascii "audit log: entry dropped: full"]] n =
      m at hn ⊢
    obtain ⟨todo', s'⟩ := m
    obtain rfl : todo' = [] := hn
    exact Deferred.run_nil _ _ _ _
  rw [hdone] at hrun
  rw [hrun] at hn
  simp at hn

end FixEngine
