/-
`Receive.lean` -- a frame at the session that it is meant for.

`on_data_frame` takes one frame through the parser of a session that has nothing buffered.
On a session that is Active, a message in sequence is then handled and takes its place
(`process_in_sequence`). The three kinds of frames that the replay of a ResendRequest and
the ordinary traffic are made of have an equation each for the view that they leave: an
application message, a GapFill, and a Heartbeat.
-/
import FixEngine.View

set_option autoImplicit false

namespace FixEngine

open IMessageStore

/-! ## One frame through the parser -/

/-- A parser with the default options and nothing buffered or queued. -/
structure StreamParser.Idle (p : StreamParser) : Prop where
  opts : p.opts = {}
  healthy : p.healthy = true
  unread : p.unread = []
  pending : p.pending = []

theorem StreamParser.idle_create : (StreamParser.create {}).Idle := ⟨rfl, rfl, rfl, rfl⟩

theorem StreamParser.Idle.feed {p : StreamParser} (h : p.Idle) {w : Bytes} {m : Message}
    (hscan : scan_frame {} w = .ok (m, w.length)) (hlen : w.length ≤ 2 ^ 20) :
    p.feed w = p.delivered m w := by
  have hcap : ({} : StreamParserOptions).buf_cap = 2 ^ 20 + 4096 := by decide
  apply StreamParser.feed_frame h.healthy h.unread
  · rw [h.opts]
    exact hscan
  · omega
  · rw [h.opts, hcap]
    exact .inr (by omega)

/-- The parser that has handed its only message over. -/
def StreamParser.emptied (p : StreamParser) : StreamParser := { p with pending := [] }

theorem StreamParser.Idle.emptied {p : StreamParser} (h : p.Idle) (m : Message) (w : Bytes) :
    (p.delivered m w).emptied.Idle := ⟨h.opts, h.healthy, rfl, rfl⟩

theorem read_stored_of_scan {w : Bytes} {m : Message} (hscan : scan_frame {} w = .ok (m, w.length))
    (hlen : w.length ≤ 2 ^ 20) : read_stored w = some m := by
  rw [read_stored, StreamParser.idle_create.feed hscan hlen]
  rfl

/-- The other end of a session. -/
structure Mirrors (id id' : SessionID) : Prop where
  version : id'.version = id.version
  sender : id'.senderCompID = id.targetCompID
  target : id'.targetCompID = id.senderCompID

/-! ## The GapFill of a replay -/

theorem get_gap_fill_flag (up_to : ℕ) :
    (gap_fill_message up_to).get tags.GapFillFlag = some (ascii "Y") := by
  rw [gap_fill_message, Message.set_int, get_set_discard_ne (by decide),
    get_set_discard_ne (by decide), get_set_discard_self (by decide)]

theorem poss_dup_gap_fill (up_to : ℕ) : (gap_fill_message up_to).poss_dup = true := by
  rw [Message.poss_dup, gap_fill_message, Message.set_int, get_set_discard_ne (by decide),
    get_set_discard_self (by decide)]
  decide

theorem new_seq_no_gap_fill {up_to : ℕ} (h : up_to < 2 ^ 64) :
    (gap_fill_message up_to).get_int tags.NewSeqNo = some (to_i64 up_to) := by
  obtain ⟨hlo, hhi⟩ := to_i64_range h
  exact get_int_set_int hlo hhi

/-- The dictionary, where it is consulted, has nothing against the message. -/
def View.accepts (v : View) (d : Message) : Prop :=
  (if v.cfg.validate_fields then v.env.validate d else none) = none

theorem View.accepts_of_unvalidated {v : View} (h : v.cfg.validate_fields = false) (d : Message) :
    v.accepts d := by
  rw [accepts, h, if_neg (by decide)]

namespace Session

variable {σ : Type} {s : Session σ} {m : Message} {w : Bytes}

theorem identity_of_read {id : SessionID} {msg : Message} {n : ℕ} (h : ReadAs id msg n m)
    (hid : Mirrors id s.cfg.id) : s.identity_error m = none := by
  rw [identity_error, h.version, hid.version, if_neg (not_not.mpr rfl), h.sender,
    h.target, hid.sender, hid.target, if_neg (by simp)]

variable [IMessageStore σ]

/-- **One frame.** A session with nothing buffered takes it as the message that it is. -/
theorem on_data_frame (hidle : s.parser.Idle) (hup : s.state ≠ .Disconnected)
    (hscan : scan_frame {} w = .ok (m, w.length)) (hlen : w.length ≤ 2 ^ 20) :
    s.on_data w = { s with parser := (s.parser.delivered m w).emptied }.process_message m := by
  have hpending : (s.parser.delivered m w).pending = [m] := by
    show s.parser.pending ++ [m] = [m]
    rw [hidle.pending]
    rfl
  have hnext : (s.parser.delivered m w).next = ((s.parser.delivered m w).emptied, some m) := by
    rw [StreamParser.next, hpending]
    rfl
  have hhealthy : (s.parser.delivered m w).healthy = true := hidle.healthy
  rw [on_data, hidle.feed hscan hlen]
  dsimp only
  rw [hhealthy, if_neg (by decide), hpending]
  show drain_messages 1 _ = _
  rw [drain_messages, hnext]
  dsimp only
  rw [if_neg hup]
  rfl

theorem on_data_skipped (hidle : s.parser.Idle) {err : ErrorCode}
    (hscan : scan_frame {} w = .error (.skip w.length err)) (hpos : 0 < w.length)
    (hlen : w.length ≤ 2 ^ 20 + 4096) :
    s.on_data w = { s with parser := s.parser.skipped_frame err w } := by
  have hcap : ({} : StreamParserOptions).buf_cap = 2 ^ 20 + 4096 := by decide
  have hfeed : s.parser.feed w = s.parser.skipped_frame err w := by
    apply StreamParser.feed_skipped hidle.healthy hidle.unread _ hpos (by omega)
    · rw [hidle.opts, hcap]
      exact .inr hlen
    · rw [hidle.opts]
      exact hscan
  have hhealthy : (s.parser.skipped_frame err w).healthy = true := hidle.healthy
  have hpending : (s.parser.skipped_frame err w).pending = [] := hidle.pending
  rw [on_data, hfeed]
  dsimp only
  rw [hhealthy, if_neg (by decide), hpending]
  rfl

theorem process_in_sequence (hidentity : s.identity_error m = none)
    (hhas : m.has tags.MsgType = true) (htype : m.msg_type ≠ msg_types.SequenceReset)
    (hnumbered : s.state.unnumbered = false) (hpos : m.seq_num ≠ 0)
    (hseq : m.seq_num = s.next_target) :
    s.process_message m =
      (((s.note_inbound m).clear_gap.handle m).consume_inbound m true).count_received := by
  have hnoted : (s.note_inbound m).identity_error m = none := hidentity
  have hvalid : (s.note_inbound m).validate_seq_num m = (true, s.note_inbound m) := by
    have htarget : (s.note_inbound m).next_target = m.seq_num := hseq.symm
    rw [validate_seq_num, htarget, if_neg hpos, if_neg (lt_irrefl _), if_neg (lt_irrefl _)]
  have hstate : (s.note_inbound m).state.unnumbered = false := hnumbered
  rw [process_message, hnoted]
  dsimp only
  rw [process_identified, hhas, if_neg (by decide), if_neg htype, hstate,
    if_neg (by decide), hvalid]
  rfl

theorem healthy_process_message (h : Healthy s.store) : Healthy (s.process_message m).store :=
  h.of_footprint (process_message_outcome m s).1.footprint

section Views

variable [StoreContract σ]

theorem view_in_sequence (h : Healthy s.store) (hidentity : s.identity_error m = none)
    (hhas : m.has tags.MsgType = true) (htype : m.msg_type ≠ msg_types.SequenceReset)
    (hnumbered : s.state.unnumbered = false) (hpos : m.seq_num ≠ 0)
    (hseq : m.seq_num = s.next_target) :
    (s.process_message m).view =
      { ((s.note_inbound m).clear_gap.handle m).view with
        next_target := max ((s.note_inbound m).clear_gap.handle m).next_target
          (seq_succ m.seq_num) } := by
  have hhandled : Healthy ((s.note_inbound m).clear_gap.handle m).store :=
    Healthy.of_footprint (s := (s.note_inbound m).clear_gap) h (handled_handle htype _).footprint
  rw [process_in_sequence hidentity hhas htype hnumbered hpos hseq, view_count_received,
    view_consume_inbound hhandled.succeeds, if_neg (by simp)]

theorem view_app (h : Healthy s.store) (hidentity : s.identity_error m = none)
    (hhas : m.has tags.MsgType = true) (happ : is_admin_msg m.msg_type = false)
    (hdup : m.duplicate_header = false) (hactive : s.state = .Active)
    (haccepts : s.view.accepts m) (hpos : m.seq_num ≠ 0) (hseq : m.seq_num = s.next_target)
    (hnext : s.next_target + 1 < 2 ^ 64) :
    (s.process_message m).view = { s.view with
      gap_open := false, next_target := s.next_target + 1, deliveries := s.deliveries ++ [m] } := by
  have htype : m.msg_type ≠ msg_types.SequenceReset := fun heq => absurd (heq ▸ happ) (by decide)
  have hhandle : (s.note_inbound m).clear_gap.handle m =
      (s.note_inbound m).clear_gap.guarded (.on_message m) := by
    have hstate : (s.note_inbound m).clear_gap.state = .Active := hactive
    have hvalid : (s.note_inbound m).clear_gap.view.accepts m := by
      rw [view_clear_gap, view_note_inbound]
      exact haccepts
    rw [View.accepts] at hvalid
    rw [handle, hdup, if_neg (by decide), happ, if_neg (by decide), process_app, hstate,
      if_neg (not_not.mpr rfl)]
    have hread : (if (s.note_inbound m).clear_gap.cfg.validate_fields then
        (s.note_inbound m).clear_gap.io.env.validate m else none) = none := hvalid
    rw [hread]
  have hview : ((s.note_inbound m).clear_gap.guarded (.on_message m)).view =
      { s.view with gap_open := false, deliveries := s.deliveries ++ [m] } := by
    rw [view_on_message, view_clear_gap, view_note_inbound]
    have hdeliveries : (s.note_inbound m).clear_gap.deliveries = s.deliveries :=
      congrArg View.deliveries (view_note_inbound m s)
    rw [hdeliveries]
  have htarget :
      ((s.note_inbound m).clear_gap.guarded (.on_message m)).next_target = s.next_target :=
    congrArg View.next_target hview
  rw [view_in_sequence h hidentity hhas htype (by rw [hactive]; rfl) hpos hseq, hhandle, hview,
    htarget, hseq, seq_succ_of_lt hnext, max_eq_right (Nat.le_succ _)]

theorem view_gap_fill (h : Healthy s.store) (hidentity : s.identity_error m = none)
    (htype : m.msg_type = msg_types.SequenceReset) (hup : s.state ≠ .Disconnected)
    (hfill : GapFill m) (hdup : m.poss_dup = true) (hseq : m.seq_num = s.next_target) {v : ℤ}
    (hnew : m.get_int tags.NewSeqNo = some v) (hlt : s.next_target < to_u64 v) :
    (s.process_message m).view = { s.view with gap_open := false, next_target := to_u64 v } := by
  have hcall : s.process_message m = s.sequence_reset m :=
    (if_neg hup).symm.trans (call_sequence_reset hup hidentity htype)
  rw [hcall, sequence_reset, if_pos hfill, if_neg (by simp [hdup]), if_neg (by omega),
    if_neg (by omega), hnew]
  dsimp only
  rw [if_neg (by omega), renumbered, view_count_received, view_clear_gap,
    view_set_target (s := s.note_inbound m) (h.succeeds.set_next_target _), view_note_inbound]

end Views

/-! ## A session that listens -/

/-- An established session at the other end of `id`: nothing is buffered, no dictionary is
consulted, and the store works. -/
structure Listening (id : SessionID) (s : Session σ) : Prop where
  state : s.state = .Active
  mirrors : Mirrors id s.cfg.id
  unvalidated : s.cfg.validate_fields = false
  idle : s.parser.Idle
  healthy : Healthy s.store

/-- From `s` to `s'` a listening session has taken frames in: NextTarget is `n`, the messages
`ms` were delivered, and no frame went out. -/
structure Absorbed (id : SessionID) (n : ℕ) (ms : List Message) (s s' : Session σ) : Prop where
  listening : Listening id s'
  target : s'.next_target = n
  frames : s'.wire_trace = s.wire_trace
  deliveries : s'.deliveries = s.deliveries ++ ms

theorem Absorbed.trans {id : SessionID} {n n' : ℕ} {ms ms' : List Message} {s s' s'' : Session σ}
    (h : Absorbed id n ms s s') (h' : Absorbed id n' ms' s' s'') :
    Absorbed id n' (ms ++ ms') s s'' where
  listening := h'.listening
  target := h'.target
  frames := h'.frames.trans h.frames
  deliveries := by rw [h'.deliveries, h.deliveries, List.append_assoc]

theorem Absorbed.of_view {id : SessionID} {n : ℕ} {ms : List Message} {s' : Session σ}
    {p : StreamParser} (h : Listening id s) (hidle : p.Idle) (hhealthy : Healthy s'.store)
    (hview : s'.view = { s.view with
      parser := p, gap_open := false, next_target := n, deliveries := s.deliveries ++ ms }) :
    Absorbed id n ms s s' := by
  have hcfg : s'.cfg = s.cfg := congrArg View.cfg hview
  have hparser : s'.parser = p := congrArg View.parser hview
  refine ⟨⟨?_, ?_, ?_, ?_, hhealthy⟩, congrArg View.next_target hview, congrArg View.frames hview,
    congrArg View.deliveries hview⟩
  · exact (congrArg View.state hview).trans h.state
  · rw [hcfg]
    exact h.mirrors
  · rw [hcfg]
    exact h.unvalidated
  · rw [hparser]
    exact hidle

section Absorb

variable [StoreContract σ] {id : SessionID} {msg : Message} {n : ℕ}

/-- **An application message in sequence**, read off its frame. -/
theorem absorb_app (h : Listening id s) (hcarries : Carries id msg n w) (hlen : w.length ≤ 2 ^ 20)
    (htarget : s.next_target = n) (hpos : n ≠ 0) (hn : n + 1 < 2 ^ 64) (honce : NoRepeats msg)
    (happ : is_admin_msg msg.msg_type = false) :
    ∃ m, ReadAs id msg n m ∧ Absorbed id (n + 1) [m] s (s.on_data w) := by
  obtain ⟨m, hscan, hread⟩ := carries_read hcarries (by omega) hlen
  refine ⟨m, hread, ?_⟩
  have hup : s.state ≠ .Disconnected := by
    rw [h.state]
    decide
  rw [on_data_frame h.idle hup hscan hlen]
  have hview :=
    view_app (s := { s with parser := (s.parser.delivered m w).emptied }) (m := m) h.healthy
    (identity_of_read hread h.mirrors) hread.has_type (by rw [hread.msg_type]; exact happ)
    (hread.unique honce).1 h.state (View.accepts_of_unvalidated h.unvalidated m)
      (by rw [hread.seq_num]; exact hpos)
    (hread.seq_num.trans htarget.symm) (by show s.next_target + 1 < _; omega)
  apply Absorbed.of_view h (h.idle.emptied m w)
  · exact healthy_process_message h.healthy
  · rw [hview, ← htarget]
    rfl

/-- **A GapFill in sequence**, read off its frame. -/
theorem absorb_gap_fill (h : Listening id s) {up_to : ℕ}
    (hcarries : Carries id (gap_fill_message up_to) n w) (hlen : w.length ≤ 2 ^ 20)
    (htarget : s.next_target = n) (hlt : n < up_to) (hup_to : up_to < 2 ^ 64) :
    Absorbed id up_to [] s (s.on_data w) := by
  obtain ⟨m, hscan, hread⟩ := carries_read hcarries (by omega) hlen
  have hup : s.state ≠ .Disconnected := by
    rw [h.state]
    decide
  have htype : m.msg_type = msg_types.SequenceReset :=
    hread.msg_type.trans (msg_type_gap_fill up_to)
  have hfill : GapFill m := by
    rw [GapFill, hread.own _ (.inr (.inr (by decide))), get_gap_fill_flag]
    rfl
  have hdup : m.poss_dup = true := hread.poss_dup.trans (poss_dup_gap_fill up_to)
  have hnew : m.get_int tags.NewSeqNo = some (to_i64 up_to) :=
    (hread.get_int (by decide)).trans (new_seq_no_gap_fill hup_to)
  have hvalue : to_u64 (to_i64 up_to) = up_to := to_u64_to_i64 hup_to
  rw [on_data_frame h.idle hup hscan hlen]
  have hview :=
    view_gap_fill (s := { s with parser := (s.parser.delivered m w).emptied }) (m := m) h.healthy
    (identity_of_read hread h.mirrors) htype hup hfill hdup (hread.seq_num.trans htarget.symm) hnew
    (by show s.next_target < _; omega)
  apply Absorbed.of_view h (h.idle.emptied m w)
  · exact healthy_process_message h.healthy
  · rw [hview, hvalue, List.append_nil]
    rfl

end Absorb

end Session

end FixEngine
