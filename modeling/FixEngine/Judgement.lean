/-
`Judgement.lean` -- what becomes of a message by its number and by its sender.

A message in sequence takes its place, whatever else is wrong with it, so that it is never
asked for again. The one exception is a re-send without a MsgType: it is rejected and its
number stays open, so the next message of the peer starts the same exchange over.

A number that is too low ends the connection, but only where numbers are judged. Before the
handshake is complete they are not, and a peer that has lost its numbering is let in.

A message that does not come from the counterparty ends the connection with at most a
Logout, and what is left of the batch is dropped with the parser's buffer.
-/
import FixEngine.Interval

set_option autoImplicit false

namespace FixEngine

open IMessageStore

namespace Session

variable {σ : Type} [IMessageStore σ]

/-- `s` comes about from `s₀` by calls. -/
def Reached (s₀ s : Session σ) : Prop := ∃ calls, s = s₀.run calls

/-! ## Messages in sequence -/

section InSequence

variable [StoreContract σ] {s : Session σ} {msg : Message}

theorem target_in_sequence (hstore : Healthy s.store) (hpos : 1 ≤ s.next_target)
    (hstate : s.state.unnumbered = false) (hidentity : s.identity_error msg = none)
    (hhas : msg.has tags.MsgType = true) (htype : msg.msg_type ≠ msg_types.SequenceReset)
    (hseq : msg.seq_num = s.next_target) (hbound : s.next_target < 2 ^ 63) :
    (s.process_message msg).next_target = s.next_target + 1 := by
  have hview := view_in_sequence hstore hidentity hhas htype hstate (by omega) hseq
  -- the handlers of an established session leave NextTarget alone
  have hsame : ((s.note_inbound msg).clear_gap.handle msg).next_target = s.next_target :=
    (handled_handle htype (s.note_inbound msg).clear_gap).target hstate
  have htarget : (s.process_message msg).next_target =
      max ((s.note_inbound msg).clear_gap.handle msg).next_target (seq_succ msg.seq_num) :=
    congrArg View.next_target hview
  rw [htarget, hsame, hseq, seq_succ_of_lt (by omega)]
  omega

theorem target_untyped (hstore : Healthy s.store) (hstate : s.state.unnumbered = false)
    (hidentity : s.identity_error msg = none) (hhas : msg.has tags.MsgType = false)
    (hseq : msg.seq_num = s.next_target) (hbound : s.next_target < 2 ^ 63) :
    (s.process_message msg).next_target =
      if msg.poss_dup = true then s.next_target else s.next_target + 1 := by
  have hnoted : (s.note_inbound msg).identity_error msg = none := hidentity
  have hunnumbered : (s.note_inbound msg).state.unnumbered = false := hstate
  have htarget : (s.note_inbound msg).next_target = s.next_target := rfl
  have hhealthy : Healthy (s.note_inbound msg).store := hstore
  have hreject : ∀ s' : Session σ, (s'.send_reject msg.seq_num .RequiredTagMissing [] tags.MsgType
      (ascii "Missing MsgType")).count_received.next_target = s'.next_target :=
    fun s' => (talks_send_reject _ _ _ _ _ s').target
  rw [process_message, hnoted]
  dsimp only
  rw [process_identified, if_pos (by simp [hhas]), reject_untyped]
  generalize s.note_inbound msg = s₀ at *
  by_cases hdup : msg.poss_dup = true
  · rw [if_pos hdup, if_neg (by simp [hdup])]
    exact (hreject s₀).trans htarget
  · rw [if_neg hdup, if_pos (by simp [hdup, hunnumbered, hseq, htarget])]
    refine (hreject _).trans ?_
    have hadvanced :
        (s₀.advance_target msg (ascii "reject: NextTargetMsgSeqNum advance failed")).next_target =
        max s₀.next_target (seq_succ msg.seq_num) :=
      congrArg View.next_target (view_advance_target (hhealthy.succeeds.advance _) _)
    have hstored :=
      congrArg View.next_target
        (view_store_inbound msg (ascii "reject: inbound audit persist failed")
      (s₀.advance_target msg (ascii "reject: NextTargetMsgSeqNum advance failed")))
    refine Eq.trans hstored (hadvanced.trans ?_)
    rw [hseq, seq_succ_of_lt (by omega), htarget]
    omega

/-- **Every message in sequence is consumed**, except for a re-send without MsgType. -/
theorem in_sequence_consumed_iff [ResetContract σ] {s₀ s : Session σ} (hstart : 1 ≤ s₀.next_target)
    (hstore : Healthy s₀.store) (hreached : Reached s₀ s)
    (hstate : s.state = .Active ∨ s.state = .LogoutSent) (msg : Message)
    (hidentity : s.identity_error msg = none) (htype : msg.msg_type ≠ msg_types.SequenceReset)
    (hseq : msg.seq_num = s.next_target) (hbound : s.next_target < 2 ^ 63) :
    (s.process_message msg).next_target = s.next_target + 1 ↔
      ¬(msg.has tags.MsgType = false ∧ msg.poss_dup = true) := by
  obtain ⟨calls, rfl⟩ := hreached
  have hpos := target_pos_run hstart calls
  have hhealthy := healthy_run hstore calls
  have hnumbered : (s₀.run calls).state.unnumbered = false := by
    rcases hstate with h | h <;> rw [h] <;> rfl
  by_cases hhas : msg.has tags.MsgType = true
  · refine iff_of_true
      (target_in_sequence hhealthy hpos hnumbered hidentity hhas htype hseq hbound) ?_
    exact fun h => absurd (hhas.symm.trans h.1) (by decide)
  · have hhas : msg.has tags.MsgType = false := by simpa using hhas
    rw [target_untyped hhealthy hnumbered hidentity hhas hseq hbound]
    by_cases hdup : msg.poss_dup = true
    · rw [if_pos hdup]
      exact iff_of_false (by omega) fun h => h ⟨hhas, hdup⟩
    · rw [if_neg hdup]
      exact iff_of_true rfl fun h => hdup h.2

end InSequence

/-! ## Numbers that are too low -/

/-- The message is turned away and the connection ends. At most `on_logout` is called. -/
structure Fatal (s s' : Session σ) : Prop where
  state : s'.state = .Disconnected
  target : s'.next_target = s.next_target
  calls : ∃ es, Farewell es ∧ s'.io.notes = s.io.notes ++ es

section TooLow

variable {s : Session σ} {msg : Message}

theorem handles_unnumbered (hidentity : s.identity_error msg = none)
    (hhas : msg.has tags.MsgType = true) (htype : msg.msg_type ≠ msg_types.SequenceReset)
    (hstate : s.state.unnumbered = true) :
    Handling msg (s.note_inbound msg) (s.process_message msg).registers := by
  obtain ⟨r, hhandling, hsets⟩ := handles_handle htype (s.note_inbound msg)
  rw [process_message_unnumbered hidentity hhas htype hstate]
  rw [(hsets.keeps (keeps_taken msg false _)).registers]
  exact hhandling

theorem EndsSession.refuses (h : EndsSession msg s) :
    (s.handle msg).state = .Disconnected ∧ Refuses s (s.handle msg) := by
  have hunique : ¬msg.duplicate_header = true := by simp [h.unique]
  rcases h.kind with hlogout | ⟨hlogon, hrefused⟩ | ⟨hreject, hsent⟩
  · have hhandle : s.handle msg = s.handle_logout msg := by
      rw [handle, if_neg hunique, process_admin, hlogout]
      rfl
    refine ⟨?_, hhandle ▸ refuses_handle_logout msg s⟩
    rw [hhandle, handle_logout]
    refine (talks_notify_logout (E := SendsAdmin) _ _).state.trans ?_
    split <;> rfl
  · obtain ⟨reason, hlogout⟩ := handle_logon_refused hlogon h.unique hrefused
    have hhandle : s.handle msg = (s.send_logout reason).disconnect := by
      rw [← hlogout, handle, if_neg hunique, process_admin, hlogon]
      rfl
    exact ⟨hhandle ▸ rfl, hhandle ▸ refuses_logout reason s⟩
  · have hhandle : s.handle msg = s.handle_reject msg := by
      rw [handle, if_neg hunique, process_admin, hreject]
      rfl
    refine ⟨?_, hhandle ▸ refuses_handle_reject msg s⟩
    rw [hhandle, handle_reject]
    dsimp only
    rw [if_pos hsent]
    rfl

variable [StoreContract σ]

theorem fatal_judged (hidentity : s.identity_error msg = none) (hhas : msg.has tags.MsgType = true)
    (htype : msg.msg_type ≠ msg_types.SequenceReset) (hdup : msg.poss_dup = false)
    (hstate : s.state.unnumbered = false) (hpos : 1 ≤ msg.seq_num)
    (hlow : msg.seq_num < s.next_target) :
    Fatal s (s.process_message msg) := by
  obtain ⟨k, -, -, hnoted⟩ := sets_note_inbound msg s
  have hvalid : (s.note_inbound msg).identity_error msg = none := hidentity
  have hnumbered : (s.note_inbound msg).state.unnumbered = false := hstate
  have htarget : (s.note_inbound msg).next_target = s.next_target := rfl
  have hjudged : (s.note_inbound msg).validate_seq_num msg =
      (false, ((s.note_inbound msg).send_logout (ascii "MsgSeqNum too low")).disconnect) := by
    have hnothigh : ¬s.next_target < msg.seq_num := by omega
    rw [validate_seq_num, htarget, if_neg (by omega), if_neg hnothigh, if_pos hlow, hdup]
    rfl
  rw [process_message, hvalid]
  dsimp only
  rw [process_identified, if_neg (by simp [hhas]), if_neg htype,
    if_neg (by simp [hnumbered]), hjudged]
  generalize s.note_inbound msg = s₀ at *
  have hnotes :=
    congrArg Registers.notes (sets_logout_disconnect (ascii "MsgSeqNum too low") s₀).registers
  refine ⟨rfl, ((refuses_logout _ s₀).target).trans htarget, [], farewell_nil, ?_⟩
  rw [List.append_nil]
  exact hnotes.trans (congrArg Registers.notes hnoted.registers)

theorem fatal_unnumbered_iff (hidentity : s.identity_error msg = none)
    (hhas : msg.has tags.MsgType = true) (htype : msg.msg_type ≠ msg_types.SequenceReset)
    (hstate : s.state = .WaitingLogon ∨ s.state = .LogonSent) (hlow : msg.seq_num < s.next_target) :
    Fatal s (s.process_message msg) ↔ EndsSession msg s := by
  have hunnumbered : s.state.unnumbered = true := by
    rcases hstate with h | h <;> rw [h] <;> rfl
  have hup : (s.note_inbound msg).state ≠ .Disconnected := by
    rcases hstate with h | h
    · exact fun hdown => absurd (h.symm.trans hdown) (by simp)
    · exact fun hdown => absurd (h.symm.trans hdown) (by simp)
  obtain ⟨k, -, -, hnoted⟩ := sets_note_inbound msg s
  -- the only way down is through a message that ends the session
  have hdown : (s.process_message msg).state = .Disconnected →
      EndsSession msg s ∧ ∃ es, Farewell es ∧
      (s.process_message msg).io.notes = s.io.notes ++ es := by
    intro hdown
    have hregisters := handles_unnumbered hidentity hhas htype hunnumbered
    generalize hr : (s.process_message msg).registers = r at hregisters
    have hrstate : r.state = .Disconnected := hr ▸ hdown
    have hrnotes : (s.process_message msg).io.notes = r.notes := hr ▸ rfl
    cases hregisters with
    | kept es hes => exact absurd hrstate hup
    | settled => exact absurd hrstate hup
    | ended es hes h =>
      refine ⟨h.congr rfl rfl rfl, es, hes, hrnotes.trans ?_⟩
      exact congrArg (· ++ es) (congrArg Registers.notes hnoted.registers)
    | entered hwait h => cases hrstate
    | adopted hwait h => exact absurd hrstate hup
    | refused hactive h =>
      rcases hstate with hst | hst
      · exact absurd (hst.symm.trans hactive) (by simp)
      · exact absurd (hst.symm.trans hactive) (by simp)
  constructor
  · exact fun h => (hdown h.state).1
  · intro hends
    obtain ⟨hhandled, hrefuses⟩ :=
      EndsSession.refuses (s := s.note_inbound msg) (hends.congr rfl rfl rfl)
    have hprocess := process_message_unnumbered hidentity hhas htype hunnumbered
    have hend : (s.process_message msg).state = .Disconnected := by
      rw [hprocess]
      exact (congrArg Registers.state (keeps_taken msg false _).registers).trans hhandled
    refine ⟨hend, ?_, (hdown hend).2⟩
    have htarget : ((s.note_inbound msg).handle msg).next_target = s.next_target := hrefuses.target
    have hsucc : seq_succ msg.seq_num ≤ s.next_target := (Nat.mod_le _ _).trans hlow
    rw [hprocess, target_consume_inbound, target_advance_target, htarget]
    split
    · rfl
    split
    · exact max_eq_left hsucc
    · rfl

/-- **A number that is too low is fatal** exactly where numbers are judged, or where the
message ends the session whatever its number. -/
theorem too_low_fatal_iff
    (hstate : s.state = .WaitingLogon ∨ s.state = .LogonSent ∨ s.state = .Active ∨
      s.state = .LogoutSent) (msg : Message) (hidentity : s.identity_error msg = none)
    (hhas : msg.has tags.MsgType = true) (htype : msg.msg_type ≠ msg_types.SequenceReset)
    (hdup : msg.poss_dup = false) (hpos : 1 ≤ msg.seq_num) (hlow : msg.seq_num < s.next_target) :
    Fatal s (s.process_message msg) ↔ s.state = .Active ∨ s.state = .LogoutSent ∨
    EndsSession msg s := by
  have hjudged : s.state.unnumbered = false → Fatal s (s.process_message msg) :=
    fun h => fatal_judged hidentity hhas htype hdup h hpos hlow
  rcases hstate with hst | hst | hst | hst
  · rw [fatal_unnumbered_iff hidentity hhas htype (.inl hst) hlow]
    simp [hst]
  · rw [fatal_unnumbered_iff hidentity hhas htype (.inr hst) hlow]
    simp [hst]
  · exact iff_of_true (hjudged (by rw [hst]; rfl)) (.inl hst)
  · exact iff_of_true (hjudged (by rw [hst]; rfl)) (.inr (.inl hst))

end TooLow

/-! ## Messages of somebody else -/

section Foreign

variable {s : Session σ} {msg : Message}

/-- The session after the first `k` messages of the batch `data`. -/
def after_messages (data : Bytes) (k : ℕ) (s : Session σ) : Session σ :=
  let s := { s with parser := s.parser.feed data }
  if !s.parser.healthy then s else drain_messages k s

/-- From `s` on nothing was taken from the peer. The connection has ended, with at most a
Logout. -/
structure Sealed (s s' : Session σ) : Prop where
  target : s'.next_target = s.next_target
  store : Relation.ReflTransGen PostStep s.store s'.store
  interval : s'.heartbeat_sec = s.heartbeat_sec
  handlers : s'.io.notes = s.io.notes
  frames : s'.wire_trace = s.wire_trace ∨ ∃ reason, Emits (logout_message reason) s s'
  state : s'.state = .Disconnected
  parser : s'.parser = StreamParser.create s.parser.opts

/-- The session whose parser has handed out a message, with `rest` pending. -/
def popped (rest : List Message) (s : Session σ) : Session σ :=
  { s with parser := { s.parser with pending := rest } }

theorem id_process_message (msg : Message) (s : Session σ) :
    (s.process_message msg).cfg.id = s.cfg.id := by
  obtain ⟨k, -, -, r, hmove, hsets⟩ := registers_process_message msg s
  have hid : (s.process_message msg).cfg.id = r.id := congrArg Registers.id hsets.registers
  rw [hid]
  cases hmove <;> rfl

theorem parser_process_message (hup : s.state ≠ .Disconnected) (msg : Message) :
    ((s.process_message msg).state ≠ .Disconnected ∧ (s.process_message msg).parser = s.parser) ∨
      ((s.process_message msg).state = .Disconnected ∧
        (s.process_message msg).parser = StreamParser.create s.parser.opts) := by
  obtain ⟨k, -, -, r, hmove, hsets⟩ := registers_process_message msg s
  have hstate : (s.process_message msg).state = r.state := congrArg Registers.state hsets.registers
  have hparser : (s.process_message msg).parser = r.parser :=
    congrArg Registers.parser hsets.registers
  rw [hstate, hparser]
  cases hmove with
  | kept => exact .inl ⟨hup, rfl⟩
  | cleared => exact .inl ⟨hup, rfl⟩
  | ended => exact .inr ⟨rfl, rfl⟩
  | requested => exact .inl ⟨hup, rfl⟩
  | entered => exact .inl ⟨nofun, rfl⟩
  | adopted => exact .inl ⟨hup, rfl⟩
  | refused => exact .inr ⟨rfl, rfl⟩

omit [IMessageStore σ] in
theorem identity_error_congr {s' : Session σ} (h : s'.cfg.id = s.cfg.id) (msg : Message) :
    s'.identity_error msg = s.identity_error msg := by
  rw [identity_error, identity_error, h]

theorem drain_messages_empty (h : s.parser.pending = []) (n : ℕ) : drain_messages n s = s := by
  cases n with
  | zero => rfl
  | succ n => rw [drain_messages, StreamParser.next, h]

theorem drain_messages_cons {rest : List Message} (hup : s.state ≠ .Disconnected)
    (h : s.parser.pending = msg :: rest) (n : ℕ) :
    drain_messages (n + 1) s = drain_messages n ((s.popped rest).process_message msg) := by
  rw [drain_messages, StreamParser.next, h]
  exact if_neg hup

theorem Sealed.refl (hdown : s.state = .Disconnected)
    (hparser : s.parser = StreamParser.create s.parser.opts) :
    Sealed s s :=
  ⟨rfl, .refl, rfl, rfl, .inl rfl, hdown, hparser⟩

variable [StoreContract σ]

/-- **A message of somebody else.** -/
theorem sealed_foreign (hbad : s.identity_error msg ≠ none) : Sealed s (s.process_message msg) := by
  obtain ⟨reason, hreason⟩ := Option.ne_none_iff_exists'.mp hbad
  have hnoted : (s.note_inbound msg).identity_error msg = some reason := hreason
  obtain ⟨k, -, -, hheard⟩ := sets_note_inbound msg s
  have hframes := wire_trace_note_inbound msg s
  have hid : (s.note_inbound msg).cfg = s.cfg := rfl
  have hnext : (s.note_inbound msg).next_sender = s.next_sender := rfl
  have htarget : (s.note_inbound msg).next_target = s.next_target := rfl
  have hstore : (s.note_inbound msg).store = s.store := rfl
  rw [process_message, hnoted]
  dsimp only
  generalize s.note_inbound msg = s₀ at *
  have hdown := sets_logout_disconnect reason s₀
  rw [hheard.registers] at hdown
  have hout : ((s₀.send_logout reason).disconnect).wire_trace =
      (s₀.send_message (logout_message reason)).2.wire_trace :=
    wire_trace_of_adds (Outside.adds_emit _ (.inl rfl))
  refine ⟨(refuses_logout reason s₀).target.trans htarget, ?_,
    congrArg Registers.heartbeat_sec hdown.registers,
    congrArg Registers.notes hdown.registers, ?_, rfl, congrArg Registers.parser hdown.registers⟩
  · rw [← hstore]
    exact (posts_send_message_locked (logout_message reason)
      { s₀ with io := s₀.io.acquire }).footprint.store
  · rcases send_message_frames (logout_message reason) s₀ with ⟨-, w, hcarries, htrace⟩ |
      ⟨-, htrace⟩
    · rw [hid, hnext] at hcarries
      exact .inr ⟨reason, w, hcarries, by rw [hout, htrace, hframes]⟩
    · exact .inl (by rw [hout, htrace, hframes])

theorem sealed_drain_messages (ms : List Message) {bad : Message} {rest : List Message}
    (hup : s.state ≠ .Disconnected) (hpending : s.parser.pending = ms ++ bad :: rest)
    (hbad : s.identity_error bad ≠ none) :
    Sealed (drain_messages ms.length s) (drain_messages (ms.length + (rest.length + 1)) s) := by
  induction ms generalizing s with
  | nil =>
    have hsealed : Sealed (s.popped rest) ((s.popped rest).process_message bad) :=
      sealed_foreign hbad
    have hpopped : (s.popped rest).parser.opts = s.parser.opts := rfl
    rw [List.length_nil, Nat.zero_add, drain_messages_cons hup hpending]
    generalize (s.popped rest).process_message bad = s₁ at hsealed ⊢
    -- the rest of the batch went with the parser
    have hempty : s₁.parser.pending = [] := by
      rw [hsealed.parser]
      rfl
    rw [drain_messages_empty hempty]
    exact ⟨hsealed.target, hsealed.store, hsealed.interval, hsealed.handlers, hsealed.frames,
      hsealed.state,
      hpopped ▸ hsealed.parser⟩
  | cons m ms ih =>
    have hmove := parser_process_message (s := s.popped (ms ++ bad :: rest)) hup m
    have hid := id_process_message m (s.popped (ms ++ bad :: rest))
    have hpopped : (s.popped (ms ++ bad :: rest)).parser.pending = ms ++ bad :: rest := rfl
    rw [List.length_cons, Nat.add_right_comm, drain_messages_cons hup hpending,
      drain_messages_cons hup hpending]
    generalize (s.popped (ms ++ bad :: rest)).process_message m = s₁ at hmove hid ⊢
    rcases hmove with ⟨hup₁, hparser⟩ | ⟨hdown, hparser⟩
    · refine ih hup₁ (by rw [hparser, hpopped]) ?_
      rw [identity_error_congr (s := s) hid]
      exact hbad
    · have hempty : s₁.parser.pending = [] := by
        rw [hparser]
        rfl
      rw [drain_messages_empty hempty, drain_messages_empty hempty]
      apply Sealed.refl hdown
      rw [hparser]
      rfl

/-- **Session-hijack safety.** From the first message of a batch that is not from the
counterparty on, nothing of the batch is taken. -/
theorem hijack_sealed (hup : s.state ≠ .Disconnected) (data : Bytes) (ms : List Message)
    (bad : Message) (rest : List Message)
    (hpending : (s.parser.feed data).pending = ms ++ bad :: rest)
    (hbad : s.identity_error bad ≠ none) :
    Sealed (s.after_messages data ms.length) (s.on_data data) := by
  rw [after_messages, on_data]
  dsimp only
  split
  · -- a parser that has given up ends the connection before anything is looked at
    have hdown := sets_disconnect ({ s with parser := s.parser.feed data } : Session σ)
    exact ⟨rfl, .refl, rfl, congrArg Registers.notes hdown.registers,
      .inl (wire_trace_of_adds (Outside.adds_emit _ (.inl rfl))), rfl, rfl⟩
  · have hlength : (s.parser.feed data).pending.length = ms.length + (rest.length + 1) := by
      rw [hpending, List.length_append, List.length_cons]
    rw [hlength]
    exact sealed_drain_messages (s := { s with parser := s.parser.feed data }) ms hup hpending hbad

end Foreign

end Session

/-- A message of the broker without a MsgType. -/
def broker_untyped (seq : ℕ) (more : List Field) : Message :=
  { fields := ⟨tags.BeginString, ascii "FIX.4.2"⟩ :: ⟨tags.SenderCompID, ascii "BROKER"⟩ ::
      ⟨tags.TargetCompID, ascii "CLIENT"⟩ :: ⟨tags.MsgSeqNum, Decimal.to_chars seq⟩ :: more }

/-- A re-send of such a message. -/
def untyped_resend : Message := broker_untyped 2 [⟨tags.PossDupFlag, ascii "Y"⟩]

theorem in_sequence_consumed_untyped :
    (broker_untyped 2 []).has tags.MsgType = false ∧
      (trading_session.process_message (broker_untyped 2 [])).next_target =
      trading_session.next_target + 1 := by
  refine ⟨by decide, ?_⟩
  have hreached : Session.Reached quiet_session trading_session := ⟨_, rfl⟩
  exact (Session.in_sequence_consumed_iff (by decide) (healthy_memory_store _) hreached
    (.inl (by decide)) (broker_untyped 2 []) (by decide) (by decide) (by decide)
    (by decide)).mpr (by decide)

/-- **The loop.** The re-send is rejected and stays expected. The next message is then ahead,
and the client asks for the re-send again. -/
theorem untyped_resend_not_consumed :
    trading_session.state = .Active ∧ trading_session.identity_error untyped_resend = none ∧
      untyped_resend.seq_num = trading_session.next_target ∧
      (trading_session.process_message untyped_resend).next_target = trading_session.next_target ∧
      types_sent trading_session (.message untyped_resend) = [some msg_types.Reject] ∧
      types_sent (trading_session.call (.message untyped_resend)) (.message (broker_report 3)) =
        [some msg_types.ResendRequest] := by
  decide

theorem too_low_fatal_report :
    (broker_report 1).seq_num < trading_session.next_target ∧
      trading_session.Fatal (trading_session.process_message (broker_report 1)) := by
  have hactive : trading_session.state = .Active := by decide
  refine ⟨by decide, ?_⟩
  exact (Session.too_low_fatal_iff (.inr (.inr (.inl hactive))) (broker_report 1) (by decide)
    (by decide) (by decide) (by decide) (by decide) (by decide)).mpr
    (.inl hactive)

/-- The client reconnects and greets the broker, whose messages 1 and 2 it has. -/
def reconnected_session : Session MemoryStore :=
  trading_session.run [.message (broker_report 2), .disconnect, .logon]

/-- **A broker that lost its numbering.** Its Logon is number 1 again. The client takes it and
is Active, and the first report ends the session. -/
theorem too_low_logon_accepted :
    reconnected_session.state = .LogonSent ∧ reconnected_session.next_target = 3 ∧
      reconnected_session.identity_error broker_logon = none ∧ broker_logon.poss_dup = false ∧
      broker_logon.get tags.ResetSeqNumFlag = none ∧ broker_logon.seq_num = 1 ∧
      (reconnected_session.process_message broker_logon).state = .Active ∧
      (reconnected_session.process_message broker_logon).logons = reconnected_session.logons + 1 ∧
      (reconnected_session.run [.message broker_logon, .message (broker_report 2)]).state =
      .Disconnected := by
  decide

/-- A frame with number 2 to the client. -/
def frame_to_client (sender : Bytes) (msg : Message) : Bytes :=
  MessageBuilder.build (ascii "FIX.4.2")
    (encode_fields (emitted_fields msg 2 sender (ascii "CLIENT") (format_timestamp midnight)))

/-- A Heartbeat of an intruder, with a message of the broker behind it. -/
def intrusion : Bytes :=
  frame_to_client (ascii "INTRUDER") (heartbeat_message []) ++ frame_to_client
    (ascii "BROKER") order

theorem inbound_of_sends {st st' : MemoryStore} (h : Relation.ReflTransGen PostStep st st') :
    st'.inbound = st.inbound := by
  induction h with
  | refl => rfl
  | tail _ hstep ih =>
    refine Eq.trans ?_ ih
    cases hstep <;> rfl

theorem hijack_sealed_intruder :
    (trading_session.parser.feed intrusion).pending.length = 2 ∧
      (trading_session.on_data intrusion).state = .Disconnected ∧
      (trading_session.on_data intrusion).next_target = 2 ∧
      (trading_session.on_data intrusion).store.inbound = trading_session.store.inbound := by
  have hfirst : (trading_session.parser.feed intrusion).pending.head?.map
      (fun m => trading_session.identity_error m) = some (some (ascii "CompID mismatch")) := by
        decide +kernel
  refine ⟨by decide +kernel, ?_⟩
  rcases hpending : (trading_session.parser.feed intrusion).pending with _ | ⟨bad, rest⟩
  · rw [hpending] at hfirst
    simp at hfirst
  · rw [hpending] at hfirst
    have hbad : trading_session.identity_error bad ≠ none := by
      have hmismatch : trading_session.identity_error bad = some (ascii "CompID mismatch") :=
        Option.some.inj hfirst
      rw [hmismatch]
      simp
    have hup : trading_session.state ≠ .Disconnected := by decide
    have hsealed := Session.hijack_sealed hup intrusion [] bad rest hpending hbad
    have hinbound := inbound_of_sends hsealed.store
    have htarget : (trading_session.after_messages intrusion 0).next_target = 2 := by decide +kernel
    have hstore : (trading_session.after_messages intrusion 0).store.inbound =
        trading_session.store.inbound := by
      decide +kernel
    rw [List.length_nil] at hinbound
    refine ⟨hsealed.state, hsealed.target.trans htarget, ?_⟩
    rw [hinbound, hstore]

end FixEngine
