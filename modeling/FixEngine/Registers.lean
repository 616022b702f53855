/-
`Registers.lean` -- what the timers and the peer act on.

The view of `View.lean` is what a session is to the other end. Its registers are what
decides when it sends something on its own: the state, the parser, the heartbeat interval,
the pending TestRequest with its time, the time of the last message, and the gap with its
budget. The handlers of the application that were called, and the ResendRequests that went
out, are noted along with them.

Sending leaves the registers alone, whether it succeeds or not; so do the store and the
replay of stored frames. What remains are the few places that write them. No assumption is
made on the store.
-/
import FixEngine.SequenceReset

set_option autoImplicit false

namespace FixEngine

open IMessageStore

/-! ## Notes -/

/-- A call of one of the application's handlers, other than the error sink, or a
ResendRequest handed over. -/
def Event.notable : Event → Bool
  | .do_send _ w => frame_type w = some msg_types.ResendRequest
  | .on_logon => true
  | .on_logout _ => true
  | .on_sequence_gap _ _ => true
  | .on_heartbeat_timeout => true
  | .on_resend_request _ _ => true
  | .on_message _ => true
  | .on_reject _ _ => true
  | _ => false

namespace Outside

/-- What is noted of the events. -/
def notes (o : Outside) : List Event := o.events.filter Event.notable

variable (o : Outside)

/-- What is noted of two stretches of events. -/
theorem notes_append (events more : List Event) :
    (events ++ more).filter Event.notable =
    events.filter Event.notable ++ more.filter Event.notable :=
  List.filter_append events more

/-- A notable event is noted. -/
theorem notes_emit {e : Event} (h : e.notable = true) : (o.emit e).notes = o.notes ++ [e] := by
  show (o.events ++ [e]).filter _ = _
  rw [notes_append, List.filter_cons_of_pos h]
  rfl

/-- Another event is not. -/
@[simp] theorem notes_emit_silent {e : Event} (h : e.notable = false) :
    (o.emit e).notes = o.notes := by
  show (o.events ++ [e]).filter _ = _
  rw [notes_append, List.filter_cons_of_neg (by simp [h])]
  exact List.append_nil _

/-- Reading the clock is not noted. -/
@[simp] theorem notes_tick : o.tick.notes = o.notes := rfl

/-- A report is not noted. -/
@[simp] theorem notes_report (what : Bytes) : (o.report what).notes = o.notes := by
  rw [report]
  dsimp only
  split
  · split <;> rfl
  · exact notes_emit_silent { o with errors := o.errors + 1 } rfl

/-- The reports that were kept are not noted either. -/
@[simp] theorem notes_drain_pending_errors : o.drain_pending_errors.notes = o.notes := by
  show (o.events ++ o.pending_errors.map fun what => Event.on_error what o.send_owner).filter _ = _
  have hnone : (o.pending_errors.map fun what => Event.on_error what o.send_owner).filter
      Event.notable = [] := by
    rw [List.filter_eq_nil_iff]
    intro e he
    obtain ⟨what, -, rfl⟩ := List.mem_map.mp he
    exact Bool.false_ne_true
  rw [notes_append, hnone]
  exact List.append_nil _

@[simp] theorem notes_guarded {e : Event} (h : e.notable = true) :
    (o.guarded e).notes = o.notes ++ [e] := by
  rw [guarded]
  split
  · exact notes_emit o h
  · rw [notes_report]
    exact notes_emit o h

/-- The audit log is not noted, whether it takes the entry or not. -/
@[simp] theorem notes_audit_frame (outbound : Bool) (raw : Bytes) :
    (o.audit_frame outbound raw).notes = o.notes := by
  rw [audit_frame]
  split
  · rfl
  · split
    · exact notes_emit_silent o.tick rfl
    · exact notes_report o.tick _

/-- Readings are only taken, never given back. -/
theorem reads_report (what : Bytes) : (o.report what).reads = o.reads := by
  rw [report]
  dsimp only
  split
  · split <;> rfl
  · rfl

/-- A callback only reads on. -/
theorem reads_le_guarded (e : Event) : o.reads ≤ (o.guarded e).reads := by
  rw [guarded]
  split
  · exact Nat.le_succ _
  · rw [reads_report]
    exact Nat.le_succ _

/-- So does the audit log. -/
theorem reads_le_audit_frame (outbound : Bool) (raw : Bytes) :
    o.reads ≤ (o.audit_frame outbound raw).reads := by
  rw [audit_frame]
  split
  · exact le_rfl
  · split
    · exact Nat.le_succ _
    · rw [reads_report]
      exact Nat.le_succ _

/-- Time goes on in the same environment, and nothing is noted. -/
structure Passes (o o' : Outside) : Prop where
  env : o'.env = o.env
  reads : o.reads ≤ o'.reads
  notes : o'.notes = o.notes

variable {o}

/-- Nothing happens. -/
theorem Passes.refl (o : Outside) : Passes o o := ⟨rfl, le_rfl, rfl⟩

/-- Two stretches of which nothing is noted are one. -/
theorem Passes.trans {o₁ o₂ : Outside} (h : Passes o o₁) (h' : Passes o₁ o₂) : Passes o o₂ :=
  ⟨h'.env.trans h.env, h.reads.trans h'.reads, h'.notes.trans h.notes⟩

/-- The clock is read. -/
theorem passes_tick (o : Outside) : Passes o o.tick := ⟨rfl, Nat.le_succ _, rfl⟩

/-- Something is emitted that is not notable. -/
theorem passes_emit (o : Outside) {e : Event} (h : e.notable = false) : Passes o (o.emit e) :=
  ⟨rfl, le_rfl, notes_emit_silent o h⟩

/-- An error is reported. -/
theorem passes_report (what : Bytes) (o : Outside) : Passes o (o.report what) :=
  ⟨env_report _ _, (reads_report o what).ge, notes_report o what⟩

/-- A frame goes to the audit log. -/
theorem passes_audit_frame (outbound : Bool) (raw : Bytes) (o : Outside) :
    Passes o (o.audit_frame outbound raw) :=
  ⟨env_audit_frame _ _ _, reads_le_audit_frame o outbound raw, notes_audit_frame o outbound raw⟩

/-- The failure of a write is reported. -/
theorem passes_write (r : Result Unit) (what : Bytes) (o : Outside) :
    Passes o (match r with
      | .ok _ => o
      | .error _ => o.report what) := by
  cases r with
  | ok _ => exact .refl o
  | error _ => exact passes_report what o

end Outside

/-! ## Registers -/

structure Registers where
  id : SessionID
  state : SessionState
  parser : StreamParser
  heartbeat_sec : ℤ
  test_req_pending : Bool
  test_req_sent_time : ℤ
  last_recv_time : ℤ
  gap : Gap
  notes : List Event

/-- What `disconnect` leaves. -/
def Registers.down (r : Registers) : Registers :=
  { r with
    state := .Disconnected, test_req_pending := false, gap := .closed, parser := r.parser.reset }

/-- The handler `e` was called, or the request `e` went out. -/
def Registers.note (e : Event) (r : Registers) : Registers := { r with notes := r.notes ++ [e] }

/-- A message was heard at the time `t`. -/
def Registers.heard (t : ℤ) (r : Registers) : Registers :=
  { r with test_req_pending := false, last_recv_time := t }

/-- What `clear_gap` leaves. -/
def Registers.clear (r : Registers) : Registers := { r with gap := .closed }

/-- What taking over the interval of a Logon leaves. -/
def Registers.adopt (hb : ℤ) (r : Registers) : Registers := { r with heartbeat_sec := to_i32 hb }

namespace Session

variable {σ : Type}

def registers (s : Session σ) : Registers where
  id := s.cfg.id
  state := s.state
  parser := s.parser
  heartbeat_sec := s.heartbeat_sec
  test_req_pending := s.test_req_pending
  test_req_sent_time := s.test_req_sent_time
  last_recv_time := s.last_recv_time
  gap := s.gap
  notes := s.io.notes

/-- The registers have become `r`, and time went on in the same environment. -/
structure Sets (r : Registers) (s s' : Session σ) : Prop where
  registers : s'.registers = r
  env : s'.io.env = s.io.env
  reads : s.io.reads ≤ s'.io.reads

/-- The registers are as they were. -/
abbrev Keeps (s s' : Session σ) : Prop := Sets s.registers s s'

variable {s s₁ s₂ : Session σ} {r r' : Registers}

/-- Of two writes the second one stays. -/
theorem Sets.trans (h : Sets r s s₁) (h' : Sets r' s₁ s₂) : Sets r' s s₂ :=
  ⟨h'.registers, h'.env.trans h.env, h.reads.trans h'.reads⟩

/-- What was written stays where nothing writes. -/
theorem Sets.keeps (h : Sets r s s₁) (h' : Keeps s₁ s₂) : Sets r s s₂ :=
  h.registers ▸ h.trans h'

/-- A write behind something that writes nothing. -/
theorem Keeps.sets (h : Keeps s s₁) (h' : Sets r s₁ s₂) : Sets r s s₂ := Sets.trans h h'

/-- Nothing is written. -/
theorem Keeps.refl (s : Session σ) : Keeps s s := ⟨rfl, rfl, le_rfl⟩

/-- Two stretches that write nothing are one. -/
theorem Keeps.trans (h : Keeps s s₁) (h' : Keeps s₁ s₂) : Keeps s s₂ := Sets.keeps h h'

theorem Keeps.of_passes (hid : s₁.cfg.id = s.cfg.id) (hstate : s₁.state = s.state)
    (hparser : s₁.parser = s.parser) (hheartbeat : s₁.heartbeat_sec = s.heartbeat_sec)
    (hpending : s₁.test_req_pending = s.test_req_pending)
    (hsent : s₁.test_req_sent_time = s.test_req_sent_time)
    (hrecv : s₁.last_recv_time = s.last_recv_time) (hgap : s₁.gap = s.gap) (h : s.io.Passes s₁.io) :
    Keeps s s₁ := by
  refine ⟨?_, h.env, h.reads⟩
  simp only [registers, hid, hstate, hparser, hheartbeat, hpending, hsent, hrecv, hgap, h.notes]

/-! ## Operations that keep them -/

/-- To report an error writes no register. -/
theorem keeps_report (what : Bytes) (s : Session σ) : Keeps s (s.report what) :=
  .of_passes rfl rfl rfl rfl rfl rfl rfl rfl (Outside.passes_report what s.io)

/-- The audit log writes none. -/
theorem keeps_audit_frame (outbound : Bool) (raw : Bytes) (s : Session σ) :
    Keeps s (s.audit_frame outbound raw) :=
  .of_passes rfl rfl rfl rfl rfl rfl rfl rfl (Outside.passes_audit_frame outbound raw s.io)

theorem keeps_mark_sent (s : Session σ) : Keeps s s.mark_sent :=
  .of_passes rfl rfl rfl rfl rfl rfl rfl rfl (Outside.passes_tick s.io)

/-- An event that is not notable writes none. -/
theorem keeps_emit {e : Event} (h : e.notable = false) (s : Session σ) : Keeps s (s.emit e) :=
  .of_passes rfl rfl rfl rfl rfl rfl rfl rfl (Outside.passes_emit s.io h)

/-- The count of messages received is no register. -/
theorem keeps_count_received (s : Session σ) : Keeps s s.count_received :=
  .of_passes rfl rfl rfl rfl rfl rfl rfl rfl (.refl _)

/-- A handler is called. -/
theorem sets_guarded {e : Event} (h : e.notable = true) (s : Session σ) :
    Sets (s.registers.note e) s (s.guarded e) := by
  refine ⟨?_, Outside.env_guarded _ _, Outside.reads_le_guarded _ _⟩
  simp only [registers, Registers.note]
  rw [← Outside.notes_guarded s.io h]
  rfl

/-- `disconnect` leaves the registers `down`. -/
theorem sets_disconnect (s : Session σ) : Sets s.registers.down s s.disconnect := by
  have hio := Outside.passes_emit s.io (e := .do_disconnect) rfl
  refine ⟨?_, hio.env, hio.reads⟩
  simp only [registers, Registers.down, ← hio.notes]
  rfl

theorem Sets.locked {α : Type} {body : Session σ → α × Session σ}
    (h : Sets r { s with io := s.io.acquire }
      (body { s with io := s.io.acquire }).2) : Sets r s (s.locked body).2 := by
  have hlock : Keeps s { s with io := s.io.acquire } :=
    .of_passes rfl rfl rfl rfl rfl rfl rfl rfl ⟨rfl, le_rfl, rfl⟩
  refine (hlock.sets h).keeps (.of_passes rfl rfl rfl rfl rfl rfl rfl rfl ⟨rfl, le_rfl, ?_⟩)
  exact Outside.notes_drain_pending_errors { (body _).2.io with send_owner := false }

/-! ## The replay of stored frames -/

theorem keeps_emit_wire_locked {id : SessionID} {msg : Message} {n : ℕ} {w : Bytes}
    (hw : Carries id msg n w) (htype : msg.msg_type ≠ msg_types.ResendRequest) (s : Session σ) :
    Keeps s (s.emit_wire_locked w) := by
  have hsilent : (Event.do_send .replayed w).notable = false := by
    rw [Event.notable, frame_type_of_carries hw]
    simpa using htype
  exact ((keeps_emit hsilent s).trans (keeps_audit_frame true w _)).trans (keeps_mark_sent _)

/-- To build a frame reads the clock only. -/
theorem keeps_serialize (msg : Message) (n : ℕ) (s : Session σ) : Keeps s (s.serialize msg n).2 :=
  .of_passes rfl rfl rfl rfl rfl rfl rfl rfl (Outside.passes_tick s.io)

/-- A GapFill is no ResendRequest. -/
theorem keeps_flush_gap (up_to cursor : ℕ) (s : Session σ) :
    Keeps s (flush_gap up_to (cursor, s)).2 := by
  rw [flush_gap]
  split
  · exact .refl s
  · dsimp only
    split
    · exact (keeps_serialize _ _ s).trans (keeps_report _ _)
    · rename_i w hbuilt
      have hw : Carries s.cfg.id (gap_fill_message up_to) cursor w := ⟨_, _, hbuilt⟩
      refine (keeps_serialize _ _ s).trans (keeps_emit_wire_locked hw ?_ _)
      rw [msg_type_gap_fill]
      decide

theorem keeps_replay_frames (range_end : ℕ) (frames : List (ℕ × Bytes)) (cursor : ℕ)
    (s : Session σ) :
    Keeps s (replay_frames range_end frames (cursor, s)).2 := by
  have hcount : ∀ s : Session σ, Keeps s { s with resend_corrupt := s.resend_corrupt + 1 } :=
    fun s => .of_passes rfl rfl rfl rfl rfl rfl rfl rfl (.refl _)
  -- the induction follows the loop, one stored frame at a time
  induction frames generalizing cursor s with
  | nil => exact .refl s
  | cons frame frames ih =>
    obtain ⟨seq, wire⟩ := frame
    rw [replay_frames]
    split
    · exact ih cursor s
    split
    · exact .refl s
    split
    · rename_i stored _
      split
      · exact (hcount s).trans (ih cursor _)
      split
      · exact ih cursor s
      · rename_i happ
        have hfill := keeps_flush_gap seq cursor s
        dsimp only
        generalize flush_gap seq (cursor, s) = filled at hfill ⊢
        have hbuilt : Keeps s (filled.2.serialize (retag stored) seq).2 :=
          hfill.trans (keeps_serialize _ _ _)
        split
        · rename_i w hw
          have hcarries : Carries filled.2.cfg.id (retag stored) seq w := ⟨_, _, hw⟩
          have htype : (retag stored).msg_type ≠ msg_types.ResendRequest := by
            rw [msg_type_retag]
            intro heq
            rw [heq] at happ
            exact happ (by decide)
          exact (hbuilt.trans (keeps_emit_wire_locked hcarries htype _)).trans (ih _ _)
        · exact ((hbuilt.trans (hcount _)).trans (keeps_flush_gap _ _ _)).trans (ih _ _)
    · exact (hcount s).trans (ih cursor _)

/-- **A replay writes no register**, however many frames it sends. -/
theorem keeps_replay (first range_end : ℕ) (frames : List (ℕ × Bytes)) (s : Session σ) :
    Keeps s (s.replay first range_end frames) := by
  refine Sets.locked ?_
  exact (keeps_replay_frames range_end frames first { s with io := s.io.acquire }).trans
    (keeps_flush_gap _ _ _)

/-! ## The store and the send path -/

variable [IMessageStore σ]

/-- To keep an inbound message writes no register. -/
theorem keeps_store_inbound (msg : Message) (what : Bytes) (s : Session σ) :
    Keeps s (s.store_inbound msg what) :=
  .of_passes rfl rfl rfl rfl rfl rfl rfl rfl (Outside.passes_write _ what s.io)

/-- To count on writes none. -/
theorem keeps_advance_target (msg : Message) (what : Bytes) (s : Session σ) :
    Keeps s (s.advance_target msg what) :=
  .of_passes rfl rfl rfl rfl rfl rfl rfl rfl (Outside.passes_write _ what s.io)

/-- To set the expected number writes none. -/
theorem keeps_set_target (n : ℕ) (what : Bytes) (s : Session σ) : Keeps s (s.set_target n what) :=
  .of_passes rfl rfl rfl rfl rfl rfl rfl rfl (Outside.passes_write _ what s.io)

/-- So `consume_inbound` writes none. -/
theorem keeps_consume_inbound (msg : Message) (validated : Bool) (s : Session σ) :
    Keeps s (s.consume_inbound msg validated) := by
  rw [consume_inbound]
  split
  · exact .refl s
  · exact (keeps_advance_target msg _ s).trans (keeps_store_inbound msg _ _)

/-- A number that is given back is none of the registers. -/
theorem keeps_abort_send (n : ℕ) (s : Session σ) : Keeps s (s.abort_send n) := by
  refine .of_passes rfl rfl rfl rfl rfl rfl rfl rfl ?_
  rw [abort_send]
  dsimp only
  split
  · exact .refl _
  · exact (Outside.passes_emit s.io rfl).trans (Outside.passes_report _ _)

/-- The number is claimed and the frame built. -/
theorem keeps_build_claimed (msg : Message) (n : ℕ) (s : Session σ) :
    Keeps s (s.build_claimed msg n).2 :=
  .of_passes rfl rfl rfl rfl rfl rfl rfl rfl (Outside.passes_tick s.io)

/-- **A send.** Nothing is noted of it, unless it puts out a ResendRequest. -/
theorem sets_send_message_locked (msg : Message) (s : Session σ) :
    Keeps s (s.send_message_locked msg).2 ∨
      msg.msg_type = msg_types.ResendRequest ∧ ∃ n w, Carries s.cfg.id msg n w ∧
        Sets (s.registers.note (.do_send (.sent n) w)) s (s.send_message_locked msg).2 := by
  have houtcome := send_message_locked_outcome msg s
  generalize s.send_message_locked msg = sent at houtcome ⊢
  cases houtcome with
  | refused hclaim => exact .inl (.of_passes rfl rfl rfl rfl rfl rfl rfl rfl (.refl _))
  | unbuilt hclaim hwire => exact .inl ((keeps_build_claimed msg _ s).trans (keeps_abort_send _ _))
  | @unstored n w e hclaim hwire hstore =>
    have hstored : Keeps s { (s.build_claimed msg n).2 with store := (s.store_claimed n w).2 } :=
      (keeps_build_claimed msg n s).trans (.of_passes rfl rfl rfl rfl rfl rfl rfl rfl (.refl _))
    exact .inl (hstored.trans (keeps_abort_send _ _))
  | @handed_over n w hclaim hwire hstore =>
    have hcarries : Carries s.cfg.id msg n w := ⟨_, _, hwire⟩
    have hstored : ∀ held, Keeps s
        ({ (s.build_claimed msg n).2 with store := (s.store_claimed n w).2 }.emit
          (.stored n held)) := by
      intro held
      refine (keeps_build_claimed msg n s).trans ?_
      exact .of_passes rfl rfl rfl rfl rfl rfl rfl rfl (Outside.passes_emit _ rfl)
    specialize hstored (IMessageStore.held n (s.store_claimed n w).2)
    generalize
      ({ (s.build_claimed msg n).2 with store := (s.store_claimed n w).2 } : Session σ).emit
      (.stored n (IMessageStore.held n (s.store_claimed n w).2)) = s₁ at hstored
    have hrest : Keeps (s₁.emit (.do_send (.sent n) w))
        ((s₁.emit (.do_send (.sent n) w)).audit_frame true w).mark_sent :=
      (keeps_audit_frame true w _).trans (keeps_mark_sent _)
    have htype :
        (Event.do_send (.sent n) w).notable = decide (msg.msg_type = msg_types.ResendRequest) := by
      rw [Event.notable, frame_type_of_carries hcarries]
      simp
    by_cases hrequest : msg.msg_type = msg_types.ResendRequest
    · refine .inr ⟨hrequest, n, w, hcarries, ?_⟩
      have hnoted : Sets (s₁.registers.note (.do_send (.sent n) w)) s₁
          (s₁.emit (.do_send (.sent n) w)) := by
        refine ⟨?_, rfl, le_rfl⟩
        simp only [registers, Registers.note]
        rw [← Outside.notes_emit s₁.io (by rw [htype, hrequest]; rfl)]
        rfl
      rw [hstored.registers] at hnoted
      exact (hstored.sets hnoted).keeps hrest
    · refine .inl ((hstored.trans (keeps_emit ?_ s₁)).trans hrest)
      rw [htype]
      simpa using hrequest

/-- A send of anything but a ResendRequest writes no register. -/
theorem keeps_send_message_locked {msg : Message} (h : msg.msg_type ≠ msg_types.ResendRequest)
    (s : Session σ) :
    Keeps s (s.send_message_locked msg).2 :=
  (sets_send_message_locked msg s).resolve_right fun hrequest => h hrequest.1

/-- The same with the lock. -/
theorem keeps_send_message {msg : Message} (h : msg.msg_type ≠ msg_types.ResendRequest)
    (s : Session σ) :
    Keeps s (s.send_message msg).2 :=
  Sets.locked (keeps_send_message_locked h { s with io := s.io.acquire })

/-- A ResendRequest goes out, or not. -/
theorem sets_send_resend_request (first last : ℕ) (s : Session σ) :
    Keeps s (s.send_resend_request first last) ∨
      ∃ n w, Carries s.cfg.id (resend_request_message first last) n w ∧
        Sets (s.registers.note (.do_send (.sent n) w)) s (s.send_resend_request first last) := by
  rcases sets_send_message_locked (resend_request_message first last)
      { s with io := s.io.acquire } with hkeeps | ⟨-, n, w, hcarries, hsets⟩
  · exact .inl (Sets.locked hkeeps)
  · exact .inr ⟨n, w, hcarries, Sets.locked hsets⟩

/-- A Reject writes no register. -/
theorem keeps_send_reject (ref_seq : ℕ) (reason : SessionRejectReason) (ref_msg_type : Bytes)
    (ref_tag : TagNum) (text : Bytes) (s : Session σ) :
    Keeps s (s.send_reject ref_seq reason ref_msg_type ref_tag text) :=
  keeps_send_message (by rw [msg_type_reject]; decide) s

/-- A Heartbeat writes none. -/
theorem keeps_send_heartbeat (id : Bytes) (s : Session σ) : Keeps s (s.send_heartbeat id) :=
  keeps_send_message (by rw [msg_type_heartbeat]; decide) s

theorem keeps_send_logout_echo (s : Session σ) : Keeps s s.send_logout_echo :=
  keeps_send_message (by rw [msg_type_logout]; decide) s

/-- A Logout that ends the connection. -/
theorem sets_logout_disconnect (reason : Bytes) (s : Session σ) :
    Sets s.registers.down s (s.send_logout reason).disconnect := by
  have hsent : Keeps s (s.send_message (logout_message reason)).2 :=
    keeps_send_message (by rw [msg_type_logout]; decide) s
  have hlogout : ∀ s' : Session σ, Sets s'.registers.down s' s'.mark_logout.disconnect := by
    intro s'
    have hdown := sets_disconnect s'.mark_logout
    exact ⟨hdown.registers, hdown.env, (Nat.le_succ _).trans hdown.reads⟩
  exact hsent.registers ▸ hsent.sets (hlogout _)

end Session

end FixEngine
