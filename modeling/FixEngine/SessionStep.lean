/-
`SessionStep.lean` -- what one call of a session can do.

A run of a session is a sequence of calls: one inbound message, one tick of the
timer, or one of the public functions. `Outcome` lists what the processing of one
message can lead to, with everything that the protocol is concerned with: the
footprint on the outside and on the store, the state, and in which case a number
is consumed. The invariants of a session are read off this list and never off the
functions themselves.

`on_data` is a sequence of such calls as well (`on_data_calls`): the parser is fed
and asked, and the messages it delivers are processed one after the other.
-/
import FixEngine.Footprint

set_option autoImplicit false

namespace FixEngine

open IMessageStore Decimal

/-! ## The handshake -/

/-- A Logon with ResetSeqNumFlag=Y. -/
def ResetFlag (msg : Message) : Prop := (msg.get tags.ResetSeqNumFlag).getD (ascii "N") = ascii "Y"

/-- The events of a handshake: administrative frames, and a reset of the store if that was
asked for. -/
def LogonEvent (reset : Prop) (e : Event) : Prop := SendsAdmin e ∨ (e = .store_reset ∧ reset)

/-- The store operations of a handshake: those of a send, NextTarget set to 1 by the peer's
flag, and the reset that was asked for. -/
inductive LogonStep {σ : Type} [IMessageStore σ] (baseline reset : Prop) : σ → σ → Prop where
  | sender {st st' : σ} (h : SenderStep st st') : LogonStep baseline reset st st'
  | baseline (st : σ) (h : baseline) : LogonStep baseline reset st (set_next_target_seq_num 1 st).2
  | reset (st : σ) (h : reset) : LogonStep baseline reset st (IMessageStore.reset st).2

namespace Session

theorem state_unpublish {σ : Type} {s : Session σ} {prev : SessionState}
    (h : s.state = s.handshake_state) : (s.unpublish prev).state = prev := by
  rw [unpublish]
  split
  · show (if s.state = s.handshake_state then prev else s.state) = prev
    rw [if_pos h]
  · rename_i hsame
    rw [h]
    exact (not_not.mp hsame).symm

theorem handshake_state_ne {σ : Type} (s : Session σ) :
    s.handshake_state ≠ .Active ∧ s.handshake_state ≠ .LogoutSent := by
  rw [handshake_state]
  split <;> decide

variable {σ : Type} [IMessageStore σ]

/-- The footprint of a handshake. -/
def Handshakes (baseline reset : Prop) (s s' : Session σ) : Prop :=
  Footprint (LogonEvent reset) (LogonStep baseline reset) s s'

section Handshake

variable {baseline reset : Prop} {s s₁ s₂ : Session σ}

theorem Handshakes.trans (h : Handshakes baseline reset s s₁)
    (h' : Handshakes baseline reset s₁ s₂) :
    Handshakes baseline reset s s₂ :=
  Footprint.trans h h'

theorem Talks.handshakes (h : Talks SendsAdmin s s₁) : Handshakes baseline reset s s₁ :=
  h.footprint.mono (fun _ he => .inl he) fun _ _ hstep => .sender hstep

theorem handshakes_reset_for_logon (baseline : Prop) (s : Session σ) :
    Handshakes baseline (s.cfg.reset_on_logon = true) s s.reset_for_logon.2 ∧
      s.reset_for_logon.2.state = s.state ∧ s.reset_for_logon.2.cfg = s.cfg := by
  rw [reset_for_logon]
  split
  · rename_i hreset
    have hstore : Handshakes baseline (s.cfg.reset_on_logon = true) s s.reset_store.2 :=
      ⟨.single (.reset s.store hreset), Outside.adds_emit s.io (.inr (.inr ⟨rfl, hreset⟩))⟩
    dsimp only
    split
    · exact ⟨hstore.trans (talks_report _ _).handshakes, rfl, rfl⟩
    · exact ⟨hstore.trans (Footprint.of_eq rfl rfl), rfl, rfl⟩
  · exact ⟨Footprint.of_eq rfl rfl, rfl, rfl⟩

theorem cfg_send_message_locked (msg : Message) (s : Session σ) :
    (s.send_message_locked msg).2.cfg = s.cfg := by
  have houtcome := send_message_locked_outcome msg s
  generalize s.send_message_locked msg = r at houtcome ⊢
  cases houtcome with
  | refused hclaim => rfl
  | unbuilt hclaim hwire => rfl
  | unstored hclaim hwire hstore => rfl
  | handed_over hclaim hwire hstore => rfl

theorem publish_logon_cases (baseline : Prop) {m : Message} (hm : is_admin_msg m.msg_type = true)
    (s : Session σ) :
    Handshakes baseline (s.cfg.reset_on_logon = true) s (s.publish_logon m).2 ∧
      (s.publish_logon m).2.state =
        if (s.publish_logon m).1 = .ok () then s.handshake_state else s.state := by
  have hpublish : Handshakes baseline (s.cfg.reset_on_logon = true) s s.publish :=
    Footprint.of_eq rfl rfl
  obtain ⟨hready, hstate, hcfg⟩ := handshakes_reset_for_logon baseline s.publish
  have hready := hpublish.trans hready
  -- the handshake state depends on the configuration alone, which stays
  have hhand : ∀ s' : Session σ, s'.cfg = s.cfg → s'.handshake_state = s.handshake_state := by
    intro s' h
    rw [handshake_state, handshake_state, h]
  have hunpublish : ∀ s' : Session σ,
      Handshakes baseline (s.cfg.reset_on_logon = true) s' (s'.unpublish s.state) := by
    intro s'
    refine Footprint.of_eq ?_ (by rw [io_unpublish])
    rw [unpublish]
    split <;> rfl
  rw [publish_logon]
  dsimp only
  split
  · refine ⟨hready.trans (hunpublish _), ?_⟩
    rw [if_neg (by simp)]
    apply state_unpublish
    rw [hstate, hhand _ hcfg]
    rfl
  · have htalks := talks_send_message_locked m s.publish.reset_for_logon.2
    have hsent := hready.trans (htalks.mono (sends_admin_of_frame hm)).handshakes
    have hsent_cfg := cfg_send_message_locked m s.publish.reset_for_logon.2
    have hsent_state := htalks.state.trans hstate
    generalize s.publish.reset_for_logon.2.send_message_locked m =
      sent at hsent hsent_cfg hsent_state
    rcases sent with ⟨e | _, s'⟩
    · refine ⟨hsent.trans (hunpublish _), ?_⟩
      rw [if_neg (by simp)]
      apply state_unpublish
      rw [hsent_state, hhand _ (hsent_cfg.trans hcfg)]
      rfl
    · refine ⟨hsent, ?_⟩
      rw [if_pos rfl]
      exact hsent_state

/-- **`send_logon`**: the handshake is under way, from a state that allowed it, or the
state is as before. -/
theorem send_logon_cases (baseline : Prop) (s : Session σ) :
    Handshakes baseline (s.cfg.reset_on_logon = true) s s.send_logon.2 ∧
      ((s.send_logon.1 = .ok () ∧ s.send_logon.2.state = s.handshake_state ∧
          (s.state = s.handshake_state ∨ s.state = .NotConnected ∨ s.state = .Disconnected)) ∨
        (s.send_logon.1 ≠ .ok () ∧ s.send_logon.2.state = s.state)) := by
  have hlocked : ∀ s : Session σ, ∀ m : Message, is_admin_msg m.msg_type = true →
      Handshakes baseline (s.cfg.reset_on_logon = true) s (s.send_logon_locked m).2 ∧
      (((s.send_logon_locked m).1 = .ok () ∧ (s.send_logon_locked m).2.state = s.handshake_state ∧
          (s.state = s.handshake_state ∨ s.state = .NotConnected ∨ s.state = .Disconnected)) ∨
        ((s.send_logon_locked m).1 ≠ .ok () ∧ (s.send_logon_locked m).2.state = s.state)) := by
    intro s m hm
    rw [send_logon_locked]
    split
    · exact ⟨Footprint.of_eq rfl rfl, .inr ⟨by simp, rfl⟩⟩
    rename_i hfree
    split
    · exact ⟨Footprint.of_eq rfl rfl, .inr ⟨by simp, rfl⟩⟩
    obtain ⟨hfoot, hstate⟩ := publish_logon_cases baseline hm s
    refine ⟨hfoot, ?_⟩
    by_cases hok : (s.publish_logon m).1 = .ok ()
    · rw [if_pos hok] at hstate
      refine .inl ⟨hok, hstate, ?_⟩
      simpa only [not_and_or, not_not] using hfree
    · rw [if_neg hok] at hstate
      exact .inr ⟨hok, hstate⟩
  have hm : is_admin_msg (logon_message s.cfg s.heartbeat_sec).msg_type = true := by
    rw [msg_type_logon]
    decide
  obtain ⟨hfoot, hcases⟩ := hlocked { s with io := s.io.acquire }
    (logon_message s.cfg s.heartbeat_sec) hm
  refine ⟨?_, hcases⟩
  have hlock : Handshakes baseline (s.cfg.reset_on_logon = true) s
      { s with io := s.io.acquire } := Footprint.of_eq rfl rfl
  exact (hlock.trans hfoot).trans
    (Footprint.of_adds rfl (Outside.adds_drain_pending_errors _))

end Handshake

/-! ## Handlers -/

/-- A Logon with a usable HeartBtInt. -/
def ValidLogon (msg : Message) : Prop :=
  msg.msg_type = msg_types.Logon ∧ ∃ hb, msg.get_int tags.HeartBtInt = some hb ∧ 0 < hb

/-- What the handler of a message leaves, before its number is consumed. -/
inductive Handled (msg : Message) (s : Session σ) : Session σ → Prop where
  /-- Administrative frames at most. -/
  | refused {s' : Session σ} (h : Refuses s s') : Handled msg s s'
  /-- Frames of any kind: the answer to a ResendRequest, or the rejection of an application
  message. -/
  | answered {s' : Session σ} (h : Talks SendsAny s s')
      (hwhy : s.state = .Active ∨ msg.msg_type = msg_types.ResendRequest)
      (hdup : msg.duplicate_header = false) :
      Handled msg s s'
  /-- The application has the message. -/
  | delivered (hstate : s.state = .Active) : Handled msg s (s.guarded (.on_message msg))
  /-- The Logon could not be answered. -/
  | unanswered {s' : Session σ} (hwait : s.state = .WaitingLogon) (hlogon : ValidLogon msg)
      (hdup : msg.duplicate_header = false)
      (h : Handshakes (ResetFlag msg) (s.cfg.reset_on_logon = true) s s')
      (hstate : s'.state = s.state) :
      Handled msg s s'
  /-- The handshake is complete. -/
  | entered {s' : Session σ} (hwait : s.state = .WaitingLogon ∨ s.state = .LogonSent)
      (hlogon : ValidLogon msg) (hdup : msg.duplicate_header = false)
      (h : Handshakes (ResetFlag msg) (s.cfg.reset_on_logon = true) s s')
      (hstate : s'.state = .Active) : Handled msg s (s'.guarded .on_logon)

/-- Taking over the peer's HeartBtInt. -/
def adopt (hb : ℤ) (s : Session σ) : Session σ :=
  { s with cfg := { s.cfg with heartbeat_interval := to_i32 hb }, heartbeat_sec := to_i32 hb }

/-- The baseline of a Logon in a handshake. -/
def rebaseline (msg : Message) (s : Session σ) : Session σ :=
  if (msg.get tags.ResetSeqNumFlag).getD (ascii "N") = ascii "Y" ∧
      (s.state = .WaitingLogon ∨ s.state = .LogonSent) then
    s.set_target 1 (ascii "logon: ResetSeqNumFlag baseline persist failed")
  else s

theorem handshakes_rebaseline (reset : Prop) (msg : Message) (s : Session σ) :
    Handshakes (ResetFlag msg) reset s (s.rebaseline msg) ∧
      (s.rebaseline msg).state = s.state ∧ (s.rebaseline msg).cfg = s.cfg := by
  rw [rebaseline]
  split
  · rename_i hflag
    refine ⟨⟨.single (.baseline s.store hflag.1), ?_⟩, rfl, rfl⟩
    rw [set_target]
    dsimp only
    split
    · exact .of_eq rfl
    · exact Outside.adds_report _ _
  · exact ⟨Footprint.of_eq rfl rfl, rfl, rfl⟩

theorem rebaseline_of_numbered (msg : Message) {s : Session σ}
    (h : ¬(s.state = .WaitingLogon ∨ s.state = .LogonSent)) : s.rebaseline msg = s := by
  rw [rebaseline, if_neg fun hflag => h hflag.2]

/-- A session that is ready to answer a Logon. -/
def logon_ready (hb : ℤ) (msg : Message) (s : Session σ) : Session σ :=
  ((s.adopt hb).rebaseline msg).clear_gap

variable {msg : Message}

theorem handle_logon_eq {hb : ℤ} {s : Session σ}
    (hhb : msg.get_int tags.HeartBtInt = some hb) (hpos : ¬hb ≤ 0)
    (hecho : ¬(s.cfg.initiator ∧ s.state = .LogonSent ∧ hb ≠ s.heartbeat_sec)) :
    s.handle_logon msg =
      match s.state with
      | .WaitingLogon =>
        let sent := (s.logon_ready hb msg).send_logon
        match sent.1 with
        | .ok _ =>
          let moved := sent.2.transition .WaitingLogon .Active
          if moved.1 then { moved.2 with logout_notified := false }.guarded .on_logon
          else moved.2.report
            (ascii "logon race: session left WaitingLogon before Active was published")
        | .error _ => sent.2.report
            (ascii "logon race: Logon response failed to send; on_logon suppressed")
      | .LogonSent =>
        let moved := (s.logon_ready hb msg).transition .LogonSent .Active
        if moved.1 then { moved.2 with logout_notified := false }.guarded .on_logon
        else moved.2.report (ascii
          "logon race: session left LogonSent before Active was published; on_logon suppressed")
      | .Active => ((s.logon_ready hb msg).send_logout (ascii "Duplicate Logon")).disconnect
      | _ => s.logon_ready hb msg := by
  rw [handle_logon, hhb]
  dsimp only
  rw [if_neg hpos, if_neg hecho]
  rfl

theorem handshakes_logon_ready (hb : ℤ) (msg : Message) (s : Session σ) :
    Handshakes (ResetFlag msg) (s.cfg.reset_on_logon = true) s (s.logon_ready hb msg) ∧
      (s.logon_ready hb msg).state = s.state ∧
      (s.logon_ready hb msg).cfg.reset_on_logon = s.cfg.reset_on_logon ∧
      (s.logon_ready hb msg).cfg.initiator = s.cfg.initiator := by
  obtain ⟨hbase, hstate, hcfg⟩ :=
    handshakes_rebaseline (s.cfg.reset_on_logon = true) msg (s.adopt hb)
  have hadopt : Handshakes (ResetFlag msg) (s.cfg.reset_on_logon = true) s (s.adopt hb) :=
    Footprint.of_eq rfl rfl
  refine ⟨(hadopt.trans hbase).trans (Footprint.of_eq rfl rfl), hstate, ?_, ?_⟩
  · show ((s.adopt hb).rebaseline msg).cfg.reset_on_logon = _
    rw [hcfg]
    rfl
  · show ((s.adopt hb).rebaseline msg).cfg.initiator = _
    rw [hcfg]
    rfl

theorem refuses_logon_ready (hb : ℤ) (msg : Message) {s : Session σ}
    (h : ¬(s.state = .WaitingLogon ∨ s.state = .LogonSent)) : Refuses s (s.logon_ready hb msg) := by
  have hnumbered : ¬((s.adopt hb).state = .WaitingLogon ∨ (s.adopt hb).state = .LogonSent) := h
  rw [logon_ready, rebaseline_of_numbered msg hnumbered]
  have hcalm : Talks SendsAdmin s (s.adopt hb).clear_gap := .of_eq rfl rfl rfl
  exact hcalm.refuses

/-- **`handle_logon`.** -/
theorem handled_logon (htype : msg.msg_type = msg_types.Logon)
    (hdup : msg.duplicate_header = false) (s : Session σ) : Handled msg s (s.handle_logon msg) := by
  rcases hhb : msg.get_int tags.HeartBtInt with _ | hb
  · rw [handle_logon, hhb]
    exact .refused (refuses_logout _ s)
  by_cases hpos : hb ≤ 0
  · rw [handle_logon, hhb]
    dsimp only
    rw [if_pos hpos]
    exact .refused (refuses_logout _ s)
  by_cases hecho : s.cfg.initiator ∧ s.state = .LogonSent ∧ hb ≠ s.heartbeat_sec
  · rw [handle_logon, hhb]
    dsimp only
    rw [if_neg hpos, if_pos hecho]
    exact .refused (refuses_logout _ s)
  have hlogon : ValidLogon msg := ⟨htype, hb, hhb, by omega⟩
  obtain ⟨hready, hstate, hreset, hinit⟩ := handshakes_logon_ready hb msg s
  rw [handle_logon_eq hhb hpos hecho]
  cases hst : s.state with
  | WaitingLogon =>
    obtain ⟨hfoot, hcases⟩ := send_logon_cases (ResetFlag msg) (s.logon_ready hb msg)
    rw [hreset] at hfoot
    have hsent := hready.trans hfoot
    dsimp only
    rcases hcases with ⟨hok, hhand, hfree⟩ | ⟨hfail, hsame⟩
    · -- only an acceptor answers, so its handshake state is the one it waited in
      have hwaiting : (s.logon_ready hb msg).send_logon.2.state = .WaitingLogon := by
        rw [hstate, hst] at hfree
        rcases hfree with hsame | hno | hno
        · rw [hhand, ← hsame]
        · simp at hno
        · simp at hno
      rw [hok]
      dsimp only
      rw [if_pos (by rw [transition, hwaiting]; rfl)]
      refine .entered (.inl hst) hlogon hdup (hsent.trans (Footprint.of_eq rfl rfl)) ?_
      show (if _ = _ then _ else _) = _
      rw [if_pos hwaiting]
    · split
      · rename_i hok
        exact absurd hok hfail
      · refine .unanswered hst hlogon hdup (hsent.trans (talks_report _ _).handshakes) ?_
        exact hsame.trans hstate
  | LogonSent =>
    have hwaiting : (s.logon_ready hb msg).state = .LogonSent := hstate.trans hst
    dsimp only
    rw [if_pos (by rw [transition, hwaiting]; rfl)]
    refine .entered (.inr hst) hlogon hdup (hready.trans (Footprint.of_eq rfl rfl)) ?_
    show (if _ = _ then _ else _) = _
    rw [if_pos hwaiting]
  | Active =>
    have hcalm := refuses_logon_ready hb msg (s := s) (by rw [hst]; decide)
    exact .refused (hcalm.trans (refuses_logout _ _))
  | NotConnected => exact .refused (refuses_logon_ready hb msg (by rw [hst]; decide))
  | LogoutSent => exact .refused (refuses_logon_ready hb msg (by rw [hst]; decide))
  | Disconnected => exact .refused (refuses_logon_ready hb msg (by rw [hst]; decide))

/-! ### Consuming a number -/

/-- Any use that a session makes of its store. -/
inductive AnyStep : σ → σ → Prop where
  | sender {st st' : σ} (h : SenderStep st st') : AnyStep st st'
  | set_target (n : ℕ) (st : σ) : AnyStep st (set_next_target_seq_num n st).2
  | advance (n : ℕ) (st : σ) : AnyStep st (advance_next_target_seq_num n st).2
  | reset (st : σ) : AnyStep st (IMessageStore.reset st).2

theorem anyStep_of_logonStep {baseline reset : Prop} {st st' : σ}
    (h : LogonStep baseline reset st st') :
    AnyStep st st' := by
  cases h with
  | sender h => exact .sender h
  | baseline => exact .set_target 1 st
  | reset => exact .reset st

variable {E : Event → Prop}

theorem Talks.anyStep {s s' : Session σ} (h : Talks E s s') :
    Footprint E AnyStep s s' :=
  h.footprint.mono (fun _ he => he) fun _ _ => .sender

theorem footprint_set_target (n : ℕ) (what : Bytes) (s : Session σ) :
    Footprint E AnyStep s (s.set_target n what) := by
  refine ⟨.single (.set_target n s.store), ?_⟩
  rw [set_target]
  dsimp only
  split
  · exact .of_eq rfl
  · exact Outside.adds_report _ _

theorem footprint_advance_target (msg : Message) (what : Bytes) (s : Session σ) :
    Footprint E AnyStep s (s.advance_target msg what) := by
  refine ⟨.single (.advance _ s.store), ?_⟩
  rw [advance_target]
  dsimp only
  split
  · exact .of_eq rfl
  · exact Outside.adds_report _ _

theorem footprint_consume (msg : Message) (validated : Bool) (s : Session σ) :
    Footprint E AnyStep s (s.consume_inbound msg validated).count_received ∧
      (s.consume_inbound msg validated).count_received.state = s.state := by
  rw [consume_inbound]
  split
  · exact ⟨.of_eq rfl rfl, rfl⟩
  · have hadvance : Footprint E AnyStep s
        (s.advance_target msg (ascii "consume: NextTargetMsgSeqNum advance failed")) :=
      footprint_advance_target msg _ s
    refine ⟨hadvance.trans ?_, rfl⟩
    exact (talks_store_inbound msg _ _).anyStep.trans (.of_eq rfl rfl)

/-! ### Admin and application messages -/

/-- **Every handler of a session message** leaves one of these, SequenceReset apart. -/
theorem handled_admin (htype : msg.msg_type ≠ msg_types.SequenceReset)
    (hdup : msg.duplicate_header = false) (s : Session σ) :
    Handled msg s (s.process_admin msg) := by
  rw [process_admin]
  split
  · rename_i hlogon
    exact handled_logon hlogon hdup s
  split
  · exact .refused (refuses_handle_logout msg s)
  split
  · exact .refused (talks_handle_heartbeat msg s).refuses
  split
  · exact .refused (talks_send_heartbeat _ s).refuses
  split
  · rename_i hresend
    exact .answered (talks_handle_resend_request msg s) (.inr hresend) hdup
  -- a SequenceReset never comes here
  split
  · exact .refused (refuses_handle_reject msg s)
  · have hsame : Talks SendsAdmin s s := .of_eq rfl rfl rfl
    exact .refused hsame.refuses

theorem handled_app (hdup : msg.duplicate_header = false) (s : Session σ) :
    Handled msg s (s.process_app msg) := by
  rw [process_app]
  split
  · exact .refused (talks_send_reject _ _ _ _ _ s).refuses
  rename_i hactive
  have hactive : s.state = .Active := not_not.mp hactive
  split
  · refine .answered ((talks_send_message _ s).mono ?_) (.inl hactive) hdup
    rintro e ⟨origin, w, he, _⟩
    exact ⟨origin, w, he, trivial⟩
  · exact .delivered hactive

/-! ## One message -/

/-- The handler that `dispatch` calls. -/
def handle (msg : Message) (s : Session σ) : Session σ :=
  if msg.duplicate_header then
    s.send_reject msg.seq_num .TagAppearsMoreThanOnce msg.msg_type 0
      (ascii "Tag appears more than once")
  else if is_admin_msg msg.msg_type then s.process_admin msg
  else s.process_app msg

theorem handled_handle (htype : msg.msg_type ≠ msg_types.SequenceReset)
    (s : Session σ) : Handled msg s (s.handle msg) := by
  rw [handle]
  split
  · exact .refused (talks_send_reject _ _ _ _ _ s).refuses
  rename_i hdup
  have hdup : msg.duplicate_header = false := by simpa using hdup
  split
  · exact handled_admin htype hdup s
  · exact handled_app hdup s

/-- What processing a message of the counterparty can lead to. -/
inductive Outcome (msg : Message) (s : Session σ) : Session σ → Prop where
  /-- Nothing is consumed. -/
  | dropped {s' : Session σ} (h : Refuses s s') : Outcome msg s s'
  /-- A SequenceReset sets NextTarget: to more than expected in GapFill mode, to any
  positive number in Reset mode. -/
  | renumbered {s₁ : Session σ} (v : ℤ) (what : Bytes)
      (htype : msg.msg_type = msg_types.SequenceReset) (hnew : msg.get_int tags.NewSeqNo = some v)
      (h : Talks SendsAdmin s s₁)
      (hmode : ((msg.get tags.GapFillFlag).getD (ascii "N") = ascii "Y" ∧
        s.next_target < to_u64 v) ∨
        ((msg.get tags.GapFillFlag).getD (ascii "N") ≠ ascii "Y" ∧ 0 < v)) :
      Outcome msg s (s₁.set_target (to_u64 v) what).clear_gap.count_received
  /-- A message without MsgType takes its place and is rejected. -/
  | untyped {s₁ s' : Session σ} (what : Bytes) (hhas : msg.has tags.MsgType = false)
      (hnumbered : s.state.unnumbered = false) (hseq : msg.seq_num = s.next_target)
      (h : Talks SendsAdmin s s₁) (h' : Talks SendsAdmin (s₁.advance_target msg what) s') :
      Outcome msg s s'
  /-- The message is handled, and then takes its place. -/
  | dispatched {s₁ s₂ : Session σ} (validated : Bool) (hhas : msg.has tags.MsgType = true)
      (htype : msg.msg_type ≠ msg_types.SequenceReset) (h : Talks SendsAdmin s s₁)
      (hseq : if validated then s.state.unnumbered = false ∧ msg.seq_num = s.next_target
        else s.state.unnumbered = true)
      (hhandled : Handled msg s₁ s₂) :
      Outcome msg s (s₂.consume_inbound msg validated).count_received

theorem talks_note_inbound (msg : Message) (s : Session σ) :
    Talks E s (s.note_inbound msg) :=
  .of_adds rfl rfl (Outside.adds_audit_frame false msg.raw s.io)

theorem talks_clear_gap (s : Session σ) : Talks E s s.clear_gap :=
  .of_eq rfl rfl rfl

theorem talks_count_received (s : Session σ) : Talks E s s.count_received :=
  .of_eq rfl rfl rfl

theorem Refuses.count {s s' : Session σ} (h : Refuses s s') : Refuses s s'.count_received :=
  h.trans (talks_count_received s').refuses

theorem reject_untyped_outcome {s s₁ : Session σ}
    (hhas : msg.has tags.MsgType = false) (h : Talks SendsAdmin s s₁)
    (hstore : s₁.store = s.store) :
    Outcome msg s (s₁.reject_untyped msg).count_received := by
  rw [reject_untyped]
  split
  · rename_i hnext
    have hseq : msg.seq_num = s.next_target := by
      rw [next_target, ← hstore]
      exact hnext.2.2
    have hnumbered : s.state.unnumbered = false := by
      rw [← h.state]
      simpa using hnext.1
    refine .untyped (ascii "reject: NextTargetMsgSeqNum advance failed") hhas hnumbered hseq h ?_
    refine Talks.trans ?_ (talks_count_received _)
    exact (talks_store_inbound _ _ _).trans (talks_send_reject _ _ _ _ _ _)
  · refine .dropped (h.refuses.trans ?_)
    exact (talks_send_reject _ _ _ _ _ s₁).refuses.count

theorem handle_sequence_reset_outcome {s s₁ : Session σ}
    (htype : msg.msg_type = msg_types.SequenceReset) (h : Talks SendsAdmin s s₁)
    (hstore : s₁.store = s.store) :
    Outcome msg s (if (s₁.handle_sequence_reset msg).1 then
      (s₁.handle_sequence_reset msg).2.count_received else (s₁.handle_sequence_reset msg).2) := by
  have hlogout : ∀ reason, Outcome msg s (s₁.send_logout reason).disconnect.count_received :=
    fun reason => .dropped (h.refuses.trans (refuses_logout reason s₁).count)
  have htarget : s₁.next_target = s.next_target := by rw [next_target, next_target, hstore]
  rw [handle_sequence_reset]
  split
  · rename_i hfill
    split
    · exact hlogout _
    split
    · exact .dropped (h.refuses.trans (talks_request_gap _ s₁).refuses)
    split
    · exact .dropped h.refuses.count
    rcases hnew : msg.get_int tags.NewSeqNo with _ | v
    · exact hlogout _
    · rw [Option.map_some]
      dsimp only
      split
      · exact hlogout _
      · rename_i hmore
        exact .renumbered v _ htype hnew h (.inl ⟨hfill, by omega⟩)
  · rename_i hreset
    rcases hnew : msg.get_int tags.NewSeqNo with _ | v
    · exact hlogout _
    · dsimp only
      split
      · exact hlogout _
      · exact .renumbered v _ htype hnew h (.inr ⟨hreset, by omega⟩)

/-- **What a message of the counterparty leads to.** -/
theorem process_message_outcome (msg : Message) (s : Session σ) :
    Outcome msg s (s.process_message msg) ∧
      (s.identity_error msg ≠ none → Refuses s (s.process_message msg)) := by
  have hnote : Talks SendsAdmin s (s.note_inbound msg) := talks_note_inbound msg s
  have hidentity : (s.note_inbound msg).identity_error msg = s.identity_error msg := rfl
  rw [process_message]
  rw [hidentity]
  split
  · rename_i reason _
    have hrefused := hnote.refuses.trans (refuses_logout reason _)
    exact ⟨.dropped hrefused, fun _ => hrefused⟩
  rename_i hnone
  refine ⟨?_, fun h => absurd hnone h⟩
  rw [process_identified]
  split
  · rename_i hhas
    exact reject_untyped_outcome (by simpa using hhas) hnote rfl
  rename_i hhas
  have hhas : msg.has tags.MsgType = true := by simpa using hhas
  split
  · rename_i htype
    exact handle_sequence_reset_outcome htype hnote rfl
  rename_i htype
  have hhandled : ∀ s' : Session σ, Handled msg s' (s'.handle msg) := handled_handle htype
  split
  · rename_i hstate
    exact .dispatched false hhas htype hnote hstate (hhandled _)
  rename_i hstate
  rcases validate_seq_num_cases msg (s.note_inbound msg) with ⟨hval, hseq⟩ | ⟨hval, hrefused⟩
  · rw [hval]
    dsimp only
    rw [if_pos rfl]
    refine .dispatched true hhas htype (hnote.trans (talks_clear_gap _)) ⟨?_, hseq⟩ (hhandled _)
    exact Bool.eq_false_iff.mpr hstate
  · dsimp only
    rw [if_neg (by rw [hval]; exact Bool.false_ne_true)]
    exact .dropped (hnote.refuses.trans hrefused)

end Session

/-! ## Calls and runs -/

/-- What happens to a session: its parser is fed or asked, a message is taken from it, or
one of the public functions is called. -/
inductive Call where
  | buffer (parser : StreamParser)
  | message (msg : Message)
  | timer
  | send (msg : Message)
  | send_raw (raw : Bytes)
  | logon
  | logout (reason : Bytes)
  | disconnect
  | reset
  | transport_connected

namespace Session

variable {σ : Type} [IMessageStore σ]

/-- One call. A message is what the body of the loop of `on_data` does with it. -/
def call (s : Session σ) : Call → Session σ
  | .buffer parser => { s with parser := parser }
  | .message msg => if s.state = .Disconnected then s else s.process_message msg
  | .timer => s.on_timer
  | .send msg => (s.send msg).2
  | .send_raw raw => s.send_raw raw
  | .logon => s.logon.2
  | .logout reason => (s.logout reason).2
  | .disconnect => s.disconnect
  | .reset => s.reset.2
  | .transport_connected => s.on_transport_connected

/-- The session after a sequence of calls. -/
def run (s : Session σ) (calls : List Call) : Session σ := calls.foldl call s

theorem run_append (s : Session σ) (calls more : List Call) :
    s.run (calls ++ more) = (s.run calls).run more := List.foldl_append

theorem run_concat (s : Session σ) (calls : List Call) (c : Call) :
    s.run (calls ++ [c]) = (s.run calls).call c := s.run_append calls [c]

/-- The calls of which `on_data` consists. -/
def Inbound : Call → Prop
  | .buffer _ => True
  | .message _ => True
  | .disconnect => True
  | _ => False

theorem drain_messages_calls (n : ℕ) (s : Session σ) :
    ∃ calls, (∀ c ∈ calls, Inbound c) ∧ drain_messages n s = s.run calls := by
  induction n generalizing s with
  | zero => exact ⟨[], by simp, rfl⟩
  | succ n ih =>
    rcases hnext : s.parser.next with ⟨parser, _ | msg⟩
    · refine ⟨[], by simp, ?_⟩
      rw [drain_messages, hnext]
      rfl
    · by_cases hdown : s.state = .Disconnected
      · refine ⟨[.buffer parser], by simp [Inbound], ?_⟩
        rw [drain_messages, hnext]
        dsimp only
        rw [if_pos hdown]
        rfl
      · obtain ⟨calls, hinbound, hrun⟩ := ih ({ s with parser := parser }.process_message msg)
        refine ⟨.buffer parser :: .message msg :: calls, ?_, ?_⟩
        · intro c hc
          rcases List.mem_cons.mp hc with rfl | hc
          · trivial
          · rcases List.mem_cons.mp hc with rfl | hc
            · trivial
            · exact hinbound c hc
        · rw [drain_messages, hnext]
          dsimp only
          rw [if_neg hdown, hrun]
          have hcall : { s with parser := parser }.call (.message msg) =
              { s with parser := parser }.process_message msg := if_neg hdown
          show _ = ({ s with parser := parser }.call (.message msg)).run calls
          rw [hcall]

/-- **`on_data` is a sequence of calls.** -/
theorem on_data_calls (data : Bytes) (s : Session σ) :
    ∃ calls, (∀ c ∈ calls, Inbound c) ∧ s.on_data data = s.run calls := by
  rw [on_data]
  dsimp only
  split
  · refine ⟨[.buffer (s.parser.feed data), .disconnect], ?_, rfl⟩
    simp [Inbound]
  · obtain ⟨calls, hinbound, hrun⟩ := drain_messages_calls (s.parser.feed data).pending.length
      { s with parser := s.parser.feed data }
    refine ⟨.buffer (s.parser.feed data) :: calls, ?_, hrun⟩
    intro c hc
    rcases List.mem_cons.mp hc with rfl | hc
    · trivial
    · exact hinbound c hc

/-! ### What one call can do -/

theorem refuses_probe_peer (now hb_ms : ℤ) (s : Session σ) :
    Refuses s (s.probe_peer now hb_ms).2 := by
  have hsame : Talks SendsAdmin s s := .of_eq rfl rfl rfl
  rw [probe_peer]
  split
  · dsimp only
    split
    · exact (talks_send_test_request s).refuses
    · exact hsame.refuses
  split
  · have htold : Talks SendsAdmin s { s with io := (s.io.emit .on_heartbeat_timeout).tick } :=
      .of_adds rfl rfl (Outside.adds_emit s.io (.inl rfl))
    dsimp only
    split
    · exact htold.refuses
    · exact htold.refuses.trans (refuses_disconnect _)
  · exact hsame.refuses

theorem refuses_retry_gap (now hb_ms : ℤ) (s : Session σ) : Refuses s (s.retry_gap now hb_ms) := by
  rw [retry_gap]
  split
  · dsimp only
    have hcount : Talks SendsAdmin s
        { s with gap := { s.gap with rr_attempts := s.gap.rr_attempts + 1 } } := .of_eq rfl rfl rfl
    split
    · exact (hcount.trans (talks_report _ _)).refuses.trans (refuses_disconnect _)
    · have harm : Talks SendsAdmin s
          { s with gap := { s.gap with rr_attempts := s.gap.rr_attempts + 1, rr_last := now } } :=
        .of_eq rfl rfl rfl
      exact (harm.trans (talks_send_resend_request _ _ _)).refuses
  · have hsame : Talks SendsAdmin s s := .of_eq rfl rfl rfl
    exact hsame.refuses

/-- **A tick of the timer** sends administrative frames or ends the connection. -/
theorem refuses_on_timer (s : Session σ) : Refuses s s.on_timer := by
  have htick : Talks SendsAdmin s { s with io := s.io.tick } := .of_eq rfl rfl rfl
  have hdrain : ∀ s' : Session σ, Refuses s s' →
      Refuses s { s' with io := s'.io.drain_pending_errors } := by
    intro s' h
    have htalks : Talks SendsAdmin s' { s' with io := s'.io.drain_pending_errors } :=
      .of_adds rfl rfl (Outside.adds_drain_pending_errors s'.io)
    exact h.trans htalks.refuses
  rw [on_timer]
  apply hdrain
  generalize { s with io := s.io.tick } = s₁ at htick
  split
  · have hbeat : Talks SendsAdmin s (if s₁.heartbeat_sec * 1000 ≤ s.io.clock_now - s₁.last_send_time
        then s₁.send_heartbeat [] else s₁) := by
      split
      · exact htick.trans (talks_send_heartbeat _ _)
      · exact htick
    dsimp only
    generalize (if s₁.heartbeat_sec * 1000 ≤ s.io.clock_now - s₁.last_send_time
      then s₁.send_heartbeat [] else s₁) = s₂ at hbeat ⊢
    have hprobe := hbeat.refuses.trans
      (refuses_probe_peer s.io.clock_now (s₁.heartbeat_sec * 1000) s₂)
    split
    · exact hprobe
    · exact hprobe.trans (refuses_retry_gap _ _ _)
  · split
    · exact htick.refuses.trans (refuses_disconnect _)
    · exact htick.refuses
  · split
    · exact (htick.trans (talks_notify_logout _ _)).refuses.trans (refuses_disconnect _)
    · split
      · exact (htick.trans (talks_send_heartbeat _ _)).refuses
      · exact htick.refuses
  · exact htick.refuses

/-- What a call can lead to. -/
inductive CallOutcome (s : Session σ) : Call → Session σ → Prop where
  /-- Nothing but administrative frames and the end of the connection. -/
  | refused {c : Call} {s' : Session σ} (h : Refuses s s') : CallOutcome s c s'
  | message {msg : Message} {s' : Session σ} (hup : s.state ≠ .Disconnected)
      (hidentity : s.identity_error msg = none) (h : Outcome msg s s') :
      CallOutcome s (.message msg) s'
  | sent {msg : Message} {s' : Session σ} (hstate : s.state = .Active) (h : Talks SendsAny s s') :
      CallOutcome s (.send msg) s'
  | raw {raw : Bytes} {s' : Session σ} (h : Talks (Sends fun origin _ => origin = .raw) s s') :
      CallOutcome s (.send_raw raw) s'
  | logging_on {s' : Session σ} (hbefore : s.state = .NotConnected ∨ s.state = .Disconnected)
      (h : Handshakes False (s.cfg.reset_on_logon = true) s s')
      (hstate : s'.state = s.handshake_state ∨ s'.state = s.state) : CallOutcome s .logon s'
  | logging_out {reason : Bytes} {s' : Session σ} (h : Footprint SendsAdmin SenderStep s s')
      (hbefore : s.state = .Active ∨ s.state = .LogonSent ∨ s.state = .WaitingLogon)
      (hstate : s'.state = .LogoutSent) : CallOutcome s (.logout reason) s'
  | rearmed {s' : Session σ} (h : Footprint (fun e => e = .store_reset)
        (fun st st' => st' = (IMessageStore.reset st).2) s s')
      (hbefore : s.state = .NotConnected ∨ s.state = .WaitingLogon ∨ s.state = .Disconnected)
      (hstate : s'.state = .NotConnected) : CallOutcome s .reset s'
  | connected {s' : Session σ} (h : Handshakes False (s.cfg.reset_on_logon = true) s s')
      (hstate : s'.state ≠ .Active ∧ s'.state ≠ .LogoutSent) : CallOutcome s .transport_connected s'

theorem logon_outcome (s : Session σ) : CallOutcome s .logon s.logon.2 := by
  rw [logon]
  split
  · have hsame : Talks SendsAdmin s s := .of_eq rfl rfl rfl
    exact .refused hsame.refuses
  · rename_i hfree
    obtain ⟨hfoot, hcases⟩ := send_logon_cases False s
    refine .logging_on (by tauto) hfoot ?_
    rcases hcases with ⟨-, hhand, -⟩ | ⟨-, hsame⟩
    · exact .inl hhand
    · exact .inr hsame

/-- What is left of the last connection when a new one is made. -/
def fresh_connection (s : Session σ) : Session σ :=
  { s with
    parser := s.parser.reset
    test_req_pending := false
    pending_test_req_id := []
    gap := .closed
    logout_notified := false
    last_send_time := s.io.clock_now
    last_recv_time := s.io.clock_now
    logon_sent_time := s.io.clock_now
    logout_sent_time := s.io.clock_now
    io := s.io.tick }

/-- The state from which an initiator logs on. -/
def normalised (s : Session σ) : Session σ :=
  { s.fresh_connection with state := if s.state = .NotConnected then s.state else .Disconnected }

theorem on_transport_connected_eq (s : Session σ) :
    s.on_transport_connected =
      if s.cfg.initiator then
        match s.normalised.logon.1 with
        | .ok _ => s.normalised.logon.2
        | .error e => s.normalised.logon.2.report (ascii "reconnect: logon failed: " ++ e.message)
      else { s.fresh_connection with state := .WaitingLogon } := rfl

theorem transport_connected_outcome (s : Session σ) :
    CallOutcome s .transport_connected s.on_transport_connected := by
  rw [on_transport_connected_eq]
  split
  · have hbefore : s.normalised.state ≠ .Active ∧ s.normalised.state ≠ .LogoutSent := by
      show (if _ then _ else _) ≠ _ ∧ (if _ then _ else _) ≠ _
      split
      · rename_i hidle
        rw [hidle]
        decide
      · decide
    have hlogon : Handshakes False (s.cfg.reset_on_logon = true) s s.normalised.logon.2 ∧
        s.normalised.logon.2.state ≠ .Active ∧ s.normalised.logon.2.state ≠ .LogoutSent := by
      have hfresh : Handshakes False (s.cfg.reset_on_logon = true) s s.normalised :=
        Footprint.of_eq rfl rfl
      rw [logon]
      split
      · exact ⟨hfresh, hbefore⟩
      · obtain ⟨hfoot, hcases⟩ := send_logon_cases False s.normalised
        refine ⟨hfresh.trans hfoot, ?_⟩
        rcases hcases with ⟨-, hhand, -⟩ | ⟨-, hsame⟩
        · rw [hhand]
          exact handshake_state_ne _
        · rw [hsame]
          exact hbefore
    split
    · exact .connected hlogon.1 hlogon.2
    · exact .connected (hlogon.1.trans (talks_report _ _).handshakes) hlogon.2
  · exact .connected (Footprint.of_eq rfl rfl) ⟨by simp, by simp⟩

theorem logout_outcome (reason : Bytes) (s : Session σ) :
    CallOutcome s (.logout reason) (s.logout reason).2 := by
  rw [logout]
  split
  · have hsame : Talks SendsAdmin s s := .of_eq rfl rfl rfl
    exact .refused hsame.refuses
  · rename_i hopen
    have hbefore : s.state = .Active ∨ s.state = .LogonSent ∨ s.state = .WaitingLogon := by tauto
    refine .logging_out (footprint_send_logout reason s) hbefore ?_
    rw [state_send_logout, if_neg]
    rcases hbefore with h | h | h
    · rw [h]; decide
    · rw [h]; decide
    · rw [h]; decide

theorem reset_outcome (s : Session σ) : CallOutcome s .reset s.reset.2 := by
  rw [reset]
  split
  · have hsame : Talks SendsAdmin s s := .of_eq rfl rfl rfl
    exact .refused hsame.refuses
  · rename_i hidle
    refine .rearmed ⟨.single rfl, Outside.adds_emit s.io (.inr rfl)⟩ ?_ rfl
    cases hst : s.state with
    | NotConnected => exact .inl rfl
    | WaitingLogon => exact .inr (.inl rfl)
    | Disconnected => exact .inr (.inr rfl)
    | LogonSent => exact absurd (.inr (.inl hst)) hidle
    | Active => exact absurd (.inl hst) hidle
    | LogoutSent => exact absurd (.inr (.inr hst)) hidle

/-- **What a call can lead to.** -/
theorem call_outcome (s : Session σ) (c : Call) : CallOutcome s c (s.call c) := by
  have hsame : Talks SendsAdmin s s := .of_eq rfl rfl rfl
  cases c with
  | buffer parser =>
    have hparser : Talks SendsAdmin s { s with parser := parser } := .of_eq rfl rfl rfl
    exact .refused hparser.refuses
  | message msg =>
    rw [call]
    split
    · exact .refused hsame.refuses
    · rename_i hup
      obtain ⟨houtcome, hforeign⟩ := process_message_outcome msg s
      rcases hidentity : s.identity_error msg with _ | reason
      · exact .message hup hidentity houtcome
      · exact .refused (hforeign (by rw [hidentity]; simp))
  | timer => exact .refused (refuses_on_timer s)
  | send msg =>
    rw [call, send]
    split
    · exact .refused hsame.refuses
    · rename_i hactive
      refine .sent (not_not.mp hactive) ((talks_send_message msg s).mono ?_)
      rintro e ⟨origin, w, he, _⟩
      exact ⟨origin, w, he, trivial⟩
  | send_raw raw => exact .raw (talks_send_raw raw s)
  | logon => exact logon_outcome s
  | logout reason => exact logout_outcome reason s
  | disconnect => exact .refused (refuses_disconnect s)
  | reset => exact reset_outcome s
  | transport_connected => exact transport_connected_outcome s

end Session

end FixEngine
