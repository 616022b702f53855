/-
`SessionFsm.lean` -- the state machine of a session, and what it lets out.

Every call is one of the outcomes of `SessionStep.lean`, so each fact about the
states is a walk through that list: how Active is entered, with exactly one
`on_logon`, how LogoutSent is left, and that a session which is disconnected stays
so until it is asked to connect again. The last part is about application frames.
They go out of an established session only, unless a ResendRequest is answered
before the handshake is complete.
-/
import FixEngine.SessionStep
import FixEngine.Numbering

set_option autoImplicit false

namespace FixEngine

open IMessageStore

/-! ## Entering Active -/

namespace Outside

theorem Adds.count_eq {E : Event → Prop} {o o' : Outside} (h : o.Adds E o') {e : Event}
    (hmajor : e.minor = false) (hE : ¬E e) : o'.events.count e = o.events.count e := by
  obtain ⟨more, hevents, hmore⟩ := h
  have hnone : more.count e = 0 := by
    apply List.count_eq_zero_of_not_mem
    intro hmem
    rcases hmore e hmem with hminor | he
    · rw [hmajor] at hminor
      simp at hminor
    · exact hE he
  rw [hevents, List.count_append, hnone, Nat.add_zero]

end Outside

namespace Session

variable {σ : Type}

/-- How often `on_logon` was called. -/
def logons (s : Session σ) : ℕ := s.io.events.count .on_logon

theorem not_sends_on_logon {F : Origin → Bytes → Prop} : ¬Sends F .on_logon := by
  rintro ⟨origin, w, he, _⟩
  simp at he

theorem Footprint.logons {E : Event → Prop} {R : σ → σ → Prop} {s s' : Session σ}
    (h : Footprint E R s s') (hE : ¬E .on_logon) : s'.logons = s.logons :=
  h.events.count_eq rfl hE

theorem logons_guarded (s : Session σ) : (s.guarded .on_logon).logons = s.logons + 1 := by
  have hemit : (s.io.emit .on_logon).events.count .on_logon = s.logons + 1 := by
    show (s.io.events ++ [Event.on_logon]).count .on_logon = _
    rw [List.count_append, List.count_singleton_self]
    rfl
  show (s.io.guarded .on_logon).events.count .on_logon = _
  rw [Outside.guarded]
  split
  · exact hemit
  · -- the report of an exception is no second call
    rename_i what _
    have hreport : Outside.Adds (fun _ => False) (s.io.emit .on_logon).tick
        ((s.io.emit .on_logon).tick.report what) := Outside.adds_report what _
    rw [hreport.count_eq rfl id]
    exact hemit

theorem wire_trace_of_adds {s s' : Session σ} (h : s.io.Adds (fun _ => False) s'.io) :
    s'.wire_trace = s.wire_trace := by
  obtain ⟨more, hevents, hmore⟩ := h
  have hnone : more.filterMap wire_of = [] := by
    rw [List.filterMap_eq_nil_iff]
    intro e he
    rcases hmore e he with hminor | hfalse
    · cases e with
      | do_send origin w => exact absurd hminor Bool.false_ne_true
      | _ => rfl
    · exact hfalse.elim
  rw [wire_trace, hevents, List.filterMap_append, hnone, List.append_nil]
  rfl

/-- How a message moves the state: it stays or the connection ends, or the handshake
completes. -/
inductive StateMove (s : Session σ) (msg : Message) (s' : Session σ) : Prop where
  | stays (h : s'.state = s.state ∨ s'.state = .Disconnected) (hlogons : s'.logons = s.logons)
  | enters (hwait : s.state = .WaitingLogon ∨ s.state = .LogonSent) (hlogon : ValidLogon msg)
      (hdup : msg.duplicate_header = false) (h : s'.state = .Active)
      (hlogons : s'.logons = s.logons + 1)

theorem StateMove.around {msg : Message} {s s₁ s₂ s₃ : Session σ} (h : StateMove s₁ msg s₂)
    (hbefore : s₁.state = s.state ∧ s₁.logons = s.logons)
    (hafter : s₃.state = s₂.state ∧ s₃.logons = s₂.logons) : StateMove s msg s₃ := by
  cases h with
  | stays hstate hlogons =>
    refine .stays ?_ (hafter.2.trans (hlogons.trans hbefore.2))
    rw [hafter.1, ← hbefore.1]
    exact hstate
  | enters hwait hlogon hdup hstate hlogons =>
    rw [hbefore.1] at hwait
    exact .enters hwait hlogon hdup (hafter.1.trans hstate) (by rw [hafter.2, hlogons, hbefore.2])

variable [IMessageStore σ]

theorem Refuses.stateMove {s s' : Session σ} (h : Refuses s s') (msg : Message) :
    StateMove s msg s' :=
  .stays h.state (h.footprint.logons not_sends_on_logon)

theorem Handled.stateMove {msg : Message} {s s' : Session σ} (h : Handled msg s s') :
    StateMove s msg s' := by
  have hnone : ∀ {reset : Prop}, ¬LogonEvent reset .on_logon := by
    rintro reset (hsends | ⟨he, _⟩)
    · exact not_sends_on_logon hsends
    · simp at he
  cases h with
  | refused h => exact h.stateMove msg
  | answered h _ _ => exact .stays (.inl h.state) (h.footprint.logons not_sends_on_logon)
  | delivered hstate =>
    have htold : Talks (fun e => e = .on_message msg) s (s.guarded (.on_message msg)) :=
      talks_guarded s (.inr rfl)
    exact .stays (.inl rfl) (htold.footprint.logons (by simp))
  | unanswered hwait hlogon hdup h hstate => exact .stays (.inl hstate) (h.logons hnone)
  | entered hwait hlogon hdup h hstate =>
    refine .enters hwait hlogon hdup hstate ?_
    rw [logons_guarded, h.logons hnone]

/-- **How a message moves the state.** -/
theorem Outcome.stateMove {msg : Message} {s s' : Session σ} (h : Outcome msg s s') :
    StateMove s msg s' := by
  cases h with
  | dropped h => exact h.stateMove msg
  | @renumbered s₁ v what htype hnew h hmode =>
    have hset : Footprint (fun _ => False) AnyStep s₁ (s₁.set_target (to_u64 v) what) :=
      footprint_set_target _ _ _
    refine .stays (.inl h.state) ?_
    exact (hset.logons id).trans (h.footprint.logons not_sends_on_logon)
  | @untyped s₁ s' what hhas hnumbered hseq h h' =>
    have hadvance : Footprint (fun _ => False) AnyStep s₁ (s₁.advance_target msg what) :=
      footprint_advance_target _ _ _
    refine .stays (.inl (h'.state.trans h.state)) ?_
    rw [h'.footprint.logons not_sends_on_logon, hadvance.logons id,
      h.footprint.logons not_sends_on_logon]
  | @dispatched s₁ s₂ validated hhas htype h hseq hhandled =>
    have hconsume : Footprint (fun _ => False) AnyStep s₂
        (s₂.consume_inbound msg validated).count_received := (footprint_consume msg validated s₂).1
    exact hhandled.stateMove.around ⟨h.state, h.footprint.logons not_sends_on_logon⟩
      ⟨(footprint_consume (E := fun _ => False) msg validated s₂).2, hconsume.logons id⟩

/-- The call makes the session Active. -/
def Enters (s : Session σ) (c : Call) : Prop := s.state ≠ .Active ∧ (s.call c).state = .Active

/-- A Logon of the counterparty that can complete a handshake. -/
def Logon (s : Session σ) (c : Call) : Prop :=
  ∃ msg, c = .message msg ∧ s.identity_error msg = none ∧ ValidLogon msg ∧
    msg.duplicate_header = false

/-- How a call can move the state. -/
inductive CallMove (s : Session σ) (c : Call) : Prop where
  | stays (h : (s.call c).state = s.state ∨ (s.call c).state = .Disconnected)
      (hlogons : (s.call c).logons = s.logons)
  | enters (hwait : s.state = .WaitingLogon ∨ s.state = .LogonSent) (hlogon : Logon s c)
      (h : (s.call c).state = .Active) (hlogons : (s.call c).logons = s.logons + 1)
  | logs_on (hcall : c = .logon) (h : (s.call c).state = s.handshake_state)
      (hbefore : s.state = .NotConnected ∨ s.state = .Disconnected)
      (hlogons : (s.call c).logons = s.logons)
  | logs_out (h : (s.call c).state = .LogoutSent) (hlogons : (s.call c).logons = s.logons)
  | rearms (hbefore : s.state ≠ .LogoutSent) (h : (s.call c).state = .NotConnected)
      (hlogons : (s.call c).logons = s.logons)
  | connects (hcall : c = .transport_connected)
      (h : (s.call c).state ≠ .Active ∧ (s.call c).state ≠ .LogoutSent)
      (hlogons : (s.call c).logons = s.logons)

/-- **The transitions of a session.** -/
theorem call_move (s : Session σ) (c : Call) : CallMove s c := by
  have hnone : ∀ {reset : Prop}, ¬LogonEvent reset .on_logon := by
    rintro reset (hsends | ⟨he, _⟩)
    · exact not_sends_on_logon hsends
    · simp at he
  have houtcome := call_outcome s c
  generalize hs' : s.call c = s' at houtcome
  cases houtcome with
  | refused h =>
    exact .stays (hs' ▸ h.state) (hs' ▸ h.footprint.logons not_sends_on_logon)
  | @message msg s' hup hidentity h =>
    cases h.stateMove with
    | stays hstate hlogons => exact .stays (hs' ▸ hstate) (hs' ▸ hlogons)
    | enters hwait hlogon hdup hstate hlogons =>
      exact .enters hwait ⟨msg, rfl, hidentity, hlogon, hdup⟩ (hs' ▸ hstate) (hs' ▸ hlogons)
  | sent hstate h =>
    exact .stays (.inl (hs' ▸ h.state)) (hs' ▸ h.footprint.logons not_sends_on_logon)
  | raw h => exact .stays (.inl (hs' ▸ h.state)) (hs' ▸ h.footprint.logons not_sends_on_logon)
  | logging_on hbefore h hstate =>
    have hlogons := h.logons hnone
    rcases hstate with hhand | hsame
    · exact .logs_on rfl (hs' ▸ hhand) hbefore (hs' ▸ hlogons)
    · exact .stays (.inl (hs' ▸ hsame)) (hs' ▸ hlogons)
  | logging_out h hbefore hstate =>
    exact .logs_out (hs' ▸ hstate) (hs' ▸ h.logons not_sends_on_logon)
  | rearmed h hbefore hstate =>
    refine .rearms ?_ (hs' ▸ hstate) (hs' ▸ h.logons (by simp))
    rcases hbefore with h | h | h <;> rw [h] <;> decide
  | connected h hstate => exact .connects rfl (hs' ▸ hstate) (hs' ▸ h.logons hnone)

instance (s : Session σ) (c : Call) : Decidable (Enters s c) := inferInstanceAs (Decidable (_ ∧ _))

variable {s : Session σ}

theorem Enters.by_logon {c : Call} (h : Enters s c) :
    (s.state = .WaitingLogon ∨ s.state = .LogonSent) ∧ Logon s c := by
  obtain ⟨hbefore, hafter⟩ := h
  cases call_move s c with
  | stays hstate _ =>
    rw [hafter] at hstate
    rcases hstate with hsame | hdown
    · exact absurd hsame.symm hbefore
    · simp at hdown
  | enters hwait hlogon _ _ => exact ⟨hwait, hlogon⟩
  | logs_on _ hstate _ _ => exact absurd (hstate.symm.trans hafter) (handshake_state_ne s).1
  | logs_out hstate _ => exact absurd (hafter.symm.trans hstate) (by simp)
  | rearms _ hstate _ => exact absurd (hafter.symm.trans hstate) (by simp)
  | connects _ hstate _ => exact absurd hafter hstate.1

theorem logons_call (s : Session σ) (c : Call) :
    (s.call c).logons = s.logons + if Enters s c then 1 else 0 := by
  have hnot : ∀ {st : SessionState}, (s.call c).state = st → st ≠ .Active →
      (s.call c).logons = s.logons → (s.call c).logons = s.logons + if Enters s c then 1
      else 0 := by
    intro st hstate hne hlogons
    rw [if_neg fun henters => hne (hstate.symm.trans henters.2), hlogons, Nat.add_zero]
  cases call_move s c with
  | stays hstate hlogons =>
    rw [if_neg, hlogons, Nat.add_zero]
    rintro ⟨hbefore, hafter⟩
    rw [hafter] at hstate
    rcases hstate with hsame | hdown
    · exact hbefore hsame.symm
    · simp at hdown
  | enters hwait _ hstate hlogons =>
    rw [if_pos, hlogons]
    refine ⟨?_, hstate⟩
    rcases hwait with h | h <;> rw [h] <;> decide
  | logs_on _ hstate _ hlogons => exact hnot hstate (handshake_state_ne s).1 hlogons
  | logs_out hstate hlogons => exact hnot hstate (by decide) hlogons
  | rearms _ hstate hlogons => exact hnot hstate (by decide) hlogons
  | connects _ hstate hlogons => exact hnot rfl hstate.1 hlogons

/-- No handshake is under way. -/
def Settled (s : Session σ) : Prop := s.state ≠ .WaitingLogon ∧ s.state ≠ .LogonSent

theorem Settled.call (h : Settled s) {c : Call} (hlogon : c ≠ .logon)
    (hconnect : c ≠ .transport_connected) : Settled (s.call c) := by
  have hstate : ∀ {st : SessionState}, (s.call c).state = st → st ≠ .WaitingLogon ∧
      st ≠ .LogonSent →
      Settled (s.call c) := by
    intro st hst hne
    rw [Settled, hst]
    exact hne
  cases call_move s c with
  | stays hst _ =>
    rcases hst with hsame | hdown
    · exact hstate hsame h
    · exact hstate hdown (by decide)
  | enters hwait _ _ _ =>
    rcases hwait with hw | hw
    · exact absurd hw h.1
    · exact absurd hw h.2
  | logs_on hcall _ _ _ => exact absurd hcall hlogon
  | logs_out hst _ => exact hstate hst (by decide)
  | rearms _ hst _ => exact hstate hst (by decide)
  | connects hcall _ _ => exact absurd hcall hconnect

theorem Settled.run (h : Settled s) {calls : List Call}
    (hcalls : ∀ c ∈ calls, c ≠ .logon ∧ c ≠ .transport_connected) : Settled (s.run calls) := by
  induction calls generalizing s with
  | nil => exact h
  | cons c calls ih =>
    obtain ⟨hlogon, hconnect⟩ := hcalls c List.mem_cons_self
    exact ih (h.call hlogon hconnect) fun c' hc' => hcalls c' (List.mem_cons_of_mem _ hc')

theorem Enters.restarted {c c' : Call} {calls : List Call} (h : Enters s c)
    (h' : Enters ((s.call c).run calls) c') :
    ∃ d ∈ calls, d = .logon ∨ d = .transport_connected := by
  by_contra hnone
  have hcalls : ∀ d ∈ calls, d ≠ .logon ∧ d ≠ .transport_connected := by
    intro d hd
    constructor
    · exact fun hlogon => hnone ⟨d, hd, .inl hlogon⟩
    · exact fun hconnect => hnone ⟨d, hd, .inr hconnect⟩
  have hactive : Settled (s.call c) := by
    rw [Settled, h.2]
    decide
  have hsettled := hactive.run hcalls
  rcases h'.by_logon.1 with hwait | hwait
  · exact hsettled.1 hwait
  · exact hsettled.2 hwait

theorem logoutSent_call (h : s.state = .LogoutSent) (c : Call) :
    (s.call c).state = .LogoutSent ∨ (s.call c).state = .Disconnected ∨
    c = .transport_connected := by
  cases call_move s c with
  | stays hstate _ =>
    rw [h] at hstate
    exact hstate.imp id .inl
  | enters hwait _ _ _ => rcases hwait with hw | hw <;> exact absurd (h.symm.trans hw) (by simp)
  | logs_on _ _ hbefore _ =>
    rcases hbefore with hb | hb <;> exact absurd (h.symm.trans hb) (by simp)
  | logs_out hstate _ => exact .inl hstate
  | rearms hbefore _ _ => exact absurd h hbefore
  | connects hcall _ _ => exact .inr (.inr hcall)

/-! ## A disconnected session -/

/-- What may still be tried with a session that is disconnected. -/
inductive IdleCall where
  | data (bytes : Bytes)
  | timer
  | send (msg : Message)
  | logout (reason : Bytes)

def idle_call (s : Session σ) : IdleCall → Session σ
  | .data bytes => s.on_data bytes
  | .timer => s.on_timer
  | .send msg => (s.send msg).2
  | .logout reason => (s.logout reason).2

/-- Neither the state nor the store has changed, and no frame went out. -/
structure Inert (s s' : Session σ) : Prop where
  state : s'.state = s.state
  store : s'.store = s.store
  frames : s'.wire_trace = s.wire_trace

theorem drain_messages_disconnected (h : s.state = .Disconnected) (n : ℕ) :
    ∃ parser, drain_messages n s = { s with parser := parser } := by
  cases n with
  | zero => exact ⟨s.parser, rfl⟩
  | succ n =>
    rcases hnext : s.parser.next with ⟨parser, _ | msg⟩
    · refine ⟨s.parser, ?_⟩
      rw [drain_messages, hnext]
    · refine ⟨parser, ?_⟩
      rw [drain_messages, hnext]
      exact if_pos h

theorem inert_idle_call (h : s.state = .Disconnected) (c : IdleCall) :
    Inert s (s.idle_call c) := by
  cases c with
  | data bytes =>
    rw [idle_call, on_data]
    dsimp only
    split
    · exact ⟨h.symm, rfl, wire_trace_of_adds (Outside.adds_emit s.io (.inl rfl))⟩
    · obtain ⟨parser, hdrained⟩ := drain_messages_disconnected
        (s := { s with parser := s.parser.feed bytes }) h (s.parser.feed bytes).pending.length
      rw [hdrained]
      exact ⟨rfl, rfl, rfl⟩
  | timer =>
    have hidle : s.on_timer = { s with io := s.io.tick.drain_pending_errors } := by
      rw [on_timer]
      dsimp only
      rw [h]
    rw [idle_call, hidle]
    have htick : s.io.Adds (fun _ => False) s.io.tick := .of_eq rfl
    exact ⟨rfl, rfl, wire_trace_of_adds (htick.trans (Outside.adds_drain_pending_errors _))⟩
  | send msg =>
    rw [idle_call, send, if_pos (by rw [h]; decide)]
    exact ⟨rfl, rfl, rfl⟩
  | logout reason =>
    rw [idle_call, logout, if_pos (by rw [h]; decide)]
    exact ⟨rfl, rfl, rfl⟩

/-- **A disconnected session stays as it is.** -/
theorem inert_idle_calls (h : s.state = .Disconnected) (calls : List IdleCall) :
    Inert s (calls.foldl idle_call s) := by
  induction calls generalizing s with
  | nil => exact ⟨rfl, rfl, rfl⟩
  | cons c calls ih =>
    have hfirst := inert_idle_call h c
    have hrest := ih (hfirst.state.trans h)
    exact ⟨hrest.state.trans hfirst.state, hrest.store.trans hfirst.store,
      hrest.frames.trans hfirst.frames⟩

/-! ## Conformance -/

/-- **The state machine of a session.** In every state and for every call: Active is
entered from WaitingLogon or LogonSent only, by a valid Logon of the counterparty;
`on_logon` is called exactly once for it; a handshake is started between two entries;
LogoutSent is left for Disconnected or by a new connection; and while Disconnected
nothing changes and nothing is sent. -/
theorem fsm_conformance (s : Session σ) (c : Call) :
    (Enters s c → (s.state = .WaitingLogon ∨ s.state = .LogonSent) ∧ Logon s c) ∧
    (s.call c).logons = s.logons + (if Enters s c then 1 else 0) ∧
    (∀ calls c', Enters s c → Enters ((s.call c).run calls) c' →
      ∃ d ∈ calls, d = .logon ∨ d = .transport_connected) ∧
    (s.state = .LogoutSent → (s.call c).state = .LogoutSent ∨ (s.call c).state = .Disconnected ∨
      c = .transport_connected) ∧
    (s.state = .Disconnected → ∀ calls : List IdleCall, Inert s (calls.foldl idle_call s)) :=
  ⟨Enters.by_logon, logons_call s c, fun _ _ h h' => h.restarted h',
    fun h => logoutSent_call h c, inert_idle_calls⟩

end Session

/-- A message of the broker to the client of `quiet_config`. -/
def broker_message (msg_type : Bytes) (seq : ℕ) (more : List Field) : Message :=
  { fields := ⟨tags.BeginString, ascii "FIX.4.2"⟩ :: ⟨tags.MsgType, msg_type⟩ ::
      ⟨tags.SenderCompID, ascii "BROKER"⟩ :: ⟨tags.TargetCompID, ascii "CLIENT"⟩ ::
      ⟨tags.MsgSeqNum, Decimal.to_chars seq⟩ :: more }

def broker_logon : Message :=
  broker_message msg_types.Logon 1 [⟨tags.HeartBtInt, ascii "30"⟩]

/-- The broker's answer to the Logon of `quiet_session`. -/
theorem fsm_conformance_logon :
    (quiet_session.run [.logon]).Enters (.message broker_logon) ∧
    ((quiet_session.run [.logon]).state = .WaitingLogon ∨
      (quiet_session.run [.logon]).state = .LogonSent) ∧
    ((quiet_session.run [.logon]).call (.message broker_logon)).logons =
      (quiet_session.run [.logon]).logons + 1 := by
  have henters : (quiet_session.run [.logon]).Enters (.message broker_logon) := by decide
  obtain ⟨hentered, hlogons, -⟩ :=
    Session.fsm_conformance (quiet_session.run [.logon]) (.message broker_logon)
  rw [if_pos henters] at hlogons
  exact ⟨henters, (hentered henters).1, hlogons⟩

/-! ## Application frames -/

namespace Session

variable {σ : Type}

/-- The events of a step. -/
def new_events (s s' : Session σ) : List Event := s'.io.events.drop s.io.events.length

variable {e : Event}

theorem Footprint.of_new {E : Event → Prop} {R : σ → σ → Prop} {s s' : Session σ}
    (h : Footprint E R s s') (he : e ∈ new_events s s') : e.minor = true ∨ E e := by
  obtain ⟨more, hevents, hmore⟩ := h.events
  rw [new_events, hevents, List.drop_left] at he
  exact hmore e he

/-- A frame with an application MsgType that the session itself handed over. -/
def app_frame : Event → Bool
  | .do_send .raw _ => false
  | .do_send _ w => (frame_type w).any fun mt => !is_admin_msg mt
  | _ => false

def AppFrame (e : Event) : Prop := app_frame e = true

theorem AppFrame.do_send (h : AppFrame e) : ∃ origin w mt,
    e = .do_send origin w ∧ origin ≠ .raw ∧ frame_type w = some mt ∧ is_admin_msg mt = false := by
  cases e with
  | do_send origin w =>
    have hraw : origin ≠ .raw := by
      rintro rfl
      cases h
    have htype : (frame_type w).any (fun mt => !is_admin_msg mt) = true := by
      cases origin with
      | raw => exact absurd rfl hraw
      | _ => exact h
    rcases hmt : frame_type w with _ | mt
    · rw [hmt] at htype
      exact absurd htype Bool.false_ne_true
    · rw [hmt] at htype
      exact ⟨origin, w, mt, rfl, hraw, hmt, by simpa using htype⟩
  | _ => exact absurd h Bool.false_ne_true

theorem AppFrame.not_minor (h : AppFrame e) : e.minor ≠ true := by
  obtain ⟨origin, w, mt, rfl, _⟩ := h.do_send
  exact fun h => absurd h Bool.false_ne_true

theorem AppFrame.not_admin (h : AppFrame e) : ¬SendsAdmin e := by
  rintro ⟨origin', w', he, mt', htype', hadmin⟩
  obtain ⟨origin, w, mt, rfl, _, htype, happ⟩ := h.do_send
  obtain ⟨-, rfl⟩ := Event.do_send.inj he
  rw [htype] at htype'
  obtain rfl := Option.some.inj htype'
  rw [happ] at hadmin
  simp at hadmin

theorem AppFrame.not_logon (h : AppFrame e) {reset : Prop} : ¬LogonEvent reset e := by
  rintro (hadmin | ⟨rfl, _⟩)
  · exact h.not_admin hadmin
  · cases h

variable [IMessageStore σ]

theorem Outcome.app_frame {msg : Message} {s s' : Session σ} (h : Outcome msg s s')
    (he : e ∈ new_events s s') (happ : AppFrame e) :
    s'.state = s.state ∧ (s.state = .Active ∨
      msg.msg_type = msg_types.ResendRequest ∧ msg.duplicate_header = false) := by
  have hnone : ∀ {E : Event → Prop} {R : σ → σ → Prop}, Footprint E R s s' → E e := by
    intro E R hfoot
    rcases hfoot.of_new he with hminor | hin
    · exact absurd hminor happ.not_minor
    · exact hin
  cases h with
  | dropped h => exact absurd (hnone h.footprint) happ.not_admin
  | renumbered v what htype hnew h hmode =>
    have hset := h.anyStep.trans (footprint_set_target (to_u64 v) what _)
    have hall := hset.trans ((talks_clear_gap _).trans (talks_count_received _)).anyStep
    exact absurd (hnone hall) happ.not_admin
  | untyped what hhas hnumbered hseq h h' =>
    have hadvance := h.anyStep.trans (footprint_advance_target msg what _)
    exact absurd (hnone (hadvance.trans h'.anyStep)) happ.not_admin
  | @dispatched s₁ s₂ validated hhas htype h hseq hhandled =>
    obtain ⟨-, hstate⟩ := footprint_consume (E := SendsAdmin) msg validated s₂
    -- what goes out was put out by the handler
    have hwhole : ∀ {E : Event → Prop}, Footprint E AnyStep s₁ s₂ →
        (∀ e, SendsAdmin e → E e) → E e := by
      intro E hfoot hE
      have hfirst : Footprint E AnyStep s s₁ := (h.mono hE).anyStep
      exact hnone ((hfirst.trans hfoot).trans (footprint_consume msg validated s₂).1)
    cases hhandled with
    | refused h' =>
      have hany := h'.footprint.mono (fun _ h => h) fun _ _ => AnyStep.sender
      exact absurd (hwhole hany fun _ h => h) happ.not_admin
    | answered h' hwhy hdup =>
      refine ⟨hstate.trans (h'.state.trans h.state), ?_⟩
      rw [h.state] at hwhy
      exact hwhy.imp id fun hresend => ⟨hresend, hdup⟩
    | delivered hactive =>
      exact ⟨hstate.trans h.state, .inl (h.state.symm.trans hactive)⟩
    | unanswered _ _ _ h' _ =>
      have hany := h'.mono (fun _ h => h) fun _ _ => anyStep_of_logonStep
      exact absurd (hwhole hany fun _ h => .inl h) happ.not_logon
    | @entered s₂ hwait hlogon hdup h' _ =>
      have htold : Footprint (fun e => LogonEvent (s₁.cfg.reset_on_logon = true) e ∨ e = .on_logon)
          AnyStep s₂ (s₂.guarded .on_logon) := (talks_guarded s₂ (.inr (.inr rfl))).anyStep
      have hentered := (h'.mono (fun _ h => .inl h) fun _ _ => anyStep_of_logonStep).trans htold
      rcases hwhole hentered fun _ h => .inl (.inl h) with hlogon | rfl
      · exact absurd hlogon happ.not_logon
      · cases happ

/-- **Application frames of a call**: out of an Active session, or the answer to a
ResendRequest. -/
theorem call_app_frame (s : Session σ) (c : Call) (he : e ∈ new_events s (s.call c))
    (happ : AppFrame e) :
    (s.call c).state = s.state ∧ s.state ≠ .Disconnected ∧ (s.state = .Active ∨
      ∃ msg, c = .message msg ∧ s.identity_error msg = none ∧
        msg.msg_type = msg_types.ResendRequest ∧ msg.duplicate_header = false) := by
  have houtcome := call_outcome s c
  generalize s.call c = s' at houtcome he
  cases houtcome with
  | refused h =>
    rcases h.footprint.of_new he with hminor | hadmin
    · exact absurd hminor happ.not_minor
    · exact absurd hadmin happ.not_admin
  | @message msg s' hup hidentity h =>
    obtain ⟨hsame, hwhy⟩ := h.app_frame he happ
    exact ⟨hsame, hup, hwhy.imp id fun ⟨hresend, hdup⟩ => ⟨msg, rfl, hidentity, hresend, hdup⟩⟩
  | sent hstate h => exact ⟨h.state, by rw [hstate]; decide, .inl hstate⟩
  | raw h =>
    -- `send_raw` takes any bytes
    obtain ⟨origin, w, mt, rfl, hraw, _⟩ := happ.do_send
    rcases h.footprint.of_new he with hminor | ⟨origin', w', hsend, horigin⟩
    · cases hminor
    · obtain ⟨rfl, -⟩ := Event.do_send.inj hsend
      exact absurd horigin hraw
  | logging_on hbefore h hstate =>
    rcases h.of_new he with hminor | hlogon
    · exact absurd hminor happ.not_minor
    · exact absurd hlogon happ.not_logon
  | logging_out h hbefore hstate =>
    rcases h.of_new he with hminor | hadmin
    · exact absurd hminor happ.not_minor
    · exact absurd hadmin happ.not_admin
  | rearmed h hbefore hstate =>
    rcases h.of_new he with hminor | rfl
    · exact absurd hminor happ.not_minor
    · cases happ
  | connected h hstate =>
    rcases h.of_new he with hminor | hlogon
    · exact absurd hminor happ.not_minor
    · exact absurd hlogon happ.not_logon

/-- The handshake of the current connection was completed: the session is Active, or logging
out after it was. -/
inductive Greeted (s₀ : Session σ) : List Call → Prop where
  | active {calls : List Call} (h : (s₀.run calls).state = .Active) : Greeted s₀ calls
  | kept {calls : List Call} (c : Call) (hbefore : Greeted s₀ calls)
      (h : (s₀.run (calls ++ [c])).state = .LogoutSent) : Greeted s₀ (calls ++ [c])

/-- A ResendRequest of the counterparty that is answered without a completed handshake. -/
def EarlyResend (s₀ : Session σ) (calls : List Call) (c : Call) : Prop :=
  ∃ msg, c = .message msg ∧ (s₀.run calls).state ≠ .Disconnected ∧ ¬Greeted s₀ calls ∧
    (s₀.run calls).identity_error msg = none ∧ msg.msg_type = msg_types.ResendRequest ∧
    msg.duplicate_header = false

/-- The application frames of the last call of a run go to a peer that has logged on. -/
def AppFramesGreeted (s₀ : Session σ) (calls : List Call) (c : Call) : Prop :=
  ∀ e ∈ new_events (s₀.run calls) (s₀.run (calls ++ [c])), AppFrame e →
    ((s₀.run calls).state = .Active ∨ (s₀.run calls).state = .LogoutSent) ∧
      (s₀.run (calls ++ [c])).state = (s₀.run calls).state ∧ Greeted s₀ calls

theorem Greeted.state {s₀ : Session σ} {calls : List Call} (h : Greeted s₀ calls) :
    (s₀.run calls).state = .Active ∨ (s₀.run calls).state = .LogoutSent := by
  cases h with
  | active h => exact .inl h
  | kept c _ h => exact .inr h

/-- **No application traffic before logon**, as long as no ResendRequest is answered before
the handshake is complete. -/
theorem app_frames_greeted (s₀ : Session σ) (calls : List Call)
    (h : ∀ before c, before ++ [c] <+: calls → ¬EarlyResend s₀ before c) :
    ∀ before c, before ++ [c] <+: calls → AppFramesGreeted s₀ before c := by
  intro before c hstep e he happ
  rw [run_concat] at he
  obtain ⟨hsame, hup, hwhy⟩ := call_app_frame (s₀.run before) c he happ
  have hgreeted : Greeted s₀ before := by
    rcases hwhy with hactive | ⟨msg, rfl, hidentity, hresend, hdup⟩
    · exact .active hactive
    · by_contra hnot
      exact h before _ hstep ⟨msg, rfl, hup, hnot, hidentity, hresend, hdup⟩
  rw [run_concat]
  exact ⟨hgreeted.state, hsame, hgreeted⟩

end Session

/-- An order for 100 shares. -/
def order : Message := { fields := [⟨tags.MsgType, ascii "D"⟩, ⟨38, ascii "100"⟩] }

/-- The broker asks for everything it has missed. -/
def broker_resend_request (seq : ℕ) : Message :=
  broker_message msg_types.ResendRequest seq [⟨tags.BeginSeqNo, ascii "1"⟩,
    ⟨tags.EndSeqNo, ascii "0"⟩]

/-- The types of the frames that a call hands over. -/
def types_sent {σ : Type} [IMessageStore σ] (s : Session σ) (c : Call) : List (Option Bytes) :=
  ((s.call c).wire_trace.drop s.wire_trace.length).map frame_type

/-- The run of a client that logs on and sends its order. -/
theorem app_frames_greeted_order :
    ((quiet_session.run [.logon, .message broker_logon]).state = .Active ∨
      (quiet_session.run [.logon, .message broker_logon]).state = .LogoutSent) ∧
    (quiet_session.run [.logon, .message broker_logon, .send order]).state =
      (quiet_session.run [.logon, .message broker_logon]).state := by
  have hsent : ∃ e ∈ (quiet_session.run [.logon, .message broker_logon]).new_events
      (quiet_session.run [.logon, .message broker_logon, .send order]), Session.AppFrame e := by
    have hany : ((quiet_session.run [.logon, .message broker_logon]).new_events
        (quiet_session.run [.logon, .message broker_logon, .send order])).any Session.app_frame =
          true := by
      decide
    exact List.any_eq_true.mp hany
  obtain ⟨e, he, happ⟩ := hsent
  have hlate : ∀ before c, before ++ [c] <+: [Call.logon, .message broker_logon, .send order] →
      ¬quiet_session.EarlyResend before c := by
    rintro before c hstep ⟨msg, rfl, _, _, _, hresend, _⟩
    have hmem := hstep.subset (List.mem_append_right before List.mem_cons_self)
    have hmsg : msg = broker_logon := by simpa using hmem
    rw [hmsg] at hresend
    exact absurd hresend (by decide)
  obtain ⟨hstate, hsame, -⟩ := Session.app_frames_greeted quiet_session _ hlate
    [.logon, .message broker_logon] (.send order) (List.prefix_refl _) e he happ
  exact ⟨hstate, hsame⟩

/-- The client trades, and the connection breaks. -/
def broken_connection : List Call := [.logon, .message broker_logon, .send order, .disconnect]

theorem early_resend_replays_order :
    -- on the new connection the broker asks before it has answered the Logon
    ((quiet_session.run (broken_connection ++ [.transport_connected])).state = .LogonSent ∧
      (types_sent (quiet_session.run (broken_connection ++ [.transport_connected]))
        (.message (broker_resend_request 2))) =
          [some msg_types.SequenceReset, some (ascii "D"), some msg_types.SequenceReset]) ∧
    -- the client has given up the handshake
    ((quiet_session.run (broken_connection ++ [.transport_connected, .logout []])).state =
    .LogoutSent ∧
      (types_sent (quiet_session.run (broken_connection ++ [.transport_connected, .logout []]))
        (.message (broker_resend_request 2))) =
          [some msg_types.SequenceReset, some (ascii "D"), some msg_types.SequenceReset]) := by
  decide +kernel

end FixEngine
