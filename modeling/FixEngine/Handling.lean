/-
`Handling.lean` -- what one message makes of the registers.

`Handling` lists what the handlers can do to the registers, one constructor for each place
that writes them, and `MessageMove` does so for a message as a whole, with the judgement of
its number. `registers_process_message` is the inversion from which the properties of the
timers, of the heartbeat interval and of the gap throttle are derived; none of them looks
into a handler again.
-/
import FixEngine.Registers

set_option autoImplicit false

namespace FixEngine

open IMessageStore

/-! ## Handlers -/

/-- The handlers that a message can lead to a call of. -/
def Event.plain : Event → Bool
  | .do_send _ _ => false
  | .on_heartbeat_timeout => false
  | _ => true

def Plain (es : List Event) : Prop := ∀ e ∈ es, e.plain = true

theorem plain_nil : Plain [] := fun _ h => absurd h List.not_mem_nil

theorem plain_singleton {e : Event} (h : e.plain = true) : Plain [e] := by
  intro e' he'
  rw [List.mem_singleton.mp he']
  exact h

/-- At most `on_logout` was called. -/
def Farewell (es : List Event) : Prop := ∀ e ∈ es, ∃ reason, e = .on_logout reason

theorem farewell_nil : Farewell [] := fun _ h => absurd h List.not_mem_nil

/-- The handlers `es` were called. -/
def Registers.plus (es : List Event) (r : Registers) : Registers :=
  { r with notes := r.notes ++ es }

theorem Registers.plus_nil (r : Registers) : r.plus [] = r := by
  rw [plus, List.append_nil]

namespace Session

variable {σ : Type} {s : Session σ}

/-- A Logon with an interval that is taken over. -/
structure Adopts (msg : Message) (hb : ℤ) (s : Session σ) : Prop where
  logon : msg.msg_type = msg_types.Logon
  unique : msg.duplicate_header = false
  interval : msg.get_int tags.HeartBtInt = some hb
  positive : 0 < hb
  echoed : ¬(s.cfg.initiator = true ∧ s.state = .LogonSent ∧ hb ≠ s.heartbeat_sec)

variable {msg : Message} {s' : Session σ}

theorem Adopts.congr {hb : ℤ} (h : Adopts msg hb s)
    (hcfg : s.cfg = s'.cfg) (hstate : s.state = s'.state)
    (hheartbeat : s.heartbeat_sec = s'.heartbeat_sec) : Adopts msg hb s' := by
  refine ⟨h.logon, h.unique, h.interval, h.positive, ?_⟩
  rw [← hcfg, ← hstate, ← hheartbeat]
  exact h.echoed

/-- The messages whose handler ends the connection. -/
structure EndsSession (msg : Message) (s : Session σ) : Prop where
  unique : msg.duplicate_header = false
  kind : msg.msg_type = msg_types.Logout ∨
    (msg.msg_type = msg_types.Logon ∧ ∀ hb, ¬Adopts msg hb s) ∨
    (msg.msg_type = msg_types.Reject ∧ s.state = .LogonSent)

theorem EndsSession.congr (h : EndsSession msg s)
    (hcfg : s.cfg = s'.cfg) (hstate : s.state = s'.state)
    (hheartbeat : s.heartbeat_sec = s'.heartbeat_sec) : EndsSession msg s' := by
  refine ⟨h.unique, ?_⟩
  rcases h.kind with hlogout | ⟨hlogon, hrefused⟩ | ⟨hreject, hsent⟩
  · exact .inl hlogout
  · exact .inr (.inl ⟨hlogon,
      fun hb h' => hrefused hb (h'.congr hcfg.symm hstate.symm hheartbeat.symm)⟩)
  · exact .inr (.inr ⟨hreject, hstate ▸ hsent⟩)

/-- What the handler of a message makes of the registers. -/
inductive Handling (msg : Message) (s : Session σ) : Registers → Prop where
  | kept (es : List Event) (hes : Plain es) : Handling msg s (s.registers.plus es)
  /-- The answer to the TestRequest. -/
  | settled : Handling msg s { s.registers with test_req_pending := false }
  | ended (es : List Event) (hes : Farewell es) (h : EndsSession msg s) :
      Handling msg s (s.registers.down.plus es)
  /-- The handshake is complete. -/
  | entered {hb : ℤ} (hwait : s.state = .WaitingLogon ∨ s.state = .LogonSent)
      (h : Adopts msg hb s) :
      Handling msg s ({ (s.registers.adopt hb).clear with state := .Active }.note .on_logon)
  /-- A Logon that completes no handshake. -/
  | adopted {hb : ℤ} (hwait : s.state ≠ .LogonSent ∧ s.state ≠ .Active) (h : Adopts msg hb s) :
      Handling msg s (s.registers.adopt hb).clear
  | refused {hb : ℤ} (hactive : s.state = .Active) (h : Adopts msg hb s) :
      Handling msg s (s.registers.adopt hb).down

/-- A message is handled as `Handling` says. -/
def HandlesAs (msg : Message) (s s' : Session σ) : Prop := ∃ r, Handling msg s r ∧ Sets r s s'

theorem Keeps.handles (h : Keeps s s') : HandlesAs msg s s' := by
  refine ⟨_, .kept [] plain_nil, ?_⟩
  rw [Registers.plus_nil]
  exact h

theorem handles_guarded {e : Event} (s : Session σ) (he : e.notable = true)
    (h : e.plain = true) : HandlesAs msg s (s.guarded e) :=
  ⟨_, .kept [e] (plain_singleton h), sets_guarded he s⟩

theorem sets_notify_logout (reason : Bytes) (s : Session σ) :
    ∃ es, Farewell es ∧ Sets (s.registers.plus es) s (s.notify_logout reason) := by
  rw [notify_logout]
  split
  · refine ⟨[], farewell_nil, ?_⟩
    rw [Registers.plus_nil]
    exact Keeps.refl s
  · have hcalled := sets_guarded (e := .on_logout reason) rfl { s with logout_notified := true }
    refine ⟨[.on_logout reason], ?_, hcalled.registers, hcalled.env, hcalled.reads⟩
    intro e he
    exact ⟨reason, List.mem_singleton.mp he⟩

theorem handles_heartbeat (msg : Message) (s : Session σ) :
    HandlesAs msg s (s.handle_heartbeat msg) := by
  rw [handle_heartbeat]
  split
  · exact ⟨_, .settled, rfl, rfl, le_rfl⟩
  · exact (Keeps.refl s).handles

theorem handles_reject (htype : msg.msg_type = msg_types.Reject)
    (hdup : msg.duplicate_header = false) (s : Session σ) :
    HandlesAs msg s (s.handle_reject msg) := by
  rw [handle_reject]
  dsimp only
  split
  · rename_i hstate
    generalize ascii "Logon rejected: " ++ _ = why
    obtain ⟨es, hes, hnotified⟩ := sets_notify_logout why s
    have hends := sets_disconnect (s.notify_logout why)
    rw [hnotified.registers] at hends
    exact ⟨_, .ended es hes ⟨hdup, .inr (.inr ⟨htype, hstate⟩)⟩, hnotified.trans hends⟩
  · apply handles_guarded s
    · rfl
    · rfl

variable [IMessageStore σ]

theorem handles_logout (htype : msg.msg_type = msg_types.Logout)
    (hdup : msg.duplicate_header = false) (s : Session σ) :
    HandlesAs msg s (s.handle_logout msg) := by
  rw [handle_logout]
  have hdown : Sets s.registers.down s
      (if s.state = .LogoutSent then (s.transition .LogoutSent .Disconnected).2.disconnect
        else s.send_logout_echo.disconnect) := by
    split
    · have hends := sets_disconnect (s.transition .LogoutSent .Disconnected).2
      exact ⟨hends.registers, hends.env, hends.reads⟩
    · have hecho := keeps_send_logout_echo s
      exact hecho.registers ▸ hecho.sets (sets_disconnect _)
  generalize (if s.state = .LogoutSent then (s.transition .LogoutSent .Disconnected).2.disconnect
    else s.send_logout_echo.disconnect) = s₁ at hdown ⊢
  obtain ⟨es, hes, hnotified⟩ := sets_notify_logout ((msg.get tags.Text).getD []) s₁
  rw [hdown.registers] at hnotified
  exact ⟨_, .ended es hes ⟨hdup, .inl htype⟩, hdown.trans hnotified⟩

theorem handles_resend_request (msg : Message) (s : Session σ) :
    HandlesAs msg s (s.handle_resend_request msg) := by
  rw [handle_resend_request]
  split
  · exact (keeps_send_reject _ _ _ _ _ s).handles
  rename_i first _
  split
  · exact (keeps_send_reject _ _ _ _ _ s).handles
  dsimp only
  generalize ((msg.get_int tags.EndSeqNo).map to_u64).getD 0 = last
  refine ⟨_, .kept [.on_resend_request (to_u64 first) last] (plain_singleton rfl), ?_⟩
  have hcall := sets_guarded (e := .on_resend_request (to_u64 first) last) rfl s
  generalize s.guarded (.on_resend_request (to_u64 first) last) = s₁ at hcall ⊢
  apply Sets.keeps hcall
  split
  · exact keeps_send_reject _ _ _ _ _ s₁
  have hread : Keeps s₁ { s₁ with store := (get_messages (to_u64 first) last s₁.store).2 } :=
    .of_passes rfl rfl rfl rfl rfl rfl rfl rfl (.refl _)
  split
  · exact hread.trans (keeps_report _ _)
  · generalize (if last = 0 ∨ s₁.next_sender ≤ last then s₁.next_sender - 1 else last) = range_end
    split
    · exact hread
    · exact hread.trans (keeps_replay _ _ _ _)

theorem handles_app (msg : Message) (s : Session σ) : HandlesAs msg s (s.process_app msg) := by
  rw [process_app]
  split
  · exact (keeps_send_reject _ _ _ _ _ s).handles
  split
  · have htype : ∀ ref_seq reason mt text,
        (business_reject_message ref_seq reason mt text).msg_type ≠ msg_types.ResendRequest := by
      intro ref_seq reason mt text
      rw [business_reject_message, msg_type_set_nonempty _ _ (by decide),
        msg_type_set_nonempty _ _ (by decide), msg_type_set_int _ _ (by decide),
        msg_type_set_int _ _ (by decide)]
      decide
    exact (keeps_send_message (htype _ _ _ _) s).handles
  · apply handles_guarded s
    · rfl
    · rfl

/-! ### The Logon -/

/-- Of the registers only the state and the gap changed, and the gap was closed if it did. -/
def Greets (s s' : Session σ) : Prop :=
  ∃ gap, (gap = s.gap ∨ gap = .closed) ∧
    Sets { s.registers with state := s'.state, gap := gap } s s'

omit [IMessageStore σ] in
theorem Keeps.greets (h : Keeps s s') : Greets s s' := by
  have hstate : s'.state = s.state := congrArg Registers.state h.registers
  refine ⟨s.gap, .inl rfl, ?_⟩
  rw [hstate]
  exact h

omit [IMessageStore σ] in
theorem Greets.trans {s₁ s₂ : Session σ} (h : Greets s s₁) (h' : Greets s₁ s₂) : Greets s s₂ := by
  obtain ⟨gap, hgap, hsets⟩ := h
  obtain ⟨gap', hgap', hsets'⟩ := h'
  have hmiddle : s₁.gap = gap := congrArg Registers.gap hsets.registers
  rw [hsets.registers] at hsets'
  refine ⟨gap', ?_, hsets.trans hsets'⟩
  rcases hgap' with rfl | hclosed
  · rw [hmiddle]
    exact hgap
  · exact .inr hclosed

theorem greets_reset_for_logon (s : Session σ) : Greets s s.reset_for_logon.2 := by
  have hreset : Keeps s s.reset_store.2 :=
    .of_passes rfl rfl rfl rfl rfl rfl rfl rfl (Outside.passes_emit s.io rfl)
  rw [reset_for_logon]
  split
  · dsimp only
    split
    · exact (hreset.trans (keeps_report _ _)).greets
    · refine hreset.greets.trans ⟨.closed, .inr rfl, rfl, rfl, le_rfl⟩
  · exact (Keeps.refl s).greets

theorem greets_publish_logon {m : Message} (hm : m.msg_type ≠ msg_types.ResendRequest)
    (s : Session σ) :
    Greets s (s.publish_logon m).2 := by
  have hpublish : Greets s s.publish := ⟨s.gap, .inl rfl, rfl, rfl, Nat.le_succ _⟩
  have hready := hpublish.trans (greets_reset_for_logon s.publish)
  have hunpublish : ∀ s' : Session σ, Greets s' (s'.unpublish s.state) := by
    intro s'
    refine ⟨s'.gap, .inl rfl, ?_, by rw [io_unpublish], by rw [io_unpublish]⟩
    rw [unpublish]
    split <;> rfl
  rw [publish_logon]
  dsimp only
  split
  · exact hready.trans (hunpublish _)
  · have hsent := hready.trans (keeps_send_message_locked hm s.publish.reset_for_logon.2).greets
    split
    · exact hsent.trans (hunpublish _)
    · exact hsent

/-- **Sending a Logon.** -/
theorem greets_send_logon (s : Session σ) : Greets s s.send_logon.2 := by
  have hm : (logon_message s.cfg s.heartbeat_sec).msg_type ≠ msg_types.ResendRequest := by
    rw [msg_type_logon]
    decide
  have hlocked : ∀ s' : Session σ,
      Greets s' (s'.send_logon_locked (logon_message s.cfg s.heartbeat_sec)).2 := by
    intro s'
    rw [send_logon_locked]
    split
    · exact (Keeps.refl s').greets
    split
    · exact (Keeps.refl s').greets
    · exact greets_publish_logon hm s'
  obtain ⟨gap, hgap, hsets⟩ := hlocked { s with io := s.io.acquire }
  exact ⟨gap, hgap, Sets.locked hsets⟩

theorem keeps_send_logon (hwait : s.state = .WaitingLogon) (hgap : s.gap = .closed) :
    Keeps s s.send_logon.2 := by
  have hstate : s.send_logon.2.state = s.state := by
    rcases (send_logon_cases False s).2 with ⟨-, hhand, hbefore⟩ | ⟨-, hsame⟩
    · rcases hbefore with h | h | h
      · rw [hhand, h]
      · exact absurd (hwait.symm.trans h) (by simp)
      · exact absurd (hwait.symm.trans h) (by simp)
    · exact hsame
  obtain ⟨gap, hclosed, hsets⟩ := greets_send_logon s
  have hsame : gap = s.gap := by
    rcases hclosed with h | h
    · exact h
    · rw [h, hgap]
  rw [hstate, hsame] at hsets
  exact hsets

theorem sets_logon_ready (hb : ℤ) (msg : Message) (s : Session σ) :
    Sets (s.registers.adopt hb).clear s (s.logon_ready hb msg) := by
  have hadopt : Sets (s.registers.adopt hb) s (s.adopt hb) := ⟨rfl, rfl, le_rfl⟩
  have hbase : Keeps (s.adopt hb) ((s.adopt hb).rebaseline msg) := by
    rw [rebaseline]
    split
    · exact keeps_set_target _ _ _
    · exact .refl _
  have hready := hadopt.keeps hbase
  refine ⟨?_, hready.env, hready.reads⟩
  rw [← hready.registers]
  rfl

theorem handle_logon_refused (htype : msg.msg_type = msg_types.Logon)
    (hdup : msg.duplicate_header = false) (h : ∀ hb, ¬Adopts msg hb s) :
    ∃ reason, s.handle_logon msg = (s.send_logout reason).disconnect := by
  rcases hhb : msg.get_int tags.HeartBtInt with _ | hb
  · exact ⟨ascii "HeartBtInt required", by rw [handle_logon, hhb]⟩
  by_cases hpos : hb ≤ 0
  · refine ⟨ascii "HeartBtInt required", ?_⟩
    rw [handle_logon, hhb]
    exact if_pos hpos
  · have hecho : s.cfg.initiator ∧ s.state = .LogonSent ∧ hb ≠ s.heartbeat_sec := by
      by_contra hnot
      exact h hb ⟨htype, hdup, hhb, by omega, hnot⟩
    refine ⟨ascii "HeartBtInt mismatch", ?_⟩
    rw [handle_logon, hhb]
    dsimp only
    rw [if_neg hpos, if_pos hecho]

/-- What a Logon with a usable interval leads to. -/
inductive LogonMove (hb : ℤ) (s : Session σ) : Registers → Prop where
  | entered (hwait : s.state = .WaitingLogon ∨ s.state = .LogonSent) :
      LogonMove hb s ({ (s.registers.adopt hb).clear with state := .Active }.note .on_logon)
  | adopted (hstate : s.state ≠ .LogonSent ∧ s.state ≠ .Active) :
      LogonMove hb s (s.registers.adopt hb).clear
  | refused (hactive : s.state = .Active) : LogonMove hb s (s.registers.adopt hb).down

/-- **A Logon with a usable interval.** The interval is taken over in every state. -/
theorem sets_handle_logon {hb : ℤ} (h : Adopts msg hb s) :
    ∃ r, LogonMove hb s r ∧ Sets r s (s.handle_logon msg) := by
  have hready := sets_logon_ready hb msg s
  have hstate : (s.logon_ready hb msg).state = s.state := congrArg Registers.state hready.registers
  -- the state becomes Active and `on_logon` is called
  have henters : ∀ s' : Session σ, Keeps (s.logon_ready hb msg) s' →
      (s.state = .WaitingLogon ∨ s.state = .LogonSent) →
      ∃ r, LogonMove hb s r ∧
        Sets r s (({ s' with state := .Active, logout_notified := false } : Session σ).guarded
          .on_logon) := by
    intro s' hkeeps hwait
    have hactive : Sets { (s.registers.adopt hb).clear with state := .Active } s
        ({ s' with state := .Active, logout_notified := false } : Session σ) := by
      have hboth := hready.keeps hkeeps
      refine ⟨?_, hboth.env, hboth.reads⟩
      rw [← hboth.registers]
      rfl
    have hcalled := sets_guarded (e := .on_logon) rfl
      ({ s' with state := .Active, logout_notified := false } : Session σ)
    rw [hactive.registers] at hcalled
    exact ⟨_, .entered hwait, hactive.trans hcalled⟩
  rw [handle_logon_eq h.interval (by have := h.positive; omega) h.echoed]
  rcases hst : s.state with _ | _ | _ | _ | _ | _
  case WaitingLogon =>
    have hwaiting : (s.logon_ready hb msg).state = .WaitingLogon := hstate.trans hst
    have hsent := keeps_send_logon hwaiting (congrArg Registers.gap hready.registers)
    have hsent_state : (s.logon_ready hb msg).send_logon.2.state = .WaitingLogon :=
      (congrArg Registers.state hsent.registers).trans hwaiting
    dsimp only
    split
    · rw [transition, hsent_state]
      exact henters (s.logon_ready hb msg).send_logon.2 hsent (.inl hst)
    · exact ⟨_, .adopted (by rw [hst]; decide), hready.keeps (hsent.trans (keeps_report _ _))⟩
  case LogonSent =>
    have hsent_state : (s.logon_ready hb msg).state = .LogonSent := hstate.trans hst
    dsimp only
    rw [transition, hsent_state]
    exact henters (s.logon_ready hb msg) (.refl _) (.inr hst)
  case Active =>
    have hdown := sets_logout_disconnect (ascii "Duplicate Logon") (s.logon_ready hb msg)
    rw [hready.registers] at hdown
    exact ⟨_, .refused hst, hready.trans hdown⟩
  all_goals exact ⟨_, .adopted (by rw [hst]; decide), hready⟩

/-- **A Logon** is handled as `Handling` says. -/
theorem handles_logon (htype : msg.msg_type = msg_types.Logon)
    (hdup : msg.duplicate_header = false) (s : Session σ) :
    HandlesAs msg s (s.handle_logon msg) := by
  by_cases hadopts : ∃ hb, Adopts msg hb s
  · obtain ⟨hb, hadopts⟩ := hadopts
    obtain ⟨r, hmove, hsets⟩ := sets_handle_logon hadopts
    refine ⟨r, ?_, hsets⟩
    cases hmove with
    | entered hwait => exact .entered hwait hadopts
    | adopted hstate => exact .adopted hstate hadopts
    | refused hactive => exact .refused hactive hadopts
  · have hrefused : ∀ hb, ¬Adopts msg hb s := fun hb h => hadopts ⟨hb, h⟩
    obtain ⟨reason, hlogout⟩ := handle_logon_refused htype hdup hrefused
    refine ⟨_, .ended [] farewell_nil ⟨hdup, .inr (.inl ⟨htype, hrefused⟩)⟩, ?_⟩
    rw [Registers.plus_nil, hlogout]
    exact sets_logout_disconnect reason s

/-- **The handler of a message** that is no SequenceReset. -/
theorem handles_handle (htype : msg.msg_type ≠ msg_types.SequenceReset)
    (s : Session σ) :
    HandlesAs msg s (s.handle msg) := by
  rw [handle]
  split
  · exact (keeps_send_reject _ _ _ _ _ s).handles
  rename_i hdup
  have hdup : msg.duplicate_header = false := by simpa using hdup
  split
  · rw [process_admin]
    split
    · rename_i hlogon
      exact handles_logon hlogon hdup s
    split
    · rename_i hlogout
      exact handles_logout hlogout hdup s
    split
    · exact handles_heartbeat msg s
    split
    · exact (keeps_send_heartbeat _ s).handles
    split
    · exact handles_resend_request msg s
    -- a SequenceReset is out of the question
    split
    · rename_i hreject
      exact handles_reject hreject hdup s
    · exact (Keeps.refl s).handles
  · exact handles_app msg s

/-! ## One message -/

/-- At most one ResendRequest, for everything from NextTarget on. -/
def Asks (s : Session σ) (reqs : List Event) : Prop :=
  reqs = [] ∨ ∃ n w, reqs = [.do_send (.sent n) w] ∧
    Carries s.cfg.id (resend_request_message s.next_target 0) n w

/-- A Logon that reaches the place where its interval is taken over. -/
structure TakesOver (msg : Message) (hb : ℤ) (s : Session σ) : Prop where
  adopts : Adopts msg hb s
  identity : s.identity_error msg = none
  judged : s.state.unnumbered = true ∨ msg.seq_num ≠ 0 ∧ msg.seq_num = s.next_target

/-- What a message makes of the registers `r`, in which it is noted, with readings of the
clock before `upto`. -/
inductive MessageMove (msg : Message) (s : Session σ) (upto : ℕ) (r : Registers) :
    Registers → Prop where
  | kept (es : List Event) (hes : Plain es) : MessageMove msg s upto r (r.plus es)
  | cleared (es : List Event) (hes : Plain es) : MessageMove msg s upto r (r.clear.plus es)
  | ended (es : List Event) (hes : Farewell es) : MessageMove msg s upto r (r.down.plus es)
  /-- The first request of a gap. -/
  | requested (hclosed : r.gap.is_open = false) (es : List Event) (hes : Plain es) (k : ℕ)
      (hk : s.io.reads ≤ k) (hlt : k < upto) (reqs : List Event) (hreqs : Asks s reqs) :
      MessageMove msg s upto r ({ r with gap := ⟨true, s.io.env.clock k, 1⟩ }.plus (es ++ reqs))
  | entered {hb : ℤ} (hwait : s.state = .WaitingLogon ∨ s.state = .LogonSent)
      (h : TakesOver msg hb s) :
      MessageMove msg s upto r ({ (r.adopt hb).clear with state := .Active }.note .on_logon)
  | adopted {hb : ℤ} (hstate : s.state ≠ .LogonSent ∧ s.state ≠ .Active) (h : TakesOver msg hb s) :
      MessageMove msg s upto r (r.adopt hb).clear
  | refused {hb : ℤ} (hactive : s.state = .Active) (h : TakesOver msg hb s) :
      MessageMove msg s upto r (r.adopt hb).down

theorem MessageMove.mono {upto upto' : ℕ} {r r' : Registers}
    (h : MessageMove msg s upto r r') (hle : upto ≤ upto') : MessageMove msg s upto' r r' := by
  cases h with
  | kept es hes => exact .kept es hes
  | cleared es hes => exact .cleared es hes
  | ended es hes => exact .ended es hes
  | requested hclosed es hes k hk hlt reqs hreqs =>
    exact .requested hclosed es hes k hk (hlt.trans_le hle) reqs hreqs
  | entered hwait h => exact .entered hwait h
  | adopted hstate h => exact .adopted hstate h
  | refused hactive h => exact .refused hactive h

omit [IMessageStore σ] in
theorem sets_note_inbound (msg : Message) (s : Session σ) :
    ∃ k, s.io.reads ≤ k ∧ k < (s.note_inbound msg).io.reads ∧
      Sets (s.registers.heard (s.io.env.clock k)) s (s.note_inbound msg) := by
  have haudit := Outside.passes_audit_frame false msg.raw s.io
  refine ⟨_, haudit.reads, Nat.lt_succ_self _, ?_, haudit.env, haudit.reads.trans (Nat.le_succ _)⟩
  simp only [registers, Registers.heard, ← haudit.notes, ← haudit.env]
  rfl

theorem sets_request_gap (s : Session σ) :
    Keeps s (s.request_gap s.next_target) ∨
      s.gap.is_open = false ∧ ∃ reqs, Asks s reqs ∧
        s.io.reads < (s.request_gap s.next_target).io.reads ∧
        Sets ({ s.registers with gap := ⟨true, s.io.env.clock s.io.reads, 1⟩ }.plus reqs) s
          (s.request_gap s.next_target) := by
  rw [request_gap]
  split
  · exact .inl (.refl s)
  · rename_i hclosed
    refine .inr ⟨by simpa using hclosed, ?_⟩
    have harmed : Sets { s.registers with gap := ⟨true, s.io.env.clock s.io.reads, 1⟩ } s
        s.arm_gap :=
      ⟨rfl, rfl, Nat.le_succ _⟩
    have hread : s.io.reads < s.arm_gap.io.reads := Nat.lt_succ_self _
    rcases sets_send_resend_request s.next_target 0 s.arm_gap with hkeeps | ⟨n, w, hw, hsets⟩
    · refine ⟨[], .inl rfl, hread.trans_le hkeeps.reads, ?_⟩
      rw [Registers.plus_nil]
      exact harmed.keeps hkeeps
    · rw [harmed.registers] at hsets
      exact ⟨_, .inr ⟨n, w, rfl, hw⟩, hread.trans_le hsets.reads, harmed.trans hsets⟩

theorem Handling.move {s₀ : Session σ} {upto : ℕ} {r r' : Registers}
    (h : Handling msg s₀ r') (hr : s₀.registers = r ∨ s₀.registers = r.clear)
    (hpending : r.test_req_pending = false) (hstate : s₀.state = s.state) (hcfg : s₀.cfg = s.cfg)
    (hheartbeat : s₀.heartbeat_sec = s.heartbeat_sec) (hidentity : s.identity_error msg = none)
    (hjudged : s.state.unnumbered = true ∨ msg.seq_num ≠ 0 ∧ msg.seq_num = s.next_target) :
    MessageMove msg s upto r r' := by
  have htakes : ∀ {hb : ℤ}, Adopts msg hb s₀ → TakesOver msg hb s :=
    fun h => ⟨h.congr hcfg hstate hheartbeat, hidentity, hjudged⟩
  have hkept : ∀ es, Plain es → MessageMove msg s upto r (s₀.registers.plus es) := by
    intro es hes
    rcases hr with h | h
    · rw [h]
      exact .kept es hes
    · rw [h]
      exact .cleared es hes
  have hsettled : { s₀.registers with test_req_pending := false } = s₀.registers.plus [] := by
    rw [Registers.plus_nil]
    rcases hr with h | h
    · rw [h, ← hpending]
    · rw [h, ← hpending]
      rfl
  cases h with
  | kept es hes => exact hkept es hes
  | settled =>
    rw [hsettled]
    exact hkept [] plain_nil
  | ended es hes _ =>
    have hdown : s₀.registers.down = r.down := by
      rcases hr with h | h <;> rw [h]
      rfl
    rw [hdown]
    exact .ended es hes
  | @entered hb hwait h =>
    have hclear : (s₀.registers.adopt hb).clear = (r.adopt hb).clear := by
      rcases hr with h | h <;> rw [h]
      rfl
    rw [hclear]
    exact .entered (hstate ▸ hwait) (htakes h)
  | @adopted hb hwait h =>
    have hclear : (s₀.registers.adopt hb).clear = (r.adopt hb).clear := by
      rcases hr with h | h <;> rw [h]
      rfl
    rw [hclear]
    exact .adopted (hstate ▸ hwait) (htakes h)
  | @refused hb hactive h =>
    have hdown : (s₀.registers.adopt hb).down = (r.adopt hb).down := by
      rcases hr with h | h <;> rw [h]
      rfl
    rw [hdown]
    exact .refused (hstate ▸ hactive) (htakes h)

/-- `r` is a move of the message, and the registers have become `r`. -/
def MovesTo (msg : Message) (s : Session σ) (r₀ : Registers) (s₀ s' : Session σ) : Prop :=
  ∃ r, MessageMove msg s s'.io.reads r₀ r ∧ Sets r s₀ s'

theorem MovesTo.keeps {r₀ : Registers} {s₀ s₁ s₂ : Session σ}
    (h : MovesTo msg s r₀ s₀ s₁) (h' : Keeps s₁ s₂) : MovesTo msg s r₀ s₀ s₂ := by
  obtain ⟨r, hmove, hsets⟩ := h
  exact ⟨r, hmove.mono h'.reads, hsets.keeps h'⟩

section Moves

variable {msg : Message} {s₀ s' : Session σ}

theorem Keeps.moves (h : Keeps s₀ s') : MovesTo msg s s₀.registers s₀ s' := by
  refine ⟨_, .kept [] plain_nil, ?_⟩
  rw [Registers.plus_nil]
  exact h

theorem moves_logout (reason : Bytes) (s₀ : Session σ) :
    MovesTo msg s s₀.registers s₀ (s₀.send_logout reason).disconnect := by
  refine ⟨_, .ended [] farewell_nil, ?_⟩
  rw [Registers.plus_nil]
  exact sets_logout_disconnect reason s₀

theorem moves_request_gap (es : List Event) (hes : Plain es) {s₁ : Session σ}
    (hes₁ : Sets (s₀.registers.plus es) s₀ s₁) (hcfg : s₁.cfg = s.cfg)
    (htarget : s₁.next_target = s.next_target) (henv : s₀.io.env = s.io.env)
    (hreads : s.io.reads ≤ s₀.io.reads) :
    MovesTo msg s s₀.registers s₀ (s₁.request_gap s₁.next_target) := by
  rcases sets_request_gap s₁ with hkeeps | ⟨hclosed, reqs, hreqs, hlt, hsets⟩
  · exact ⟨_, .kept es hes, hes₁.keeps hkeeps⟩
  · have hgap : s₀.registers.gap.is_open = false := by
      have hsame : s₁.gap = s₀.registers.gap := congrArg Registers.gap hes₁.registers
      rw [← hsame]
      exact hclosed
    have hasks : Asks s reqs := by
      rw [Asks, ← hcfg, ← htarget]
      exact hreqs
    refine ⟨_, .requested hgap es hes s₁.io.reads (hreads.trans hes₁.reads) hlt reqs hasks, ?_⟩
    rw [hes₁.registers, hes₁.env, henv] at hsets
    have hplus :
        ({ s₀.registers.plus es with gap := ⟨true, s.io.env.clock s₁.io.reads, 1⟩ } :
        Registers).plus reqs =
        ({ s₀.registers with gap := ⟨true, s.io.env.clock s₁.io.reads, 1⟩ } : Registers).plus
          (es ++ reqs) := by
      simp only [Registers.plus, List.append_assoc]
    rw [← hplus]
    exact hes₁.trans hsets

/-- **A SequenceReset** closes the gap when it moves the expected number, asks for what is
missing below it, or ends the connection. -/
theorem moves_sequence_reset (msg : Message) (hcfg : s₀.cfg = s.cfg)
    (htarget : s₀.next_target = s.next_target) (henv : s₀.io.env = s.io.env)
    (hreads : s.io.reads ≤ s₀.io.reads) :
    MovesTo msg s s₀.registers s₀ (s₀.handle_sequence_reset msg).2 := by
  have hset : ∀ n what, MovesTo msg s s₀.registers s₀ (s₀.set_target n what).clear_gap := by
    intro n what
    have hkeeps := keeps_set_target n what s₀
    refine ⟨_, .cleared [] plain_nil, ?_, hkeeps.env, hkeeps.reads⟩
    rw [Registers.plus_nil, ← hkeeps.registers]
    rfl
  have hgap : MovesTo msg s s₀.registers s₀ (s₀.request_gap s₀.next_target) := by
    refine moves_request_gap [] plain_nil ?_ hcfg htarget henv hreads
    rw [Registers.plus_nil]
    exact Keeps.refl s₀
  rw [handle_sequence_reset]
  split
  · split
    · exact moves_logout _ s₀
    split
    · exact hgap
    split
    · exact (Keeps.refl s₀).moves
    split
    · exact moves_logout _ s₀
    · split
      · exact moves_logout _ s₀
      · exact hset _ _
  · split
    · exact moves_logout _ s₀
    · split
      · exact moves_logout _ s₀
      · exact hset _ _

theorem keeps_reject_untyped (msg : Message) (s₀ : Session σ) :
    Keeps s₀ (s₀.reject_untyped msg) := by
  rw [reject_untyped]
  split
  · exact ((keeps_advance_target msg _ s₀).trans (keeps_store_inbound msg _ _)).trans
      (keeps_send_reject _ _ _ _ _ _)
  · exact keeps_send_reject _ _ _ _ _ s₀

theorem keeps_taken (msg : Message) (validated : Bool) (s₀ : Session σ) :
    Keeps s₀ (s₀.consume_inbound msg validated).count_received :=
  (keeps_consume_inbound msg validated s₀).trans (keeps_count_received _)

theorem moves_judged (htype : msg.msg_type ≠ msg_types.SequenceReset)
    (hpending : s₀.test_req_pending = false) (hstate : s₀.state = s.state) (hcfg : s₀.cfg = s.cfg)
    (hheartbeat : s₀.heartbeat_sec = s.heartbeat_sec) (htarget : s₀.next_target = s.next_target)
    (henv : s₀.io.env = s.io.env) (hreads : s.io.reads ≤ s₀.io.reads)
    (hidentity : s.identity_error msg = none) :
    MovesTo msg s s₀.registers s₀ (if (s₀.validate_seq_num msg).1 then
      (s₀.validate_seq_num msg).2.clear_gap.dispatch msg true
        else (s₀.validate_seq_num msg).2) := by
  rw [validate_seq_num]
  split
  · exact (keeps_send_reject _ _ _ _ _ s₀).moves
  rename_i hpos
  split
  · have hcalled := sets_guarded (e := .on_sequence_gap s₀.next_target msg.seq_num) rfl s₀
    exact moves_request_gap [_] (plain_singleton rfl) hcalled hcfg htarget henv hreads
  split
  · split
    · exact (Keeps.refl s₀).moves
    · exact moves_logout _ s₀
  · rename_i hhigh hlow
    have hseq : msg.seq_num = s.next_target := by omega
    obtain ⟨r, hhandling, hsets⟩ := handles_handle htype s₀.clear_gap
    have hcleared : Sets s₀.clear_gap.registers s₀ s₀.clear_gap := ⟨rfl, rfl, le_rfl⟩
    refine ⟨r, ?_, (hcleared.trans hsets).keeps (keeps_taken msg true _)⟩
    exact hhandling.move (.inr rfl) hpending hstate hcfg hheartbeat hidentity (.inr ⟨hpos, hseq⟩)

end Moves

/-- **What a message makes of the registers.** It is noted at a reading of its own, and then
judged and handled. -/
theorem registers_process_message (msg : Message) (s : Session σ) :
    ∃ k, s.io.reads ≤ k ∧ k < (s.process_message msg).io.reads ∧
      MovesTo msg s (s.registers.heard (s.io.env.clock k)) s (s.process_message msg) := by
  obtain ⟨k, hk, hlt, hnoted⟩ := sets_note_inbound msg s
  have hmoves : MovesTo msg s (s.note_inbound msg).registers (s.note_inbound msg)
      (s.process_message msg) := by
    have hcfg : (s.note_inbound msg).cfg = s.cfg := rfl
    have hstate : (s.note_inbound msg).state = s.state := rfl
    have htarget : (s.note_inbound msg).next_target = s.next_target := rfl
    have hheartbeat : (s.note_inbound msg).heartbeat_sec = s.heartbeat_sec := rfl
    have hpending : (s.note_inbound msg).test_req_pending = false := rfl
    have henv := hnoted.env
    have hreads := hnoted.reads
    have hidentity : (s.note_inbound msg).identity_error msg = s.identity_error msg := rfl
    rw [process_message]
    generalize s.note_inbound msg = s₀ at *
    split
    · exact moves_logout _ s₀
    rename_i hvalid
    rw [hidentity] at hvalid
    rw [process_identified]
    split
    · exact ((keeps_reject_untyped msg s₀).trans (keeps_count_received _)).moves
    split
    · have hmoves := moves_sequence_reset msg hcfg htarget henv hreads
      dsimp only
      split
      · exact hmoves.keeps (keeps_count_received _)
      · exact hmoves
    rename_i htype
    split
    · rename_i hunnumbered
      obtain ⟨r, hhandling, hsets⟩ := handles_handle htype s₀
      refine ⟨r, ?_, hsets.keeps (keeps_taken msg false _)⟩
      exact hhandling.move (.inl rfl) hpending hstate hcfg hheartbeat hvalid
        (.inl (hstate ▸ hunnumbered))
    · exact moves_judged htype hpending hstate hcfg hheartbeat htarget henv hreads hvalid
  obtain ⟨r, hmove, hsets⟩ := hmoves
  rw [hnoted.registers] at hmove
  exact ⟨k, hk, hlt.trans_le hsets.reads, r, hmove, hnoted.trans hsets⟩

end Session

end FixEngine
