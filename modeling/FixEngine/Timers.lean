/-
`Timers.lean` -- what a tick, and any other call, makes of the registers.

A tick of an Active session looks at the peer first and at the gap after that. `Probe` is
what the first part can do to the registers, `Retry` what the second can. A handler of the
heartbeat timeout that throws ends the tick between the two.

`RegisterMove` has one constructor for each kind of call, and `registers_call` is the
inversion on which the invariants of whole runs rest.
-/
import FixEngine.Handling

set_option autoImplicit false

namespace FixEngine

open IMessageStore

/-- The request for the open gap is to be repeated. -/
def Registers.Due (now : ℤ) (r : Registers) : Prop :=
  r.gap.is_open = true ∧ 1 ≤ r.gap.rr_attempts ∧ r.heartbeat_sec * 1200 ≤ now - r.gap.rr_last

namespace Session

variable {σ : Type} [IMessageStore σ] {s : Session σ}

/-! ## The peer -/

/-- What the look at the peer makes of the registers at the time `now`, and whether the
handler of the timeout threw. A TestRequest is sent at a reading before `upto`. -/
inductive Probe (s : Session σ) (now : ℤ) (upto : ℕ) : Bool → Registers → Prop where
  | quiet : Probe s now upto false s.registers
  /-- A TestRequest, after an interval of silence. -/
  | armed (hpending : s.test_req_pending = false)
      (hsilent : s.heartbeat_sec * 1000 ≤ now - s.last_recv_time) (k : ℕ) (hk : s.io.reads ≤ k)
      (hlt : k < upto) :
      Probe s now upto false
        { s.registers with test_req_pending := true, test_req_sent_time := s.io.env.clock k }
  | thrown (hpending : s.test_req_pending = true)
      (hdeadline : s.heartbeat_sec * 1200 ≤ now - s.test_req_sent_time) :
      Probe s now upto true (s.registers.note .on_heartbeat_timeout)
  | timed_out (hpending : s.test_req_pending = true)
      (hdeadline : s.heartbeat_sec * 1200 ≤ now - s.test_req_sent_time) :
      Probe s now upto false (s.registers.note .on_heartbeat_timeout).down

theorem sets_send_test_request (s : Session σ) :
    s.io.reads + 1 < s.send_test_request.io.reads ∧
      Sets { s.registers with
          test_req_pending := true, test_req_sent_time := s.io.env.clock (s.io.reads + 1) }
        s s.send_test_request := by
  have harmed : Sets { s.registers with
        test_req_pending := true, test_req_sent_time := s.io.env.clock (s.io.reads + 1) }
      s s.arm_test_request := ⟨rfl, rfl, Nat.le_add_right _ 2⟩
  have hsent : Keeps s.arm_test_request s.send_test_request := by
    apply keeps_send_message
    rw [msg_type_test_request]
    decide
  exact ⟨hsent.reads, harmed.keeps hsent⟩

theorem sets_probe_peer (now : ℤ) (s : Session σ) :
    ∃ r, Probe s now (s.probe_peer now (s.heartbeat_sec * 1000)).2.io.reads
        (s.probe_peer now (s.heartbeat_sec * 1000)).1 r ∧
      Sets r s (s.probe_peer now (s.heartbeat_sec * 1000)).2 := by
  rw [probe_peer]
  split
  · rename_i hpending
    have hpending : s.test_req_pending = false := by simpa using hpending
    dsimp only
    split
    · rename_i hsilent
      obtain ⟨hread, hsets⟩ := sets_send_test_request s
      exact ⟨_, .armed hpending hsilent _ (Nat.le_succ _) hread, hsets⟩
    · exact ⟨_, .quiet, Keeps.refl s⟩
  rename_i hpending
  have hpending : s.test_req_pending = true := by simpa using hpending
  split
  · rename_i hdue
    have hdeadline : s.heartbeat_sec * 1200 ≤ now - s.test_req_sent_time := by omega
    have hcalled : Sets (s.registers.note .on_heartbeat_timeout) s
        { s with io := (s.io.emit .on_heartbeat_timeout).tick } := by
      refine ⟨?_, rfl, Nat.le_succ _⟩
      simp only [registers, Registers.note]
      rw [← Outside.notes_emit s.io (e := .on_heartbeat_timeout) rfl]
      rfl
    dsimp only
    split
    · exact ⟨_, .thrown hpending hdeadline, hcalled⟩
    · have hdown :=
        sets_disconnect ({ s with io := (s.io.emit .on_heartbeat_timeout).tick } : Session σ)
      rw [hcalled.registers] at hdown
      exact ⟨_, .timed_out hpending hdeadline, hcalled.trans hdown⟩
  · exact ⟨_, .quiet, Keeps.refl s⟩

/-! ## The gap -/

/-- What the look at the gap makes of the registers `r`. -/
inductive Retry (s : Session σ) (now : ℤ) (r : Registers) : Registers → Prop where
  | idle (h : ¬r.Due now) : Retry s now r r
  | asked (h : r.Due now) (hbudget : r.gap.rr_attempts < kMaxGapRetries) (reqs : List Event)
      (hreqs : Asks s reqs) :
      Retry s now r ({ r with gap := ⟨true, now, r.gap.rr_attempts + 1⟩ }.plus reqs)
  | exhausted (h : r.Due now) (hbudget : kMaxGapRetries ≤ r.gap.rr_attempts) : Retry s now r r.down

theorem sets_retry_gap (now : ℤ) (s : Session σ) :
    ∃ r, Retry s now s.registers r ∧ Sets r s (s.retry_gap now (s.heartbeat_sec * 1000)) := by
  rw [retry_gap]
  split
  · rename_i hdue
    obtain ⟨hopen, hattempts, hlast⟩ := hdue
    have hdue : s.registers.Due now :=
      ⟨hopen, hattempts, show s.heartbeat_sec * 1200 ≤ now - s.gap.rr_last by omega⟩
    dsimp only
    split
    · rename_i hbudget
      refine ⟨_, .exhausted hdue (show kMaxGapRetries ≤ s.gap.rr_attempts by omega), ?_⟩
      have hcount : Sets
          { s.registers with gap := { s.gap with rr_attempts := s.gap.rr_attempts + 1 } } s
          { s with gap := { s.gap with rr_attempts := s.gap.rr_attempts + 1 } } :=
            ⟨rfl, rfl, le_rfl⟩
      generalize ascii _ = what
      have hreport :=
        keeps_report what { s with gap := { s.gap with rr_attempts := s.gap.rr_attempts + 1 } }
      have hdown := sets_disconnect
        (({ s with gap := { s.gap with rr_attempts := s.gap.rr_attempts + 1 } } : Session σ).report
          what)
      rw [hreport.registers, hcount.registers] at hdown
      exact (hcount.keeps hreport).trans hdown
    · rename_i hbudget
      have hbudget : s.gap.rr_attempts < kMaxGapRetries := by omega
      have hasked : Sets { s.registers with gap := ⟨true, now, s.gap.rr_attempts + 1⟩ } s
          { s with gap := ⟨s.gap.is_open, now, s.gap.rr_attempts + 1⟩ } := by
        refine ⟨?_, rfl, le_rfl⟩
        rw [hopen]
        rfl
      have hsent := sets_send_resend_request s.next_target 0
        { s with gap := ⟨s.gap.is_open, now, s.gap.rr_attempts + 1⟩ }
      rcases hsent with hkeeps | ⟨n, w, hcarries, hsets⟩
      · refine ⟨_, .asked hdue hbudget [] (.inl rfl), ?_⟩
        rw [Registers.plus_nil]
        exact hasked.keeps hkeeps
      · rw [hasked.registers] at hsets
        exact ⟨_, .asked hdue hbudget [.do_send (.sent n) w] (.inr ⟨n, w, rfl, hcarries⟩),
          hasked.trans hsets⟩
  · rename_i hidle
    refine ⟨_, .idle ?_, Keeps.refl s⟩
    rintro ⟨hopen, hattempts, hlast⟩
    have hlast : s.heartbeat_sec * 1200 ≤ now - s.gap.rr_last := hlast
    exact hidle ⟨hopen, hattempts, by omega⟩

/-! ## A tick -/

/-- An Active session before the look at its peer. -/
def beat (now hb_ms : ℤ) (s : Session σ) : Session σ :=
  if hb_ms ≤ now - s.last_send_time then s.send_heartbeat [] else s

/-- The tick of an Active session up to the look at its gap. -/
def tick_probe (s : Session σ) : Bool × Session σ :=
  (({ s with io := s.io.tick } : Session σ).beat s.io.clock_now (s.heartbeat_sec * 1000)).probe_peer
    s.io.clock_now
    (s.heartbeat_sec * 1000)

/-- The handler of the heartbeat timeout throws out of the tick. -/
def tick_throws (s : Session σ) : Bool := s.tick_probe.1

omit [IMessageStore σ] in
theorem keeps_tick (s : Session σ) : Keeps s { s with io := s.io.tick } :=
  .of_passes rfl rfl rfl rfl rfl rfl rfl rfl (Outside.passes_tick s.io)

omit [IMessageStore σ] in
theorem keeps_drain_pending_errors (s : Session σ) :
    Keeps s { s with io := s.io.drain_pending_errors } :=
  .of_passes rfl rfl rfl rfl rfl rfl rfl rfl ⟨rfl, le_rfl, Outside.notes_drain_pending_errors s.io⟩

theorem keeps_beat (now hb_ms : ℤ) (s : Session σ) : Keeps s (s.beat now hb_ms) := by
  rw [beat]
  split
  · exact keeps_send_heartbeat [] s
  · exact .refl s

omit [IMessageStore σ] in
theorem Probe.of_keeps {s₁ : Session σ} (hkeeps : Keeps s s₁) {now : ℤ} {upto upto' : ℕ}
    {thrown : Bool} {r : Registers} (h : Probe s₁ now upto thrown r) (hle : upto ≤ upto') :
    Probe s now upto' thrown r := by
  have hpending : s₁.test_req_pending = s.test_req_pending :=
    congrArg Registers.test_req_pending hkeeps.registers
  have hsent : s₁.test_req_sent_time = s.test_req_sent_time :=
    congrArg Registers.test_req_sent_time hkeeps.registers
  have hrecv : s₁.last_recv_time = s.last_recv_time :=
    congrArg Registers.last_recv_time hkeeps.registers
  have hheartbeat : s₁.heartbeat_sec = s.heartbeat_sec :=
    congrArg Registers.heartbeat_sec hkeeps.registers
  cases h with
  | quiet =>
    rw [hkeeps.registers]
    exact .quiet
  | armed hfree hsilent k hk hlt =>
    rw [hkeeps.registers, hkeeps.env]
    rw [hpending] at hfree
    rw [hheartbeat, hrecv] at hsilent
    exact .armed hfree hsilent k (hkeeps.reads.trans hk) (hlt.trans_le hle)
  | thrown hset hdeadline =>
    rw [hkeeps.registers]
    rw [hpending] at hset
    rw [hheartbeat, hsent] at hdeadline
    exact .thrown hset hdeadline
  | timed_out hset hdeadline =>
    rw [hkeeps.registers]
    rw [hpending] at hset
    rw [hheartbeat, hsent] at hdeadline
    exact .timed_out hset hdeadline

omit [IMessageStore σ] in
theorem Probe.same {now : ℤ} {upto : ℕ} {thrown : Bool} {r : Registers}
    (h : Probe s now upto thrown r) :
    r.id = s.cfg.id ∧ r.heartbeat_sec = s.heartbeat_sec := by
  cases h <;> exact ⟨rfl, rfl⟩

/-- What a tick of an Active session makes of the registers. -/
inductive TickMove (s : Session σ) (upto : ℕ) : Registers → Prop where
  | thrown {r : Registers} (hthrown : s.tick_throws = true)
      (hprobe : Probe s s.io.clock_now upto true r) :
      TickMove s upto r
  | ticked {r₁ r : Registers} (hthrown : s.tick_throws = false)
      (hprobe : Probe s s.io.clock_now upto false r₁) (hretry : Retry s s.io.clock_now r₁ r) :
      TickMove s upto r

theorem on_timer_active (hactive : s.state = .Active) :
    let s' := if s.tick_throws then s.tick_probe.2
      else s.tick_probe.2.retry_gap s.io.clock_now (s.heartbeat_sec * 1000)
    s.on_timer = { s' with io := s'.io.drain_pending_errors } := by
  rw [on_timer]
  dsimp only
  split
  · rfl
  · rename_i h
    exact absurd (hactive.symm.trans h) (by simp)
  · rename_i h
    exact absurd (hactive.symm.trans h) (by simp)
  · rename_i h _ _
    exact absurd hactive h

section Tick

variable [StoreContract σ]

/-- **The tick of an Active session.** -/
theorem sets_tick (hactive : s.state = .Active) :
    ∃ r, s.io.reads < s.on_timer.io.reads ∧ TickMove s s.on_timer.io.reads r ∧
    Sets r s s.on_timer := by
  -- a heartbeat may go out first, which leaves the registers alone
  have hfirst :=
    keeps_beat s.io.clock_now (s.heartbeat_sec * 1000) ({ s with io := s.io.tick } : Session σ)
  have hbeat := (keeps_tick s).trans hfirst
  have htarget : (({ s with io := s.io.tick } : Session σ).beat s.io.clock_now
      (s.heartbeat_sec * 1000)).next_target = s.next_target := by
    rw [beat]
    split
    · exact (talks_send_heartbeat [] _).target
    · rfl
  have hprobed : ∃ r₁, s.io.reads < s.tick_probe.2.io.reads ∧
      (∀ upto, s.tick_probe.2.io.reads ≤ upto → Probe s s.io.clock_now upto s.tick_throws r₁) ∧
      Sets r₁ s s.tick_probe.2 ∧ s.tick_probe.2.next_target = s.next_target := by
    rw [tick_throws, tick_probe]
    generalize ({ s with io := s.io.tick } : Session σ).beat s.io.clock_now
      (s.heartbeat_sec * 1000) = s₁ at *
    have hheartbeat : s₁.heartbeat_sec = s.heartbeat_sec :=
      congrArg Registers.heartbeat_sec hbeat.registers
    obtain ⟨r₁, hprobe, hsets⟩ := sets_probe_peer s.io.clock_now s₁
    rw [hheartbeat] at hprobe hsets
    exact ⟨r₁, hfirst.reads.trans hsets.reads, fun upto hle => hprobe.of_keeps hbeat hle,
      hbeat.sets hsets,
      ((refuses_probe_peer _ _ s₁).target).trans htarget⟩
  obtain ⟨r₁, hread, hprobe, hsets, hnext⟩ := hprobed
  rw [on_timer_active hactive]
  split
  · rename_i hthrows
    rw [hthrows] at hprobe
    exact ⟨r₁, hread, .thrown hthrows (hprobe _ le_rfl), hsets.keeps (keeps_drain_pending_errors _)⟩
  · rename_i hthrows
    have hthrows : s.tick_throws = false := by simpa using hthrows
    rw [hthrows] at hprobe
    obtain ⟨hid, hheartbeat⟩ := (hprobe _ le_rfl).same
    generalize s.tick_probe.2 = s₂ at *
    have hsame : s₂.heartbeat_sec = s.heartbeat_sec :=
      (congrArg Registers.heartbeat_sec hsets.registers).trans hheartbeat
    have hsame_id : s₂.cfg.id = s.cfg.id := (congrArg Registers.id hsets.registers).trans hid
    obtain ⟨r, hretry, hretried⟩ := sets_retry_gap s.io.clock_now s₂
    rw [hsets.registers] at hretry
    rw [hsame] at hretried
    refine ⟨r, hread.trans_le hretried.reads, .ticked hthrows (hprobe _ hretried.reads) ?_,
      (hsets.trans hretried).keeps (keeps_drain_pending_errors _)⟩
    cases hretry with
    | idle h => exact .idle h
    | asked h hbudget reqs hreqs =>
      rw [Asks, hsame_id, hnext] at hreqs
      exact .asked h hbudget reqs hreqs
    | exhausted h hbudget => exact .exhausted h hbudget

end Tick

theorem sets_on_timer_idle (hidle : s.state ≠ .Active) :
    Keeps s s.on_timer ∨
      ∃ es, Farewell es ∧ Sets (s.registers.down.plus es) s s.on_timer := by
  have htick := keeps_tick s
  have hheartbeat := htick.trans (keeps_send_heartbeat [] _)
  have hdown : ∀ s' : Session σ, Keeps s s' →
      Sets (s.registers.down.plus []) s
        { s'.disconnect with io := s'.disconnect.io.drain_pending_errors } := by
    intro s' hkeeps
    have hdown := sets_disconnect s'
    rw [hkeeps.registers] at hdown
    rw [Registers.plus_nil]
    exact (hkeeps.sets hdown).keeps (keeps_drain_pending_errors _)
  rw [on_timer]
  dsimp only
  split
  · exact absurd ‹s.state = .Active› hidle
  · split
    · exact .inr ⟨[], farewell_nil, hdown _ htick⟩
    · exact .inl (htick.trans (keeps_drain_pending_errors _))
  · split
    · obtain ⟨es, hes, hnotified⟩ :=
        sets_notify_logout (ascii "logout timeout") ({ s with io := s.io.tick } : Session σ)
      have hends :=
        sets_disconnect
          (({ s with io := s.io.tick } : Session σ).notify_logout (ascii "logout timeout"))
      rw [hnotified.registers] at hends
      refine .inr ⟨es, hes, Sets.keeps ?_ (keeps_drain_pending_errors _)⟩
      exact htick.sets (hnotified.trans hends)
    · split
      · exact .inl (hheartbeat.trans (keeps_drain_pending_errors _))
      · exact .inl (htick.trans (keeps_drain_pending_errors _))
  · exact .inl (htick.trans (keeps_drain_pending_errors _))

/-! ## Any call -/

/-- The session hears of its peer: a message is processed, or a connection is made. -/
def Hears (s : Session σ) (c : Call) : Prop :=
  (s.state ≠ .Disconnected ∧ ∃ msg, c = .message msg) ∨ c = .transport_connected

/-- What a call makes of the registers, with readings of the clock before `upto`. -/
inductive RegisterMove (s : Session σ) (upto : ℕ) : Call → Registers → Prop where
  | kept {c : Call} (h : ¬Hears s c) : RegisterMove s upto c s.registers
  | buffered (parser : StreamParser) :
      RegisterMove s upto (.buffer parser) { s.registers with parser := parser }
  | message {msg : Message} {r : Registers} (hup : s.state ≠ .Disconnected) (k : ℕ)
      (hk : s.io.reads ≤ k) (hlt : k < upto)
      (h : MessageMove msg s upto (s.registers.heard (s.io.env.clock k)) r) :
      RegisterMove s upto (.message msg) r
  | ticked {r : Registers} (hactive : s.state = .Active) (hlt : s.io.reads < upto)
      (h : TickMove s upto r) :
      RegisterMove s upto .timer r
  | expired (es : List Event) (hes : Farewell es) :
      RegisterMove s upto .timer (s.registers.down.plus es)
  /-- A ResendRequest of the application. -/
  | requested {c : Call} (e : Event) (hc : (∃ msg, c = .send msg) ∨ ∃ raw, c = .send_raw raw) :
      RegisterMove s upto c (s.registers.note e)
  | greeted (st : SessionState) (hst : st ≠ .Active) (gap : Gap)
      (hgap : gap = s.gap ∨ gap = .closed) :
      RegisterMove s upto .logon { s.registers with state := st, gap := gap }
  | logged_out (reason : Bytes) :
      RegisterMove s upto (.logout reason) { s.registers with state := .LogoutSent }
  | dropped : RegisterMove s upto .disconnect s.registers.down
  | rearmed : RegisterMove s upto .reset { s.registers.down with state := .NotConnected }
  | connected (st : SessionState) (hst : st ≠ .Active) (hlt : s.io.reads < upto) :
      RegisterMove s upto .transport_connected
        { s.registers.down.heard (s.io.env.clock s.io.reads) with state := st }

theorem state_send_logon (hdown : s.state = .NotConnected ∨ s.state = .Disconnected) :
    s.send_logon.2.state ≠ .Active := by
  rcases (send_logon_cases False s).2 with ⟨-, hhand, -⟩ | ⟨-, hsame⟩
  · rw [hhand, handshake_state]
    split <;> decide
  · rw [hsame]
    rcases hdown with h | h <;> rw [h] <;> decide

theorem sets_logon (s : Session σ) :
    ∃ r, RegisterMove s s.logon.2.io.reads .logon r ∧ Sets r s s.logon.2 := by
  rw [logon]
  split
  · exact ⟨_, .kept (by simp [Hears]), Keeps.refl s⟩
  · rename_i hstate
    have hdown : s.state = .NotConnected ∨ s.state = .Disconnected := by tauto
    obtain ⟨gap, hgap, hsets⟩ := greets_send_logon s
    exact ⟨_, .greeted _ (state_send_logon hdown) gap hgap, hsets⟩

theorem sets_logout (reason : Bytes) (s : Session σ) :
    ∃ r, RegisterMove s (s.logout reason).2.io.reads (.logout reason) r ∧
    Sets r s (s.logout reason).2 := by
  rw [logout]
  split
  · exact ⟨_, .kept (by simp [Hears]), Keeps.refl s⟩
  · rename_i hstate
    have hsent : Keeps s (s.send_message (logout_message reason)).2 :=
      keeps_send_message (by rw [msg_type_logout]; decide) s
    have hup : (s.send_message (logout_message reason)).2.state ≠ .Disconnected := by
      have hsame : (s.send_message (logout_message reason)).2.state = s.state :=
        congrArg Registers.state hsent.registers
      rw [hsame]
      intro hdown
      exact hstate (by rw [hdown]; decide)
    refine ⟨_, .logged_out reason, hsent.sets ?_⟩
    refine ⟨?_, rfl, Nat.le_succ _⟩
    rw [← hsent.registers]
    show (_ : Session σ).mark_logout.registers = _
    rw [mark_logout, if_neg hup]
    rfl

theorem sets_reset (s : Session σ) :
    ∃ r, RegisterMove s s.reset.2.io.reads .reset r ∧ Sets r s s.reset.2 := by
  rw [reset]
  split
  · exact ⟨_, .kept (by simp [Hears]), Keeps.refl s⟩
  · refine ⟨_, .rearmed, ?_⟩
    have hio := Outside.passes_emit s.io (e := .store_reset) rfl
    refine ⟨?_, hio.env, hio.reads⟩
    simp only [registers, Registers.down, ← hio.notes]
    rfl

theorem sets_transport_connected (s : Session σ) :
    ∃ r, RegisterMove s s.on_transport_connected.io.reads .transport_connected r ∧
    Sets r s s.on_transport_connected := by
  rw [on_transport_connected]
  dsimp only
  split
  · generalize hst : (if s.state = .NotConnected then s.state else .Disconnected) = st
    have hdown : st = .NotConnected ∨ st = .Disconnected := by
      rw [← hst]
      split
      · exact .inl ‹_›
      · exact .inr rfl
    generalize hfresh : ({ s with
      parser := s.parser.reset, test_req_pending := false, pending_test_req_id := [], gap := .closed
      logout_notified := false, last_send_time := s.io.clock_now, last_recv_time := s.io.clock_now
      logon_sent_time := s.io.clock_now, logout_sent_time := s.io.clock_now, io := s.io.tick
      state := st } : Session σ) = s₁
    have hsets : Sets
        { s.registers.down.heard (s.io.env.clock s.io.reads) with state := st } s s₁ := by
      rw [← hfresh]
      exact ⟨rfl, rfl, Nat.le_succ _⟩
    have hstate : s₁.state = st := congrArg Registers.state hsets.registers
    have hgap : s₁.gap = .closed := congrArg Registers.gap hsets.registers
    have hread : s.io.reads < s₁.io.reads := by
      rw [← hfresh]
      exact Nat.lt_succ_self _
    have hgreeted : ∃ st', st' ≠ .Active ∧ s.io.reads < s₁.send_logon.2.io.reads ∧
        Sets { s.registers.down.heard (s.io.env.clock s.io.reads) with state := st' } s
          s₁.send_logon.2 := by
      obtain ⟨gap, hclosed, hsent⟩ := greets_send_logon s₁
      have hsame : gap = .closed := by
        rcases hclosed with h | h
        · rw [h, hgap]
        · exact h
      rw [hsame, hsets.registers] at hsent
      exact ⟨_, state_send_logon (hstate ▸ hdown), hread.trans_le hsent.reads, hsets.trans hsent⟩
    have hlogon : s₁.logon = s₁.send_logon := by
      rw [logon, if_neg]
      rw [hstate]
      tauto
    obtain ⟨st', hst', hlt, hsent⟩ := hgreeted
    rw [hlogon]
    split
    · exact ⟨_, .connected st' hst' hlt, hsent⟩
    · rename_i e _
      have hreport := keeps_report (ascii "reconnect: logon failed: " ++ e.message) s₁.send_logon.2
      exact ⟨_, .connected st' hst' (hlt.trans_le hreport.reads), hsent.keeps hreport⟩
  · exact ⟨_, .connected .WaitingLogon (by decide) (Nat.lt_succ_self _), rfl, rfl, Nat.le_succ _⟩

theorem sets_send (msg : Message) (s : Session σ) :
    ∃ r, RegisterMove s (s.send msg).2.io.reads (.send msg) r ∧ Sets r s (s.send msg).2 := by
  rw [send]
  split
  · exact ⟨_, .kept (by simp [Hears]), Keeps.refl s⟩
  · rcases sets_send_message_locked msg { s with io := s.io.acquire } with
      hkeeps | ⟨-, n, w, -, hsets⟩
    · exact ⟨_, .kept (by simp [Hears]), Sets.locked hkeeps⟩
    · exact ⟨_, .requested _ (.inl ⟨msg, rfl⟩), Sets.locked hsets⟩

theorem sets_send_raw (raw : Bytes) (s : Session σ) :
    ∃ r, RegisterMove s (s.send_raw raw).io.reads (.send_raw raw) r ∧
    Sets r s (s.send_raw raw) := by
  have hrest : ∀ s' : Session σ, Keeps s' (s'.audit_frame true raw).mark_sent :=
    fun s' => (keeps_audit_frame true raw s').trans (keeps_mark_sent _)
  by_cases hnotable : (Event.do_send .raw raw).notable = true
  · refine ⟨_, .requested (.do_send .raw raw) (.inr ⟨raw, rfl⟩),
      Sets.locked (Sets.keeps ?_ (hrest _))⟩
    refine ⟨?_, rfl, le_rfl⟩
    simp only [registers, Registers.note]
    rw [← Outside.notes_emit s.io hnotable]
    rfl
  · have hsilent : (Event.do_send .raw raw).notable = false := by simpa using hnotable
    have hemit := keeps_emit hsilent { s with io := s.io.acquire }
    exact ⟨_, .kept (by simp [Hears]), Sets.locked (hemit.trans (hrest _))⟩

/-- **What a call makes of the registers.** -/
theorem registers_call [StoreContract σ] (s : Session σ) (c : Call) :
    ∃ r, RegisterMove s (s.call c).io.reads c r ∧ Sets r s (s.call c) := by
  cases c with
  | buffer parser => exact ⟨_, .buffered parser, rfl, rfl, le_rfl⟩
  | message msg =>
    rw [call]
    split
    · rename_i hdown
      exact ⟨_, .kept (by simp [Hears, hdown]), Keeps.refl s⟩
    · rename_i hup
      obtain ⟨k, hk, hlt, r, hmove, hsets⟩ := registers_process_message msg s
      exact ⟨r, .message hup k hk hlt hmove, hsets⟩
  | timer =>
    by_cases hactive : s.state = .Active
    · obtain ⟨r, hlt, hmove, hsets⟩ := sets_tick hactive
      exact ⟨r, .ticked hactive hlt hmove, hsets⟩
    · rcases sets_on_timer_idle hactive with hkeeps | ⟨es, hes, hsets⟩
      · exact ⟨_, .kept (by simp [Hears]), hkeeps⟩
      · exact ⟨_, .expired es hes, hsets⟩
  | send msg => exact sets_send msg s
  | send_raw raw => exact sets_send_raw raw s
  | logon => exact sets_logon s
  | logout reason => exact sets_logout reason s
  | disconnect => exact ⟨_, .dropped, sets_disconnect s⟩
  | reset => exact sets_reset s
  | transport_connected => exact sets_transport_connected s

end Session

end FixEngine
