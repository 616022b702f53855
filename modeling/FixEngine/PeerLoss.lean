/-
`PeerLoss.lean` -- a peer that has fallen silent is given up.

`Silence.lean` shows that no peer is given up too early. Here is the other half. As long
as nothing is heard of the peer an Active session does three things: a tick after an
interval of silence arms the TestRequest, no other call takes it back, and a tick 1.2
intervals later ends the connection. What a call that does not hear the peer can make of
the registers is said once (`quiet_call`), and the theorem follows the three stages.

The only way around the end of the connection is a handler of the timeout that throws;
the tick then ends before `disconnect`, and the next one tries again.
-/
import FixEngine.Silence

set_option autoImplicit false

namespace FixEngine

open IMessageStore

namespace Session

variable {σ : Type} [IMessageStore σ] {s : Session σ}

/-! ## Two ticks -/

theorem keeps_before_probe (s : Session σ) :
    Keeps s
      (({ s with io := s.io.tick } : Session σ).beat s.io.clock_now (s.heartbeat_sec * 1000)) :=
  (keeps_tick s).trans (keeps_beat _ _ _)

theorem tick_probe_arms (hfree : s.test_req_pending = false)
    (hsilent : s.heartbeat_sec * 1000 ≤ s.io.clock_now - s.last_recv_time) :
    s.tick_throws = false ∧ s.tick_probe.2.test_req_pending = true := by
  have hkeeps := keeps_before_probe s
  have hfree' := (congrArg Registers.test_req_pending hkeeps.registers).trans hfree
  have hrecv := congrArg Registers.last_recv_time hkeeps.registers
  rw [tick_throws, tick_probe]
  generalize ({ s with io := s.io.tick } : Session σ).beat s.io.clock_now
    (s.heartbeat_sec * 1000) = s₁ at *
  have hfree' : s₁.test_req_pending = false := hfree'
  have hrecv : s₁.last_recv_time = s.last_recv_time := hrecv
  rw [probe_peer, if_pos (by rw [hfree']; rfl), hrecv, if_pos hsilent]
  have hsets := (sets_send_test_request s₁).2
  exact ⟨rfl, congrArg Registers.test_req_pending hsets.registers⟩

theorem tick_probe_ends (hpending : s.test_req_pending = true)
    (hdeadline : s.heartbeat_sec * 1200 ≤ s.io.clock_now - s.test_req_sent_time)
    (hthrown : s.tick_throws = false) :
    s.tick_probe.2.state = .Disconnected := by
  have hkeeps := keeps_before_probe s
  have hpending' := (congrArg Registers.test_req_pending hkeeps.registers).trans hpending
  have hsent := congrArg Registers.test_req_sent_time hkeeps.registers
  rw [tick_throws, tick_probe] at hthrown
  rw [tick_probe]
  generalize ({ s with io := s.io.tick } : Session σ).beat s.io.clock_now
    (s.heartbeat_sec * 1000) = s₁ at *
  have hpending' : s₁.test_req_pending = true := hpending'
  have hsent : s₁.test_req_sent_time = s.test_req_sent_time := hsent
  have hdue : s.heartbeat_sec * 1000 + s.heartbeat_sec * 1000 / 5 ≤
      s.io.clock_now - s₁.test_req_sent_time := by
    rw [hsent]
    omega
  rw [probe_peer, if_neg (by rw [hpending']; simp), if_pos hdue] at hthrown ⊢
  dsimp only at hthrown ⊢
  split at hthrown
  · exact absurd hthrown (by simp)
  · rename_i hquiet
    rw [if_neg hquiet]
    rfl

theorem heartbeat_sec_tick_probe (s : Session σ) :
    s.tick_probe.2.heartbeat_sec = s.heartbeat_sec := by
  have hbeat := congrArg Registers.heartbeat_sec (keeps_before_probe s).registers
  rw [tick_probe]
  generalize ({ s with io := s.io.tick } : Session σ).beat s.io.clock_now
    (s.heartbeat_sec * 1000) = s₁ at *
  have hbeat : s₁.heartbeat_sec = s.heartbeat_sec := hbeat
  obtain ⟨r, hprobe, hsets⟩ := sets_probe_peer s.io.clock_now s₁
  rw [hbeat] at hprobe hsets
  exact (congrArg Registers.heartbeat_sec hsets.registers).trans (hprobe.same.2.trans hbeat)

theorem on_timer_keeps_probe (hactive : s.state = .Active) (hthrown : s.tick_throws = false) :
    s.on_timer.state = .Disconnected ∨
      s.on_timer.state = s.tick_probe.2.state ∧
      s.on_timer.test_req_pending = s.tick_probe.2.test_req_pending := by
  have hsec := heartbeat_sec_tick_probe s
  have htimer := on_timer_active hactive
  rw [hthrown, if_neg Bool.false_ne_true] at htimer
  rw [htimer]
  generalize s.tick_probe.2 = s₂ at *
  obtain ⟨r, hretry, hsets⟩ := sets_retry_gap s.io.clock_now s₂
  rw [hsec] at hsets
  have hstate := congrArg Registers.state hsets.registers
  have hset := congrArg Registers.test_req_pending hsets.registers
  cases hretry with
  | idle h => exact .inr ⟨hstate, hset⟩
  | asked h hbudget reqs hreqs => exact .inr ⟨hstate, hset⟩
  | exhausted h hbudget => exact .inl hstate

theorem on_timer_arms (hactive : s.state = .Active) (hfree : s.test_req_pending = false)
    (hsilent : s.heartbeat_sec * 1000 ≤ s.io.clock_now - s.last_recv_time)
    (hafter : s.on_timer.state = .Active) :
    s.on_timer.test_req_pending = true := by
  obtain ⟨hthrown, harmed⟩ := tick_probe_arms hfree hsilent
  rcases on_timer_keeps_probe hactive hthrown with hdown | ⟨-, hsame⟩
  · exact absurd (hafter.symm.trans hdown) (by simp)
  · exact hsame.trans harmed

theorem on_timer_ends (hactive : s.state = .Active) (hpending : s.test_req_pending = true)
    (hdeadline : s.heartbeat_sec * 1200 ≤ s.io.clock_now - s.test_req_sent_time)
    (hthrown : s.tick_throws = false) :
    s.on_timer.state = .Disconnected := by
  have hends := tick_probe_ends hpending hdeadline hthrown
  rcases on_timer_keeps_probe hactive hthrown with hdown | ⟨hsame, -⟩
  · exact hdown
  · exact hsame.trans hends

/-! ## Silence -/

section Quiet

variable [StoreContract σ]

/-- Of `s`, the session `s'` with the registers `r` has kept what it knows of its peer: the
interval, the time of the last message and the pending TestRequest. One that was not pending
was sent at a reading before `upto`. -/
structure StillWaits (s : Session σ) (upto : ℕ) (r : Registers) : Prop where
  active : s.state = .Active
  sec : r.heartbeat_sec = s.heartbeat_sec
  recv : r.last_recv_time = s.last_recv_time
  pending : s.test_req_pending = true → r.test_req_pending = true ∧
    r.test_req_sent_time = s.test_req_sent_time
  armed : s.test_req_pending = false → r.test_req_pending = true →
    ∃ k, s.io.reads ≤ k ∧ k < upto ∧ r.test_req_sent_time = s.io.env.clock k

omit [IMessageStore σ] [StoreContract σ] in
theorem StillWaits.of_eq {upto : ℕ} {r : Registers} (hactive : s.state = .Active)
    (hsec : r.heartbeat_sec = s.heartbeat_sec) (hrecv : r.last_recv_time = s.last_recv_time)
    (hset : r.test_req_pending = s.test_req_pending)
    (hsent : r.test_req_sent_time = s.test_req_sent_time) :
    StillWaits s upto r :=
  ⟨hactive, hsec, hrecv, fun h => ⟨hset.trans h, hsent⟩,
    fun hfree h => absurd (h.symm.trans (hset.trans hfree)) (by simp)⟩

omit [StoreContract σ] in
theorem TickMove.still_waits {upto : ℕ} {r : Registers} (h : TickMove s upto r)
    (hbefore : s.state = .Active) (hactive : r.state = .Active) : StillWaits s upto r := by
  cases h with
  | thrown hthrown hprobe =>
    cases hprobe with
    | thrown hpending hdeadline => exact .of_eq hbefore rfl rfl rfl rfl
  | @ticked r₁ _ hthrown hprobe hretry =>
    obtain ⟨hrecv, hsent, hsec, -⟩ := hretry.peer
    -- the look at the gap either leaves the rest alone or ends the session
    have hkept : r.test_req_pending = r₁.test_req_pending ∧ r₁.state = .Active := by
      cases hretry with
      | idle h => exact ⟨rfl, hactive⟩
      | asked h hbudget reqs hreqs => exact ⟨rfl, hactive⟩
      | exhausted h hbudget => exact absurd hactive (by simp [Registers.down])
    cases hprobe with
    | quiet => exact .of_eq hbefore hsec hrecv hkept.1 hsent
    | armed hfree hsilent k hk hlt =>
      refine ⟨hbefore, hsec, hrecv, fun hset => absurd (hset.symm.trans hfree) (by simp),
        fun _ _ => ?_⟩
      exact ⟨k, hk, hlt, hsent⟩
    | timed_out hset hdeadline => exact absurd hkept.2 (by simp [Registers.down])

/-- **A call that does not hear the peer** leaves an Active session as it found it. -/
theorem quiet_call {c : Call} (hquiet : ¬Hears s c) (hactive : (s.call c).state = .Active) :
    StillWaits s (s.call c).io.reads (s.call c).registers := by
  obtain ⟨r, hmove, hsets⟩ := registers_call s c
  replace hactive : r.state = .Active :=
    (congrArg Registers.state hsets.registers).symm.trans hactive
  rw [hsets.registers]
  cases hmove with
  | kept h => exact .of_eq hactive rfl rfl rfl rfl
  | buffered parser => exact .of_eq hactive rfl rfl rfl rfl
  | message hup k hk hlt h => exact absurd (.inl ⟨hup, _, rfl⟩) hquiet
  | ticked hbefore hlt h => exact h.still_waits hbefore hactive
  | expired es hes => exact absurd hactive (by simp [Registers.plus, Registers.down])
  | requested e hc => exact .of_eq hactive rfl rfl rfl rfl
  | greeted st hst gap hgap => exact absurd hactive hst
  | logged_out reason => exact absurd hactive (by simp)
  | dropped => exact absurd hactive (by simp [Registers.down])
  | rearmed => exact absurd hactive (by simp)
  | connected st hst hlt => exact absurd (.inr rfl) hquiet

omit [StoreContract σ] in
theorem Silent.left {calls more : List Call} (h : Silent s (calls ++ more)) : Silent s calls := by
  intro pre c post hcalls
  exact h pre c (post ++ more) (by rw [hcalls]; simp)

omit [StoreContract σ] in
theorem Silent.right {calls more : List Call} (h : Silent s (calls ++ more)) :
    Silent (s.run calls) more := by
  intro pre c post hmore
  rw [← run_append]
  exact h (calls ++ pre) c post (by rw [hmore]; simp)

theorem reads_run (s : Session σ) (calls : List Call) : s.io.reads ≤ (s.run calls).io.reads := by
  induction calls using List.reverseRecOn with
  | nil => exact le_rfl
  | append_singleton calls c ih =>
    obtain ⟨r, -, hsets⟩ := registers_call (s.run calls) c
    rw [run_concat]
    exact ih.trans hsets.reads

/-- **A silent stretch.** What was known of the peer before it is still known at its end. -/
theorem quiet_run {calls : List Call} (hsilent : Silent s calls)
    (hactive : (s.run calls).state = .Active) :
    StillWaits s (s.run calls).io.reads (s.run calls).registers := by
  induction calls using List.reverseRecOn with
  | nil => exact .of_eq hactive rfl rfl rfl rfl
  | append_singleton calls c ih =>
    have hquiet : ¬Hears (s.run calls) c := hsilent calls c [] rfl
    rw [run_concat] at hactive ⊢
    have hlast := quiet_call hquiet hactive
    have hrest := ih hsilent.left hlast.active
    refine ⟨hrest.active, hlast.sec.trans hrest.sec, hlast.recv.trans hrest.recv, ?_, ?_⟩
    · intro hset
      obtain ⟨hkept, hsent⟩ := hrest.pending hset
      obtain ⟨hkept', hsent'⟩ := hlast.pending hkept
      exact ⟨hkept', hsent'.trans hsent⟩
    · -- it was sent in the last call, or it was there before that
      intro hfree hset
      rcases hthere : (s.run calls).test_req_pending with _ | _
      · obtain ⟨k, hk, hlt, hsent⟩ := hlast.armed hthere hset
        exact ⟨k, (reads_run s calls).trans hk, hlt, hsent.trans (by rw [env_run])⟩
      · obtain ⟨k, hk, hlt, hsent⟩ := hrest.armed hfree hthere
        obtain ⟨r, -, hsets⟩ := registers_call (s.run calls) c
        exact ⟨k, hk, hlt.trans_le hsets.reads, (hlast.pending hthere).2.trans hsent⟩

theorem sent_in_the_past (cfg : SessionConfig) (store : σ) (env : Env) (hclock : Monotone env.clock)
    (calls : List Call) (hset : ((create cfg store env).run calls).test_req_pending = true) :
    ((create cfg store env).run calls).test_req_sent_time ≤ env.clock
    ((create cfg store env).run calls).io.reads := by
  have hwatched : Watched (create cfg store env) calls
      ((create cfg store env).run calls).registers :=
    watched_run hclock rfl calls
  obtain ⟨heard, hpending, -⟩ := hwatched.pending hset
  obtain ⟨pre, post, hcalls, -, -, ⟨k, hk, hlt, hsent⟩, -, -⟩ := hpending.tick
  have hreads := reads_run (((create cfg store env).run pre).call .timer) post
  have hrun :
      (create cfg store env).run calls =
      (((create cfg store env).run pre).call .timer).run post := by
    rw [hcalls, run_append]
    rfl
  rw [env_run] at hsent
  have hle : k ≤ ((create cfg store env).run calls).io.reads := by
    rw [hrun]
    exact hlt.le.trans hreads
  exact hsent.trans_le (hclock hle)

/-- **A dead peer is detected.** From the reachable session `s` on nothing is heard of the peer.
The timer ticks at `s₁`, an interval or more after the last message, and again at `s₂`, 1.2
intervals or more after the end of the first tick, where the handler of the timeout does not
throw. Whatever else is called before, between and after the two ticks, the session is Active
no longer. -/
theorem dead_peer_detected (cfg : SessionConfig) (store : σ) (env : Env)
    (hclock : Monotone env.clock) (calls before between after : List Call) (s s₁ s₂ : Session σ)
    (hs : s = (create cfg store env).run calls) (hs₁ : s₁ = s.run before)
    (hs₂ : s₂ = s₁.on_timer.run between)
    (hsilent : Silent s (before ++ .timer :: (between ++ .timer :: after)))
    (hfirst : s.last_recv_time + s.heartbeat_sec * 1000 ≤ s₁.io.clock_now)
    (hsecond : s₁.on_timer.io.clock_now + s.heartbeat_sec * 1200 ≤ s₂.io.clock_now)
    (hthrown : s₂.tick_throws = false) : (s₂.on_timer.run after).state ≠ .Active := by
  intro hactive
  -- the stretch in its five parts, read from the end: the session was Active all along
  have htail : Silent s₁ ([.timer] ++ (between ++ .timer :: after)) := hs₁ ▸ hsilent.right
  have hrest : Silent s₁.on_timer (between ++ ([.timer] ++ after)) := htail.right
  have hthen : Silent s₂ ([.timer] ++ after) := hs₂ ▸ hrest.right
  have hend : s₂.on_timer.state = .Active := (quiet_run hthen.right hactive).active
  have hquiet : ∀ s' : Session σ, ¬Hears s' .timer := fun s' => by simp [Hears]
  have hactive₂ : s₂.state = .Active := (quiet_call (hquiet s₂) hend).active
  have hwait₂ : StillWaits s₁.on_timer s₂.io.reads s₂.registers := by
    rw [hs₂] at hactive₂ ⊢
    exact quiet_run hrest.left hactive₂
  have htick : StillWaits s₁ s₁.on_timer.io.reads s₁.on_timer.registers :=
    quiet_call (hquiet s₁) hwait₂.active
  have hwait₁ : StillWaits s s₁.io.reads s₁.registers := by
    have hactive₁ := htick.active
    rw [hs₁] at hactive₁ ⊢
    exact quiet_run hsilent.left hactive₁
  have henv : s₁.io.env = env := by rw [hs₁, hs, ← run_append, env_run]; rfl
  have henv' : s₁.on_timer.io.env = env := (env_run s₁ [.timer]).trans henv
  have hsec₁ : s₁.heartbeat_sec = s.heartbeat_sec := hwait₁.sec
  have hrecv₁ : s₁.last_recv_time = s.last_recv_time := hwait₁.recv
  -- after the first tick a TestRequest is pending, and it was sent before the end of the tick
  have harmed : s₁.on_timer.test_req_pending = true ∧
      s₁.on_timer.test_req_sent_time ≤ s₁.on_timer.io.clock_now := by
    rw [Outside.clock_now, henv']
    rcases hset : s₁.test_req_pending with _ | _
    · have hnow := on_timer_arms htick.active hset (by rw [hsec₁, hrecv₁]; omega) hwait₂.active
      obtain ⟨k, -, hlt, hsent⟩ := htick.armed hset hnow
      exact ⟨hnow, hsent.trans_le (by rw [henv]; exact hclock hlt.le)⟩
    · obtain ⟨hnow, hsent⟩ := htick.pending hset
      have hpast : s₁.test_req_sent_time ≤ env.clock s₁.io.reads := by
        rw [hs₁, hs, ← run_append] at hset ⊢
        exact sent_in_the_past cfg store env hclock _ hset
      exact ⟨hnow, hsent.trans_le (hpast.trans (hclock (reads_run s₁ [.timer])))⟩
  obtain ⟨hset₂, hsent₂⟩ := hwait₂.pending harmed.1
  have hsec₂ : s₂.heartbeat_sec = s.heartbeat_sec := (hwait₂.sec.trans htick.sec).trans hsec₁
  have hsent₂ : s₂.test_req_sent_time = s₁.on_timer.test_req_sent_time := hsent₂
  -- so the second tick finds it overdue
  have hdown :=
    on_timer_ends hactive₂ hset₂ (by rw [hsec₂, hsent₂]; have := harmed.2; omega) hthrown
  exact absurd (hend.symm.trans hdown) (by simp)

end Quiet

theorem silent_of_local {calls : List Call}
    (h : ∀ c ∈ calls, (∀ msg, c ≠ .message msg) ∧ c ≠ .transport_connected) : Silent s calls := by
  rintro pre c post rfl (⟨-, msg, hc⟩ | hc)
  · exact (h c (by simp)).1 msg hc
  · exact (h c (by simp)).2 hc

/-- The client after its handshake, with forty seconds between two readings of the clock. -/
def slow_client : Session MemoryStore :=
  (create quiet_config MemoryStore.create slow_env).run [.logon, .message broker_logon]

theorem dead_peer_detected_client :
    slow_client.state = .Active ∧
      ((slow_client.on_timer.run [.send_raw []]).on_timer.run [.send order]).state ≠ .Active := by
  have hactive : slow_client.state = .Active := by decide
  have hsilent : Silent slow_client
      ([] ++ .timer :: ([.send_raw []] ++ .timer :: [.send order])) := by
    apply silent_of_local
    simp
  have hrun : slow_client = (create quiet_config MemoryStore.create slow_env).run
      [.logon, .message broker_logon] := by
    rw [slow_client]
  have hfirst : slow_client.last_recv_time + slow_client.heartbeat_sec * 1000 ≤
      slow_client.io.clock_now := by decide
  have hsecond : slow_client.on_timer.io.clock_now + slow_client.heartbeat_sec * 1200 ≤
      (slow_client.on_timer.run [.send_raw []]).io.clock_now := by decide
  have hthrown : (slow_client.on_timer.run [.send_raw []]).tick_throws = false := by decide
  exact ⟨hactive, dead_peer_detected quiet_config MemoryStore.create slow_env monotone_slow_env
    [.logon, .message broker_logon] [] [.send_raw []] [.send order] slow_client slow_client
    (slow_client.on_timer.run [.send_raw []]) hrun (by rw [run, List.foldl_nil]) rfl hsilent hfirst
      hsecond hthrown⟩

end Session

end FixEngine
