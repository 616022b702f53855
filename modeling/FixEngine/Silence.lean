/-
`Silence.lean` -- when a session gives its peer up.

A TestRequest goes out after an interval without a message, and the timeout comes 1.2
intervals after the TestRequest. The flag, the two times and the interval are written by
messages, ticks, connections and the end of a connection in any order. What holds in every
run is that the time of the last message is that of the last call in which the peer was
heard, and that a pending TestRequest was sent by a tick after which it was not heard.
-/
import FixEngine.Timers

set_option autoImplicit false

namespace FixEngine

open IMessageStore

namespace Session

variable {σ : Type} [IMessageStore σ] {s s₀ : Session σ} {calls : List Call}

/-- `t` is a reading of the clock that the call takes. -/
def ReadsAt (s : Session σ) (c : Call) (t : ℤ) : Prop :=
  ∃ k, s.io.reads ≤ k ∧ k < (s.call c).io.reads ∧ t = s.io.env.clock k

/-- The peer is not heard in the calls. -/
def Silent (s : Session σ) (calls : List Call) : Prop :=
  ∀ pre c post, calls = pre ++ c :: post → ¬Hears (s.run pre) c

/-- `t` is the time at which the peer was last heard, or at which the session was made. -/
inductive LastHeard (s₀ : Session σ) : List Call → ℤ → Prop where
  | start {calls : List Call} (h : Silent s₀ calls) : LastHeard s₀ calls s₀.last_recv_time
  | heard {pre : List Call} {c : Call} {post : List Call} {t : ℤ} (hc : Hears (s₀.run pre) c)
      (ht : ReadsAt (s₀.run pre) c t) (h : Silent (s₀.run (pre ++ [c])) post) :
        LastHeard s₀ (pre ++ c :: post) t

/-- There is no call in which the peer could be heard. -/
theorem silent_nil (s : Session σ) : Silent s [] := by
  intro pre c post h
  exact absurd h (by simp)

/-- One more call in which it is not heard. -/
theorem Silent.concat {c : Call} (h : Silent s calls) (hc : ¬Hears (s.run calls) c) :
    Silent s (calls ++ [c]) := by
  intro pre d post hcalls
  rcases List.eq_nil_or_concat' post with rfl | ⟨post, e, rfl⟩
  · obtain ⟨rfl, hd⟩ := List.append_inj' hcalls rfl
    rw [List.cons.inj hd |>.1] at hc
    exact hc
  · have hsplit : calls ++ [c] = (pre ++ d :: post) ++ [e] := by
      rw [hcalls]
      simp
    exact h pre d post (List.append_inj' hsplit rfl).1

theorem LastHeard.concat {c : Call} {t : ℤ} (h : LastHeard s₀ calls t)
    (hc : ¬Hears (s₀.run calls) c) :
    LastHeard s₀ (calls ++ [c]) t := by
  cases h with
  | start h => exact .start (h.concat hc)
  | @heard pre d post t hd ht h =>
    rw [List.append_assoc, List.cons_append]
    refine .heard hd ht (h.concat ?_)
    rw [← run_append, List.append_assoc]
    exact hc

/-! ## One call -/

/-- What a call makes of the times of the peer. -/
inductive PeerMove (s : Session σ) (upto : ℕ) (c : Call) (r : Registers) : Prop where
  | quiet (hquiet : ¬Hears s c) (hrecv : r.last_recv_time = s.last_recv_time)
      (hpending : r.test_req_pending = true → s.test_req_pending = true ∧
        r.test_req_sent_time = s.test_req_sent_time ∧ r.heartbeat_sec = s.heartbeat_sec)
  | armed (hc : c = .timer) (hrecv : r.last_recv_time = s.last_recv_time)
      (hfree : s.test_req_pending = false) (hset : r.test_req_pending = true)
      (hsec : r.heartbeat_sec = s.heartbeat_sec) (k : ℕ) (hk : s.io.reads ≤ k) (hlt : k < upto)
      (hsent : r.test_req_sent_time = s.io.env.clock k)
      (hsilent : s.heartbeat_sec * 1000 ≤ s.io.clock_now - s.last_recv_time)
  | heard (hheard : Hears s c) (hfree : r.test_req_pending = false) (k : ℕ) (hk : s.io.reads ≤ k)
      (hlt : k < upto) (hrecv : r.last_recv_time = s.io.env.clock k)

theorem Retry.peer {now : ℤ} {r r' : Registers} (h : Retry s now r r') :
    r'.last_recv_time = r.last_recv_time ∧ r'.test_req_sent_time = r.test_req_sent_time ∧
      r'.heartbeat_sec = r.heartbeat_sec ∧
      (r'.test_req_pending = r.test_req_pending ∨ r'.test_req_pending = false) := by
  cases h with
  | idle h => exact ⟨rfl, rfl, rfl, .inl rfl⟩
  | asked h hbudget reqs hreqs => exact ⟨rfl, rfl, rfl, .inl rfl⟩
  | exhausted h hbudget => exact ⟨rfl, rfl, rfl, .inr rfl⟩

/-- A tick hears nobody: it leaves the times alone, or arms the TestRequest after an interval of
silence. -/
theorem TickMove.peer {upto : ℕ} {r : Registers} (h : TickMove s upto r) :
    PeerMove s upto .timer r := by
  have hquiet : ¬Hears s .timer := by simp [Hears]
  cases h with
  | thrown hthrown hprobe =>
    cases hprobe with
    | thrown hpending hdeadline => exact .quiet hquiet rfl fun h => ⟨h, rfl, rfl⟩
  | @ticked r₁ _ hthrown hprobe hretry =>
    obtain ⟨hrecv, hsent, hsec, hpending⟩ := hretry.peer
    cases hprobe with
    | quiet =>
      refine .quiet hquiet hrecv fun h => ?_
      rcases hpending with hsame | hfree
      · exact ⟨hsame.symm.trans h, hsent, hsec⟩
      · exact absurd (h.symm.trans hfree) (by simp)
    | armed hfree hsilent k hk hlt =>
      rcases hpending with hsame | hnone
      · exact .armed rfl hrecv hfree hsame hsec k hk hlt hsent hsilent
      · exact .quiet hquiet hrecv fun h => absurd (h.symm.trans hnone) (by simp)
    | timed_out hset hdeadline =>
      refine .quiet hquiet hrecv fun h => ?_
      rcases hpending with hsame | hnone
      · exact absurd (hsame.symm.trans h) Bool.false_ne_true
      · exact absurd (h.symm.trans hnone) (by simp)

/-- **What each call makes of the times of the peer.** -/
theorem RegisterMove.peer {upto : ℕ} {c : Call} {r : Registers} (h : RegisterMove s upto c r) :
    PeerMove s upto c r := by
  cases h with
  | kept h => exact .quiet h rfl fun h => ⟨h, rfl, rfl⟩
  | buffered parser => exact .quiet (by simp [Hears]) rfl fun h => ⟨h, rfl, rfl⟩
  | message hup k hk hlt h =>
    -- whatever the message does, it is noted first
    have hnoted : r.test_req_pending = false ∧ r.last_recv_time = s.io.env.clock k := by
      cases h <;> exact ⟨rfl, rfl⟩
    exact .heard (.inl ⟨hup, _, rfl⟩) hnoted.1 k hk hlt hnoted.2
  | ticked hactive hlt h => exact h.peer
  | expired es hes => exact .quiet (by simp [Hears]) rfl (fun h => absurd h Bool.false_ne_true)
  | requested e hc =>
    refine .quiet ?_ rfl fun h => ⟨h, rfl, rfl⟩
    rcases hc with ⟨msg, rfl⟩ | ⟨raw, rfl⟩ <;> simp [Hears]
  | greeted st hst gap hgap => exact .quiet (by simp [Hears]) rfl fun h => ⟨h, rfl, rfl⟩
  | logged_out reason => exact .quiet (by simp [Hears]) rfl fun h => ⟨h, rfl, rfl⟩
  | dropped => exact .quiet (by simp [Hears]) rfl (fun h => absurd h Bool.false_ne_true)
  | rearmed => exact .quiet (by simp [Hears]) rfl (fun h => absurd h Bool.false_ne_true)
  | connected st hst hlt => exact .heard (.inr rfl) rfl _ le_rfl hlt rfl

/-! ## Runs -/

/-- A TestRequest is pending since a tick at the time `sent`, before which the peer was last
heard at the time `heard`, and after which it was not. -/
structure Pending (s₀ : Session σ) (calls : List Call) (heard sent : ℤ) : Prop where
  tick : ∃ pre post, calls = pre ++ .timer :: post ∧ (s₀.run pre).test_req_pending = false ∧
    (s₀.run (pre ++ [.timer])).test_req_pending = true ∧ ReadsAt (s₀.run pre) .timer sent ∧
    LastHeard s₀ pre heard ∧ Silent (s₀.run (pre ++ [.timer])) post
  silence : LastHeard s₀ calls heard

theorem Pending.concat {c : Call} {heard sent : ℤ} (h : Pending s₀ calls heard sent)
    (hc : ¬Hears (s₀.run calls) c) :
    Pending s₀ (calls ++ [c]) heard sent := by
  obtain ⟨pre, post, hcalls, hfree, hset, hsent, hheard, hsilent⟩ := h.tick
  refine ⟨⟨pre, post ++ [c], by rw [hcalls]; simp, hfree, hset, hsent, hheard, hsilent.concat ?_⟩,
    h.silence.concat hc⟩
  rw [← run_append, List.append_assoc, List.singleton_append, ← hcalls]
  exact hc

/-- The registers `r`, after the calls, tell of the peer what happened. -/
structure Watched (s₀ : Session σ) (calls : List Call) (r : Registers) : Prop where
  heard : LastHeard s₀ calls r.last_recv_time
  pending : r.test_req_pending = true → ∃ heard, Pending s₀ calls heard r.test_req_sent_time ∧
    heard + r.heartbeat_sec * 1000 ≤ r.test_req_sent_time

section Watched

variable [StoreContract σ]

/-- The environment is the same in the whole run. -/
theorem env_run (s₀ : Session σ) (calls : List Call) : (s₀.run calls).io.env = s₀.io.env := by
  induction calls using List.reverseRecOn with
  | nil => rfl
  | append_singleton calls c ih =>
    obtain ⟨r, -, hsets⟩ := registers_call (s₀.run calls) c
    rw [run_concat]
    exact hsets.env.trans ih

/-- One call keeps the registers true to what happened. The clock only has to run on: a tick
reads it before it sends. -/
theorem Watched.call (hclock : Monotone s₀.io.env.clock)
    (h : Watched s₀ calls (s₀.run calls).registers) (c : Call) :
    Watched s₀ (calls ++ [c]) (s₀.run (calls ++ [c])).registers := by
  obtain ⟨r, hmove, hsets⟩ := registers_call (s₀.run calls) c
  have hafter := run_concat s₀ calls c
  have henv := env_run s₀ calls
  rw [hafter, hsets.registers]
  cases hmove.peer with
  | quiet hquiet hrecv hpending =>
    refine ⟨hrecv ▸ h.heard.concat hquiet, ?_⟩
    intro hset
    obtain ⟨hbefore, hsent, hsec⟩ := hpending hset
    obtain ⟨heard, hheard, hinterval⟩ := h.pending hbefore
    rw [hsent, hsec]
    exact ⟨heard, hheard.concat hquiet, hinterval⟩
  | armed hc hrecv hfree hset hsec k hk hlt hsent hsilent =>
    have hquiet : ¬Hears (s₀.run calls) c := by simp [hc, Hears]
    have hheard := h.heard.concat hquiet
    refine ⟨hrecv ▸ hheard, fun _ => ⟨(s₀.run calls).last_recv_time, ⟨?_, hheard⟩, ?_⟩⟩
    · refine ⟨calls, [], by rw [hc], hfree, ?_, ?_, h.heard, silent_nil _⟩
      · rw [← hc, hafter]
        exact (congrArg Registers.test_req_pending hsets.registers).trans hset
      · rw [← hc]
        exact ⟨k, hk, hlt, hsent⟩
    · -- the TestRequest is sent after the reading of the tick
      have htick : (s₀.run calls).io.clock_now ≤ (s₀.run calls).io.env.clock k := by
        rw [Outside.clock_now, henv]
        exact hclock hk
      rw [hsec, hsent]
      omega
  | heard hheard hfree k hk hlt hrecv =>
    refine ⟨?_, fun hset => absurd (hset.symm.trans hfree) (by simp)⟩
    exact .heard hheard ⟨k, hk, hlt, hrecv⟩ (silent_nil _)

theorem watched_run (hclock : Monotone s₀.io.env.clock) (hfree : s₀.test_req_pending = false)
    (calls : List Call) :
    Watched s₀ calls (s₀.run calls).registers := by
  induction calls using List.reverseRecOn with
  | nil => exact ⟨.start (silent_nil s₀), fun hset => absurd (hset.symm.trans hfree) (by simp)⟩
  | append_singleton calls c ih => exact ih.call hclock c

/-! ## The timeout -/

/-- The tick calls `on_heartbeat_timeout`. -/
def TimesOut (s : Session σ) : Prop := .on_heartbeat_timeout ∈ new_events s s.on_timer

/-- A timeout takes a TestRequest that has been pending for 1.2 intervals. -/
def Overdue (s : Session σ) : Prop :=
  s.test_req_pending = true ∧ s.heartbeat_sec * 1200 ≤ s.io.clock_now - s.test_req_sent_time

omit [IMessageStore σ] [StoreContract σ] in
theorem Probe.notes {upto : ℕ} {thrown : Bool} {r : Registers}
    (h : Probe s s.io.clock_now upto thrown r) :
    ∃ es, r.notes = s.io.notes ++ es ∧ (.on_heartbeat_timeout ∈ es → Overdue s) := by
  cases h with
  | quiet => exact ⟨[], (List.append_nil _).symm, by simp⟩
  | armed hfree hsilent k hk hlt => exact ⟨[], (List.append_nil _).symm, by simp⟩
  | thrown hset hdeadline => exact ⟨_, rfl, fun _ => ⟨hset, hdeadline⟩⟩
  | timed_out hset hdeadline => exact ⟨_, rfl, fun _ => ⟨hset, hdeadline⟩⟩

omit [StoreContract σ] in
/-- The gap never calls it. -/
theorem Retry.notes {now : ℤ} {r r' : Registers} (h : Retry s now r r') :
    ∃ es, r'.notes = r.notes ++ es ∧ .on_heartbeat_timeout ∉ es := by
  cases h with
  | idle h => exact ⟨[], (List.append_nil _).symm, by simp⟩
  | asked h hbudget reqs hreqs =>
    refine ⟨reqs, rfl, ?_⟩
    rcases hreqs with rfl | ⟨n, w, rfl, -⟩
    · simp
    · simp
  | exhausted h hbudget => exact ⟨[], (List.append_nil _).symm, by simp⟩

omit [StoreContract σ] in
/-- So a tick calls it only then. -/
theorem RegisterMove.timeout {upto : ℕ} {r : Registers} (h : RegisterMove s upto .timer r) :
    ∃ es, r.notes = s.io.notes ++ es ∧ (.on_heartbeat_timeout ∈ es → Overdue s) := by
  cases h with
  | kept h => exact ⟨[], (List.append_nil _).symm, by simp⟩
  | ticked hactive hlt h =>
    cases h with
    | thrown hthrown hprobe => exact hprobe.notes
    | ticked hthrown hprobe hretry =>
      obtain ⟨es, hnotes, hes⟩ := hprobe.notes
      obtain ⟨more, hmore, hnone⟩ := hretry.notes
      refine ⟨es ++ more, by rw [hmore, hnotes, List.append_assoc], fun h => ?_⟩
      exact hes ((List.mem_append.mp h).resolve_right hnone)
  | expired es hes =>
    refine ⟨es, rfl, fun h => ?_⟩
    obtain ⟨reason, he⟩ := hes _ h
    simp at he
  | requested e hc => simp at hc

/-- The same, of the events of the tick. -/
theorem TimesOut.overdue (h : TimesOut s) : Overdue s := by
  obtain ⟨r, hmove, hsets⟩ := registers_call s .timer
  obtain ⟨es, hnotes, hes⟩ := hmove.timeout
  obtain ⟨more, hevents, -⟩ := (refuses_on_timer s).footprint.events
  have hnew : Event.on_heartbeat_timeout ∈ more := by
    rw [TimesOut, new_events, hevents, List.drop_left] at h
    exact h
  -- what is noted of the tick are its new events
  have hfilter : more.filter Event.notable = es := by
    have hafter : s.on_timer.io.notes = s.io.notes ++ es :=
      (congrArg Registers.notes hsets.registers).trans hnotes
    rw [Outside.notes, hevents, List.filter_append] at hafter
    exact List.append_cancel_left hafter
  apply hes
  rw [← hfilter]
  exact List.mem_filter.mpr ⟨hnew, rfl⟩

/-- **No premature heartbeat timeout.** -/
theorem no_premature_timeout (cfg : SessionConfig) (store : σ) (env : Env)
    (hclock : Monotone env.clock) (calls : List Call) (s : Session σ)
    (hs : s = (create cfg store env).run calls) (htimeout : TimesOut s) :
    ∃ heard sent, Pending (create cfg store env) calls heard sent ∧
      sent + s.heartbeat_sec * 1200 ≤ s.io.clock_now ∧ heard + s.heartbeat_sec * 1000 ≤ sent ∧
      heard + s.heartbeat_sec * 2200 ≤ s.io.clock_now := by
  obtain ⟨hset, hdeadline⟩ := htimeout.overdue
  have hwatched : Watched (create cfg store env) calls
      ((create cfg store env).run calls).registers :=
    watched_run hclock rfl calls
  rw [← hs] at hwatched
  obtain ⟨heard, hpending, hinterval⟩ := hwatched.pending hset
  have hinterval : heard + s.heartbeat_sec * 1000 ≤ s.test_req_sent_time := hinterval
  exact ⟨heard, s.test_req_sent_time, hpending, by omega, hinterval, by omega⟩

end Watched

end Session

/-- Forty seconds pass between two readings of the clock. -/
def slow_env : Env := { quiet_env with clock := fun k => 40000 * k }

/-- That clock runs on. -/
theorem monotone_slow_env : Monotone slow_env.clock := by
  intro i j hij
  have hij : (i : ℤ) ≤ j := Int.ofNat_le.mpr hij
  show (40000 : ℤ) * i ≤ 40000 * j
  omega

/-- The client after a tick in which it has sent a TestRequest. -/
def probing_session : Session MemoryStore :=
  (Session.create quiet_config MemoryStore.create slow_env).run
    [.logon, .message broker_logon, .timer]

/-- The second tick gives the peer up, and forty seconds lie between each two readings. -/
theorem no_premature_timeout_second_tick :
    probing_session.TimesOut ∧
      ∃ heard sent, sent + 36000 ≤ probing_session.io.clock_now ∧ heard + 30000 ≤ sent ∧
        Session.LastHeard (Session.create quiet_config MemoryStore.create slow_env)
          [.logon, .message broker_logon, .timer] heard := by
  have htimeout : probing_session.TimesOut := by
    show Event.on_heartbeat_timeout ∈ Session.new_events probing_session probing_session.on_timer
    decide
  have hsec : probing_session.heartbeat_sec = 30 := by decide
  obtain ⟨heard, sent, hpending, hdeadline, hinterval, -⟩ :=
    Session.no_premature_timeout quiet_config MemoryStore.create slow_env monotone_slow_env
      [.logon, .message broker_logon, .timer] probing_session rfl htimeout
  rw [hsec] at hdeadline hinterval
  exact ⟨htimeout, heard, sent, hdeadline, hinterval, hpending.silence⟩

end FixEngine
