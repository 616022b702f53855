/-
`Conversation.lean` -- what a session says in a whole run.

Each call of a session brings in at most one message, and sends a number of frames that
is bounded by what it was asked for. Four results on runs come out of this. A message
is answered with one frame at most, a ResendRequest with one frame for each number that
it asks for (`frames_bounded`). The audit log gets the traffic of the session in the
order in which it went by, less the entries it refused (`audit_trail_is_traffic`). Every
frame is accounted for (`nothing_invented`). And a tick leaves no interval without a frame
behind it (`heartbeat_cadence`).
-/
import FixEngine.Emission
import FixEngine.Silence

set_option autoImplicit false

namespace FixEngine

open IMessageStore Decimal

namespace Session

variable {σ : Type} [IMessageStore σ] {n : ℕ}

/-! ## Calls -/

/-- The frames that a call brings in. -/
def heard (s : Session σ) : Call → List (Bool × Bytes)
  | .message msg => if s.state = .Disconnected then [] else [(false, msg.raw)]
  | _ => []

/-- The frames that a call can send. -/
def call_budget (s : Session σ) : Call → ℕ
  | .buffer _ => 0
  | .message msg => if s.state = .Disconnected then 0 else reply_budget msg s
  | .timer => 3
  | .send _ => 1
  | .send_raw _ => 1
  | .logon => 1
  | .logout _ => 1
  | .disconnect => 0
  | .reset => 0
  | .transport_connected => 1

/-- The BusinessMessageReject with which a call can be answered. -/
def objections (s : Session σ) : Call → Message → Prop
  | .message msg => s.Objects msg
  | _ => fun _ => False

omit [IMessageStore σ] in
theorem objections_congr {s s₁ : Session σ} (hconduct : s₁.cfg.conduct = s.cfg.conduct)
    (henv : s₁.io.env = s.io.env) : s₁.objections = s.objections := by
  funext c
  cases c with
  | message msg => rw [objections, objections, objects_congr hconduct henv]
  | _ => rfl

/-- The frames that a call may hand over: those of messages that the session builds itself,
those that the application asks for, and, in answer to a message, those in the store. -/
inductive Sayable (s : Session σ) : Call → Bytes → Prop where
  | own {c : Call} {w : Bytes} (h : OwnFrame s.cfg.id (s.objections c) w) : Sayable s c w
  | app {msg : Message} {n : ℕ} {w : Bytes} (h : Carries s.cfg.id msg n w) : Sayable s (.send msg) w
  | raw (w : Bytes) : Sayable s (.send_raw w) w
  | resent {msg : Message} {w : Bytes} (h : s.Resends w) : Sayable s (.message msg) w

/-- What a call says. A connection that begins is the one thing beside a frame that sets the
time of the last send. -/
structure CallSays (s : Session σ) (c : Call) (ws : List Bytes) : Prop where
  budget : s.next_sender < 2 ^ 64 → ws.length ≤ s.call_budget c
  frames : ∀ w ∈ ws, Sayable s c w
  io : s.io.Says s.Lets (s.heard c ++ going_out ws) (s.call c).io
  conduct : (s.call c).cfg.conduct = s.cfg.conduct
  store : Stocks (s.io.HandsOver (s.call c).io) s.store (s.call c).store
  sent : (s.call c).msgs_sent = s.msgs_sent + ws.length
  last : (s.call c).last_send_time = s.last_send_time ∨
    ((ws ≠ [] ∨ c = .transport_connected) ∧ ReadsAt s c (s.call c).last_send_time)

theorem CallSays.of_utters {s : Session σ} {c : Call} {ws : List Bytes}
    (hbudget : s.next_sender < 2 ^ 64 → ws.length ≤ s.call_budget c)
    (hsayable : ∀ w ∈ ws, Sayable s c w) (hheard : (s.heard c).filterMap outbound_frame = [])
    (h : Utters (s.heard c ++ going_out ws) s (s.call c)) :
    s.CallSays c ws := by
  have hframes : (s.heard c ++ going_out ws).filterMap outbound_frame = ws := by
    rw [List.filterMap_append, hheard, filterMap_going_out, List.nil_append]
  refine ⟨hbudget, hsayable, h.io, h.conduct, h.store, ?_, ?_⟩
  · rw [h.sent, hframes]
  · by_cases hnone : ws = []
    · exact .inl (h.quiet (hframes.trans hnone))
    · exact .inr ⟨.inl hnone, h.spoke (by rw [hframes]; exact hnone)⟩

theorem call_utters_of_replies {s : Session σ} {c : Call} (hheard : s.heard c = [])
    (h : Replies (s.objections c) (s.call_budget c) s (s.call c)) : ∃ ws, s.CallSays c ws := by
  obtain ⟨ws, hws, hown, hutters⟩ := h
  refine ⟨ws, .of_utters (fun _ => hws) (fun w hw => .own (hown w hw)) ?_ ?_⟩
  · rw [hheard]
    rfl
  · rw [hheard]
    exact hutters

theorem call_utters_connected (s : Session σ) : ∃ ws, s.CallSays .transport_connected ws := by
  -- the connection is entered before anything is said
  have hready : ∀ s₁ : Session σ, s₁.io = s.io.tick → s₁.last_send_time = s.io.clock_now →
      s₁.msgs_sent = s.msgs_sent → s₁.cfg = s.cfg → s₁.store = s.store →
      Replies (fun _ => False) 1 s₁ s.on_transport_connected →
      ∃ ws, s.CallSays .transport_connected ws := by
    rintro s₁ hio hlast hsent hcfg hstore ⟨ws, hws, hown, hutters⟩
    have hreads : s.io.reads < s.on_transport_connected.io.reads :=
      (Nat.lt_succ_self _).trans_le (show s.io.tick.reads ≤ _ from hio ▸ hutters.io.reads)
    have hconduct : s₁.cfg.conduct = s.cfg.conduct := by rw [hcfg]
    have henv : s₁.io.env = s.io.env := by rw [hio, Outside.tick]
    rw [hcfg] at hown
    refine ⟨ws, fun _ => hws, fun w hw => .own (hown w hw), ?_,
      hutters.conduct.trans hconduct, ?_, ?_,
      .inr ⟨.inr rfl, ?_⟩⟩
    · have hlets : s₁.Lets = s.Lets := lets_congr hconduct henv
      exact (Outside.says_tick s.io).trans (hio ▸ hlets ▸ hutters.io)
    · have hstock := hutters.store
      rw [hio, hstore] at hstock
      exact hstock
    · rw [← hsent]
      exact hutters.sent.trans (by rw [filterMap_going_out])
    · by_cases hnone : ws = []
      · refine ⟨s.io.reads, le_rfl, hreads, ?_⟩
        exact (hutters.quiet ((filterMap_going_out ws).trans hnone)).trans hlast
      · obtain ⟨k, hk, hlt, htime⟩ := hutters.spoke (by rw [filterMap_going_out]; exact hnone)
        rw [hio] at hk htime
        exact ⟨k, (Nat.le_succ _).trans hk, hlt, htime⟩
  rw [on_transport_connected_eq] at hready
  split at hready
  · rename_i hinitiator
    refine hready s.normalised rfl rfl rfl rfl rfl ?_
    split
    · exact replies_logon s.normalised
    · exact (replies_logon s.normalised).then (replies_report _ _)
  · exact hready s.fresh_connection rfl rfl rfl rfl rfl (.of_eq rfl rfl rfl rfl rfl)

theorem call_utters_send (msg : Message) (s : Session σ) : ∃ ws, s.CallSays (.send msg) ws := by
  by_cases hactive : s.state = .Active
  · have hcall : s.call (.send msg) = (s.send_message msg).2 := by
      rw [call, send, if_neg (not_not.mpr hactive)]
    rcases utters_send_message msg s with ⟨-, h⟩ | ⟨n, w, hcarries, h⟩
    · exact ⟨[], .of_utters (fun _ => Nat.zero_le _) (by simp) rfl (hcall ▸ h)⟩
    · refine ⟨[w], .of_utters (fun _ => le_rfl) ?_ rfl (hcall ▸ h)⟩
      intro v hv
      rw [List.mem_singleton.mp hv]
      exact .app hcarries
  · refine call_utters_of_replies rfl ?_
    rw [call, send, if_pos hactive]
    exact .of_eq rfl rfl rfl rfl rfl

theorem call_utters (s : Session σ) (c : Call) : ∃ ws, s.CallSays c ws := by
  cases c with
  | buffer parser => exact call_utters_of_replies rfl (.of_eq rfl rfl rfl rfl rfl)
  | message msg =>
    by_cases hdown : s.state = .Disconnected
    · refine call_utters_of_replies (if_pos hdown) ?_
      rw [call, if_pos hdown]
      exact .of_eq rfl rfl rfl rfl rfl
    · obtain ⟨ws, hws, hframes, hutters⟩ := utters_process_message msg s
      have hheard : s.heard (.message msg) = [(false, msg.raw)] := if_neg hdown
      have hbudget : s.call_budget (.message msg) = reply_budget msg s := if_neg hdown
      have hcall : s.call (.message msg) = s.process_message msg := if_neg hdown
      refine ⟨ws, .of_utters (hbudget ▸ hws) ?_ (by rw [hheard]; rfl) ?_⟩
      · intro w hw
        rcases hframes w hw with hown | hresent
        · exact .own hown
        · exact .resent hresent
      · rw [hheard, hcall]
        exact hutters
  | timer => exact call_utters_of_replies rfl (replies_on_timer s)
  | send msg => exact call_utters_send msg s
  | send_raw raw =>
    refine ⟨[raw], .of_utters (fun _ => le_rfl) ?_ rfl
      (utters_locked s (utters_hand_over .raw raw _))⟩
    intro w hw
    rw [List.mem_singleton.mp hw]
    exact .raw raw
  | logon => exact call_utters_of_replies rfl (replies_logon s)
  | logout reason =>
    refine call_utters_of_replies rfl ?_
    rw [call, logout]
    split
    · exact .of_eq rfl rfl rfl rfl rfl
    · exact replies_send_logout reason s
  | disconnect => exact call_utters_of_replies rfl (replies_disconnect s)
  | reset =>
    refine call_utters_of_replies rfl ?_
    rw [call, reset]
    split
    · exact .of_eq rfl rfl rfl rfl rfl
    · exact (replies_reset_store _).after (.of_eq rfl rfl rfl rfl rfl)
  | transport_connected => exact call_utters_connected s

/-! ## Runs -/

variable {s : Session σ} {calls : List Call}

/-- The frames that a run can send. -/
def run_budget (s : Session σ) : List Call → ℕ
  | [] => 0
  | c :: calls => s.call_budget c + (s.call c).run_budget calls

/-- The frames that a call hands over. -/
def uttered (s : Session σ) (c : Call) : List Bytes := (new_events s (s.call c)).filterMap wire_of

/-- What goes by in a run: in each call the message that it brings in, and then the frames
that it sends. -/
def traffic (s : Session σ) : List Call → List (Bool × Bytes)
  | [] => []
  | c :: calls => s.heard c ++ going_out (s.uttered c) ++ (s.call c).traffic calls

omit [IMessageStore σ] in
theorem Outside.Says.new_events {s s' : Session σ} {D : Message → Prop}
    {traffic : List (Bool × Bytes)} (h : s.io.Says D traffic s'.io) :
    (new_events s s').filterMap wire_of = traffic.filterMap outbound_frame := by
  obtain ⟨more, hevents, hwires, -⟩ := h.trace
  rw [Session.new_events, hevents, List.drop_left]
  exact hwires

omit [IMessageStore σ] in
theorem filterMap_heard (s : Session σ) (c : Call) : (s.heard c).filterMap outbound_frame = [] := by
  cases c with
  | message msg =>
    rw [heard]
    split <;> rfl
  | _ => rfl

theorem CallSays.uttered_eq {c : Call} {ws : List Bytes} (h : s.CallSays c ws) :
    s.uttered c = ws := by
  rw [uttered, Outside.Says.new_events h.io, List.filterMap_append, filterMap_heard,
    filterMap_going_out, List.nil_append]

theorem call_uttered (s : Session σ) (c : Call) : s.CallSays c (s.uttered c) := by
  obtain ⟨ws, h⟩ := call_utters s c
  rw [h.uttered_eq]
  exact h

theorem run_traffic (s : Session σ) (calls : List Call) :
    s.io.Says s.Lets (s.traffic calls) (s.run calls).io := by
  induction calls generalizing s with
  | nil => exact Outside.says_refl _
  | cons c calls ih =>
    have hcall := call_uttered s c
    have hrest := ih (s.call c)
    rw [lets_congr hcall.conduct hcall.io.env] at hrest
    exact hcall.io.trans hrest

theorem wire_trace_run (s : Session σ) (calls : List Call) :
    (s.run calls).wire_trace = s.wire_trace ++ (s.traffic calls).filterMap outbound_frame := by
  obtain ⟨more, hevents, hwires, -⟩ := (run_traffic s calls).trace
  rw [wire_trace, hevents, List.filterMap_append, hwires, wire_trace]

/-- **A session does not amplify.** In a run in which no number wraps around, it hands over at
most the frames of its budget: one for a message, one for each number that a ResendRequest
asks for, three for a tick, and one for each call of the application. Each is counted. -/
theorem frames_bounded (s : Session σ) (calls : List Call)
    (hnumbers : ∀ k < calls.length, (s.run (calls.take k)).next_sender < 2 ^ 64) :
    ∃ ws, (s.run calls).wire_trace = s.wire_trace ++ ws ∧ ws.length ≤ s.run_budget calls ∧
      (s.run calls).msgs_sent = s.msgs_sent + ws.length := by
  refine ⟨_, wire_trace_run s calls, ?_⟩
  induction calls generalizing s with
  | nil => exact ⟨le_rfl, rfl⟩
  | cons c calls ih =>
    have hcall := call_uttered s c
    have hfirst : (s.uttered c).length ≤ s.call_budget c :=
      hcall.budget (hnumbers 0 (Nat.zero_lt_succ _))
    obtain ⟨hrest, hsent⟩ := ih (s.call c) fun k hk => hnumbers (k + 1) (Nat.succ_lt_succ hk)
    have hframes : (s.traffic (c :: calls)).filterMap outbound_frame =
        s.uttered c ++ ((s.call c).traffic calls).filterMap outbound_frame := by
      rw [traffic, List.filterMap_append, List.filterMap_append, filterMap_heard,
        filterMap_going_out, List.nil_append]
    rw [hframes, List.length_append]
    refine ⟨Nat.add_le_add hfirst hrest, ?_⟩
    show ((s.call c).run calls).msgs_sent = _
    rw [hsent, hcall.sent, Nat.add_assoc]

/-- The client logs on, sends an order and is asked for everything again. -/
def resend_run : List Call :=
  [.logon, .message broker_logon, .send order, .message (broker_resend_request 2)]

theorem frames_bounded_resend :
    quiet_session.run_budget resend_run = 5 ∧
      ∃ ws, (quiet_session.run resend_run).wire_trace = ws ∧ ws.length ≤ 5 ∧
        (quiet_session.run resend_run).msgs_sent = ws.length := by
  have hbudget : quiet_session.run_budget resend_run = 5 := by decide
  have hnumbers : ∀ k < 4, (quiet_session.run (resend_run.take k)).next_sender < 2 ^ 64 := by decide
  obtain ⟨ws, htrace, hws, hsent⟩ := frames_bounded quiet_session resend_run hnumbers
  exact ⟨hbudget, ws, htrace, hbudget ▸ hws, hsent.trans (Nat.zero_add _)⟩

/-- **The audit trail is the traffic.** Whatever the store, the callbacks and the log do, the
log gets the frames of a run in the order in which they go by, each inbound frame before what
is sent in answer to it. An entry that it refused is counted as an error, and a log that
refuses none gets every frame. -/
theorem audit_trail_is_traffic (s : Session σ) (calls : List Call)
    (hwired : s.io.env.audit ≠ none) :
    ∃ trail, audited (s.run calls).io.events = audited s.io.events ++ trail ∧
      trail.Sublist (s.traffic calls) ∧
      (s.traffic calls).length - trail.length ≤ (s.run calls).io.errors - s.io.errors ∧
      (s.io.env.LogsAll → trail = s.traffic calls) := by
  obtain ⟨more, hevents, -, hsub, hcount, hall, -⟩ := (run_traffic s calls).trace
  refine ⟨audited more, ?_, hsub, ?_, hall⟩
  · rw [hevents, audited_append]
  · have hcount := hcount hwired
    omega

/-- A log that takes every entry gets the Logon of the client and the answer of the broker. -/
theorem audit_trail_is_traffic_logon :
    ∃ trail, audited (audited_session.run [.logon, .message broker_logon]).io.events = trail ∧
      trail = audited_session.traffic [.logon, .message broker_logon] := by
  obtain ⟨trail, hevents, -, -, hall⟩ :=
    audit_trail_is_traffic audited_session [.logon, .message broker_logon]
      (by simp [audited_session, create])
  exact ⟨trail, hevents, hall ⟨_, rfl, fun _ => rfl⟩⟩

/-! ### The origin of a frame -/

theorem outbound_of_stocks {T : ℕ → Bytes → Prop} {st st' : MemoryStore} (h : Stocks T st st')
    {e : ℕ × Bytes} (he : e ∈ st'.outbound.entries) : e ∈ st.outbound.entries ∨ T e.1 e.2 := by
  induction h with
  | refl => exact .inl he
  | @tail st₁ st₂ _ hmove ih =>
    -- only two of the operations write the map, and one of them empties it
    cases hmove with
    | claim => exact ih he
    | set_sender n => exact ih he
    | set_target n => exact ih he
    | advance_target n =>
      have hsame : (advance_next_target_seq_num n st₁).2.outbound = st₁.outbound := by
        show (if st₁.target_seq < n then { st₁ with target_seq := n } else st₁).outbound = _
        split <;> rfl
      exact ih (hsame ▸ he)
    | store_inbound n raw => exact ih he
    | read first last => exact ih he
    | reset =>
      exact absurd he (by simp [IMessageStore.reset, MemoryStore.reset, MemoryStore.create])
    | refused n raw _ hfailed => exact absurd rfl hfailed
    | stored n raw _ hraw =>
      rcases (OrdMap.mem_insert n raw st₁.outbound e).mp he with rfl | ⟨-, hold⟩
      · exact .inr hraw
      · exact ih hold

theorem stocks_run (s : Session σ) (calls : List Call) :
    Stocks (s.io.HandsOver (s.run calls).io) s.store (s.run calls).store ∧
      (s.run calls).cfg.conduct = s.cfg.conduct := by
  induction calls generalizing s with
  | nil => exact ⟨.refl, rfl⟩
  | cons c calls ih =>
    have hcall := call_uttered s c
    obtain ⟨hrest, hconduct⟩ := ih (s.call c)
    refine ⟨?_, hconduct.trans hcall.conduct⟩
    have hlater := run_traffic (s.call c) calls
    rw [lets_congr hcall.conduct hcall.io.env] at hlater
    exact (hcall.store.mono fun _ _ => hcall.io.handsOver_left hlater).trans
      (hrest.mono fun _ _ => hcall.io.handsOver_right hlater)

/-- Where the frame `w` of the call `c`, after the calls `pre`, comes from. -/
inductive Accounted (s₀ : Session MemoryStore) (pre : List Call) : Call → Bytes → Prop where
  /-- A message of the session protocol. -/
  | own {c : Call} {w : Bytes} (h : OwnFrame s₀.cfg.id (s₀.objections c) w) : Accounted s₀ pre c w
  /-- A message of the application. -/
  | app {msg : Message} {n : ℕ} {w : Bytes} (h : Carries s₀.cfg.id msg n w) :
      Accounted s₀ pre (.send msg) w
  | raw (w : Bytes) : Accounted s₀ pre (.send_raw w) w
  /-- An application message that went out before, or was in the store from the start, under
  the number that it had and with the tags of a re-send. -/
  | resent {msg stored : Message} {seq : ℕ} {wire w : Bytes}
      (hheld : (seq, wire) ∈ s₀.store.outbound.entries ∨
        .do_send (.sent seq) wire ∈ new_events s₀ (s₀.run pre))
      (hread : read_stored wire = some stored) (happ : is_admin_msg stored.msg_type = false)
      (h : Carries s₀.cfg.id (retag stored) seq w) : Accounted s₀ pre (.message msg) w

/-- **A session invents nothing.** Whatever its peer, its application and its timer do, every
frame that it hands over is of a message of the session protocol, is what the application asked
for in this very call, or repeats an application message that it had sent before. A
BusinessMessageReject is about the message of this very call, to which the dictionary objects. -/
theorem nothing_invented (s₀ : Session MemoryStore) (pre : List Call) (c : Call) (w : Bytes)
    (hw : w ∈ (s₀.run pre).uttered c) : Accounted s₀ pre c w := by
  obtain ⟨hstock, hconduct⟩ := stocks_run s₀ pre
  have hid : (s₀.run pre).cfg.id = s₀.cfg.id := congrArg Prod.fst hconduct
  have hsayable := (call_uttered (s₀.run pre) c).frames w hw
  cases hsayable with
  | own h =>
    rw [objections_congr hconduct (run_traffic s₀ pre).env] at h
    exact .own (hid ▸ h)
  | app h => exact .app (hid ▸ h)
  | raw => exact .raw w
  | resent h =>
    obtain ⟨first, last, frames, hframes, seq, wire, stored, hmem, hread, happ, hcarries⟩ := h
    -- what is read from the store is in it
    obtain rfl :
        (s₀.run pre).store.outbound.range first (walk_end last (s₀.run pre).store.outbound) =
        frames :=
      Except.ok.inj hframes
    have hentry : (seq, wire) ∈ (s₀.run pre).store.outbound.entries := (OrdMap.mem_range.mp hmem).1
    exact .resent (outbound_of_stocks hstock hentry) hread happ (hid ▸ hcarries)

/-- Asked for everything, the client sends its order again, of the frame and under the number
of the first time. -/
theorem nothing_invented_resend :
    ∃ w ∈ (quiet_session.run (resend_run.take 3)).uttered (.message (broker_resend_request 2)),
      ∃ seq wire stored,
      .do_send (.sent seq) wire ∈ new_events quiet_session (quiet_session.run (resend_run.take 3)) ∧
        read_stored wire = some stored ∧ Carries quiet_config.id (retag stored) seq w := by
  have htypes :
      ((quiet_session.run (resend_run.take 3)).uttered (.message (broker_resend_request 2))).map
      frame_type = [some (ascii "4"), some (ascii "D")] := by decide +kernel
  obtain ⟨w, hw, htype⟩ : ∃ w ∈ (quiet_session.run (resend_run.take 3)).uttered
      (.message (broker_resend_request 2)), frame_type w = some (ascii "D") := by
    apply List.mem_map.mp
    rw [htypes]
    simp
  have haccounted := nothing_invented quiet_session (resend_run.take 3) _ w hw
  refine ⟨w, hw, ?_⟩
  cases haccounted with
  | own h =>
    -- an order is no message of the session protocol, and nobody objects to a ResendRequest
    obtain ⟨msg, n, hown, hcarries⟩ := h
    rw [frame_type_of_carries hcarries] at htype
    rcases hown.admin with hadmin | ⟨-, hchecks, -⟩
    · rw [Option.some.inj htype] at hadmin
      exact absurd hadmin (by decide)
    · exact absurd hchecks (by decide)
  | @resent _ stored seq wire _ hheld hread happ hcarries =>
    rcases hheld with hstart | hsent
    · exact absurd hstart (by simp [quiet_session, create, MemoryStore.create])
    · exact ⟨seq, wire, stored, hsent, hread, hcarries⟩

/-! ### The cadence -/

/-- In the run a frame went out at the time `t`, or the connection began. -/
inductive SpokeAt (s₀ : Session σ) (calls : List Call) (t : ℤ) : Prop where
  | start (h : t = s₀.last_send_time)
  | uttered (pre : List Call) (c : Call) (post : List Call) (hcalls : calls = pre ++ c :: post)
      (hc : (s₀.run pre).uttered c ≠ [] ∨ c = .transport_connected) (ht : ReadsAt (s₀.run pre) c t)

theorem SpokeAt.concat {s₀ : Session σ} {t : ℤ} (h : SpokeAt s₀ calls t) (c : Call) :
    SpokeAt s₀ (calls ++ [c]) t := by
  cases h with
  | start h => exact .start h
  | uttered pre d post hcalls hd ht =>
    refine .uttered pre d (post ++ [c]) ?_ hd ht
    rw [hcalls, List.append_assoc, List.cons_append]

theorem spoke_at_last_send_time (s₀ : Session σ) (calls : List Call) :
    SpokeAt s₀ calls (s₀.run calls).last_send_time := by
  induction calls using List.reverseRecOn with
  | nil => exact .start rfl
  | append_singleton calls c ih =>
    rw [run_concat]
    rcases (call_uttered (s₀.run calls) c).last with hsame | ⟨hspoke, htime⟩
    · rw [hsame]
      exact ih.concat c
    · exact .uttered calls c [] rfl hspoke htime

theorem Replies.recent {R : Message → Prop} {s s₁ : Session σ} {now gap : ℤ} (h : Replies R n s s₁)
    (hclock : Monotone s.io.env.clock) (hnow : now ≤ s.io.env.clock s.io.reads) (hgap : 1 ≤ gap)
    (hrecent : now < s.last_send_time + gap) :
    now < s₁.last_send_time + gap := by
  obtain ⟨ws, -, -, hutters⟩ := h
  by_cases hnone : ws = []
  · rw [hutters.quiet ((filterMap_going_out ws).trans hnone)]
    exact hrecent
  · obtain ⟨k, hk, -, htime⟩ := hutters.spoke (by rw [filterMap_going_out]; exact hnone)
    have hlater : now ≤ s.io.env.clock k := hnow.trans (hclock hk)
    rw [htime]
    omega

/-- The heartbeat of a tick can be sent. -/
def CanBeat (s : Session σ) : Prop :=
  ({ s with io := s.io.tick }.send_message (heartbeat_message [])).1 = .ok ()

theorem beat_recent (hclock : Monotone s.io.env.clock) (hbeat : s.CanBeat) :
    s.io.clock_now <
    ({ s with io := s.io.tick }.beat s.io.clock_now (s.heartbeat_sec * 1000)).last_send_time +
      max 1 (s.heartbeat_sec * 1000) := by
  have hgap : 1 ≤ max 1 (s.heartbeat_sec * 1000) := le_max_left _ _
  rw [beat]
  split
  · -- the heartbeat goes out now
    rcases utters_send_message (heartbeat_message []) { s with io := s.io.tick } with
      ⟨hfailed, -⟩ | ⟨n, w, -, hutters⟩
    · exact absurd hbeat hfailed
    · obtain ⟨k, hk, -, htime⟩ := hutters.spoke (by simp [outbound_frame])
      have hlater : s.io.clock_now ≤ s.io.env.clock k := hclock ((Nat.le_succ _).trans hk)
      have htime :
          (send_heartbeat [] { s with io := s.io.tick }).last_send_time = s.io.env.clock k := htime
      rw [htime]
      omega
  · rename_i hrecent
    have hrecent : ¬s.heartbeat_sec * 1000 ≤ s.io.clock_now - s.last_send_time := hrecent
    have hinterval : s.heartbeat_sec * 1000 ≤ max 1 (s.heartbeat_sec * 1000) := le_max_right _ _
    show s.io.clock_now < s.last_send_time + _
    omega

/-- **The cadence of heartbeats.** When the timer ticks in an established session that can send
its heartbeat, then after the tick the last frame is less than an interval old, counted from
the reading of the tick: whatever had happened before, the peer is never left without a frame
for longer than one interval and the time between two ticks. -/
theorem heartbeat_cadence (s₀ : Session σ) (hclock : Monotone s₀.io.env.clock) (calls : List Call)
    (hactive : (s₀.run calls).state = .Active) (hbeat : (s₀.run calls).CanBeat) :
    ∃ t, SpokeAt s₀ (calls ++ [.timer]) t ∧
      (s₀.run calls).io.clock_now < t + max 1 ((s₀.run calls).heartbeat_sec * 1000) := by
  refine ⟨_, spoke_at_last_send_time s₀ (calls ++ [.timer]), ?_⟩
  rw [run_concat]
  have henv : (s₀.run calls).io.env = s₀.io.env := (run_traffic s₀ calls).env
  generalize s₀.run calls = s at hactive hbeat henv ⊢
  rw [← henv] at hclock
  obtain ⟨ws, -, -, hutters⟩ :=
    (replies_beat (R := fun _ => False) s.io.clock_now (s.heartbeat_sec * 1000)
      { s with io := s.io.tick })
  have htick :
      ({ s with io := s.io.tick }.beat s.io.clock_now (s.heartbeat_sec * 1000)).io.env = s.io.env :=
    hutters.io.env
  have hreads := hutters.io.reads
  refine (replies_watch (R := fun _ => False) hactive).recent (htick ▸ hclock) ?_ (le_max_left _ _)
    (beat_recent hclock hbeat)
  rw [htick]
  exact hclock ((Nat.le_succ _).trans hreads)

/-- The client, forty seconds after its Logon. -/
theorem heartbeat_cadence_client :
    ((create quiet_config MemoryStore.create slow_env).run [.logon, .message broker_logon]).state =
    .Active ∧
      ∃ t, SpokeAt (create quiet_config MemoryStore.create slow_env)
        [.logon, .message broker_logon, .timer] t ∧
        ((create quiet_config MemoryStore.create slow_env).run
          [.logon, .message broker_logon]).io.clock_now <
          t + 30000 := by
  have hactive :
      ((create quiet_config MemoryStore.create slow_env).run
        [.logon, .message broker_logon]).state =
      .Active := by decide
  have hsec :
      ((create quiet_config MemoryStore.create slow_env).run
        [.logon, .message broker_logon]).heartbeat_sec =
      30 := by decide
  obtain ⟨t, hspoke, htime⟩ :=
    heartbeat_cadence (create quiet_config MemoryStore.create slow_env) monotone_slow_env
    [.logon, .message broker_logon] hactive (by show _ = _; decide)
  rw [hsec] at htime
  exact ⟨hactive, t, hspoke, htime⟩

end Session

end FixEngine
