/-
`Traffic.lean` -- what an established session sends and takes in.

The frames that a session sends are numbered one after the other. `Flow` says so of a list
of frames and of the messages in them, and `View.Speaks` says of a step of a session that
all it did was to send such frames. On an established session a tick of the timer speaks,
an ordinary message in sequence (a Heartbeat, a TestRequest or an application message) is
answered by speaking, and a failed send does nothing.
-/
import FixEngine.Receive

set_option autoImplicit false

namespace FixEngine

open IMessageStore Decimal

/-! ## Frames in a row -/

/-- The frames carry the messages, under the numbers from the first up to the last, which is
not used. -/
inductive Flow (id : SessionID) : ℕ → List Bytes → List Message → ℕ → Prop where
  | nil (a : ℕ) : Flow id a [] [] a
  | cons {a b : ℕ} {w : Bytes} {ws : List Bytes} {msg : Message} {msgs : List Message}
      (hw : Carries id msg a w) (h : Flow id (a + 1) ws msgs b) :
        Flow id a (w :: ws) (msg :: msgs) b

namespace Flow

variable {id : SessionID} {a b c : ℕ} {ws ws' : List Bytes} {msgs msgs' : List Message}

theorem single {w : Bytes} {msg : Message} (hw : Carries id msg a w) :
    Flow id a [w] [msg] (a + 1) :=
  .cons hw (.nil (a + 1))

theorem append (h : Flow id a ws msgs b) (h' : Flow id b ws' msgs' c) :
    Flow id a (ws ++ ws') (msgs ++ msgs') c := by
  induction h with
  | nil a => exact h'
  | cons hw _ ih => exact .cons hw (ih h')

theorem add_length (h : Flow id a ws msgs b) : a + ws.length = b := by
  induction h with
  | nil a => rfl
  | cons _ _ ih =>
    rw [List.length_cons]
    omega

theorem numbers (h : Flow id a ws msgs b) :
    List.Forall₂ (fun w n => Session.FrameOf id n w) ws (List.range' a (b - a)) := by
  have hlength := h.add_length
  have hcount : b - a = ws.length := by omega
  rw [hcount]
  clear hlength hcount
  induction h with
  | nil a => exact .nil
  | cons hw _ ih =>
    rw [List.length_cons, List.range'_succ]
    exact .cons ⟨_, hw⟩ ih

theorem carries_of_mem (h : Flow id a ws msgs b) {w : Bytes} (hw : w ∈ ws) :
    ∃ msg ∈ msgs, ∃ n, Carries id msg n w := by
  induction h with
  | nil a => exact absurd hw (by simp)
  | cons hcarries _ ih =>
    rcases List.mem_cons.mp hw with rfl | hw
    · exact ⟨_, List.mem_cons_self, _, hcarries⟩
    · obtain ⟨msg, hmsg, hrest⟩ := ih hw
      exact ⟨msg, List.mem_cons_of_mem _ hmsg, hrest⟩

end Flow

/-! ## Messages without a fault -/

/-- No value of the message is refused, and no header tag is there twice. -/
structure Tidy (m : Message) : Prop where
  clean : ∀ f ∈ m.fields, FixEngine.clean f.value = true
  once : NoRepeats m

theorem mem_upsert {tag : TagNum} {v : Bytes} {fs : List Field} {f : Field}
    (h : f ∈ upsert tag v fs) :
    f = ⟨tag, v⟩ ∨ f ∈ fs := by
  induction fs with
  | nil => exact .inl (List.mem_singleton.mp h)
  | cons g fs ih =>
    rw [upsert] at h
    split at h
    · exact (List.mem_cons.mp h).imp id (List.mem_cons_of_mem g)
    · rcases List.mem_cons.mp h with rfl | h
      · exact .inr List.mem_cons_self
      · exact (ih h).imp id (List.mem_cons_of_mem g)

theorem count_upsert_le (t tag : TagNum) (v : Bytes) (fs : List Field) :
    ((upsert tag v fs).map Field.tag).count t ≤ max 1 ((fs.map Field.tag).count t) := by
  induction fs with
  | nil => exact List.count_le_length.trans (le_max_left _ _)
  | cons f fs ih =>
    rw [upsert]
    by_cases heq : f.tag = tag
    · rw [if_pos heq, List.map_cons, List.map_cons, heq]
      exact le_max_right _ _
    · rw [if_neg heq, List.map_cons, List.map_cons, List.count_cons, List.count_cons]
      by_cases hf : f.tag = t
      · -- the rest is only changed at another tag
        have hsame : ((upsert tag v fs).map Field.tag).count t = (fs.map Field.tag).count t := by
          clear ih
          induction fs with
          | nil =>
            have hne : tag ≠ t := fun h => heq (hf.trans h.symm)
            simp [upsert, hne]
          | cons g fs ih =>
            rw [upsert]
            by_cases hg : g.tag = tag
            · rw [if_pos hg, List.map_cons, List.map_cons, hg]
            · rw [if_neg hg, List.map_cons, List.map_cons, List.count_cons, List.count_cons, ih]
        rw [hsame]
        exact le_max_right _ _
      · simpa [hf] using ih

section Tidy

variable {m : Message} {t : TagNum} {v : Bytes}

theorem Tidy.set_discard (h : Tidy m) : Tidy (m.set_discard t v) := by
  rcases hv : has_invalid_wire_chars v with _ | _
  · rw [Message.set_discard_of_clean hv]
    refine ⟨?_, ?_⟩
    · intro f hf
      rcases mem_upsert hf with rfl | hf
      · simpa [FixEngine.clean] using hv
      · exact h.clean f hf
    · intro t' hstd hskip
      have hcount := count_upsert_le t' t v m.fields
      have hold := h.once t' hstd hskip
      exact hcount.trans (max_le le_rfl hold)
  · rw [Message.set_discard_of_invalid hv]
    exact h

theorem Tidy.set_int (h : Tidy m) {i : ℤ} : Tidy (m.set_int t i) := h.set_discard

theorem Tidy.set_nonempty (h : Tidy m) : Tidy (FixEngine.set_nonempty m t v) := by
  rw [FixEngine.set_nonempty]
  split
  · exact h
  · exact h.set_discard

theorem lookup_mem {fs : List Field} (h : v ∈ lookup t fs) : ∃ f ∈ fs, f.value = v := by
  induction fs with
  | nil => exact absurd h (by simp)
  | cons f fs ih =>
    rw [lookup_cons] at h
    split at h
    · exact ⟨f, List.mem_cons_self, Option.some.inj h⟩
    · obtain ⟨g, hg, hv⟩ := ih h
      exact ⟨g, List.mem_cons_of_mem f hg, hv⟩

theorem Tidy.buildable (h : Tidy m) {id : SessionID}
    (hsender : FixEngine.clean id.senderCompID = true)
    (htarget : FixEngine.clean id.targetCompID = true) : Buildable id m := by
  have hget : ∀ t, ∀ v ∈ m.get t, FixEngine.clean v = true := by
    intro t v hv
    obtain ⟨f, hf, rfl⟩ := lookup_mem hv
    exact h.clean f hf
  rw [buildable_iff]
  refine ⟨hsender, htarget, ?_, hget _, hget _, ?_⟩
  · rw [Message.msg_type]
    rcases hv : m.get tags.MsgType with _ | v
    · rfl
    · exact hget _ v hv
  · intro f hf
    exact h.clean f (List.mem_of_mem_filter hf)

end Tidy

theorem tidy_of_type (mt : Bytes) : Tidy (Message.of_type mt) := by
  have hempty : Tidy {} := ⟨by simp, fun _ _ _ => Nat.zero_le _⟩
  exact hempty.set_discard

theorem tidy_logon (cfg : SessionConfig) (hb : ℤ) : Tidy (logon_message cfg hb) := by
  rw [logon_message]
  apply Tidy.set_nonempty
  apply Tidy.set_nonempty
  apply Tidy.set_nonempty
  split
  · exact (tidy_of_type _).set_int.set_int.set_discard
  · exact (tidy_of_type _).set_int.set_int

theorem tidy_heartbeat (id : Bytes) : Tidy (heartbeat_message id) := (tidy_of_type _).set_nonempty

theorem tidy_test_request (id : Bytes) : Tidy (test_request_message id) :=
  (tidy_of_type _).set_discard

/-! ## Speaking -/

/-- All that happened is that at most `k` messages of the kind `K` were sent. -/
def View.Speaks (K : Message → Prop) (k : ℕ) (v v' : View) : Prop :=
  ∃ ws msgs, Flow v.cfg.id v.next_sender ws msgs v'.next_sender ∧ ws.length ≤ k ∧
    (∀ msg ∈ msgs, K msg) ∧
    v' = { v with next_sender := v'.next_sender, frames := v.frames ++ ws }

/-- The view after a disconnect. -/
def View.down (v : View) : View :=
  { v with state := .Disconnected, gap_open := false, parser := v.parser.reset }

namespace View.Speaks

variable {K K' : Message → Prop} {k k' : ℕ} {v v' v'' : View}

theorem refl (v : View) : v.Speaks K k v :=
  ⟨[], [], .nil _, Nat.zero_le k, by simp, by rw [List.append_nil]⟩

theorem trans (h : v.Speaks K k v') (h' : v'.Speaks K k' v'') : v.Speaks K (k + k') v'' := by
  obtain ⟨ws, msgs, hflow, hlength, hkind, heq⟩ := h
  obtain ⟨ws', msgs', hflow', hlength', hkind', heq'⟩ := h'
  have hcfg : v'.cfg = v.cfg := by rw [heq]
  have hframes : v'.frames = v.frames ++ ws := by rw [heq]
  rw [hcfg] at hflow'
  refine ⟨ws ++ ws', msgs ++ msgs', hflow.append hflow', ?_, ?_, ?_⟩
  · rw [List.length_append]
    omega
  · intro msg hmsg
    exact (List.mem_append.mp hmsg).elim (hkind msg) (hkind' msg)
  · rw [heq', hframes, heq, List.append_assoc]

theorem mono (h : v.Speaks K k v') (hK : ∀ msg, K msg → K' msg) (hk : k ≤ k') :
    v.Speaks K' k' v' := by
  obtain ⟨ws, msgs, hflow, hlength, hkind, heq⟩ := h
  exact ⟨ws, msgs, hflow, hlength.trans hk, fun msg hmsg => hK msg (hkind msg hmsg), heq⟩

theorem next_sender_le (h : v.Speaks K k v') : v'.next_sender ≤ v.next_sender + k := by
  obtain ⟨ws, msgs, hflow, hlength, -⟩ := h
  have hcount := hflow.add_length
  omega

end View.Speaks

namespace Session

variable {σ : Type} [IMessageStore σ] {s : Session σ}

theorem view_disconnect (s : Session σ) : s.disconnect.view = s.view.down := by
  have hquiet : s.io.Quiet s.disconnect.io := Outside.quiet_emit s.io rfl
  simp only [view, View.down, hquiet.env, wire_trace_of_adds hquiet.adds,
    deliveries_of_adds hquiet.adds]
  rfl

variable [StoreContract σ] {K : Message → Prop}

theorem speaks_send_message (h : Healthy s.store) (hroom : s.next_sender + 1 < 2 ^ 64) {m : Message}
    (hm : K m) :
    s.view.Speaks K 1 (s.send_message m).2.view := by
  have hsend := send_message_view h hroom m
  by_cases hb : Buildable s.cfg.id m
  · rw [if_pos hb] at hsend
    obtain ⟨-, w, hw, hview⟩ := hsend
    have hnext : (s.view.sent w).next_sender = s.next_sender + 1 := seq_succ_of_lt hroom
    rw [hview]
    refine ⟨[w], [m], ?_, le_rfl, ?_, rfl⟩
    · rw [hnext]
      exact .single hw
    · intro msg hmsg
      rw [List.mem_singleton.mp hmsg]
      exact hm
  · rw [if_neg hb] at hsend
    rw [hsend.2]
    exact .refl _

/-! ## A tick of the timer -/

/-- What a tick of the timer can make an established session send. -/
inductive TimerMessage (v : View) : Message → Prop where
  | heartbeat : TimerMessage v (heartbeat_message [])
  | test_request (k : ℕ) :
      TimerMessage v (test_request_message (ascii "TEST-" ++ to_chars (v.env.test_req_counter k)))
  | retry (h : v.gap_open = true) : TimerMessage v (resend_request_message v.next_target 0)

omit [StoreContract σ] in
theorem healthy_of_refuses {s' : Session σ} (h : Healthy s.store) (hrefuses : Refuses s s') :
    Healthy s'.store :=
  h.of_footprint (hrefuses.footprint.mono (fun _ => id) fun _ _ => .sender)

theorem probe_peer_speaks (h : Healthy s.store) (hroom : s.next_sender + 1 < 2 ^ 64) (now hb_ms : ℤ)
    (hK : ∀ k, K (test_request_message (ascii "TEST-" ++ to_chars (s.io.env.test_req_counter k)))) :
    ∃ v, s.view.Speaks K 1 v ∧ ((s.probe_peer now hb_ms).2.view = v ∨
      (s.probe_peer now hb_ms).1 = false ∧ (s.probe_peer now hb_ms).2.view = v.down) := by
  rw [probe_peer]
  by_cases hpending : s.test_req_pending = true
  · rw [if_neg (by simp [hpending])]
    split
    · -- the timeout is reported, and unless the handler throws the session goes down
      have htold :
          ({ s with io := (s.io.emit .on_heartbeat_timeout).tick } : Session σ).view = s.view :=
        view_congr rfl rfl rfl rfl rfl ((Outside.quiet_emit s.io rfl).trans (.of_eq rfl rfl)) rfl
      refine ⟨s.view, .refl _, ?_⟩
      dsimp only
      split
      · exact .inl htold
      · refine .inr ⟨rfl, ?_⟩
        rw [view_disconnect, htold]
    · exact ⟨s.view, .refl _, .inl rfl⟩
  · rw [if_pos (by simp [hpending])]
    dsimp only
    split
    · exact ⟨_, speaks_send_message (s := s.arm_test_request) h hroom (hK _), .inl rfl⟩
    · exact ⟨s.view, .refl _, .inl rfl⟩

theorem retry_gap_speaks (h : Healthy s.store) (hroom : s.next_sender + 1 < 2 ^ 64) (now hb_ms : ℤ)
    (hK : s.gap.is_open = true → K (resend_request_message s.next_target 0)) :
    ∃ v, s.view.Speaks K 1 v ∧
    ((s.retry_gap now hb_ms).view = v ∨ (s.retry_gap now hb_ms).view = v.down) := by
  rw [retry_gap]
  split
  · rename_i hdue
    dsimp only
    split
    · refine ⟨s.view, .refl _, .inr ?_⟩
      rw [view_disconnect, view_report]
      rfl
    · refine ⟨_, ?_, .inl rfl⟩
      exact speaks_send_message
        (s := { s with gap := { s.gap with rr_attempts := s.gap.rr_attempts + 1, rr_last := now } })
        h hroom (hK hdue.1)
  · exact ⟨s.view, .refl _, .inl rfl⟩

omit [StoreContract σ] in
theorem retry_gap_closed (hgap : s.gap.is_open = false) (now hb_ms : ℤ) :
    s.retry_gap now hb_ms = s := by
  rw [retry_gap, if_neg (by simp [hgap])]

/-- **A tick of the timer on an established session** sends at most three messages, and may
end the connection. -/
theorem on_timer_speaks (hstate : s.state = .Active) (h : Healthy s.store)
    (hroom : s.next_sender + 3 < 2 ^ 64) :
    ∃ v, s.view.Speaks (TimerMessage s.view) 3 v ∧
    (s.on_timer.view = v ∨ s.on_timer.view = v.down) := by
  have htick : ({ s with io := s.io.tick } : Session σ).view = s.view := rfl
  have hticked : ({ s with io := s.io.tick } : Session σ).state = .Active ∧
      Healthy ({ s with io := s.io.tick } : Session σ).store := ⟨hstate, h⟩
  rw [on_timer]
  generalize ({ s with io := s.io.tick } : Session σ) = s₀ at htick hticked ⊢
  obtain ⟨hactive, h₀⟩ := hticked
  have hsender : s₀.next_sender = s.next_sender := congrArg View.next_sender htick
  dsimp only
  rw [view_drain_pending_errors, hactive]
  dsimp only
  rw [← htick]
  -- the Heartbeat, then the probe, then the retry of a gap
  have hspeaks : ∀ now : ℤ, s₀.view.Speaks (TimerMessage s₀.view) 1
        (if s₀.heartbeat_sec * 1000 ≤ now then s₀.send_heartbeat [] else s₀).view ∧
      Healthy (if s₀.heartbeat_sec * 1000 ≤ now then s₀.send_heartbeat [] else s₀).store := by
    intro now
    split
    · exact ⟨speaks_send_message h₀ (by omega) .heartbeat, h₀.of_talks (talks_send_heartbeat [] s₀)⟩
    · exact ⟨.refl _, h₀⟩
  obtain ⟨hbeat, hhealthy⟩ := hspeaks (s.io.clock_now - s₀.last_send_time)
  generalize (if s₀.heartbeat_sec * 1000 ≤ s.io.clock_now - s₀.last_send_time then s₀.send_heartbeat
    [] else s₀) = s₁
    at hbeat hhealthy ⊢
  have hnext : s₁.next_sender ≤ s₀.next_sender + 1 := hbeat.next_sender_le
  have hprobes : ∀ k, TimerMessage s₀.view
      (test_request_message (ascii "TEST-" ++ to_chars (s₁.io.env.test_req_counter k))) := by
    have henv : s₁.io.env = s₀.view.env := by
      obtain ⟨ws, msgs, -, -, -, heq⟩ := hbeat
      exact congrArg View.env heq
    rw [henv]
    exact .test_request
  obtain ⟨v, hprobe, hview⟩ :=
    probe_peer_speaks hhealthy (by omega) s.io.clock_now (s₀.heartbeat_sec * 1000) hprobes
  have hprobed : Healthy (s₁.probe_peer s.io.clock_now (s₀.heartbeat_sec * 1000)).2.store :=
    healthy_of_refuses hhealthy (refuses_probe_peer _ _ _)
  generalize s₁.probe_peer s.io.clock_now (s₀.heartbeat_sec * 1000) = r at hview hprobed ⊢
  have hboth := hbeat.trans hprobe
  rcases hview with rfl | ⟨hgoes, hdown⟩
  · split
    · exact ⟨_, hboth.mono (fun _ => id) (by omega), .inl rfl⟩
    · have hnext₂ : r.2.next_sender ≤ s₀.next_sender + 2 := hboth.next_sender_le
      have hretries : r.2.gap.is_open = true →
          TimerMessage s₀.view (resend_request_message r.2.next_target 0) := by
        obtain ⟨ws, msgs, -, -, -, heq⟩ := hboth
        have hgap : r.2.gap.is_open = s₀.view.gap_open := congrArg View.gap_open heq
        have htarget : r.2.next_target = s₀.view.next_target := congrArg View.next_target heq
        rw [hgap, htarget]
        exact .retry
      obtain ⟨v, hretry, hview⟩ :=
        retry_gap_speaks hprobed (by omega) s.io.clock_now (s₀.heartbeat_sec * 1000) hretries
      exact ⟨v, hboth.trans hretry, hview⟩
  · -- a session that is down has no gap to retry
    have hclosed : r.2.gap.is_open = false := congrArg View.gap_open hdown
    rw [hgoes, if_neg (by decide), retry_gap_closed hclosed]
    exact ⟨v, hboth.mono (fun _ => id) (by omega), .inr hdown⟩

end Session

/-! ## Ordinary messages -/

/-- The messages of an established session that start no recovery. -/
structure Ordinary (msg : Message) : Prop where
  once : NoRepeats msg
  kind : msg.msg_type = msg_types.Heartbeat ∨ msg.msg_type = msg_types.TestRequest ∨
    is_admin_msg msg.msg_type = false

theorem ordinary_heartbeat (id : Bytes) : Ordinary (heartbeat_message id) :=
  ⟨(tidy_heartbeat id).once, .inl (msg_type_heartbeat id)⟩

theorem ordinary_test_request (id : Bytes) : Ordinary (test_request_message id) :=
  ⟨(tidy_test_request id).once, .inr (.inl (msg_type_test_request id))⟩

/-- The peer's dictionary has nothing against what is read of the frames of an application
message. -/
def Accepted (id : SessionID) (v : View) (msg : Message) : Prop :=
  is_admin_msg msg.msg_type = false → ∀ n d, ReadAs id msg n d → v.accepts d

/-- What an established session answers to an ordinary message. -/
def Answer (msg r : Message) : Prop :=
  msg.msg_type = msg_types.TestRequest ∧
    r = heartbeat_message ((msg.get tags.TestReqID).getD (ascii "TEST"))

/-- The messages of a list that an application sent. -/
def app_messages (msgs : List Message) : List Message :=
  msgs.filter fun msg => !is_admin_msg msg.msg_type

namespace Session

variable {σ : Type} [IMessageStore σ] {s : Session σ} {m : Message}

theorem view_handle_heartbeat (hdup : m.duplicate_header = false)
    (htype : m.msg_type = msg_types.Heartbeat) (s : Session σ) : (s.handle m).view = s.view := by
  have hhandle : s.handle m = s.handle_heartbeat m := by
    rw [handle, hdup, if_neg (by decide), htype, if_pos (by decide), process_admin, htype]
    rfl
  rw [hhandle, handle_heartbeat]
  split <;> rfl

theorem handle_test_request_eq (hdup : m.duplicate_header = false)
    (htype : m.msg_type = msg_types.TestRequest) (s : Session σ) :
    s.handle m = s.send_heartbeat ((m.get tags.TestReqID).getD (ascii "TEST")) := by
  rw [handle, hdup, if_neg (by decide), htype, if_pos (by decide), process_admin, htype]
  rfl

variable [StoreContract σ]

theorem answered_in_sequence {K : Message → Prop} {k : ℕ} (h : Healthy s.store)
    (hidentity : s.identity_error m = none) (hhas : m.has tags.MsgType = true)
    (htype : m.msg_type ≠ msg_types.SequenceReset) (hnumbered : s.state.unnumbered = false)
    (hpos : m.seq_num ≠ 0) (hseq : m.seq_num = s.next_target) (hnext : s.next_target + 1 < 2 ^ 64)
    (hspeaks : View.Speaks K k { s.view with gap_open := false }
      ((s.note_inbound m).clear_gap.handle m).view) :
    ∃ v, View.Speaks K k { s.view with gap_open := false } v ∧
      (s.process_message m).view = { v with next_target := s.next_target + 1 } := by
  refine ⟨_, hspeaks, ?_⟩
  have htarget : ((s.note_inbound m).clear_gap.handle m).next_target = s.next_target := by
    obtain ⟨ws, msgs, -, -, -, heq⟩ := hspeaks
    exact congrArg View.next_target heq
  rw [view_in_sequence h hidentity hhas htype hnumbered hpos hseq, htarget, hseq,
    seq_succ_of_lt hnext, max_eq_right (Nat.le_succ _)]

theorem process_ordinary {id : SessionID} {msg : Message} {n : ℕ} (hstate : s.state = .Active)
    (hmirrors : Mirrors id s.cfg.id) (h : Healthy s.store) (hroom : s.next_sender + 1 < 2 ^ 64)
    (hread : ReadAs id msg n m) (htarget : s.next_target = n) (hpos : n ≠ 0) (hn : n + 1 < 2 ^ 64)
    (hord : Ordinary msg) (hacc : Accepted id s.view msg) :
    ∃ v, View.Speaks (Answer msg) 1 { s.view with gap_open := false } v ∧
      (s.process_message m).view = { v with
        next_target := n + 1
        deliveries := s.deliveries ++ if is_admin_msg msg.msg_type then [] else [m] } := by
  have hidentity : s.identity_error m = none := identity_of_read hread hmirrors
  have hnumbered : s.state.unnumbered = false := by
    rw [hstate]
    rfl
  have hseq : m.seq_num = s.next_target := hread.seq_num.trans htarget.symm
  have hnonzero : m.seq_num ≠ 0 := hread.seq_num.trans_ne hpos
  have hdup := (hread.unique hord.once).1
  have hcleared : (s.note_inbound m).clear_gap.view = { s.view with gap_open := false } := by
    rw [view_clear_gap, view_note_inbound]
  -- a Heartbeat and a TestRequest are answered by speaking, if at all
  have hadmin : is_admin_msg msg.msg_type = true → m.msg_type ≠ msg_types.SequenceReset →
      View.Speaks (Answer msg) 1 { s.view with gap_open := false }
        ((s.note_inbound m).clear_gap.handle m).view →
      ∃ v, View.Speaks (Answer msg) 1 { s.view with gap_open := false } v ∧
        (s.process_message m).view = { v with
          next_target := n + 1
          deliveries := s.deliveries ++ if is_admin_msg msg.msg_type then [] else [m] } := by
    intro hadmin htype hspeaks
    obtain ⟨v, hv, hview⟩ :=
      answered_in_sequence h hidentity hread.has_type htype hnumbered hnonzero hseq
        (by omega) hspeaks
    have hdeliveries : v.deliveries = s.deliveries := by
      obtain ⟨ws, msgs, -, -, -, heq⟩ := hv
      rw [heq]
      rfl
    refine ⟨v, hv, ?_⟩
    rw [hview, hadmin, if_pos rfl, List.append_nil, htarget, ← hdeliveries]
  rcases hord.kind with htype | htype | happ
  · have hm : m.msg_type = msg_types.Heartbeat := hread.msg_type.trans htype
    apply hadmin
    · rw [htype]
      decide
    · rw [hm]
      decide
    · rw [view_handle_heartbeat hdup hm, hcleared]
      exact .refl _
  · have hm : m.msg_type = msg_types.TestRequest := hread.msg_type.trans htype
    apply hadmin
    · rw [htype]
      decide
    · rw [hm]
      decide
    · have hid : m.get tags.TestReqID = msg.get tags.TestReqID :=
        hread.own _ (.inr (.inr (by decide)))
      rw [handle_test_request_eq hdup hm, ← hcleared, send_heartbeat, hid]
      exact speaks_send_message (s := (s.note_inbound m).clear_gap) h hroom ⟨htype, rfl⟩
  · have hview :=
      view_app h hidentity hread.has_type (by rw [hread.msg_type]; exact happ) hdup hstate
      (hacc happ n m hread) hnonzero hseq (by omega)
    refine ⟨_, .refl _, ?_⟩
    rw [hview, happ, if_neg (by decide), htarget]

/-- **An ordinary message in sequence**, read off its frame. A TestRequest is answered, and an
application message is delivered. -/
theorem receive_ordinary {id : SessionID} {msg : Message} {n : ℕ} {w : Bytes}
    (hstate : s.state = .Active) (hmirrors : Mirrors id s.cfg.id) (hidle : s.parser.Idle)
    (h : Healthy s.store) (hroom : s.next_sender + 1 < 2 ^ 64) (hw : Carries id msg n w)
    (hlen : w.length ≤ 2 ^ 20) (htarget : s.next_target = n) (hpos : n ≠ 0) (hn : n + 1 < 2 ^ 64)
    (hord : Ordinary msg) (hacc : Accepted id s.view msg) :
    ∃ m p v, ReadAs id msg n m ∧ p.Idle ∧
      View.Speaks (Answer msg) 1 { s.view with parser := p, gap_open := false } v ∧
      (s.on_data w).view = { v with
        next_target := n + 1
        deliveries := s.deliveries ++ if is_admin_msg msg.msg_type then [] else [m] } := by
  obtain ⟨m, hscan, hread⟩ := carries_read hw (by omega) hlen
  have hup : s.state ≠ .Disconnected := by
    rw [hstate]
    decide
  obtain ⟨v, hspeaks, hview⟩ :=
    process_ordinary (s := { s with parser := (s.parser.delivered m w).emptied })
    hstate hmirrors h hroom hread htarget hpos hn hord hacc
  refine ⟨m, _, v, hread, hidle.emptied m w, hspeaks, ?_⟩
  rw [on_data_frame hidle hup hscan hlen]
  exact hview

end Session

end FixEngine
