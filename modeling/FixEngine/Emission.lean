/-
`Emission.lean` -- how much the functions of a session say, and when.

Every frame leaves a session in one of three places, and all of them do the same: the
frame is handed to `do_send`, then to the audit log, and then the time of the last send
and the count of sent frames are written. `Utters traffic s s'` says that on the way
from `s` to `s'` exactly the frames of `traffic` went by, in this order, with what that
leaves in the audit log, in `msgs_sent` and in `last_send_time`. It composes, so each
function has one lemma here, with a bound on the number of frames it sends. Calls and
runs are in `Conversation.lean`.
-/
import FixEngine.AuditTrail
import FixEngine.Replay
import FixEngine.Timers

set_option autoImplicit false

namespace FixEngine

open IMessageStore Decimal

/-! ## What goes by -/

/-- The bytes of a frame that goes out. -/
def outbound_frame : Bool × Bytes → Option Bytes
  | (true, w) => some w
  | (false, _) => none

/-- Frames that go out. -/
def going_out (ws : List Bytes) : List (Bool × Bytes) := ws.map (true, ·)

/-- All of the frames that go out are outbound. -/
@[simp] theorem filterMap_going_out (ws : List Bytes) :
    (going_out ws).filterMap outbound_frame = ws := by
  induction ws with
  | nil => rfl
  | cons w ws ih => exact congrArg (w :: ·) ih

/-- Frames that go out one after the other. -/
@[simp] theorem going_out_append (ws vs : List Bytes) :
    going_out (ws ++ vs) = going_out ws ++ going_out vs :=
  List.map_append

/-- An audit log is wired, and its `log()` never throws. -/
def Env.LogsAll (env : Env) : Prop := ∃ log, env.audit = some log ∧ ∀ k, log k = none

/-- From `o` to `o'` exactly the frames of `traffic` went by. The outbound ones were handed
over in this order. The audit log got some of the frames in this order; what it did not get,
although it is wired, was counted as an error. The application only got messages in `D`. -/
structure Outside.Says (D : Message → Prop) (traffic : List (Bool × Bytes))
    (o o' : Outside) : Prop where
  env : o'.env = o.env
  reads : o.reads ≤ o'.reads
  errors : o.errors ≤ o'.errors
  trace : ∃ more, o'.events = o.events ++ more ∧
    more.filterMap Session.wire_of = traffic.filterMap outbound_frame ∧
    (audited more).Sublist traffic ∧
    (o.env.audit ≠ none → traffic.length + o.errors ≤ (audited more).length + o'.errors) ∧
    (o.env.LogsAll → audited more = traffic) ∧ ∀ m, .on_message m ∈ more → D m

theorem audited_append (es more : List Event) : audited (es ++ more) = audited es ++ audited more :=
  List.filterMap_append

/-- Neither a frame nor an audit entry nor a delivery. -/
def Event.aside : Event → Bool
  | .do_send _ _ => false
  | .audit _ _ => false
  | .on_message _ => false
  | _ => true

/-- Events that are asides put nothing on the wire and nothing into the audit log, and deliver
nothing. -/
theorem filterMap_asides {es : List Event} (h : ∀ e ∈ es, e.aside = true) :
    es.filterMap Session.wire_of = [] ∧ audited es = [] ∧ ∀ m, .on_message m ∉ es := by
  refine ⟨?_, ?_, fun m hm => absurd (h _ hm) Bool.false_ne_true⟩ <;>
    refine List.filterMap_eq_nil_iff.mpr fun e he => ?_ <;>
    · have haside := h e he
      cases e <;> first | rfl | simp [Event.aside] at haside

namespace Outside

variable {D : Message → Prop} {o o₁ o₂ : Outside} {traffic more : List (Bool × Bytes)}

theorem Says.trans (h : Says D traffic o o₁) (h' : Says D more o₁ o₂) :
    Says D (traffic ++ more) o o₂ := by
  obtain ⟨es, hes, hwires, hsub, hcount, hall, htold⟩ := h.trace
  obtain ⟨es', hes', hwires', hsub', hcount', hall', htold'⟩ := h'.trace
  refine ⟨h'.env.trans h.env, h.reads.trans h'.reads, h.errors.trans h'.errors, es ++ es', ?_, ?_,
    ?_, ?_, ?_, ?_⟩
  · rw [hes', hes, List.append_assoc]
  · rw [List.filterMap_append, List.filterMap_append, hwires, hwires']
  · rw [audited_append]
    exact hsub.append hsub'
  · intro hwired
    have hfirst := hcount hwired
    have hsecond := hcount' (h.env ▸ hwired)
    rw [audited_append, List.length_append, List.length_append]
    omega
  · intro hlogs
    rw [audited_append, hall hlogs, hall' (h.env ▸ hlogs)]
  · intro m hm
    exact (List.mem_append.mp hm).elim (htold m) (htold' m)

/-- From `o` to `o'` the frame `w` was handed over under the number `n`. -/
def HandsOver (o o' : Outside) (n : ℕ) (w : Bytes) : Prop :=
  .do_send (.sent n) w ∈ o'.events.drop o.events.length

theorem Says.handsOver_left (h : Says D traffic o o₁) (h' : Says D more o₁ o₂) {n : ℕ} {w : Bytes}
    (hw : HandsOver o o₁ n w) : HandsOver o o₂ n w := by
  obtain ⟨es, hes, -⟩ := h.trace
  obtain ⟨es', hes', -⟩ := h'.trace
  rw [HandsOver, hes, List.drop_left] at hw
  rw [HandsOver, hes', hes, List.append_assoc, List.drop_left]
  exact List.mem_append_left _ hw

/-- What the second stretch hands over, both do. -/
theorem Says.handsOver_right (h : Says D traffic o o₁) (h' : Says D more o₁ o₂) {n : ℕ} {w : Bytes}
    (hw : HandsOver o₁ o₂ n w) : HandsOver o o₂ n w := by
  obtain ⟨es, hes, -⟩ := h.trace
  obtain ⟨es', hes', -⟩ := h'.trace
  rw [HandsOver, hes', List.drop_left] at hw
  rw [HandsOver, hes', hes, List.append_assoc, List.drop_left]
  exact List.mem_append_right _ hw

/-- Nothing went by. -/
theorem says_nothing {es : List Event} (henv : o₁.env = o.env) (hreads : o.reads ≤ o₁.reads)
    (herrors : o.errors ≤ o₁.errors) (hes : o₁.events = o.events ++ es)
    (h : ∀ e ∈ es, e.aside = true) :
    Says D [] o o₁ := by
  obtain ⟨hwires, haudited, hnone⟩ := filterMap_asides h
  refine ⟨henv, hreads, herrors, es, hes, hwires, ?_, ?_, fun _ => haudited,
    fun m hm => absurd hm (hnone m)⟩
  · rw [haudited]
  · intro _
    rw [haudited, List.length_nil, Nat.zero_add, Nat.zero_add]
    exact herrors

/-- Where nothing happens, nothing goes by. -/
theorem says_refl (o : Outside) : Says D [] o o :=
  says_nothing rfl le_rfl le_rfl (List.append_nil _).symm (by simp)

/-- Reading the clock is silent. -/
theorem says_tick (o : Outside) : Says D [] o o.tick :=
  says_nothing rfl (Nat.le_succ _) le_rfl (List.append_nil _).symm (by simp)

/-- So is an aside. -/
theorem says_emit (o : Outside) {e : Event} (h : e.aside = true) : Says D [] o (o.emit e) := by
  refine says_nothing rfl le_rfl le_rfl rfl ?_
  intro e' he
  rw [List.mem_singleton.mp he]
  exact h

/-- A report is counted, and kept or passed on. -/
theorem report_spec (what : Bytes) (o : Outside) :
    (o.report what).env = o.env ∧ (o.report what).reads = o.reads ∧
    (o.report what).errors = o.errors + 1 ∧
      ∃ es, (o.report what).events = o.events ++ es ∧ ∀ e ∈ es, e.aside = true := by
  simp only [report]
  split
  · split
    · exact ⟨rfl, rfl, rfl, [], (List.append_nil _).symm, by simp⟩
    · exact ⟨rfl, rfl, rfl, [], (List.append_nil _).symm, by simp⟩
  · exact ⟨rfl, rfl, rfl, [.on_error what o.send_owner], rfl, by simp [Event.aside]⟩

theorem says_report (what : Bytes) (o : Outside) : Says D [] o (o.report what) := by
  obtain ⟨henv, hreads, herrors, es, hes, hasides⟩ := report_spec what o
  exact says_nothing henv hreads.ge (herrors ▸ Nat.le_succ _) hes hasides

/-- Reports that were kept are passed on, and no frame with them. -/
theorem says_drain_pending_errors (o : Outside) : Says D [] o o.drain_pending_errors := by
  refine says_nothing rfl le_rfl le_rfl rfl ?_
  intro e he
  obtain ⟨what, -, rfl⟩ := List.mem_map.mp he
  rfl

theorem says_guarded (o : Outside) {e : Event} (h : e.aside = true) :
    Says D [] o (o.guarded e) := by
  have hcalled : Says D [] o (o.emit e).tick := (says_emit o h).trans (says_tick _)
  rw [guarded]
  split
  · exact hcalled
  · exact hcalled.trans (says_report _ _)

/-- The application gets a message in `D`. -/
theorem says_on_message (o : Outside) {msg : Message} (h : D msg) :
    Says D [] o (o.guarded (.on_message msg)) := by
  have hcalled : Says D [] o (o.emit (.on_message msg)) := by
    refine ⟨rfl, le_rfl, le_rfl, [.on_message msg], rfl, rfl, .refl _, fun _ => Nat.le_refl _,
      fun _ => rfl, ?_⟩
    intro m hm
    obtain rfl := Event.on_message.inj (List.mem_singleton.mp hm)
    exact h
  rw [guarded]
  split
  · exact hcalled.trans (says_tick _)
  · exact (hcalled.trans (says_tick _)).trans (says_report _ _)

theorem says_audit_frame {d : Bool} {w : Bytes} {es : List Event}
    (hwires : es.filterMap Session.wire_of = [(d, w)].filterMap outbound_frame)
    (haudited : audited es = []) (htold : ∀ m, .on_message m ∉ es) :
    Says D [(d, w)] o ({ o with events := o.events ++ es }.audit_frame d w) := by
  rw [audit_frame]
  split
  · -- no log is wired
    rename_i hnone
    have hnone : o.env.audit = none := hnone
    refine ⟨rfl, le_rfl, le_rfl, es, rfl, hwires, ?_, fun h => absurd hnone h, ?_,
      fun m hm => absurd hm (htold m)⟩
    · rw [haudited]
      exact List.nil_sublist _
    · rintro ⟨log, hlog, -⟩
      exact absurd (hnone.symm.trans hlog) (by simp)
  rename_i log hlog
  have hlog : o.env.audit = some log := hlog
  split
  · have hentry : audited (es ++ [.audit d w]) = [(d, w)] := by
      rw [audited_append, haudited]
      rfl
    refine ⟨rfl, Nat.le_succ _, le_rfl, es ++ [.audit d w], ?_, ?_, ?_, ?_, fun _ => hentry, ?_⟩
    · exact List.append_assoc o.events es [.audit d w]
    · rw [List.filterMap_append, hwires]
      exact List.append_nil _
    · rw [hentry]
    · intro _
      rw [hentry]
      exact le_rfl
    · intro m hm
      exact absurd hm (by simp [htold m])
  · -- the log refused the entry, which is counted
    rename_i what hthrows
    obtain ⟨henv, hreads, herrors, more, hmore, hasides⟩ :=
      report_spec (ascii "audit log: entry dropped: " ++ what)
        (tick { o with events := o.events ++ es })
    obtain ⟨hnone, hkept, hquiet⟩ := filterMap_asides hasides
    refine ⟨henv, ?_, ?_, es ++ more, ?_, ?_, ?_, ?_, ?_, ?_⟩
    · rw [hreads]
      exact Nat.le_succ _
    · rw [herrors]
      exact Nat.le_succ _
    · rw [hmore]
      exact List.append_assoc _ _ _
    · rw [List.filterMap_append, hnone, List.append_nil, hwires]
    · rw [audited_append, haudited, hkept]
      exact List.nil_sublist _
    · intro _
      rw [herrors, List.length_singleton, Nat.add_comm]
      exact Nat.le_add_left _ _
    · rintro ⟨log', hlog', hnever⟩
      rw [hlog] at hlog'
      obtain rfl := Option.some.inj hlog'
      rw [hnever] at hthrows
      exact absurd hthrows (by simp)
    · intro m hm
      exact absurd (List.mem_append.mp hm) (by simp [htold m, hquiet m])

end Outside

/-! ## What a session says -/

/-- The messages that a session builds itself, with `R` for the BusinessMessageRejects. -/
inductive OwnMessage (R : Message → Prop) : Message → Prop where
  | logon (cfg : SessionConfig) (heartbeat_sec : ℤ) : OwnMessage R (logon_message cfg heartbeat_sec)
  | logout (reason : Bytes) : OwnMessage R (logout_message reason)
  | heartbeat (test_req_id : Bytes) : OwnMessage R (heartbeat_message test_req_id)
  | test_request (req_id : Bytes) : OwnMessage R (test_request_message req_id)
  | resend_request (first last : ℕ) : OwnMessage R (resend_request_message first last)
  | reject (ref_seq : ℕ) (reason : SessionRejectReason) (ref_msg_type : Bytes) (ref_tag : TagNum)
      (text : Bytes) :
      OwnMessage R (reject_message ref_seq reason ref_msg_type ref_tag text)
  | business_reject {msg : Message} (h : R msg) : OwnMessage R msg
  | gap_fill (up_to : ℕ) : OwnMessage R (gap_fill_message up_to)

theorem OwnMessage.admin {R : Message → Prop} {msg : Message} (h : OwnMessage R msg) :
    is_admin_msg msg.msg_type = true ∨ R msg := by
  cases h with
  | business_reject h => exact .inr h
  | logon cfg heartbeat_sec => exact .inl (by rw [msg_type_logon]; decide)
  | logout reason => exact .inl (by rw [msg_type_logout]; decide)
  | heartbeat test_req_id => exact .inl (by rw [msg_type_heartbeat]; decide)
  | test_request req_id => exact .inl (by rw [msg_type_test_request]; decide)
  | resend_request first last => exact .inl (by rw [msg_type_resend_request]; decide)
  | reject ref_seq reason ref_msg_type ref_tag text => exact .inl (by rw [msg_type_reject]; decide)
  | gap_fill up_to => exact .inl (by rw [msg_type_gap_fill]; decide)

/-- A frame of such a message. -/
def OwnFrame (id : SessionID) (R : Message → Prop) (w : Bytes) : Prop :=
  ∃ msg n, OwnMessage R msg ∧ Carries id msg n w

/-- An operation on the store in which `T` says which frames are stored under which numbers. -/
inductive StoreMove {σ : Type} [IMessageStore σ] (T : ℕ → Bytes → Prop) : σ → σ → Prop where
  | claim (st : σ) : StoreMove T st (next_sender_seq_num_incr st).2
  | set_sender (n : ℕ) (st : σ) : StoreMove T st (set_next_sender_seq_num n st).2
  | set_target (n : ℕ) (st : σ) : StoreMove T st (set_next_target_seq_num n st).2
  | advance_target (n : ℕ) (st : σ) : StoreMove T st (advance_next_target_seq_num n st).2
  | store_inbound (n : ℕ) (raw : Bytes) (st : σ) : StoreMove T st (store_inbound n raw st).2
  | read (first last : ℕ) (st : σ) : StoreMove T st (get_messages first last st).2
  | reset (st : σ) : StoreMove T st (IMessageStore.reset st).2
  | refused (n : ℕ) (raw : Bytes) (st : σ) (h : (store_outbound n raw st).1 ≠ .ok ()) :
      StoreMove T st (store_outbound n raw st).2
  | stored (n : ℕ) (raw : Bytes) (st : σ) (h : T n raw) : StoreMove T st (store_outbound n raw st).2

/-- Operations on the store that add no frame but those of `T`. -/
abbrev Stocks {σ : Type} [IMessageStore σ] (T : ℕ → Bytes → Prop) : σ → σ → Prop :=
  Relation.ReflTransGen (StoreMove T)

theorem Stocks.mono {σ : Type} [IMessageStore σ] {T U : ℕ → Bytes → Prop} {st st' : σ}
    (h : Stocks T st st') (hsub : ∀ n w, T n w → U n w) : Stocks U st st' := by
  refine Relation.ReflTransGen.mono ?_ _ _ h
  intro a b hmove
  cases hmove with
  | claim => exact .claim a
  | set_sender n => exact .set_sender n a
  | set_target n => exact .set_target n a
  | advance_target n => exact .advance_target n a
  | store_inbound n raw => exact .store_inbound n raw a
  | read first last => exact .read first last a
  | reset => exact .reset a
  | refused n raw _ h => exact .refused n raw a h
  | stored n raw _ h => exact .stored n raw a (hsub n raw h)

/-- What a session never changes of its configuration. -/
def SessionConfig.conduct (cfg : SessionConfig) : SessionID × Bool := (cfg.id, cfg.validate_fields)

namespace Session

section Utters

variable {σ : Type} [IMessageStore σ]

/-- The dictionary, where it is consulted, lets the message through. -/
def Lets (s : Session σ) (msg : Message) : Prop :=
  s.cfg.validate_fields = true → s.io.env.validate msg = none

/-- The BusinessMessageReject with which the session answers an application message, if the
dictionary is consulted and objects. -/
def Objects (s : Session σ) (msg r : Message) : Prop :=
  is_admin_msg msg.msg_type = false ∧ s.cfg.validate_fields = true ∧
    ∃ ec, s.io.env.validate msg = some ec ∧
    r = business_reject_message msg.seq_num 0 msg.msg_type ec.message

/-- From `s` to `s'` the frames of `traffic` went by. Each outbound one was counted, none was
stored but under the number under which it went out, and the time of the last one is a reading
of the clock that was taken on the way.
The application only got what the dictionary lets through. -/
structure Utters (traffic : List (Bool × Bytes)) (s s' : Session σ) : Prop where
  io : s.io.Says s.Lets traffic s'.io
  conduct : s'.cfg.conduct = s.cfg.conduct
  store : Stocks (s.io.HandsOver s'.io) s.store s'.store
  sent : s'.msgs_sent = s.msgs_sent + (traffic.filterMap outbound_frame).length
  quiet : traffic.filterMap outbound_frame = [] → s'.last_send_time = s.last_send_time
  spoke : traffic.filterMap outbound_frame ≠ [] →
    ∃ k, s.io.reads ≤ k ∧ k < s'.io.reads ∧ s'.last_send_time = s.io.env.clock k

variable {R : Message → Prop} {s s₁ s₂ : Session σ} {traffic more : List (Bool × Bytes)} {m n : ℕ}

/-- A session that speaks keeps its identity. -/
theorem Utters.id (h : Utters traffic s s₁) : s₁.cfg.id = s.cfg.id := congrArg Prod.fst h.conduct

omit [IMessageStore σ] in
theorem lets_congr (hconduct : s₁.cfg.conduct = s.cfg.conduct) (henv : s₁.io.env = s.io.env) :
    s₁.Lets = s.Lets := by
  funext msg
  have hchecks : s₁.cfg.validate_fields = s.cfg.validate_fields := congrArg Prod.snd hconduct
  rw [Lets, Lets, hchecks, henv]

omit [IMessageStore σ] in
/-- What a session objects to depends on its conduct. -/
theorem objects_congr (hconduct : s₁.cfg.conduct = s.cfg.conduct) (henv : s₁.io.env = s.io.env) :
    s₁.Objects = s.Objects := by
  funext msg r
  have hchecks : s₁.cfg.validate_fields = s.cfg.validate_fields := congrArg Prod.snd hconduct
  rw [Objects, Objects, hchecks, henv]

theorem Utters.trans (h : Utters traffic s s₁) (h' : Utters more s₁ s₂) :
    Utters (traffic ++ more) s s₂ := by
  have hio := h'.io
  rw [lets_congr h.conduct h.io.env] at hio
  have hreads := h.io.reads
  have hreads' := h'.io.reads
  refine ⟨h.io.trans hio, h'.conduct.trans h.conduct, ?_, ?_, ?_, ?_⟩
  · exact (h.store.mono fun _ _ => h.io.handsOver_left hio).trans
      (h'.store.mono fun _ _ => h.io.handsOver_right hio)
  · rw [h'.sent, h.sent, List.filterMap_append, List.length_append, Nat.add_assoc]
  · intro hnone
    rw [List.filterMap_append, List.append_eq_nil_iff] at hnone
    rw [h'.quiet hnone.2, h.quiet hnone.1]
  · -- the last frame is one of the second part, if that has any
    intro hsome
    by_cases hmore : more.filterMap outbound_frame = []
    · rw [List.filterMap_append, hmore, List.append_nil] at hsome
      obtain ⟨k, hk, hlt, htime⟩ := h.spoke hsome
      exact ⟨k, hk, hlt.trans_le hreads', (h'.quiet hmore).trans htime⟩
    · obtain ⟨k, hk, hlt, htime⟩ := h'.spoke hmore
      exact ⟨k, hreads.trans hk, hlt, htime.trans (by rw [h.io.env])⟩

/-- Nothing went by, and the store was used for something else. -/
theorem Utters.of_store (h : s.io.Says s.Lets [] s₁.io) (hconduct : s₁.cfg.conduct = s.cfg.conduct)
    (hstore : Stocks (fun _ _ => False) s.store s₁.store) (hsent : s₁.msgs_sent = s.msgs_sent)
    (hlast : s₁.last_send_time = s.last_send_time) : Utters [] s s₁ :=
  ⟨h, hconduct, hstore.mono fun _ _ hnone => hnone.elim, hsent, fun _ => hlast,
    fun hsome => absurd rfl hsome⟩

/-- Nothing went by. -/
theorem Utters.of_io (h : s.io.Says s.Lets [] s₁.io) (hconduct : s₁.cfg.conduct = s.cfg.conduct)
    (hstore : s₁.store = s.store) (hsent : s₁.msgs_sent = s.msgs_sent)
    (hlast : s₁.last_send_time = s.last_send_time) : Utters [] s s₁ :=
  .of_store h hconduct (hstore ▸ .refl) hsent hlast

/-- At most `n` frames went out, all of them of messages that the session builds itself. -/
def Replies (R : Message → Prop) (n : ℕ) (s s' : Session σ) : Prop :=
  ∃ ws : List Bytes, ws.length ≤ n ∧ (∀ w ∈ ws, OwnFrame s.cfg.id R w) ∧ Utters (going_out ws) s s'

/-- The bounds of two stretches add up. -/
theorem Replies.trans (h : Replies R m s s₁) (h' : Replies R n s₁ s₂) : Replies R (m + n) s s₂ := by
  obtain ⟨ws, hws, hown, hutters⟩ := h
  obtain ⟨ws', hws', hown', hutters'⟩ := h'
  rw [hutters.id] at hown'
  refine ⟨ws ++ ws', ?_, ?_, ?_⟩
  · rw [List.length_append]
    omega
  · intro w hw
    exact (List.mem_append.mp hw).elim (hown w) (hown' w)
  · rw [going_out_append]
    exact hutters.trans hutters'

/-- A bound may be raised. -/
theorem Replies.mono (h : Replies R m s s₁) (hmn : m ≤ n) : Replies R n s s₁ := by
  obtain ⟨ws, hws, hown, hutters⟩ := h
  exact ⟨ws, hws.trans hmn, hown, hutters⟩

/-- Silence is within every bound. -/
theorem Utters.replies (h : Utters [] s s₁) : Replies R n s s₁ := ⟨[], Nat.zero_le n, by simp, h⟩

/-- The bound 0 leaves silence only. -/
theorem Replies.quiet (h : Replies R 0 s s₁) : Utters [] s s₁ := by
  obtain ⟨ws, hws, -, hutters⟩ := h
  obtain rfl := List.eq_nil_of_length_eq_zero (Nat.le_zero.mp hws)
  exact hutters

/-- `Utters.of_store`, as a bound. -/
theorem Replies.of_store (h : s.io.Says s.Lets [] s₁.io) (hconduct : s₁.cfg.conduct = s.cfg.conduct)
    (hstore : Stocks (fun _ _ => False) s.store s₁.store) (hsent : s₁.msgs_sent = s.msgs_sent)
    (hlast : s₁.last_send_time = s.last_send_time) : Replies R n s s₁ :=
  (Utters.of_store h hconduct hstore hsent hlast).replies

/-- `Utters.of_io`, as a bound. -/
theorem Replies.of_io (h : s.io.Says s.Lets [] s₁.io) (hconduct : s₁.cfg.conduct = s.cfg.conduct)
    (hstore : s₁.store = s.store) (hsent : s₁.msgs_sent = s.msgs_sent)
    (hlast : s₁.last_send_time = s.last_send_time) : Replies R n s s₁ :=
  (Utters.of_io h hconduct hstore hsent hlast).replies

/-- Only members that have to do with no frame were written. -/
theorem Replies.of_eq (hio : s₁.io = s.io) (hconduct : s₁.cfg.conduct = s.cfg.conduct)
    (hstore : s₁.store = s.store) (hsent : s₁.msgs_sent = s.msgs_sent)
    (hlast : s₁.last_send_time = s.last_send_time) : Replies R n s s₁ :=
  .of_io (hio ▸ Outside.says_refl _) hconduct hstore hsent hlast

/-- Silence on both sides of an answer. -/
theorem Replies.after (h : Replies R n s₁ s₂) (h' : Replies R 0 s s₁) : Replies R n s s₂ :=
  (h'.trans h).mono (Nat.zero_add n).le

/-- Silence behind an answer. -/
theorem Replies.then (h : Replies R n s s₁) (h' : Replies R 0 s₁ s₂) :
    Replies R n s s₂ := h.trans h'

/-- To report an error sends nothing. -/
theorem replies_report (what : Bytes) (s : Session σ) : Replies R n s (s.report what) :=
  .of_io (Outside.says_report what s.io) rfl rfl rfl rfl

/-- A guarded callback sends nothing. -/
theorem replies_guarded (s : Session σ) {e : Event} (h : e.aside = true) :
    Replies R n s (s.guarded e) :=
  .of_io (Outside.says_guarded s.io h) rfl rfl rfl rfl

/-- `disconnect` closes the transport and sends nothing. -/
theorem replies_disconnect (s : Session σ) : Replies R n s s.disconnect :=
  .of_io (Outside.says_emit s.io rfl) rfl rfl rfl rfl

theorem replies_notify_logout (reason : Bytes) (s : Session σ) :
    Replies R n s (s.notify_logout reason) := by
  rw [notify_logout]
  split
  · exact .of_eq rfl rfl rfl rfl rfl
  · exact .of_io (Outside.says_guarded s.io rfl) rfl rfl rfl rfl

/-- What is done under the send lock utters what its body utters: taking the lock and draining
the kept errors behind it are silent. -/
theorem utters_locked {α : Type} {body : Session σ → α × Session σ} (s : Session σ)
    (h : Utters traffic { s with io := s.io.acquire }
      (body { s with io := s.io.acquire }).2) : Utters traffic s (s.locked body).2 := by
  -- the lock and its owner are no part of what goes by
  have htaken : Utters [] s { s with io := s.io.acquire } :=
    .of_io (Outside.says_nothing rfl le_rfl le_rfl (List.append_nil _).symm (by simp))
      rfl rfl rfl rfl
  have hfreed : ∀ s' : Session σ,
      Utters [] s' { s' with io := { s'.io with send_owner := false } } :=
    fun s' => .of_io
      (Outside.says_nothing rfl le_rfl le_rfl (List.append_nil _).symm (by simp)) rfl rfl
      rfl rfl
  have hdrain : ∀ s' : Session σ, Utters [] s' { s' with io := s'.io.drain_pending_errors } :=
    fun s' => .of_io (Outside.says_drain_pending_errors _) rfl rfl rfl rfl
  have hall := ((htaken.trans h).trans (hfreed _)).trans (hdrain _)
  rw [List.nil_append, List.append_nil, List.append_nil] at hall
  exact hall

/-- The same for a bound. -/
theorem replies_locked {α : Type} {body : Session σ → α × Session σ} (s : Session σ)
    (h : Replies R n { s with io := s.io.acquire }
      (body { s with io := s.io.acquire }).2) : Replies R n s (s.locked body).2 := by
  obtain ⟨ws, hws, hown, hutters⟩ := h
  exact ⟨ws, hws, hown, utters_locked s hutters⟩

/-- **The one way out.** A frame is handed over, audited, timed and counted. -/
theorem utters_hand_over (origin : Origin) (w : Bytes) (s : Session σ) :
    Utters [(true, w)] s ((s.emit (.do_send origin w)).audit_frame true w).mark_sent := by
  have hframe : s.io.Says s.Lets [(true, w)] ((s.io.emit (.do_send origin w)).audit_frame true w) :=
    Outside.says_audit_frame rfl rfl (by simp)
  have htimed := hframe.trans (Outside.says_tick _)
  rw [List.append_nil] at htimed
  refine ⟨htimed, rfl, .refl, rfl, fun hnone => absurd hnone (by simp [outbound_frame]),
    fun _ => ?_⟩
  refine ⟨_, hframe.reads, Nat.lt_succ_self _, ?_⟩
  show Outside.clock_now _ = _
  rw [Outside.clock_now]
  exact congrArg (fun env : Env => env.clock _) hframe.env

/-- To take a published state back is silent. -/
theorem replies_unpublish (prev : SessionState) (s : Session σ) :
    Replies R n s (s.unpublish prev) := by
  rw [unpublish]
  split
  · exact .of_eq rfl rfl rfl rfl rfl
  · exact .of_eq rfl rfl rfl rfl rfl

end Utters

variable {σ : Type} [IMessageStore σ] {R : Message → Prop} {n : ℕ}

/-! ### Sending -/

omit [IMessageStore σ] in
/-- What the send path hands over behind the note on the store. -/
theorem hands_over_sent (n : ℕ) (w : Bytes) (held : Option Bytes) (s : Session σ) :
    s.io.HandsOver
      (((s.emit (.stored n held)).emit (.do_send (.sent n) w)).audit_frame true w).mark_sent.io
      n w := by
  obtain ⟨more, hmore, -⟩ := Outside.adds_audit_frame (E := fun _ => True) true w
    ((s.io.emit (.stored n held)).emit (.do_send (.sent n) w))
  have hevents :
      (((s.emit (.stored n held)).emit (.do_send (.sent n) w)).audit_frame true
        w).mark_sent.io.events =
      s.io.events ++ ([.stored n held, .do_send (.sent n) w] ++ more) :=
    hmore.trans (by simp [Outside.emit])
  rw [Outside.HandsOver, hevents, List.drop_left]
  simp

/-- A frame that goes out may be stored before. -/
theorem Utters.stored {w : Bytes} {s s₁ : Session σ} {st : σ}
    (h : Utters [(true, w)] { s with store := st } s₁)
    (hstore : StoreMove (s.io.HandsOver s₁.io) s.store st) : Utters [(true, w)] s s₁ :=
  ⟨h.io, h.conduct, .head hstore h.store, h.sent, h.quiet, h.spoke⟩

theorem replies_abort_send (seq : ℕ) (s : Session σ) : Replies R n s (s.abort_send seq) := by
  refine .of_store ?_ rfl (.single (.set_sender seq s.store)) rfl rfl
  rw [abort_send]
  dsimp only
  split
  · exact Outside.says_refl _
  · exact (Outside.says_emit s.io rfl).trans (Outside.says_report _ _)

theorem utters_send_message_locked (msg : Message) (s : Session σ) :
    ((s.send_message_locked msg).1 ≠ .ok () ∧ Utters [] s (s.send_message_locked msg).2) ∨
      ∃ n w, Carries s.cfg.id msg n w ∧ Utters [(true, w)] s (s.send_message_locked msg).2 := by
  have hclaimed : ∀ n, Utters [] s (s.build_claimed msg n).2 :=
    fun n => .of_store (Outside.says_tick s.io) rfl (.single (.claim s.store)) rfl rfl
  have houtcome := send_message_locked_outcome msg s
  generalize s.send_message_locked msg = r at houtcome ⊢
  cases houtcome with
  | refused hclaim =>
    exact .inl ⟨by simp, .of_store (Outside.says_refl _) rfl (.single (.claim s.store)) rfl rfl⟩
  | unbuilt hclaim hwire =>
    exact .inl ⟨by simp, (hclaimed _).trans (replies_abort_send (R := fun _ => False) _ _).quiet⟩
  | @unstored n w e hclaim hwire hstore =>
    have hfailed : (store_outbound n w (s.build_claimed msg n).2.store).1 ≠ .ok () := by
      rw [show (store_outbound n w (s.build_claimed msg n).2.store).1 = .error e from hstore]
      simp
    have hstored : Utters [] (s.build_claimed msg n).2
        { (s.build_claimed msg n).2 with store := (s.store_claimed n w).2 } :=
      .of_store (Outside.says_refl _) rfl (.single (.refused n w _ hfailed)) rfl rfl
    exact .inl ⟨by simp,
      ((hclaimed n).trans hstored).trans (replies_abort_send (R := fun _ => False) _ _).quiet⟩
  | @handed_over n w hclaim hwire hstore =>
    refine .inr ⟨n, w, ⟨_, _, hwire⟩, (hclaimed n).trans ?_⟩
    -- the frame is stored, and then it goes out under its number
    refine Utters.stored ?_ (.stored n w (s.build_claimed msg n).2.store ?_)
    swap
    · exact hands_over_sent n w _ _
    have hnoted : ∀ held,
        Utters [] { (s.build_claimed msg n).2 with store := (s.store_claimed n w).2 }
        ({ (s.build_claimed msg n).2 with store := (s.store_claimed n w).2 }.emit
          (.stored n held)) :=
      fun _ => .of_io (Outside.says_emit _ rfl) rfl rfl rfl rfl
    exact (hnoted _).trans (utters_hand_over (.sent n) w _)

theorem utters_send_message (msg : Message) (s : Session σ) :
    ((s.send_message msg).1 ≠ .ok () ∧ Utters [] s (s.send_message msg).2) ∨
      ∃ n w, Carries s.cfg.id msg n w ∧ Utters [(true, w)] s (s.send_message msg).2 := by
  rcases utters_send_message_locked msg { s with io := s.io.acquire } with
    ⟨hfailed, h⟩ | ⟨n, w, hcarries, h⟩
  · exact .inl ⟨hfailed, utters_locked s h⟩
  · exact .inr ⟨n, w, hcarries, utters_locked s h⟩

/-- A send under the lock is at most one frame. -/
theorem replies_send_message_locked {msg : Message} (hmsg : OwnMessage R msg) (s : Session σ) :
    Replies R 1 s (s.send_message_locked msg).2 := by
  rcases utters_send_message_locked msg s with ⟨-, h⟩ | ⟨n, w, hcarries, h⟩
  · exact h.replies
  · refine ⟨[w], le_rfl, ?_, h⟩
    intro v hv
    rw [List.mem_singleton.mp hv]
    exact ⟨msg, n, hmsg, hcarries⟩

/-- The same for `send_message`, which takes the lock. -/
theorem replies_send_message {msg : Message} (hmsg : OwnMessage R msg) (s : Session σ) :
    Replies R 1 s (s.send_message msg).2 :=
  replies_locked s (replies_send_message_locked hmsg _)

/-- `send_logout` sends one Logout at most. -/
theorem replies_send_logout (reason : Bytes) (s : Session σ) :
    Replies R 1 s (s.send_logout reason) :=
  (replies_send_message (.logout reason) _).then (.of_io (Outside.says_tick _) rfl rfl rfl rfl)

/-- A Logout with its reason, and the end of the connection. -/
theorem replies_logout (reason : Bytes) (s : Session σ) :
    Replies R 1 s (s.send_logout reason).disconnect :=
  (replies_send_logout reason s).then (replies_disconnect _)

/-- `send_test_request` sends one TestRequest at most. -/
theorem replies_send_test_request (s : Session σ) : Replies R 1 s s.send_test_request := by
  have harm : Replies R 0 s s.arm_test_request :=
    .of_io ((Outside.says_tick s.io).trans (Outside.says_tick _)) rfl rfl rfl rfl
  exact (replies_send_message (.test_request _) _).after harm

/-- To reset the store is silent: it stores no frame. -/
theorem replies_reset_store (s : Session σ) : Replies R n s s.reset_store.2 :=
  .of_store (Outside.says_emit s.io rfl) rfl (.single (.reset s.store)) rfl rfl

theorem replies_reset_for_logon (s : Session σ) : Replies R 0 s s.reset_for_logon.2 := by
  rw [reset_for_logon]
  split
  · dsimp only
    split
    · exact (replies_reset_store s).then (replies_report _ _)
    · exact (replies_reset_store s).then (.of_eq rfl rfl rfl rfl rfl)
  · exact .of_eq rfl rfl rfl rfl rfl

theorem replies_publish_logon (cfg : SessionConfig) (heartbeat_sec : ℤ) (s : Session σ) :
    Replies R 1 s (s.publish_logon (logon_message cfg heartbeat_sec)).2 := by
  have hpublish : Replies R 0 s s.publish := .of_io (Outside.says_tick s.io) rfl rfl rfl rfl
  have hready := hpublish.then (replies_reset_for_logon s.publish)
  rw [publish_logon]
  dsimp only
  split
  · exact (hready.then (replies_unpublish _ _)).mono (Nat.zero_le 1)
  · have hsent := (replies_send_message_locked (.logon cfg heartbeat_sec) _).after hready
    split
    · exact hsent.then (replies_unpublish _ _)
    · exact hsent

theorem replies_send_logon (s : Session σ) : Replies R 1 s s.send_logon.2 := by
  apply replies_locked
  rw [send_logon_locked]
  dsimp only
  split
  · exact .of_eq rfl rfl rfl rfl rfl
  split
  · exact .of_eq rfl rfl rfl rfl rfl
  · exact replies_publish_logon _ _ _

theorem replies_logon (s : Session σ) : Replies R 1 s s.logon.2 := by
  rw [logon]
  split
  · exact .of_eq rfl rfl rfl rfl rfl
  · exact replies_send_logon s

/-! ### The replay

The cursor counts the frames: each one moves it on by at least one number, and it never
passes the end of the window. -/

/-- From `a` to `a'` some frames in `V` went out: as long as no number wraps around, at most as
many as the cursor moved on, and it stayed at or below `bound`. -/
def Covers (V : Bytes → Prop) (bound : ℕ) (a a' : ℕ × Session σ) : Prop :=
  ∃ ws : List Bytes, (∀ w ∈ ws, V w) ∧ Utters (going_out ws) a.2 a'.2 ∧
    (bound < 2 ^ 64 → a.1 ≤ bound → a'.1 ≤ bound ∧ ws.length + a.1 ≤ a'.1)

section Covers

variable {V : Bytes → Prop} {bound : ℕ} {a a₁ a₂ : ℕ × Session σ}

theorem Covers.trans (h : Covers V bound a a₁) (h' : Covers V bound a₁ a₂) :
    Covers V bound a a₂ := by
  obtain ⟨ws, hV, hutters, hws⟩ := h
  obtain ⟨ws', hV', hutters', hws'⟩ := h'
  refine ⟨ws ++ ws', ?_, going_out_append ws ws' ▸ hutters.trans hutters', ?_⟩
  · intro w hw
    exact (List.mem_append.mp hw).elim (hV w) (hV' w)
  · intro hwrap hbound
    obtain ⟨hbound₁, hlength⟩ := hws hwrap hbound
    obtain ⟨hbound₂, hlength'⟩ := hws' hwrap hbound₁
    rw [List.length_append]
    exact ⟨hbound₂, by omega⟩

theorem Covers.id (h : Covers V bound a a₁) : a₁.2.cfg.id = a.2.cfg.id := by
  obtain ⟨ws, -, hutters, -⟩ := h
  exact hutters.id

/-- Silence does not move the cursor. -/
theorem covers_quiet {cursor : ℕ} {s s₁ : Session σ} (h : Replies (fun _ => False) 0 s s₁) :
    Covers V bound (cursor, s) (cursor, s₁) :=
  ⟨[], by simp, h.quiet, fun _ hbound => ⟨hbound, (Nat.zero_add _).le⟩⟩

/-- A frame moves it on. -/
theorem covers_emit_wire_locked {cursor next : ℕ} {w : Bytes} (hw : V w) (s : Session σ)
    (h : bound < 2 ^ 64 → cursor < next ∧ next ≤ bound) :
    Covers V bound (cursor, s) (next, s.emit_wire_locked w) := by
  refine ⟨[w], ?_, utters_hand_over .replayed w s, ?_⟩
  · intro v hv
    rw [List.mem_singleton.mp hv]
    exact hw
  · intro hwrap _
    obtain ⟨hlt, hnext⟩ := h hwrap
    refine ⟨hnext, ?_⟩
    show 1 + cursor ≤ next
    omega

/-- To build a frame reads the clock and sends nothing. -/
theorem replies_serialize (msg : Message) (seq : ℕ) (s : Session σ) :
    Replies R n s (s.serialize msg seq).2 :=
  .of_io (Outside.says_tick s.io) rfl rfl rfl rfl

omit [IMessageStore σ] in
/-- What `serialize` builds carries the message under the number. -/
theorem carries_of_serialize {msg : Message} {seq : ℕ} {s : Session σ} {w : Bytes}
    (h : (s.serialize msg seq).1 = .ok w) : Carries s.cfg.id msg seq w := ⟨_, _, h⟩

/-- `flush_gap` sends one GapFill at most, and only if the cursor is behind `up_to`; then it
moves the cursor there. -/
theorem covers_flush_gap (bound up_to : ℕ) (hup : bound < 2 ^ 64 → up_to ≤ bound)
    (a : ℕ × Session σ) (hown : ∀ n w, Carries a.2.cfg.id (gap_fill_message up_to) n w → V w) :
    Covers V bound a (flush_gap up_to a) := by
  obtain ⟨cursor, s⟩ := a
  rw [flush_gap]
  dsimp only
  split
  · exact covers_quiet (.of_eq rfl rfl rfl rfl rfl)
  · rename_i hlt
    have hbuilt :=
      replies_serialize (R := fun _ => False) (n := 0) (gap_fill_message up_to) cursor s
    split
    · exact covers_quiet (hbuilt.then (replies_report _ _))
    · rename_i w hw
      have hframe : V w := hown cursor w (carries_of_serialize hw)
      apply (covers_quiet hbuilt).trans
      exact covers_emit_wire_locked hframe _ fun hwrap => ⟨not_le.mp hlt, hup hwrap⟩

/-- The frames of an application message that is sent again. -/
def ResendOf (id : SessionID) (frames : List (ℕ × Bytes)) (w : Bytes) : Prop :=
  ∃ seq wire stored, (seq, wire) ∈ frames ∧ read_stored wire = some stored ∧
    is_admin_msg stored.msg_type = false ∧ Carries id (retag stored) seq w

/-- **The loop over the stored frames.** -/
theorem covers_replay_frames {id : SessionID} (range_end : ℕ) (frames : List (ℕ × Bytes))
    (a : ℕ × Session σ) (hid : a.2.cfg.id = id)
    (hown : ∀ up_to n w, Carries id (gap_fill_message up_to) n w → V w)
    (happ : ∀ w, ResendOf id frames w → V w) :
    Covers V (range_end + 1) a (replay_frames range_end frames a) := by
  have hcount : ∀ (cursor : ℕ) (s : Session σ),
      Covers V (range_end + 1) (cursor, s)
        (cursor, { s with resend_corrupt := s.resend_corrupt + 1 }) :=
    fun cursor s => covers_quiet (.of_eq rfl rfl rfl rfl rfl)
  -- the induction follows the loop, one stored frame at a time
  induction frames generalizing a with
  | nil =>
    rw [replay_frames]
    exact covers_quiet (.of_eq rfl rfl rfl rfl rfl)
  | cons frame frames ih =>
    obtain ⟨seq, wire⟩ := frame
    obtain ⟨cursor, s⟩ := a
    have ih := fun a hid => ih a hid fun w hw => by
      obtain ⟨seq', wire', stored, hmem, hrest⟩ := hw
      exact happ w ⟨seq', wire', stored, List.mem_cons_of_mem _ hmem, hrest⟩
    rw [replay_frames]
    split
    · exact ih _ hid
    rename_i hseq
    split
    · exact covers_quiet (.of_eq rfl rfl rfl rfl rfl)
    rename_i hlast
    have hsucc : range_end + 1 < 2 ^ 64 → seq_succ seq = seq + 1 :=
      fun hwrap => Nat.mod_eq_of_lt (by omega)
    split
    · rename_i stored hstored
      split
      · exact (hcount cursor s).trans (ih _ hid)
      split
      · exact ih _ hid
      · -- an application message: the gap before it is filled, and it goes out itself
        rename_i htype hadmin
        have hfill := covers_flush_gap (V := V) (range_end + 1) seq (fun _ => by omega) (cursor, s)
          fun n w hw => hown seq n w (hid ▸ hw)
        have hcursor : (flush_gap seq (cursor, s)).1 ≤ seq := by
          rw [flush_gap]
          dsimp only
          split
          · exact not_lt.mp hseq
          · split
            · exact not_lt.mp hseq
            · exact le_rfl
        dsimp only
        have hfilled : (flush_gap seq (cursor, s)).2.cfg.id = id := hfill.id.trans hid
        generalize flush_gap seq (cursor, s) = filled at hfill hcursor hfilled ⊢
        have hbuilt :=
          hfill.trans (covers_quiet (replies_serialize (n := 0) (retag stored) seq filled.2))
        have hsame : (filled.2.serialize (retag stored) seq).2.cfg.id = id := hfilled
        split
        · rename_i w hw
          have hframe : V w :=
            happ w ⟨seq, wire, stored, List.mem_cons_self, hstored, by simpa using hadmin,
            hfilled ▸ carries_of_serialize hw⟩
          have hsent : Covers V (range_end + 1)
              (filled.1, (filled.2.serialize (retag stored) seq).2)
              (seq_succ seq, (filled.2.serialize (retag stored) seq).2.emit_wire_locked w) :=
            covers_emit_wire_locked hframe _ fun hwrap => by
              rw [hsucc hwrap]
              omega
          exact (hbuilt.trans hsent).trans (ih _ hsame)
        · have hgap := covers_flush_gap (V := V) (range_end + 1) (seq_succ seq)
            (fun hwrap => by rw [hsucc hwrap]; omega)
            (filled.1, { (filled.2.serialize (retag stored) seq).2 with
              resend_corrupt := (filled.2.serialize (retag stored) seq).2.resend_corrupt + 1 })
            fun n w hw => hown _ n w (hsame ▸ hw)
          exact ((hbuilt.trans (hcount _ _)).trans hgap).trans (ih _ (hgap.id.trans hsame))
    · exact (hcount cursor s).trans (ih _ hid)

end Covers

/-- Some frames in `V` went out, at most `n` of them unless a number wrapped around. -/
def RepliesIf (P : Prop) (V : Bytes → Prop) (n : ℕ) (s s' : Session σ) : Prop :=
  ∃ ws : List Bytes, (P → ws.length ≤ n) ∧ (∀ w ∈ ws, V w) ∧ Utters (going_out ws) s s'

section RepliesIf

variable {P Q : Prop} {V V' : Bytes → Prop} {m : ℕ} {s s₁ s₂ : Session σ}

/-- A bound that always holds is one that holds under `P`. -/
theorem Replies.weaken (h : Replies R m s s₁) (hmn : m ≤ n)
    (hV : ∀ w, OwnFrame s.cfg.id R w → V w) :
    RepliesIf P V n s s₁ := by
  obtain ⟨ws, hws, hown, hutters⟩ := h
  exact ⟨ws, fun _ => hws.trans hmn, fun w hw => hV w (hown w hw), hutters⟩

/-- Silence in front of an answer. -/
theorem RepliesIf.after (h : RepliesIf P V n s₁ s₂) (h' : Replies R 0 s s₁) :
    RepliesIf P V n s s₂ := by
  obtain ⟨ws, hws, hV, hutters⟩ := h
  exact ⟨ws, hws, hV, h'.quiet.trans hutters⟩

/-- Silence behind it. -/
theorem RepliesIf.then (h : RepliesIf P V n s s₁) (h' : Replies R 0 s₁ s₂) :
    RepliesIf P V n s s₂ := by
  obtain ⟨ws, hws, hV, hutters⟩ := h
  refine ⟨ws, hws, hV, ?_⟩
  have hall : Utters (going_out ws ++ []) s s₂ := hutters.trans h'.quiet
  rw [List.append_nil] at hall
  exact hall

theorem RepliesIf.mono (h : RepliesIf P V m s s₁) (hP : Q → P) (hV : ∀ w, V w → V' w)
    (hmn : m ≤ n) :
    RepliesIf Q V' n s s₁ := by
  obtain ⟨ws, hws, hframes, hutters⟩ := h
  exact ⟨ws, fun hQ => (hws (hP hQ)).trans hmn, fun w hw => hV w (hframes w hw), hutters⟩

end RepliesIf

/-- **A replay sends at most one frame for each number of its window**: GapFills of its own and
frames that were read from the store. -/
theorem replies_replay {first range_end : ℕ} (hwindow : first ≤ range_end)
    (frames : List (ℕ × Bytes)) (s : Session σ) :
    RepliesIf (range_end + 1 < 2 ^ 64) (fun w => OwnFrame s.cfg.id R w ∨ ResendOf s.cfg.id frames w)
      (range_end + 1 - first) s (s.replay first range_end frames) := by
  have hup : range_end + 1 < 2 ^ 64 → seq_succ range_end ≤ range_end + 1 := fun hwrap =>
    (Nat.mod_eq_of_lt hwrap).le
  have hloop :=
    covers_replay_frames (V := fun w => OwnFrame s.cfg.id R w ∨ ResendOf s.cfg.id frames w)
      range_end frames (first, { s with io := s.io.acquire }) rfl
      (fun up_to n w hw => .inl ⟨_, n, .gap_fill up_to, hw⟩) (fun w hw => .inr hw)
  obtain ⟨ws, hV, hutters, hws⟩ := hloop.trans
    (covers_flush_gap _ _ hup _ fun n w hw => .inl ⟨_, n, .gap_fill _, hloop.id ▸ hw⟩)
  refine ⟨ws, ?_, hV, utters_locked s hutters⟩
  intro hwrap
  obtain ⟨hbound, hlength⟩ := hws hwrap (Nat.le_succ_of_le hwindow)
  have hlength : ws.length + first ≤ _ := hlength
  omega

/-- The frames with which a ResendRequest can be answered: one for each number that it asks
for and that was given out, or a Reject. -/
def answers_due (msg : Message) (s : Session σ) : ℕ :=
  max 1 (resolved_end (requested_end msg) s.next_sender + 1 -
    to_u64 ((msg.get_int tags.BeginSeqNo).getD 0))

/-- The frames that the session can send again from its store. -/
def Resends (s : Session σ) (w : Bytes) : Prop :=
  ∃ first last frames, (get_messages first last s.store).1 = .ok frames ∧ ResendOf s.cfg.id frames w

/-- **A ResendRequest is answered with at most `answers_due` frames**, a Reject or those of one
replay. -/
theorem replies_handle_resend_request (msg : Message) (s : Session σ) :
    RepliesIf (s.next_sender < 2 ^ 64) (fun w => OwnFrame s.cfg.id R w ∨ s.Resends w)
      (answers_due msg s) s (s.handle_resend_request msg) := by
  have hquiet : ∀ {s' : Session σ} (bound : ℕ), Replies R 0 s s' →
      RepliesIf (s.next_sender < 2 ^ 64) (fun w => OwnFrame s.cfg.id R w ∨ s.Resends w) bound
        s s' :=
    fun bound h => h.weaken (Nat.zero_le _) fun w hw => .inl hw
  have hreject : ∀ {s₁ : Session σ} (ref_seq : ℕ) (reason : SessionRejectReason) (mt : Bytes)
      (tag : TagNum) (text : Bytes) (bound : ℕ), Replies R 0 s s₁ →
      RepliesIf (s.next_sender < 2 ^ 64) (fun w => OwnFrame s.cfg.id R w ∨ s.Resends w)
        (max 1 bound) s (s₁.send_reject ref_seq reason mt tag text) :=
    fun ref_seq reason mt tag text bound h =>
      ((replies_send_message (.reject ref_seq reason mt tag text) _).after h).weaken
        (le_max_left 1 bound) fun w hw => .inl hw
  rw [handle_resend_request, answers_due]
  split
  · exact hreject _ _ _ _ _ _ (.of_eq rfl rfl rfl rfl rfl)
  rename_i first hfirst
  rw [hfirst, Option.getD_some]
  split
  · exact hreject _ _ _ _ _ _ (.of_eq rfl rfl rfl rfl rfl)
  dsimp only
  rw [show ((msg.get_int tags.EndSeqNo).map to_u64).getD 0 = requested_end msg from rfl]
  generalize requested_end msg = last
  have hcall : Replies R 0 s (s.guarded (.on_resend_request (to_u64 first) last)) :=
    replies_guarded s rfl
  have hstore : (s.guarded (.on_resend_request (to_u64 first) last)).store = s.store := rfl
  have hid : (s.guarded (.on_resend_request (to_u64 first) last)).cfg.id = s.cfg.id := rfl
  have hsender : (s.guarded (.on_resend_request (to_u64 first) last)).next_sender = s.next_sender :=
    rfl
  generalize s.guarded (.on_resend_request (to_u64 first) last) = s₁ at hcall hstore hid hsender ⊢
  rw [hsender]
  split
  · exact hreject _ _ _ _ _ _ hcall
  rename_i hknown
  have hread : Replies R 0 s { s₁ with store := (get_messages (to_u64 first) last s₁.store).2 } :=
    hcall.then (.of_store (Outside.says_refl _) rfl (.single (.read _ _ s₁.store)) rfl rfl)
  split
  · exact hquiet _ (hread.then (replies_report _ _))
  · rename_i frames hframes
    rw [hstore] at hframes
    rw [show (if last = 0 ∨ s.next_sender ≤ last then s.next_sender - 1 else last) =
      resolved_end last s.next_sender from rfl]
    have hgiven : s.next_sender < 2 ^ 64 → resolved_end last s.next_sender + 1 < 2 ^ 64 := by
      intro hwrap
      rw [resolved_end]
      split <;> omega
    split
    · exact hquiet _ hread
    · rename_i hwindow
      refine ((replies_replay (R := R) (not_lt.mp hwindow) frames _).after hread).mono hgiven ?_
        (le_max_right _ _)
      rintro w (hown | hresend)
      · exact .inl (hid ▸ hown)
      · exact .inr ⟨_, _, frames, hframes, hid ▸ hresend⟩

/-! ### Handlers -/

/-- `request_gap` sends one ResendRequest at most. -/
theorem replies_request_gap (first : ℕ) (s : Session σ) : Replies R 1 s (s.request_gap first) := by
  rw [request_gap]
  split
  · exact .of_eq rfl rfl rfl rfl rfl
  · have hopen : Replies R 0 s { s with gap := ⟨true, s.io.clock_now, 1⟩, io := s.io.tick } :=
      .of_io (Outside.says_tick s.io) rfl rfl rfl rfl
    exact (replies_send_message (.resend_request _ _) _).after hopen

/-- The check of the number passes and leaves the session alone, or it fails with one frame at
most: a Reject without a number, a ResendRequest above the expected one, a Logout below. -/
theorem replies_validate_seq_num (msg : Message) (s : Session σ) :
    s.validate_seq_num msg = (true, s) ∨
      ((s.validate_seq_num msg).1 = false ∧ Replies R 1 s (s.validate_seq_num msg).2) := by
  rw [validate_seq_num]
  split
  · exact .inr ⟨rfl, replies_send_message (.reject _ _ _ _ _) _⟩
  split
  · exact .inr ⟨rfl, (replies_request_gap _ _).after (replies_guarded s rfl)⟩
  split
  · split
    · exact .inr ⟨rfl, .of_eq rfl rfl rfl rfl rfl⟩
    · exact .inr ⟨rfl, replies_logout _ s⟩
  · exact .inl rfl

/-- A store operation of which only the failure is told. -/
theorem Replies.of_told {s s₁ : Session σ} (what : Bytes)
    (h : s₁.io = s.io ∨ s₁.io = s.io.report what) (hconduct : s₁.cfg.conduct = s.cfg.conduct)
    (hstore : Stocks (fun _ _ => False) s.store s₁.store) (hsent : s₁.msgs_sent = s.msgs_sent)
    (hlast : s₁.last_send_time = s.last_send_time) : Replies R n s s₁ := by
  refine .of_store ?_ hconduct hstore hsent hlast
  rcases h with hsame | htold
  · exact hsame ▸ Outside.says_refl _
  · exact htold ▸ Outside.says_report what s.io

theorem replies_store_inbound (msg : Message) (what : Bytes) (s : Session σ) :
    Replies R n s (s.store_inbound msg what) := by
  refine .of_told what ?_ rfl (.single (.store_inbound _ _ s.store)) rfl rfl
  rw [store_inbound]
  dsimp only
  split
  · exact .inl rfl
  · exact .inr rfl

/-- Moving the expected number on is silent. -/
theorem replies_advance_target (msg : Message) (what : Bytes) (s : Session σ) :
    Replies R n s (s.advance_target msg what) := by
  refine .of_told what ?_ rfl (.single (.advance_target _ s.store)) rfl rfl
  rw [advance_target]
  dsimp only
  split
  · exact .inl rfl
  · exact .inr rfl

/-- So is setting it. -/
theorem replies_set_target (k : ℕ) (what : Bytes) (s : Session σ) :
    Replies R n s (s.set_target k what) := by
  refine .of_told what ?_ rfl (.single (.set_target _ s.store)) rfl rfl
  rw [set_target]
  dsimp only
  split
  · exact .inl rfl
  · exact .inr rfl

/-- `consume_inbound` is silent. -/
theorem replies_consume_inbound (msg : Message) (seq_validated : Bool) (s : Session σ) :
    Replies R n s (s.consume_inbound msg seq_validated) := by
  rw [consume_inbound]
  split
  · exact .of_eq rfl rfl rfl rfl rfl
  · exact (replies_advance_target msg _ s).then (replies_store_inbound msg _ _)

/-- A move of the state is silent. -/
theorem replies_transition (expected desired : SessionState) (s : Session σ) :
    Replies R n s (s.transition expected desired).2 := .of_eq rfl rfl rfl rfl rfl

/-- The session is told of its logon. -/
theorem replies_logged_on (s : Session σ) :
    Replies R n s ({ s with logout_notified := false }.guarded .on_logon) := by
  have hflag : Replies R 0 s { s with logout_notified := false } := .of_eq rfl rfl rfl rfl rfl
  exact (replies_guarded _ rfl).after hflag

/-- **A Logon is answered with one frame at most**: the acceptor's own Logon, or a Logout. -/
theorem replies_handle_logon (msg : Message) (s : Session σ) :
    Replies R 1 s (s.handle_logon msg) := by
  rw [handle_logon]
  dsimp only
  split
  · exact replies_logout _ s
  rename_i hb _
  split
  · exact replies_logout _ s
  split
  · exact replies_logout _ s
  have hinterval : Replies R 0 s { s with
      cfg := { s.cfg with heartbeat_interval := to_i32 hb }, heartbeat_sec := to_i32 hb } :=
        .of_eq rfl rfl rfl rfl rfl
  generalize { s with
    cfg := { s.cfg with heartbeat_interval := to_i32 hb }, heartbeat_sec := to_i32 hb } = s₁
    at hinterval ⊢
  -- the baseline and the end of the gap go by in silence
  have hready : ∀ reset : Prop, ∀ [Decidable reset], Replies R 0 s
      (if reset then s₁.set_target 1 (ascii "logon: ResetSeqNumFlag baseline persist failed")
        else s₁).clear_gap := by
    intro reset _
    split
    · exact (hinterval.then (replies_set_target _ _ _)).then (.of_eq rfl rfl rfl rfl rfl)
    · exact hinterval.then (.of_eq rfl rfl rfl rfl rfl)
  generalize hnext : clear_gap _ = s₂
  have hready : Replies R 0 s s₂ := hnext ▸ hready _
  split
  · have hsent := (replies_send_logon s₂).after hready
    split
    · have hmoved := hsent.then (replies_transition .WaitingLogon .Active _)
      split
      · exact hmoved.then (replies_logged_on _)
      · exact hmoved.then (replies_report _ _)
    · exact hsent.then (replies_report _ _)
  · have hmoved := hready.then (replies_transition .LogonSent .Active _)
    split
    · exact (hmoved.then (replies_logged_on _)).mono (Nat.zero_le 1)
    · exact (hmoved.then (replies_report _ _)).mono (Nat.zero_le 1)
  · exact (replies_logout _ s₂).after hready
  · exact hready.mono (Nat.zero_le 1)

/-- A Logout is answered with one Logout at most. -/
theorem replies_handle_logout (msg : Message) (s : Session σ) :
    Replies R 1 s (s.handle_logout msg) := by
  rw [handle_logout]
  split
  · have hmoved :=
      (replies_transition (R := R) (n := 0) .LogoutSent .Disconnected s).then (replies_disconnect _)
    exact (hmoved.then (replies_notify_logout _ _)).mono (Nat.zero_le 1)
  · exact ((replies_send_message (.logout []) _).then (replies_disconnect _)).then
      (replies_notify_logout _ _)

/-- A Heartbeat is answered with nothing. -/
theorem replies_handle_heartbeat (msg : Message) (s : Session σ) :
    Replies R n s (s.handle_heartbeat msg) := by
  rw [handle_heartbeat]
  split
  · exact .of_eq rfl rfl rfl rfl rfl
  · exact .of_eq rfl rfl rfl rfl rfl

/-- A SequenceReset is answered with one frame at most: a Logout, or a ResendRequest for what is
missing below it. -/
theorem replies_handle_sequence_reset (msg : Message) (s : Session σ) :
    Replies R 1 s (s.handle_sequence_reset msg).2 := by
  have hreset : ∀ (k : ℕ) (what : Bytes), Replies R 1 s (s.set_target k what).clear_gap :=
    fun k what => (replies_set_target k what s).then (.of_eq rfl rfl rfl rfl rfl)
  rw [handle_sequence_reset]
  split
  · split
    · exact replies_logout _ s
    split
    · exact replies_request_gap _ s
    split
    · exact .of_eq rfl rfl rfl rfl rfl
    split
    · exact replies_logout _ s
    · split
      · exact replies_logout _ s
      · exact hreset _ _
  · split
    · exact replies_logout _ s
    · split
      · exact replies_logout _ s
      · exact hreset _ _

/-- A Reject is answered with nothing. -/
theorem replies_handle_reject (msg : Message) (s : Session σ) :
    Replies R n s (s.handle_reject msg) := by
  rw [handle_reject]
  dsimp only
  split
  · exact (replies_notify_logout _ s).then (replies_disconnect _)
  · exact replies_guarded s rfl

/-! ### Dispatch -/

/-- The frames with which a message can be answered. -/
def reply_budget (msg : Message) (s : Session σ) : ℕ :=
  if msg.msg_type = msg_types.ResendRequest then answers_due msg s else 1

/-- Every message may be answered with one frame. -/
theorem one_le_reply_budget (msg : Message) (s : Session σ) : 1 ≤ reply_budget msg s := by
  rw [reply_budget]
  split
  · exact le_max_left _ _
  · exact le_rfl

/-- What the session says in answer to the message: some frames that it builds itself or has
in its store, and not more than it is asked for. -/
def Responds (msg : Message) (s s' : Session σ) : Prop :=
  RepliesIf (s.next_sender < 2 ^ 64) (fun w => OwnFrame s.cfg.id (s.Objects msg) w ∨ s.Resends w)
    (reply_budget msg s) s s'

/-- One own frame is an answer to any message. -/
theorem Replies.responds {msg : Message} {s s' : Session σ} (h : Replies (s.Objects msg) 1 s s') :
    Responds msg s s' :=
  h.weaken (one_le_reply_budget msg s) fun _ hw => .inl hw

theorem responds_process_admin (msg : Message) (s : Session σ) :
    Responds msg s (s.process_admin msg) := by
  rw [process_admin]
  split
  · exact (replies_handle_logon msg s).responds
  split
  · exact (replies_handle_logout msg s).responds
  split
  · exact (replies_handle_heartbeat msg s).responds
  split
  · exact (replies_send_message (.heartbeat _) _).responds
  split
  · rename_i htype
    rw [Responds, reply_budget, if_pos htype]
    exact replies_handle_resend_request msg s
  split
  · exact (replies_handle_sequence_reset msg s).responds
  split
  · exact (replies_handle_reject msg s).responds
  · have hsame : Replies (s.Objects msg) 1 s s := .of_eq rfl rfl rfl rfl rfl
    exact hsame.responds

/-- An application message is delivered in silence, or answered with one frame: a Reject outside
Active, or the BusinessMessageReject of the dictionary. -/
theorem replies_process_app {msg : Message} (happ : is_admin_msg msg.msg_type = false)
    (s : Session σ) :
    Replies (s.Objects msg) 1 s (s.process_app msg) := by
  rw [process_app]
  split
  · exact replies_send_message (.reject _ _ _ _ _) _
  · split
    · rename_i ec hverdict
      split at hverdict
      · rename_i hchecks
        exact replies_send_message (.business_reject ⟨happ, hchecks, ec, hverdict, rfl⟩) _
      · exact absurd hverdict (by simp)
    · -- the message reaches the application: the dictionary was asked and had no objection
      rename_i hverdict
      have hlets : s.Lets msg := fun hchecks => by rwa [if_pos hchecks] at hverdict
      exact .of_io (Outside.says_on_message s.io hlets) rfl rfl rfl rfl

/-- `dispatch` stays within the budget, whichever branch it takes. -/
theorem responds_dispatch (msg : Message) (seq_validated : Bool) (s : Session σ) :
    Responds msg s (s.dispatch msg seq_validated) := by
  have hconsume : ∀ s' : Session σ,
      Replies (s.Objects msg) 0 s' (s'.consume_inbound msg seq_validated).count_received :=
    fun s' => (replies_consume_inbound msg seq_validated s').then (.of_eq rfl rfl rfl rfl rfl)
  rw [dispatch]
  split
  · exact ((replies_send_message (.reject _ _ _ _ _) _).then (hconsume _)).responds
  split
  · exact (responds_process_admin msg s).then (hconsume _)
  · rename_i happ
    exact ((replies_process_app (by simpa using happ) s).then (hconsume _)).responds

/-- Counting a message is silent. -/
theorem replies_count_received (s : Session σ) : Replies R n s s.count_received :=
  .of_eq rfl rfl rfl rfl rfl

/-- A message without a type is answered with one Reject at most. -/
theorem replies_reject_untyped (msg : Message) (s : Session σ) :
    Replies R 1 s (s.reject_untyped msg) := by
  rw [reject_untyped]
  split
  · exact (replies_send_message (.reject _ _ _ _ _) _).after
      ((replies_advance_target msg _ s).then (replies_store_inbound msg _ _))
  · exact replies_send_message (.reject _ _ _ _ _) _

theorem responds_process_identified (msg : Message) (s : Session σ) :
    Responds msg s (s.process_identified msg) := by
  rw [process_identified]
  dsimp only
  split
  · exact ((replies_reject_untyped msg s).then (replies_count_received _)).responds
  split
  · split
    · exact ((replies_handle_sequence_reset msg s).then (replies_count_received _)).responds
    · exact (replies_handle_sequence_reset msg s).responds
  split
  · exact responds_dispatch msg false s
  rcases replies_validate_seq_num msg s with hvalid | ⟨hrefused, hreplies⟩
  · rw [hvalid]
    have hclear : Replies (s.Objects msg) 0 s s.clear_gap := .of_eq rfl rfl rfl rfl rfl
    exact (responds_dispatch msg true s.clear_gap).after hclear
  · rw [hrefused]
    exact hreplies.responds

theorem utters_note_inbound (msg : Message) (s : Session σ) :
    Utters [(false, msg.raw)] s (s.note_inbound msg) := by
  have hframe : s.io.Says s.Lets [(false, msg.raw)]
      ({ s.io with events := s.io.events ++ [] }.audit_frame false msg.raw) :=
    Outside.says_audit_frame rfl rfl (by simp)
  rw [List.append_nil] at hframe
  have hnoted := hframe.trans (Outside.says_tick _)
  rw [List.append_nil] at hnoted
  exact ⟨hnoted, rfl, .refl, rfl, fun _ => rfl, fun hsome => absurd rfl hsome⟩

/-- **One message.** It goes by itself, and then its answer. -/
theorem utters_process_message (msg : Message) (s : Session σ) :
    ∃ ws : List Bytes, (s.next_sender < 2 ^ 64 → ws.length ≤ reply_budget msg s) ∧
      (∀ w ∈ ws, OwnFrame s.cfg.id (s.Objects msg) w ∨ s.Resends w) ∧
      Utters ((false, msg.raw) :: going_out ws) s (s.process_message msg) := by
  have hresponds : Responds msg (s.note_inbound msg) (s.process_message msg) := by
    rw [process_message]
    split
    · exact (replies_logout _ _).responds
    · exact responds_process_identified msg (s.note_inbound msg)
  obtain ⟨ws, hws, hframes, hutters⟩ := hresponds
  have hnoted := utters_note_inbound msg s
  rw [objects_congr hnoted.conduct hnoted.io.env] at hframes
  exact ⟨ws, hws, hframes, hnoted.trans hutters⟩

/-! ### The timer -/

/-- Reading the clock sends nothing. -/
theorem replies_tick (s : Session σ) : Replies R n s { s with io := s.io.tick } :=
  .of_io (Outside.says_tick s.io) rfl rfl rfl rfl

theorem replies_probe_peer (now hb_ms : ℤ) (s : Session σ) :
    Replies R 1 s (s.probe_peer now hb_ms).2 := by
  rw [probe_peer]
  split
  · dsimp only
    split
    · exact replies_send_test_request s
    · exact .of_eq rfl rfl rfl rfl rfl
  split
  · have htold : Replies R 1 s { s with io := (s.io.emit .on_heartbeat_timeout).tick } :=
      .of_io ((Outside.says_emit s.io rfl).trans (Outside.says_tick _)) rfl rfl rfl rfl
    dsimp only
    split
    · exact htold
    · exact htold.then (replies_disconnect _)
  · exact .of_eq rfl rfl rfl rfl rfl

theorem replies_retry_gap (now hb_ms : ℤ) (s : Session σ) :
    Replies R 1 s (s.retry_gap now hb_ms) := by
  rw [retry_gap]
  split
  · have hcount : ∀ gap : Gap, Replies R 0 s { s with gap := gap } :=
      fun gap => .of_eq rfl rfl rfl rfl rfl
    dsimp only
    split
    · exact (((hcount _).then (replies_report _ _)).then (replies_disconnect _)).mono
        (Nat.zero_le 1)
    · exact (replies_send_message (.resend_request _ _) _).after (hcount _)
  · exact .of_eq rfl rfl rfl rfl rfl

/-- `beat` sends one Heartbeat at most. -/
theorem replies_beat (now hb_ms : ℤ) (s : Session σ) : Replies R 1 s (s.beat now hb_ms) := by
  rw [beat]
  split
  · exact replies_send_message (.heartbeat _) _
  · exact .of_eq rfl rfl rfl rfl rfl

theorem replies_watch {s : Session σ} (hactive : s.state = .Active) :
    Replies R 2 ({ s with io := s.io.tick }.beat s.io.clock_now (s.heartbeat_sec * 1000))
      s.on_timer := by
  have hprobe : Replies R 1
      ({ s with io := s.io.tick }.beat s.io.clock_now (s.heartbeat_sec * 1000)) s.tick_probe.2 :=
    replies_probe_peer _ _ _
  rw [on_timer_active hactive]
  refine Replies.then ?_ (.of_io (Outside.says_drain_pending_errors _) rfl rfl rfl rfl)
  split
  · exact hprobe.mono (by omega)
  · exact hprobe.trans (replies_retry_gap _ _ _)

/-- **A tick of the timer sends three frames at most**: a Heartbeat, a TestRequest and a
ResendRequest. -/
theorem replies_on_timer (s : Session σ) : Replies R 3 s s.on_timer := by
  have hdrain : ∀ s' : Session σ, Replies R 0 s' { s' with io := s'.io.drain_pending_errors } :=
    fun s' => .of_io (Outside.says_drain_pending_errors _) rfl rfl rfl rfl
  have htick : Replies R 0 s { s with io := s.io.tick } := replies_tick s
  by_cases hactive : s.state = .Active
  · exact ((replies_beat _ _ _).after htick).trans (replies_watch hactive)
  rw [on_timer]
  refine Replies.then ?_ (hdrain _)
  dsimp only
  split
  · rename_i h
    exact absurd h hactive
  · split
    · exact (htick.then (replies_disconnect _)).mono (Nat.zero_le 3)
    · exact htick.mono (Nat.zero_le 3)
  · split
    · exact ((htick.then (replies_notify_logout _ _)).then (replies_disconnect _)).mono
        (Nat.zero_le 3)
    · split
      · exact ((replies_send_message (.heartbeat _) _).after htick).mono (by omega)
      · exact htick.mono (Nat.zero_le 3)
  · exact htick.mono (Nat.zero_le 3)

end Session

end FixEngine
