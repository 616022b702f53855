/-
`Numbering.lean` -- outbound numbering over every interleaving of send attempts.

Each attempt is a run of the ledger, so every interleaving of attempts is, and the
invariant of the ledger is read off for the session. An attempt that returns an
error is looked at once more: it has changed nothing that is counted.
-/
import FixEngine.SessionSend

set_option autoImplicit false

namespace FixEngine

open IMessageStore

/-! ## Send attempts -/

/-- An attempt to put a frame on the wire, with the arguments of its caller. -/
inductive SendAttempt where
  | send (msg : Message)
  | heartbeat (test_req_id : Bytes)
  | test_request
  | reject (ref_seq : ℕ) (reason : SessionRejectReason) (ref_msg_type : Bytes)
      (ref_tag : TagNum) (text : Bytes)
  | business_reject (ref_seq : ℕ) (business_reject_reason : ℤ) (ref_msg_type text : Bytes)
  | resend_request (first last : ℕ)
  | logout (reason : Bytes)
  | logout_echo
  | logon
  | raw (bytes : Bytes)
  | replay (first range_end : ℕ) (frames : List (ℕ × Bytes))

namespace Session

variable {σ : Type} [IMessageStore σ]

/-- The send function of the attempt. The helpers of the session discard the result of
the send, which stands beside what they leave. -/
def attempt : SendAttempt → Session σ → Result Unit × Session σ
  | .send msg, s => s.send msg
  | .heartbeat id, s => ((s.send_message (heartbeat_message id)).1, s.send_heartbeat id)
  | .test_request, s =>
    let armed := s.arm_test_request
    ((armed.send_message (test_request_message armed.pending_test_req_id)).1, s.send_test_request)
  | .reject ref reason mt tag text, s =>
    ((s.send_message (reject_message ref reason mt tag text)).1, s.send_reject ref reason
      mt tag text)
  | .business_reject ref reason mt text, s =>
    ((s.send_message (business_reject_message ref reason mt text)).1,
      s.send_business_reject ref reason mt text)
  | .resend_request first last, s =>
    ((s.send_message (resend_request_message first last)).1, s.send_resend_request first last)
  | .logout reason, s => ((s.send_message (logout_message reason)).1, s.send_logout reason)
  | .logout_echo, s => ((s.send_message (logout_message [])).1, s.send_logout_echo)
  | .logon, s => s.send_logon
  | .raw bytes, s => (.ok (), s.send_raw bytes)
  | .replay first range_end frames, s => (.ok (), s.replay first range_end frames)

/-- What is left of a failed attempt: no change, unless the claimed number could not be
given back or the store was reset before the send. -/
def Failed (s s' : Session σ) : Prop :=
  (s'.next_sender = s.next_sender ∧ s'.msgs_sent = s.msgs_sent ∧ s'.io.book = s.io.book) ∨
    .rollback_failed ∈ s'.io.book ∨ ∃ more, s'.io.book = s.io.book ++ .store_reset :: more

theorem Unsent.failed {s s' : Session σ} (h : Unsent s s') : Failed s s' := by
  rcases h.numbers with ⟨hbook, hseqs⟩ | hbook
  · refine .inl ⟨congrArg Prod.fst hseqs, ?_, hbook⟩
    rw [h.rest]
  · refine .inr (.inl ?_)
    rw [hbook]
    simp

theorem reset_for_logon_cases (s : Session σ) :
    s.reset_for_logon = (.ok (), s) ∨
    s.reset_for_logon.2.io.book = s.io.book ++ [.store_reset] := by
  have hbook : s.reset_store.2.io.book = s.io.book ++ [.store_reset] := s.io.book_emit rfl
  rw [reset_for_logon]
  split
  · refine .inr ?_
    dsimp only
    split
    · exact (Outside.book_report _ _).trans hbook
    · exact hbook
  · exact .inl rfl

theorem send_message_locked_book (msg : Message) (s : Session σ) :
    ∃ more, (s.send_message_locked msg).2.io.book = s.io.book ++ more := by
  have habort : ∀ (n : ℕ) (s : Session σ), ∃ more, (s.abort_send n).io.book =
      s.io.book ++ more := by
    intro n s
    rw [abort_send]
    dsimp only
    split
    · exact ⟨[], (List.append_nil _).symm⟩
    · refine ⟨[.rollback_failed], ?_⟩
      rw [Outside.book_report, Outside.book_emit _ rfl]
  have houtcome := send_message_locked_outcome msg s
  generalize s.send_message_locked msg = r at houtcome ⊢
  cases houtcome with
  | refused hclaim => exact ⟨[], (List.append_nil _).symm⟩
  | unbuilt hclaim hwire => exact habort _ _
  | unstored hclaim hwire hstore => exact habort _ _
  | @handed_over n w hclaim hwire hstore => exact ⟨_, Outside.book_hand_over s.io.tick n _ w⟩

theorem publish_logon_reset (m : Message) {s : Session σ}
    (h : s.publish.reset_for_logon.2.io.book = s.io.book ++ [.store_reset]) :
    ∃ more, (s.publish_logon m).2.io.book = s.io.book ++ .store_reset :: more := by
  obtain ⟨more, hbook⟩ := send_message_locked_book m s.publish.reset_for_logon.2
  have hsent : (s.publish.reset_for_logon.2.send_message_locked m).2.io.book =
      s.io.book ++ .store_reset :: more := by
    rw [hbook, h, List.append_assoc]
    rfl
  rw [publish_logon]
  dsimp only
  split
  · refine ⟨[], ?_⟩
    rw [io_unpublish]
    exact h
  · refine ⟨more, ?_⟩
    split
    · rw [io_unpublish]
      exact hsent
    · exact hsent

theorem Failed.unpublish {s s' : Session σ} (h : Failed s s') (prev : SessionState) :
    Failed s (s'.unpublish prev) := by
  rw [Session.unpublish]
  split
  · exact h
  · exact h

/-! ## Interleavings -/

/-- The states that attempts lead to from `s₀`, in any order. In between, the session may
do anything that books nothing, leaves NextSender alone and keeps the store fit, and the
store may be reset. -/
inductive Interleaved [StoreContents σ] (s₀ : Session σ) : Session σ → Prop where
  | start : Interleaved s₀ s₀
  | attempt {s : Session σ} (a : SendAttempt) (h : Interleaved s₀ s) :
      Interleaved s₀ (s.attempt a).2
  | elsewhere {s s' : Session σ} (hid : s'.cfg.id = s.cfg.id)
      (hnext : s'.next_sender = s.next_sender) (hbook : s'.io.book = s.io.book)
      (hfit : s.FitStore → s'.FitStore) (h : Interleaved s₀ s) : Interleaved s₀ s'
  | reset {s : Session σ} (h : Interleaved s₀ s) : Interleaved s₀ s.reset_store.2

section

variable [StoreContract σ]

theorem send_message_failed {msg : Message} {s : Session σ} {e : ErrorCode}
    (h : (s.send_message msg).1 = .error e) : Failed s (s.send_message msg).2 := by
  rcases send_message_spec msg s with ⟨_, _, hunsent⟩ | ⟨hok, _⟩
  · exact hunsent.failed
  · rw [hok] at h
    simp at h

theorem publish_logon_failed {m : Message} {s : Session σ} {e : ErrorCode}
    (h : (s.publish_logon m).1 = .error e) : Failed s (s.publish_logon m).2 := by
  rcases reset_for_logon_cases s.publish with hnone | hreset
  · simp only [publish_logon, hnone] at h ⊢
    rcases send_message_locked_spec m s.publish with ⟨e', herr, hunsent⟩ | ⟨hok, _⟩
    · have hfailed : Failed s (s.publish.send_message_locked m).2 := hunsent.failed
      simp only [herr]
      exact hfailed.unpublish _
    · simp only [hok] at h
      simp at h
  · exact .inr (.inr (publish_logon_reset m hreset))

theorem send_logon_failed {s : Session σ} {e : ErrorCode} (h : s.send_logon.1 = .error e) :
    Failed s s.send_logon.2 := by
  have hlocked : Failed { s with io := s.io.acquire }
      (send_logon_locked (logon_message s.cfg s.heartbeat_sec)
        { s with io := s.io.acquire }).2 := by
    rw [send_logon, locked] at h
    dsimp only at h
    rw [send_logon_locked] at h ⊢
    split
    · exact .inl ⟨rfl, rfl, rfl⟩
    · rename_i hfree
      rw [if_neg hfree] at h
      split
      · exact .inl ⟨rfl, rfl, rfl⟩
      · rename_i hfirst
        rw [if_neg hfirst] at h
        exact publish_logon_failed h
  -- the errors reported behind the lock are in no book
  have hdrain : s.send_logon.2.io.book =
      (send_logon_locked (logon_message s.cfg s.heartbeat_sec)
        { s with io := s.io.acquire }).2.io.book :=
    Outside.book_drain_pending_errors _
  rw [Failed, hdrain]
  exact hlocked

theorem attempt_failed {a : SendAttempt} {s : Session σ} {e : ErrorCode}
    (h : (s.attempt a).1 = .error e) : Failed s (s.attempt a).2 := by
  cases a with
  | send msg =>
    rw [attempt, send] at h ⊢
    split
    · exact .inl ⟨rfl, rfl, rfl⟩
    · rename_i hactive
      rw [if_neg hactive] at h
      exact send_message_failed h
  | heartbeat id => exact send_message_failed h
  | test_request =>
    have harmed := send_message_failed h
    exact harmed
  | reject ref reason mt tag text => exact send_message_failed h
  | business_reject ref reason mt text => exact send_message_failed h
  | resend_request first last => exact send_message_failed h
  | logout reason =>
    have hsent := send_message_failed h
    exact hsent
  | logout_echo => exact send_message_failed h
  | logon => exact send_logon_failed h
  | raw bytes => cases h
  | replay first range_end frames => cases h

variable [StoreContents σ]

/-- **Every attempt is a run of the ledger.** -/
theorem attempt_books (a : SendAttempt) (s : Session σ) : Books s (s.attempt a).2 := by
  cases a with
  | send msg =>
    show Books s (s.send msg).2
    rw [send]
    split
    · exact Books.of_eq rfl rfl rfl
    · exact send_message_books msg s
  | heartbeat id => exact send_message_books _ s
  | test_request =>
    have harm : Books s s.arm_test_request := Books.of_eq rfl rfl rfl
    exact harm.trans (send_message_books _ _)
  | reject ref reason mt tag text => exact send_message_books _ s
  | business_reject ref reason mt text => exact send_message_books _ s
  | resend_request first last => exact send_message_books _ s
  | logout reason =>
    have hsent := send_message_books (logout_message reason) s
    exact hsent.trans (Books.of_eq rfl rfl rfl)
  | logout_echo => exact send_message_books _ s
  | logon => exact send_logon_books s
  | raw bytes => exact (send_raw_unnumbered bytes s).books
  | replay first range_end frames => exact (replay_unnumbered first range_end frames s).books

/-- **The session refines the ledger** along every interleaving. -/
theorem Interleaved.books {s₀ s : Session σ} (h : Interleaved s₀ s) : Books s₀ s := by
  induction h with
  | start => exact Books.of_eq rfl rfl rfl
  | attempt a _ ih => exact ih.trans (attempt_books a _)
  | elsewhere hid hnext hbook hfit _ ih =>
    refine ih.trans ⟨hid, hfit, fun _ => ?_⟩
    rw [ledger, ledger, hnext, hbook]
  | reset _ ih => exact ih.trans (reset_store_books _)

theorem Interleaved.sound {s₀ s : Session σ} (hstart : s₀.io.events = []) (hfit : s₀.FitStore)
    (h : Interleaved s₀ s) (hroll : .rollback_failed ∉ s.io.events) :
    s.ledger.Sound (StoreContents.read_back σ) (FrameOf s₀.cfg.id) := by
  have hempty : s₀.ledger.Sound (StoreContents.read_back σ) (FrameOf s₀.cfg.id) := by
    rw [ledger, Outside.book, hstart]
    exact ⟨List.isChain_nil, fun n hn => absurd (show none = some n from hn) (by simp),
      storedFirst_nil, by simp⟩
  apply hempty.run (h.books.run hfit)
  intro hmem
  exact hroll (List.mem_filter.mp hmem).1

/-- **Outbound numbering has no gaps, duplicates or unstored frames.** -/
theorem outbound_numbering {s₀ s : Session σ} (hstart : s₀.io.events = []) (hfit : s₀.FitStore)
    (hrun : Interleaved s₀ s) (a : SendAttempt)
    (hroll : .rollback_failed ∉ (s.attempt a).2.io.events) :
    (emitted (s.attempt a).2.io.events).IsChain (fun m n => n = seq_succ m) ∧
    StoredFirst (StoreContents.read_back σ) (s.attempt a).2.io.events ∧
    (∀ n w, .do_send (.sent n) w ∈ (s.attempt a).2.io.events → FrameOf s₀.cfg.id n w) ∧
    (∀ n, (emitted (s.attempt a).2.io.events).getLast? = some n →
      (s.attempt a).2.next_sender = seq_succ n) ∧
    (∀ e, (s.attempt a).1 = .error e → (s.attempt a).2.resets = s.resets →
      (s.attempt a).2.next_sender = s.next_sender ∧
      (s.attempt a).2.msgs_sent = s.msgs_sent ∧
      (s.attempt a).2.wire_trace = s.wire_trace) := by
  have hsound := (hrun.attempt a).sound hstart hfit hroll
  have hemitted := emitted_filter_booked (s.attempt a).2.io.events
  refine ⟨?_, hsound.stored_first.of_filter, ?_, ?_, ?_⟩
  · rw [← hemitted]
    exact hsound.consecutive
  · intro n w hmem
    exact hsound.frames n w (List.mem_filter.mpr ⟨hmem, rfl⟩)
  · intro n hlast
    rw [← hemitted] at hlast
    exact hsound.next_eq n hlast
  · intro e herr hresets
    rw [resets_eq_count_book, resets_eq_count_book] at hresets
    rw [wire_trace_eq_filterMap_book, wire_trace_eq_filterMap_book]
    rcases attempt_failed herr with ⟨hnext, hcount, hbook⟩ | hlost | ⟨more, hbook⟩
    · rw [hbook]
      exact ⟨hnext, hcount, rfl⟩
    · exact absurd (List.mem_filter.mp hlost).1 hroll
    · rw [hbook, List.count_append, List.count_cons_self] at hresets
      omega

end

end Session

/-- An initiator with default intervals. -/
def quiet_config : SessionConfig where
  id :=
    { version := .FIX_4_2, senderCompID := ascii "CLIENT", targetCompID := ascii "BROKER"
      qualifier := [] }
  initiator := true
  heartbeat_interval := 30
  logon_timeout := 10
  logout_timeout := 10
  reset_on_logon := false
  validate_fields := false
  username := []
  password := []
  default_appl_ver_id := []

/-- Clocks that stand still, callbacks that throw nothing, no audit log, no dictionary. -/
def quiet_env : Env where
  clock := fun _ => 0
  utc := fun _ => midnight
  test_req_counter := fun _ => 0
  throws := fun _ => none
  audit := none
  validate := fun _ => none

def quiet_session : Session MemoryStore :=
  Session.create quiet_config MemoryStore.create quiet_env

/-- The numbering after the first heartbeat. -/
theorem outbound_numbering_heartbeat :
    emitted (quiet_session.attempt (.heartbeat [])).2.io.events = [1] ∧
      (quiet_session.attempt (.heartbeat [])).2.next_sender = seq_succ 1 := by
  have hemitted : emitted (quiet_session.attempt (.heartbeat [])).2.io.events = [1] := by
    decide
  have hnumbering := Session.outbound_numbering (s := quiet_session) rfl trivial .start
    (.heartbeat []) (by decide)
  refine ⟨hemitted, hnumbering.2.2.2.1 1 ?_⟩
  rw [hemitted]
  rfl

end FixEngine
