/-
`SessionSend.lean` -- the send path refines the ledger.

`send_message_locked_spec` says once what a send can do, whatever a store that
keeps its contract does: it fails and leaves the numbers as they were, unless the
claimed number could not be given back, or one frame was stored and handed over
under the next number. From this every send function is a run of the ledger of
(NextSender, booked events), where the store holds what it was given. Replay and
raw sends touch no store and take no number.
-/
import FixEngine.Ledger

set_option autoImplicit false

namespace FixEngine

open IMessageStore

/-! ## One send -/

/-- The bytes `w` are a frame that the session `id` builds of `msg` under the number
`n`. -/
def Carries (id : SessionID) (msg : Message) (n : ℕ) (w : Bytes) : Prop :=
  ∃ (t : UtcTime) (b : MessageBuilder),
    ((MessageBuilder.try_serialize msg id.version.to_string n id.senderCompID
      id.targetCompID (format_timestamp t)).run b).1 = .ok w

namespace Session

variable {σ : Type} [IMessageStore σ]

/-- The next number and the book of a session. -/
def ledger (s : Session σ) : Ledger := ⟨s.next_sender, s.io.book⟩

/-- The store with the next number claimed, and the claim's result. -/
def claim (s : Session σ) : Result ℕ × σ := next_sender_seq_num_incr s.store

/-- The frame of `msg` under the claimed number `n`, and what building it leaves. -/
def build_claimed (msg : Message) (n : ℕ) (s : Session σ) : Result Bytes × Session σ :=
  { s with store := s.claim.2 }.serialize msg n

/-- The store with the frame of the claimed number, and the result of storing it. -/
def store_claimed (n : ℕ) (w : Bytes) (s : Session σ) : Result Unit × σ :=
  store_outbound n w s.claim.2

/-- What an attempt that failed leaves: nothing was emitted, and the numbers are as
before unless the number could not be given back. -/
structure Unsent (s s' : Session σ) : Prop where
  rest : s' = { s with store := s'.store, builder := s'.builder, io := s'.io }
  env : s'.io.env = s.io.env
  numbers : (s'.io.book = s.io.book ∧ seqs s'.store = seqs s.store) ∨
    s'.io.book = s.io.book ++ [.rollback_failed]

/-- What an attempt that succeeded leaves: the frame `w` of `msg` was stored and handed
over under the number `n`. -/
structure SentAs (msg : Message) (n : ℕ) (w : Bytes) (s s' : Session σ) : Prop where
  rest : s' = { s with
    store := s'.store, builder := s'.builder, last_send_time := s'.last_send_time,
    msgs_sent := s.msgs_sent + 1, io := s'.io }
  env : s'.io.env = s.io.env
  number : n = s.next_sender
  numbers : seqs s'.store = (seq_succ n, s.next_target)
  carries : Carries s.cfg.id msg n w
  stored : (s.store_claimed n w).1 = .ok () ∧ s'.store = (s.store_claimed n w).2
  book : s'.io.book = s.io.book ++ [.stored n (held n s'.store), .do_send (.sent n) w]

/-- The next number is the first of the two counters. -/
theorem next_sender_of_seqs {s : Session σ} {n t : ℕ} (h : seqs s.store = (n, t)) :
    s.next_sender = n := congrArg Prod.fst h

/-- The scope of the send lock adds nothing to what the body does. -/
theorem Unsent.unlock {s s' : Session σ}
    (h : Unsent { s with io := s.io.acquire } s') :
    Unsent s { s' with io := { s'.io with send_owner := false }.drain_pending_errors } := by
  refine ⟨?_, h.env, ?_⟩
  · rw [h.rest]
  · rw [Outside.book_drain_pending_errors]
    exact h.numbers

/-- The same for a frame that was sent. -/
theorem SentAs.unlock {msg : Message} {n : ℕ} {w : Bytes} {s s' : Session σ}
    (h : SentAs msg n w { s with io := s.io.acquire } s') :
    SentAs msg n w s { s' with io := { s'.io with send_owner := false }.drain_pending_errors } := by
  refine ⟨?_, h.env, h.number, h.numbers, h.carries, h.stored, ?_⟩
  · rw [h.rest]
  · rw [Outside.book_drain_pending_errors]
    exact h.book

/-! ## The session refines the ledger -/

/-- The frames that the session `id` can build under a number. -/
def FrameOf (id : SessionID) (n : ℕ) (w : Bytes) : Prop := ∃ msg, Carries id msg n w

section

variable [StoreContents σ]

/-- The store of the session is fit to hold what it is given. -/
def FitStore (s : Session σ) : Prop := StoreContents.Fit s.store

/-- The identity stays, and with a store that is fit, it stays so and the ledger makes a
run. -/
structure Books (s s' : Session σ) : Prop where
  id : s'.cfg.id = s.cfg.id
  fit : s.FitStore → s'.FitStore
  run : s.FitStore →
    Ledger.Run (StoreContents.read_back σ) (FrameOf s.cfg.id) s.ledger s'.ledger

/-- Two runs of the ledger are one. -/
theorem Books.trans {s₁ s₂ s₃ : Session σ} (h : Books s₁ s₂) (h' : Books s₂ s₃) : Books s₁ s₃ :=
  ⟨h'.id.trans h.id, fun hfit => h'.fit (h.fit hfit),
    fun hfit => (h.run hfit).trans (h.id ▸ h'.run (h.fit hfit))⟩

/-- What touches neither the store nor the book is no entry. -/
theorem Books.of_eq {s s' : Session σ} (hid : s'.cfg.id = s.cfg.id) (hstore : s'.store = s.store)
    (hbook : s'.io.book = s.io.book) : Books s s' := by
  refine ⟨hid, ?_, fun _ => ?_⟩
  · rw [FitStore, FitStore, hstore]
    exact fun hfit => hfit
  · have hledger : s'.ledger = s.ledger := by
      rw [ledger, ledger, next_sender, next_sender, hstore, hbook]
    rw [hledger]

theorem Unsent.books {s s' : Session σ} (h : Unsent s s') (hfit : s.FitStore → s'.FitStore) :
    Books s s' := by
  refine ⟨by rw [h.rest], hfit, fun _ => ?_⟩
  rcases h.numbers with ⟨hbook, hseqs⟩ | hbook
  · have hledger : s'.ledger = s.ledger := by
      rw [ledger, ledger, next_sender_of_seqs hseqs, hbook]
      rfl
    rw [hledger]
  · rw [ledger, ledger, hbook]
    exact .single (.stuck _ _ _)

/-- A store that is fit holds the frame when it is handed over. -/
theorem SentAs.held {msg : Message} {n : ℕ} {w : Bytes} {s s' : Session σ}
    (h : SentAs msg n w s s') (hfit : s.FitStore) :
    held n s'.store = some (StoreContents.read_back σ w) := by
  rw [h.stored.2]
  exact StoreContents.held_store_outbound n w _
    (StoreContents.fit_next_sender_seq_num_incr _ hfit) h.stored.1

/-- **A send is one entry of the ledger**: the number, what the store holds under it, and the
frame. -/
theorem SentAs.books {msg : Message} {n : ℕ} {w : Bytes} {s s' : Session σ}
    (h : SentAs msg n w s s') : Books s s' := by
  refine ⟨by rw [h.rest], fun hfit => ?_, fun hfit => ?_⟩
  · rw [FitStore, h.stored.2]
    exact StoreContents.fit_store_outbound n w _ (StoreContents.fit_next_sender_seq_num_incr _ hfit)
  · rw [ledger, ledger, next_sender_of_seqs h.numbers, h.book, h.held hfit, ← h.number]
    exact .single (.sent _ _ _ ⟨msg, h.carries⟩)

/-- The send lock adds nothing to the ledger. -/
theorem locked_books {α : Type} {body : Session σ → α × Session σ} (s : Session σ)
    (h : ∀ s, Books s (body s).2) : Books s (s.locked body).2 := by
  have hlock : Books s { s with io := s.io.acquire } :=
    Books.of_eq rfl rfl rfl
  refine (hlock.trans (h _)).trans (Books.of_eq rfl rfl ?_)
  exact Outside.book_drain_pending_errors _

theorem reset_store_books (s : Session σ) : Books s s.reset_store.2 := by
  refine ⟨rfl, StoreContents.fit_reset s.store, fun _ => ?_⟩
  have hbook : s.reset_store.2.io.book = s.io.book ++ [.store_reset] := s.io.book_emit rfl
  rw [ledger, ledger, hbook]
  exact .single (.reset _ _ _)

/-- To take a published state back is no entry. -/
theorem unpublish_books (prev : SessionState) (s : Session σ) : Books s (s.unpublish prev) := by
  rw [unpublish]
  split <;> exact Books.of_eq rfl rfl rfl

/-- The reset that a logon asks for is one, if there is any. -/
theorem reset_for_logon_books (s : Session σ) : Books s s.reset_for_logon.2 := by
  rw [reset_for_logon]
  split
  · dsimp only
    split
    · exact (reset_store_books s).trans (Books.of_eq rfl rfl (Outside.book_report _ _))
    · exact (reset_store_books s).trans (Books.of_eq rfl rfl rfl)
  · exact Books.of_eq rfl rfl rfl

end

/-! ## What one send can do -/

/-- The four ways out of `send_message_locked`. -/
inductive SendOutcome (msg : Message) (s : Session σ) : Result Unit × Session σ → Prop where
  /-- No number could be claimed. -/
  | refused {e : ErrorCode} (hclaim : s.claim.1 = .error e) :
      SendOutcome msg s (.error e, { s with store := s.claim.2 })
  /-- The frame could not be built. -/
  | unbuilt {n : ℕ} {e : ErrorCode} (hclaim : s.claim.1 = .ok n)
      (hwire : (s.build_claimed msg n).1 = .error e) :
      SendOutcome msg s (.error e, (s.build_claimed msg n).2.abort_send n)
  /-- The frame could not be stored. -/
  | unstored {n : ℕ} {w : Bytes} {e : ErrorCode} (hclaim : s.claim.1 = .ok n)
      (hwire : (s.build_claimed msg n).1 = .ok w) (hstore : (s.store_claimed n w).1 = .error e) :
      SendOutcome msg s (.error e,
        { (s.build_claimed msg n).2 with store := (s.store_claimed n w).2 }.abort_send n)
  /-- The frame was stored and handed over. -/
  | handed_over {n : ℕ} {w : Bytes} (hclaim : s.claim.1 = .ok n)
      (hwire : (s.build_claimed msg n).1 = .ok w) (hstore : (s.store_claimed n w).1 = .ok ()) :
      SendOutcome msg s (.ok (),
        ((({ (s.build_claimed msg n).2 with store := (s.store_claimed n w).2 }.emit
          (.stored n (held n (s.store_claimed n w).2))).emit
          (.do_send (.sent n) w)).audit_frame true w).mark_sent)

/-- **Every call of the send path ends in one of the four ways.** -/
theorem send_message_locked_outcome (msg : Message) (s : Session σ) :
    SendOutcome msg s (s.send_message_locked msg) := by
  rcases hclaim : s.claim.1 with e | n
  · have hclaim' : (next_sender_seq_num_incr s.store).1 = .error e := hclaim
    simp only [send_message_locked, hclaim']
    exact .refused hclaim
  · have hclaim' : (next_sender_seq_num_incr s.store).1 = .ok n := hclaim
    rcases hwire : (s.build_claimed msg n).1 with e | w
    · have hwire' : ({ s with store := (next_sender_seq_num_incr s.store).2 }.serialize msg n).1 =
        .error e := hwire
      simp only [send_message_locked, hclaim', hwire']
      exact .unbuilt hclaim hwire
    · have hwire' : ({ s with store := (next_sender_seq_num_incr s.store).2 }.serialize msg n).1 =
        .ok w := hwire
      rcases hstore : (s.store_claimed n w).1 with e | _
      · have hstore' : (store_outbound n w ({ s with
            store := (next_sender_seq_num_incr s.store).2 }.serialize msg n).2.store).1 =
          .error e := hstore
        simp only [send_message_locked, hclaim', hwire', hstore']
        exact .unstored hclaim hwire hstore
      · have hstore' : (store_outbound n w ({ s with
            store := (next_sender_seq_num_incr s.store).2 }.serialize msg n).2.store).1 =
          .ok () := hstore
        simp only [send_message_locked, hclaim', hwire', hstore']
        exact .handed_over hclaim hwire hstore

/-- Whatever a send comes to, the store stays fit. -/
theorem send_message_locked_fit [StoreContents σ] (msg : Message) {s : Session σ}
    (hfit : s.FitStore) :
    (s.send_message_locked msg).2.FitStore := by
  have hclaimed : StoreContents.Fit s.claim.2 := StoreContents.fit_next_sender_seq_num_incr _ hfit
  have hstored : ∀ n w, StoreContents.Fit (s.store_claimed n w).2 := fun n w =>
    StoreContents.fit_store_outbound n w _ hclaimed
  have houtcome := send_message_locked_outcome msg s
  generalize s.send_message_locked msg = r at houtcome ⊢
  cases houtcome with
  | refused _ => exact hclaimed
  | unbuilt _ _ => exact StoreContents.fit_set_next_sender_seq_num _ _ hclaimed
  | unstored _ _ _ => exact StoreContents.fit_set_next_sender_seq_num _ _ (hstored _ _)
  | handed_over _ _ _ => exact hstored _ _

section

variable [StoreContract σ]

/-- Giving a claimed number back. -/
theorem abort_send_unsent {s s₁ : Session σ} {n : ℕ}
    (hrest : s₁ = { s with store := s₁.store, builder := s₁.builder, io := s₁.io })
    (henv : s₁.io.env = s.io.env) (hbook : s₁.io.book = s.io.book)
    (hn : n = s.next_sender) (hseqs : seqs s₁.store = (seq_succ n, s.next_target)) :
    Unsent s (s₁.abort_send n) := by
  have hmoves := StoreContract.set_next_sender_seq_num_moves n s₁.store
  have htarget : next_target_seq_num s₁.store = s.next_target := congrArg Prod.snd hseqs
  refine ⟨?_, ?_, ?_⟩
  · nth_rewrite 1 [hrest]
    rfl
  · rw [← henv, abort_send]
    dsimp only
    split
    · rfl
    · exact Outside.env_report _ _
  · rw [abort_send]
    rw [Moves] at hmoves
    dsimp only
    split
    · rename_i hok
      rw [hok] at hmoves
      refine .inl ⟨hbook, ?_⟩
      rw [hmoves, htarget, hn]
      rfl
    · refine .inr ?_
      rw [Outside.book_report, Outside.book_emit _ rfl, hbook]

/-- **What one send can do**, whatever the store and the serialisation do. -/
theorem send_message_locked_spec (msg : Message) (s : Session σ) :
    (∃ e, (s.send_message_locked msg).1 = .error e ∧ Unsent s (s.send_message_locked msg).2) ∨
      ((s.send_message_locked msg).1 = .ok () ∧
        ∃ n w, SentAs msg n w s (s.send_message_locked msg).2) := by
  have hmoves := StoreContract.next_sender_seq_num_incr_moves s.store
  have hclaims := StoreContract.next_sender_seq_num_incr_claims s.store
  rw [Moves] at hmoves
  have houtcome := send_message_locked_outcome msg s
  generalize s.send_message_locked msg = r at houtcome ⊢
  cases houtcome with
  | refused hclaim =>
    rw [claim] at hclaim
    rw [hclaim] at hmoves
    exact .inl ⟨_, rfl, rfl, rfl, .inl ⟨rfl, hmoves⟩⟩
  | unbuilt hclaim hwire =>
    have hn := hclaims _ hclaim
    rw [claim] at hclaim
    rw [hclaim] at hmoves
    exact .inl ⟨_, rfl, abort_send_unsent rfl rfl rfl hn hmoves⟩
  | @unstored n w e hclaim hwire hstore =>
    have hn := hclaims _ hclaim
    have hkeeps := StoreContract.store_outbound_seqs n w s.claim.2
    rw [claim] at hclaim
    rw [hclaim] at hmoves
    exact .inl ⟨_, rfl, abort_send_unsent rfl rfl rfl hn (hkeeps.trans hmoves)⟩
  | @handed_over n w hclaim hwire hstore =>
    have hn := hclaims _ hclaim
    have hkeeps := StoreContract.store_outbound_seqs n w s.claim.2
    rw [claim] at hclaim
    rw [hclaim] at hmoves
    refine .inr ⟨rfl, n, w, rfl, ?_, hn, hkeeps.trans hmoves, ⟨_, _, hwire⟩, ⟨hstore, rfl⟩, ?_⟩
    · exact Outside.env_audit_frame _ _ _
    · exact Outside.book_hand_over s.io.tick n _ w

/-- `send_message` fails and leaves the session unsent, or hands over one frame under the next
number. -/
theorem send_message_spec (msg : Message) (s : Session σ) :
    (∃ e, (s.send_message msg).1 = .error e ∧ Unsent s (s.send_message msg).2) ∨
      ((s.send_message msg).1 = .ok () ∧ ∃ n w, SentAs msg n w s (s.send_message msg).2) := by
  rcases send_message_locked_spec msg { s with io := s.io.acquire } with
    ⟨e, herr, h⟩ | ⟨hok, n, w, h⟩
  · exact .inl ⟨e, herr, h.unlock⟩
  · exact .inr ⟨hok, n, w, h.unlock⟩

variable [StoreContents σ]

/-- Either way the ledger makes a run. -/
theorem send_message_locked_books (msg : Message) (s : Session σ) :
    Books s (s.send_message_locked msg).2 := by
  rcases send_message_locked_spec msg s with ⟨_, _, h⟩ | ⟨_, _, _, h⟩
  · exact h.books (send_message_locked_fit msg)
  · exact h.books

/-- The same with the lock. -/
theorem send_message_books (msg : Message) (s : Session σ) : Books s (s.send_message msg).2 :=
  locked_books s (send_message_locked_books msg)

theorem publish_logon_books (m : Message) (s : Session σ) : Books s (s.publish_logon m).2 := by
  have hpublish : Books s s.publish := Books.of_eq rfl rfl rfl
  have hready := hpublish.trans (reset_for_logon_books s.publish)
  have hsent := hready.trans (send_message_locked_books m _)
  rw [publish_logon]
  dsimp only
  split
  · exact hready.trans (unpublish_books _ _)
  · split
    · exact hsent.trans (unpublish_books _ _)
    · exact hsent

/-- `send_logon` keeps the books, also if it refuses. -/
theorem send_logon_books (s : Session σ) : Books s s.send_logon.2 := by
  apply locked_books
  intro s
  rw [send_logon_locked]
  split
  · exact Books.of_eq rfl rfl rfl
  · split
    · exact Books.of_eq rfl rfl rfl
    · exact publish_logon_books _ _

end

end Session

/-! ## Frames that take no number -/

namespace Session

variable {σ : Type}

/-- The store is untouched, and what was booked are frames without a number. -/
structure Unnumbered (s s' : Session σ) : Prop where
  id : s'.cfg.id = s.cfg.id
  store : s'.store = s.store
  book : ∃ more, s'.io.book = s.io.book ++ more ∧
    ∀ e ∈ more, ∃ origin w, e = .do_send origin w ∧ ∀ k, origin ≠ .sent k

/-- Two stretches without a number are one. -/
theorem Unnumbered.trans {s₁ s₂ s₃ : Session σ} (h : Unnumbered s₁ s₂) (h' : Unnumbered s₂ s₃) :
    Unnumbered s₁ s₃ := by
  obtain ⟨more, hbook, hmore⟩ := h.book
  obtain ⟨more', hbook', hmore'⟩ := h'.book
  refine ⟨h'.id.trans h.id, h'.store.trans h.store, more ++ more', ?_, ?_⟩
  · rw [hbook', hbook, List.append_assoc]
  · intro e he
    exact (List.mem_append.mp he).elim (hmore e) (hmore' e)

/-- Nothing was booked. -/
theorem Unnumbered.of_eq {s s' : Session σ} (hid : s'.cfg.id = s.cfg.id)
    (hstore : s'.store = s.store) (hbook : s'.io.book = s.io.book) : Unnumbered s s' :=
  ⟨hid, hstore, [], by rw [hbook, List.append_nil], by simp⟩

theorem Unnumbered.books [IMessageStore σ] [StoreContents σ] {s s' : Session σ}
    (h : Unnumbered s s') : Books s s' := by
  obtain ⟨more, hbook, hmore⟩ := h.book
  refine ⟨h.id, by rw [FitStore, FitStore, h.store]; exact fun hfit => hfit, fun _ => ?_⟩
  rw [ledger, ledger, hbook, next_sender, next_sender, h.store]
  -- one entry for each of the frames
  generalize s.io.book = book
  clear hbook
  induction more generalizing book with
  | nil =>
    rw [List.append_nil]
  | cons e more ih =>
    obtain ⟨origin, w, rfl, horigin⟩ := hmore e List.mem_cons_self
    have hrest := ih (fun e he => hmore e (List.mem_cons_of_mem _ he)) (book ++ [.do_send origin w])
    rw [List.append_assoc] at hrest
    exact .head (.unnumbered _ _ _ _ horigin) hrest

/-- A frame that is handed over without a number. -/
theorem hand_over_unnumbered (s : Session σ) {origin : Origin} (w : Bytes)
    (h : ∀ k, origin ≠ .sent k) :
    Unnumbered s ((s.emit (.do_send origin w)).audit_frame true w).mark_sent := by
  refine ⟨rfl, rfl, [.do_send origin w], ?_, ?_⟩
  · show ((s.io.emit (.do_send origin w)).audit_frame true w).tick.book = _
    rw [Outside.book_tick, Outside.book_audit_frame, Outside.book_emit _ rfl]
  · intro e he
    exact ⟨origin, w, List.mem_singleton.mp he, h⟩

/-- The send lock books nothing. -/
theorem locked_unnumbered {α : Type} {body : Session σ → α × Session σ} (s : Session σ)
    (h : ∀ s, Unnumbered s (body s).2) : Unnumbered s (s.locked body).2 := by
  have hlock : Unnumbered s { s with io := s.io.acquire } :=
    Unnumbered.of_eq rfl rfl rfl
  refine (hlock.trans (h _)).trans (Unnumbered.of_eq rfl rfl ?_)
  exact Outside.book_drain_pending_errors _

/-- `send_raw` takes no number. -/
theorem send_raw_unnumbered (raw : Bytes) (s : Session σ) : Unnumbered s (s.send_raw raw) := by
  apply locked_unnumbered
  intro s
  exact hand_over_unnumbered s raw (by simp)

/-- To build a frame takes none. -/
theorem serialize_unnumbered (msg : Message) (seq : ℕ) (s : Session σ) :
    Unnumbered s (s.serialize msg seq).2 := Unnumbered.of_eq rfl rfl rfl

theorem emit_wire_locked_unnumbered (w : Bytes) (s : Session σ) :
    Unnumbered s (s.emit_wire_locked w) :=
  hand_over_unnumbered s w (by simp)

theorem count_corrupt_unnumbered (s : Session σ) :
    Unnumbered s { s with resend_corrupt := s.resend_corrupt + 1 } := Unnumbered.of_eq rfl rfl rfl

theorem flush_gap_unnumbered (up_to cursor : ℕ) (s : Session σ) :
    Unnumbered s (flush_gap up_to (cursor, s)).2 := by
  have hbuilt := serialize_unnumbered (gap_fill_message up_to) cursor s
  rw [flush_gap]
  dsimp only
  split
  · exact Unnumbered.of_eq rfl rfl rfl
  · split
    · exact hbuilt.trans (Unnumbered.of_eq rfl rfl (Outside.book_report _ _))
    · exact hbuilt.trans (emit_wire_locked_unnumbered _ _)

/-- The loop of a replay takes no number. -/
theorem replay_frames_unnumbered (range_end : ℕ) (frames : List (ℕ × Bytes)) (cursor : ℕ)
    (s : Session σ) : Unnumbered s (replay_frames range_end frames (cursor, s)).2 := by
  induction frames generalizing cursor s with
  | nil => exact Unnumbered.of_eq rfl rfl rfl
  | cons frame frames ih =>
    obtain ⟨seq, wire⟩ := frame
    rw [replay_frames]
    split
    · exact ih cursor s
    split
    · exact Unnumbered.of_eq rfl rfl rfl
    split
    · rename_i stored _
      split
      · exact (count_corrupt_unnumbered s).trans (ih cursor _)
      split
      · exact ih cursor s
      · -- an application message: the gap before it, then the message
        have hfill := flush_gap_unnumbered seq cursor s
        dsimp only
        generalize flush_gap seq (cursor, s) = filled at hfill ⊢
        have hbuilt := hfill.trans (serialize_unnumbered (retag stored) seq filled.2)
        generalize filled.2.serialize (retag stored) seq = built at hbuilt ⊢
        split
        · rename_i w _
          exact (hbuilt.trans (emit_wire_locked_unnumbered w built.2)).trans (ih _ _)
        · have hcount := hbuilt.trans (count_corrupt_unnumbered built.2)
          exact (hcount.trans (flush_gap_unnumbered _ _ _)).trans (ih _ _)
    · exact (count_corrupt_unnumbered s).trans (ih cursor _)

/-- **A replay takes no number and leaves the store alone.** -/
theorem replay_unnumbered (first range_end : ℕ) (frames : List (ℕ × Bytes)) (s : Session σ) :
    Unnumbered s (s.replay first range_end frames) := by
  apply locked_unnumbered
  intro s
  have hframes := replay_frames_unnumbered range_end frames first s
  exact hframes.trans (flush_gap_unnumbered _ _ _)

/-! ## Resets and the wire -/

/-- How often the store was reset. -/
def resets (s : Session σ) : ℕ := s.io.events.count .store_reset

/-- The bytes of a frame that was handed to `do_send`. -/
def wire_of : Event → Option Bytes
  | .do_send _ w => some w
  | _ => none

/-- The frames that were handed to `do_send`. -/
def wire_trace (s : Session σ) : List Bytes := s.io.events.filterMap wire_of

/-- The resets can be counted in the book. -/
theorem resets_eq_count_book (s : Session σ) : s.resets = s.io.book.count .store_reset := by
  rw [resets, Outside.book, List.count_filter rfl]

/-- What is read off booked events alone can be read off the book. -/
theorem filterMap_book {α : Type} {f : Event → Option α} (hf : ∀ e, e.booked = false → f e = none)
    (s : Session σ) : s.io.events.filterMap f = s.io.book.filterMap f := by
  rw [Outside.book, List.filterMap_filter]
  apply List.filterMap_congr
  intro e _
  rcases hbooked : e.booked with _ | _
  · exact hf e hbooked
  · rfl

/-- The frames can be read off the book. -/
theorem wire_trace_eq_filterMap_book (s : Session σ) :
    s.wire_trace = s.io.book.filterMap wire_of := by
  apply filterMap_book
  intro e he
  rcases e with ⟨origin, w⟩ | _ <;> first | rfl | cases he

/-- To take a published state back is not told. -/
@[simp] theorem io_unpublish (prev : SessionState) (s : Session σ) :
    (s.unpublish prev).io = s.io := by
  rw [unpublish]
  split <;> rfl

end Session

end FixEngine
