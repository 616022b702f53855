/-
`SessionCrash.lean` -- no MsgSeqNum is reused across a stop of the machine.

What an attempt does to the store is one of five accesses, whatever fails: nothing,
a claim that was refused, a claim that was rolled back before or after the log was
written, or a claim whose frame was stored; only the last hands a number to
`do_send`, and it does so behind its last call of the file system. Each access
keeps a steady file store guarded at one more than every number handed over so
far, so a store opened after a stop at any step starts beyond all of them.
-/
import FixEngine.Numbering
import FixEngine.FileStoreCrash

set_option autoImplicit false

namespace FixEngine

open IMessageStore Storage

/-! ## What an attempt does to the store -/

/-- The number of a frame of the send path. -/
def sent_of : Event → Option ℕ
  | .do_send (.sent n) _ => some n
  | _ => none

/-- From the first store to the second, with the numbers handed to `do_send`. -/
inductive StoreAccess {σ : Type} [IMessageStore σ] : σ → σ → List ℕ → Prop where
  | untouched (st : σ) : StoreAccess st st []
  | refused (st : σ) : StoreAccess st (next_sender_seq_num_incr st).2 []
  | unbuilt {st : σ} {n : ℕ} (hclaim : (next_sender_seq_num_incr st).1 = .ok n) :
      StoreAccess st (set_next_sender_seq_num n (next_sender_seq_num_incr st).2).2 []
  | unstored {st : σ} {n : ℕ} (w : Bytes) (hclaim : (next_sender_seq_num_incr st).1 = .ok n) :
      StoreAccess st
        (set_next_sender_seq_num n (store_outbound n w (next_sender_seq_num_incr st).2).2).2 []
  | handed_over {st : σ} {n : ℕ} (w : Bytes) (hclaim : (next_sender_seq_num_incr st).1 = .ok n) :
      StoreAccess st (store_outbound n w (next_sender_seq_num_incr st).2).2 [n]

namespace Session

section

variable {σ : Type}

/-- The numbers of the frames that the send path handed to `do_send`. -/
def sent_numbers (s : Session σ) : List ℕ := s.io.events.filterMap sent_of

theorem sent_numbers_eq_filterMap_book (s : Session σ) :
    s.sent_numbers = s.io.book.filterMap sent_of := by
  apply filterMap_book
  intro e he
  rcases e with ⟨origin, w⟩ | _ <;> first | rfl | cases he

theorem sent_numbers_of_book {s s' : Session σ} (h : s'.io.book = s.io.book) :
    s'.sent_numbers = s.sent_numbers := by
  rw [sent_numbers_eq_filterMap_book, sent_numbers_eq_filterMap_book, h]

theorem sent_numbers_append {s s' : Session σ} (more : List Event)
    (h : s'.io.book = s.io.book ++ more) :
    s'.sent_numbers = s.sent_numbers ++ more.filterMap sent_of := by
  rw [sent_numbers_eq_filterMap_book, sent_numbers_eq_filterMap_book, h, List.filterMap_append]

variable [IMessageStore σ]

/-- The store was accessed once, and the trace has the numbers of the access. -/
def Accesses (s s' : Session σ) : Prop :=
  ∃ ns, StoreAccess s.store s'.store ns ∧ s'.sent_numbers = s.sent_numbers ++ ns

theorem Accesses.of_eq {s s' : Session σ} (hstore : s'.store = s.store)
    (hsent : s'.sent_numbers = s.sent_numbers) : Accesses s s' := by
  refine ⟨[], ?_, ?_⟩
  · rw [hstore]
    exact .untouched _
  · rw [hsent, List.append_nil]

theorem Unnumbered.accesses {s s' : Session σ} (h : Unnumbered s s') : Accesses s s' := by
  obtain ⟨more, hbook, hmore⟩ := h.book
  have hnone : more.filterMap sent_of = [] := by
    rw [List.filterMap_eq_nil_iff]
    intro e he
    obtain ⟨origin, w, rfl, horigin⟩ := hmore e he
    rcases origin with n | _ | _
    · exact absurd rfl (horigin n)
    · rfl
    · rfl
  apply Accesses.of_eq h.store
  rw [sent_numbers_append _ hbook, hnone, List.append_nil]

theorem sent_numbers_abort_send (n : ℕ) (s : Session σ) :
    (s.abort_send n).sent_numbers = s.sent_numbers := by
  rcases hroll : (set_next_sender_seq_num n s.store).1 with e | _
  · have hbook : (s.abort_send n).io.book = s.io.book ++ [.rollback_failed] := by
      simp only [abort_send, hroll]
      rw [Outside.book_report, Outside.book_emit _ rfl]
    rw [sent_numbers_append _ hbook]
    exact List.append_nil _
  · apply sent_numbers_of_book
    simp only [abort_send, hroll]

theorem send_message_locked_accesses (msg : Message) (s : Session σ) :
    Accesses s (s.send_message_locked msg).2 := by
  have houtcome := send_message_locked_outcome msg s
  generalize s.send_message_locked msg = r at houtcome ⊢
  cases houtcome with
  | refused hclaim => exact ⟨[], .refused _, (List.append_nil _).symm⟩
  | @unbuilt n e hclaim hwire =>
    refine ⟨[], .unbuilt hclaim, ?_⟩
    rw [List.append_nil]
    exact sent_numbers_abort_send n _
  | @unstored n w e hclaim hwire hstore =>
    refine ⟨[], .unstored w hclaim, ?_⟩
    rw [List.append_nil]
    exact sent_numbers_abort_send n _
  | @handed_over n w hclaim hwire hstore =>
    refine ⟨[n], .handed_over w hclaim, ?_⟩
    exact sent_numbers_append (s := s)
      [.stored n (IMessageStore.held n (s.store_claimed n w).2), .do_send (.sent n) w]
      (Outside.book_hand_over s.io.tick n _ w)

theorem Accesses.unlock {s s' : Session σ}
    (h : Accesses { s with io := s.io.acquire } s') :
    Accesses s { s' with io := { s'.io with send_owner := false }.drain_pending_errors } := by
  obtain ⟨ns, haccess, hsent⟩ := h
  refine ⟨ns, haccess, ?_⟩
  rw [← show _ = s.sent_numbers ++ ns from hsent]
  exact sent_numbers_of_book (Outside.book_drain_pending_errors _)

theorem send_message_accesses (msg : Message) (s : Session σ) :
    Accesses s (s.send_message msg).2 :=
  (send_message_locked_accesses msg _).unlock

theorem Accesses.unpublish {s s' : Session σ} (h : Accesses s s') (prev : SessionState) :
    Accesses s (s'.unpublish prev) := by
  rw [Session.unpublish]
  split
  · exact h
  · exact h

theorem publish_logon_accesses {m : Message} {s : Session σ}
    (h : s.publish.reset_for_logon = (.ok (), s.publish)) :
    Accesses s (s.publish_logon m).2 := by
  have hsent : Accesses s (s.publish.send_message_locked m).2 :=
    send_message_locked_accesses m s.publish
  rw [publish_logon]
  simp only [h]
  split
  · exact hsent.unpublish _
  · exact hsent

theorem reset_for_logon_of_resets {m : Message} {s : Session σ}
    (h : (s.publish_logon m).2.resets = s.resets) :
    s.publish.reset_for_logon = (.ok (), s.publish) := by
  rcases reset_for_logon_cases s.publish with hnone | hreset
  · exact hnone
  · obtain ⟨more, hbook⟩ := publish_logon_reset m hreset
    rw [resets_eq_count_book, resets_eq_count_book, hbook, List.count_append,
      List.count_cons_self] at h
    omega

theorem send_logon_locked_accesses {m : Message} {s : Session σ}
    (h : (s.send_logon_locked m).2.resets = s.resets) :
    Accesses s (s.send_logon_locked m).2 := by
  rw [send_logon_locked] at h ⊢
  split
  · exact Accesses.of_eq rfl rfl
  · rename_i hfree
    rw [if_neg hfree] at h
    split
    · exact Accesses.of_eq rfl rfl
    · rename_i hfirst
      rw [if_neg hfirst] at h
      exact publish_logon_accesses (reset_for_logon_of_resets h)

/-- **Every attempt without a reset is one access of the store.** -/
theorem attempt_accesses {a : SendAttempt} {s : Session σ}
    (h : (s.attempt a).2.resets = s.resets) : Accesses s (s.attempt a).2 := by
  cases a with
  | send msg =>
    show Accesses s (s.send msg).2
    rw [send]
    split
    · exact Accesses.of_eq rfl rfl
    · exact send_message_accesses msg s
  | heartbeat id => exact send_message_accesses _ s
  | test_request => exact send_message_accesses _ s.arm_test_request
  | reject ref reason mt tag text => exact send_message_accesses _ s
  | business_reject ref reason mt text => exact send_message_accesses _ s
  | resend_request first last => exact send_message_accesses _ s
  | logout reason => exact send_message_accesses (logout_message reason) s
  | logout_echo => exact send_message_accesses _ s
  | logon =>
    -- the errors reported behind the lock are no resets
    have hbook : s.send_logon.2.io.book =
        (send_logon_locked (logon_message s.cfg s.heartbeat_sec)
          { s with io := s.io.acquire }).2.io.book :=
      Outside.book_drain_pending_errors _
    apply Accesses.unlock
    apply send_logon_locked_accesses
    rw [resets_eq_count_book, ← hbook, ← resets_eq_count_book]
    exact h
  | raw bytes => exact (send_raw_unnumbered bytes s).accesses
  | replay first range_end frames => exact (replay_unnumbered first range_end frames s).accesses

end

end Session

/-! ## The file store under the accesses -/

namespace FileStore

variable {dir : Directory} {sid : SessionID} {lo : ℕ} {st st' : FileStore}

/-- **One access of the store is guarded**, and the numbers it hands over are below
NextSender afterwards. -/
theorem Steady.guarded_access {ns : List ℕ} (h : Steady dir sid st) (hlo : lo ≤ st.sender_seq)
    (haccess : StoreAccess st st' ns) :
    Guarded dir sid lo st st' ∧ ∀ n ∈ ns, n < st'.sender_seq := by
  obtain ⟨hclaimed, hnumber⟩ := h.guarded_claim hlo
  cases haccess with
  | untouched => exact ⟨Guarded.refl h hlo, by simp⟩
  | refused => exact ⟨hclaimed, by simp⟩
  | @unbuilt n hclaim =>
    obtain ⟨rfl, -⟩ := hnumber n hclaim
    refine ⟨hclaimed.trans ?_, by simp⟩
    exact hclaimed.steady.guarded_set_next_sender hclaimed.lo_le h.range.1 hlo
  | @unstored n w hclaim =>
    obtain ⟨rfl, -⟩ := hnumber n hclaim
    have hstored := hclaimed.trans
      (hclaimed.steady.guarded_store_outbound hclaimed.lo_le st.sender_seq w)
    refine ⟨hstored.trans ?_, by simp⟩
    exact hstored.steady.guarded_set_next_sender hstored.lo_le h.range.1 hlo
  | @handed_over n w hclaim =>
    obtain ⟨rfl, hnext⟩ := hnumber n hclaim
    have hkeeps :=
      congrArg Prod.fst (store_outbound_seqs st.sender_seq w st.next_sender_seq_num_incr.2)
    refine ⟨hclaimed.trans (hclaimed.steady.guarded_store_outbound hclaimed.lo_le _ w), ?_⟩
    intro n hn
    rw [List.mem_singleton.mp hn]
    refine lt_of_lt_of_eq ?_ hkeeps.symm
    show st.sender_seq < st.next_sender_seq_num_incr.2.sender_seq
    omega

/-- The calls of the session that are no sends. -/
inductive Inbound (st : FileStore) : FileStore → Prop where
  | advance {n : ℕ} (hn : n < 2 ^ 64) : Inbound st (st.advance_next_target_seq_num n).2
  | set {n : ℕ} (hn : 1 ≤ n ∧ n < 2 ^ 64) : Inbound st (st.set_next_target_seq_num n).2
  | store (seq : ℕ) (raw : Bytes) : Inbound st (st.store_inbound seq raw).2
  | read (first last : ℕ) : Inbound st (st.get_messages first last).2

theorem Steady.guarded_inbound (h : Steady dir sid st) (hlo : lo ≤ st.sender_seq)
    (hin : Inbound st st') : Guarded dir sid lo st st' := by
  cases hin with
  | advance hn => exact h.guarded_advance_next_target hlo hn
  | set hn => exact h.guarded_set_next_target hlo hn
  | store seq raw => exact h.guarded_store_inbound hlo seq raw
  | read first last => exact h.guarded_get_messages hlo first last

end FileStore

/-! ## Runs and stops -/

namespace Session

/-- One step of a run: an attempt that resets no store, a call of the store for an inbound
message, or anything else that leaves the store alone. -/
inductive SendStep : Session FileStore → Session FileStore → Prop where
  | attempt {s : Session FileStore} (a : SendAttempt)
      (hreset : (s.attempt a).2.resets = s.resets) : SendStep s (s.attempt a).2
  | inbound {s s' : Session FileStore} (hstore : s.store.Inbound s'.store)
      (hsent : s'.sent_numbers = s.sent_numbers) : SendStep s s'
  | elsewhere {s s' : Session FileStore} (hstore : s'.store = s.store)
      (hsent : s'.sent_numbers = s.sent_numbers) : SendStep s s'

/-- A moment of a run from `s₀` at which the machine may stop: the trace up to it and the
disk it finds. Within a step the disk is one that the step has passed through; the
frame of the step goes out behind its last call of the file system. -/
inductive StopPoint (s₀ : Session FileStore) : List Event → Disk → Prop where
  | at_rest {s : Session FileStore} (hrun : Relation.ReflTransGen SendStep s₀ s) :
      StopPoint s₀ s.io.events s.store.fs.disk
  | within {s s' : Session FileStore} (hrun : Relation.ReflTransGen SendStep s₀ s)
      (hstep : SendStep s s') {d : Disk}
      (hd : d ∈ s'.store.fs.trail.take (s'.store.fs.trail.length - s.store.fs.trail.length)) :
      StopPoint s₀ s.io.events d

/-- What a run keeps: a steady store with NextSender beyond every number handed over. -/
structure Ahead (dir : Directory) (sid : SessionID) (s : Session FileStore) : Prop where
  steady : s.store.Steady dir sid
  beyond : ∀ n ∈ s.sent_numbers, n < s.store.sender_seq

variable {dir : Directory} {sid : SessionID} {s s' : Session FileStore}

/-- **A step is guarded at the NextSender it starts from**, and keeps the store ahead. -/
theorem Ahead.step (h : Ahead dir sid s) (hstep : SendStep s s') :
    FileStore.Guarded dir sid s.store.sender_seq s.store s'.store ∧ Ahead dir sid s' := by
  cases hstep with
  | attempt a hreset =>
    obtain ⟨ns, haccess, hsent⟩ := attempt_accesses hreset
    obtain ⟨hguarded, hnew⟩ := h.steady.guarded_access le_rfl haccess
    refine ⟨hguarded, hguarded.steady, ?_⟩
    intro n hn
    rw [hsent] at hn
    rcases List.mem_append.mp hn with hold | hn
    · exact lt_of_lt_of_le (h.beyond n hold) hguarded.lo_le
    · exact hnew n hn
  | inbound hstore hsent =>
    have hguarded := h.steady.guarded_inbound le_rfl hstore
    refine ⟨hguarded, hguarded.steady, ?_⟩
    intro n hn
    rw [hsent] at hn
    exact lt_of_lt_of_le (h.beyond n hn) hguarded.lo_le
  | elsewhere hstore hsent =>
    refine ⟨?_, ?_, ?_⟩
    · rw [hstore]
      exact FileStore.Guarded.refl h.steady le_rfl
    · rw [hstore]
      exact h.steady
    · rw [hstore, hsent]
      exact h.beyond

theorem Ahead.run {s₀ : Session FileStore} (h : Ahead dir sid s₀)
    (hrun : Relation.ReflTransGen SendStep s₀ s) : Ahead dir sid s := by
  induction hrun with
  | refl => exact h
  | tail _ hstep ih => exact (ih.step hstep).2

theorem Ahead.safe {s₀ : Session FileStore} (h : Ahead dir sid s₀) {events : List Event} {d : Disk}
    (hpoint : StopPoint s₀ events d) :
    ∃ lo, FileStore.Safe dir sid lo d ∧ ∀ n w, .do_send (.sent n) w ∈ events → n < lo := by
  have hbelow : ∀ {s : Session FileStore}, Ahead dir sid s →
      ∀ n w, .do_send (.sent n) w ∈ s.io.events → n < s.store.sender_seq := by
    intro s hs n w hmem
    exact hs.beyond n (List.mem_filterMap.mpr ⟨_, hmem, rfl⟩)
  cases hpoint with
  | @at_rest s hrun =>
    have hs := h.run hrun
    exact ⟨s.store.sender_seq, hs.steady.safe le_rfl, hbelow hs⟩
  | @within s s' hrun hstep _ hd =>
    have hs := h.run hrun
    obtain ⟨steps, htrail, hsafe⟩ := (hs.step hstep).1.passed
    rw [htrail, List.length_append, Nat.add_sub_cancel, List.take_left] at hd
    exact ⟨s.store.sender_seq, hsafe d hd, hbelow hs⟩

/-- **No MsgSeqNum is reused across a stop.** -/
theorem no_number_reused {opts opts' : FileStoreOptions} {d₀ : Files}
    (hsynced : FileStore.SequenceSynced dir sid d₀)
    (hopen : (FileStore.open_ dir sid opts (.sound d₀)).1 = .ok ()) (faults : List (Option Fault))
    {s₀ : Session FileStore}
    (hstore : s₀.store = (FileStore.open_ dir sid opts (.sound d₀)).2.with_faults faults)
    (hstart : s₀.io.events = []) {events : List Event} {d : Disk} {d' : Files}
    (hpoint : StopPoint s₀ events d) (hcrash : CrashImage d d') :
    (FileStore.open_ dir sid opts' (.sound d')).1 = .ok () ∧
      ∀ n w, .do_send (.sent n) w ∈ events →
        n < next_sender_seq_num (FileStore.open_ dir sid opts' (.sound d')).2 := by
  have hahead : Ahead dir sid s₀ := by
    refine ⟨?_, ?_⟩
    · rw [hstore]
      exact (FileStore.steady_of_open hsynced hopen).with_faults faults
    · rw [sent_numbers, hstart]
      simp
  obtain ⟨lo, hsafe, hbelow⟩ := hahead.safe hpoint
  obtain ⟨hok, hlo⟩ := hsafe.reopen hcrash opts'
  refine ⟨hok, ?_⟩
  intro n w hmem
  exact lt_of_lt_of_le (hbelow n w hmem) hlo

end Session

/-- A session on a file store in an empty directory. -/
def quiet_file_session : Session FileStore :=
  Session.create quiet_config
    ((FileStore.open_ .plain quiet_config.id ⟨false⟩ (.sound fun _ => none)).2.with_faults
      []) quiet_env

/-- The session after its first heartbeat. -/
def beaten : Session FileStore := (quiet_file_session.attempt (.heartbeat [])).2

/-- A stop after the first heartbeat, with everything lost that was not synced. -/
theorem no_number_reused_heartbeat :
    (FileStore.open_ .plain quiet_config.id ⟨false⟩ (.sound beaten.store.fs.disk.stop)).1 = .ok () ∧
      1 < next_sender_seq_num
        (FileStore.open_ .plain quiet_config.id ⟨false⟩ (.sound beaten.store.fs.disk.stop)).2 := by
  have hrun : Relation.ReflTransGen Session.SendStep quiet_file_session beaten :=
    .single (.attempt (.heartbeat []) (by decide))
  have hsent : .do_send (.sent 1) (beaten.wire_trace.headD []) ∈ beaten.io.events := by
    decide +kernel
  have hsynced : FileStore.SequenceSynced .plain quiet_config.id fun _ => none := by
    rintro f (hf | hf)
    · simp at hf
    · simp at hf
  have hopen :
      (FileStore.open_ .plain quiet_config.id ⟨false⟩ (.sound fun _ => none)).1 = .ok () := by
    decide
  obtain ⟨hok, hbeyond⟩ := Session.no_number_reused hsynced hopen [] rfl rfl (.at_rest hrun)
    (crashImage_stop _)
  exact ⟨hok, hbeyond 1 _ hsent⟩

end FixEngine
