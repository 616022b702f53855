/-
`View.lean` -- what a session is to the session at the other end.

Two sessions know of each other what comes over the link. `view` keeps of a session what
decides that: its configuration, its state, its two numbers, whether a gap is open, the
frames that it has handed over and the messages that it has delivered. Clocks, counters of
the monitoring, the pending TestRequest, the reports of errors and the audit log are left
out. Each operation then has an equation for its view, and the views of a composed
operation follow by rewriting.

The equations of the operations that write assume a store that does not fail (`Healthy`);
`healthy_process_message` and its like carry that along.
-/
import FixEngine.SequenceReset
import FixEngine.Readback

set_option autoImplicit false

namespace FixEngine

open IMessageStore

/-! ## Quiet steps of the outside -/

namespace Outside

/-- Neither a frame nor a delivery was added, and the environment is the same. -/
structure Quiet (o o' : Outside) : Prop where
  env : o'.env = o.env
  adds : o.Adds (fun _ => False) o'

variable {o o₁ o₂ : Outside}

theorem Quiet.trans (h : Quiet o o₁) (h' : Quiet o₁ o₂) : Quiet o o₂ :=
  ⟨h'.env.trans h.env, h.adds.trans h'.adds⟩

theorem Quiet.of_eq (henv : o₁.env = o.env) (hevents : o₁.events = o.events) : Quiet o o₁ :=
  ⟨henv, .of_eq hevents⟩

theorem quiet_emit (o : Outside) {e : Event} (h : e.minor = true) : Quiet o (o.emit e) :=
  ⟨rfl, adds_emit o (.inl h)⟩

theorem quiet_report (what : Bytes) (o : Outside) : Quiet o (o.report what) :=
  ⟨env_report _ _, adds_report what o⟩

theorem quiet_audit_frame (outbound : Bool) (raw : Bytes) (o : Outside) :
    Quiet o (o.audit_frame outbound raw) :=
  ⟨env_audit_frame _ _ _, adds_audit_frame outbound raw o⟩

theorem quiet_write (r : Result Unit) (what : Bytes) (o : Outside) :
    Quiet o (match r with
      | .ok _ => o
      | .error _ => o.report what) := by
  cases r with
  | ok _ => exact .of_eq rfl rfl
  | error _ => exact quiet_report what o

theorem quiet_drain_pending_errors (o : Outside) : Quiet o o.drain_pending_errors :=
  ⟨rfl, adds_drain_pending_errors o⟩

end Outside

/-! ## Views -/

/-- What counts of a session at the other end of the link. -/
structure View where
  cfg : SessionConfig
  env : Env
  parser : StreamParser
  heartbeat_sec : ℤ
  state : SessionState
  gap_open : Bool
  next_sender : ℕ
  next_target : ℕ
  frames : List Bytes
  deliveries : List Message

/-- The view after the frame `w` was sent. -/
def View.sent (v : View) (w : Bytes) : View :=
  { v with next_sender := seq_succ v.next_sender, frames := v.frames ++ [w] }

theorem Healthy.succeeds {σ : Type} [IMessageStore σ] {st : σ} (h : Healthy st) :
    Succeeds st := h st .refl

theorem Healthy.of_footprint {σ : Type} [IMessageStore σ] {s s' : Session σ} {E : Event → Prop}
    (h : Healthy s.store) (hfoot : Session.Footprint E Session.AnyStep s s') : Healthy s'.store :=
  fun st hst => h st (hfoot.store.trans hst)

theorem Healthy.of_talks {σ : Type} [IMessageStore σ] {s s' : Session σ} {E : Event → Prop}
    (h : Healthy s.store) (htalks : Session.Talks E s s') : Healthy s'.store :=
  h.of_footprint htalks.anyStep

namespace Session

variable {σ : Type} {s s' : Session σ}

theorem deliveries_of_adds (h : s.io.Adds (fun _ => False) s'.io) :
    s'.deliveries = s.deliveries := by
  have hfoot : Footprint (fun _ => False) (fun _ _ => True) s { s with io := s'.io } :=
    .of_adds rfl h
  exact hfoot.deliveries fun _ => id

theorem wire_trace_guarded (s : Session σ) {e : Event} (h : wire_of e = none) :
    (s.guarded e).wire_trace = s.wire_trace := by
  have hemit : (s.emit e).wire_trace = s.wire_trace := by
    show (s.io.events ++ [e]).filterMap wire_of = _
    rw [List.filterMap_append, List.filterMap_cons_none h]
    exact List.append_nil _
  show (s.io.guarded e).events.filterMap wire_of = _
  rw [Outside.guarded]
  split
  · exact hemit
  · -- an exception of the handler is reported behind the event
    rename_i what _
    have hreport : ({ s with io := (s.io.emit e).tick.report what } : Session σ).wire_trace =
        (s.emit e).wire_trace :=
      wire_trace_of_adds (Outside.adds_report what (s.io.emit e).tick)
    exact hreport.trans hemit

variable [IMessageStore σ]

def view (s : Session σ) : View where
  cfg := s.cfg
  env := s.io.env
  parser := s.parser
  heartbeat_sec := s.heartbeat_sec
  state := s.state
  gap_open := s.gap.is_open
  next_sender := s.next_sender
  next_target := s.next_target
  frames := s.wire_trace
  deliveries := s.deliveries

theorem view_of_quiet (s s' : Session σ) (hcfg : s'.cfg = s.cfg) (hparser : s'.parser = s.parser)
    (hheartbeat : s'.heartbeat_sec = s.heartbeat_sec) (hstate : s'.state = s.state)
    (hgap : s'.gap.is_open = s.gap.is_open) (h : s.io.Quiet s'.io) :
    s'.view = { s.view with next_sender := s'.next_sender, next_target := s'.next_target } := by
  simp only [view, hcfg, hparser, hheartbeat, hstate, hgap, h.env, wire_trace_of_adds h.adds,
    deliveries_of_adds h.adds]

theorem view_congr (hcfg : s'.cfg = s.cfg) (hparser : s'.parser = s.parser)
    (hheartbeat : s'.heartbeat_sec = s.heartbeat_sec) (hstate : s'.state = s.state)
    (hgap : s'.gap.is_open = s.gap.is_open) (h : s.io.Quiet s'.io)
    (hseqs : seqs s'.store = seqs s.store) : s'.view = s.view := by
  have hsender : s'.next_sender = s.next_sender := congrArg Prod.fst hseqs
  have htarget : s'.next_target = s.next_target := congrArg Prod.snd hseqs
  rw [view_of_quiet s s' hcfg hparser hheartbeat hstate hgap h, hsender, htarget]
  rfl

@[simp] theorem view_note_inbound (msg : Message) (s : Session σ) :
    (s.note_inbound msg).view = s.view :=
  view_congr rfl rfl rfl rfl rfl
    ((Outside.quiet_audit_frame false msg.raw s.io).trans (.of_eq rfl rfl)) rfl

@[simp] theorem view_clear_gap (s : Session σ) :
    s.clear_gap.view = { s.view with gap_open := false } := rfl

@[simp] theorem view_count_received (s : Session σ) : s.count_received.view = s.view := rfl

@[simp] theorem view_report (what : Bytes) (s : Session σ) : (s.report what).view = s.view :=
  view_congr rfl rfl rfl rfl rfl (Outside.quiet_report what s.io) rfl

/-- The drain of the error buffer shows nowhere in the view. -/
theorem view_drain_pending_errors (s : Session σ) :
    ({ s with io := s.io.drain_pending_errors } : Session σ).view = s.view :=
  view_congr rfl rfl rfl rfl rfl (Outside.quiet_drain_pending_errors s.io) rfl

@[simp] theorem view_on_message (msg : Message) (s : Session σ) :
    (s.guarded (.on_message msg)).view = { s.view with deliveries := s.deliveries ++ [msg] } := by
  have henv : (s.guarded (.on_message msg)).io.env = s.io.env := Outside.env_guarded _ _
  have hframes : (s.guarded (.on_message msg)).wire_trace = s.wire_trace := wire_trace_guarded s rfl
  simp only [view, henv, hframes, deliveries_guarded]
  rfl

theorem view_locked {α : Type} (body : Session σ → α × Session σ) (s : Session σ) :
    (s.locked body).2.view = (body { s with io := s.io.acquire }).2.view := by
  have hunlock : ∀ o : Outside, o.Quiet { o with send_owner := false }.drain_pending_errors :=
    fun o =>
    ⟨rfl, Outside.adds_drain_pending_errors _⟩
  exact view_congr rfl rfl rfl rfl rfl (hunlock _) rfl

theorem deliveries_send_message_locked (m : Message) (s : Session σ) :
    (s.send_message_locked m).2.deliveries = s.deliveries :=
  (talks_send_message_locked m s).footprint.deliveries not_sends_on_message

theorem SentAs.view {m : Message} {n : ℕ} {w : Bytes} (h : SentAs m n w s s')
    (hdeliveries : s'.deliveries = s.deliveries) : s'.view = s.view.sent w := by
  have hframes : s'.wire_trace = s.wire_trace ++ [w] := by
    rw [wire_trace_eq_filterMap_book, wire_trace_eq_filterMap_book, h.book, List.filterMap_append]
    rfl
  have hsender : s'.next_sender = seq_succ s.next_sender := h.number ▸ congrArg Prod.fst h.numbers
  have htarget : s'.next_target = s.next_target := congrArg Prod.snd h.numbers
  rw [h.rest] at hframes hsender htarget hdeliveries ⊢
  simp only [Session.view, View.sent, hframes, hsender, htarget, hdeliveries, h.env]

variable [StoreContract σ]

@[simp] theorem view_store_inbound (msg : Message) (what : Bytes) (s : Session σ) :
    (s.store_inbound msg what).view = s.view :=
  view_congr rfl rfl rfl rfl rfl (Outside.quiet_write _ what s.io)
    (StoreContract.store_inbound_seqs _ _ _)

theorem view_set_target {n : ℕ} (hok : (set_next_target_seq_num n s.store).1 = .ok ())
    (what : Bytes) :
    (s.set_target n what).view = { s.view with next_target := n } := by
  have hmoves := StoreContract.set_next_target_seq_num_moves n s.store
  rw [Moves, hok] at hmoves
  have hsender : (s.set_target n what).next_sender = s.next_sender := congrArg Prod.fst hmoves
  have htarget : (s.set_target n what).next_target = n := congrArg Prod.snd hmoves
  rw [view_of_quiet s (s.set_target n what) rfl rfl rfl rfl rfl (Outside.quiet_write _ what s.io),
    hsender, htarget]
  rfl

theorem view_advance_target {msg : Message}
    (hok : (advance_next_target_seq_num (seq_succ msg.seq_num) s.store).1 = .ok ()) (what : Bytes) :
    (s.advance_target msg what).view =
      { s.view with next_target := max s.next_target (seq_succ msg.seq_num) } := by
  have hmoves := StoreContract.advance_next_target_seq_num_moves (seq_succ msg.seq_num) s.store
  rw [Moves, hok] at hmoves
  have hsender : (s.advance_target msg what).next_sender = s.next_sender := congrArg Prod.fst hmoves
  have htarget : (s.advance_target msg what).next_target = _ := congrArg Prod.snd hmoves
  rw [view_of_quiet s (s.advance_target msg what) rfl rfl rfl rfl rfl
    (Outside.quiet_write _ what s.io),
    hsender, htarget]
  rfl

theorem view_consume_inbound {msg : Message} {validated : Bool} (h : Succeeds s.store) :
    (s.consume_inbound msg validated).view =
      if validated = false ∧ msg.poss_dup = true then s.view
      else { s.view with next_target := max s.next_target (seq_succ msg.seq_num) } := by
  rw [consume_inbound]
  by_cases hdup : validated = false ∧ msg.poss_dup = true
  · rw [if_pos hdup, if_pos (by simp [hdup])]
  · rw [if_neg hdup, if_neg (by simpa using hdup), view_store_inbound,
      view_advance_target (h.advance _)]

/-! ## Sending with a store that works -/

theorem view_abort_send {n : ℕ} (hok : (set_next_sender_seq_num n s.store).1 = .ok ()) :
    (s.abort_send n).view = { s.view with next_sender := n } := by
  have hmoves := StoreContract.set_next_sender_seq_num_moves n s.store
  rw [Moves, hok] at hmoves
  have hsender : (s.abort_send n).next_sender = n := congrArg Prod.fst hmoves
  have htarget : (s.abort_send n).next_target = s.next_target := congrArg Prod.snd hmoves
  have hio : (s.abort_send n).io = s.io := by
    rw [abort_send, hok]
  rw [view_of_quiet s (s.abort_send n) rfl rfl rfl rfl rfl (hio ▸ .of_eq rfl rfl), hsender, htarget]
  rfl

/-- The store has a number for the next frame. -/
def HasNumber (s : Session σ) : Prop := ∃ n, (next_sender_seq_num_incr s.store).1 = .ok n

/-- **A send with a store that works** puts out the frame if there is one, and else leaves
everything as it was. -/
theorem send_message_locked_view (h : Healthy s.store) (hnumber : s.HasNumber) (m : Message) :
    if Buildable s.cfg.id m then
      (s.send_message_locked m).1 = .ok () ∧
        ∃ w, Carries s.cfg.id m s.next_sender w ∧ (s.send_message_locked m).2.view = s.view.sent w
    else
      (∃ e, (s.send_message_locked m).1 = .error e) ∧
        (s.send_message_locked m).2.view = s.view := by
  have hdeliveries := deliveries_send_message_locked m s
  have hspec := send_message_locked_spec m s
  have hbuilt : ∀ n, (s.build_claimed m n).1 = _ :=
    fun n => try_serialize_buildable s.cfg.id m n (s.io.env.utc s.io.reads) s.builder
  have houtcome := send_message_locked_outcome m s
  generalize s.send_message_locked m = r at hspec houtcome hdeliveries ⊢
  cases houtcome with
  | refused hclaim =>
    obtain ⟨n, hok⟩ := hnumber
    exact absurd (hclaim.symm.trans hok) (by simp)
  | @unbuilt n e hclaim hwire =>
    have hn : n = s.next_sender := StoreContract.next_sender_seq_num_incr_claims s.store n hclaim
    have hnot : ¬Buildable s.cfg.id m := by
      intro hb
      rw [hbuilt, if_pos hb] at hwire
      simp at hwire
    rw [if_neg hnot]
    have hmoves := StoreContract.next_sender_seq_num_incr_moves s.store
    rw [Moves, show (next_sender_seq_num_incr s.store).1 = .ok n from hclaim] at hmoves
    have hstep : Relation.ReflTransGen AnyStep s.store s.claim.2 :=
      .single (.sender (.claim s.store))
    have hback : (set_next_sender_seq_num n (s.build_claimed m n).2.store).1 = .ok () :=
      (h _ hstep).set_next_sender n
    have hclaimed : (s.build_claimed m n).2.view =
        { s.view with next_sender := (s.build_claimed m n).2.next_sender
                      next_target := (s.build_claimed m n).2.next_target } :=
      view_of_quiet s _ rfl rfl rfl rfl rfl (.of_eq rfl rfl)
    have htarget : (s.build_claimed m n).2.next_target = s.next_target := congrArg Prod.snd hmoves
    refine ⟨⟨e, rfl⟩, ?_⟩
    rw [view_abort_send hback, hclaimed, htarget, hn]
    rfl
  | @unstored n w e hclaim hwire hstore =>
    have hstep : Relation.ReflTransGen AnyStep s.store s.claim.2 :=
      .single (.sender (.claim s.store))
    exact absurd (hstore.symm.trans ((h _ hstep).store_outbound n w)) (by simp)
  | @handed_over n w hclaim hwire hstore =>
    have hb : Buildable s.cfg.id m := .of_carries ⟨_, _, hwire⟩
    rw [if_pos hb]
    rcases hspec with ⟨e, herr, -⟩ | ⟨-, n, w, hsent⟩
    · simp at herr
    · exact ⟨rfl, w, hsent.number ▸ hsent.carries, hsent.view hdeliveries⟩

theorem send_message_view (h : Healthy s.store) (hroom : s.next_sender + 1 < 2 ^ 64)
    (m : Message) :
    if Buildable s.cfg.id m then
      (s.send_message m).1 = .ok () ∧
        ∃ w, Carries s.cfg.id m s.next_sender w ∧ (s.send_message m).2.view = s.view.sent w
    else (∃ e, (s.send_message m).1 = .error e) ∧ (s.send_message m).2.view = s.view := by
  rw [send_message, view_locked]
  exact send_message_locked_view (s := { s with io := s.io.acquire }) h (h.succeeds.claim hroom) m

end Session

end FixEngine
