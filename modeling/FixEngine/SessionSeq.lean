/-
`SessionSeq.lean` -- the inbound numbering of a session.

`TargetMove` says how one call can move NextTarget, whatever the store does as long
as it keeps its contract: the number stays, a SequenceReset sets it, a message in
sequence takes its place, a message in a logon state moves it up from the baseline
of the handshake, or the store is reset. What is delivered is then the message that was
expected, and the delivered numbers go up for as long as nothing lowers NextTarget.
-/
import FixEngine.SessionFsm
import FixEngine.FileStoreSpec

set_option autoImplicit false

namespace FixEngine

open IMessageStore

namespace Session

variable {σ : Type} [IMessageStore σ]

/-! ## The baseline of a Logon -/

/-- NextTarget when a message has been looked at: a Logon with ResetSeqNumFlag=Y that
passes the checks of `handle_logon` during a handshake sets it to 1. -/
def baseline (msg : Message) (s : Session σ) : ℕ :=
  match msg.get_int tags.HeartBtInt with
  | none => s.next_target
  | some hb =>
    if msg.duplicate_header = false ∧ msg.msg_type = msg_types.Logon ∧ 0 < hb ∧
        ¬(s.cfg.initiator ∧ s.state = .LogonSent ∧ hb ≠ s.heartbeat_sec) then
      (s.rebaseline msg).next_target
    else s.next_target

theorem baseline_of_not_logon {msg : Message} (s : Session σ)
    (h : msg.duplicate_header = true ∨ msg.msg_type ≠ msg_types.Logon) :
    s.baseline msg = s.next_target := by
  rw [baseline]
  split
  · rfl
  · rw [if_neg]
    rintro ⟨hdup, hlogon, -⟩
    rcases h with hdup' | hne
    · exact absurd (hdup.symm.trans hdup') (by simp)
    · exact hne hlogon

theorem rebaseline_congr (msg : Message) (s' : Session σ) {s : Session σ}
    (hstate : s'.state = s.state) (hstore : s'.store = s.store) :
    (s'.rebaseline msg).next_target = (s.rebaseline msg).next_target := by
  rw [rebaseline, rebaseline, hstate]
  split
  · show next_target_seq_num (set_next_target_seq_num 1 s'.store).2 = _
    rw [hstore]
    rfl
  · show next_target_seq_num s'.store = _
    rw [hstore]
    rfl

theorem baseline_note_inbound (msg : Message) (s : Session σ) :
    (s.note_inbound msg).baseline msg = s.baseline msg := by
  have hre : ((s.note_inbound msg).rebaseline msg).next_target = (s.rebaseline msg).next_target :=
    rebaseline_congr msg _ rfl rfl
  rw [baseline, hre]
  rfl

/-- The operations of a handshake that do not set NextTarget to 1 on the peer's flag. -/
abbrev Resets (reset : Prop) : σ → σ → Prop := Relation.ReflTransGen (LogonStep False reset)

theorem Resets.imp {reset reset' : Prop} {st st' : σ} (h : Resets reset st st')
    (himp : reset → reset') : Resets reset' st st' := by
  refine Relation.ReflTransGen.mono ?_ _ _ h
  intro st st' hstep
  cases hstep with
  | sender h => exact .sender h
  | baseline h => exact h.elim
  | reset h => exact .reset st (himp h)

theorem resets_of_sender {reset : Prop} {st st' : σ} (h : Relation.ReflTransGen SenderStep st st') :
    Resets reset st st' :=
  Relation.ReflTransGen.mono (fun _ _ => .sender) _ _ h

/-- **What a handler does to the store**: from the baseline on it sends, and resets the store
if that is configured. -/
theorem handle_store {msg : Message} (htype : msg.msg_type ≠ msg_types.SequenceReset)
    (s : Session σ) :
    ∃ st, next_target_seq_num st = s.baseline msg ∧
      Resets (msg.msg_type = msg_types.Logon ∧ s.cfg.reset_on_logon = true) st
        (s.handle msg).store := by
  by_cases hplain : msg.duplicate_header = true ∨ msg.msg_type ≠ msg_types.Logon
  · -- only a Logon does more than send
    refine ⟨s.store, (baseline_of_not_logon s hplain).symm, ?_⟩
    have hhandled := handled_handle htype s
    by_cases hdup : msg.duplicate_header = true
    · rw [handle, if_pos hdup]
      exact resets_of_sender (talks_send_reject _ _ _ _ _ s).footprint.store
    have hne : msg.msg_type ≠ msg_types.Logon := hplain.resolve_left hdup
    generalize s.handle msg = s' at hhandled
    cases hhandled with
    | refused h => exact resets_of_sender h.footprint.store
    | answered h _ _ => exact resets_of_sender h.footprint.store
    | delivered _ => exact .refl
    | unanswered _ hlogon _ _ _ => exact absurd hlogon.1 hne
    | entered _ hlogon _ _ _ => exact absurd hlogon.1 hne
  have hdup : msg.duplicate_header = false := by simpa using fun h => hplain (.inl h)
  have hlogon : msg.msg_type = msg_types.Logon := not_not.mp fun h => hplain (.inr h)
  have hhandle : s.handle msg = s.handle_logon msg := by
    rw [handle, hdup, if_neg Bool.false_ne_true, if_pos (by rw [hlogon]; decide), process_admin,
      if_pos hlogon]
  rw [hhandle]
  rcases hhb : msg.get_int tags.HeartBtInt with _ | hb
  · refine ⟨s.store, by rw [baseline, hhb]; rfl, ?_⟩
    rw [handle_logon, hhb]
    exact resets_of_sender (refuses_logout _ s).footprint.store
  by_cases hok : 0 < hb ∧ ¬(s.cfg.initiator ∧ s.state = .LogonSent ∧ hb ≠ s.heartbeat_sec)
  · refine ⟨(s.logon_ready hb msg).store, ?_, ?_⟩
    · rw [baseline, hhb]
      dsimp only
      rw [if_pos ⟨hdup, hlogon, hok⟩]
      exact rebaseline_congr msg (s.adopt hb) rfl rfl
    · obtain ⟨-, hstate, hreset, -⟩ := handshakes_logon_ready hb msg s
      have hnot : ¬hb ≤ 0 := by omega
      rw [handle_logon_eq hhb hnot hok.2]
      cases hst : s.state with
      | WaitingLogon =>
        obtain ⟨hfoot, -⟩ := send_logon_cases False (s.logon_ready hb msg)
        have hsent : Resets (msg.msg_type = msg_types.Logon ∧ s.cfg.reset_on_logon = true)
            (s.logon_ready hb msg).store (s.logon_ready hb msg).send_logon.2.store := by
          rw [hreset] at hfoot
          exact Resets.imp hfoot.store fun h => ⟨hlogon, h⟩
        dsimp only
        split
        · split
          · exact hsent
          · exact hsent
        · exact hsent
      | LogonSent =>
        dsimp only
        split
        · exact .refl
        · exact .refl
      | Active => exact resets_of_sender (refuses_logout _ _).footprint.store
      | NotConnected => exact .refl
      | LogoutSent => exact .refl
      | Disconnected => exact .refl
  · -- the checks of `handle_logon` end the connection
    have hnone : s.baseline msg = s.next_target := by
      rw [baseline, hhb]
      exact if_neg fun h => hok h.2.2
    refine ⟨s.store, hnone.symm, ?_⟩
    have hrefused : ∃ reason, s.handle_logon msg = (s.send_logout reason).disconnect := by
      rw [handle_logon, hhb]
      dsimp only
      by_cases hpos : hb ≤ 0
      · rw [if_pos hpos]
        exact ⟨_, rfl⟩
      · rw [if_neg hpos, if_pos (not_not.mp fun h => hok ⟨by omega, h⟩)]
        exact ⟨_, rfl⟩
    obtain ⟨reason, hreason⟩ := hrefused
    rw [hreason]
    exact resets_of_sender (refuses_logout reason s).footprint.store

/-! ## How a call moves NextTarget -/

section Target

variable [StoreContract σ]

theorem target_set_target (n : ℕ) (what : Bytes) (s : Session σ) :
    (s.set_target n what).next_target = n ∨ (s.set_target n what).next_target = s.next_target := by
  have hmoves := StoreContract.set_next_target_seq_num_moves n s.store
  show next_target_seq_num (set_next_target_seq_num n s.store).2 = n ∨
    next_target_seq_num (set_next_target_seq_num n s.store).2 = next_target_seq_num s.store
  rw [Moves] at hmoves
  split at hmoves
  · exact .inl (congrArg Prod.snd hmoves)
  · exact .inr (congrArg Prod.snd hmoves)

theorem target_advance_target (msg : Message) (what : Bytes) (s : Session σ) :
    (s.advance_target msg what).next_target =
      if (advance_next_target_seq_num (seq_succ msg.seq_num) s.store).1 = .ok () then
        max s.next_target (seq_succ msg.seq_num)
      else s.next_target := by
  have hmoves := StoreContract.advance_next_target_seq_num_moves (seq_succ msg.seq_num) s.store
  show next_target_seq_num (advance_next_target_seq_num (seq_succ msg.seq_num) s.store).2 = _
  rw [Moves] at hmoves
  split at hmoves
  · rename_i hok
    rw [if_pos hok]
    exact congrArg Prod.snd hmoves
  · rename_i herr
    rw [if_neg (by rw [herr]; simp)]
    exact congrArg Prod.snd hmoves

theorem target_consume_inbound (msg : Message) (validated : Bool) (s : Session σ) :
    (s.consume_inbound msg validated).count_received.next_target =
      if validated = false ∧ msg.poss_dup = true then s.next_target
      else (s.advance_target msg
        (ascii "consume: NextTargetMsgSeqNum advance failed")).next_target := by
  have hstored : ∀ s' : Session σ,
      (s'.store_inbound msg (ascii "consume: inbound audit persist failed")).next_target =
      s'.next_target :=
    fun s' => (talks_store_inbound (E := fun _ => False) msg _ s').target
  rw [consume_inbound]
  cases validated with
  | true =>
    rw [if_neg (by simp), if_neg (fun h => absurd h.1 (by simp))]
    exact hstored _
  | false =>
    by_cases hdup : msg.poss_dup = true
    · rw [hdup]
      rfl
    · rw [if_neg (by simpa using hdup), if_neg fun h => hdup h.2]
      exact hstored _

theorem target_of_resets {reset : Prop} (hreset : ¬reset) {st st' : σ} (h : Resets reset st st') :
    next_target_seq_num st' = next_target_seq_num st := by
  apply target_of_run
  refine Relation.ReflTransGen.mono ?_ _ _ h
  intro st st' hstep
  cases hstep with
  | sender h => exact h
  | baseline h => exact h.elim
  | reset h => exact absurd h hreset

end Target

/-- How a call can move NextTarget. -/
inductive TargetMove (s : Session σ) : Call → Session σ → Prop where
  | kept {c : Call} {s' : Session σ} (h : s'.next_target = s.next_target) : TargetMove s c s'
  /-- A SequenceReset: forward in GapFill mode, anywhere in Reset mode. -/
  | set {msg : Message} {s' : Session σ} (v : ℤ) (htype : msg.msg_type = msg_types.SequenceReset)
      (hnew : msg.get_int tags.NewSeqNo = some v)
      (hmode : ((msg.get tags.GapFillFlag).getD (ascii "N") = ascii "Y" ∧
        s.next_target < to_u64 v) ∨
        ((msg.get tags.GapFillFlag).getD (ascii "N") ≠ ascii "Y" ∧ 0 < v))
      (h : s'.next_target = to_u64 v) : TargetMove s (.message msg) s'
  /-- A message in sequence. -/
  | taken {msg : Message} {s' : Session σ} (htype : msg.msg_type ≠ msg_types.SequenceReset)
      (hseq : msg.seq_num = s.next_target)
      (h : s'.next_target = max s.next_target (seq_succ msg.seq_num)) :
        TargetMove s (.message msg) s'
  /-- A message in a logon state, whose number is not judged. -/
  | unjudged {msg : Message} {s' : Session σ} {st st' : σ} (hstate : s.state.unnumbered = true)
      (htype : msg.msg_type ≠ msg_types.SequenceReset)
      (hbase : next_target_seq_num st = s.baseline msg)
      (hrun : Resets (msg.msg_type = msg_types.Logon ∧ s.cfg.reset_on_logon = true) st st')
      (h : s'.next_target = next_target_seq_num st' ∨
        (msg.poss_dup = false ∧
          s'.next_target = max (next_target_seq_num st') (seq_succ msg.seq_num))) :
      TargetMove s (.message msg) s'
  /-- A reset of the store, by itself or before a Logon is sent. -/
  | restarted {c : Call} {s' : Session σ}
      (hrun : Resets (c = .reset ∨ s.cfg.reset_on_logon = true ∧
        (c = .logon ∨ c = .transport_connected))
        s.store s'.store) : TargetMove s c s'

theorem process_message_unnumbered {msg : Message} {s : Session σ}
    (hidentity : s.identity_error msg = none) (hhas : msg.has tags.MsgType = true)
    (htype : msg.msg_type ≠ msg_types.SequenceReset) (hstate : s.state.unnumbered = true) :
    s.process_message msg =
      (((s.note_inbound msg).handle msg).consume_inbound msg false).count_received := by
  have hnoted : (s.note_inbound msg).identity_error msg = none := hidentity
  have hnoted_state : (s.note_inbound msg).state.unnumbered = true := hstate
  rw [process_message, hnoted]
  dsimp only
  rw [process_identified, hhas, if_neg (by decide), if_neg htype, if_pos hnoted_state]
  rfl

variable [StoreContract σ]

theorem target_unnumbered {msg : Message} {s : Session σ} (hidentity : s.identity_error msg = none)
    (hhas : msg.has tags.MsgType = true) (htype : msg.msg_type ≠ msg_types.SequenceReset)
    (hstate : s.state.unnumbered = true) : ∃ st st' : σ, next_target_seq_num st = s.baseline msg ∧
      Resets (msg.msg_type = msg_types.Logon ∧ s.cfg.reset_on_logon = true) st st' ∧
      ((s.process_message msg).next_target = next_target_seq_num st' ∨
        (msg.poss_dup = false ∧
          (s.process_message msg).next_target =
            max (next_target_seq_num st') (seq_succ msg.seq_num))) := by
  obtain ⟨st, hbase, hrun⟩ := handle_store htype (s.note_inbound msg)
  rw [process_message_unnumbered hidentity hhas htype hstate]
  refine ⟨st, _, hbase.trans (baseline_note_inbound msg s), hrun, ?_⟩
  rw [target_consume_inbound]
  by_cases hdup : msg.poss_dup = true
  · rw [if_pos ⟨rfl, hdup⟩]
    exact .inl rfl
  · rw [if_neg fun h => hdup h.2, target_advance_target]
    split
    · exact .inr ⟨by simpa using hdup, rfl⟩
    · exact .inl rfl

theorem Handled.target {msg : Message} {s s' : Session σ} (h : Handled msg s s')
    (hnumbered : s.state.unnumbered = false) : s'.next_target = s.next_target := by
  cases h with
  | refused h => exact h.target
  | answered h _ _ => exact h.target
  | delivered _ => rfl
  | unanswered hwait _ _ _ _ =>
    rw [hwait] at hnumbered
    exact absurd hnumbered (by decide)
  | entered hwait _ _ _ _ =>
    rcases hwait with hwait | hwait
    · rw [hwait] at hnumbered
      exact absurd hnumbered (by decide)
    · rw [hwait] at hnumbered
      exact absurd hnumbered (by decide)

theorem msg_type_of_not_has {msg : Message} (h : msg.has tags.MsgType = false) :
    msg.msg_type = [] := by
  have hnone : msg.get tags.MsgType = none := by simpa [Message.has] using h
  rw [Message.msg_type, hnone]
  rfl

/-- **How a call moves NextTarget.** -/
theorem target_move (s : Session σ) (c : Call) : TargetMove s c (s.call c) := by
  have houtcome := call_outcome s c
  generalize hs' : s.call c = s' at houtcome ⊢
  cases houtcome with
  | refused h => exact .kept h.target
  | sent _ h => exact .kept h.target
  | raw h => exact .kept h.target
  | logging_out h _ _ => exact .kept (target_of_run h.store)
  | logging_on _ h _ => exact .restarted (Resets.imp h.store fun h => .inr ⟨h, .inl rfl⟩)
  | connected h _ => exact .restarted (Resets.imp h.store fun h => .inr ⟨h, .inr rfl⟩)
  | rearmed h _ _ =>
    refine .restarted (Relation.ReflTransGen.mono ?_ _ _ h.store)
    rintro st st' rfl
    exact .reset st (.inl rfl)
  | @message msg s' hup hidentity h =>
    by_cases hloose : msg.has tags.MsgType = true ∧ msg.msg_type ≠ msg_types.SequenceReset ∧
        s.state.unnumbered = true
    · have hcall : s.call (.message msg) = s.process_message msg := if_neg hup
      rw [← hs', hcall]
      obtain ⟨st, st', hbase, hrun, h⟩ :=
        target_unnumbered hidentity hloose.1 hloose.2.1 hloose.2.2
      exact .unjudged hloose.2.2 hloose.2.1 hbase hrun h
    cases h with
    | dropped h => exact .kept h.target
    | @renumbered s₁ v what htype hnew h hmode =>
      rcases target_set_target (to_u64 v) what s₁ with hset | hsame
      · exact .set v htype hnew hmode hset
      · exact .kept (hsame.trans h.target)
    | @untyped s₁ s' what hhas hnumbered hseq h h' =>
      have hadvance := target_advance_target msg what s₁
      rw [← h'.target, h.target] at hadvance
      split at hadvance
      · refine .taken ?_ hseq hadvance
        rw [msg_type_of_not_has hhas]
        decide
      · exact .kept hadvance
    | @dispatched s₁ s₂ validated hhas htype h hseq hhandled =>
      cases validated with
      | false => exact absurd ⟨hhas, htype, hseq⟩ hloose
      | true =>
        obtain ⟨hnumbered, hnext⟩ := hseq
        have hbefore : s₂.next_target = s.next_target :=
          (hhandled.target (by rw [h.state]; exact hnumbered)).trans h.target
        have hconsume := target_consume_inbound msg true s₂
        rw [if_neg (fun h => absurd h.1 (by simp)), target_advance_target, hbefore] at hconsume
        split at hconsume
        · exact .taken htype hnext hconsume
        · exact .kept hconsume

end Session

/-! ## Stores that do not fail -/

/-- Every operation that a session uses succeeds, a claim as long as the numbers last: the file
store gives the last one out to nobody. -/
structure Succeeds {σ : Type} [IMessageStore σ] (st : σ) : Prop where
  claim : next_sender_seq_num st + 1 < 2 ^ 64 → ∃ n, (next_sender_seq_num_incr st).1 = .ok n
  set_next_sender : ∀ n, (set_next_sender_seq_num n st).1 = .ok ()
  set_next_target : ∀ n, (set_next_target_seq_num n st).1 = .ok ()
  advance : ∀ n, (advance_next_target_seq_num n st).1 = .ok ()
  store_outbound : ∀ n raw, (store_outbound n raw st).1 = .ok ()
  store_inbound : ∀ n raw, (store_inbound n raw st).1 = .ok ()
  get_messages : ∀ first last, ∃ frames, (get_messages first last st).1 = .ok frames
  reset : (IMessageStore.reset st).1 = .ok ()

/-- The operations succeed now and after whatever the session does with the store. -/
def Healthy {σ : Type} [IMessageStore σ] (st : σ) : Prop :=
  ∀ st', Relation.ReflTransGen Session.AnyStep st st' → Succeeds st'

theorem healthy_memory_store (st : MemoryStore) : Healthy st := by
  intro st' _
  exact ⟨fun _ => ⟨_, rfl⟩, fun _ => rfl, fun _ => rfl, fun _ => rfl, fun _ _ => rfl,
    fun _ _ => rfl,
    fun _ _ => ⟨_, rfl⟩, rfl⟩

namespace FileStore.Working

variable {st st' : FileStore}

theorem succeeds (h : Working st) : Succeeds st where
  claim hroom := by
    have hroom : st.sender_seq + 1 < 2 ^ 64 := hroom
    exact ⟨st.sender_seq, h.next_sender_seq_num_incr.1 (by omega)⟩
  set_next_sender n := (h.set_next_sender_seq_num n).1
  set_next_target n := (h.set_next_target_seq_num n).1
  advance n := (h.advance_next_target_seq_num n).1
  store_outbound n raw := (h.store_outbound n raw).1
  store_inbound n raw := (h.store_inbound n raw).1
  get_messages first last := (h.get_messages first last).1
  reset := h.reset.1

theorem anyStep (h : Working st) (hstep : Session.AnyStep st st') : Working st' := by
  cases hstep with
  | sender hsender =>
    cases hsender with
    | claim => exact h.next_sender_seq_num_incr.2
    | give_back n => exact (h.set_next_sender_seq_num n).2
    | store_outbound n raw => exact (h.store_outbound n raw).2
    | store_inbound n raw => exact (h.store_inbound n raw).2
    | read first last => exact (h.get_messages first last).2
  | set_target n => exact (h.set_next_target_seq_num n).2
  | advance n => exact (h.advance_next_target_seq_num n).2
  | reset => exact h.reset.2

/-- **A file store that works is healthy**: whatever a session does with it, it goes on working. -/
theorem healthy (h : Working st) : Healthy st := by
  intro st' hsteps
  suffices hworks : Working st' from hworks.succeeds
  induction hsteps with
  | refl => exact h
  | tail _ hstep ih => exact ih.anyStep hstep

end FileStore.Working

namespace Session

variable {σ : Type} [IMessageStore σ]

theorem Handled.footprint {msg : Message} {s s' : Session σ} (h : Handled msg s s') :
    Footprint (fun _ => True) AnyStep s s' := by
  have hany : ∀ {E : Event → Prop} {s s' : Session σ}, Footprint E SenderStep s s' →
      Footprint (fun _ => True) AnyStep s s' :=
    fun h => h.mono (fun _ _ => trivial) fun _ _ => .sender
  have hlogon : ∀ {baseline reset : Prop} {s s' : Session σ}, Handshakes baseline reset s s' →
      Footprint (fun _ => True) AnyStep s s' :=
    fun h => h.mono (fun _ _ => trivial) fun _ _ => anyStep_of_logonStep
  cases h with
  | refused h => exact hany h.footprint
  | answered h _ _ => exact hany h.footprint
  | delivered _ => exact hany (talks_guarded (E := fun _ => True) s (.inr trivial)).footprint
  | unanswered _ _ _ h _ => exact hlogon h
  | entered _ _ _ h _ =>
    exact (hlogon h).trans (hany (talks_guarded (E := fun _ => True) _ (.inr trivial)).footprint)

theorem Outcome.footprint {msg : Message} {s s' : Session σ} (h : Outcome msg s s') :
    Footprint (fun _ => True) AnyStep s s' := by
  have hany : ∀ {E : Event → Prop} {s s' : Session σ}, Footprint E SenderStep s s' →
      Footprint (fun _ => True) AnyStep s s' :=
    fun h => h.mono (fun _ _ => trivial) fun _ _ => .sender
  cases h with
  | dropped h => exact hany h.footprint
  | renumbered v what htype hnew h hmode =>
    have hset := (hany h.footprint).trans (footprint_set_target (to_u64 v) what _)
    exact hset.trans (.of_eq rfl rfl)
  | untyped what hhas hnumbered hseq h h' =>
    exact ((hany h.footprint).trans (footprint_advance_target msg what _)).trans (hany h'.footprint)
  | @dispatched s₁ s₂ validated hhas htype h hseq hhandled =>
    exact ((hany h.footprint).trans hhandled.footprint).trans (footprint_consume msg validated s₂).1

theorem call_footprint (s : Session σ) (c : Call) :
    Footprint (fun _ => True) AnyStep s (s.call c) := by
  have houtcome := call_outcome s c
  generalize s.call c = s' at houtcome
  have hsender : ∀ {E : Event → Prop}, Footprint E SenderStep s s' →
      Footprint (fun _ => True) AnyStep s s' :=
    fun h => h.mono (fun _ _ => trivial) fun _ _ => .sender
  cases houtcome with
  | refused h => exact hsender h.footprint
  | message _ _ h => exact h.footprint
  | sent _ h => exact hsender h.footprint
  | raw h => exact hsender h.footprint
  | logging_on _ h _ => exact h.mono (fun _ _ => trivial) fun _ _ => anyStep_of_logonStep
  | logging_out h _ _ => exact hsender h
  | rearmed h _ _ => exact h.mono (fun _ _ => trivial) fun st st' heq => heq ▸ .reset st
  | connected h _ => exact h.mono (fun _ _ => trivial) fun _ _ => anyStep_of_logonStep

theorem healthy_run {s : Session σ} (h : Healthy s.store) (calls : List Call) :
    Healthy (s.run calls).store := by
  induction calls generalizing s with
  | nil => exact h
  | cons c calls ih => exact ih fun st hst => h st ((call_footprint s c).store.trans hst)

/-! ## Deliveries -/

end Session

/-- The message that an event hands to the application. -/
def Event.delivered : Event → Option Message
  | .on_message msg => some msg
  | _ => none

namespace Session

section Deliveries

variable {σ : Type}

/-- The messages given to `on_message`, in order. -/
def deliveries (s : Session σ) : List Message := s.io.events.filterMap Event.delivered

/-- The deliveries between two states of a run. -/
def delivered (s s' : Session σ) : List Message := s'.deliveries.drop s.deliveries.length

theorem Footprint.deliveries {E : Event → Prop} {R : σ → σ → Prop} {s s' : Session σ}
    (h : Footprint E R s s') (hE : ∀ msg, ¬E (.on_message msg)) : s'.deliveries = s.deliveries := by
  obtain ⟨more, hevents, hmore⟩ := h.events
  have hnone : more.filterMap Event.delivered = [] := by
    rw [List.filterMap_eq_nil_iff]
    intro e he
    rcases hmore e he with hminor | hin
    · cases e with
      | on_message msg => exact absurd hminor Bool.false_ne_true
      | _ => rfl
    · cases e with
      | on_message msg => exact absurd hin (hE msg)
      | _ => rfl
  rw [Session.deliveries, hevents, List.filterMap_append, hnone, List.append_nil]
  rfl

theorem deliveries_guarded (msg : Message) (s : Session σ) :
    (s.guarded (.on_message msg)).deliveries = s.deliveries ++ [msg] := by
  have hemit : (s.emit (.on_message msg)).deliveries = s.deliveries ++ [msg] := by
    show (s.io.events ++ [Event.on_message msg]).filterMap Event.delivered = _
    rw [List.filterMap_append]
    rfl
  show (s.io.guarded (.on_message msg)).events.filterMap Event.delivered = _
  rw [Outside.guarded]
  split
  · exact hemit
  · -- an exception of the handler is reported behind the delivery
    rename_i what _
    have hreport : Footprint (fun _ => False) (fun _ _ => False) (s.emit (.on_message msg))
        { s with io := (s.io.emit (.on_message msg)).tick.report what } :=
      .of_adds rfl (Outside.adds_report what (s.io.emit (.on_message msg)).tick)
    exact (hreport.deliveries fun _ => id).trans hemit

end Deliveries

variable {σ : Type} [IMessageStore σ]

theorem not_sends_on_message {F : Origin → Bytes → Prop} (msg : Message) :
    ¬Sends F (.on_message msg) := by
  rintro ⟨origin, w, he, _⟩
  simp at he

theorem not_logon_on_message {reset : Prop} (msg : Message) :
    ¬LogonEvent reset (.on_message msg) := by
  rintro (hsends | ⟨he, _⟩)
  · exact not_sends_on_message msg hsends
  · simp at he

/-- What a call delivers: nothing, or the message it was given, in sequence on an Active
session. The message has then taken its place in the store. -/
inductive Delivery (s : Session σ) : Call → Session σ → Prop where
  | none {c : Call} {s' : Session σ} (h : s'.deliveries = s.deliveries) : Delivery s c s'
  | one {msg : Message} {s₁ s' : Session σ} (hactive : s.state = .Active)
      (hseq : msg.seq_num = s.next_target)
      (hstore : Relation.ReflTransGen SenderStep s.store s₁.store)
      (h : s'.deliveries = s.deliveries ++ [msg]) (hstate : s'.state = .Active)
      (htarget : s'.next_target =
        (s₁.advance_target msg (ascii "consume: NextTargetMsgSeqNum advance failed")).next_target) :
      Delivery s (.message msg) s'

/-- **What one call delivers.** -/
theorem delivery_call [StoreContract σ] (s : Session σ) (c : Call) : Delivery s c (s.call c) := by
  have houtcome := call_outcome s c
  generalize s.call c = s' at houtcome
  cases houtcome with
  | refused h => exact .none (h.footprint.deliveries not_sends_on_message)
  | sent _ h => exact .none (h.footprint.deliveries not_sends_on_message)
  | raw h => exact .none (h.footprint.deliveries not_sends_on_message)
  | logging_on _ h _ => exact .none (h.deliveries not_logon_on_message)
  | logging_out h _ _ => exact .none (h.deliveries not_sends_on_message)
  | rearmed h _ _ => exact .none (h.deliveries (by simp))
  | connected h _ => exact .none (h.deliveries not_logon_on_message)
  | @message msg s' hup hidentity h =>
    cases h with
    | dropped h => exact .none (h.footprint.deliveries not_sends_on_message)
    | @renumbered s₁ v what htype hnew h hmode =>
      have hset : Footprint SendsAdmin AnyStep s₁ (s₁.set_target (to_u64 v) what) :=
        footprint_set_target _ _ _
      exact .none ((h.anyStep.trans hset).deliveries not_sends_on_message)
    | @untyped s₁ s' what hhas hnumbered hseq h h' =>
      have hadvance : Footprint SendsAdmin AnyStep s₁ (s₁.advance_target msg what) :=
        footprint_advance_target _ _ _
      exact .none (((h.anyStep.trans hadvance).trans h'.anyStep).deliveries not_sends_on_message)
    | @dispatched s₁ s₂ validated hhas htype h hseq hhandled =>
      have hbefore : s₁.deliveries = s.deliveries := h.footprint.deliveries not_sends_on_message
      have hconsume : Footprint (fun _ => False) AnyStep s₂
          (s₂.consume_inbound msg validated).count_received :=
            (footprint_consume msg validated s₂).1
      have hafter := hconsume.deliveries fun _ => id
      -- only the handler of an application message delivers
      have hquiet : s₂.deliveries = s₁.deliveries → Delivery s (.message msg)
          (s₂.consume_inbound msg validated).count_received :=
        fun hsame => .none (hafter.trans (hsame.trans hbefore))
      cases hhandled with
      | refused h' => exact hquiet (h'.footprint.deliveries not_sends_on_message)
      | answered h' _ _ => exact hquiet (h'.footprint.deliveries not_sends_on_message)
      | unanswered _ _ _ h' _ => exact hquiet (h'.deliveries not_logon_on_message)
      | @entered s₂ _ _ _ h' _ =>
        have htold : Talks (fun e => e = .on_logon) s₂ (s₂.guarded .on_logon) :=
          talks_guarded s₂ (.inr rfl)
        exact hquiet
          ((htold.footprint.deliveries (by simp)).trans (h'.deliveries not_logon_on_message))
      | delivered hactive =>
        have hstate : s.state = .Active := h.state.symm.trans hactive
        cases validated with
        | false =>
          rw [if_neg Bool.false_ne_true, hstate] at hseq
          exact absurd hseq (by decide)
        | true =>
          have hcounted := target_consume_inbound msg true (s₁.guarded (.on_message msg))
          rw [if_neg (fun h => absurd h.1 (by simp))] at hcounted
          refine .one hstate hseq.2 h.footprint.store ?_ ?_ hcounted
          · rw [hafter, deliveries_guarded, hbefore]
          · exact (footprint_consume (E := fun _ => False) msg true _).2.trans hactive

/-! ## In order, at most once -/

/-- A field that is absent, not numeric, or in the range of sequence numbers. -/
def InRange (v? : Option ℤ) : Prop := ∀ v ∈ v?, 0 ≤ v ∧ v ≤ 2 ^ 63 - 2

instance : DecidablePred InRange := fun v? => inferInstanceAs (Decidable (∀ v ∈ v?, _))

/-- The numbers of a message are in range. -/
def Ranged : Call → Prop
  | .message msg => InRange (msg.get_int tags.MsgSeqNum) ∧ InRange (msg.get_int tags.NewSeqNo)
  | _ => True

instance : DecidablePred Ranged
  | .message _ => inferInstanceAs (Decidable (_ ∧ _))
  | .buffer _ => .isTrue trivial
  | .timer => .isTrue trivial
  | .send _ => .isTrue trivial
  | .send_raw _ => .isTrue trivial
  | .logon => .isTrue trivial
  | .logout _ => .isTrue trivial
  | .disconnect => .isTrue trivial
  | .reset => .isTrue trivial
  | .transport_connected => .isTrue trivial

theorem seq_succ_of_ranged {msg : Message} (h : Ranged (.message msg)) :
    seq_succ msg.seq_num = msg.seq_num + 1 := by
  apply seq_succ_of_lt
  rw [Message.seq_num]
  rcases hv : msg.get_int tags.MsgSeqNum with _ | v
  · decide
  · obtain ⟨hnonneg, hle⟩ := h.1 v hv
    rw [Option.getD_some, to_u64_of_nonneg hnonneg (by omega)]
    omega

/-- What the call delivers is the expected message, on an Active session, and NextTarget is
then behind it. -/
def DeliversInSequence (s : Session σ) (c : Call) : Prop :=
  delivered s (s.call c) = [] ∨
    ∃ msg, c = .message msg ∧ delivered s (s.call c) = [msg] ∧ s.state = .Active ∧
      (s.call c).state = .Active ∧ msg.seq_num = s.next_target ∧
      (s.call c).next_target = msg.seq_num + 1

/-- The steps that may lower NextTarget: `reset()`, a Reset-mode SequenceReset, a Logon with
ResetSeqNumFlag, and a Logon under `reset_on_logon`. -/
def Rebaselines (s : Session σ) (c : Call) : Prop :=
  c = .reset ∨
  (∃ msg, c = .message msg ∧ msg.msg_type = msg_types.SequenceReset ∧
    (msg.get tags.GapFillFlag).getD (ascii "N") ≠ ascii "Y") ∨
  (∃ msg, c = .message msg ∧ msg.msg_type = msg_types.Logon ∧ ResetFlag msg) ∨
  (s.cfg.reset_on_logon = true ∧ (c = .logon ∨ c = .transport_connected ∨
    ∃ msg, c = .message msg ∧ msg.msg_type = msg_types.Logon))

theorem baseline_of_not_flag {msg : Message} (s : Session σ)
    (h : ¬(msg.msg_type = msg_types.Logon ∧ ResetFlag msg)) : s.baseline msg = s.next_target := by
  rw [baseline]
  split
  · rfl
  · split
    · rename_i hok
      rw [rebaseline, if_neg fun hflag => h ⟨hok.2.1, hflag.1⟩]
    · rfl

variable [StoreContract σ]

/-- **Nothing else lowers NextTarget.** -/
theorem target_le_call {s : Session σ} {c : Call} (h : ¬Rebaselines s c) :
    s.next_target ≤ (s.call c).next_target := by
  have hmove := target_move s c
  generalize s.call c = s' at hmove
  cases hmove with
  | kept hsame => exact hsame.ge
  | @set msg _ v htype hnew hmode hset =>
    rcases hmode with ⟨-, hlt⟩ | ⟨hreset, -⟩
    · exact hset ▸ hlt.le
    · exact absurd (.inr (.inl ⟨msg, rfl, htype, hreset⟩)) h
  | taken htype hseq hmax => exact hmax ▸ Nat.le_max_left _ _
  | @unjudged msg _ st st' hstate htype hbase hrun hmoved =>
    have hflag : ¬(msg.msg_type = msg_types.Logon ∧ ResetFlag msg) :=
      fun hflag => h (.inr (.inr (.inl ⟨msg, rfl, hflag⟩)))
    have hreset : ¬(msg.msg_type = msg_types.Logon ∧ s.cfg.reset_on_logon = true) :=
      fun hreset => h (.inr (.inr (.inr ⟨hreset.2, .inr (.inr ⟨msg, rfl, hreset.1⟩)⟩)))
    rw [target_of_resets hreset hrun, hbase, baseline_of_not_flag s hflag] at hmoved
    rcases hmoved with hsame | ⟨-, hmax⟩
    · exact hsame.ge
    · exact hmax ▸ Nat.le_max_left _ _
  | restarted hrun =>
    refine (target_of_resets ?_ hrun).ge
    rintro (hreset | ⟨hreset, hcall⟩)
    · exact h (.inl hreset)
    · exact h (.inr (.inr (.inr ⟨hreset, hcall.imp id .inl⟩)))

theorem deliveries_call (s : Session σ) (c : Call) :
    (s.call c).deliveries = s.deliveries ++ delivered s (s.call c) := by
  have hdelivery := delivery_call s c
  rw [delivered]
  generalize s.call c = s' at hdelivery
  cases hdelivery with
  | none h => rw [h, List.drop_length, List.append_nil]
  | one _ _ _ h _ _ => rw [h, List.drop_left]

theorem deliveries_run (s : Session σ) (calls : List Call) :
    s.deliveries <+: (s.run calls).deliveries := by
  induction calls generalizing s with
  | nil => exact List.prefix_rfl
  | cons c calls ih => exact (deliveries_call s c ▸ List.prefix_append _ _).trans (ih (s.call c))

theorem delivered_concat (s : Session σ) (calls : List Call) (c : Call) :
    delivered s (s.run (calls ++ [c])) =
      delivered s (s.run calls) ++ delivered (s.run calls) ((s.run calls).call c) := by
  rw [run_concat, delivered, deliveries_call,
    List.drop_append_of_le_length (deliveries_run s calls).length_le]
  rfl

theorem delivers_in_sequence {s : Session σ} (hs : Healthy s.store) {c : Call} (hc : Ranged c) :
    DeliversInSequence s c := by
  have hdelivery := delivery_call s c
  rw [DeliversInSequence, delivered]
  generalize s.call c = s' at hdelivery
  cases hdelivery with
  | none h => exact .inl (by rw [h, List.drop_length])
  | @one msg s₁ _ hactive hseq hstore h hstate htarget =>
    refine .inr ⟨msg, rfl, by rw [h, List.drop_left], hactive, hstate, hseq, ?_⟩
    have hok : (advance_next_target_seq_num (seq_succ msg.seq_num) s₁.store).1 = .ok () :=
      (hs s₁.store (Relation.ReflTransGen.mono (fun _ _ => .sender) _ _ hstore)).advance _
    have hsame : s₁.next_target = s.next_target := target_of_run hstore
    rw [htarget, target_advance_target, if_pos hok, hsame, ← hseq, seq_succ_of_ranged hc]
    exact Nat.max_eq_right (Nat.le_succ _)

/-- **At-most-once, in-order delivery against an arbitrary peer.** Every delivery of a run is
the expected message on an Active session, and leaves NextTarget behind it; so the delivered
numbers go up for as long as no step lowers NextTarget. -/
theorem at_most_once_in_order {s : Session σ} (hs : Healthy s.store) (calls : List Call)
    (hcalls : ∀ c ∈ calls, Ranged c) :
    (∀ before c, before ++ [c] <+: calls → DeliversInSequence (s.run before) c) ∧
    ((∀ before c, before ++ [c] <+: calls → Rebaselines (s.run before) c →
        (s.run before).next_target ≤ (s.run (before ++ [c])).next_target) →
      ((delivered s (s.run calls)).map Message.seq_num).Pairwise (· < ·)) := by
  have hstep : ∀ before c, before ++ [c] <+: calls → DeliversInSequence (s.run before) c := by
    intro before c hinit
    exact delivers_in_sequence (healthy_run hs before)
      (hcalls c (hinit.subset (List.mem_append_right _ List.mem_cons_self)))
  refine ⟨hstep, ?_⟩
  -- by induction on the run: what was delivered lies below NextTarget
  suffices hsorted : ∀ done, done <+: calls →
      (∀ before c, before ++ [c] <+: calls → Rebaselines (s.run before) c →
        (s.run before).next_target ≤ (s.run (before ++ [c])).next_target) →
      ((delivered s (s.run done)).map Message.seq_num).Pairwise (· < ·) ∧
        ∀ msg ∈ delivered s (s.run done), msg.seq_num < (s.run done).next_target from
    fun hkept => (hsorted calls List.prefix_rfl hkept).1
  intro done hdone hkept
  induction done using List.reverseRecOn with
  | nil =>
    have hnone : delivered s (s.run []) = [] := List.drop_length
    rw [hnone]
    exact ⟨.nil, by simp⟩
  | append_singleton done c ih =>
    obtain ⟨hpairwise, hbelow⟩ := ih ((List.prefix_append _ _).trans hdone)
    have hle : (s.run done).next_target ≤ (s.run (done ++ [c])).next_target := by
      by_cases hre : Rebaselines (s.run done) c
      · exact hkept done c hdone hre
      · rw [run_concat]
        exact target_le_call hre
    rw [delivered_concat]
    rcases hstep done c hdone with hnone | ⟨msg, rfl, hone, -, -, hseq, htarget⟩
    · rw [hnone, List.append_nil]
      exact ⟨hpairwise, fun m hm => (hbelow m hm).trans_le hle⟩
    · rw [hone, run_concat, htarget]
      constructor
      · rw [List.map_append, List.pairwise_append]
        refine ⟨hpairwise, List.pairwise_singleton _ _, ?_⟩
        intro n hn n' hn'
        obtain ⟨m, hm, rfl⟩ := List.mem_map.mp hn
        rw [List.mem_singleton.mp hn', hseq]
        exact hbelow m hm
      · intro m hm
        rcases List.mem_append.mp hm with hold | hnew
        · have hlt := hbelow m hold
          omega
        · rw [List.mem_singleton.mp hnew]
          exact Nat.lt_succ_self _

end Session

/-- An execution report of the broker. -/
def broker_report (seq : ℕ) : Message := broker_message (ascii "8") seq [⟨39, ascii "0"⟩]

/-- The client logs on and receives two reports, the second one twice. -/
def two_reports : List Call :=
  [.logon, .message broker_logon, .message (broker_report 2), .message (broker_report 3),
    .message ((broker_report 3).set_discard tags.PossDupFlag (ascii "Y"))]

/-- The client with a file store that was opened in an empty directory. -/
def filed_session : Session FileStore :=
  Session.create quiet_config
    (FileStore.open_ .plain quiet_config.id ⟨true⟩ (.sound fun _ => none)).2 quiet_env

theorem healthy_filed_session : Healthy filed_session.store :=
  (FileStore.working_open_ .plain quiet_config.id ⟨true⟩ (.sound fun _ => none) rfl (fun _ => rfl)
    rfl).healthy

/-- The client delivers each report once; so it does with a file store. -/
theorem at_most_once_two_reports :
    ((quiet_session.delivered (quiet_session.run two_reports)).map Message.seq_num) = [2, 3] ∧
    ((quiet_session.delivered (quiet_session.run two_reports)).map Message.seq_num).Pairwise
    (· < ·) ∧
    ∀ before c, before ++ [c] <+: two_reports →
      Session.DeliversInSequence (filed_session.run before) c := by
  refine ⟨by decide, ?_,
    (Session.at_most_once_in_order healthy_filed_session two_reports (by decide)).1⟩
  refine (Session.at_most_once_in_order (healthy_memory_store _) two_reports (by decide)).2 ?_
  have hle : ∀ k < 5, (quiet_session.run (two_reports.take k)).next_target ≤
      (quiet_session.run (two_reports.take (k + 1))).next_target := by decide
  intro before c hinit _
  have hlength : before.length < 5 := by simpa [two_reports] using hinit.length_le
  have htake := List.prefix_iff_eq_take.mp hinit
  have htake' := List.prefix_iff_eq_take.mp ((List.prefix_append before [c]).trans hinit)
  rw [List.length_append, List.length_singleton] at htake
  rw [htake]
  nth_rewrite 1 [htake']
  exact hle before.length hlength

end FixEngine
