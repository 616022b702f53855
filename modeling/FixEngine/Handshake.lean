/-
`Handshake.lean` -- a Logon and its answer, as the other end sees them.

A Logon is numbered from a store that `reset_on_logon` may have reset before. The session
that receives it takes over the interval, starts from number one if the Logon carries
ResetSeqNumFlag, and answers if it has waited for it. The views below say which numbers the
two sides are left with; all four combinations of the reset flags are covered.
-/
import FixEngine.Traffic

set_option autoImplicit false

namespace FixEngine

open IMessageStore

/-! ## The fields of a Logon -/

theorem get_set_nonempty_ne {m : Message} {t t' : TagNum} (h : t ≠ t') (v : Bytes) :
    (set_nonempty m t v).get t' = m.get t' := by
  rw [set_nonempty]
  split
  · rfl
  · exact get_set_discard_ne h

section Logon

variable (cfg : SessionConfig) (hb : ℤ)

/-- The fields that every Logon has. -/
def logon_core : Message :=
  ((Message.of_type msg_types.Logon).set_int tags.EncryptMethod 0).set_int tags.HeartBtInt hb

theorem get_logon {t : TagNum} (hflag : tags.ResetSeqNumFlag ≠ t) (huser : tags.Username ≠ t)
    (hpass : tags.Password ≠ t) (happl : tags.DefaultApplVerID ≠ t) :
    (logon_message cfg hb).get t = (logon_core hb).get t := by
  rw [logon_message, get_set_nonempty_ne happl, get_set_nonempty_ne hpass,
    get_set_nonempty_ne huser]
  split
  · rw [get_set_discard_ne hflag]
    rfl
  · rfl

theorem get_logon_core {t : TagNum} (hencrypt : tags.EncryptMethod ≠ t)
    (hheartbeat : tags.HeartBtInt ≠ t) :
    (logon_core hb).get t = (Message.of_type msg_types.Logon).get t := by
  rw [logon_core, Message.set_int, get_set_discard_ne hheartbeat, Message.set_int,
    get_set_discard_ne hencrypt]

theorem get_logon_reset_flag : (logon_message cfg hb).get tags.ResetSeqNumFlag =
    if cfg.reset_on_logon then some (ascii "Y") else none := by
  rw [logon_message, get_set_nonempty_ne (by decide), get_set_nonempty_ne (by decide),
    get_set_nonempty_ne (by decide)]
  split
  · exact get_set_discard_self (show clean (ascii "Y") = true by decide)
  · exact (get_logon_core hb (by decide) (by decide)).trans (by decide)

theorem poss_dup_logon : (logon_message cfg hb).poss_dup = false := by
  have hnone : (Message.of_type msg_types.Logon).get tags.PossDupFlag = none := by decide
  rw [Message.poss_dup, get_logon cfg hb (by decide) (by decide) (by decide) (by decide),
    get_logon_core hb (by decide) (by decide), hnone]
  decide

theorem get_logon_heartbeat {hb : ℤ} (hlo : -(2 ^ 63) ≤ hb) (hhi : hb < 2 ^ 63) :
    (logon_message cfg hb).get_int tags.HeartBtInt = some hb := by
  rw [Message.get_int, get_logon cfg hb (by decide) (by decide) (by decide) (by decide)]
  exact get_int_set_int hlo hhi

end Logon

/-! ## Sending a Logon -/

/-- A session whose Logon is about to be numbered. -/
def View.greets (st : SessionState) (v : View) : View :=
  if v.cfg.reset_on_logon then
    { v with state := st, gap_open := false, next_sender := 1, next_target := 1 }
  else { v with state := st }

namespace Session

variable {σ : Type} [IMessageStore σ] {s : Session σ}

theorem view_on_logon (s : Session σ) : (s.guarded .on_logon).view = s.view := by
  have hdeliveries : (s.guarded .on_logon).deliveries = s.deliveries :=
    (talks_guarded (E := fun e => e = .on_logon) s (.inr rfl)).footprint.deliveries
      fun _ => (by simp)
  have henv : (s.guarded .on_logon).io.env = s.io.env := Outside.env_guarded _ _
  simp only [view, henv, wire_trace_guarded s (e := .on_logon) rfl, hdeliveries]
  rfl

theorem view_unpublish {prev : SessionState} (h : s.state = s.handshake_state) :
    (s.unpublish prev).view = { s.view with state := prev } := by
  have hrest : s.unpublish prev = { s with state := (s.unpublish prev).state } := by
    rw [unpublish]
    split <;> rfl
  rw [hrest, state_unpublish h]
  rfl

variable [StoreContract σ]

theorem view_reset_store (h : Healthy s.store) :
    s.reset_store.1 = .ok () ∧
    s.reset_store.2.view = { s.view with next_sender := 1, next_target := 1 } := by
  have hok : (IMessageStore.reset s.store).1 = .ok () := h.succeeds.reset
  have hseqs := StoreContract.reset_seqs s.store hok
  have hsender : s.reset_store.2.next_sender = 1 := congrArg Prod.fst hseqs
  have htarget : s.reset_store.2.next_target = 1 := congrArg Prod.snd hseqs
  have hframes : s.reset_store.2.wire_trace = s.wire_trace := by
    show (s.io.events ++ [Event.store_reset]).filterMap wire_of = _
    rw [List.filterMap_append]
    exact List.append_nil _
  have hdeliveries : s.reset_store.2.deliveries = s.deliveries := by
    show (s.io.events ++ [Event.store_reset]).filterMap Event.delivered = _
    rw [List.filterMap_append]
    exact List.append_nil _
  refine ⟨hok, ?_⟩
  simp only [view, hsender, htarget, hframes, hdeliveries]
  rfl

theorem reset_for_logon_view (h : Healthy s.store) :
    s.reset_for_logon.1 = .ok () ∧ s.reset_for_logon.2.view = s.view.greets s.state ∧
      Healthy s.reset_for_logon.2.store := by
  have hhealthy : Healthy s.reset_for_logon.2.store :=
    h.of_footprint
      ((handshakes_reset_for_logon False s).1.mono (fun _ => id) fun _ _ => anyStep_of_logonStep)
  obtain ⟨hok, hview⟩ := view_reset_store h
  have hsame : s.view.cfg.reset_on_logon = s.cfg.reset_on_logon := rfl
  refine and_assoc.mp ⟨?_, hhealthy⟩
  rw [reset_for_logon, View.greets, hsame]
  split
  · dsimp only
    rw [hok]
    dsimp only
    rw [view_clear_gap, hview]
    exact ⟨rfl, rfl⟩
  · exact ⟨rfl, rfl⟩

/-- **A Logon**, numbered and sent, or the state as before. -/
theorem publish_logon_view (h : Healthy s.store) (hroom : s.next_sender + 1 < 2 ^ 64)
    (m : Message) :
    if Buildable s.cfg.id m then
      (s.publish_logon m).1 = .ok () ∧ ∃ w,
        Carries s.cfg.id m (s.view.greets s.handshake_state).next_sender w ∧
        (s.publish_logon m).2.view = (s.view.greets s.handshake_state).sent w
    else (∃ e, (s.publish_logon m).1 = .error e) ∧
    (s.publish_logon m).2.view = s.view.greets s.state := by
  obtain ⟨hok, hview, hhealthy⟩ := reset_for_logon_view (s := s.publish) h
  have hgreets : s.publish.view.greets s.publish.state = s.view.greets s.handshake_state := by
    rw [View.greets, View.greets]
    rfl
  rw [hgreets] at hview
  have hcfg : s.publish.reset_for_logon.2.cfg = s.cfg :=
    (handshakes_reset_for_logon False s.publish).2.2
  have hsender : s.publish.reset_for_logon.2.next_sender =
      (s.view.greets s.handshake_state).next_sender :=
    congrArg View.next_sender hview
  have hnumber : s.publish.reset_for_logon.2.next_sender + 1 < 2 ^ 64 := by
    rw [hsender, View.greets]
    split
    · exact (by decide : 1 + 1 < 2 ^ 64)
    · exact hroom
  have hsend := send_message_locked_view hhealthy (hhealthy.succeeds.claim hnumber) m
  rw [hcfg, hsender, hview] at hsend
  rw [publish_logon]
  dsimp only
  rw [hok]
  dsimp only
  by_cases hb : Buildable s.cfg.id m
  · rw [if_pos hb] at hsend ⊢
    obtain ⟨hsent, w, hw, hafter⟩ := hsend
    rw [hsent]
    exact ⟨rfl, w, hw, hafter⟩
  · rw [if_neg hb] at hsend ⊢
    obtain ⟨⟨e, herr⟩, hafter⟩ := hsend
    rw [herr]
    refine ⟨⟨e, rfl⟩, ?_⟩
    -- the published state is taken back
    have hstate :
        (s.publish.reset_for_logon.2.send_message_locked m).2.state = s.handshake_state := by
      have hgone := congrArg View.state hafter
      rw [View.greets] at hgone
      split at hgone
      · exact hgone
      · exact hgone
    have hhand : (s.publish.reset_for_logon.2.send_message_locked m).2.handshake_state =
        s.handshake_state := by
      rw [handshake_state, handshake_state, cfg_send_message_locked, hcfg]
    rw [view_unpublish (hstate.trans hhand.symm), hafter, View.greets, View.greets]
    split <;> rfl

/-- The states from which a Logon goes out. -/
def CanLogon (s : Session σ) : Prop :=
  s.state = .NotConnected ∨ s.state = .Disconnected ∨
    (s.state = .WaitingLogon ∧ s.cfg.initiator = false)

/-- **`send_logon` with a store that works**, from a state that allows it: the Logon goes out,
or there is none and the state is as before. -/
theorem send_logon_view (h : Healthy s.store) (hroom : s.next_sender + 1 < 2 ^ 64)
    (hstate : s.CanLogon) :
    if Buildable s.cfg.id (logon_message s.cfg s.heartbeat_sec) then
      s.send_logon.1 = .ok () ∧ ∃ w,
        Carries s.cfg.id (logon_message s.cfg s.heartbeat_sec)
          (s.view.greets s.handshake_state).next_sender w ∧
        s.send_logon.2.view = (s.view.greets s.handshake_state).sent w
    else (∃ e, s.send_logon.1 = .error e) ∧ s.send_logon.2.view = s.view.greets s.state := by
  have hfree : ¬(s.state ≠ s.handshake_state ∧ s.state ≠ .NotConnected ∧
      s.state ≠ .Disconnected) := by
    rcases hstate with hidle | hdown | ⟨hwaiting, haccepts⟩
    · exact fun hnot => hnot.2.1 hidle
    · exact fun hnot => hnot.2.2 hdown
    · rw [handshake_state, haccepts, hwaiting]
      exact fun hnot => hnot.1 rfl
  have hfirst : ¬(s.state = s.handshake_state ∧ s.cfg.initiator = true) := by
    rintro ⟨hsame, hinitiator⟩
    rw [handshake_state, hinitiator, if_pos rfl] at hsame
    rcases hstate with hidle | hdown | ⟨hwaiting, haccepts⟩
    · exact absurd (hidle.symm.trans hsame) (by simp)
    · exact absurd (hdown.symm.trans hsame) (by simp)
    · exact absurd (haccepts.symm.trans hinitiator) (by simp)
  have hbody : ({ s with io := s.io.acquire } : Session σ).send_logon_locked
        (logon_message s.cfg s.heartbeat_sec) =
      ({ s with io := s.io.acquire } : Session σ).publish_logon
        (logon_message s.cfg s.heartbeat_sec) := by
    rw [send_logon_locked]
    exact (if_neg hfree).trans (if_neg hfirst)
  have hpublish := publish_logon_view (s := { s with io := s.io.acquire }) h hroom
    (logon_message s.cfg s.heartbeat_sec)
  rw [← hbody] at hpublish
  rw [send_logon, view_locked]
  exact hpublish

omit [StoreContract σ] in
theorem healthy_send_logon (h : Healthy s.store) : Healthy s.send_logon.2.store :=
  h.of_footprint ((send_logon_cases False s).1.mono (fun _ => id) fun _ _ => anyStep_of_logonStep)

end Session

/-! ## Receiving a Logon -/

/-- A Logon of the other end, as it is read; the flag says whether the other end has reset
its store. -/
structure ReadLogon (hb : ℤ) (reset : Bool) (m : Message) : Prop where
  has_type : m.has tags.MsgType = true
  msg_type : m.msg_type = msg_types.Logon
  once : m.duplicate_header = false
  heartbeat : m.get_int tags.HeartBtInt = some hb
  flag : ResetFlag m ↔ reset = true
  first : m.poss_dup = false

theorem ReadAs.logon {id : SessionID} {cfg : SessionConfig} {hb : ℤ} {n : ℕ} {m : Message}
    (h : ReadAs id (logon_message cfg hb) n m) (hlo : -(2 ^ 31) ≤ hb) (hhi : hb < 2 ^ 31) :
    ReadLogon hb cfg.reset_on_logon m where
  has_type := h.has_type
  msg_type := h.msg_type.trans (msg_type_logon cfg hb)
  once := (h.unique (tidy_logon cfg hb).once).1
  heartbeat := (h.get_int (by decide)).trans (get_logon_heartbeat cfg (by omega) (by omega))
  flag := by
    rw [ResetFlag, h.own _ (.inr (.inr (by decide))), get_logon_reset_flag]
    by_cases hreset : cfg.reset_on_logon = true
    · simp [hreset]
    · simp only [hreset, Bool.false_eq_true, if_false, iff_false]
      decide
  first := h.poss_dup.trans (poss_dup_logon cfg hb)

/-- The view once the interval of a Logon is taken over, and the baseline if it says so. -/
def View.meets (hb : ℤ) (reset : Bool) (v : View) : View :=
  { v with
    cfg := { v.cfg with heartbeat_interval := to_i32 hb }
    heartbeat_sec := to_i32 hb
    gap_open := false
    next_target := if reset then 1 else v.next_target }

namespace Session

variable {σ : Type} [IMessageStore σ] {s : Session σ} {m : Message} {hb : ℤ} {reset : Bool}

theorem process_logon (hidentity : s.identity_error m = none) (hstate : s.state.unnumbered = true)
    (h : ReadLogon hb reset m) : s.process_message m =
      (((s.note_inbound m).handle_logon m).consume_inbound m false).count_received := by
  have hnoted : (s.note_inbound m).identity_error m = none := hidentity
  have hunnumbered : (s.note_inbound m).state.unnumbered = true := hstate
  have htype : m.msg_type ≠ msg_types.SequenceReset := by
    rw [h.msg_type]
    decide
  have hadmin : (s.note_inbound m).process_admin m = (s.note_inbound m).handle_logon m := by
    rw [process_admin, h.msg_type]
    rfl
  rw [process_message, hnoted]
  dsimp only
  rw [process_identified, h.has_type, if_neg (by decide), if_neg htype, hunnumbered,
    if_pos rfl, dispatch, h.once, if_neg (by decide), h.msg_type, if_pos (by decide), hadmin]

theorem healthy_logon_ready (h : Healthy s.store) (hb : ℤ) (m : Message) :
    Healthy (s.logon_ready hb m).store :=
  h.of_footprint
    ((handshakes_logon_ready hb m s).1.mono (fun _ => id) fun _ _ => anyStep_of_logonStep)

theorem healthy_handle_logon (h : Healthy s.store) (htype : m.msg_type = msg_types.Logon)
    (honce : m.duplicate_header = false) : Healthy (s.handle_logon m).store :=
  h.of_footprint (handled_logon htype honce s).footprint

variable [StoreContract σ]

theorem logon_ready_view (hhealthy : Healthy s.store)
    (hwait : s.state = .WaitingLogon ∨ s.state = .LogonSent) (h : ReadLogon hb reset m) :
    (s.logon_ready hb m).view = s.view.meets hb reset := by
  have hadopted : (s.adopt hb).state = .WaitingLogon ∨ (s.adopt hb).state = .LogonSent := hwait
  rw [logon_ready, view_clear_gap, rebaseline, View.meets]
  by_cases hreset : reset = true
  · rw [if_pos ⟨h.flag.mpr hreset, hadopted⟩, if_pos hreset,
      view_set_target (s := s.adopt hb) (hhealthy.succeeds.set_next_target 1)]
    rfl
  · rw [if_neg fun hboth => hreset (h.flag.mp hboth.1), if_neg hreset]
    rfl

theorem handle_logon_answers (hhealthy : Healthy s.store) (hroom : s.next_sender + 1 < 2 ^ 64)
    (hstate : s.state = .WaitingLogon) (haccepts : s.cfg.initiator = false)
    (h : ReadLogon hb reset m) (hpos : 0 < hb)
    (hbuild : Buildable s.cfg.id (logon_message (s.view.meets hb reset).cfg (to_i32 hb))) :
    ∃ w, Carries s.cfg.id (logon_message (s.view.meets hb reset).cfg (to_i32 hb))
        ((s.view.meets hb reset).greets .WaitingLogon).next_sender w ∧
      (s.handle_logon m).view =
        { ((s.view.meets hb reset).greets .WaitingLogon).sent w with state := .Active } := by
  have hecho : ¬(s.cfg.initiator ∧ s.state = .LogonSent ∧ hb ≠ s.heartbeat_sec) := by
    rw [haccepts]
    exact fun hnot => absurd hnot.1 (by decide)
  rw [handle_logon_eq h.heartbeat (not_le.mpr hpos) hecho, hstate]
  dsimp only
  have hview := logon_ready_view hhealthy (.inl hstate) h
  have hready := healthy_logon_ready hhealthy hb m
  generalize s.logon_ready hb m = s₁ at hview hready ⊢
  have hcfg : s₁.cfg = (s.view.meets hb reset).cfg := congrArg View.cfg hview
  have hsec : s₁.heartbeat_sec = to_i32 hb := congrArg View.heartbeat_sec hview
  have hinit : s₁.cfg.initiator = false := (congrArg SessionConfig.initiator hcfg).trans haccepts
  have hwaiting : s₁.state = .WaitingLogon := (congrArg View.state hview).trans hstate
  have hhand : s₁.handshake_state = .WaitingLogon := by
    rw [handshake_state, hinit]
    rfl
  have hsame : s₁.next_sender = s.next_sender := congrArg View.next_sender hview
  have hsend := send_logon_view hready (hsame ▸ hroom) (.inr (.inr ⟨hwaiting, hinit⟩))
  rw [hhand, hview, hsec, hcfg] at hsend
  rw [if_pos (show Buildable (s.view.meets hb reset).cfg.id _ from hbuild)] at hsend
  obtain ⟨hok, w, hw, hsent⟩ := hsend
  have hstill : s₁.send_logon.2.state = .WaitingLogon := by
    have hgreeted := congrArg View.state hsent
    rw [View.greets] at hgreeted
    split at hgreeted
    · exact hgreeted
    · exact hgreeted
  refine ⟨w, hw, ?_⟩
  rw [hok]
  dsimp only
  rw [if_pos (by rw [transition, hstill]; rfl), view_on_logon]
  show View.mk _ _ _ _ (if _ then _ else _) _ _ _ _ _ = _
  rw [if_pos hstill, ← hsent]
  rfl

theorem handle_logon_completes (hhealthy : Healthy s.store) (hstate : s.state = .LogonSent)
    (h : ReadLogon hb reset m) (hpos : 0 < hb) (hsame : hb = s.heartbeat_sec) :
    (s.handle_logon m).view = { s.view.meets hb reset with state := .Active } := by
  have hecho : ¬(s.cfg.initiator ∧ s.state = .LogonSent ∧ hb ≠ s.heartbeat_sec) :=
    fun hnot => hnot.2.2 hsame
  rw [handle_logon_eq h.heartbeat (not_le.mpr hpos) hecho, hstate]
  dsimp only
  have hview := logon_ready_view hhealthy (.inr hstate) h
  generalize s.logon_ready hb m = s₁ at hview ⊢
  have hwaiting : s₁.state = .LogonSent := (congrArg View.state hview).trans hstate
  rw [if_pos (by rw [transition, hwaiting]; rfl), view_on_logon, ← hview]
  show View.mk _ _ _ _ (if _ then _ else _) _ _ _ _ _ = _
  rw [if_pos hwaiting]
  rfl

theorem view_process_logon (hhealthy : Healthy s.store) (hidentity : s.identity_error m = none)
    (hstate : s.state.unnumbered = true) (h : ReadLogon hb reset m) :
    (s.process_message m).view = { ((s.note_inbound m).handle_logon m).view with
      next_target := max ((s.note_inbound m).handle_logon m).next_target
        (seq_succ m.seq_num) } := by
  have hhandled : Healthy ((s.note_inbound m).handle_logon m).store :=
    healthy_handle_logon (s := s.note_inbound m) hhealthy h.msg_type h.once
  rw [process_logon hidentity hstate h, view_count_received, view_consume_inbound hhandled.succeeds,
    if_neg (by simp [h.first])]

theorem view_logon_refused (hhealthy : Healthy s.store) (hidentity : s.identity_error m = none)
    (hstate : s.state.unnumbered = true) (h : ReadLogon hb reset m) (hneg : hb ≤ 0) :
    (s.process_message m).state = .Disconnected := by
  have hrefused : (s.note_inbound m).handle_logon m =
      ((s.note_inbound m).send_logout (ascii "HeartBtInt required")).disconnect := by
    rw [handle_logon, h.heartbeat]
    exact if_pos hneg
  have hview := view_process_logon hhealthy hidentity hstate h
  rw [hrefused] at hview
  exact congrArg View.state hview

/-- **A Logon at a session that waits for it**: the answer goes out, and NextTarget is
behind the Logon. -/
theorem view_logon_answered (hhealthy : Healthy s.store) (hroom : s.next_sender + 1 < 2 ^ 64)
    (hidentity : s.identity_error m = none) (hstate : s.state = .WaitingLogon)
    (haccepts : s.cfg.initiator = false) (h : ReadLogon hb reset m) (hpos : 0 < hb)
    (hbuild : Buildable s.cfg.id (logon_message (s.view.meets hb reset).cfg (to_i32 hb))) :
    ∃ w, Carries s.cfg.id (logon_message (s.view.meets hb reset).cfg (to_i32 hb))
        ((s.view.meets hb reset).greets .WaitingLogon).next_sender w ∧
      (s.process_message m).view =
        { ((s.view.meets hb reset).greets .WaitingLogon).sent w with
          state := .Active
          next_target := max ((s.view.meets hb reset).greets .WaitingLogon).next_target
            (seq_succ m.seq_num) } := by
  have hanswers :=
    handle_logon_answers (s := s.note_inbound m) hhealthy hroom hstate haccepts h hpos
  rw [view_note_inbound] at hanswers
  obtain ⟨w, hw, hview⟩ := hanswers hbuild
  refine ⟨w, hw, ?_⟩
  have htarget : ((s.note_inbound m).handle_logon m).next_target = _ :=
    congrArg View.next_target hview
  rw [view_process_logon hhealthy hidentity (by rw [hstate]; rfl) h, htarget, hview]
  rfl

/-- **The answer at a session that has sent its Logon.** -/
theorem view_logon_completed (hhealthy : Healthy s.store) (hidentity : s.identity_error m = none)
    (hstate : s.state = .LogonSent) (h : ReadLogon hb reset m) (hpos : 0 < hb)
    (hsame : hb = s.heartbeat_sec) :
    (s.process_message m).view = { s.view.meets hb reset with
      state := .Active
      next_target := max (s.view.meets hb reset).next_target (seq_succ m.seq_num) } := by
  have hview := handle_logon_completes (s := s.note_inbound m) hhealthy hstate h hpos hsame
  rw [view_note_inbound] at hview
  have htarget : ((s.note_inbound m).handle_logon m).next_target = _ :=
    congrArg View.next_target hview
  rw [view_process_logon hhealthy hidentity (by rw [hstate]; rfl) h, htarget, hview]

end Session

/-! ## The start of a connection -/

/-- The view at the start of a connection. -/
def View.connected (st : SessionState) (v : View) : View :=
  { v with parser := v.parser.reset, gap_open := false, state := st }

namespace Session

variable {σ : Type} [IMessageStore σ] {s : Session σ}

/-- The members of `on_transport_connected` before the logon. -/
def reconnected (s : Session σ) : Session σ :=
  { s with
    parser := s.parser.reset
    test_req_pending := false
    pending_test_req_id := []
    gap := .closed
    logout_notified := false
    last_send_time := s.io.clock_now
    last_recv_time := s.io.clock_now
    logon_sent_time := s.io.clock_now
    logout_sent_time := s.io.clock_now
    io := s.io.tick
    state := if s.state = .NotConnected then s.state else .Disconnected }

theorem view_reconnected (s : Session σ) :
    s.reconnected.view = s.view.connected (if s.state = .NotConnected then s.state
    else .Disconnected) := rfl

theorem connected_acceptor (haccepts : s.cfg.initiator = false) :
    s.on_transport_connected.view = s.view.connected .WaitingLogon ∧
      s.on_transport_connected.store = s.store := by
  rw [on_transport_connected]
  dsimp only
  rw [haccepts, if_neg (by decide)]
  exact ⟨rfl, rfl⟩

variable [StoreContract σ]

/-- **An initiator sends its Logon**, or stays down if there is no frame of it. -/
theorem connected_initiator (hhealthy : Healthy s.store) (hroom : s.next_sender + 1 < 2 ^ 64)
    (hinit : s.cfg.initiator = true) :
    Healthy s.on_transport_connected.store ∧
    if Buildable s.cfg.id (logon_message s.cfg s.heartbeat_sec) then
      ∃ w, Carries s.cfg.id (logon_message s.cfg s.heartbeat_sec)
          ((s.view.connected .NotConnected).greets .LogonSent).next_sender w ∧
        s.on_transport_connected.view = ((s.view.connected .NotConnected).greets .LogonSent).sent w
    else ∃ st, (st = .NotConnected ∨ st = .Disconnected) ∧
      s.on_transport_connected.view = (s.view.connected st).greets st := by
  have hidle : s.reconnected.state = .NotConnected ∨ s.reconnected.state = .Disconnected := by
    have hstate : s.reconnected.state = if s.state = .NotConnected then s.state
        else .Disconnected := rfl
    rw [hstate]
    split
    · exact .inl ‹_›
    · exact .inr rfl
  have hcan : s.reconnected.CanLogon := hidle.imp id .inl
  have hlogon : s.reconnected.logon = s.reconnected.send_logon := by
    rw [logon, if_neg]
    rintro ⟨hnot, hdown⟩
    exact hidle.elim hnot hdown
  have hview := view_reconnected s
  have hsend := send_logon_view (s := s.reconnected) hhealthy hroom hcan
  have hstore : Healthy s.reconnected.send_logon.2.store :=
    healthy_send_logon (s := s.reconnected) hhealthy
  have hdone (hok : s.reconnected.send_logon.1 = .ok ()) :
      s.on_transport_connected = s.reconnected.send_logon.2 := by
    rw [← hlogon, reconnected] at hok ⊢
    rw [on_transport_connected]
    dsimp only
    rw [hinit, if_pos rfl]
    simp only [hok]
  have hfailed (e : ErrorCode) (herr : s.reconnected.send_logon.1 = .error e) :
      s.on_transport_connected =
        s.reconnected.send_logon.2.report (ascii "reconnect: logon failed: " ++ e.message) := by
    rw [← hlogon, reconnected] at herr ⊢
    rw [on_transport_connected]
    dsimp only
    rw [hinit, if_pos rfl]
    simp only [herr]
  have hhand : s.reconnected.handshake_state = .LogonSent := by
    rw [handshake_state, show s.reconnected.cfg.initiator = true from hinit, if_pos rfl]
  have hgreets : ∀ st st', (s.view.connected st).greets st' =
      (s.view.connected .NotConnected).greets st' := by
    intro st st'
    rw [View.greets, View.greets]
    rfl
  rw [hhand, hview, hgreets] at hsend
  by_cases hbuild : Buildable s.cfg.id (logon_message s.cfg s.heartbeat_sec)
  · have hbuild' : Buildable s.reconnected.cfg.id
        (logon_message s.reconnected.cfg s.reconnected.heartbeat_sec) := hbuild
    rw [if_pos hbuild'] at hsend
    obtain ⟨hok, w, hw, hsent⟩ := hsend
    rw [hdone hok, if_pos hbuild]
    exact ⟨hstore, w, hw, hsent⟩
  · have hbuild' : ¬Buildable s.reconnected.cfg.id
        (logon_message s.reconnected.cfg s.reconnected.heartbeat_sec) := hbuild
    rw [if_neg hbuild'] at hsend
    obtain ⟨⟨e, herr⟩, hsame⟩ := hsend
    rw [hfailed e herr, if_neg hbuild]
    refine ⟨hstore, s.reconnected.state, hidle, ?_⟩
    rw [view_report, hsame]
    rfl

/-! ## The timer before the session is established -/

omit [StoreContract σ] in
theorem on_timer_waiting (hactive : s.state ≠ .Active) (hlogout : s.state ≠ .LogoutSent) :
    (s.on_timer.view = s.view ∨ s.on_timer.view = s.view.down) ∧ s.on_timer.store = s.store := by
  have htick : ({ s with io := s.io.tick } : Session σ).view = s.view := rfl
  rw [on_timer]
  dsimp only
  rw [view_drain_pending_errors]
  split
  · rename_i hstate
    exact absurd hstate hactive
  · split
    · refine ⟨.inr ?_, rfl⟩
      rw [view_disconnect, htick]
    · exact ⟨.inl rfl, rfl⟩
  · rename_i hstate
    exact absurd hstate hlogout
  · exact ⟨.inl rfl, rfl⟩

end Session

end FixEngine
