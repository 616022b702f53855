/-
`SequenceReset.lean` -- the rules of a SequenceReset.

`GapFillRule` and `ResetRule` say what a SequenceReset of either mode has to do, in
terms of the expected number, the number of the message and its NewSeqNo as the signed
integer that it is. `Applies` is what this takes: the writes and sends that the case
calls for succeed, and the NewSeqNo of a GapFill in sequence is not a negative number
that lies above NextTarget once it is converted to a `SeqNum`. The two are equivalent
for every session and every message. The rules speak of the session after the whole of
`process_message`, so that nothing is advanced behind a SequenceReset either.
-/
import FixEngine.Accounting

set_option autoImplicit false

namespace FixEngine

open IMessageStore

/-! ## The rules -/

/-- GapFill mode. -/
def GapFill (msg : Message) : Prop := (msg.get tags.GapFillFlag).getD (ascii "N") = ascii "Y"

instance (msg : Message) : Decidable (GapFill msg) := inferInstanceAs (Decidable (_ = _))

/-- NewSeqNo is there and greater than `e`. -/
def Exceeds (msg : Message) (e : ℤ) : Prop := ∃ v, msg.get_int tags.NewSeqNo = some v ∧ e < v

namespace Session

section Rules

variable {σ : Type} [IMessageStore σ]

/-- Nothing has changed but the bookkeeping of the receipt. -/
structure Unmoved (s s' : Session σ) : Prop where
  state : s'.state = s.state
  store : s'.store = s.store
  gap : s'.gap = s.gap
  frames : s'.wire_trace = s.wire_trace

/-- One frame went out, which carries `m`. -/
def Emits (m : Message) (s s' : Session σ) : Prop :=
  ∃ w, Carries s.cfg.id m s.next_sender w ∧ s'.wire_trace = s.wire_trace ++ [w]

/-- The session has logged out and ended the connection. -/
structure LogsOut (s s' : Session σ) : Prop where
  logout : ∃ reason, Emits (logout_message reason) s s'
  state : s'.state = .Disconnected
  target : s'.next_target = s.next_target

/-- A ResendRequest from the expected number went out, and nothing else has changed but that
the gap is open. -/
structure Requests (s s' : Session σ) : Prop where
  request : Emits (resend_request_message s.next_target 0) s s'
  state : s'.state = s.state
  target : s'.next_target = s.next_target

/-- The rules of GapFill mode. -/
structure GapFillRule (msg : Message) (s s' : Session σ) : Prop where
  changes : s'.next_target ≠ s.next_target ↔
    msg.poss_dup = true ∧ msg.seq_num = s.next_target ∧ Exceeds msg s.next_target
  becomes : ∀ v, msg.get_int tags.NewSeqNo = some v → msg.poss_dup = true →
    msg.seq_num = s.next_target → s.next_target < v → s'.next_target = v ∧ s'.gap = .closed
  refuses : msg.poss_dup = false ∨ (msg.seq_num = s.next_target ∧ ¬Exceeds msg s.next_target) →
    LogsOut s s'
  ahead : msg.poss_dup = true → s.next_target < msg.seq_num →
    if s.gap.is_open then Unmoved s s' else Requests s s'
  behind : msg.poss_dup = true → msg.seq_num < s.next_target → Unmoved s s'

/-- The rules of Reset mode. -/
structure ResetRule (msg : Message) (s s' : Session σ) : Prop where
  becomes : ∀ v, msg.get_int tags.NewSeqNo = some v → 1 ≤ v → s'.next_target = v
  refuses : ¬Exceeds msg 0 → s'.state = .Disconnected ∧ s'.next_target = s.next_target

def SequenceResetRule (msg : Message) (s s' : Session σ) : Prop :=
  if GapFill msg then GapFillRule msg s s' else ResetRule msg s s'

/-- The session that asks for a gap. -/
def arm_gap (s : Session σ) : Session σ :=
  { s with gap := ⟨true, s.io.clock_now, 1⟩, io := s.io.tick }

/-- The Logout that answers the message can be sent. -/
def CanLogout (msg : Message) (reason : Bytes) (s : Session σ) : Prop :=
  ((s.note_inbound msg).send_message (logout_message reason)).1 = .ok ()

/-- What it takes for the rules to hold. -/
def Applies (msg : Message) (s : Session σ) : Prop :=
  if GapFill msg then
    if msg.poss_dup = false then CanLogout msg
      (ascii "SequenceReset GapFill requires PossDupFlag") s
    else if s.next_target < msg.seq_num then
      s.gap.is_open = true ∨
        ((s.note_inbound msg).arm_gap.send_message (resend_request_message s.next_target 0)).1 =
        .ok ()
    else if msg.seq_num < s.next_target then True
    else
      match msg.get_int tags.NewSeqNo with
      | none => CanLogout msg (ascii "invalid NewSeqNo") s
      | some v =>
        if to_u64 v ≤ s.next_target then CanLogout msg (ascii "invalid NewSeqNo") s
        else 0 ≤ v ∧ (set_next_target_seq_num (to_u64 v) s.store).1 = .ok ()
  else
    match msg.get_int tags.NewSeqNo with
    | none => True
    | some v => v < 1 ∨ v = s.next_target ∨ (set_next_target_seq_num (to_u64 v) s.store).1 = .ok ()

end Rules

/-! ## What the branches do -/

variable {σ : Type} [IMessageStore σ]

theorem wire_trace_note_inbound (msg : Message) (s : Session σ) :
    (s.note_inbound msg).wire_trace = s.wire_trace :=
  wire_trace_of_adds (talks_note_inbound (E := fun _ => False) msg s).footprint.events

/-- The session after a refused SequenceReset. -/
def refused (msg : Message) (reason : Bytes) (s : Session σ) : Session σ :=
  ((s.note_inbound msg).send_logout reason).disconnect.count_received

/-- The session after a SequenceReset that was applied. -/
def renumbered (msg : Message) (n : ℕ) (s : Session σ) : Session σ :=
  ((s.note_inbound msg).set_target n
    (ascii "sequence reset: NewSeqNo persist failed")).clear_gap.count_received

/-- The session after a GapFill that is ahead. -/
def requested (msg : Message) (s : Session σ) : Session σ :=
  (s.note_inbound msg).request_gap s.next_target

/-- What a SequenceReset leads to. -/
def sequence_reset (msg : Message) (s : Session σ) : Session σ :=
  if GapFill msg then
    if msg.poss_dup = false then s.refused msg (ascii "SequenceReset GapFill requires PossDupFlag")
    else if s.next_target < msg.seq_num then s.requested msg
    else if msg.seq_num < s.next_target then (s.note_inbound msg).count_received
    else
      match msg.get_int tags.NewSeqNo with
      | none => s.refused msg (ascii "invalid NewSeqNo")
      | some v =>
        if to_u64 v ≤ s.next_target then s.refused msg (ascii "invalid NewSeqNo")
        else s.renumbered msg (to_u64 v)
  else
    match msg.get_int tags.NewSeqNo with
    | none => s.refused msg (ascii "invalid NewSeqNo")
    | some v =>
      if v ≤ 0 then s.refused msg (ascii "invalid NewSeqNo") else s.renumbered msg (to_u64 v)

variable {msg : Message} {s : Session σ}

theorem call_sequence_reset (hup : s.state ≠ .Disconnected)
    (hidentity : s.identity_error msg = none) (htype : msg.msg_type = msg_types.SequenceReset) :
    s.call (.message msg) = s.sequence_reset msg := by
  have hhas : msg.has tags.MsgType = true := by
    by_contra hnot
    rw [msg_type_of_not_has (by simpa using hnot)] at htype
    exact absurd htype (by decide)
  have hnoted : (s.note_inbound msg).identity_error msg = none := hidentity
  have htarget : (s.note_inbound msg).next_target = s.next_target := rfl
  have hcall : s.call (.message msg) = s.process_message msg := if_neg hup
  rw [hcall, process_message, hnoted]
  dsimp only
  rw [process_identified, hhas, if_neg (by decide), if_pos htype, handle_sequence_reset, htarget,
    sequence_reset]
  split
  · rename_i hfill
    rw [if_pos (show GapFill msg from hfill)]
    rcases hdup : msg.poss_dup with _ | _
    · rfl
    rw [if_neg (show ¬(!true) = true by decide), if_neg (show ¬true = false by decide)]
    split
    · rfl
    split
    · rfl
    rcases msg.get_int tags.NewSeqNo with _ | v
    · rfl
    rw [Option.map_some]
    dsimp only
    split
    · rfl
    · rfl
  · rename_i hfill
    rw [if_neg (show ¬GapFill msg from hfill)]
    rcases msg.get_int tags.NewSeqNo with _ | v
    · rfl
    dsimp only
    split
    · rfl
    · rfl

theorem unmoved_note_inbound (msg : Message) (s : Session σ) : Unmoved s (s.note_inbound msg) :=
  ⟨rfl, rfl, rfl, wire_trace_note_inbound msg s⟩

theorem gap_fill_behind (hdup : msg.poss_dup = true)
    (hbehind : msg.seq_num < s.next_target) :
    GapFillRule msg s (s.note_inbound msg).count_received := by
  have hinvalid : ¬(msg.poss_dup = true ∧ msg.seq_num = s.next_target ∧
      Exceeds msg s.next_target) := by
    rintro ⟨-, hseq, -⟩
    omega
  have hunmoved : Unmoved s (s.note_inbound msg).count_received :=
    ⟨rfl, rfl, rfl, wire_trace_note_inbound msg s⟩
  refine ⟨iff_of_false (not_not.mpr rfl) hinvalid, ?_, ?_, ?_, fun _ _ => hunmoved⟩
  · exact fun v hnew _ hseq hlt => absurd ⟨hdup, hseq, v, hnew, hlt⟩ hinvalid
  · rintro (hno | ⟨hseq, -⟩)
    · exact absurd (hdup.symm.trans hno) (by simp)
    · omega
  · intro _ hahead
    omega

variable [StoreContract σ]

theorem send_message_frames (m : Message) (s : Session σ) :
    ((s.send_message m).1 = .ok () ∧ Emits m s (s.send_message m).2) ∨
      ((s.send_message m).1 ≠ .ok () ∧ (s.send_message m).2.wire_trace = s.wire_trace) := by
  rcases send_message_spec m s with ⟨e, herr, h⟩ | ⟨hok, n, w, h⟩
  · refine .inr ⟨by rw [herr]; simp, ?_⟩
    rw [wire_trace_eq_filterMap_book, wire_trace_eq_filterMap_book]
    rcases h.numbers with ⟨hbook, -⟩ | hbook
    · rw [hbook]
    · rw [hbook, List.filterMap_append]
      exact List.append_nil _
  · refine .inl ⟨hok, w, h.number ▸ h.carries, ?_⟩
    rw [wire_trace_eq_filterMap_book, wire_trace_eq_filterMap_book, h.book, List.filterMap_append]
    rfl

theorem emits_iff {m m' : Message} (s s₁ : Session σ) {s' : Session σ} (hid : s₁.cfg = s.cfg)
    (hnext : s₁.next_sender = s.next_sender) (hframes : s₁.wire_trace = s.wire_trace)
    (hsame : s'.wire_trace = (s₁.send_message m').2.wire_trace)
    (h : m = m' ∨ (s₁.send_message m').1 ≠ .ok ()) :
    Emits m s s' ↔ (s₁.send_message m').1 = .ok () := by
  rcases send_message_frames m' s₁ with ⟨hok, w, hcarries, htrace⟩ | ⟨hfail, htrace⟩
  · obtain rfl := h.resolve_right (not_not.mpr hok)
    rw [hid, hnext] at hcarries
    exact iff_of_true ⟨w, hcarries, by rw [hsame, htrace, hframes]⟩ hok
  · refine iff_of_false ?_ hfail
    rintro ⟨w, -, hmore⟩
    rw [hsame, htrace, hframes] at hmore
    exact absurd hmore (by simp)

/-- **A refused SequenceReset**: the connection ends and NextTarget stays; that a Logout goes
out takes a send that succeeds. -/
theorem refused_spec (msg : Message) (reason : Bytes) (s : Session σ) :
    (s.refused msg reason).state = .Disconnected ∧
      (s.refused msg reason).next_target = s.next_target ∧
      (LogsOut s (s.refused msg reason) ↔ CanLogout msg reason s) := by
  have htarget : (s.refused msg reason).next_target = s.next_target :=
    (refuses_logout reason (s.note_inbound msg)).target
  refine ⟨rfl, htarget, ?_⟩
  have hframes : (s.refused msg reason).wire_trace =
      ((s.note_inbound msg).send_message (logout_message reason)).2.wire_trace :=
    wire_trace_of_adds (Outside.adds_emit _ (.inl rfl))
  have hnoted := wire_trace_note_inbound msg s
  constructor
  · rintro ⟨⟨reason', hlogout⟩, -, -⟩
    by_contra hfail
    exact hfail ((emits_iff s (s.note_inbound msg) rfl rfl hnoted hframes (.inr hfail)).mp hlogout)
  · intro hok
    exact ⟨⟨reason, (emits_iff s (s.note_inbound msg) rfl rfl hnoted hframes (.inl rfl)).mpr hok⟩,
      rfl, htarget⟩

theorem target_renumbered (msg : Message) (n : ℕ) (s : Session σ) :
    (s.renumbered msg n).next_target =
      if (set_next_target_seq_num n s.store).1 = .ok () then n else s.next_target := by
  have hmoves := StoreContract.set_next_target_seq_num_moves n s.store
  show next_target_seq_num (set_next_target_seq_num n s.store).2 = _
  rw [Moves] at hmoves
  split at hmoves
  · rename_i hok
    rw [if_pos hok]
    exact congrArg Prod.snd hmoves
  · rename_i herr
    rw [if_neg (by rw [herr]; simp)]
    exact congrArg Prod.snd hmoves

/-- **A GapFill that is ahead**: nothing if a request is out, and else a request if it can be
sent. -/
theorem requested_spec (msg : Message) (s : Session σ) :
    (s.requested msg).next_target = s.next_target ∧
      ((if s.gap.is_open then Unmoved s (s.requested msg) else Requests s (s.requested msg)) ↔
        s.gap.is_open = true ∨
          ((s.note_inbound msg).arm_gap.send_message (resend_request_message s.next_target 0)).1 =
          .ok ()) := by
  have htalks := talks_request_gap s.next_target (s.note_inbound msg)
  refine ⟨htalks.target, ?_⟩
  by_cases hopen : s.gap.is_open = true
  · have hnothing : s.requested msg = s.note_inbound msg := if_pos hopen
    rw [if_pos hopen, hnothing]
    exact iff_of_true (unmoved_note_inbound msg s) (.inl hopen)
  · have hasked : s.requested msg =
        ((s.note_inbound msg).arm_gap.send_message (resend_request_message s.next_target 0)).2 :=
      if_neg hopen
    have harmed : (s.note_inbound msg).arm_gap.wire_trace = s.wire_trace :=
      wire_trace_note_inbound msg s
    have hemits : Emits (resend_request_message s.next_target 0) s (s.requested msg) ↔
        ((s.note_inbound msg).arm_gap.send_message (resend_request_message s.next_target 0)).1 =
        .ok () :=
      emits_iff s (s.note_inbound msg).arm_gap rfl rfl harmed (by rw [hasked]) (.inl rfl)
    rw [if_neg hopen, ← hemits]
    constructor
    · exact fun h => .inr h.request
    · intro h
      exact ⟨h.resolve_left hopen, htalks.state, htalks.target⟩

/-! ## The rules hold when they apply -/

variable {v : ℤ}

theorem cast_to_u64 (hnew : msg.get_int tags.NewSeqNo = some v)
    (h : 0 ≤ v) :
    (to_u64 v : ℤ) = v := by
  have hlt := get_int_lt hnew
  rw [to_u64_of_nonneg h (by omega)]
  exact Int.toNat_of_nonneg h

theorem exceeds_iff (hnew : msg.get_int tags.NewSeqNo = some v) (e : ℤ) :
    Exceeds msg e ↔ e < v := by
  constructor
  · rintro ⟨v', hnew', hlt⟩
    rw [hnew] at hnew'
    exact Option.some.inj hnew' ▸ hlt
  · exact fun hlt => ⟨v, hnew, hlt⟩

theorem not_exceeds_of_none (hnew : msg.get_int tags.NewSeqNo = none) (e : ℤ) :
    ¬Exceeds msg e := by
  rintro ⟨v, hnew', -⟩
  exact absurd (hnew.symm.trans hnew') (by simp)

theorem gap_fill_refused_iff (reason : Bytes)
    (h : msg.poss_dup = false ∨ (msg.seq_num = s.next_target ∧ ¬Exceeds msg s.next_target)) :
    GapFillRule msg s (s.refused msg reason) ↔ CanLogout msg reason s := by
  obtain ⟨-, htarget, hlogout⟩ := refused_spec msg reason s
  have hinvalid : ¬(msg.poss_dup = true ∧ msg.seq_num = s.next_target ∧
      Exceeds msg s.next_target) := by
    rintro ⟨hdup, -, hexceeds⟩
    rcases h with hno | ⟨-, hnot⟩
    · exact absurd (hdup.symm.trans hno) (by simp)
    · exact hnot hexceeds
  rw [← hlogout]
  constructor
  · exact fun hrule => hrule.refuses h
  · intro hlogs
    refine ⟨iff_of_false (not_not.mpr htarget) hinvalid, ?_, fun _ => hlogs, ?_, ?_⟩
    · exact fun v hnew hdup hseq hlt => absurd ⟨hdup, hseq, v, hnew, hlt⟩ hinvalid
    · intro hdup hahead
      rcases h with hno | ⟨hseq, -⟩
      · exact absurd (hdup.symm.trans hno) (by simp)
      · omega
    · intro hdup hbehind
      rcases h with hno | ⟨hseq, -⟩
      · exact absurd (hdup.symm.trans hno) (by simp)
      · omega

theorem gap_fill_renumbered_iff
    (hup : s.state ≠ .Disconnected) (hdup : msg.poss_dup = true)
    (hseq : msg.seq_num = s.next_target) (hnew : msg.get_int tags.NewSeqNo = some v)
    (hlt : s.next_target < to_u64 v) :
    GapFillRule msg s (s.renumbered msg (to_u64 v)) ↔
      0 ≤ v ∧ (set_next_target_seq_num (to_u64 v) s.store).1 = .ok () := by
  have htarget := target_renumbered msg (to_u64 v) s
  constructor
  · intro hrule
    by_cases hneg : 0 ≤ v
    · refine ⟨hneg, ?_⟩
      by_contra hfail
      rw [if_neg hfail] at htarget
      have hcast := cast_to_u64 hnew hneg
      have hexceeds : Exceeds msg s.next_target := (exceeds_iff hnew _).mpr (by omega)
      exact hrule.changes.mpr ⟨hdup, hseq, hexceeds⟩ htarget
    · -- a negative number has to be refused
      have hnot : ¬Exceeds msg s.next_target := fun h => by
        have := (exceeds_iff hnew _).mp h
        omega
      exact absurd (hrule.refuses (.inr ⟨hseq, hnot⟩)).state hup
  · rintro ⟨hneg, hok⟩
    have hcast := cast_to_u64 hnew hneg
    rw [if_pos hok] at htarget
    have hexceeds : Exceeds msg s.next_target := (exceeds_iff hnew _).mpr (by omega)
    refine ⟨iff_of_true (by omega) ⟨hdup, hseq, hexceeds⟩, ?_, ?_, ?_, ?_⟩
    · intro v' hnew' _ _ _
      rw [hnew] at hnew'
      obtain rfl := Option.some.inj hnew'
      exact ⟨by rw [htarget]; exact hcast, rfl⟩
    · rintro (hno | ⟨-, hnot⟩)
      · exact absurd (hdup.symm.trans hno) (by simp)
      · exact absurd hexceeds hnot
    · intro _ hahead
      omega
    · intro _ hbehind
      omega

theorem reset_renumbered_iff
    (hnew : msg.get_int tags.NewSeqNo = some v) (hpos : 0 < v) :
    ResetRule msg s (s.renumbered msg (to_u64 v)) ↔
      v < 1 ∨ v = s.next_target ∨ (set_next_target_seq_num (to_u64 v) s.store).1 = .ok () := by
  have htarget := target_renumbered msg (to_u64 v) s
  have hcast := cast_to_u64 hnew hpos.le
  constructor
  · intro hrule
    have hset : ((s.renumbered msg (to_u64 v)).next_target : ℤ) = v := hrule.becomes v hnew hpos
    split at htarget
    · rename_i hok
      exact .inr (.inr hok)
    · exact .inr (.inl (by omega))
  · intro happlies
    refine ⟨?_, fun hnot => absurd ((exceeds_iff hnew 0).mpr hpos) hnot⟩
    intro v' hnew' _
    rw [hnew] at hnew'
    obtain rfl := Option.some.inj hnew'
    split at htarget
    · omega
    · rename_i hfail
      rcases happlies with hlow | hsame | hok
      · omega
      · omega
      · exact absurd hok hfail

theorem reset_refused (reason : Bytes) (h : ¬Exceeds msg 0) :
    ResetRule msg s (s.refused msg reason) := by
  obtain ⟨hstate, htarget, -⟩ := refused_spec msg reason s
  refine ⟨?_, fun _ => ⟨hstate, htarget⟩⟩
  exact fun v hnew hpos => absurd ⟨v, hnew, hpos⟩ h

theorem gap_fill_ahead_iff (hdup : msg.poss_dup = true)
    (hahead : s.next_target < msg.seq_num) :
    GapFillRule msg s (s.requested msg) ↔
      s.gap.is_open = true ∨
        ((s.note_inbound msg).arm_gap.send_message (resend_request_message s.next_target 0)).1 =
        .ok () := by
  obtain ⟨htarget, hasks⟩ := requested_spec msg s
  have hinvalid : ¬(msg.poss_dup = true ∧ msg.seq_num = s.next_target ∧
      Exceeds msg s.next_target) := by
    rintro ⟨-, hseq, -⟩
    omega
  rw [← hasks]
  constructor
  · exact fun hrule => hrule.ahead hdup hahead
  · intro hasked
    refine ⟨iff_of_false (not_not.mpr htarget) hinvalid, ?_, ?_, fun _ _ => hasked, ?_⟩
    · exact fun v hnew _ hseq hlt => absurd ⟨hdup, hseq, v, hnew, hlt⟩ hinvalid
    · rintro (hno | ⟨hseq, -⟩)
      · exact absurd (hdup.symm.trans hno) (by simp)
      · omega
    · intro _ hbehind
      omega

/-- **A SequenceReset is applied exactly when it is valid**, if and only if what its case calls
for succeeds and no negative NewSeqNo is taken for a large one. -/
theorem sequence_reset_iff (s : Session σ) (msg : Message) (hup : s.state ≠ .Disconnected)
    (hidentity : s.identity_error msg = none) (htype : msg.msg_type = msg_types.SequenceReset) :
    SequenceResetRule msg s (s.call (.message msg)) ↔ Applies msg s := by
  rw [call_sequence_reset hup hidentity htype, sequence_reset, SequenceResetRule, Applies]
  by_cases hfill : GapFill msg
  · -- GapFill mode, in the order of the checks of the source
    rw [if_pos hfill, if_pos hfill, if_pos hfill]
    by_cases hdup : msg.poss_dup = false
    · rw [if_pos hdup, if_pos hdup]
      exact gap_fill_refused_iff _ (.inl hdup)
    rw [if_neg hdup, if_neg hdup]
    have hdup : msg.poss_dup = true := by simpa using hdup
    by_cases hahead : s.next_target < msg.seq_num
    · rw [if_pos hahead, if_pos hahead]
      exact gap_fill_ahead_iff hdup hahead
    rw [if_neg hahead, if_neg hahead]
    by_cases hbehind : msg.seq_num < s.next_target
    · rw [if_pos hbehind, if_pos hbehind]
      exact iff_of_true (gap_fill_behind hdup hbehind) trivial
    rw [if_neg hbehind, if_neg hbehind]
    have hseq : msg.seq_num = s.next_target := by omega
    rcases hnew : msg.get_int tags.NewSeqNo with _ | v
    · exact gap_fill_refused_iff _ (.inr ⟨hseq, not_exceeds_of_none hnew _⟩)
    dsimp only
    by_cases hle : to_u64 v ≤ s.next_target
    · rw [if_pos hle, if_pos hle]
      refine gap_fill_refused_iff _ (.inr ⟨hseq, ?_⟩)
      rw [exceeds_iff hnew]
      by_cases hneg : 0 ≤ v
      · have hcast := cast_to_u64 hnew hneg
        omega
      · omega
    · rw [if_neg hle, if_neg hle]
      exact gap_fill_renumbered_iff hup hdup hseq hnew (by omega)
  · rw [if_neg hfill, if_neg hfill, if_neg hfill]
    rcases hnew : msg.get_int tags.NewSeqNo with _ | v
    · exact iff_of_true (reset_refused _ (not_exceeds_of_none hnew 0)) trivial
    dsimp only
    by_cases hpos : v ≤ 0
    · rw [if_pos hpos]
      refine iff_of_true (reset_refused _ ?_) (.inl (by omega))
      rw [exceeds_iff hnew]
      omega
    · rw [if_neg hpos]
      exact reset_renumbered_iff hnew (by omega)

end Session

/-- A GapFill of the broker from 2 to 5. -/
def broker_fill : Message :=
  broker_message msg_types.SequenceReset 2 [⟨tags.PossDupFlag, ascii "Y"⟩,
    ⟨tags.GapFillFlag, ascii "Y"⟩, ⟨tags.NewSeqNo, ascii "5"⟩]

theorem sequence_reset_iff_fill :
    Session.Applies broker_fill (quiet_session.run [.logon, .message broker_logon]) ∧
    Session.SequenceResetRule broker_fill (quiet_session.run [.logon, .message broker_logon])
      ((quiet_session.run [.logon, .message broker_logon]).call (.message broker_fill)) := by
  have happlies : Session.Applies broker_fill
      (quiet_session.run [.logon, .message broker_logon]) := by
    rw [Session.Applies, if_pos (by decide), if_neg (by decide),
      if_neg (by decide), if_neg (by decide)]
    have hnew : broker_fill.get_int tags.NewSeqNo = some 5 := by decide
    rw [hnew]
    dsimp only
    rw [if_neg (by decide)]
    exact ⟨by decide, rfl⟩
  exact ⟨happlies, (Session.sequence_reset_iff (quiet_session.run [.logon, .message broker_logon])
    broker_fill (by decide) (by decide) (by decide)).mpr happlies⟩

/-- **A negative NewSeqNo is applied.** The session does not log out but expects the last number
that there is. -/
theorem negative_new_seq_no_applied :
    (quiet_session.run [.logon, .message broker_logon]).next_target = 2 ∧
    negative_fill.msg_type = msg_types.SequenceReset ∧ negative_fill.poss_dup = true ∧
    negative_fill.seq_num = 2 ∧ negative_fill.get_int tags.NewSeqNo = some (-1) ∧
    ((quiet_session.run [.logon, .message broker_logon]).call (.message negative_fill)).state =
    .Active ∧
    ((quiet_session.run [.logon, .message broker_logon]).call
      (.message negative_fill)).next_target =
      2 ^ 64 - 1 ∧
    types_sent (quiet_session.run [.logon, .message broker_logon])
      (.message negative_fill) = [] := by
  decide

end FixEngine
