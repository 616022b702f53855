/-
`Replay.lean` -- the replay of a ResendRequest, at both ends.

The replaying side walks over its stored frames with a cursor, the first number not yet
accounted for. Application messages go out again with the tags of a re-send, and everything
between them is covered by GapFills. `Covers` is the shape of the frames that come out: each
one starts at the number at which the one before it ended. `replay_frames_covers` says that
the loop produces such frames, whatever is stored. `absorb_covers` says that a listening
session takes them in one by one, so that the receiver ends at the number behind the window
and has delivered the application messages in it.
-/
import FixEngine.Receive

set_option autoImplicit false

namespace FixEngine

open IMessageStore Decimal MessageBuilder

/-! ## A message with the tags of a re-send -/

section Retag

variable {id : SessionID} {msg m : Message} {n : ℕ} {orig : Bytes}

theorem retag_eq (h : m.get tags.SendingTime = some orig) :
    retag m =
    (m.set_discard tags.PossDupFlag (ascii "Y")).set_discard tags.OrigSendingTime orig := by
  have hkept : (m.set_discard tags.PossDupFlag (ascii "Y")).get tags.SendingTime = some orig := by
    rw [get_set_discard_ne (by decide), h]
  rw [retag, hkept]

theorem get_poss_dup_retag (h : m.get tags.SendingTime = some orig) :
    (retag m).get tags.PossDupFlag = some (ascii "Y") := by
  rw [retag_eq h, get_set_discard_ne (by decide), get_set_discard_self (by decide)]

theorem get_orig_retag (h : m.get tags.SendingTime = some orig) (hclean : clean orig = true) :
    (retag m).get tags.OrigSendingTime = some orig := by
  rw [retag_eq h, get_set_discard_self hclean]

theorem body_fields_retag (h : m.get tags.SendingTime = some orig) :
    body_fields (retag m) = body_fields m := by
  rw [retag_eq h, body_fields_set_discard (by decide), body_fields_set_discard (by decide)]

theorem ReadAs.buildable_retag (h : ReadAs id msg n m) (hmsg : Buildable id msg) :
    Buildable id (retag m) := by
  obtain ⟨t, htime⟩ := h.sending_time
  obtain ⟨hsender, htarget, htype, -, -, -⟩ := buildable_iff.mp hmsg
  have hclean := clean_format_timestamp t
  rw [buildable_iff, get_poss_dup_retag htime, get_orig_retag htime hclean, msg_type_retag,
    body_fields_retag htime, h.msg_type]
  refine ⟨hsender, htarget, htype, ?_, ?_, ?_⟩
  · intro v hv
    rw [← Option.mem_some_iff.mp hv]
    decide
  · intro v hv
    rw [← Option.mem_some_iff.mp hv]
    exact hclean
  · intro f hf
    exact h.clean f (List.mem_of_mem_filter hf)

theorem length_encode_sublist {fs fs' : List Field} (h : fs.Sublist fs') :
    (encode_fields fs).length ≤ (encode_fields fs').length := by
  induction h with
  | slnil => exact le_refl _
  | cons f _ ih =>
    rw [encode_fields_cons, List.length_append]
    omega
  | cons_cons f _ ih =>
    rw [encode_fields_cons, encode_fields_cons, List.length_append, List.length_append]
    omega

theorem ReadAs.own_size_retag (h : ReadAs id msg n m) : own_size (retag m) ≤ own_size msg + 31 := by
  obtain ⟨t, htime⟩ := h.sending_time
  have hbody := length_encode_sublist h.body
  have hdup : (field_bytes ⟨tags.PossDupFlag, ascii "Y"⟩).length = 5 := by decide
  have htag : (to_chars tags.OrigSendingTime.toNat).length = 3 := by decide
  have horig : (field_bytes ⟨tags.OrigSendingTime, format_timestamp t⟩).length = 26 := by
    rw [length_field_bytes, length_format_timestamp, htag]
  rw [own_size, own_size, own_fields, own_fields, get_poss_dup_retag htime,
    get_orig_retag htime (clean_format_timestamp t), msg_type_retag,
    body_fields_retag htime, h.msg_type]
  simp only [Option.map_some, Option.toList_some, encode_fields_cons, encode_fields_append,
    encode_fields_nil, List.length_append, List.length_nil, hdup, horig]
  omega

theorem ReadAs.retag_fits {w w' : Bytes} (h : ReadAs id msg n m) (hw : Carries id msg n w)
    (hlen : w.length ≤ 2 ^ 20 - 128) (hw' : Carries id (retag m) n w') : w'.length ≤ 2 ^ 20 := by
  obtain ⟨L, hL, hlength⟩ := length_of_carries hw
  obtain ⟨L', hL', hlength'⟩ := length_of_carries hw'
  have hsize := h.own_size_retag
  have hdigits : (to_chars L').length ≤ 7 := length_to_chars_le (by decide) (by omega)
  omega

end Retag

/-! ## Frames that cover a window -/

/-- Frames of the session `id` that take a receiver from the number `a` to the number `b`. The
application messages among them are listed with their numbers. -/
inductive Covers (id : SessionID) : ℕ → List Bytes → List (ℕ × Message) → ℕ → Prop where
  | nil (a : ℕ) : Covers id a [] [] a
  | fill {a b up_to : ℕ} {w : Bytes} {ws : List Bytes} {apps : List (ℕ × Message)}
      (hw : Carries id (gap_fill_message up_to) a w) (hlen : w.length ≤ 2 ^ 20) (hlt : a < up_to)
      (h : Covers id up_to ws apps b) : Covers id a (w :: ws) apps b
  | app {a b : ℕ} {msg : Message} {w : Bytes} {ws : List Bytes} {apps : List (ℕ × Message)}
      (hw : Carries id msg a w) (hlen : w.length ≤ 2 ^ 20) (honce : NoRepeats msg)
      (happ : is_admin_msg msg.msg_type = false) (h : Covers id (a + 1) ws apps b) :
      Covers id a (w :: ws) ((a, msg) :: apps) b

theorem Covers.le {id : SessionID} {a b : ℕ} {ws : List Bytes} {apps : List (ℕ × Message)}
    (h : Covers id a ws apps b) : a ≤ b := by
  induction h with
  | nil a => exact le_refl a
  | fill _ _ _ _ ih => omega
  | app _ _ _ _ _ ih => omega

theorem Covers.trans {id : SessionID} {a b c : ℕ} {ws ws' : List Bytes}
    {apps apps' : List (ℕ × Message)} (h : Covers id a ws apps b) (h' : Covers id b ws' apps' c) :
    Covers id a (ws ++ ws') (apps ++ apps') c := by
  induction h with
  | nil a => exact h'
  | fill hw hlen hlt _ ih => exact .fill hw hlen hlt (ih h')
  | app hw hlen honce happ _ ih => exact .app hw hlen honce happ (ih h')

/-- **A listening session takes the window in.** -/
theorem absorb_covers {σ : Type} [IMessageStore σ] [StoreContract σ] {id : SessionID} {a b : ℕ}
    {ws : List Bytes} {apps : List (ℕ × Message)} (h : Covers id a ws apps b) {s : Session σ}
    (hs : s.Listening id) (htarget : s.next_target = a) (hpos : a ≠ 0) (hb : b < 2 ^ 64) :
    ∃ ms, List.Forall₂ (fun app m => ReadAs id app.2 app.1 m) apps ms ∧
      Session.Absorbed id b ms s (ws.foldl (fun s w => s.on_data w) s) := by
  induction h generalizing s with
  | nil a => exact ⟨[], .nil, hs, htarget, rfl, (List.append_nil _).symm⟩
  | @fill a b up_to w ws apps hw hlen hlt h ih =>
    have hle := h.le
    have hone := Session.absorb_gap_fill hs hw hlen htarget hlt (by omega)
    obtain ⟨ms, hread, hrest⟩ := ih hone.listening hone.target (by omega) hb
    exact ⟨ms, hread, hone.trans hrest⟩
  | @app a b msg w ws apps hw hlen honce happ h ih =>
    have hle := h.le
    obtain ⟨m, hm, hone⟩ := Session.absorb_app hs hw hlen htarget hpos (by omega) honce happ
    obtain ⟨ms, hread, hrest⟩ := ih hone.listening hone.target (by omega) hb
    exact ⟨m :: ms, .cons hm hread, hone.trans hrest⟩

/-! ## The replaying side -/

/-- The application message of a stored frame. -/
def stored_app (w : Bytes) : Option Message :=
  (read_stored w).filter fun m => !m.msg_type.isEmpty && !is_admin_msg m.msg_type

/-- The entry of a store that is sent again, with its number. -/
def replayable (e : ℕ × Bytes) : Option (ℕ × Message) := (stored_app e.2).map fun m => (e.1, m)

/-- What a replay up to `last` sends again. -/
def replayed (last : ℕ) (frames : List (ℕ × Bytes)) : List (ℕ × Message) :=
  (frames.filter fun e => e.1 ≤ last).filterMap replayable

/-- An entry of the outbound store: a frame of the send path that leaves room for the tags of a
re-send, or bytes of which the parser makes nothing. -/
def Stored (id : SessionID) (e : ℕ × Bytes) : Prop :=
  read_stored e.2 = none ∨ ∃ msg, Carries id msg e.1 e.2 ∧ e.2.length ≤ 2 ^ 20 - 128

/-- CompIDs that the wire takes and that leave room for a GapFill. -/
structure Addressable (id : SessionID) : Prop where
  sender : clean id.senderCompID = true
  target : clean id.targetCompID = true
  short : id.senderCompID.length + id.targetCompID.length ≤ 2 ^ 20 - 128

theorem gap_fill_fields (up_to : ℕ) : (gap_fill_message up_to).fields =
    [⟨tags.MsgType, msg_types.SequenceReset⟩, ⟨tags.GapFillFlag, ascii "Y"⟩,
    ⟨tags.PossDupFlag, ascii "Y"⟩,
      ⟨tags.NewSeqNo, to_chars_int (to_i64 up_to)⟩] := by
  have hclean : has_invalid_wire_chars (to_chars_int (to_i64 up_to)) = false := by
    simpa [clean] using clean_to_chars_int (to_i64 up_to)
  rw [gap_fill_message, Message.set_int, Message.set_discard_of_clean hclean]
  rfl

theorem own_fields_gap_fill (up_to : ℕ) : own_fields (gap_fill_message up_to) =
    [⟨tags.MsgType, msg_types.SequenceReset⟩, ⟨tags.PossDupFlag, ascii "Y"⟩,
    ⟨tags.GapFillFlag, ascii "Y"⟩,
      ⟨tags.NewSeqNo, to_chars_int (to_i64 up_to)⟩] := by
  rw [own_fields, body_fields, Message.get, Message.get, Message.msg_type, Message.get,
    gap_fill_fields]
  rfl

theorem buildable_gap_fill {id : SessionID} (hsender : clean id.senderCompID = true)
    (htarget : clean id.targetCompID = true) (up_to : ℕ) :
    Buildable id (gap_fill_message up_to) := by
  rw [buildable_iff, body_fields, Message.get, Message.get, Message.msg_type, Message.get,
    gap_fill_fields]
  refine ⟨hsender, htarget, show clean msg_types.SequenceReset = true by decide, ?_,
    fun v hv => absurd (show v ∈ (none : Option Bytes) from hv) (Option.not_mem_none v), ?_⟩
  · intro v hv
    rw [← Option.mem_some_iff.mp hv]
    decide
  · intro f hf
    have hmem : f = ⟨tags.GapFillFlag, ascii "Y"⟩ ∨
        f = ⟨tags.NewSeqNo, to_chars_int (to_i64 up_to)⟩ := by
      have hkept : f ∈ [(⟨tags.GapFillFlag, ascii "Y"⟩ : Field),
        ⟨tags.NewSeqNo, to_chars_int (to_i64 up_to)⟩] := hf
      simpa using hkept
    rcases hmem with rfl | rfl
    · decide
    · exact clean_to_chars_int _

theorem Addressable.gap_fill_fits {id : SessionID} (h : Addressable id) {up_to n : ℕ} {w : Bytes}
    (hw : Carries id (gap_fill_message up_to) n w) (hn : n < 2 ^ 64) (hup_to : up_to < 2 ^ 64) :
    w.length ≤ 2 ^ 20 := by
  obtain ⟨hlo, hhi⟩ := to_i64_range hup_to
  have hnumber := length_to_chars_int_le hlo hhi
  have hshort := h.short
  have htype : (field_bytes ⟨tags.MsgType, msg_types.SequenceReset⟩).length = 5 := by decide
  have hdup : (field_bytes ⟨tags.PossDupFlag, ascii "Y"⟩).length = 5 := by decide
  have hflag : (field_bytes ⟨tags.GapFillFlag, ascii "Y"⟩).length = 6 := by decide
  have htag : (to_chars tags.NewSeqNo.toNat).length = 2 := by decide
  have hsize : own_size (gap_fill_message up_to) ≤ 40 := by
    rw [own_size, own_fields_gap_fill]
    simp only [encode_fields_cons, encode_fields_nil, List.length_append, List.length_nil, htype,
      hdup, hflag]
    rw [length_field_bytes, htag]
    dsimp only
    omega
  exact carries_fits hw hn (by omega)

namespace Session

variable {σ : Type} {s s' s'' : Session σ}

/-- The frames `ws` went out, and the store was not written. -/
structure Replays (ws : List Bytes) (s s' : Session σ) : Prop where
  cfg : s'.cfg = s.cfg
  store : s'.store = s.store
  frames : s'.wire_trace = s.wire_trace ++ ws

theorem Replays.trans {ws ws' : List Bytes} (h : Replays ws s s') (h' : Replays ws' s' s'') :
    Replays (ws ++ ws') s s'' where
  cfg := h'.cfg.trans h.cfg
  store := h'.store.trans h.store
  frames := by rw [h'.frames, h.frames, List.append_assoc]

theorem Replays.of_eq (hcfg : s'.cfg = s.cfg) (hstore : s'.store = s.store)
    (hframes : s'.wire_trace = s.wire_trace) : Replays [] s s' :=
  ⟨hcfg, hstore, by rw [hframes, List.append_nil]⟩

theorem wire_trace_emit_wire_locked (w : Bytes) (s : Session σ) :
    (s.emit_wire_locked w).wire_trace = s.wire_trace ++ [w] := by
  have hemit : (s.emit (.do_send .replayed w)).wire_trace = s.wire_trace ++ [w] := by
    show (s.io.events ++ [Event.do_send .replayed w]).filterMap wire_of = _
    rw [List.filterMap_append]
    rfl
  rw [← hemit]
  exact wire_trace_of_adds (s := s.emit (.do_send .replayed w)) (Outside.adds_audit_frame true w _)

theorem replays_built {msg : Message} {n : ℕ} (h : Buildable s.cfg.id msg) :
    ∃ w, (s.serialize msg n).1 = .ok w ∧ Carries s.cfg.id msg n w ∧
      Replays [w] s ((s.serialize msg n).2.emit_wire_locked w) := by
  have hbuilt : (s.serialize msg n).1 = _ :=
    try_serialize_buildable s.cfg.id msg n (s.io.env.utc s.io.reads) s.builder
  rw [if_pos h] at hbuilt
  refine ⟨_, hbuilt, ⟨_, _, hbuilt⟩, rfl, rfl, ?_⟩
  exact wire_trace_emit_wire_locked _ _

theorem flush_gap_sends {cursor up_to : ℕ} (hlt : cursor < up_to)
    (hb : Buildable s.cfg.id (gap_fill_message up_to)) :
    ∃ w, Carries s.cfg.id (gap_fill_message up_to) cursor w ∧
    (flush_gap up_to (cursor, s)).1 = up_to ∧
      Replays [w] s (flush_gap up_to (cursor, s)).2 := by
  obtain ⟨w, hbuilt, hw, hreplays⟩ := replays_built (n := cursor) hb
  refine ⟨w, hw, ?_⟩
  rw [flush_gap, if_neg (by omega)]
  dsimp only
  rw [hbuilt]
  exact ⟨rfl, hreplays⟩

theorem flush_gap_covers (hid : Addressable s.cfg.id) {cursor up_to : ℕ} (hle : cursor ≤ up_to)
    (hup_to : up_to < 2 ^ 64) :
    ∃ ws, (flush_gap up_to (cursor, s)).1 = up_to ∧ Replays ws s (flush_gap up_to (cursor, s)).2 ∧
      Covers s.cfg.id cursor ws [] up_to := by
  by_cases hall : up_to ≤ cursor
  · obtain rfl : cursor = up_to := by omega
    rw [flush_gap, if_pos hall]
    exact ⟨[], rfl, .of_eq rfl rfl rfl, .nil cursor⟩
  · have hlt : cursor < up_to := by omega
    obtain ⟨w, hw, hcursor, hreplays⟩ :=
      flush_gap_sends hlt (buildable_gap_fill hid.sender hid.target up_to)
    exact ⟨[w], hcursor, hreplays, .fill hw (hid.gap_fill_fits hw (by omega) hup_to) (by omega)
      (.nil up_to)⟩

theorem replay_frames_skip {last cursor n : ℕ} {w : Bytes} (hle : cursor ≤ n) (hin : n ≤ last)
    (hskip : stored_app w = none) (frames : List (ℕ × Bytes)) :
    ∃ s₁, Replays [] s s₁ ∧
      replay_frames last ((n, w) :: frames) (cursor, s) =
      replay_frames last frames (cursor, s₁) := by
  have hcorrupt : Replays [] s { s with resend_corrupt := s.resend_corrupt + 1 } :=
    .of_eq rfl rfl rfl
  rw [replay_frames, if_neg (by omega), if_neg (by omega)]
  rw [stored_app] at hskip
  rcases hread : read_stored w with _ | m
  · exact ⟨_, hcorrupt, rfl⟩
  rw [hread, Option.filter_some] at hskip
  dsimp only
  by_cases hempty : m.msg_type.isEmpty = true
  · rw [if_pos hempty]
    exact ⟨_, hcorrupt, rfl⟩
  · have hadmin : is_admin_msg m.msg_type = true := by
      by_contra hnot
      simp [hempty, hnot] at hskip
    rw [if_neg hempty, if_pos hadmin]
    exact ⟨s, .of_eq rfl rfl rfl, rfl⟩

theorem replay_frames_app (hid : Addressable s.cfg.id) {last cursor n : ℕ} {w : Bytes} {m : Message}
    (hle : cursor ≤ n) (hin : n ≤ last) (hn : n + 1 < 2 ^ 64) (hstored : Stored s.cfg.id (n, w))
    (happ : stored_app w = some m) (frames : List (ℕ × Bytes)) :
    ∃ ws s₁, Replays ws s s₁ ∧ Covers s.cfg.id cursor ws [(n, retag m)] (n + 1) ∧
      replay_frames last ((n, w) :: frames) (cursor, s) =
      replay_frames last frames (n + 1, s₁) := by
  obtain ⟨hread, hkind⟩ := Option.filter_eq_some_iff.mp happ
  rw [Bool.and_eq_true, Bool.not_eq_true', Bool.not_eq_true'] at hkind
  obtain ⟨msg, hcarries, hlen⟩ := hstored.resolve_left (by rw [hread]; simp)
  have hshort : w.length ≤ 2 ^ 20 := hlen.trans (by decide)
  obtain ⟨m', hscan, hm⟩ := carries_read hcarries (by omega) hshort
  obtain rfl : m = m' := Option.some.inj (hread.symm.trans (read_stored_of_scan hscan hshort))
  obtain ⟨ws, hcursor, hfill, hcovers⟩ := flush_gap_covers hid hle (by omega)
  have hcfg := hfill.cfg
  obtain ⟨w', hbuilt, hw', hsent⟩ := replays_built (s := (flush_gap n (cursor, s)).2) (n := n)
    (by rw [hcfg]; exact hm.buildable_retag (.of_carries hcarries))
  rw [hcfg] at hw'
  obtain ⟨t, htime⟩ := hm.sending_time
  have hone : Covers s.cfg.id n [w'] [(n, retag m)] (n + 1) :=
    .app hw' (hm.retag_fits hcarries hlen hw') (hm.once.of_body (body_fields_retag htime))
      (by rw [msg_type_retag]; exact hkind.2) (.nil (n + 1))
  refine ⟨ws ++ [w'], _, hfill.trans hsent, hcovers.trans hone, ?_⟩
  rw [replay_frames, if_neg (by omega), if_neg (by omega), hread]
  dsimp only
  rw [hkind.1, if_neg (by decide), hkind.2, if_neg (by decide), hbuilt]
  dsimp only
  rw [seq_succ_of_lt hn]

/-- **The loop covers the window**, whatever is stored. -/
theorem replay_frames_covers (hid : Addressable s.cfg.id) {last cursor : ℕ}
    (hlast : last + 1 < 2 ^ 64) (hcursor : cursor ≤ last + 1) {frames : List (ℕ × Bytes)}
    (hascending : frames.Pairwise fun e e' => e.1 < e'.1)
    (hframes : ∀ e ∈ frames, Stored s.cfg.id e ∧ cursor ≤ e.1) :
    ∃ ws, (replay_frames last frames (cursor, s)).1 ≤ last + 1 ∧
      Replays ws s (replay_frames last frames (cursor, s)).2 ∧
      Covers s.cfg.id cursor ws ((replayed last frames).map fun app => (app.1, retag app.2))
        (replay_frames last frames (cursor, s)).1 := by
  induction frames generalizing cursor s with
  | nil => exact ⟨[], hcursor, .of_eq rfl rfl rfl, .nil cursor⟩
  | cons e frames ih =>
    obtain ⟨n, w⟩ := e
    obtain ⟨hstored, hle⟩ := hframes (n, w) List.mem_cons_self
    have hbehind : ∀ e ∈ frames, n < e.1 := (List.pairwise_cons.mp hascending).1
    have hrest : ∀ e ∈ frames, Stored s.cfg.id e ∧ cursor ≤ e.1 := fun e he =>
      hframes e (List.mem_cons_of_mem _ he)
    have htail := (List.pairwise_cons.mp hascending).2
    by_cases hout : last < n
    · -- the window ends here, and nothing behind it counts
      have hnone : replayed last ((n, w) :: frames) = [] := by
        rw [replayed, List.filter_eq_nil_iff.mpr]
        · rfl
        · intro e he
          rcases List.mem_cons.mp he with rfl | he
          · simpa using hout
          · have hlater := hbehind e he
            simp only [decide_eq_true_eq]
            omega
      rw [replay_frames, if_neg (by omega), if_pos hout, hnone]
      exact ⟨[], hcursor, .of_eq rfl rfl rfl, .nil cursor⟩
    have hin : n ≤ last := by omega
    rcases happ : stored_app w with _ | m
    · obtain ⟨s₁, hskipped, hloop⟩ := replay_frames_skip (s := s) hle hin happ frames
      have hnone : replayed last ((n, w) :: frames) = replayed last frames := by
        simp [replayed, hin, replayable, happ]
      have hcfg := hskipped.cfg
      obtain ⟨ws, hend, hreplays, hcovers⟩ := ih (s := s₁) (hcfg ▸ hid) hcursor htail (hcfg ▸ hrest)
      rw [hloop, hnone]
      exact ⟨ws, hend, hskipped.trans hreplays, hcfg ▸ hcovers⟩
    · obtain ⟨ws, s₁, hsent, hone, hloop⟩ :=
        replay_frames_app hid hle hin (by omega) hstored happ frames
      have hcons : replayed last ((n, w) :: frames) = (n, m) :: replayed last frames := by
        simp [replayed, hin, replayable, happ]
      have hcfg := hsent.cfg
      have hlater : ∀ e ∈ frames, Stored s₁.cfg.id e ∧ n + 1 ≤ e.1 := fun e he =>
        ⟨hcfg ▸ (hrest e he).1, hbehind e he⟩
      obtain ⟨ws', hend, hreplays, hcovers⟩ := ih (s := s₁) (hcfg ▸ hid) (by omega) htail hlater
      rw [hloop, hcons]
      exact ⟨ws ++ ws', hend, hsent.trans hreplays, hone.trans (hcfg ▸ hcovers)⟩

theorem Replays.locked {α : Type} {ws : List Bytes} {body : Session σ → α × Session σ}
    (h : Replays ws { s with io := s.io.acquire }
      (body { s with io := s.io.acquire }).2) : Replays ws s (s.locked body).2 where
  cfg := h.cfg
  store := h.store
  frames := by
    rw [← show _ = s.wire_trace ++ ws from h.frames]
    exact wire_trace_of_adds (Outside.adds_drain_pending_errors _)

theorem replay_nothing (first last : ℕ) (hlt : first < seq_succ last)
    (hb : Buildable s.cfg.id (gap_fill_message (seq_succ last))) :
    ∃ w, Carries s.cfg.id (gap_fill_message (seq_succ last)) first w ∧
    Replays [w] s (s.replay first last []) := by
  obtain ⟨w, hw, -, hreplays⟩ :=
    flush_gap_sends (s := { s with io := s.io.acquire }) hlt hb
  exact ⟨w, hw, .locked hreplays⟩

/-- **The replay covers the window.** -/
theorem replay_covers (hid : Addressable s.cfg.id) {first last : ℕ} (hfirst : first ≤ last)
    (hlast : last + 1 < 2 ^ 64) {frames : List (ℕ × Bytes)}
    (hascending : frames.Pairwise fun e e' => e.1 < e'.1)
    (hframes : ∀ e ∈ frames, Stored s.cfg.id e ∧ first ≤ e.1) :
    ∃ ws, Replays ws s (s.replay first last frames) ∧
      Covers s.cfg.id first ws ((replayed last frames).map fun app => (app.1, retag app.2))
        (last + 1) := by
  obtain ⟨ws, hend, hreplays, hcovers⟩ := replay_frames_covers
    (s := { s with io := s.io.acquire }) hid hlast (by omega) hascending hframes
  obtain ⟨ws', hcursor, hflush, hrest⟩ := flush_gap_covers
    (s := (replay_frames last frames (first, { s with io := s.io.acquire })).2)
    (by rw [hreplays.cfg]; exact hid) hend hlast
  rw [hreplays.cfg] at hrest
  refine ⟨ws ++ ws', .locked ?_, ?_⟩
  · rw [seq_succ_of_lt hlast]
    exact hreplays.trans hflush
  · have hboth := hcovers.trans hrest
    rwa [List.append_nil] at hboth

end Session

/-! ## Both ends -/

/-- EndSeqNo, where zero stands for everything. -/
def requested_end (msg : Message) : ℕ := ((msg.get_int tags.EndSeqNo).map to_u64).getD 0

/-- The last number of a replay. -/
def resolved_end (last next_sender : ℕ) : ℕ :=
  if last = 0 ∨ next_sender ≤ last then next_sender - 1 else last

/-- `d` is the stored message `app.2`, sent again under its number `app.1`. -/
structure Resent (app : ℕ × Message) (d : Message) : Prop where
  msg_type : d.msg_type = app.2.msg_type
  seq_num : d.seq_num = app.1
  poss_dup : d.poss_dup = true
  orig_sending_time : d.get tags.OrigSendingTime = app.2.get tags.SendingTime
  body : body_fields d = body_fields app.2

namespace Session

theorem handle_resend_request_eq {s : Session MemoryStore} (msg : Message) {b : ℤ}
    (hbegin : msg.get_int tags.BeginSeqNo = some b) (hpos : 1 ≤ b) (hle : to_u64 b ≤ s.next_sender)
    (hwindow : to_u64 b ≤ resolved_end (requested_end msg) s.next_sender) :
    s.handle_resend_request msg =
      (s.guarded (.on_resend_request (to_u64 b) (requested_end msg))).replay (to_u64 b)
        (resolved_end (requested_end msg) s.next_sender)
        (s.store.outbound.range (to_u64 b) (walk_end (requested_end msg) s.store.outbound)) := by
  have hknown : ¬(s.guarded (.on_resend_request (to_u64 b) (requested_end msg))).next_sender <
      to_u64 b := by
    show ¬s.next_sender < to_u64 b
    omega
  rw [handle_resend_request, hbegin]
  dsimp only
  rw [if_neg (by omega)]
  exact (if_neg hknown).trans (if_neg (not_lt.mpr hwindow))

theorem filter_range {m : OrdMap ℕ Bytes} {next : ℕ} (hnext : ∀ e ∈ m.entries, e.1 < next)
    (first last : ℕ) :
    (m.range first (walk_end last m)).filter (fun e => e.1 ≤ resolved_end last next) =
      m.range first (resolved_end last next) := by
  rw [OrdMap.range_eq_filter, OrdMap.range_eq_filter, List.filter_filter]
  apply List.filter_congr
  intro e he
  have hlt := hnext e he
  have hwalk : first ≤ e.1 → e.1 ≤ resolved_end last next → e.1 ≤ walk_end last m := by
    intro _ hle
    rw [walk_end]
    rw [resolved_end] at hle
    by_cases hall : last = 0
    · obtain ⟨k, hk, hek⟩ := OrdMap.le_last_key he
      rw [if_pos hall, hk]
      exact hek
    · rw [if_neg hall]
      split at hle
      · omega
      · exact hle
  rw [Bool.eq_iff_iff]
  simp only [Bool.and_eq_true, decide_eq_true_eq]
  tauto

theorem resent_of_read {id : SessionID} {msg m d : Message} {n : ℕ} (hm : ReadAs id msg n m)
    (hd : ReadAs id (retag m) n d) : Resent (n, m) d := by
  obtain ⟨t, htime⟩ := hm.sending_time
  refine ⟨?_, hd.seq_num, ?_, ?_, ?_⟩
  · rw [hd.msg_type, msg_type_retag]
  · rw [hd.poss_dup, Message.poss_dup, get_poss_dup_retag htime]
    decide
  · rw [hd.own _ (.inr (.inl rfl)), get_orig_retag htime (clean_format_timestamp t), htime]
  · rw [(hd.unique (hm.once.of_body (body_fields_retag htime))).2, body_fields_retag htime]

theorem read_of_replayed {id : SessionID} {last : ℕ} {frames : List (ℕ × Bytes)}
    (hframes : ∀ e ∈ frames, e.1 < 2 ^ 64 ∧ Stored id e) {app : ℕ × Message}
    (happ : app ∈ replayed last frames) :
    ∃ msg, ReadAs id msg app.1 app.2 := by
  obtain ⟨⟨n, w⟩, he, hreplay⟩ := List.mem_filterMap.mp happ
  obtain ⟨hlt, hstored⟩ := hframes _ (List.mem_of_mem_filter he)
  obtain ⟨m, hm, rfl⟩ := Option.map_eq_some_iff.mp hreplay
  obtain ⟨hread, -⟩ := Option.filter_eq_some_iff.mp hm
  obtain ⟨msg, hcarries, hlen⟩ := hstored.resolve_left (by rw [hread]; simp)
  have hshort : w.length ≤ 2 ^ 20 := hlen.trans (by decide)
  obtain ⟨m', hscan, hm'⟩ := carries_read hcarries hlt hshort
  obtain rfl : m = m' := Option.some.inj (hread.symm.trans (read_stored_of_scan hscan hshort))
  exact ⟨msg, hm'⟩

/-- **Replay is complete and exact.** A session answers a ResendRequest for a window of its
numbers; a listening peer that expects the first of them takes the frames in. -/
theorem replay_complete_and_exact {τ : Type} [IMessageStore τ] [StoreContract τ]
    (s : Session MemoryStore) (hid : Addressable s.cfg.id) (hnext : s.next_sender < 2 ^ 64)
    (hstore : ∀ e ∈ s.store.outbound.entries, 1 ≤ e.1 ∧ e.1 < s.next_sender ∧ Stored s.cfg.id e)
    (msg : Message) {b : ℕ} (hbegin : msg.get_int tags.BeginSeqNo = some (b : ℤ)) (hpos : 1 ≤ b)
    (hb : b < s.next_sender)
    (hend : requested_end msg = 0 ∨ s.next_sender ≤ requested_end msg ∨ b ≤ requested_end msg)
    (peer : Session τ) (hpeer : peer.Listening s.cfg.id) (htarget : peer.next_target = b) :
    ∃ ws ds,
      (s.handle_resend_request msg).wire_trace = s.wire_trace ++ ws ∧
      (s.handle_resend_request msg).store = s.store ∧
      (ws.foldl (fun p w => p.on_data w) peer).state = .Active ∧
      (ws.foldl (fun p w => p.on_data w) peer).next_target =
        resolved_end (requested_end msg) s.next_sender + 1 ∧
      (ws.foldl (fun p w => p.on_data w) peer).wire_trace = peer.wire_trace ∧
      (ws.foldl (fun p w => p.on_data w) peer).deliveries = peer.deliveries ++ ds ∧
      List.Forall₂ Resent
        ((s.store.outbound.range b (resolved_end (requested_end msg) s.next_sender)).filterMap
          replayable) ds := by
  have hvalue : to_u64 (b : ℤ) = b := by
    rw [to_u64]
    omega
  have hlast : resolved_end (requested_end msg) s.next_sender < s.next_sender := by
    rw [resolved_end]
    split <;> omega
  have hwindow : b ≤ resolved_end (requested_end msg) s.next_sender := by
    rw [resolved_end]
    split <;> omega
  have heq := handle_resend_request_eq (s := s) msg hbegin (by omega) (by omega) (by omega)
  rw [hvalue] at heq
  have hwalk := filter_range (fun e he => (hstore e he).2.1) b (requested_end msg)
  generalize resolved_end (requested_end msg) s.next_sender = r at *
  generalize hframes :
    s.store.outbound.range b (walk_end (requested_end msg) s.store.outbound) = frames at *
  have hascending : frames.Pairwise fun e e' => e.1 < e'.1 := hframes ▸ OrdMap.range_ascending _ _ _
  have hentries : ∀ e ∈ frames, e ∈ s.store.outbound.entries ∧ b ≤ e.1 := by
    intro e he
    rw [← hframes] at he
    exact (OrdMap.mem_range.mp he).imp id And.left
  -- the frames that go out, and what the peer makes of them
  obtain ⟨ws, hreplays, hcovers⟩ := replay_covers
    (s := s.guarded (.on_resend_request b (requested_end msg))) hid hwindow (by omega) hascending
    fun e he => ⟨(hstore e (hentries e he).1).2.2, (hentries e he).2⟩
  obtain ⟨ds, hread, habsorbed⟩ := absorb_covers hcovers hpeer htarget (by omega) (by omega)
  rw [← heq] at hreplays
  refine ⟨ws, ds, ?_, hreplays.store, habsorbed.listening.state, habsorbed.target, habsorbed.frames,
    habsorbed.deliveries, ?_⟩
  · rw [hreplays.frames, wire_trace_guarded s rfl]
  · rw [← hwalk]
    have hstored : ∀ app ∈ replayed r frames, ∃ msg, ReadAs s.cfg.id msg app.1 app.2 :=
      fun app happ =>
      read_of_replayed (fun e he => ⟨by have := (hstore e (hentries e he).1).2.1; omega,
        (hstore e (hentries e he).1).2.2⟩) happ
    have hboth := (List.forall₂_and_left _ _).mpr ⟨hstored, List.forall₂_map_left_iff.mp hread⟩
    refine hboth.imp ?_
    rintro app d ⟨⟨m₀, hm⟩, hd⟩
    exact resent_of_read hm hd

end Session

/-- The client in a session with the broker, with this store. -/
def client_with (st : MemoryStore) : Session MemoryStore :=
  { quiet_session with state := .Active, store := st }

/-- The broker in a session with the client. -/
def broker_session : Session MemoryStore :=
  { quiet_session with
    cfg := { quiet_config with
      initiator := false
      id := { version := .FIX_4_2, senderCompID := ascii "BROKER", targetCompID := ascii "CLIENT"
              qualifier := [] } }
    state := .Active }

/-- A request for everything from the first number on. -/
def request_all : Message := resend_request_message 1 0

def order_frame : Bytes :=
  build (ascii "FIX.4.2") (encode_fields (emitted_fields order 2 (ascii "CLIENT") (ascii "BROKER")
    (format_timestamp midnight)))

/-- The client has sent three messages. The first is not stored, the third is torn. -/
def client_store : MemoryStore :=
  ⟨4, 1, (OrdMap.empty.insert 2 order_frame).insert 3 (ascii "8=FIX.4.2"), .empty⟩

theorem broker_listening : broker_session.Listening (client_with client_store).cfg.id :=
  ⟨rfl, ⟨rfl, rfl, rfl⟩, rfl, ⟨rfl, rfl, rfl, rfl⟩, healthy_memory_store _⟩

/-- The broker asks for all three messages. -/
theorem replay_complete_and_exact_order :
    (client_with client_store).next_sender = 4 ∧ broker_session.next_target = 1 ∧
      ∃ ws d,
        ((client_with client_store).handle_resend_request request_all).wire_trace = ws ∧
        (ws.foldl (fun p w => p.on_data w) broker_session).next_target = 4 ∧
        (ws.foldl (fun p w => p.on_data w) broker_session).deliveries = [d] ∧
        ∃ stored, stored_app order_frame = some stored ∧ Resent (2, stored) d := by
  have hstored : ∀ e ∈ client_store.outbound.entries,
      1 ≤ e.1 ∧ e.1 < 4 ∧ Stored (client_with client_store).cfg.id e := by
    intro e he
    have hentry : e = (2, order_frame) ∨ e = (3, ascii "8=FIX.4.2") := by
      have hmem : e ∈ [(2, order_frame), (3, ascii "8=FIX.4.2")] := he
      simpa using hmem
    rcases hentry with rfl | rfl
    · exact ⟨by decide, by decide,
        .inr ⟨order, ⟨midnight, {}, by decide +kernel⟩, by decide +kernel⟩⟩
    · exact ⟨by decide, by decide, .inl (by decide)⟩
  have hid : Addressable (client_with client_store).cfg.id := ⟨by decide, by decide, by decide⟩
  obtain ⟨ws, ds, hframes, -, -, htarget, -, hdeliveries, hresent⟩ :=
    Session.replay_complete_and_exact (client_with client_store) hid (by decide) hstored request_all
      (b := 1) (by decide) (by decide) (by decide)
        (.inl (by decide)) broker_session broker_listening rfl
  obtain ⟨stored, hsome⟩ : ∃ stored, stored_app order_frame = some stored :=
    Option.isSome_iff_exists.mp (by decide +kernel)
  have hwindow : (client_store.outbound.range 1 3).filterMap replayable = [(2, stored)] := by
    have htorn : stored_app (ascii "8=FIX.4.2") = none := by decide
    show [(2, order_frame), (3, ascii "8=FIX.4.2")].filterMap replayable = _
    simp [replayable, hsome, htorn]
  have hresent : List.Forall₂ Resent ((client_store.outbound.range 1 3).filterMap replayable) ds :=
    hresent
  rw [hwindow] at hresent
  obtain ⟨d, ds, hd, hnil, rfl⟩ := List.forall₂_cons_left_iff.mp hresent
  rw [List.forall₂_nil_left_iff.mp hnil] at hdeliveries
  exact ⟨rfl, rfl, ws, d, hframes, htarget, hdeliveries, stored, hsome, hd⟩

/-- CompIDs with which a Logon is one byte short of the parser's limit. -/
def long_id : SessionID :=
  { version := .FIX_4_2, senderCompID := List.replicate (2 ^ 20 - 84) 65, targetCompID := ascii "B"
    qualifier := [] }

/-- Two established sessions with such CompIDs. The client has sent its Logon, which is not
stored. -/
def long_client : Session MemoryStore :=
  { client_with ⟨2, 1, .empty, .empty⟩ with cfg := { quiet_config with id := long_id } }

def long_broker : Session MemoryStore :=
  { broker_session with
    cfg := { quiet_config with
      initiator := false
      id := { version := .FIX_4_2, senderCompID := long_id.targetCompID
              targetCompID := long_id.senderCompID, qualifier := [] } } }

theorem length_long_id : long_id.senderCompID.length = 2 ^ 20 - 84 := List.length_replicate

theorem clean_long_id : clean long_id.senderCompID = true :=
  clean_replicate (by decide) (by decide) _

/-- **A GapFill may not fit where a Logon does.** The Logon of the client is within the limit of
the parser; the GapFill that answers a ResendRequest is not, and the broker's parser skips it. -/
theorem long_comp_id_not_filled :
    (∀ w, Carries long_id (logon_message quiet_config 30) 1 w → w.length ≤ 2 ^ 20) ∧
      long_broker.Listening long_client.cfg.id ∧ long_broker.next_target = 1 ∧
      long_client.store.outbound.entries = [] ∧
      request_all.get_int tags.BeginSeqNo = some 1 ∧
      resolved_end (requested_end request_all) long_client.next_sender = 1 ∧
      ∃ w, (long_client.handle_resend_request request_all).wire_trace = [w] ∧
        (long_broker.on_data w).next_target = 1 := by
  have hlong := length_long_id
  have htarget : long_id.targetCompID.length = 1 := show (ascii "B").length = 1 by decide
  have hversion : long_id.version.to_string.length = 7 :=
    show FixVersion.FIX_4_2.to_string.length = 7 by decide
  have hnumber : (to_chars_int (to_i64 1)).length = 1 := by decide
  refine ⟨?_, ⟨rfl, ⟨rfl, rfl, rfl⟩, rfl, ⟨rfl, rfl, rfl, rfl⟩, healthy_memory_store _⟩, rfl,
    rfl, by decide,
    by decide, ?_⟩
  · intro w hw
    obtain ⟨L, hL, hlength⟩ := length_of_carries hw
    have hsize : own_size (logon_message quiet_config 30) = 17 := by decide
    have hdigits : (to_chars L).length ≤ 7 := length_to_chars_le (by decide) (by omega)
    omega
  · have hbuildable : Buildable long_client.cfg.id (gap_fill_message 2) :=
      buildable_gap_fill clean_long_id (show clean (ascii "B") = true by decide) 2
    have heq := Session.handle_resend_request_eq (s := long_client) request_all (b := 1) (by decide)
      (by decide) (by decide) (by decide)
    have hwindow : resolved_end (requested_end request_all) long_client.next_sender = 1 := by decide
    have hall : requested_end request_all = 0 := by decide
    have hfirst : to_u64 1 = 1 := by decide
    rw [hwindow, hall, hfirst,
      show OrdMap.range 1 _ long_client.store.outbound = [] from rfl] at heq
    obtain ⟨w, hw, hsent⟩ :=
      Session.replay_nothing (s := long_client.guarded (.on_resend_request 1 0)) 1 1
      (by decide) hbuildable
    rw [← heq] at hsent
    refine ⟨w, ?_, ?_⟩
    · rw [hsent.frames, Session.wire_trace_guarded _ rfl]
      rfl
    · have hw : Carries long_id (gap_fill_message 2) 1 w := hw
      obtain ⟨L, hL, hlength⟩ := length_of_carries hw
      have hsize : own_size (gap_fill_message 2) = 21 := by decide
      have hdigits : (to_chars L).length ≤ 7 := length_to_chars_le (by decide) (by omega)
      have hmillion : (to_chars 1000000).length ≤ (to_chars L).length :=
        length_to_chars_mono (by omega)
      have hseven : (to_chars 1000000).length = 7 := by decide
      obtain ⟨time, b, hser⟩ := hw
      have hscan := scan_serialized_oversized {} hser (by omega) (by omega) (by decide)
        (show 2 ^ 20 < w.length by omega)
      rw [Session.on_data_skipped ⟨rfl, rfl, rfl, rfl⟩ hscan (by omega) (by omega)]
      rfl

end FixEngine
