/-
`Receivable.lean` -- which of the frames that `Session::send` hands over can be
received.

`send` asks of a message only that its values have no NUL and no SOH. The parser on
the other side, and the one that the resend replay reads stored frames with, also
limits the length of a frame and flags a standard-header tag that occurs twice.
`carries_received_iff` compares the two conditions, for every way to cut the frame
into `feed` calls: a frame of the send path is received exactly if it is within the
default limit and its message repeats no such tag.
-/
import FixEngine.Conservation
import FixEngine.View

set_option autoImplicit false

namespace FixEngine

open FixEngine.Decimal FixEngine.Incremental MessageBuilder

/-! ## One frame on a stream -/

section Parse

variable {opts : StreamParserOptions} {ops : List ParserOp}

theorem parse_all_limited (hc : Capped opts) (ops : List ParserOp) :
    ∀ m ∈ (parse_all opts ops).2, m.raw.length ≤ opts.max_msg_len := by
  rw [parse_all_got]
  exact (at_rest_run ops (.inl hc)).limited hc.pos

/-- **A frame cut in any way is read as it is read in one piece.** -/
theorem parse_all_frame {m : Message}
    (hscan : scan_frame opts (stream ops) = .ok (m, (stream ops).length))
    (hsize : (stream ops).length < 2 ^ 63)
    (hmax : opts.max_msg_len = 0 ∨ (stream ops).length ≤ opts.max_msg_len)
    (hcap : opts.buf_cap = 0 ∨ (stream ops).length ≤ opts.buf_cap) :
    (parse_all opts ops).2 = [m] := by
  have hwhole : stream ops = stream [.feed (stream ops)] := (List.append_nil _).symm
  have hfeed :=
    StreamParser.feed_frame (p := StreamParser.create opts) rfl rfl hscan (by omega) hcap
  rw [(parse_all_chunking opts ops [.feed (stream ops)] hwhole hsize hmax).1, parse_all_got]
  show [] ++ ((StreamParser.create opts).feed (stream ops)).pending = [m]
  rw [hfeed]
  rfl

end Parse

/-! ## The frames of the send path -/

/-- The parser made one message of the frame `w`, and did not flag it. -/
def Received (w : Bytes) (got : List Message) : Prop :=
  ∃ m, got = [m] ∧ m.raw = w ∧ m.duplicate_header = false

/-- The length of the frame in which the session `id` sends `msg` under the number `n`. -/
def frame_length (id : SessionID) (msg : Message) (n : ℕ) : ℕ :=
  let body := own_size msg + id.senderCompID.length + id.targetCompID.length
    + (to_chars_int (to_i64 n)).length + 37
  id.version.to_string.length + (to_chars body).length + body + 13

section Frame

variable {id : SessionID} {msg : Message} {n : ℕ} {w : Bytes}

theorem length_eq_frame_length (h : Carries id msg n w) : w.length = frame_length id msg n := by
  obtain ⟨_, rfl, hw⟩ := length_of_carries h
  exact hw

theorem carries_scanned (h : Carries id msg n w) (hlen : w.length ≤ 2 ^ 20) :
    ∃ m, scan_frame {} w = .ok (m, w.length) ∧ m.raw = w ∧
      (m.duplicate_header = false ↔ NoRepeats msg) := by
  obtain ⟨time, b, hser⟩ := h
  have hshort : id.version.to_string.length ≤ 61 := (length_version_le id.version).trans (by decide)
  refine ⟨_, scan_serialized {} hser hshort (by omega) (.inr hlen), rfl, ?_⟩
  rw [← repeated_emitted_iff msg n id.senderCompID id.targetCompID (format_timestamp time), decoded,
    Bool.not_eq_false', List.isEmpty_iff]

/-- **What is received of a frame**, however it is cut. -/
theorem carries_received_iff (h : Carries id msg n w) {ops : List ParserOp}
    (hops : stream ops = w) :
    Received w (parse_all {} ops).2 ↔ w.length ≤ 2 ^ 20 ∧ NoRepeats msg := by
  have hc : Capped {} := ⟨by decide, by decide⟩
  subst hops
  by_cases hlen : (stream ops).length ≤ 2 ^ 20
  · obtain ⟨m, hscan, hraw, hunique⟩ := carries_scanned h hlen
    have hcap : (stream ops).length ≤ ({} : StreamParserOptions).buf_cap := by
      rw [hc.buf_cap_eq]
      exact hlen.trans (Nat.le_add_right _ _)
    have hgot := parse_all_frame hscan (by omega) (.inr hlen) (.inr hcap)
    rw [and_iff_right hlen, ← hunique, hgot]
    constructor
    · rintro ⟨m', hm', -, hflag⟩
      rw [List.singleton_inj.mp hm']
      exact hflag
    · intro hflag
      exact ⟨m, rfl, hraw, hflag⟩
  · -- whatever is read in the claimed body, it is not the frame
    refine iff_of_false ?_ fun h => hlen h.1
    rintro ⟨m, hm, hraw, -⟩
    apply hlen
    rw [← hraw]
    exact parse_all_limited hc ops m (hm ▸ List.mem_singleton_self m)

end Frame

/-! ## The session -/

namespace Session

variable {σ : Type} [IMessageStore σ] [StoreContract σ]

theorem send_hands_over {s : Session σ} {msg : Message} (hok : (s.send msg).1 = .ok ()) :
    ∃ w, Carries s.cfg.id msg s.next_sender w ∧
      (s.send msg).2.wire_trace = s.wire_trace ++ [w] := by
  rw [send] at hok ⊢
  split at hok
  · simp at hok
  · rename_i hactive
    rw [if_neg hactive]
    rcases send_message_spec msg s with ⟨e, herr, -⟩ | ⟨-, n, w, hsent⟩
    · rw [herr] at hok
      simp at hok
    · refine ⟨w, hsent.number ▸ hsent.carries, ?_⟩
      rw [wire_trace_eq_filterMap_book, wire_trace_eq_filterMap_book, hsent.book,
        List.filterMap_append]
      rfl

/-- **What a session sends and its counterpart can receive.** For every message that `send`
accepts, its frame is handed over; a default parser receives it, however it is cut, exactly
if the frame has at most 1 MiB and the message repeats no standard-header tag. -/
theorem sent_received_iff {s : Session σ} {msg : Message} (hok : (s.send msg).1 = .ok ()) :
    ∃ w, (s.send msg).2.wire_trace = s.wire_trace ++ [w] ∧
      ∀ ops, stream ops = w →
        (Received w (parse_all {} ops).2 ↔
          frame_length s.cfg.id msg s.next_sender ≤ 2 ^ 20 ∧ NoRepeats msg) := by
  obtain ⟨w, hcarries, htrace⟩ := send_hands_over hok
  refine ⟨w, htrace, fun ops hops => ?_⟩
  rw [← length_eq_frame_length hcarries]
  exact carries_received_iff hcarries hops

end Session

/-- The client in a session with the broker. -/
def active_session : Session MemoryStore := { quiet_session with state := .Active }

/-- An order with a short text is received. -/
theorem sent_received_short :
    (active_session.send (text_order (ascii "all or none"))).1 = .ok () ∧
      ∃ w, (active_session.send (text_order (ascii "all or none"))).2.wire_trace =
          active_session.wire_trace ++ [w] ∧
        ∀ ops, stream ops = w →
          (Received w (parse_all {} ops).2 ↔
            frame_length active_session.cfg.id (text_order (ascii "all or none"))
                active_session.next_sender ≤ 2 ^ 20 ∧
              NoRepeats (text_order (ascii "all or none"))) :=
  have hok : (active_session.send (text_order (ascii "all or none"))).1 = .ok () := by decide
  ⟨hok, Session.sent_received_iff hok⟩

/-- An order for two desks of the sender. -/
def two_desks : Message :=
  { fields := [⟨tags.MsgType, ascii "D"⟩, ⟨tags.SenderSubID, ascii "DESK1"⟩,
    ⟨tags.SenderSubID, ascii "DESK2"⟩] }

section Long

variable {text : Bytes}

theorem buildable_text_order (h : clean text = true) :
    Buildable active_session.cfg.id (text_order text) := by
  rw [buildable_iff]
  have htype : (text_order text).msg_type = ascii "D" := rfl
  refine ⟨by decide, by decide, by rw [htype]; decide, nofun, nofun, ?_⟩
  intro f hf
  obtain rfl : f = ⟨tags.Text, text⟩ := List.mem_singleton.mp hf
  exact h

theorem length_le_own_size : text.length ≤ own_size (text_order text) := by
  have hown : own_fields (text_order text) = [⟨tags.MsgType, ascii "D"⟩, ⟨tags.Text, text⟩] := rfl
  rw [own_size, hown, encode_fields_cons, encode_fields_cons, List.length_append,
    List.length_append, length_field_bytes ⟨tags.Text, text⟩]
  dsimp only
  omega

theorem long_order_not_received (hclean : clean text = true) (hlong : 2 ^ 20 ≤ text.length) :
    (active_session.send (text_order text)).1 = .ok () ∧
      ∃ w, (active_session.send (text_order text)).2.wire_trace = active_session.wire_trace ++ [w] ∧
        ∀ ops, stream ops = w → ¬Received w (parse_all {} ops).2 := by
  have hsend := Session.send_message_view (s := active_session) (healthy_memory_store _) (by decide)
    (text_order text)
  rw [if_pos (buildable_text_order hclean)] at hsend
  have hok : (active_session.send (text_order text)).1 = .ok () := hsend.1
  obtain ⟨w, hcarries, htrace⟩ := Session.send_hands_over hok
  refine ⟨hok, w, htrace, fun ops hops hreceived => ?_⟩
  have hlen := ((carries_received_iff hcarries hops).mp hreceived).1
  obtain ⟨L, hL, hw⟩ := length_of_carries hcarries
  have hown : text.length ≤ own_size (text_order text) := length_le_own_size
  omega

end Long

/-- A text of 1 MiB. -/
def long_text : Bytes := List.replicate (2 ^ 20) 65

theorem clean_long_text : clean long_text = true := clean_replicate (by decide) (by decide) _

/-- The order for two desks is sent, and flagged where it arrives. The order with the long text
is sent, and no counterpart receives it. -/
theorem sent_not_received :
    ((active_session.send two_desks).1 = .ok () ∧
      ((active_session.send two_desks).2.wire_trace.map fun w =>
        (parse_all {} [.feed w]).2.map fun m => (decide (m.raw = w), m.duplicate_header)) =
          [[(true, true)]]) ∧
    ((active_session.send (text_order long_text)).1 = .ok () ∧
      ∃ w, (active_session.send (text_order long_text)).2.wire_trace =
      active_session.wire_trace ++ [w] ∧
        ∀ ops, stream ops = w → ¬Received w (parse_all {} ops).2) :=
  ⟨⟨by decide +kernel, by decide +kernel⟩,
    long_order_not_received clean_long_text List.length_replicate.ge⟩

end FixEngine
