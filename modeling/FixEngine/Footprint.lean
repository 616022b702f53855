/-
`Footprint.lean` -- what a part of a session says and which store operations it uses.

Most of what the functions of a session do is of no consequence for the protocol:
reports, audit entries, notifications, administrative frames. `Footprint E R s s'`
says that on the way from `s` to `s'` only minor events and events in `E` were
emitted, and that the store was used only by the operations in `R`. Footprints
compose, so each function has one lemma here, and what a call of the session may do
is assembled from these in `SessionStep.lean`.

`SenderStep` are the store operations that leave NextTarget alone.
-/
import FixEngine.SessionSend
import FixEngine.RoundTrip

set_option autoImplicit false

namespace FixEngine

open IMessageStore Decimal

/-! ## The type of a frame -/

/-- The bytes behind the first field. -/
def skip_field (w : Bytes) : Bytes :=
  match parse_field w with
  | .Ok _ _ n => w.drop n
  | _ => []

/-- The MsgType of a frame: the value of its third field. -/
def frame_type (w : Bytes) : Option Bytes :=
  match parse_field (skip_field (skip_field w)) with
  | .Ok tag value _ => if tag = tags.MsgType then some value else none
  | _ => none

/-- Behind the bytes of a field stands what follows it. -/
theorem skip_field_bytes (f : RawField) (rest : Bytes) : skip_field (f.bytes ++ rest) = rest := by
  rw [skip_field, parse_field_bytes]
  exact List.drop_left

/-- **A frame has the type of the message it was built of.** -/
theorem frame_type_of_carries {id : SessionID} {msg : Message} {n : ℕ} {w : Bytes}
    (h : Carries id msg n w) : frame_type w = some msg.msg_type := by
  obtain ⟨t, b, hw⟩ := h
  obtain ⟨hbegin, hclean, rfl⟩ := try_serialize_ok hw
  obtain ⟨rest, hrest⟩ : ∃ rest, emitted_fields msg n id.senderCompID id.targetCompID
      (format_timestamp t) = ⟨tags.MsgType, msg.msg_type⟩ :: rest := ⟨_, rfl⟩
  rw [hrest] at hclean ⊢
  generalize hbody : encode_fields (⟨tags.MsgType, msg.msg_type⟩ :: rest) = body
  have htype : SOH ∉ msg.msg_type := (clean_iff.1 (hclean _ List.mem_cons_self)).2
  have hlength : SOH ∉ to_chars body.length := by
    intro hmem
    exact absurd (is_digit_of_mem_to_chars hmem) (by decide)
  -- the first two fields, and what is behind them
  have hsplit : MessageBuilder.build id.version.to_string body =
      (RawField.of_field ⟨tags.BeginString, id.version.to_string⟩ (clean_iff.1 hbegin).2).bytes ++
        ((RawField.of_field ⟨tags.BodyLength, to_chars body.length⟩ hlength).bytes ++
          (body ++ (ascii "10=" ++ zero_pad 3
            (compute_checksum (MessageBuilder.pre_cs id.version.to_string body)).toNat ++
              [SOH]))) := by
    rw [RawField.bytes_of_field, RawField.bytes_of_field]
    have h8 : to_chars (UInt32.toNat tags.BeginString) = ascii "8" := by decide
    have h9 : to_chars (UInt32.toNat tags.BodyLength) = ascii "9" := by decide
    simp only [field_bytes, h8, h9, MessageBuilder.build, MessageBuilder.pre_cs, ascii,
      List.append_assoc, List.cons_append, List.nil_append]
    rfl
  rw [frame_type, hsplit, skip_field_bytes, skip_field_bytes, ← hbody, encode_fields_cons,
    ← RawField.bytes_of_field _ htype, List.append_assoc, parse_field_bytes]
  have htag : (RawField.of_field ⟨tags.MsgType, msg.msg_type⟩ htype).tag = tags.MsgType :=
    congrArg Field.tag (RawField.field_of_field ⟨tags.MsgType, msg.msg_type⟩ htype)
  exact if_pos htag

/-- The frame has an administrative MsgType. -/
def AdminFrame (w : Bytes) : Prop := ∃ mt, frame_type w = some mt ∧ is_admin_msg mt = true

/-! ## Store operations that leave NextTarget alone -/

/-- The operations with which a session sends and reads, and notes what it received. -/
inductive SenderStep {σ : Type} [IMessageStore σ] : σ → σ → Prop where
  | claim (st : σ) : SenderStep st (next_sender_seq_num_incr st).2
  | give_back (n : ℕ) (st : σ) : SenderStep st (set_next_sender_seq_num n st).2
  | store_outbound (n : ℕ) (raw : Bytes) (st : σ) : SenderStep st (store_outbound n raw st).2
  | store_inbound (n : ℕ) (raw : Bytes) (st : σ) : SenderStep st (store_inbound n raw st).2
  | read (first last : ℕ) (st : σ) : SenderStep st (get_messages first last st).2

/-- Those with which it sends. -/
inductive PostStep {σ : Type} [IMessageStore σ] : σ → σ → Prop where
  | claim (st : σ) : PostStep st (next_sender_seq_num_incr st).2
  | give_back (n : ℕ) (st : σ) : PostStep st (set_next_sender_seq_num n st).2
  | store_outbound (n : ℕ) (raw : Bytes) (st : σ) : PostStep st (store_outbound n raw st).2

theorem PostStep.sender {σ : Type} [IMessageStore σ] {st st' : σ} (h : PostStep st st') :
    SenderStep st st' := by
  cases h with
  | claim => exact .claim st
  | give_back n => exact .give_back n st
  | store_outbound n raw => exact .store_outbound n raw st

section Target

variable {σ : Type} [IMessageStore σ] [StoreContract σ] {st st' : σ}

theorem SenderStep.target (h : SenderStep st st') :
    next_target_seq_num st' = next_target_seq_num st := by
  -- a move of the counters that keeps the second one, whether it succeeds or not
  have hmoves : ∀ {α : Type} {r : Result α × σ} {f : α → ℕ × ℕ}, Moves st r f →
      (∀ a, (f a).2 = next_target_seq_num st) →
      next_target_seq_num r.2 = next_target_seq_num st := by
    intro α r f hm hf
    rw [Moves] at hm
    split at hm
    · exact (congrArg Prod.snd hm).trans (hf _)
    · exact congrArg Prod.snd hm
  cases h with
  | claim => exact hmoves (StoreContract.next_sender_seq_num_incr_moves st) fun _ => rfl
  | give_back n => exact hmoves (StoreContract.set_next_sender_seq_num_moves n st) fun _ => rfl
  | store_outbound n raw => exact congrArg Prod.snd (StoreContract.store_outbound_seqs n raw st)
  | store_inbound n raw => exact congrArg Prod.snd (StoreContract.store_inbound_seqs n raw st)
  | read first last => exact congrArg Prod.snd (StoreContract.get_messages_seqs first last st)

/-- Sender steps keep the expected number. -/
theorem target_of_run (h : Relation.ReflTransGen SenderStep st st') :
    next_target_seq_num st' = next_target_seq_num st := by
  induction h with
  | refl => rfl
  | tail _ hstep ih => exact hstep.target.trans ih

end Target

/-! ## Events -/

/-- The events that nothing in the protocol hangs on. -/
def Event.minor : Event → Bool
  | .do_send _ _ => false
  | .on_logon => false
  | .on_message _ => false
  | .store_reset => false
  | _ => true

/-- A frame in `F` is handed over. -/
def Sends (F : Origin → Bytes → Prop) (e : Event) : Prop :=
  ∃ origin w, e = .do_send origin w ∧ F origin w

/-- Only administrative frames are handed over. -/
def SendsAdmin : Event → Prop := Sends fun _ w => AdminFrame w

/-- Minor events and events in `E` were emitted. -/
def Outside.Adds (E : Event → Prop) (o o' : Outside) : Prop :=
  ∃ more, o'.events = o.events ++ more ∧ ∀ e ∈ more, e.minor = true ∨ E e

namespace Outside

variable {E E' : Event → Prop} {o o₁ o₂ : Outside}

/-- Nothing was emitted. -/
theorem Adds.of_eq (h : o₁.events = o.events) : Adds E o o₁ :=
  ⟨[], by rw [h, List.append_nil], by simp⟩

theorem Adds.trans (h : Adds E o o₁) (h' : Adds E o₁ o₂) : Adds E o o₂ := by
  obtain ⟨more, hevents, hmore⟩ := h
  obtain ⟨more', hevents', hmore'⟩ := h'
  refine ⟨more ++ more', ?_, ?_⟩
  · rw [hevents', hevents, List.append_assoc]
  · intro e he
    exact (List.mem_append.mp he).elim (hmore e) (hmore' e)

/-- More events may be allowed. -/
theorem Adds.mono (h : Adds E o o₁) (hE : ∀ e, E e → E' e) : Adds E' o o₁ := by
  obtain ⟨more, hevents, hmore⟩ := h
  exact ⟨more, hevents, fun e he => (hmore e he).imp id (hE e)⟩

/-- One event that is minor or allowed. -/
theorem adds_emit (o : Outside) {e : Event} (h : e.minor = true ∨ E e) : Adds E o (o.emit e) := by
  refine ⟨[e], rfl, ?_⟩
  intro e' he
  rw [List.mem_singleton.mp he]
  exact h

/-- A report is minor, also if it is only kept. -/
theorem adds_report (what : Bytes) (o : Outside) : Adds E o (o.report what) := by
  simp only [report]
  split
  · split
    · exact .of_eq rfl
    · exact .of_eq rfl
  · exact adds_emit _ (.inl rfl)

/-- The reports that were kept are minor too. -/
theorem adds_drain_pending_errors (o : Outside) : Adds E o o.drain_pending_errors := by
  refine ⟨o.pending_errors.map fun what => .on_error what o.send_owner, rfl, ?_⟩
  intro e he
  obtain ⟨what, _, rfl⟩ := List.mem_map.mp he
  exact .inl rfl

theorem adds_guarded (o : Outside) {e : Event} (h : e.minor = true ∨ E e) :
    Adds E o (o.guarded e) := by
  rw [guarded]
  split
  · exact adds_emit o h
  · have hemit : Adds E o (o.emit e).tick := adds_emit o h
    exact hemit.trans (adds_report _ _)

theorem adds_audit_frame (outbound : Bool) (raw : Bytes) (o : Outside) :
    Adds E o (o.audit_frame outbound raw) := by
  rw [audit_frame]
  split
  · exact .of_eq rfl
  · split
    · exact adds_emit o (.inl rfl)
    · have htick : Adds E o o.tick := .of_eq rfl
      exact htick.trans (adds_report _ _)

end Outside

/-! ## Footprints -/

namespace Session

section Footprint

variable {σ : Type}

/-- From `s` to `s'` only minor events and events in `E` were emitted, and the store was
used only by operations in `R`. -/
structure Footprint (E : Event → Prop) (R : σ → σ → Prop) (s s' : Session σ) : Prop where
  store : Relation.ReflTransGen R s.store s'.store
  events : s.io.Adds E s'.io

variable {E E' : Event → Prop} {R R' : σ → σ → Prop} {s s₁ s₂ : Session σ}

/-- Footprints compose. -/
theorem Footprint.trans (h : Footprint E R s s₁) (h' : Footprint E R s₁ s₂) : Footprint E R s s₂ :=
  ⟨h.store.trans h'.store, h.events.trans h'.events⟩

theorem Footprint.mono (h : Footprint E R s s₁) (hE : ∀ e, E e → E' e)
    (hR : ∀ st st', R st st' → R' st st') : Footprint E' R' s s₁ :=
  ⟨Relation.ReflTransGen.mono hR _ _ h.store, h.events.mono hE⟩

/-- The store was not used. -/
theorem Footprint.of_adds (hstore : s₁.store = s.store) (h : s.io.Adds E s₁.io) :
    Footprint E R s s₁ :=
  ⟨hstore ▸ .refl, h⟩

/-- Neither the store nor the outside was touched. -/
theorem Footprint.of_eq (hstore : s₁.store = s.store) (h : s₁.io.events = s.io.events) :
    Footprint E R s s₁ :=
  .of_adds hstore (.of_eq h)

theorem footprint_disconnect (s : Session σ) : Footprint E R s s.disconnect :=
  .of_adds rfl (Outside.adds_emit s.io (.inl rfl))

end Footprint

variable {σ : Type} [IMessageStore σ]

/-- A footprint of sending that keeps the state. -/
structure Talks (E : Event → Prop) (s s' : Session σ) : Prop where
  footprint : Footprint E SenderStep s s'
  state : s'.state = s.state

variable {E E' : Event → Prop} {s s₁ s₂ : Session σ}

/-- Two stretches of talk are one. -/
theorem Talks.trans (h : Talks E s s₁) (h' : Talks E s₁ s₂) : Talks E s s₂ :=
  ⟨h.footprint.trans h'.footprint, h'.state.trans h.state⟩

/-- More events may be allowed. -/
theorem Talks.mono (h : Talks E s s₁) (hE : ∀ e, E e → E' e) : Talks E' s s₁ :=
  ⟨h.footprint.mono hE fun _ _ h => h, h.state⟩

/-- Neither the state nor the store was touched. -/
theorem Talks.of_adds (hstate : s₁.state = s.state) (hstore : s₁.store = s.store)
    (h : s.io.Adds E s₁.io) : Talks E s s₁ :=
  ⟨.of_adds hstore h, hstate⟩

/-- Nor was anything said. -/
theorem Talks.of_eq (hstate : s₁.state = s.state) (hstore : s₁.store = s.store)
    (h : s₁.io.events = s.io.events) : Talks E s s₁ :=
  ⟨.of_eq hstore h, hstate⟩

/-- Talk does not move the number that is expected next. -/
theorem Talks.target [StoreContract σ] (h : Talks E s s₁) : s₁.next_target = s.next_target :=
  target_of_run h.footprint.store

/-! ### Sending -/

/-- To report an error is talk. -/
theorem talks_report (what : Bytes) (s : Session σ) : Talks E s (s.report what) :=
  .of_adds rfl rfl (Outside.adds_report what s.io)

/-- So is a guarded callback, if its event is minor or allowed. -/
theorem talks_guarded (s : Session σ) {e : Event} (h : e.minor = true ∨ E e) :
    Talks E s (s.guarded e) :=
  .of_adds rfl rfl (Outside.adds_guarded s.io h)

/-- What is done under the send lock is the talk of its body; the reports that were kept are
told behind it. -/
theorem talks_locked {α : Type} {body : Session σ → α × Session σ} (s : Session σ)
    (h : Talks E { s with io := s.io.acquire }
      (body { s with io := s.io.acquire }).2) : Talks E s (s.locked body).2 := by
  have hlock : Talks E s { s with io := s.io.acquire } := .of_eq rfl rfl rfl
  exact (hlock.trans h).trans (.of_adds rfl rfl (Outside.adds_drain_pending_errors _))

/-- A footprint of a send. -/
structure Posts (E : Event → Prop) (s s' : Session σ) : Prop where
  footprint : Footprint E PostStep s s'
  state : s'.state = s.state

/-- Two sends in a row. -/
theorem Posts.trans (h : Posts E s s₁) (h' : Posts E s₁ s₂) : Posts E s s₂ :=
  ⟨h.footprint.trans h'.footprint, h'.state.trans h.state⟩

/-- A send is talk. -/
theorem Posts.talks (h : Posts E s s₁) : Talks E s s₁ :=
  ⟨h.footprint.mono (fun _ he => he) fun _ _ hstep => hstep.sender, h.state⟩

theorem posts_abort_send (n : ℕ) (s : Session σ) : Posts E s (s.abort_send n) := by
  refine ⟨⟨.single (.give_back n s.store), ?_⟩, rfl⟩
  rw [abort_send]
  dsimp only
  split
  · exact .of_eq rfl
  · exact (Outside.adds_emit s.io (.inl rfl)).trans (Outside.adds_report _ _)

/-- The frames of `msg` that the session `id` sends. -/
def FrameOfMessage (id : SessionID) (msg : Message) (origin : Origin) (w : Bytes) : Prop :=
  ∃ n, origin = .sent n ∧ Carries id msg n w

/-- **A send hands over at most frames of its message.** -/
theorem posts_send_message_locked (msg : Message) (s : Session σ) :
    Posts (Sends (FrameOfMessage s.cfg.id msg)) s (s.send_message_locked msg).2 := by
  have hclaimed : ∀ n, Posts (Sends (FrameOfMessage s.cfg.id msg)) s (s.build_claimed msg n).2 :=
    fun n => ⟨⟨.single (.claim s.store), .of_eq rfl⟩, rfl⟩
  have houtcome := send_message_locked_outcome msg s
  generalize s.send_message_locked msg = r at houtcome ⊢
  cases houtcome with
  | refused hclaim => exact ⟨⟨.single (.claim s.store), .of_eq rfl⟩, rfl⟩
  | unbuilt hclaim hwire => exact (hclaimed _).trans (posts_abort_send _ _)
  | @unstored n w e hclaim hwire hstore =>
    refine (hclaimed n).trans (Posts.trans ?_ (posts_abort_send _ _))
    exact ⟨⟨.single (.store_outbound n w _), .of_eq rfl⟩, rfl⟩
  | @handed_over n w hclaim hwire hstore =>
    have hframe : Sends (FrameOfMessage s.cfg.id msg) (.do_send (.sent n) w) :=
      ⟨_, _, rfl, n, rfl, ⟨_, _, hwire⟩⟩
    refine (hclaimed n).trans ⟨⟨.single (.store_outbound n w _), ?_⟩, rfl⟩
    refine Outside.Adds.trans ?_ (Outside.adds_audit_frame true w _)
    exact (Outside.adds_emit _ (.inl rfl)).trans (Outside.adds_emit _ (.inr hframe))

/-- The send path is talk about frames of its message. -/
theorem talks_send_message_locked (msg : Message) (s : Session σ) :
    Talks (Sends (FrameOfMessage s.cfg.id msg)) s (s.send_message_locked msg).2 :=
  (posts_send_message_locked msg s).talks

/-- So is `send_message`, which takes the lock for it. -/
theorem talks_send_message (msg : Message) (s : Session σ) :
    Talks (Sends (FrameOfMessage s.cfg.id msg)) s (s.send_message msg).2 :=
  talks_locked s (talks_send_message_locked msg { s with io := s.io.acquire })

/-- A frame of an administrative message is administrative. -/
theorem sends_admin_of_frame {id : SessionID} {msg : Message} (h : is_admin_msg msg.msg_type = true)
    (e : Event) (he : Sends (FrameOfMessage id msg) e) : SendsAdmin e := by
  obtain ⟨origin, w, rfl, n, _, hcarries⟩ := he
  exact ⟨origin, w, rfl, _, frame_type_of_carries hcarries, h⟩

/-- Sending an administrative message. -/
theorem talks_send_admin {msg : Message} (h : is_admin_msg msg.msg_type = true) (s : Session σ) :
    Talks SendsAdmin s (s.send_message msg).2 :=
  (talks_send_message msg s).mono (sends_admin_of_frame h)

/-! ### Administrative messages -/

end Session

section MsgType

variable (m : Message) (tag : TagNum)

theorem msg_type_set_discard (h : tag ≠ tags.MsgType) (v : Bytes) :
    (m.set_discard tag v).msg_type = m.msg_type := by
  rcases hv : has_invalid_wire_chars v with _ | _
  · rw [Message.set_discard_of_clean hv, Message.msg_type, Message.msg_type, Message.get,
      Message.get, lookup_upsert_ne h]
  · rw [Message.set_discard_of_invalid hv]

/-- Setting a number keeps the type. -/
theorem msg_type_set_int (h : tag ≠ tags.MsgType) (v : ℤ) :
    (m.set_int tag v).msg_type = m.msg_type :=
  msg_type_set_discard m tag h _

/-- So does a field that is left out when it is empty. -/
theorem msg_type_set_nonempty (h : tag ≠ tags.MsgType) (v : Bytes) :
    (set_nonempty m tag v).msg_type = m.msg_type := by
  rw [set_nonempty]
  split
  · rfl
  · exact msg_type_set_discard m tag h v

end MsgType

theorem msg_type_logon (cfg : SessionConfig) (hb : ℤ) :
    (logon_message cfg hb).msg_type = msg_types.Logon := by
  rw [logon_message]
  rw [msg_type_set_nonempty _ _ (by decide), msg_type_set_nonempty _ _ (by decide),
    msg_type_set_nonempty _ _ (by decide)]
  split
  · rw [msg_type_set_discard _ _ (by decide), msg_type_set_int _ _ (by decide),
      msg_type_set_int _ _ (by decide)]
    rfl
  · rw [msg_type_set_int _ _ (by decide), msg_type_set_int _ _ (by decide)]
    rfl

/-- The type of a Logout. -/
theorem msg_type_logout (reason : Bytes) : (logout_message reason).msg_type = msg_types.Logout :=
  msg_type_set_nonempty _ _ (by decide) _

/-- The type of a Heartbeat. -/
theorem msg_type_heartbeat (id : Bytes) : (heartbeat_message id).msg_type = msg_types.Heartbeat :=
  msg_type_set_nonempty _ _ (by decide) _

/-- The type of a TestRequest. -/
theorem msg_type_test_request (id : Bytes) :
    (test_request_message id).msg_type = msg_types.TestRequest :=
  msg_type_set_discard _ _ (by decide) _

/-- The type of a ResendRequest. -/
theorem msg_type_resend_request (first last : ℕ) :
    (resend_request_message first last).msg_type = msg_types.ResendRequest := by
  rw [resend_request_message, msg_type_set_int _ _ (by decide), msg_type_set_int _ _ (by decide)]
  rfl

/-- A GapFill is a SequenceReset. -/
theorem msg_type_gap_fill (up_to : ℕ) :
    (gap_fill_message up_to).msg_type = msg_types.SequenceReset := by
  rw [gap_fill_message, msg_type_set_int _ _ (by decide), msg_type_set_discard _ _ (by decide),
    msg_type_set_discard _ _ (by decide)]
  rfl

/-- A re-send has the type of the stored message. -/
theorem msg_type_retag (stored : Message) : (retag stored).msg_type = stored.msg_type := by
  rw [retag]
  split
  · rw [msg_type_set_discard _ _ (by decide), msg_type_set_discard _ _ (by decide)]
  · exact msg_type_set_discard _ _ (by decide) _

theorem msg_type_reject (ref_seq : ℕ) (reason : SessionRejectReason) (ref_msg_type : Bytes)
    (ref_tag : TagNum) (text : Bytes) :
    (reject_message ref_seq reason ref_msg_type ref_tag text).msg_type = msg_types.Reject := by
  rw [reject_message]
  rw [msg_type_set_nonempty _ _ (by decide)]
  split
  · rw [msg_type_set_nonempty _ _ (by decide), msg_type_set_int _ _ (by decide),
      msg_type_set_int _ _ (by decide)]
    rfl
  · rw [msg_type_set_int _ _ (by decide), msg_type_set_nonempty _ _ (by decide),
      msg_type_set_int _ _ (by decide), msg_type_set_int _ _ (by decide)]
    rfl

namespace Session

variable {σ : Type} [IMessageStore σ]

/-- A Heartbeat is administrative talk. -/
theorem talks_send_heartbeat (id : Bytes) (s : Session σ) :
    Talks SendsAdmin s (s.send_heartbeat id) :=
  talks_send_admin (by rw [msg_type_heartbeat]; decide) s

/-- So is a TestRequest. -/
theorem talks_send_test_request (s : Session σ) : Talks SendsAdmin s s.send_test_request := by
  have harm : Talks SendsAdmin s s.arm_test_request := .of_eq rfl rfl rfl
  exact harm.trans (talks_send_admin (by rw [msg_type_test_request]; decide) _)

/-- So is a ResendRequest. -/
theorem talks_send_resend_request (first last : ℕ) (s : Session σ) :
    Talks SendsAdmin s (s.send_resend_request first last) :=
  talks_send_admin (by rw [msg_type_resend_request]; decide) s

/-- So is a Reject. -/
theorem talks_send_reject (ref_seq : ℕ) (reason : SessionRejectReason) (ref_msg_type : Bytes)
    (ref_tag : TagNum) (text : Bytes) (s : Session σ) :
    Talks SendsAdmin s (s.send_reject ref_seq reason ref_msg_type ref_tag text) :=
  talks_send_admin (by rw [msg_type_reject]; decide) s

/-- So is the Logout that answers one. -/
theorem talks_send_logout_echo (s : Session σ) : Talks SendsAdmin s s.send_logout_echo :=
  talks_send_admin (by rw [msg_type_logout]; decide) s

theorem footprint_send_logout (reason : Bytes) (s : Session σ) :
    Footprint SendsAdmin SenderStep s (s.send_logout reason) :=
  (talks_send_admin (by rw [msg_type_logout]; decide) s).footprint.trans (.of_eq rfl rfl)

theorem state_send_logout (reason : Bytes) (s : Session σ) :
    (s.send_logout reason).state = if s.state = .Disconnected then .Disconnected
    else .LogoutSent := by
  have hstate := (talks_send_message (logout_message reason) s).state
  show (if (s.send_message (logout_message reason)).2.state = .Disconnected then _ else _) = _
  rw [hstate]

/-- Nothing was consumed: administrative frames went out, and the session may have been
disconnected. -/
structure Refuses (s s' : Session σ) : Prop where
  footprint : Footprint SendsAdmin SenderStep s s'
  state : s'.state = s.state ∨ s'.state = .Disconnected

/-- Administrative talk consumes nothing. -/
theorem Talks.refuses {s s' : Session σ} (h : Talks SendsAdmin s s') : Refuses s s' :=
  ⟨h.footprint, .inl h.state⟩

/-- Neither do two refusals in a row. -/
theorem Refuses.trans {s s₁ s₂ : Session σ} (h : Refuses s s₁) (h' : Refuses s₁ s₂) :
    Refuses s s₂ := by
  refine ⟨h.footprint.trans h'.footprint, ?_⟩
  rcases h'.state with hsame | hdown
  · rw [hsame]
    exact h.state
  · exact .inr hdown

/-- **A refusal leaves NextTarget where it is.** -/
theorem Refuses.target [StoreContract σ] {s s' : Session σ} (h : Refuses s s') :
    s'.next_target = s.next_target :=
  target_of_run h.footprint.store

/-- A Logout with its reason, and the end of the connection. -/
theorem refuses_logout (reason : Bytes) (s : Session σ) :
    Refuses s (s.send_logout reason).disconnect :=
  ⟨(footprint_send_logout reason s).trans (footprint_disconnect _), .inr rfl⟩

/-- To close the connection consumes nothing. -/
theorem refuses_disconnect (s : Session σ) : Refuses s s.disconnect :=
  ⟨footprint_disconnect s, .inr rfl⟩

theorem talks_notify_logout {E : Event → Prop} (reason : Bytes) (s : Session σ) :
    Talks E s (s.notify_logout reason) := by
  rw [notify_logout]
  split
  · exact .of_eq rfl rfl rfl
  · exact Talks.of_adds rfl rfl (Outside.adds_guarded s.io (.inl rfl))

/-! ### Handlers -/

/-- A gap is asked for with a ResendRequest, or has been before. -/
theorem talks_request_gap (first : ℕ) (s : Session σ) :
    Talks SendsAdmin s (s.request_gap first) := by
  rw [request_gap]
  split
  · exact .of_eq rfl rfl rfl
  · have hopen : Talks SendsAdmin s
        { s with gap := ⟨true, s.io.clock_now, 1⟩, io := s.io.tick } := .of_eq rfl rfl rfl
    exact hopen.trans (talks_send_resend_request _ _ _)

theorem validate_seq_num_cases (msg : Message) (s : Session σ) :
    (s.validate_seq_num msg = (true, s) ∧ msg.seq_num = s.next_target) ∨
      ((s.validate_seq_num msg).1 = false ∧ Refuses s (s.validate_seq_num msg).2) := by
  rw [validate_seq_num]
  split
  · exact .inr ⟨rfl, (talks_send_reject _ _ _ _ _ s).refuses⟩
  split
  · have hgap : Talks SendsAdmin s (s.guarded (.on_sequence_gap s.next_target msg.seq_num)) :=
      talks_guarded s (.inl rfl)
    exact .inr ⟨rfl, (hgap.trans (talks_request_gap _ _)).refuses⟩
  split
  · split
    · exact .inr ⟨rfl, (Talks.of_eq rfl rfl rfl).refuses⟩
    · exact .inr ⟨rfl, refuses_logout _ s⟩
  · rename_i hhigh hlow
    exact .inl ⟨rfl, by omega⟩

theorem talks_store_inbound {E : Event → Prop} (msg : Message) (what : Bytes) (s : Session σ) :
    Talks E s (s.store_inbound msg what) := by
  refine ⟨⟨.single (.store_inbound _ _ s.store), ?_⟩, rfl⟩
  rw [store_inbound]
  dsimp only
  split
  · exact .of_eq rfl
  · exact Outside.adds_report _ _

/-- A Logout is answered, or ends the session that waited for it, and nothing is consumed by its
handler. -/
theorem refuses_handle_logout (msg : Message) (s : Session σ) :
    Refuses s (s.handle_logout msg) := by
  rw [handle_logout]
  have hnotify : ∀ s' : Session σ, Refuses s s' →
      Refuses s (s'.notify_logout ((msg.get tags.Text).getD [])) :=
    fun s' h => h.trans (talks_notify_logout _ _).refuses
  apply hnotify
  split
  · exact ⟨.trans (.of_eq rfl rfl) (footprint_disconnect _), .inr rfl⟩
  · exact (talks_send_logout_echo s).refuses.trans (refuses_disconnect _)

/-- A Heartbeat says nothing and touches no store. -/
theorem talks_handle_heartbeat {E : Event → Prop} (msg : Message) (s : Session σ) :
    Talks E s (s.handle_heartbeat msg) := by
  rw [handle_heartbeat]
  split
  · exact .of_eq rfl rfl rfl
  · exact .of_eq rfl rfl rfl

theorem refuses_handle_reject (msg : Message) (s : Session σ) :
    Refuses s (s.handle_reject msg) := by
  rw [handle_reject]
  split
  · exact (talks_notify_logout _ s).refuses.trans (refuses_disconnect _)
  · exact (talks_guarded s (.inl rfl)).refuses

/-- Any frames at all. -/
def SendsAny : Event → Prop := Sends fun _ _ => True

/-- Administrative frames are frames. -/
theorem sends_any_of_admin (e : Event) (h : SendsAdmin e) : SendsAny e := by
  obtain ⟨origin, w, he, _⟩ := h
  exact ⟨origin, w, he, trivial⟩

/-- A stored frame that is handed over again. -/
theorem talks_emit_wire_locked (w : Bytes) (s : Session σ) :
    Talks SendsAny s (s.emit_wire_locked w) := by
  refine .of_adds rfl rfl (Outside.Adds.trans ?_ (Outside.adds_audit_frame true w _))
  exact Outside.adds_emit _ (.inr ⟨_, _, rfl, trivial⟩)

theorem talks_flush_gap (up_to cursor : ℕ) (s : Session σ) :
    Talks SendsAny s (flush_gap up_to (cursor, s)).2 := by
  have hbuilt : Talks SendsAny s (s.serialize (gap_fill_message up_to) cursor).2 :=
    .of_eq rfl rfl rfl
  rw [flush_gap]
  dsimp only
  split
  · exact .of_eq rfl rfl rfl
  · split
    · exact hbuilt.trans (talks_report _ _)
    · exact hbuilt.trans (talks_emit_wire_locked _ _)

/-- **The replay of stored frames** changes no state and uses no store. -/
theorem talks_replay_frames (range_end : ℕ) (frames : List (ℕ × Bytes)) (cursor : ℕ)
    (s : Session σ) :
    Talks SendsAny s (replay_frames range_end frames (cursor, s)).2 := by
  have hcount : ∀ s : Session σ,
      Talks SendsAny s { s with resend_corrupt := s.resend_corrupt + 1 } :=
    fun s => .of_eq rfl rfl rfl
  -- the induction follows the loop, one stored frame at a time
  induction frames generalizing cursor s with
  | nil => exact .of_eq rfl rfl rfl
  | cons frame frames ih =>
    obtain ⟨seq, wire⟩ := frame
    rw [replay_frames]
    split
    · exact ih cursor s
    split
    · exact .of_eq rfl rfl rfl
    split
    · rename_i stored _
      split
      · exact (hcount s).trans (ih cursor _)
      split
      · exact ih cursor s
      · have hfill := talks_flush_gap seq cursor s
        dsimp only
        generalize flush_gap seq (cursor, s) = filled at hfill ⊢
        have hbuilt : Talks SendsAny s (filled.2.serialize (retag stored) seq).2 :=
          hfill.trans (.of_eq rfl rfl rfl)
        generalize filled.2.serialize (retag stored) seq = built at hbuilt ⊢
        split
        · exact (hbuilt.trans (talks_emit_wire_locked _ built.2)).trans (ih _ _)
        · exact ((hbuilt.trans (hcount built.2)).trans (talks_flush_gap _ _ _)).trans (ih _ _)
    · exact (hcount s).trans (ih cursor _)

theorem talks_replay (first range_end : ℕ) (frames : List (ℕ × Bytes)) (s : Session σ) :
    Talks SendsAny s (s.replay first range_end frames) := by
  apply talks_locked
  exact (talks_replay_frames range_end frames first _).trans (talks_flush_gap _ _ _)

/-- **A ResendRequest changes no state**, and of the store it only reads. -/
theorem talks_handle_resend_request (msg : Message) (s : Session σ) :
    Talks SendsAny s (s.handle_resend_request msg) := by
  have hreject : ∀ (s : Session σ) (ref_seq : ℕ) (reason : SessionRejectReason) (mt : Bytes)
      (tag : TagNum) (text : Bytes), Talks SendsAny s (s.send_reject ref_seq reason mt tag text) :=
    fun s ref_seq reason mt tag text =>
      (talks_send_reject ref_seq reason mt tag text s).mono sends_any_of_admin
  rw [handle_resend_request]
  split
  · exact hreject _ _ _ _ _ _
  rename_i first _
  split
  · exact hreject _ _ _ _ _ _
  dsimp only
  generalize ((msg.get_int tags.EndSeqNo).map to_u64).getD 0 = last
  have hcall : Talks SendsAny s (s.guarded (.on_resend_request (to_u64 first) last)) :=
    talks_guarded s (.inl rfl)
  generalize s.guarded (.on_resend_request (to_u64 first) last) = s₁ at hcall ⊢
  split
  · exact hcall.trans (hreject _ _ _ _ _ _)
  have hread : Talks SendsAny s
      { s₁ with store := (get_messages (to_u64 first) last s₁.store).2 } :=
    hcall.trans ⟨⟨.single (.read _ _ s₁.store), .of_eq rfl⟩, rfl⟩
  split
  · exact hread.trans (talks_report _ _)
  · generalize (if last = 0 ∨ s₁.next_sender ≤ last then s₁.next_sender - 1 else last) = range_end
    split
    · exact hread
    · exact hread.trans (talks_replay _ _ _ _)

/-- `send_raw` hands its bytes over as they are. -/
theorem talks_send_raw (raw : Bytes) (s : Session σ) :
    Talks (Sends fun origin _ => origin = .raw) s (s.send_raw raw) := by
  apply talks_locked
  refine .of_adds rfl rfl (Outside.Adds.trans ?_ (Outside.adds_audit_frame true raw _))
  exact Outside.adds_emit _ (.inr ⟨_, _, rfl, rfl⟩)

end Session

end FixEngine
