/-
`Rejections.lean` -- what the data dictionary means for a conversation.

A session that consults its dictionary lets through what passes and answers the rest with
a BusinessMessageReject (35=j). On the inbound side this means that whatever arrives, the
application only ever gets messages that pass (`deliveries_conform`). On the outbound side
an application message that passes still passes when it is read at the other end, when it
is replayed, and when the replay is replayed, and so do the rejections themselves: what a
session says passes if what its application says does (`utterances_conform`). Two such
sessions never reject each other's messages, over a network that loses, delays, repeats
and reorders what it is given (`no_rejections`).
-/
import FixEngine.Conversation
import FixEngine.Dictionary

set_option autoImplicit false

namespace FixEngine

open IMessageStore DataDictionary

/-! ## Frames -/

/-- A property of messages that does not depend on their header. -/
def Portable (G : Message → Prop) : Prop := ∀ msg m, Resembles msg m → G msg → G m

/-- The other end reads the frame as a message of the session protocol, or as an application
message in `G`. -/
def Sound (G : Message → Prop) (w : Bytes) : Prop :=
  ∃ m, read_stored w = some m ∧ (is_admin_msg m.msg_type = true ∨ G m)

theorem sound_of_carries {G : Message → Prop} (hG : Portable G) {id : SessionID} {msg : Message}
    {n : ℕ} {w : Bytes} (h : Carries id msg n w) (hlen : w.length ≤ 2 ^ 20)
    (hmsg : is_admin_msg msg.msg_type = true ∨ G msg) :
    Sound G w := by
  obtain ⟨time, b, hser⟩ := h
  have hshort : id.version.to_string.length ≤ 61 := (length_version_le id.version).trans (by decide)
  have hread :=
    resembles_decoded msg id.version.to_string n id.senderCompID id.targetCompID
      (format_timestamp time) w
  have hscan := scan_serialized {} hser hshort (by omega) (.inr hlen)
  refine ⟨_, read_stored_of_scan hscan hlen, ?_⟩
  rw [hread.msg_type]
  exact hmsg.imp_right (hG _ _ hread)

theorem sound_resent {G : Message → Prop} (hG : Portable G) {id : SessionID} {wire w : Bytes}
    {stored : Message} {seq : ℕ} (hwire : Sound G wire) (hread : read_stored wire = some stored)
    (happ : is_admin_msg stored.msg_type = false) (h : Carries id (retag stored) seq w)
    (hlen : w.length ≤ 2 ^ 20) : Sound G w := by
  obtain ⟨m, hm', hm⟩ := hwire
  obtain rfl : m = stored := Option.some.inj (hm'.symm.trans hread)
  rcases hm with hadmin | hgood
  · exact absurd (hadmin.symm.trans happ) (by decide)
  · exact sound_of_carries hG h hlen (.inr (hG _ _ (resembles_retag m) hgood))

namespace Session

/-! ## The application of a session -/

section Deliveries

variable {σ : Type} [IMessageStore σ]

/-- **The application only gets what passes.** Whatever arrives, and whatever else happens, a
session that consults its dictionary delivers no message of a type that the dictionary
defines unless it has the tags that it must have and only values that they may have. -/
theorem deliveries_conform (d : DataDictionary) (cfg : SessionConfig) (store : σ) (env : Env)
    (hchecks : cfg.validate_fields = true) (hdict : env.validate = d.check) (calls : List Call) :
    ∀ m ∈ ((create cfg store env).run calls).deliveries, d.Passes m := by
  intro m hm
  obtain ⟨e, he, hdelivered⟩ := List.mem_filterMap.mp hm
  obtain ⟨more, hevents, -, -, -, -, hlets⟩ := (run_traffic (create cfg store env) calls).trace
  have hnew : ((create cfg store env).run calls).io.events = more := hevents
  rw [hnew] at he
  cases e with
  | on_message msg =>
    obtain rfl : msg = m := Option.some.inj hdelivered
    have hverdict : env.validate msg = none := hlets msg he hchecks
    rw [hdict] at hverdict
    exact check_eq_none_iff.mp hverdict
  | _ => exact absurd hdelivered (by simp [Event.delivered])

/-- The client, with the built-in dictionary of its version. -/
def strict_client : Session MemoryStore :=
  create { quiet_config with validate_fields := true } MemoryStore.create
    { quiet_env with validate := (load_builtin .FIX_4_2).check }

/-- The broker rejects something, and sends a report in which almost everything is missing. -/
def broker_calls : List Call :=
  [.logon, .message broker_logon,
    .message (broker_message msg_types.BusinessMessageReject 2
      [⟨tags.RefMsgType, ascii "D"⟩, ⟨tags.BusinessRejectReason, ascii "0"⟩]),
    .message (broker_report 3)]

theorem deliveries_conform_client :
    (strict_client.run broker_calls).deliveries.map Message.msg_type =
    [msg_types.BusinessMessageReject] ∧
      ∀ m ∈ (strict_client.run broker_calls).deliveries, (load_builtin .FIX_4_2).Passes m := by
  have hdelivered : (strict_client.run broker_calls).deliveries.map Message.msg_type =
      [msg_types.BusinessMessageReject] := by decide
  exact ⟨hdelivered,
    deliveries_conform (load_builtin .FIX_4_2) _ MemoryStore.create _ rfl rfl broker_calls⟩

end Deliveries

/-! ## What a session says -/

variable {G : Message → Prop} {s : Session MemoryStore}

/-- All frames of the store are sound. -/
def Stocked (G : Message → Prop) (s : Session MemoryStore) : Prop :=
  ∀ e ∈ s.store.outbound.entries, Sound G e.2

/-- A call that gives the session nothing to say outside of `G`. -/
def Proper (G : Message → Prop) (s : Session MemoryStore) : Call → Prop
  | .send msg => is_admin_msg msg.msg_type = true ∨ G msg
  | .send_raw _ => False
  | .message msg => ∀ r, s.Objects msg r → G r
  | _ => True

theorem call_sound (hG : Portable G) (hstock : s.Stocked G) {c : Call} (hc : s.Proper G c)
    (hlen : ∀ w ∈ s.uttered c, w.length ≤ 2 ^ 20) :
    (∀ w ∈ s.uttered c, Sound G w) ∧ (s.call c).Stocked G := by
  have hcall := call_uttered s c
  have hsound : ∀ w ∈ s.uttered c, Sound G w := by
    intro w hw
    have hsayable := hcall.frames w hw
    cases hsayable with
    | own h =>
      obtain ⟨msg, n, hown, hcarries⟩ := h
      refine sound_of_carries hG hcarries (hlen w hw) (hown.admin.imp_right fun hobjects => ?_)
      cases c with
      | message m => exact hc msg hobjects
      | _ => exact absurd hobjects (by simp [objections])
    | app h => exact sound_of_carries hG h (hlen w hw) hc
    | raw => exact absurd hc (by simp [Proper])
    | resent h =>
      obtain ⟨first, last, frames, hframes, seq, wire, stored, hmem, hread, happ, hcarries⟩ := h
      obtain rfl : s.store.outbound.range first (walk_end last s.store.outbound) = frames :=
        Except.ok.inj hframes
      exact sound_resent hG (hstock _ (OrdMap.mem_range.mp hmem).1) hread happ hcarries (hlen w hw)
  refine ⟨hsound, fun e he => ?_⟩
  refine (outbound_of_stocks hcall.store he).elim (hstock e) fun hsent => hsound e.2 ?_
  exact List.mem_filterMap.mpr ⟨_, hsent, rfl⟩

theorem proper_call {c c' : Call} (h : s.Proper G c) : (s.call c').Proper G c := by
  have hcall := call_uttered s c'
  cases c with
  | message msg =>
    rw [Proper, objects_congr hcall.conduct hcall.io.env]
    exact h
  | _ => exact h

/-- The frames that a session has handed over in a run. -/
def said (s : Session MemoryStore) (calls : List Call) : List Bytes :=
  (s.traffic calls).filterMap outbound_frame

theorem said_cons (s : Session MemoryStore) (c : Call) (calls : List Call) :
    s.said (c :: calls) = s.uttered c ++ (s.call c).said calls := by
  rw [said, traffic, List.filterMap_append, List.filterMap_append, filterMap_heard,
    filterMap_going_out, List.nil_append]
  rfl

theorem run_sound (hG : Portable G) (hstock : s.Stocked G) {calls : List Call}
    (hcalls : ∀ c ∈ calls, s.Proper G c) (hlen : ∀ w ∈ s.said calls, w.length ≤ 2 ^ 20) :
    ∀ w ∈ s.said calls, Sound G w := by
  induction calls generalizing s with
  | nil => exact fun w hw => absurd hw (by simp [said, traffic])
  | cons c calls ih =>
    rw [said_cons] at hlen ⊢
    obtain ⟨hsound, hstock⟩ := call_sound hG hstock (hcalls c List.mem_cons_self)
      fun w hw => hlen w (List.mem_append_left _ hw)
    have hrest := ih hstock (fun c' hc' => proper_call (hcalls c' (List.mem_cons_of_mem c hc')))
      fun w hw => hlen w (List.mem_append_right _ hw)
    intro w hw
    exact (List.mem_append.mp hw).elim (hsound w) (hrest w)

/-- **What a session says passes if what its application says does.** Whatever the peer sends,
every application message that the session hands over, sent for the first time or again, and
each of its own rejections, is let through by the dictionary `d` of the peer. -/
theorem utterances_conform {d d' : DataDictionary} (hd : d.Neutral) (hd' : d'.Neutral)
    (s₀ : Session MemoryStore) (hstore : s₀.store.outbound.entries = [])
    (hdict : s₀.io.env.validate = d'.check) (calls : List Call)
    (happ : ∀ msg, .send msg ∈ calls → is_admin_msg msg.msg_type = true ∨ d.Passes msg)
    (hraw : ∀ w, .send_raw w ∉ calls) (hlen : ∀ w ∈ s₀.said calls, w.length ≤ 2 ^ 20) :
    ∀ w ∈ s₀.said calls, ∃ m, read_stored w = some m ∧
      (is_admin_msg m.msg_type = true ∨ d.check m = none) := by
  have hstock : s₀.Stocked d.Passes := fun e he => absurd (hstore ▸ he) (by simp)
  have hcalls : ∀ c ∈ calls, s₀.Proper d.Passes c := by
    intro c hc
    cases c with
    | send msg => exact happ msg hc
    | send_raw raw => exact absurd hc (hraw raw)
    | message msg =>
      -- what is rejected has a type that the dictionary defines
      rintro r ⟨-, -, ec, hverdict, rfl⟩
      rw [hdict] at hverdict
      rcases hdef : d'.find_message msg.msg_type with _ | mdef
      · rw [check, hdef] at hverdict
        exact absurd hverdict (by simp)
      · obtain ⟨htype, hclean⟩ := hd'.types _ _ hdef
        exact hd.passes_business_reject _ _ htype hclean _
    | _ => exact trivial
  intro w hw
  obtain ⟨m, hread, hm⟩ := run_sound (fun _ _ h => hd.passes h) hstock hcalls hlen w hw
  exact ⟨m, hread, hm.imp_right check_eq_none_iff.mpr⟩

set_option maxRecDepth 4000 in
/-- The client rejects the report of its broker, and the broker lets the rejection through. -/
theorem utterances_conform_client :
    (strict_client.said broker_calls).length = 2 ∧
      ∀ w ∈ strict_client.said broker_calls, ∃ m, read_stored w = some m ∧
        (is_admin_msg m.msg_type = true ∨ (load_builtin .FIX_4_4).check m = none) := by
  have hcount : (strict_client.said broker_calls).length = 2 := by decide
  have hlen : ∀ w ∈ strict_client.said broker_calls, w.length ≤ 2 ^ 20 := by decide
  refine ⟨hcount, utterances_conform (neutral_builtin .FIX_4_4)
    (neutral_builtin .FIX_4_2) strict_client rfl rfl
    broker_calls ?_ ?_ hlen⟩
  · intro msg hmsg
    exact absurd hmsg (by simp [broker_calls])
  · intro w hw
    exact absurd hw (by simp [broker_calls])

end Session

/-! ## Two sessions -/

/-- A message that arrives was read of one of the frames. -/
def ReadFrom (frames : List Bytes) (c : Call) : Prop :=
  ∀ m, c = .message m → ∃ w ∈ frames, read_stored w = some m

/-- The calls of two sessions over a network that loses, delays, repeats and reorders frames,
with connections that come and go: a message that one of them gets was read of some frame that
the other has handed over before. -/
inductive Dialogue (a b : Session MemoryStore) : List Call → List Call → Prop where
  | start : Dialogue a b [] []
  | left {as bs : List Call} {c : Call} (h : Dialogue a b as bs) (hc : ReadFrom (b.said bs) c) :
      Dialogue a b (as ++ [c]) bs
  | right {as bs : List Call} {c : Call} (h : Dialogue a b as bs) (hc : ReadFrom (a.said as) c) :
      Dialogue a b as (bs ++ [c])

/-- Messages that the dictionary lets through and that are not rejections themselves. -/
def Welcome (d : DataDictionary) (msg : Message) : Prop :=
  d.Passes msg ∧ msg.msg_type ≠ msg_types.BusinessMessageReject

theorem portable_welcome {d : DataDictionary} (hd : d.Neutral) : Portable (Welcome d) :=
  fun _ _ hlike hmsg => ⟨hd.passes hlike hmsg.1, hlike.msg_type ▸ hmsg.2⟩

/-- What the application does without a fault. -/
def Courteous (d : DataDictionary) : Call → Prop
  | .send msg => is_admin_msg msg.msg_type = true ∨ Welcome d msg
  | .send_raw _ => False
  | _ => True

namespace Session

theorem said_concat (s : Session MemoryStore) (calls : List Call) (c : Call) :
    s.said (calls ++ [c]) = s.said calls ++ (s.run calls).uttered c := by
  induction calls generalizing s with
  | nil =>
    rw [List.nil_append, said_cons]
    exact List.append_nil _
  | cons d calls ih =>
    rw [List.cons_append, said_cons, said_cons, ih, List.append_assoc]
    rfl

/-- So far the session has said nothing that the other end will reject, and it will not. -/
structure Civil (theirs : DataDictionary) (s : Session MemoryStore) (calls : List Call) : Prop where
  said : ∀ w ∈ s.said calls, Sound (Welcome theirs) w
  stocked : (s.run calls).Stocked (Welcome theirs)

theorem civil_start {theirs : DataDictionary} {s : Session MemoryStore}
    (h : s.store.outbound.entries = []) :
    Civil theirs s [] :=
  ⟨fun w hw => absurd hw (by simp [Session.said, traffic]), fun e he => absurd (h ▸ he) (by simp)⟩

/-- **One call.** It leaves the session civil if what it hears is. -/
theorem Civil.step {mine theirs : DataDictionary} (hneutral : theirs.Neutral)
    {s : Session MemoryStore} (hdict : s.io.env.validate = mine.check) {calls : List Call}
    (h : Civil theirs s calls) {frames : List Bytes}
    (hframes : ∀ w ∈ frames, Sound (Welcome mine) w) {c : Call} (hread : ReadFrom frames c)
    (hc : Courteous theirs c) (hlen : ∀ w ∈ s.said (calls ++ [c]), w.length ≤ 2 ^ 20) :
    Civil theirs s (calls ++ [c]) := by
  have henv : (s.run calls).io.env = s.io.env := (run_traffic s calls).env
  have hproper : (s.run calls).Proper (Welcome theirs) c := by
    cases c with
    | send msg => exact hc
    | send_raw raw => exact hc
    | message msg =>
      -- the message passes here, so that there is nothing to object to
      rintro r ⟨happ, -, ec, hverdict, -⟩
      obtain ⟨w, hw, hmsg⟩ := hread msg rfl
      obtain ⟨m, hm', hm⟩ := hframes w hw
      obtain rfl : m = msg := Option.some.inj (hm'.symm.trans hmsg)
      rcases hm with hadmin | ⟨hpasses, -⟩
      · exact absurd (hadmin.symm.trans happ) (by decide)
      · rw [henv, hdict, check_eq_none_iff.mpr hpasses] at hverdict
        exact absurd hverdict (by simp)
    | _ => exact trivial
  rw [said_concat] at hlen
  obtain ⟨hsound, hstock⟩ := call_sound (portable_welcome hneutral) h.stocked hproper
    fun w hw => hlen w (List.mem_append_right _ hw)
  refine ⟨fun w hw => ?_, ?_⟩
  · rw [said_concat] at hw
    exact (List.mem_append.mp hw).elim (h.said w) (hsound w)
  · rw [run_concat]
    exact hstock

end Session

/-- **No rejections.** Two sessions whose applications only send what the dictionary of the
other lets through never send a BusinessMessageReject: neither of them, in any order of events,
and whatever the network does to their frames. -/
theorem no_rejections {d d' : DataDictionary} (hd : d.Neutral) (hd' : d'.Neutral)
    {a b : Session MemoryStore} (ha : a.store.outbound.entries = [])
    (hb : b.store.outbound.entries = []) (hda : a.io.env.validate = d.check)
    (hdb : b.io.env.validate = d'.check) {as bs : List Call} (h : Dialogue a b as bs)
    (has : ∀ c ∈ as, Courteous d' c) (hbs : ∀ c ∈ bs, Courteous d c)
    (hlen : ∀ w ∈ a.said as ++ b.said bs, w.length ≤ 2 ^ 20) :
    ∀ w ∈ a.said as ++ b.said bs, ∃ m, read_stored w = some m ∧
      m.msg_type ≠ msg_types.BusinessMessageReject := by
  have hcivil : a.Civil d' as ∧ b.Civil d bs := by
    induction h with
    | start => exact ⟨Session.civil_start ha, Session.civil_start hb⟩
    | @left as bs c h hread ih =>
      rw [Session.said_concat] at hlen
      obtain ⟨hleft, hright⟩ := ih (fun c hc => has c (List.mem_append_left _ hc)) hbs fun w hw =>
        hlen w (by simp only [List.mem_append] at hw ⊢; tauto)
      refine ⟨hleft.step hd' hda hright.said hread (has c (by simp)) fun w hw => hlen w ?_, hright⟩
      rw [← Session.said_concat]
      exact List.mem_append_left _ hw
    | @right as bs c h hread ih =>
      rw [Session.said_concat] at hlen
      obtain ⟨hleft, hright⟩ := ih has (fun c hc => hbs c (List.mem_append_left _ hc)) fun w hw =>
        hlen w (by simp only [List.mem_append] at hw ⊢; tauto)
      refine ⟨hleft, hright.step hd hdb hleft.said hread (hbs c (by simp)) fun w hw => hlen w ?_⟩
      rw [← Session.said_concat]
      exact List.mem_append_right _ hw
  have hnever : ∀ {theirs : DataDictionary} {w : Bytes}, Sound (Welcome theirs) w →
      ∃ m, read_stored w = some m ∧ m.msg_type ≠ msg_types.BusinessMessageReject := by
    rintro theirs w ⟨m, hread, hm⟩
    refine ⟨m, hread, ?_⟩
    rcases hm with hadmin | ⟨-, hother⟩
    · intro heq
      rw [heq] at hadmin
      exact absurd hadmin (by decide)
    · exact hother
  intro w hw
  rcases List.mem_append.mp hw with hw | hw
  · exact hnever (hcivil.1.said w hw)
  · exact hnever (hcivil.2.said w hw)

/-- The broker, with a dictionary of its own. -/
def strict_broker : Session MemoryStore :=
  Session.create
    { quiet_config with
      id := { quiet_config.id with senderCompID := ascii "BROKER", targetCompID := ascii "CLIENT" }
      initiator := false
      validate_fields := true }
    MemoryStore.create { quiet_env with validate := (load_builtin .FIX_4_4).check }

/-- A Logout of the broker, and how the client reads it. -/
def logout_frame : Bytes :=
  ascii "8=FIX.4.2" ++ [SOH] ++ ascii "9=55" ++ [SOH] ++ ascii "35=5" ++ [SOH] ++
    ascii "49=BROKER" ++ [SOH] ++
    ascii "56=CLIENT" ++ [SOH] ++ ascii "34=1" ++ [SOH] ++
    ascii "52=20240101-00:00:00.000" ++ [SOH] ++
    ascii "10=055" ++ [SOH]

def broker_logout : Message where
  fields :=
    [⟨tags.BeginString, ascii "FIX.4.2"⟩, ⟨tags.BodyLength, ascii "55"⟩, ⟨tags.MsgType, ascii "5"⟩,
    ⟨tags.SenderCompID, ascii "BROKER"⟩, ⟨tags.TargetCompID, ascii "CLIENT"⟩,
    ⟨tags.MsgSeqNum, ascii "1"⟩, ⟨tags.SendingTime, ascii "20240101-00:00:00.000"⟩]
  raw := logout_frame

set_option maxRecDepth 4000 in
/-- The broker logs out before the Logon of the client has arrived. -/
theorem no_rejections_logout :
    (Session.strict_client.said [.logon, .message broker_logout]).length = 2 ∧
      ∀ w ∈ Session.strict_client.said [.logon, .message broker_logout] ++
          strict_broker.said [.transport_connected, .logout []],
        ∃ m, read_stored w = some m ∧ m.msg_type ≠ msg_types.BusinessMessageReject := by
  have hsaid : strict_broker.said [.transport_connected, .logout []] = [logout_frame] := by decide
  have hscan : scan_frame {} logout_frame = .ok (broker_logout, logout_frame.length) := by rfl
  have hdialogue : Dialogue Session.strict_client strict_broker [.logon, .message broker_logout]
      [.transport_connected, .logout []] := by
    have hlogon : Dialogue Session.strict_client strict_broker [.logon] [] :=
      .left .start (by simp [ReadFrom])
    have hconnected : Dialogue Session.strict_client strict_broker [.logon]
        [.transport_connected] :=
      hlogon.right (by simp [ReadFrom])
    have hlogout : Dialogue Session.strict_client strict_broker [.logon] [.transport_connected,
        .logout []] :=
      hconnected.right (by simp [ReadFrom])
    refine hlogout.left ?_
    rintro m ⟨⟩
    exact ⟨logout_frame, hsaid ▸ List.mem_singleton_self _, read_stored_of_scan hscan (by decide)⟩
  have hcount : (Session.strict_client.said [.logon, .message broker_logout]).length = 2 := by
    decide
  have hlen : ∀ w ∈ Session.strict_client.said [.logon, .message broker_logout],
      w.length ≤ 2 ^ 20 := by decide
  refine ⟨hcount, no_rejections (neutral_builtin .FIX_4_2)
    (neutral_builtin .FIX_4_4) rfl rfl rfl rfl hdialogue
    (by simp [Courteous]) (by simp [Courteous]) ?_⟩
  intro w hw
  rcases List.mem_append.mp hw with hw | hw
  · exact hlen w hw
  · rw [hsaid] at hw
    rw [List.mem_singleton.mp hw]
    decide

end FixEngine
