/-
`Link.lean` -- an initiator and an acceptor over a lossless link.

Each end of the link is a session with the frames that are on their way from it; each
direction is a queue. This file says what the operations of a session do to its end of the
link. A station is what the rest of the argument sees of an end: the view of its session,
its queue and the messages that it has accepted. An established end sends messages of its
lane and nothing else (`Station.Emits`), a Logon is answered or completes the handshake,
and the first frame of a lane in order leaves the lane in order (`Endpoint.deliver_active`).
-/
import FixEngine.Interval
import FixEngine.Lane

set_option autoImplicit false

namespace FixEngine

open IMessageStore Decimal

/-! ## The ends of a link -/

/-- One end: the session, the frames on their way from it, and the messages that its
`send()` has accepted. -/
structure Endpoint (σ : Type) where
  session : Session σ
  outgoing : List Bytes
  accepted : List Message

namespace Endpoint

variable {σ : Type}

/-- An operation of the session; the frames that it hands over are on their way. -/
def step (op : Session σ → Session σ) (e : Endpoint σ) : Endpoint σ :=
  { e with
    session := op e.session
    outgoing := e.outgoing ++ (op e.session).wire_trace.drop e.session.wire_trace.length }

variable [IMessageStore σ]

def connect (s : Session σ) : Endpoint σ := step Session.on_transport_connected ⟨s, [], []⟩

def tick (e : Endpoint σ) : Endpoint σ := e.step Session.on_timer

def take (w : Bytes) (e : Endpoint σ) : Endpoint σ := e.step (Session.on_data w)

def send (msg : Message) (e : Endpoint σ) : Endpoint σ :=
  { e.step fun s => (s.send msg).2 with
    accepted := match (e.session.send msg).1 with
      | .ok _ => e.accepted ++ [msg]
      | .error _ => e.accepted }

end Endpoint

/-- The two ends. -/
structure Link (σ τ : Type) where
  initiator : Endpoint σ
  acceptor : Endpoint τ

/-- What can happen on a link. -/
inductive LinkMove where
  | deliver_to_acceptor
  | deliver_to_initiator
  | tick_initiator
  | tick_acceptor
  | send_initiator (msg : Message)
  | send_acceptor (msg : Message)

namespace Link

variable {σ τ : Type} [IMessageStore σ] [IMessageStore τ]

/-- Both ends at `on_transport_connected()`. -/
def connect (a : Session σ) (b : Session τ) : Link σ τ := ⟨.connect a, .connect b⟩

def move (l : Link σ τ) : LinkMove → Link σ τ
  | .deliver_to_acceptor =>
    match l.initiator.outgoing with
    | [] => l
    | w :: ws => ⟨{ l.initiator with outgoing := ws }, l.acceptor.take w⟩
  | .deliver_to_initiator =>
    match l.acceptor.outgoing with
    | [] => l
    | w :: ws => ⟨l.initiator.take w, { l.acceptor with outgoing := ws }⟩
  | .tick_initiator => { l with initiator := l.initiator.tick }
  | .tick_acceptor => { l with acceptor := l.acceptor.tick }
  | .send_initiator msg => { l with initiator := l.initiator.send msg }
  | .send_acceptor msg => { l with acceptor := l.acceptor.send msg }

end Link

/-! ## What stays of an end -/

/-- A frame that is neither a ResendRequest nor a Reject nor a Logout. -/
def Polite (w : Bytes) : Prop :=
  frame_type w ≠ some msg_types.ResendRequest ∧ frame_type w ≠ some msg_types.Reject ∧
    frame_type w ≠ some msg_types.Logout

/-- The view `v` of a session whose view at the start was `v₀`. -/
structure Charter (v₀ v : View) : Prop where
  cfg : v.cfg = { v₀.cfg with heartbeat_interval := v.cfg.heartbeat_interval }
  env : v.env = v₀.env
  idle : v.parser.Idle
  closed : v.gap_open = false
  polite : ∃ ws, v.frames = v₀.frames ++ ws ∧ ∀ w ∈ ws, Polite w

/-- A session as it is constructed: its parser has the default options, its interval is an
`int`, the TestRequests are counted in 64 bits, and its own frames fit the parser of the
other end. -/
structure Fitting (v : View) : Prop where
  parser : v.parser.opts = {}
  interval : -(2 ^ 31) ≤ v.heartbeat_sec ∧ v.heartbeat_sec < 2 ^ 31
  counters : ∀ k, v.env.test_req_counter k < 2 ^ 64
  sizes : v.cfg.id.senderCompID.length + v.cfg.id.targetCompID.length + v.cfg.username.length
    + v.cfg.password.length + v.cfg.default_appl_ver_id.length + 256 ≤ 2 ^ 20

namespace Charter

variable {v₀ v : View}

theorem id (h : Charter v₀ v) : v.cfg.id = v₀.cfg.id := by rw [h.cfg]

theorem accepts (h : Charter v₀ v) (d : Message) : v.accepts d ↔ v₀.accepts d := by
  rw [View.accepts, View.accepts, h.env, h.cfg]

theorem extend (h : Charter v₀ v) {ws : List Bytes} (hpolite : ∀ w ∈ ws, Polite w) (ns : ℕ) :
    Charter v₀ { v with next_sender := ns, frames := v.frames ++ ws } := by
  obtain ⟨ws₀, hframes, hpolite₀⟩ := h.polite
  refine ⟨h.cfg, h.env, h.idle, h.closed, ws₀ ++ ws, ?_, ?_⟩
  · rw [hframes, List.append_assoc]
  · intro w hw
    exact (List.mem_append.mp hw).elim (hpolite₀ w) (hpolite w)

end Charter

theorem polite_of_lane {id : SessionID} {known : Message → Prop} {msg : Message} {n : ℕ} {w : Bytes}
    (h : OnLane id known msg) (hw : Carries id msg n w) : Polite w := by
  have htype : ∀ mt, is_admin_msg mt = true → mt ≠ msg_types.Heartbeat →
      mt ≠ msg_types.TestRequest →
      some msg.msg_type ≠ some mt := by
    intro mt hadmin hbeat htest heq
    exact h.msg_type_ne hadmin hbeat htest (Option.some.inj heq)
  rw [Polite, frame_type_of_carries hw]
  refine ⟨htype _ ?_ ?_ ?_, htype _ ?_ ?_ ?_, htype _ ?_ ?_ ?_⟩ <;> decide

/-! ## Stations -/

/-- What the invariant of the link sees of an end. -/
structure Station where
  view : View
  outgoing : List Bytes
  accepted : List Message

def Endpoint.station {σ : Type} [IMessageStore σ] (e : Endpoint σ) : Station :=
  ⟨e.session.view, e.outgoing, e.accepted⟩

theorem Endpoint.step_station {σ : Type} [IMessageStore σ] (op : Session σ → Session σ)
    {e : Endpoint σ} {ws : List Bytes}
    (h : (op e.session).wire_trace = e.session.wire_trace ++ ws) :
    (e.step op).station = ⟨(op e.session).view, e.outgoing ++ ws, e.accepted⟩ := by
  rw [station, step, h, List.drop_left]

namespace Station

variable {v₀ : View} {known : Message → Prop} {front : List Bytes} {nt : ℕ}
  {delivered : List Message}
variable {p p' : Station}

/-- The station sends on a lane on which `front` comes first. -/
def Sends (v₀ : View) (known : Message → Prop) (front : List Bytes) (nt : ℕ)
    (delivered : List Message) (p : Station) : Prop :=
  ∃ rest, p.outgoing = front ++ rest ∧
    Conveys v₀.cfg.id known nt rest p.view.next_sender p.accepted delivered

/-- The station has sent messages of its lane. -/
def Emits (v₀ : View) (known : Message → Prop) (p p' : Station) : Prop :=
  ∃ ws msgs, Flow v₀.cfg.id p.view.next_sender ws msgs p'.view.next_sender ∧
    (∀ msg ∈ msgs, OnLane v₀.cfg.id known msg) ∧ (∀ w ∈ ws, w.length ≤ 2 ^ 20) ∧
    p' = { view := { p.view with next_sender := p'.view.next_sender, frames := p.view.frames ++ ws }
           outgoing := p.outgoing ++ ws
           accepted := p.accepted ++ app_messages msgs }

/-- What a tick and a call of `send()` do to a station: only an established one sends. -/
def Proceeds (v₀ : View) (known : Message → Prop) (p p' : Station) : Prop :=
  p' = p ∨ p.view.state = .Active ∧ p.Emits v₀ known p'

/-- The station has taken a frame in. -/
def received (parser : StreamParser) (n : ℕ) (ms : List Message) (p : Station) : Station :=
  { p with view := { p.view with
      parser := parser, next_target := n, deliveries := p.view.deliveries ++ ms } }

theorem Emits.refl (p : Station) : p.Emits v₀ known p :=
  ⟨[], [], .nil _, by simp, by simp, by simp only [List.append_nil, app_messages, List.filter_nil]⟩

theorem Emits.of_routine {ws : List Bytes} {msgs : List Message}
    (hflow : Flow v₀.cfg.id p.view.next_sender ws msgs p'.view.next_sender)
    (hroutine : ∀ msg ∈ msgs, Routine msg) (hfits : ∀ w ∈ ws, w.length ≤ 2 ^ 20)
    (heq : p' = { p with
      view := { p.view with next_sender := p'.view.next_sender, frames := p.view.frames ++ ws }
      outgoing := p.outgoing ++ ws }) : p.Emits v₀ known p' := by
  refine ⟨ws, msgs, hflow, fun msg hmsg => .inl (hroutine msg hmsg), hfits, ?_⟩
  rw [app_messages_routine hroutine, List.append_nil]
  exact heq

theorem Emits.of_app {w : Bytes} {msg : Message} (hw : Carries v₀.cfg.id msg p.view.next_sender w)
    (hn : p.view.next_sender < 2 ^ 64) (hmsg : AppMessage v₀.cfg.id known msg)
    (heq : p' =
      { view := { p.view with
          next_sender := p.view.next_sender + 1, frames := p.view.frames ++ [w] }
        outgoing := p.outgoing ++ [w]
        accepted := p.accepted ++ [msg] }) : p.Emits v₀ known p' := by
  have hone : app_messages [msg] = [msg] := by simp [app_messages, hmsg.app]
  have hnext : p'.view.next_sender = p.view.next_sender + 1 := by rw [heq]
  refine ⟨[w], [msg], ?_, ?_, ?_, ?_⟩
  · rw [hnext]
    exact .single hw
  · intro msg' hmsg'
    rw [List.mem_singleton.mp hmsg']
    exact .inr hmsg
  · intro w' hw'
    rw [List.mem_singleton.mp hw']
    exact hmsg.fits _ w hn hw
  · rw [hone, hnext]
    exact heq

theorem Emits.state (h : p.Emits v₀ known p') : p'.view.state = p.view.state := by
  obtain ⟨ws, msgs, -, -, -, heq⟩ := h
  rw [heq]

theorem Emits.charter (h : p.Emits v₀ known p') (hc : Charter v₀ p.view) : Charter v₀ p'.view := by
  obtain ⟨ws, msgs, hflow, hmsgs, -, heq⟩ := h
  rw [heq]
  apply hc.extend
  intro w hw
  obtain ⟨msg, hmsg, n, hcarries⟩ := hflow.carries_of_mem hw
  exact polite_of_lane (hmsgs msg hmsg) hcarries

theorem Sends.emits (h : p.Sends v₀ known front nt delivered) (hemits : p.Emits v₀ known p') :
    p'.Sends v₀ known front nt delivered := by
  obtain ⟨rest, hout, hlane⟩ := h
  obtain ⟨ws, msgs, hflow, hmsgs, hfits, heq⟩ := hemits
  refine ⟨rest ++ ws, ?_, ?_⟩
  · rw [heq, ← List.append_assoc, ← hout]
  · have haccepted : p'.accepted = p.accepted ++ app_messages msgs := by rw [heq]
    rw [haccepted]
    exact hlane.emit hflow hmsgs hfits

theorem Sends.congr (h : p.Sends v₀ known front nt delivered) (hout : p'.outgoing = p.outgoing)
    (hsender : p'.view.next_sender = p.view.next_sender) (haccepted : p'.accepted = p.accepted) :
    p'.Sends v₀ known front nt delivered := by
  obtain ⟨rest, hrest, hlane⟩ := h
  refine ⟨rest, hout.trans hrest, ?_⟩
  rw [hsender, haccepted]
  exact hlane

end Station

/-! ## An established end -/

theorem Fitting.routine_fits {v₀ : View} (h : Fitting v₀) {a b : ℕ} {ws : List Bytes}
    {msgs : List Message} (hflow : Flow v₀.cfg.id a ws msgs b) (hb : b ≤ 2 ^ 64)
    (hroutine : ∀ msg ∈ msgs, Routine msg) :
    ∀ w ∈ ws, w.length ≤ 2 ^ 20 := by
  apply hflow.fits hb
  intro msg hmsg
  have hsize := (hroutine msg hmsg).own_size_le
  have hsizes := h.sizes
  omega

namespace Endpoint

variable {σ : Type} [IMessageStore σ] [StoreContract σ] {e : Endpoint σ} {v₀ : View}
  {known : Message → Prop}

theorem tick_active (hc : Charter v₀ e.session.view) (hfit : Fitting v₀)
    (hhealthy : Healthy e.session.store) (hstate : e.session.state = .Active)
    (hroom : e.session.next_sender + 3 < 2 ^ 64) :
    e.tick.session.state = .Disconnected ∨ e.station.Emits v₀ known e.tick.station := by
  obtain ⟨v, hspeaks, hview⟩ := Session.on_timer_speaks hstate hhealthy hroom
  have hnext := hspeaks.next_sender_le
  obtain ⟨ws, msgs, hflow, -, hkind, heq⟩ := hspeaks
  rcases hview with hview | hdown
  · right
    have hroutine : ∀ msg ∈ msgs, Routine msg := by
      intro msg hmsg
      cases hkind msg hmsg with
      | heartbeat => exact .heartbeat (Nat.zero_le _)
      | test_request k =>
        refine .test_request ?_
        have hcount : (e.session.view.env.test_req_counter k) < 2 ^ 64 := by
          rw [hc.env]
          exact hfit.counters k
        have hdigits :=
          length_to_chars_le (n := e.session.view.env.test_req_counter k) (show 0 < 20 by decide)
          (hcount.trans (by norm_num))
        have hlabel : (ascii "TEST-").length = 5 := by decide
        rw [List.length_append, hlabel]
        omega
      | retry hgap => exact absurd (hgap.symm.trans hc.closed) (by decide)
    have hframes : e.session.on_timer.wire_trace = e.session.wire_trace ++ ws :=
      congrArg View.frames (hview.trans heq)
    have hsender : e.session.on_timer.next_sender = v.next_sender := congrArg View.next_sender hview
    have hbound : v.next_sender ≤ 2 ^ 64 :=
      hnext.trans (by show e.session.next_sender + 3 ≤ _; omega)
    rw [show e.session.view.cfg.id = v₀.cfg.id from hc.id] at hflow
    refine .of_routine ?_ hroutine (hfit.routine_fits hflow hbound hroutine) ?_
    · rw [tick, step_station _ hframes]
      show Flow _ _ _ _ e.session.on_timer.next_sender
      rw [hsender]
      exact hflow
    · rw [tick, step_station _ hframes, hview]
      rw [heq]
      rfl
  · left
    exact congrArg View.state hdown

omit [StoreContract σ] in
theorem healthy_tick (h : Healthy e.session.store) : Healthy e.tick.session.store :=
  h.of_footprint (Session.call_footprint e.session .timer)

omit [StoreContract σ] in
theorem healthy_take (h : Healthy e.session.store) (w : Bytes) :
    Healthy (e.take w).session.store := by
  obtain ⟨calls, -, hrun⟩ := Session.on_data_calls w e.session
  show Healthy (e.session.on_data w).store
  rw [hrun]
  exact Session.healthy_run h calls

omit [StoreContract σ] in
theorem healthy_send (h : Healthy e.session.store) (msg : Message) :
    Healthy (e.send msg).session.store :=
  h.of_footprint (Session.call_footprint e.session (.send msg))

theorem send_active (hc : Charter v₀ e.session.view) (hhealthy : Healthy e.session.store)
    (hstate : e.session.state = .Active) (hroom : e.session.next_sender + 1 < 2 ^ 64)
    {msg : Message} (hmsg : AppMessage v₀.cfg.id known msg) :
    e.station.Emits v₀ known (e.send msg).station := by
  have hsend : e.session.send msg = e.session.send_message msg := by
    rw [Session.send, if_neg (not_not.mpr hstate)]
  have hview := Session.send_message_view hhealthy hroom msg
  by_cases hb : Buildable e.session.cfg.id msg
  · rw [if_pos hb] at hview
    obtain ⟨hok, w, hw, hsent⟩ := hview
    have hframes : (e.session.send msg).2.wire_trace = e.session.wire_trace ++ [w] := by
      rw [hsend]
      exact congrArg View.frames hsent
    have hstation := step_station (fun s => (s.send msg).2) hframes
    refine .of_app (w := w) ?_ (Nat.lt_of_succ_lt hroom) hmsg ?_
    · rw [← show e.session.cfg.id = v₀.cfg.id from hc.id]
      exact hw
    · have hsame : (e.send msg).station = { (e.step fun s => (s.send msg).2).station with
          accepted := e.accepted ++ [msg] } := by
        rw [send, hsend, hok]
        rfl
      rw [hsame, hstation, hsend, hsent]
      show Station.mk
          { e.session.view with next_sender := seq_succ e.session.next_sender, frames := _ } _ _ = _
      rw [seq_succ_of_lt hroom]
      rfl
  · rw [if_neg hb] at hview
    obtain ⟨⟨err, herr⟩, hsame⟩ := hview
    have hframes : (e.session.send msg).2.wire_trace = e.session.wire_trace ++ [] := by
      rw [hsend, List.append_nil]
      exact congrArg View.frames hsame
    have hstation := step_station (fun s => (s.send msg).2) hframes
    have haccepted : (e.send msg).station = (e.step fun s => (s.send msg).2).station := by
      rw [send, hsend, herr]
      rfl
    rw [haccepted, hstation, hsend, hsame, List.append_nil]
    exact .refl _

omit [StoreContract σ] in
theorem send_waiting (hstate : e.session.state ≠ .Active) (msg : Message) :
    (e.send msg).station = e.station := by
  have hsend : e.session.send msg = (.error .SessionError, e.session) := by
    rw [Session.send, if_pos hstate]
  have hframes : (e.session.send msg).2.wire_trace = e.session.wire_trace ++ [] := by
    rw [hsend, List.append_nil]
  have haccepted : (e.send msg).station = (e.step fun s => (s.send msg).2).station := by
    rw [send, hsend]
    rfl
  rw [haccepted, step_station (fun s => (s.send msg).2) hframes, hsend, List.append_nil]
  rfl

omit [StoreContract σ] in
theorem tick_waiting (hactive : e.session.state ≠ .Active)
    (hlogout : e.session.state ≠ .LogoutSent) :
    e.tick.session.state = .Disconnected ∨ e.tick.station = e.station := by
  obtain ⟨hview | hdown, -⟩ := Session.on_timer_waiting hactive hlogout
  · right
    have hframes : e.session.on_timer.wire_trace = e.session.wire_trace ++ [] := by
      rw [List.append_nil]
      exact congrArg View.frames hview
    rw [tick, step_station _ hframes, hview, List.append_nil]
    rfl
  · left
    exact congrArg View.state hdown

/-- **A tick of the timer.** -/
theorem tick_proceeds (known : Message → Prop) (hc : Charter v₀ e.session.view) (hfit : Fitting v₀)
    (hhealthy : Healthy e.session.store) (hlogout : e.session.state ≠ .LogoutSent)
    (hroom : e.session.next_sender + 3 < 2 ^ 64) :
    e.tick.session.state = .Disconnected ∨ e.station.Proceeds v₀ known e.tick.station := by
  by_cases hstate : e.session.state = .Active
  · exact (tick_active hc hfit hhealthy hstate hroom).imp id fun h => .inr ⟨hstate, h⟩
  · exact (tick_waiting hstate hlogout).imp id .inl

/-- **A call of `send()`.** -/
theorem send_proceeds (hc : Charter v₀ e.session.view) (hhealthy : Healthy e.session.store)
    (hroom : e.session.next_sender + 3 < 2 ^ 64) {msg : Message}
    (hmsg : AppMessage v₀.cfg.id known msg) :
    e.station.Proceeds v₀ known (e.send msg).station := by
  by_cases hstate : e.session.state = .Active
  · exact .inr ⟨hstate, send_active hc hhealthy hstate (by omega) hmsg⟩
  · exact .inl (send_waiting hstate msg)

/-- **A frame in sequence at an established session** is taken in; a TestRequest is answered,
and an application message is delivered. -/
theorem take_active {id : SessionID} {msg : Message} {n : ℕ} {w : Bytes} (back : Message → Prop)
    (hc : Charter v₀ e.session.view) (hfit : Fitting v₀) (hmirrors : Mirrors id v₀.cfg.id)
    (hknown : ∀ d, known d → v₀.accepts d) (hhealthy : Healthy e.session.store)
    (hstate : e.session.state = .Active) (hroom : e.session.next_sender + 1 < 2 ^ 64)
    (hmsg : OnLane id known msg) (hw : Carries id msg n w) (hlen : w.length ≤ 2 ^ 20)
    (htarget : e.session.next_target = n) (hpos : n ≠ 0) (hn : n + 1 < 2 ^ 64) :
    ∃ m parser, ReadAs id msg n m ∧ parser.Idle ∧
      (e.station.received parser (n + 1) (if is_admin_msg msg.msg_type then []
      else [m])).Emits v₀ back
        (e.take w).station := by
  have hacc : Accepted id e.session.view msg := by
    intro happ n' d hd
    rcases hmsg with h | h
    · exact absurd (h.admin.symm.trans happ) (by decide)
    · exact (hc.accepts d).mpr (hknown d (h.known n' d hd))
  have hmirrors' : Mirrors id e.session.cfg.id := by
    rw [show e.session.cfg.id = v₀.cfg.id from hc.id]
    exact hmirrors
  obtain ⟨m, parser, v, hread, hidle, ⟨ws, msgs, hflow, hcount, hkind, heq⟩, hview⟩ :=
    Session.receive_ordinary hstate hmirrors' hc.idle hhealthy hroom hw hlen htarget hpos hn
      hmsg.ordinary hacc
  have hroutine : ∀ r ∈ msgs, Routine r := fun r hr => hmsg.answer (hkind r hr)
  have hclosed : e.session.view.gap_open = false := hc.closed
  have hframes : (e.session.on_data w).wire_trace = e.session.wire_trace ++ ws := by
    rw [show (e.session.on_data w).wire_trace = v.frames from congrArg View.frames hview, heq]
    rfl
  have hsender : (e.session.on_data w).next_sender = v.next_sender :=
    congrArg View.next_sender hview
  have hbound : v.next_sender ≤ 2 ^ 64 := by
    have hlength := hflow.add_length
    have hstart : e.session.view.next_sender + 1 < 2 ^ 64 := hroom
    dsimp only at hlength
    omega
  have hflow' : Flow v₀.cfg.id e.session.next_sender ws msgs v.next_sender := by
    rw [← show e.session.cfg.id = v₀.cfg.id from hc.id]
    exact hflow
  refine ⟨m, parser, hread, hidle,
    .of_routine ?_ hroutine (hfit.routine_fits hflow' hbound hroutine) ?_⟩
  · rw [take, step_station _ hframes]
    show Flow _ _ _ _ (e.session.on_data w).next_sender
    rw [hsender]
    exact hflow'
  · rw [take, step_station _ hframes, hview, heq]
    simp only [Station.received, station, ← hclosed]
    rfl

end Endpoint

/-! ## The handshake at the two ends -/

/-- A Logon of the other end, on the wire. -/
structure LogonFrame (id : SessionID) (hb : ℤ) (reset : Bool) (n : ℕ) (w : Bytes) : Prop where
  carries : ∃ cfg : SessionConfig, cfg.reset_on_logon = reset ∧
    Carries id (logon_message cfg hb) n w
  fits : w.length ≤ 2 ^ 20
  int : -(2 ^ 31) ≤ hb ∧ hb < 2 ^ 31

theorem LogonFrame.clean {id : SessionID} {hb : ℤ} {reset : Bool} {n : ℕ} {w : Bytes}
    (h : LogonFrame id hb reset n w) :
    FixEngine.clean id.senderCompID = true ∧ FixEngine.clean id.targetCompID = true := by
  obtain ⟨cfg, -, hw⟩ := h.carries
  obtain ⟨hsender, htarget, -⟩ := buildable_iff.mp (Buildable.of_carries hw)
  exact ⟨hsender, htarget⟩

theorem logonFrame_of_carries {v₀ : View} (hfit : Fitting v₀) {cfg : SessionConfig} {hb : ℤ} {n : ℕ}
    {w : Bytes} (interval : ℤ) (hcfg : cfg = { v₀.cfg with heartbeat_interval := interval })
    (hint : -(2 ^ 31) ≤ hb ∧ hb < 2 ^ 31) (hn : n < 2 ^ 64)
    (hw : Carries v₀.cfg.id (logon_message cfg hb) n w) :
    LogonFrame v₀.cfg.id hb v₀.cfg.reset_on_logon n w := by
  subst hcfg
  refine ⟨⟨_, rfl, hw⟩, ?_, hint⟩
  have hlo : -(2 ^ 63) ≤ hb := by omega
  have hsize := own_size_logon_le { v₀.cfg with heartbeat_interval := interval } hlo (by omega)
  have hsizes := hfit.sizes
  apply carries_fits hw hn
  dsimp only at hsize ⊢
  omega

theorem polite_logonFrame {id : SessionID} {hb : ℤ} {reset : Bool} {n : ℕ} {w : Bytes}
    (h : LogonFrame id hb reset n w) : Polite w := by
  obtain ⟨cfg, -, hw⟩ := h.carries
  rw [Polite, frame_type_of_carries hw, msg_type_logon]
  decide

/-- The number that the first Logon of a session gets. -/
def View.first_number (v : View) : ℕ := if v.cfg.reset_on_logon then 1 else v.next_sender

/-- The NextTarget from which a Logon is taken. -/
def View.base_target (reset : Bool) (v : View) : ℕ :=
  if v.cfg.reset_on_logon || reset then 1 else v.next_target

theorem View.first_number_lt {v : View} (hroom : v.next_sender + 1 < 2 ^ 64) :
    v.first_number + 1 < 2 ^ 64 := by
  rw [View.first_number]
  split
  · norm_num
  · exact hroom

theorem View.greets_eq (st : SessionState) (v : View) : v.greets st = { v with
    state := st
    gap_open := v.gap_open && !v.cfg.reset_on_logon
    next_sender := v.first_number
    next_target := v.base_target false } := by
  rw [View.greets, View.first_number, View.base_target]
  by_cases h : v.cfg.reset_on_logon = true
  · simp [h]
  · simp [h]

theorem View.meets_greets_eq (hb : ℤ) (reset : Bool) (st : SessionState) (v : View) :
    (v.meets hb reset).greets st = { v with
      cfg := { v.cfg with heartbeat_interval := to_i32 hb }
      heartbeat_sec := to_i32 hb
      state := st
      gap_open := false
      next_sender := v.first_number
      next_target := v.base_target reset } := by
  have hflags : ∀ (x y : Bool) (k : ℕ), (if x then 1 else if y then 1 else k) = if (x || y) then 1
      else k := by
    intro x y k
    cases x <;> cases y <;> rfl
  rw [View.greets_eq]
  simp only [View.meets, View.first_number, View.base_target, Bool.false_and, Bool.or_false, hflags]
  rfl

namespace Endpoint

variable {σ : Type} [IMessageStore σ] {e : Endpoint σ} {v₀ : View}
variable {id : SessionID} {hb : ℤ} {reset : Bool} {n : ℕ} {w : Bytes}

theorem take_logon (hc : Charter v₀ e.session.view) (hmirrors : Mirrors id v₀.cfg.id)
    (hup : e.session.state ≠ .Disconnected) (hlogon : LogonFrame id hb reset n w)
    (hn : n < 2 ^ 64) :
    ∃ (m : Message) (s : Session σ) (parser : StreamParser), parser.Idle ∧
      s.view = { e.session.view with parser := parser } ∧ s.store = e.session.store ∧
      e.session.on_data w = s.process_message m ∧
      ReadLogon hb reset m ∧ m.seq_num = n ∧ s.identity_error m = none := by
  obtain ⟨cfg, rfl, hw⟩ := hlogon.carries
  obtain ⟨m, hscan, hread⟩ := carries_read hw hn hlogon.fits
  have hid : e.session.cfg.id = v₀.cfg.id := hc.id
  refine ⟨m, { e.session with parser := (e.session.parser.delivered m w).emptied }, _,
    hc.idle.emptied m w, rfl, rfl,
    Session.on_data_frame hc.idle hup hscan hlogon.fits, hread.logon hlogon.int.1 hlogon.int.2,
    hread.seq_num, ?_⟩
  apply Session.identity_of_read hread
  show Mirrors id e.session.cfg.id
  rw [hid]
  exact hmirrors

variable [StoreContract σ]

theorem refuse_logon (hc : Charter v₀ e.session.view) (hmirrors : Mirrors id v₀.cfg.id)
    (hhealthy : Healthy e.session.store) (hstate : e.session.state = .WaitingLogon)
    (hlogon : LogonFrame id hb reset n w) (hn : n < 2 ^ 64) (hneg : hb ≤ 0) :
    (e.take w).session.state = .Disconnected := by
  obtain ⟨m, s, parser, -, hview, hstore, hdata, hread, -, hidentity⟩ :=
    take_logon hc hmirrors (by rw [hstate]; decide) hlogon hn
  have hwaiting : s.state = .WaitingLogon := (congrArg View.state hview).trans hstate
  show (e.session.on_data w).state = _
  rw [hdata]
  refine Session.view_logon_refused (hstore ▸ hhealthy) hidentity ?_ hread hneg
  rw [hwaiting]
  rfl

/-- **The Logon at the acceptor.** -/
theorem answer_logon (hc : Charter v₀ e.session.view) (hfit : Fitting v₀)
    (hmirrors : Mirrors id v₀.cfg.id) (hhealthy : Healthy e.session.store)
    (hstate : e.session.state = .WaitingLogon) (haccepts : v₀.cfg.initiator = false)
    (hlogon : LogonFrame id hb reset n w) (hpos : 0 < hb) (hn : n + 1 < 2 ^ 64)
    (hroom : e.session.next_sender + 1 < 2 ^ 64) :
    ∃ w',
      LogonFrame v₀.cfg.id hb v₀.cfg.reset_on_logon e.session.view.first_number w' ∧
      Charter v₀ (e.take w).station.view ∧
      (e.take w).station.view.state = .Active ∧
      (e.take w).station.view.next_sender = e.session.view.first_number + 1 ∧
      (e.take w).station.view.next_target = max (e.session.view.base_target reset) (n + 1) ∧
      (e.take w).station.view.deliveries = e.session.view.deliveries ∧
      (e.take w).station.outgoing = e.outgoing ++ [w'] ∧
      (e.take w).station.accepted = e.accepted := by
  obtain ⟨m, s, parser, hidle, hview, hstore, hdata, hread, hseq, hidentity⟩ :=
    take_logon hc hmirrors (by rw [hstate]; decide) hlogon (by omega)
  obtain ⟨hsender, htarget⟩ := hlogon.clean
  have hid : e.session.cfg.id = v₀.cfg.id := hc.id
  have hcfg : e.session.cfg =
      { v₀.cfg with heartbeat_interval := e.session.cfg.heartbeat_interval } := hc.cfg
  have hscfg : s.cfg = e.session.cfg := congrArg View.cfg hview
  have hcast : to_i32 hb = hb := to_i32_of_fits hpos hlogon.int.2
  have hnumber : e.session.view.first_number + 1 < 2 ^ 64 := View.first_number_lt hroom
  -- the CompIDs of the answer are those of the Logon, which was built
  have hbuild : Buildable s.cfg.id (logon_message (s.view.meets hb reset).cfg (to_i32 hb)) := by
    apply (tidy_logon _ _).buildable
    · rw [hscfg, hid, hmirrors.sender]
      exact htarget
    · rw [hscfg, hid, hmirrors.target]
      exact hsender
  have hsame : s.next_sender = e.session.next_sender := congrArg View.next_sender hview
  obtain ⟨w', hw', hafter⟩ :=
    Session.view_logon_answered (hstore ▸ hhealthy) (hsame ▸ hroom) hidentity
    ((congrArg View.state hview).trans hstate)
      (by rw [hscfg, hcfg]; exact haccepts) hread hpos hbuild
  rw [View.meets_greets_eq, hcast] at hafter hw'
  rw [hseq, seq_succ_of_lt hn, hview, ← hdata] at hafter
  have hframe : LogonFrame v₀.cfg.id hb v₀.cfg.reset_on_logon e.session.view.first_number w' := by
    rw [hscfg, hid, hview] at hw'
    refine logonFrame_of_carries hfit hb ?_ hlogon.int (Nat.lt_of_succ_lt hnumber) hw'
    rw [View.meets, hcast]
    show { e.session.cfg with heartbeat_interval := hb } = _
    rw [hcfg]
  have hframes : (e.session.on_data w).wire_trace = e.session.wire_trace ++ [w'] :=
    congrArg View.frames hafter
  have hstation := step_station _ hframes
  refine ⟨w', hframe, ?_⟩
  rw [take, hstation, hafter]
  refine ⟨?_, rfl, seq_succ_of_lt hnumber, rfl, rfl, rfl, rfl⟩
  obtain ⟨ws, hbefore, hpolite⟩ := hc.polite
  refine ⟨?_, hc.env, hidle, rfl, ws ++ [w'], ?_, ?_⟩
  · show { e.session.cfg with heartbeat_interval := hb } = { v₀.cfg with heartbeat_interval := hb }
    rw [hcfg]
  · show e.session.view.frames ++ [w'] = _
    rw [hbefore, List.append_assoc]
  · intro w'' hw''
    rcases List.mem_append.mp hw'' with h | h
    · exact hpolite w'' h
    · rw [List.mem_singleton.mp h]
      exact polite_logonFrame hframe

/-- **The answer at the initiator.** -/
theorem complete_logon (hc : Charter v₀ e.session.view) (hmirrors : Mirrors id v₀.cfg.id)
    (hhealthy : Healthy e.session.store) (hstate : e.session.state = .LogonSent)
    (hlogon : LogonFrame id hb reset n w) (hpos : 0 < hb) (hsame : hb = e.session.heartbeat_sec)
    (hn : n + 1 < 2 ^ 64) :
    Charter v₀ (e.take w).station.view ∧
      (e.take w).station.view.state = .Active ∧
      (e.take w).station.view.next_sender = e.session.view.next_sender ∧
      (e.take w).station.view.next_target =
        max (if reset then 1 else e.session.view.next_target) (n + 1) ∧
      (e.take w).station.view.deliveries = e.session.view.deliveries ∧
      (e.take w).station.outgoing = e.outgoing ∧
      (e.take w).station.accepted = e.accepted := by
  obtain ⟨m, s, parser, hidle, hview, hstore, hdata, hread, hseq, hidentity⟩ :=
    take_logon hc hmirrors (by rw [hstate]; decide) hlogon (by omega)
  have hcfg : e.session.cfg =
      { v₀.cfg with heartbeat_interval := e.session.cfg.heartbeat_interval } := hc.cfg
  have hcast : to_i32 hb = hb := to_i32_of_fits hpos hlogon.int.2
  have hafter := Session.view_logon_completed (hstore ▸ hhealthy) hidentity
    ((congrArg View.state hview).trans hstate) hread hpos
      (hsame.trans (congrArg View.heartbeat_sec hview).symm)
  rw [View.meets, hcast, hseq, seq_succ_of_lt hn, hview, ← hdata] at hafter
  have hframes : (e.session.on_data w).wire_trace = e.session.wire_trace ++ [] := by
    rw [List.append_nil]
    exact congrArg View.frames hafter
  rw [take, step_station _ hframes, hafter, List.append_nil]
  refine ⟨?_, rfl, rfl, rfl, rfl, rfl, rfl⟩
  refine ⟨?_, hc.env, hidle, rfl, hc.polite⟩
  show { e.session.cfg with heartbeat_interval := hb } = { v₀.cfg with heartbeat_interval := hb }
  rw [hcfg]

end Endpoint

/-! ## The lanes of an established link -/

/-- The lane from `p` to `q` is in order; `d` is what `q` has delivered of it. -/
structure InOrder (a b : View) (p q : Station) (d : List Message) : Prop where
  sends : p.Sends a b.accepts [] q.view.next_target d
  deliveries : q.view.deliveries = b.deliveries ++ d
  pos : q.view.next_target ≠ 0

namespace InOrder

variable {a b : View} {p p' q q' : Station} {d : List Message}

theorem of_receiver (h : InOrder a b p q d) (htarget : q'.view.next_target = q.view.next_target)
    (hdeliveries : q'.view.deliveries = q.view.deliveries) : InOrder a b p q' d where
  sends := by
    rw [htarget]
    exact h.sends
  deliveries := hdeliveries.trans h.deliveries
  pos := by
    rw [htarget]
    exact h.pos

theorem receiver_emits {v₀ : View} {known : Message → Prop} (h : InOrder a b p q d)
    (hemits : q.Emits v₀ known q') : InOrder a b p q' d := by
  obtain ⟨ws, msgs, -, -, -, heq⟩ := hemits
  apply h.of_receiver
  · rw [heq]
  · rw [heq]

theorem sender_emits (h : InOrder a b p q d) (hemits : p.Emits a b.accepts p') :
    InOrder a b p' q d :=
  ⟨h.sends.emits hemits, h.deliveries, h.pos⟩

end InOrder

/-- **A frame off an ordered lane**: the lane stays in order, and the receiver at most answers
on its own. -/
theorem Endpoint.deliver_active {τ : Type} [IMessageStore τ] [StoreContract τ] {e : Endpoint τ}
    {a b : View} {p : Station} {d : List Message} {w : Bytes} {ws : List Bytes}
    (hc : Charter b e.session.view) (hfit : Fitting b) (hmirrors : Mirrors a.cfg.id b.cfg.id)
    (hhealthy : Healthy e.session.store) (hstate : e.session.state = .Active)
    (hroom : e.session.next_sender + 3 < 2 ^ 64) (hsender : p.view.next_sender + 3 < 2 ^ 64)
    (h : InOrder a b p e.station d) (hout : p.outgoing = w :: ws) :
    Charter b (e.take w).station.view ∧
      (e.take w).station.view.state = .Active ∧
      (∃ d', InOrder a b { p with outgoing := ws } (e.take w).station d') ∧
      ∃ q : Station, q.Emits b a.accepts (e.take w).station ∧ q.outgoing = e.outgoing ∧
      q.accepted = e.accepted ∧
        q.view.next_sender = e.session.next_sender := by
  obtain ⟨rest, hrest, hlane⟩ := h.sends
  obtain rfl : rest = w :: ws := hrest.symm.trans hout
  obtain ⟨msg, hmsg, hw, hlen, hlt, hnext⟩ := hlane.take
  have htarget : e.session.next_target = e.station.view.next_target := rfl
  obtain ⟨m, parser, hread, hidle, hemits⟩ :=
    e.take_active a.accepts hc hfit hmirrors (fun _ => id) hhealthy hstate
    (by omega) hmsg hw hlen htarget h.pos (by omega)
  have hreceived : Charter b (e.station.received parser (e.station.view.next_target + 1)
      (if is_admin_msg msg.msg_type then [] else [m])).view :=
    ⟨hc.cfg, hc.env, hidle, hc.closed, hc.polite⟩
  refine ⟨hemits.charter hreceived, hemits.state.trans hstate,
    ⟨d ++ if is_admin_msg msg.msg_type then [] else [m], ?_⟩, _, hemits, rfl, rfl, rfl⟩
  refine InOrder.receiver_emits ?_ hemits
  refine ⟨⟨ws, rfl, hnext m hread⟩, ?_, Nat.succ_ne_zero _⟩
  show e.station.view.deliveries ++ _ = _
  rw [h.deliveries, List.append_assoc]

end FixEngine
