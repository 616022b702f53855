/-
`Delivery.lean` -- what is sent over a lossless link arrives once and in order.

From the start of the connection the link goes through three phases: the Logon is on its
way, the answer is on its way, both ends are established. A session without a frame for its
Logon never leaves the start. Every phase fixes the number under which the next frame of
each direction goes out and the one at which it is expected, whatever the reset flags of
the two ends are, so that each lane is in order from the moment its receiver is established
(`Phase`). A tick and a call of `send()` keep the phase, and a delivery keeps it or leads on
to the next one; so the invariant holds of every link that the start leads to.
-/
import FixEngine.Link

set_option autoImplicit false

namespace FixEngine

open IMessageStore

/-! ## The phases of a link -/

/-- The station has accepted and delivered nothing on this connection. -/
def Station.Unused (v₀ : View) (p : Station) : Prop :=
  p.accepted = [] ∧ p.view.deliveries = v₀.deliveries

/-- How far the connection has come; `a` and `b` are the views of the two ends before it. -/
inductive Phase (a b : View) (p q : Station) : Prop where
  /-- There is no frame for the Logon. -/
  | idle (hp : p.view.state = .NotConnected) (hq : q.view.state = .WaitingLogon)
      (hout : p.outgoing = []) (hin : q.outgoing = []) (hp' : p.Unused a) (hq' : q.Unused b)
  /-- The Logon is on its way. -/
  | calling {w : Bytes} {n : ℕ} (hp : p.view.state = .LogonSent) (hq : q.view.state = .WaitingLogon)
      (hlogon : LogonFrame a.cfg.id p.view.heartbeat_sec a.cfg.reset_on_logon n w)
      (hout : p.outgoing = [w]) (hin : q.outgoing = []) (hp' : p.Unused a) (hq' : q.Unused b)
      (hsent : p.view.next_sender = n + 1)
      (hto : q.view.base_target a.cfg.reset_on_logon ≤ n + 1)
      (hfrom : (if b.cfg.reset_on_logon then 1 else p.view.next_target) ≤ q.view.first_number + 1)
  /-- The answer is on its way. -/
  | answered {w : Bytes} {n : ℕ} {d : List Message} (hp : p.view.state = .LogonSent)
      (hq : q.view.state = .Active)
      (hlogon : LogonFrame b.cfg.id p.view.heartbeat_sec b.cfg.reset_on_logon n w)
      (hpos : 0 < p.view.heartbeat_sec)
      (hout : InOrder a b p q d) (hin : q.Sends b a.accepts [w] (n + 1) [])
      (hdeliveries : p.view.deliveries = a.deliveries)
      (hfrom : (if b.cfg.reset_on_logon then 1 else p.view.next_target) ≤ n + 1)
  /-- Both ends are established. -/
  | established {d d' : List Message} (hp : p.view.state = .Active) (hq : q.view.state = .Active)
      (hout : InOrder a b p q d) (hin : InOrder b a q p d')

namespace Phase

variable {a b : View} {p p' q q' : Station}

theorem initiator_proceeds (h : Phase a b p q) (hp' : p.Proceeds a b.accepts p') :
    Phase a b p' q := by
  rcases hp' with rfl | ⟨hactive, hemits⟩
  · exact h
  cases h with
  | idle hp => exact absurd (hp.symm.trans hactive) (by simp)
  | calling hp => exact absurd (hp.symm.trans hactive) (by simp)
  | answered hp => exact absurd (hp.symm.trans hactive) (by simp)
  | established hp hq hout hin =>
    exact .established (hemits.state.trans hp) hq (hout.sender_emits hemits)
      (hin.receiver_emits hemits)

theorem acceptor_proceeds (h : Phase a b p q) (hq' : q.Proceeds b a.accepts q') :
    Phase a b p q' := by
  rcases hq' with rfl | ⟨hactive, hemits⟩
  · exact h
  cases h with
  | idle _ hq => exact absurd (hq.symm.trans hactive) (by simp)
  | calling _ hq => exact absurd (hq.symm.trans hactive) (by simp)
  | answered hp hq hlogon hpos hout hin hdeliveries hfrom =>
    -- the acceptor may send behind its answer before the initiator has it
    exact .answered hp (hemits.state.trans hq) hlogon hpos (hout.receiver_emits hemits)
      (hin.emits hemits) hdeliveries
      hfrom
  | established hp hq hout hin =>
    exact .established hp (hemits.state.trans hq) (hout.receiver_emits hemits)
      (hin.sender_emits hemits)

end Phase

/-! ## The invariant -/

/-- What holds of a link whose ends are up. -/
structure LinkInv {σ τ : Type} [IMessageStore σ] [IMessageStore τ] (a b : View)
    (l : Link σ τ) : Prop where
  charter_initiator : Charter a l.initiator.station.view
  charter_acceptor : Charter b l.acceptor.station.view
  healthy_initiator : Healthy l.initiator.session.store
  healthy_acceptor : Healthy l.acceptor.session.store
  phase : Phase a b l.initiator.station l.acceptor.station

/-- What the two ends are set up with. -/
structure Paired (a b : View) : Prop where
  initiator : a.cfg.initiator = true
  acceptor : b.cfg.initiator = false
  mirrors : Mirrors a.cfg.id b.cfg.id
  fitting_initiator : Fitting a
  fitting_acceptor : Fitting b

theorem Paired.mirrors_back {a b : View} (h : Paired a b) : Mirrors b.cfg.id a.cfg.id :=
  ⟨h.mirrors.version.symm, h.mirrors.target.symm, h.mirrors.sender.symm⟩

/-- The numbers before the connection: without a reset no end expects more than the other
has sent, and there is a number behind that of the Logon. -/
structure Baseline (a b : View) : Prop where
  room : a.next_sender + 1 < 2 ^ 64
  to_acceptor : a.cfg.reset_on_logon = false → b.cfg.reset_on_logon = false →
    b.next_target ≤ a.next_sender
  to_initiator : a.cfg.reset_on_logon = false → b.cfg.reset_on_logon = false →
    a.next_target ≤ b.next_sender

namespace Baseline

variable {a b : View}

theorem base_target_le (h : Baseline a b) :
    b.base_target a.cfg.reset_on_logon ≤ a.first_number + 1 := by
  have hto := h.to_acceptor
  rw [View.base_target, View.first_number]
  rcases ha : a.cfg.reset_on_logon with _ | _ <;> rcases hb : b.cfg.reset_on_logon with _ | _
  · exact (hto ha hb).trans (Nat.le_succ _)
  all_goals exact Nat.le_add_left 1 _

theorem answer_target_le (h : Baseline a b) :
    (if b.cfg.reset_on_logon then 1 else a.base_target false) ≤ b.first_number + 1 := by
  have hfrom := h.to_initiator
  rw [View.base_target, View.first_number]
  rcases ha : a.cfg.reset_on_logon with _ | _ <;> rcases hb : b.cfg.reset_on_logon with _ | _
  · exact (hfrom ha hb).trans (Nat.le_succ _)
  all_goals exact Nat.le_add_left 1 _

end Baseline

namespace Link

variable {σ τ : Type}

/-- Neither end has disconnected or logged out. -/
structure Up (l : Link σ τ) : Prop where
  initiator : l.initiator.session.state ≠ .Disconnected ∧ l.initiator.session.state ≠ .LogoutSent
  acceptor : l.acceptor.session.state ≠ .Disconnected ∧ l.acceptor.session.state ≠ .LogoutSent

variable [IMessageStore σ] [IMessageStore τ]

/-- The numbers are not about to run out: no operation sends more than three frames. -/
structure Room (l : Link σ τ) : Prop where
  initiator : l.initiator.session.next_sender + 3 < 2 ^ 64
  acceptor : l.acceptor.session.next_sender + 3 < 2 ^ 64

/-- What `send()` is given: messages of the application, such that what is read of them at
the other end is known there. -/
def Admits (a b : View) (to_acceptor to_initiator : Message → Prop) : LinkMove → Prop
  | .send_initiator msg => AppMessage a.cfg.id to_acceptor msg
  | .send_acceptor msg => AppMessage b.cfg.id to_initiator msg
  | _ => True

/-- A move of a link that is up and stays up. -/
def Step (a b : View) (to_acceptor to_initiator : Message → Prop) (l l' : Link σ τ) : Prop :=
  l.Up ∧ l'.Up ∧ ∃ m, Admits a b to_acceptor to_initiator m ∧ l' = l.move m

end Link

/-! ## What each move keeps -/

namespace LinkInv

variable {σ τ : Type} [IMessageStore σ] [IMessageStore τ] [StoreContract σ] [StoreContract τ]
  {a b : View}
variable {l : Link σ τ}

omit [StoreContract σ] [StoreContract τ] in
theorem initiator_proceeds {e : Endpoint σ} (h : LinkInv a b l) (he : Healthy e.session.store)
    (hp : l.initiator.station.Proceeds a b.accepts e.station) :
    LinkInv a b { l with initiator := e } := by
  refine ⟨?_, h.charter_acceptor, he, h.healthy_acceptor, h.phase.initiator_proceeds hp⟩
  rcases hp with heq | ⟨-, hemits⟩
  · show Charter a e.station.view
    rw [heq]
    exact h.charter_initiator
  · exact hemits.charter h.charter_initiator

omit [StoreContract σ] [StoreContract τ] in
theorem acceptor_proceeds {e : Endpoint τ} (h : LinkInv a b l) (he : Healthy e.session.store)
    (hq : l.acceptor.station.Proceeds b a.accepts e.station) :
    LinkInv a b { l with acceptor := e } := by
  refine ⟨h.charter_initiator, ?_, h.healthy_initiator, he, h.phase.acceptor_proceeds hq⟩
  rcases hq with heq | ⟨-, hemits⟩
  · show Charter b e.station.view
    rw [heq]
    exact h.charter_acceptor
  · exact hemits.charter h.charter_acceptor

omit [StoreContract σ] in
/-- **A delivery to the acceptor**: the Logon is answered, or a frame of the lane is taken in. -/
theorem deliver_to_acceptor (hpair : Paired a b) (h : LinkInv a b l) (hroom : l.Room)
    (hup : (l.move .deliver_to_acceptor).Up) : LinkInv a b (l.move .deliver_to_acceptor) := by
  rcases hqueue : l.initiator.outgoing with _ | ⟨w, ws⟩
  · have hsame : l.move .deliver_to_acceptor = l := by rw [Link.move, hqueue]
    rw [hsame]
    exact h
  have hmove : l.move .deliver_to_acceptor =
      ⟨{ l.initiator with outgoing := ws }, l.acceptor.take w⟩ := by
    rw [Link.move, hqueue]
  rw [hmove] at hup ⊢
  have hhealthy : Healthy (l.acceptor.take w).session.store :=
    Endpoint.healthy_take h.healthy_acceptor w
  have hto : l.initiator.station.outgoing = w :: ws := hqueue
  have hsends : l.initiator.station.view.next_sender + 3 < 2 ^ 64 := hroom.initiator
  have hreplies : l.acceptor.session.next_sender + 3 < 2 ^ 64 := hroom.acceptor
  cases h.phase with
  | idle _ _ hout => exact absurd (hto.symm.trans hout) (by simp)
  | @calling w' n hp hq hlogon hout hin hp' hq' hsent hbase hfrom =>
    obtain ⟨rfl, rfl⟩ : w = w' ∧ ws = [] := List.cons.inj (hto.symm.trans hout)
    -- the acceptor ends the connection over an interval that is not positive
    have hpos : 0 < l.initiator.station.view.heartbeat_sec := by
      by_contra hneg
      have hdown :=
        Endpoint.refuse_logon h.charter_acceptor hpair.mirrors h.healthy_acceptor hq
          hlogon (by omega)
        (not_lt.mp hneg)
      exact hup.acceptor.1 hdown
    obtain ⟨w', hanswer, hcharter, hactive, hnext, htarget, hdelivered, hoff, haccepted⟩ :=
      Endpoint.answer_logon h.charter_acceptor hpair.fitting_acceptor hpair.mirrors
        h.healthy_acceptor hq
        hpair.acceptor hlogon hpos (by omega) (by omega)
    have hexpected : (l.acceptor.take w).station.view.next_target = n + 1 := by
      rw [htarget]
      exact max_eq_right hbase
    have hthere : InOrder a b { l.initiator.station with outgoing := [] }
        (l.acceptor.take w).station [] := by
      refine ⟨⟨[], rfl, ?_⟩, ?_, ?_⟩
      · show Conveys _ _ _ _ l.initiator.station.view.next_sender l.initiator.station.accepted _
        rw [hexpected, hsent, hp'.1]
        exact .nil _
      · rw [List.append_nil, hdelivered]
        exact hq'.2
      · rw [hexpected]
        exact Nat.succ_ne_zero n
    have hback :
        (l.acceptor.take w).station.Sends b a.accepts [w']
          (l.acceptor.session.view.first_number + 1) [] := by
      refine ⟨[], ?_, ?_⟩
      · rw [hoff, show l.acceptor.outgoing = [] from hin]
        rfl
      · rw [hnext, haccepted, show l.acceptor.accepted = [] from hq'.1]
        exact .nil _
    exact ⟨h.charter_initiator, hcharter, h.healthy_initiator, hhealthy,
      .answered hp hactive hanswer hpos hthere hback hp'.2 hfrom⟩
  | answered hp hq hlogon hpos hout hin hdeliveries hfrom =>
    obtain ⟨hcharter, hactive, ⟨d', hlane⟩, q, hemits, hqueue', haccepted, hnext⟩ :=
      Endpoint.deliver_active h.charter_acceptor hpair.fitting_acceptor hpair.mirrors
        h.healthy_acceptor hq hreplies
        hsends hout hto
    refine ⟨h.charter_initiator, hcharter, h.healthy_initiator, hhealthy,
      .answered hp hactive hlogon hpos hlane ?_ hdeliveries hfrom⟩
    exact (hin.congr hqueue' hnext haccepted).emits hemits
  | established hp hq hout hin =>
    obtain ⟨hcharter, hactive, ⟨d', hlane⟩, q, hemits, hqueue', haccepted, hnext⟩ :=
      Endpoint.deliver_active h.charter_acceptor hpair.fitting_acceptor hpair.mirrors
        h.healthy_acceptor hq hreplies
        hsends hout hto
    exact ⟨h.charter_initiator, hcharter, h.healthy_initiator, hhealthy,
      .established hp hactive hlane
      ⟨(hin.sends.congr hqueue' hnext haccepted).emits hemits, hin.deliveries, hin.pos⟩⟩

omit [StoreContract τ] in
/-- **A delivery to the initiator**: the answer completes the handshake, or a frame of the lane
is taken in. -/
theorem deliver_to_initiator (hpair : Paired a b) (h : LinkInv a b l) (hroom : l.Room) :
    LinkInv a b (l.move .deliver_to_initiator) := by
  rcases hqueue : l.acceptor.outgoing with _ | ⟨w, ws⟩
  · have hsame : l.move .deliver_to_initiator = l := by rw [Link.move, hqueue]
    rw [hsame]
    exact h
  have hmove : l.move .deliver_to_initiator =
      ⟨l.initiator.take w, { l.acceptor with outgoing := ws }⟩ := by
    rw [Link.move, hqueue]
  rw [hmove]
  have hhealthy : Healthy (l.initiator.take w).session.store :=
    Endpoint.healthy_take h.healthy_initiator w
  have hfrom' : l.acceptor.station.outgoing = w :: ws := hqueue
  have hsends : l.acceptor.station.view.next_sender + 3 < 2 ^ 64 := hroom.acceptor
  have hreplies : l.initiator.session.next_sender + 3 < 2 ^ 64 := hroom.initiator
  cases h.phase with
  | idle _ _ _ hin => exact absurd (hfrom'.symm.trans hin) (by simp)
  | calling _ _ _ _ hin => exact absurd (hfrom'.symm.trans hin) (by simp)
  | @answered w' n d hp hq hlogon hpos hout hin hdeliveries hfrom =>
    obtain ⟨rest, hrest, hlane⟩ := hin
    obtain ⟨rfl, rfl⟩ : w = w' ∧ ws = rest := List.cons.inj (hfrom'.symm.trans hrest)
    have hnumber : n + 1 ≤ l.acceptor.station.view.next_sender := hlane.le
    obtain ⟨hcharter, hactive, hnext, htarget, hdelivered, hoff, haccepted⟩ :=
      Endpoint.complete_logon h.charter_initiator hpair.mirrors_back h.healthy_initiator hp hlogon
        hpos rfl (by omega)
    have hexpected : (l.initiator.take w).station.view.next_target = n + 1 := by
      rw [htarget]
      exact max_eq_right hfrom
    have hback : InOrder b a { l.acceptor.station with outgoing := ws }
        (l.initiator.take w).station [] := by
      refine ⟨⟨ws, rfl, ?_⟩, ?_, ?_⟩
      · rw [hexpected]
        exact hlane
      · rw [List.append_nil, hdelivered]
        exact hdeliveries
      · rw [hexpected]
        exact Nat.succ_ne_zero n
    exact ⟨hcharter, h.charter_acceptor, hhealthy, h.healthy_acceptor,
      .established hactive hq ⟨hout.sends.congr hoff hnext haccepted, hout.deliveries,
      hout.pos⟩ hback⟩
  | established hp hq hout hin =>
    obtain ⟨hcharter, hactive, ⟨d', hlane⟩, p, hemits, hqueue', haccepted, hnext⟩ :=
      Endpoint.deliver_active h.charter_initiator hpair.fitting_initiator hpair.mirrors_back
        h.healthy_initiator hp
        hreplies hsends hin hfrom'
    exact ⟨hcharter, h.charter_acceptor, hhealthy, h.healthy_acceptor, .established hactive hq
      ⟨(hout.sends.congr hqueue' hnext haccepted).emits hemits, hout.deliveries, hout.pos⟩ hlane⟩

/-- **One move.** -/
theorem step {l' : Link σ τ} (hpair : Paired a b) (h : LinkInv a b l) (hroom : l.Room)
    (hstep : l.Step a b b.accepts a.accepts l') : LinkInv a b l' := by
  obtain ⟨hup, hup', m, hadmits, rfl⟩ := hstep
  cases m with
  | deliver_to_acceptor => exact h.deliver_to_acceptor hpair hroom hup'
  | deliver_to_initiator => exact h.deliver_to_initiator hpair hroom
  | tick_initiator =>
    rcases Endpoint.tick_proceeds b.accepts h.charter_initiator hpair.fitting_initiator
      h.healthy_initiator
      hup.initiator.2 hroom.initiator with hdown | hp
    · exact absurd hdown hup'.initiator.1
    · exact h.initiator_proceeds (Endpoint.healthy_tick h.healthy_initiator) hp
  | tick_acceptor =>
    rcases Endpoint.tick_proceeds a.accepts h.charter_acceptor hpair.fitting_acceptor
      h.healthy_acceptor
      hup.acceptor.2 hroom.acceptor with hdown | hq
    · exact absurd hdown hup'.acceptor.1
    · exact h.acceptor_proceeds (Endpoint.healthy_tick h.healthy_acceptor) hq
  | send_initiator msg =>
    exact h.initiator_proceeds (Endpoint.healthy_send h.healthy_initiator msg)
      (Endpoint.send_proceeds h.charter_initiator h.healthy_initiator hroom.initiator hadmits)
  | send_acceptor msg =>
    exact h.acceptor_proceeds (Endpoint.healthy_send h.healthy_acceptor msg)
      (Endpoint.send_proceeds h.charter_acceptor h.healthy_acceptor hroom.acceptor hadmits)

end LinkInv

/-! ## The start of a connection -/

theorem StreamParser.idle_reset {p : StreamParser} (h : p.opts = {}) : p.reset.Idle :=
  ⟨h, rfl, rfl, rfl⟩

namespace Endpoint

variable {σ : Type} [IMessageStore σ] {s : Session σ}

theorem connect_acceptor (haccepts : s.cfg.initiator = false) :
    (connect s).station = ⟨s.view.connected .WaitingLogon, [], []⟩ ∧
    (connect s).session.store = s.store := by
  obtain ⟨hview, hstore⟩ := Session.connected_acceptor haccepts
  have hframes : s.on_transport_connected.wire_trace = s.wire_trace ++ [] := by
    rw [List.append_nil]
    exact congrArg View.frames hview
  have hstation : (connect s).station = _ :=
    step_station (e := ⟨s, [], []⟩) Session.on_transport_connected hframes
  rw [hstation, hview]
  exact ⟨rfl, hstore⟩

variable [StoreContract σ]

theorem connect_initiator (hhealthy : Healthy s.store) (hinit : s.cfg.initiator = true)
    (hfit : Fitting s.view) (hroom : s.next_sender + 1 < 2 ^ 64) :
    (∃ w, LogonFrame s.cfg.id s.heartbeat_sec s.cfg.reset_on_logon s.view.first_number w ∧
      (connect s).station = ⟨{ s.view.connected .LogonSent with
        next_sender := s.view.first_number + 1
        next_target := s.view.base_target false
        frames := s.view.frames ++ [w] }, [w], []⟩) ∨
    ∃ st, (st = .NotConnected ∨ st = .Disconnected) ∧
    (connect s).station = ⟨{ s.view.connected st with
      next_sender := s.view.first_number
      next_target := s.view.base_target false }, [], []⟩ := by
  have hgreets : ∀ st st', (s.view.connected st).greets st' = { s.view.connected st' with
      next_sender := s.view.first_number
      next_target := s.view.base_target false } := by
    intro st st'
    rw [View.greets_eq]
    rfl
  have hnumber : s.view.first_number + 1 < 2 ^ 64 := View.first_number_lt hroom
  obtain ⟨-, hcall⟩ := Session.connected_initiator hhealthy hroom hinit
  by_cases hbuild : Buildable s.cfg.id (logon_message s.cfg s.heartbeat_sec)
  · rw [if_pos hbuild] at hcall
    obtain ⟨w, hw, hview⟩ := hcall
    rw [hgreets] at hw hview
    have hframes : s.on_transport_connected.wire_trace = s.wire_trace ++ [w] :=
      congrArg View.frames hview
    have hstation : (connect s).station = _ :=
      step_station (e := ⟨s, [], []⟩) Session.on_transport_connected hframes
    left
    refine ⟨w, logonFrame_of_carries hfit s.cfg.heartbeat_interval rfl hfit.interval
      (Nat.lt_of_succ_lt hnumber) hw, ?_⟩
    rw [hstation, hview, View.sent]
    dsimp only
    rw [seq_succ_of_lt hnumber]
    rfl
  · rw [if_neg hbuild] at hcall
    obtain ⟨st, hst, hview⟩ := hcall
    rw [hgreets] at hview
    have hframes : s.on_transport_connected.wire_trace = s.wire_trace ++ [] := by
      rw [List.append_nil]
      exact congrArg View.frames hview
    have hstation : (connect s).station = _ :=
      step_station (e := ⟨s, [], []⟩) Session.on_transport_connected hframes
    right
    refine ⟨st, hst, ?_⟩
    rw [hstation, hview]
    rfl

end Endpoint

theorem charter_connected {v₀ : View} (hfit : Fitting v₀) (st : SessionState) (ns nt : ℕ) :
    Charter v₀ { v₀.connected st with next_sender := ns, next_target := nt } :=
  ⟨rfl, rfl, StreamParser.idle_reset hfit.parser, rfl, [], (List.append_nil _).symm, by simp⟩

namespace LinkInv

variable {σ τ : Type} [IMessageStore σ] [IMessageStore τ] [StoreContract σ] {s : Session σ}
  {t : Session τ}

/-- **The start.** -/
theorem connect (hpair : Paired s.view t.view) (hbase : Baseline s.view t.view)
    (hs : Healthy s.store) (ht : Healthy t.store) (hup : (Link.connect s t).Up) :
    LinkInv s.view t.view (Link.connect s t) := by
  obtain ⟨hstation, hstore⟩ := Endpoint.connect_acceptor hpair.acceptor
  have hhealthy : Healthy (Endpoint.connect s).session.store :=
    (Session.connected_initiator hs hbase.room hpair.initiator).1
  have hhealthy' : Healthy (Endpoint.connect t).session.store := hstore.symm ▸ ht
  have hcharter : Charter t.view (Endpoint.connect t).station.view := by
    rw [hstation]
    exact charter_connected hpair.fitting_acceptor .WaitingLogon t.view.next_sender
      t.view.next_target
  rcases Endpoint.connect_initiator hs hpair.initiator hpair.fitting_initiator hbase.room with
    ⟨w, hlogon, hcalling⟩ | ⟨st, hst, hidle⟩
  · refine ⟨?_, hcharter, hhealthy, hhealthy', ?_⟩
    · show Charter s.view (Endpoint.connect s).station.view
      rw [hcalling]
      apply (charter_connected hpair.fitting_initiator .LogonSent 0 _).extend
      intro w' hw'
      rw [List.mem_singleton.mp hw']
      exact polite_logonFrame hlogon
    · show Phase s.view t.view (Endpoint.connect s).station (Endpoint.connect t).station
      rw [hcalling, hstation]
      refine .calling rfl rfl hlogon rfl rfl ⟨rfl, rfl⟩ ⟨rfl, rfl⟩ rfl ?_ ?_
      · exact hbase.base_target_le
      · exact hbase.answer_target_le
  · have hstate : st = .NotConnected := by
      have hup' : (Endpoint.connect s).station.view.state ≠ .Disconnected := hup.initiator.1
      rw [hidle] at hup'
      exact hst.resolve_right hup'
    refine ⟨?_, hcharter, hhealthy, hhealthy', ?_⟩
    · show Charter s.view (Endpoint.connect s).station.view
      rw [hidle]
      exact charter_connected hpair.fitting_initiator st _ _
    · show Phase s.view t.view (Endpoint.connect s).station (Endpoint.connect t).station
      rw [hidle, hstation, hstate]
      exact .idle rfl rfl rfl rfl ⟨rfl, rfl⟩ ⟨rfl, rfl⟩

end LinkInv

/-! ## Whole runs -/

/-- The direction from `e`, whose view was `v₀` at the start, to `r`, which had delivered the
messages `before`. -/
structure Arrives {σ τ : Type} [IMessageStore σ] [IMessageStore τ] (v₀ : View)
    (before : List Message) (e : Endpoint σ) (r : Endpoint τ) : Prop where
  /-- The frames on their way carry the numbers from NextTarget up to NextSender. -/
  in_flight : r.session.state = .Active → r.session.next_target ≤ e.session.next_sender ∧
    List.Forall₂ (fun w n => Session.FrameOf v₀.cfg.id n w) e.outgoing
      (List.range' r.session.next_target (e.session.next_sender - r.session.next_target))
  /-- `on_message` was given the first of the messages that `send()` has accepted, each once. -/
  delivered : ∃ got done, r.session.deliveries = before ++ got ∧ done <+: e.accepted ∧
    List.Forall₂ (fun msg d => ∃ n, ReadAs v₀.cfg.id msg n d) done got
  /-- No ResendRequest, Reject or Logout was emitted. -/
  polite : ∃ ws, e.session.wire_trace = v₀.frames ++ ws ∧ ∀ w ∈ ws, Polite w

/-- Both directions of a link. -/
structure ExactlyOnce {σ τ : Type} [IMessageStore σ] [IMessageStore τ] (a b : View)
    (l : Link σ τ) : Prop where
  to_acceptor : Arrives a b.deliveries l.initiator l.acceptor
  to_initiator : Arrives b a.deliveries l.acceptor l.initiator

namespace Arrives

variable {σ τ : Type} [IMessageStore σ] [IMessageStore τ] {a b : View} {e : Endpoint σ}
  {r : Endpoint τ}

theorem of_waiting (hc : Charter a e.station.view) (hstate : r.station.view.state ≠ .Active)
    (hdeliveries : r.station.view.deliveries = b.deliveries) : Arrives a b.deliveries e r where
  in_flight := fun hactive => absurd hactive hstate
  delivered := ⟨[], [], hdeliveries.trans (List.append_nil _).symm, List.nil_prefix, .nil⟩
  polite := hc.polite

theorem of_lane {d : List Message} (hc : Charter a e.station.view)
    (h : InOrder a b e.station r.station d) :
    Arrives a b.deliveries e r := by
  obtain ⟨rest, hout, hlane⟩ := h.sends
  have hle := hlane.le
  obtain ⟨msgs, done, hflow, -, -, haccepted, hdone⟩ := hlane
  have hqueue : e.outgoing = rest := hout
  refine ⟨fun _ => ⟨hle, ?_⟩,
    ⟨d, done, h.deliveries, ⟨app_messages msgs, haccepted.symm⟩, hdone⟩, hc.polite⟩
  rw [hqueue]
  exact hflow.numbers

end Arrives

namespace LinkInv

variable {σ τ : Type} [IMessageStore σ] [IMessageStore τ] {a b : View} {l : Link σ τ}

theorem exactlyOnce (h : LinkInv a b l) : ExactlyOnce a b l := by
  cases h.phase with
  | idle hp hq _ _ hp' hq' =>
    exact ⟨.of_waiting h.charter_initiator (by rw [hq]; decide) hq'.2,
      .of_waiting h.charter_acceptor (by rw [hp]; decide) hp'.2⟩
  | calling hp hq _ _ _ hp' hq' =>
    exact ⟨.of_waiting h.charter_initiator (by rw [hq]; decide) hq'.2,
      .of_waiting h.charter_acceptor (by rw [hp]; decide) hp'.2⟩
  | answered hp _ _ _ hout _ hdeliveries =>
    exact ⟨.of_lane h.charter_initiator hout,
      .of_waiting h.charter_acceptor (by rw [hp]; decide) hdeliveries⟩
  | established _ _ hout hin =>
    exact ⟨.of_lane h.charter_initiator hout, .of_lane h.charter_acceptor hin⟩

end LinkInv

/-- **Delivery over a lossless link.** Take an initiator and an acceptor that mirror each other,
over stores that work, with any reset flags and any numbers that the flags or the numbers
themselves bring together. Whatever the order of deliveries, ticks and calls of `send()`, as
long as both ends stay up, the numbers do not run out and the dictionaries have nothing
against the messages: an established receiver finds the numbers from its NextTarget up to
the sender's NextSender on their way, its `on_message` was given the first of the accepted
messages, each once and in order, and neither end has emitted a ResendRequest, a Reject or a
Logout. -/
theorem Link.exactly_once {σ τ : Type} [IMessageStore σ] [IMessageStore τ] [StoreContract σ]
    [StoreContract τ] {s : Session σ} {t : Session τ} {l : Link σ τ} (hpair : Paired s.view t.view)
    (hbase : Baseline s.view t.view) (hs : Healthy s.store) (ht : Healthy t.store)
    (hrun : Relation.ReflTransGen
      (fun l l' => l.Room ∧ l.Step s.view t.view t.view.accepts s.view.accepts l')
        (Link.connect s t) l) (hup : l.Up) : ExactlyOnce s.view t.view l := by
  -- the invariant holds at the start, and each move keeps it
  have hinv : LinkInv s.view t.view l := by
    induction hrun with
    | refl => exact .connect hpair hbase hs ht hup
    | tail _ hmove ih =>
      obtain ⟨hroom, hstep⟩ := hmove
      exact (ih hstep.1).step hpair hroom hstep
  exact hinv.exactlyOnce

/-! ## Two ends that trade -/

namespace Link

variable {σ τ : Type} [IMessageStore σ] [IMessageStore τ] {a b : View} {l : Link σ τ}
variable {to_acceptor to_initiator : Message → Prop}

/-- The moves one after the other. -/
def run (l : Link σ τ) (ms : List LinkMove) : Link σ τ := ms.foldl move l

instance (l : Link σ τ) : Decidable l.Up :=
  decidable_of_iff
    ((l.initiator.session.state ≠ .Disconnected ∧ l.initiator.session.state ≠ .LogoutSent) ∧
      l.acceptor.session.state ≠ .Disconnected ∧ l.acceptor.session.state ≠ .LogoutSent)
    ⟨fun h => ⟨h.1, h.2⟩, fun h => ⟨h.initiator, h.acceptor⟩⟩

/-- Both ends are up all the time, and their numbers are below the limit before each move. -/
def StaysUp (limit : ℕ) : Link σ τ → List LinkMove → Prop
  | l, [] => l.Up
  | l, m :: ms =>
    l.Up ∧ (l.initiator.session.next_sender < limit ∧ l.acceptor.session.next_sender < limit) ∧
      StaysUp limit (l.move m) ms

instance decidableStaysUp (limit : ℕ) :
    (l : Link σ τ) → (ms : List LinkMove) → Decidable (StaysUp limit l ms)
  | l, [] => inferInstanceAs (Decidable l.Up)
  | l, m :: ms =>
    have := decidableStaysUp limit (l.move m) ms
    inferInstanceAs (Decidable (l.Up ∧ _ ∧ StaysUp limit (l.move m) ms))

theorem StaysUp.reaches {limit : ℕ} {ms : List LinkMove} (h : StaysUp limit l ms)
    (hadmits : ∀ m ∈ ms, Admits a b to_acceptor to_initiator m) :
    Relation.ReflTransGen (fun l l' => (l.initiator.session.next_sender < limit ∧
      l.acceptor.session.next_sender < limit) ∧ l.Step a b to_acceptor to_initiator l') l
        (l.run ms) ∧
      (l.run ms).Up := by
  induction ms generalizing l with
  | nil => exact ⟨.refl, h⟩
  | cons m ms ih =>
    obtain ⟨hup, hlimit, hrest⟩ := h
    have hup' : (l.move m).Up := by
      cases ms with
      | nil => exact hrest
      | cons _ _ => exact hrest.1
    obtain ⟨hreach, hlast⟩ := ih hrest fun m' hm' => hadmits m' (List.mem_cons_of_mem m hm')
    exact ⟨.head ⟨hlimit, hup, hup', m, hadmits m List.mem_cons_self, rfl⟩ hreach, hlast⟩

end Link

/-- An initiator whose next number is `n`. -/
def client (n : ℕ) : Session MemoryStore :=
  Session.create quiet_config ⟨n, 1, .empty, .empty⟩ quiet_env

/-- The acceptor at the other end; its dictionary, if it is consulted, is against orders. -/
def broker (consults : Bool) : Session MemoryStore :=
  Session.create
    { quiet_config with
      id := { quiet_config.id with senderCompID := ascii "BROKER", targetCompID := ascii "CLIENT" }
      initiator := false
      validate_fields := consults }
    MemoryStore.create
    { quiet_env with
      validate := fun m => if m.msg_type = ascii "D" then some .ValidationError else none }

theorem fitting_create {σ : Type} [IMessageStore σ] {cfg : SessionConfig} (store : σ) {env : Env}
    (hint : cfg.heartbeat_interval < 2 ^ 31) (hcount : ∀ k, env.test_req_counter k < 2 ^ 64)
    (hsizes : cfg.id.senderCompID.length + cfg.id.targetCompID.length + cfg.username.length
      + cfg.password.length + cfg.default_appl_ver_id.length + 256 ≤ 2 ^ 20) :
    Fitting (Session.create cfg store env).view := by
  refine ⟨rfl, ?_, hcount, hsizes⟩
  show -(2 ^ 31) ≤ max 1 cfg.heartbeat_interval ∧ max 1 cfg.heartbeat_interval < 2 ^ 31
  omega

theorem paired_broker (n : ℕ) (consults : Bool) :
    Paired (client n).view (broker consults).view where
  initiator := rfl
  acceptor := rfl
  mirrors := ⟨rfl, rfl, rfl⟩
  fitting_initiator := fitting_create _ (by decide) (fun _ => Nat.two_pow_pos 64) (by decide)
  fitting_acceptor := by
    apply fitting_create
    · show (30 : ℤ) < 2 ^ 31
      norm_num
    · exact fun _ => Nat.two_pow_pos 64
    · show 6 + 6 + 0 + 0 + 0 + 256 ≤ 2 ^ 20
      norm_num

theorem baseline_broker {n : ℕ} (hpos : 1 ≤ n) (hroom : n + 1 < 2 ^ 64) (consults : Bool) :
    Baseline (client n).view (broker consults).view :=
  ⟨hroom, fun _ _ => hpos, fun _ _ => le_rfl⟩

/-- A message of the application. -/
def notice (kind : Bytes) : Message :=
  (Message.of_type kind).set_discard tags.Text (ascii "all or none")

theorem appMessage_notice {known : Message → Prop} {kind : Bytes}
    (htyped : (notice kind).msg_type ≠ []) (happ : is_admin_msg (notice kind).msg_type = false)
    (hsize : own_size (notice kind) ≤ 64) (hknown : ∀ d, known d) :
    AppMessage quiet_config.id known (notice kind) := by
  refine ⟨htyped, happ, (tidy_of_type kind).set_discard.once, ?_, fun _ d _ => hknown d⟩
  intro n w hn hw
  apply carries_fits hw hn
  have hsender : quiet_config.id.senderCompID.length = 6 := by decide
  have htarget : quiet_config.id.targetCompID.length = 6 := by decide
  omega

/-- The client logs on and sends an order and a report, which arrive one after the other. -/
def trading : List LinkMove :=
  [.deliver_to_acceptor, .deliver_to_initiator, .send_initiator (notice (ascii "D")),
    .send_initiator (notice (ascii "8")), .tick_acceptor, .deliver_to_acceptor,
    .deliver_to_acceptor]

theorem admits_trading {a b : View} {to_acceptor to_initiator : Message → Prop}
    (ha : a.cfg.id = quiet_config.id) (hknown : ∀ d, to_acceptor d) :
    ∀ m ∈ trading, Link.Admits a b to_acceptor to_initiator m := by
  have hnotice : ∀ kind, (notice kind).msg_type ≠ [] → is_admin_msg (notice kind).msg_type = false →
      own_size (notice kind) ≤ 64 → AppMessage a.cfg.id to_acceptor (notice kind) := by
    intro kind htyped happ hsize
    rw [ha]
    exact appMessage_notice htyped happ hsize hknown
  intro m hm
  simp only [trading, List.mem_cons, List.not_mem_nil, or_false] at hm
  rcases hm with rfl | rfl | rfl | rfl | rfl | rfl | rfl
  · exact trivial
  · exact trivial
  · exact hnotice _ (by decide) (by decide) (by decide)
  · exact hnotice _ (by decide) (by decide) (by decide)
  · exact trivial
  · exact trivial
  · exact trivial

/-- An order and a report, each delivered once. -/
theorem exactly_once_trading :
    ((Link.connect (client 1) (broker false)).run trading).acceptor.session.deliveries.map
      Message.msg_type =
        [ascii "D", ascii "8"] ∧
      ExactlyOnce (client 1).view (broker false).view
        ((Link.connect (client 1) (broker false)).run trading) := by
  have hstays : Link.StaysUp (2 ^ 64 - 3) (Link.connect (client 1) (broker false)) trading := by
    decide +kernel
  have hknown : ∀ d, (broker false).view.accepts d := View.accepts_of_unvalidated rfl
  have hadmits : ∀ m ∈ trading,
      Link.Admits (client 1).view (broker false).view (broker false).view.accepts
      (client 1).view.accepts m := admits_trading rfl hknown
  obtain ⟨hreach, hup⟩ := hstays.reaches hadmits
  refine ⟨by decide +kernel,
    Link.exactly_once (paired_broker 1 false) (baseline_broker le_rfl (by norm_num) false)
    (healthy_memory_store _) (healthy_memory_store _) ?_ hup⟩
  refine Relation.ReflTransGen.mono ?_ _ _ hreach
  rintro l l' ⟨⟨hinitiator, hacceptor⟩, hstep⟩
  exact ⟨⟨by omega, by omega⟩, hstep⟩

theorem Arrives.types {σ τ : Type} [IMessageStore σ] [IMessageStore τ] {v₀ : View} {e : Endpoint σ}
    {r : Endpoint τ} (h : Arrives v₀ [] e r) :
    r.session.deliveries.map Message.msg_type <+: e.accepted.map Message.msg_type := by
  obtain ⟨got, done, hgot, hdone, hread⟩ := h.delivered
  have htypes : got.map Message.msg_type = done.map Message.msg_type := by
    clear hgot hdone
    induction hread with
    | nil => rfl
    | cons hd _ ih =>
      obtain ⟨n, hd⟩ := hd
      rw [List.map_cons, List.map_cons, hd.msg_type, ih]
  rw [hgot, List.nil_append, htypes]
  exact hdone.map _

/-- **Two ways to fall out of step.** A dictionary at the broker that is against the order: the
report behind it is delivered, the order is not. A client whose numbers run out: number zero
follows, which the broker answers with a Reject. In both the link stays up all the time. -/
theorem exactly_once_fails :
    (Paired (client 1).view (broker true).view ∧ Baseline (client 1).view (broker true).view ∧
      ∃ l, Relation.ReflTransGen
        (Link.Step (client 1).view (broker true).view (fun _ => True) (fun _ => True))
        (Link.connect (client 1) (broker true)) l ∧ l.Up ∧
          ¬ExactlyOnce (client 1).view (broker true).view l) ∧
    (Paired (client (2 ^ 64 - 2)).view (broker false).view ∧
      Baseline (client (2 ^ 64 - 2)).view (broker false).view ∧
      ∃ l, Relation.ReflTransGen
        (Link.Step (client (2 ^ 64 - 2)).view (broker false).view (fun _ => True) (fun _ => True))
        (Link.connect (client (2 ^ 64 - 2)) (broker false)) l ∧ l.Up ∧
        ¬ExactlyOnce (client (2 ^ 64 - 2)).view (broker false).view l) := by
  have hruns : ∀ n consults,
      Link.StaysUp (2 ^ 64) (Link.connect (client n) (broker consults)) trading →
      Relation.ReflTransGen
        (Link.Step (client n).view (broker consults).view (fun _ => True) (fun _ => True))
        (Link.connect (client n) (broker consults))
          ((Link.connect (client n) (broker consults)).run trading) ∧
        ((Link.connect (client n) (broker consults)).run trading).Up := by
    intro n consults hstays
    have hadmits : ∀ m ∈ trading, Link.Admits (client n).view (broker consults).view (fun _ => True)
        (fun _ => True) m := admits_trading rfl fun _ => trivial
    obtain ⟨hreach, hup⟩ := hstays.reaches hadmits
    exact ⟨Relation.ReflTransGen.mono (fun _ _ h => h.2) _ _ hreach, hup⟩
  obtain ⟨hreach, hup⟩ := hruns 1 true (by decide +kernel)
  obtain ⟨hreach', hup'⟩ := hruns (2 ^ 64 - 2) false (by decide +kernel)
  refine ⟨⟨paired_broker 1 true, baseline_broker le_rfl (by norm_num) true, _, hreach, hup,
    fun h => ?_⟩,
    ⟨paired_broker _ false, baseline_broker (by norm_num) (by norm_num) false, _, hreach', hup',
    fun h => ?_⟩⟩
  · -- the deliveries are not the first of the messages accepted
    have htypes := h.to_acceptor.types
    revert htypes
    decide +kernel
  · obtain ⟨ws, hws, hpolite⟩ := h.to_initiator.polite
    have hreject : some msg_types.Reject ∈
        (((Link.connect (client (2 ^ 64 - 2)) (broker false)).run
          trading).acceptor.session.wire_trace.map
          frame_type) := by decide +kernel
    rw [hws] at hreject
    obtain ⟨w, hw, heq⟩ := List.mem_map.mp hreject
    exact (hpolite w hw).2.1 heq

end FixEngine
