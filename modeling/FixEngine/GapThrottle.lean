/-
`GapThrottle.lean` -- the ResendRequests of a gap.

A gap is open from the first message that is ahead until the session catches up, is
disconnected or starts over. `GapMove` is what a call can do to an open gap: leave it, ask
for it, or close it. From that the budget of an episode follows: how many requests it has
seen, when the last one was made, and that they are far enough apart.

The requests are those of the session itself. What the application puts out with `send` and
`send_raw` is its own affair, and is not counted by the session either.
-/
import FixEngine.Silence

set_option autoImplicit false

namespace FixEngine

open IMessageStore

/-! ## Requests -/

/-- A ResendRequest is handed over. -/
def Event.is_request : Event → Bool
  | .do_send _ w => frame_type w = some msg_types.ResendRequest
  | _ => false

/-- The calls with which the application puts out frames of its own. -/
def Call.of_application : Call → Bool
  | .send _ => true
  | .send_raw _ => true
  | _ => false

/-- A ResendRequest, with the time from which the next one is measured. -/
structure Request where
  time : ℤ
  event : Event

theorem filter_handlers {es : List Event} (h : ∀ e ∈ es, e.is_request = false) :
    es.filter Event.is_request = [] := by
  rw [List.filter_eq_nil_iff]
  intro e he
  rw [h e he]
  exact Bool.false_ne_true

theorem filter_plain {es : List Event} (h : Plain es) : es.filter Event.is_request = [] := by
  apply filter_handlers
  intro e he
  have hplain := h e he
  cases e with
  | do_send origin w => exact absurd hplain Bool.false_ne_true
  | _ => rfl

theorem filter_farewell {es : List Event} (h : Farewell es) : es.filter Event.is_request = [] := by
  apply filter_handlers
  intro e he
  obtain ⟨reason, rfl⟩ := h e he
  rfl

namespace Session

variable {σ : Type} [IMessageStore σ] {s : Session σ}

/-- The ResendRequests of the session in a call. -/
def own_requests (s : Session σ) (c : Call) : List Request :=
  if c.of_application then []
  else (((s.call c).io.notes.drop s.io.notes.length).filter Event.is_request).map
    fun e => ⟨(s.call c).gap.rr_last, e⟩

/-- The ResendRequests of the session in a run. -/
def requests (s : Session σ) : List Call → List Request
  | [] => []
  | c :: calls => s.own_requests c ++ (s.call c).requests calls

theorem requests_concat (s : Session σ) (calls : List Call) (c : Call) :
    s.requests (calls ++ [c]) = s.requests calls ++ (s.run calls).own_requests c := by
  induction calls generalizing s with
  | nil => exact List.append_nil _
  | cons d calls ih =>
    rw [List.cons_append, requests, requests, ih, List.append_assoc]
    rfl

theorem Asks.filter {reqs : List Event} (h : Asks s reqs) :
    reqs.filter Event.is_request = reqs := by
  rcases h with rfl | ⟨n, w, rfl, hw⟩
  · rfl
  · refine List.filter_cons_of_pos ?_
    rw [Event.is_request, frame_type_of_carries hw, msg_type_resend_request]
    decide

/-! ## One call -/

/-- It is time for the request `attempt`, at the time `now`. -/
def Turn (s : Session σ) (now attempt : ℤ) : Prop :=
  (s.gap.is_open = false ∧ attempt = 1) ∨
    (s.gap.is_open = true ∧ attempt = s.gap.rr_attempts + 1 ∧ attempt ≤ kMaxGapRetries ∧
      s.heartbeat_sec * 1200 ≤ now - s.gap.rr_last)

/-- What a call makes of the gap. -/
inductive GapMove (s : Session σ) (upto : ℕ) (c : Call) (r : Registers) : Prop where
  | closed (h : r.gap.is_open = false) (es : List Event) (hnotes : r.notes = s.io.notes ++ es)
      (hnone : c.of_application = false → es.filter Event.is_request = [])
  | kept (hgap : r.gap = s.gap) (hsec : r.heartbeat_sec = s.heartbeat_sec) (es : List Event)
      (hnotes : r.notes = s.io.notes ++ es) (hnone : c.of_application = false →
        es.filter Event.is_request = [])
  | asked (k : ℕ) (hk : s.io.reads ≤ k) (hlt : k < upto) (attempt : ℤ)
      (hturn : Turn s (s.io.env.clock k) attempt) (hgap : r.gap = ⟨true, s.io.env.clock k, attempt⟩)
      (hsec : r.heartbeat_sec = s.heartbeat_sec) (hc : c.of_application = false) (es : List Event)
      (hnotes : r.notes = s.io.notes ++ es) (hasks : Asks s (es.filter Event.is_request))

variable {r : Registers} {upto : ℕ} {c : Call}

theorem GapMove.silent (h : r.gap.is_open = false)
    (hnotes : r.notes = s.io.notes) :
    GapMove s upto c r :=
  .closed h [] (by rw [hnotes, List.append_nil]) fun _ => rfl

theorem GapMove.same (hgap : r.gap = s.gap)
    (hsec : r.heartbeat_sec = s.heartbeat_sec) (hnotes : r.notes = s.io.notes) :
    GapMove s upto c r :=
  .kept hgap hsec [] (by rw [hnotes, List.append_nil]) fun _ => rfl

theorem MessageMove.gap {msg : Message} {t : ℤ}
    (h : MessageMove msg s upto (s.registers.heard t) r) : GapMove s upto (.message msg) r := by
  cases h with
  | kept es hes => exact .kept rfl rfl es rfl fun _ => filter_plain hes
  | cleared es hes => exact .closed rfl es rfl fun _ => filter_plain hes
  | ended es hes => exact .closed rfl es rfl fun _ => filter_farewell hes
  | requested hclosed es hes k hk hlt reqs hreqs =>
    refine .asked k hk hlt 1 (.inl ⟨hclosed, rfl⟩) rfl rfl rfl (es ++ reqs) rfl ?_
    rw [List.filter_append, filter_plain hes, hreqs.filter]
    exact hreqs
  | entered hwait h => exact .closed rfl [.on_logon] rfl fun _ => rfl
  | adopted hstate h => exact .silent rfl rfl
  | refused hactive h => exact .silent rfl rfl

omit [IMessageStore σ] in
theorem Probe.gap {now : ℤ} {thrown : Bool}
    (h : Probe s now upto thrown r) :
    (∃ es, r.notes = s.io.notes ++ es ∧ es.filter Event.is_request = []) ∧
      (r.gap = s.gap ∨ r.gap.is_open = false ∧ r.state = .Disconnected) := by
  cases h with
  | quiet => exact ⟨⟨[], (List.append_nil _).symm, rfl⟩, .inl rfl⟩
  | armed hfree hsilent k hk hlt => exact ⟨⟨[], (List.append_nil _).symm, rfl⟩, .inl rfl⟩
  | thrown hset hdeadline => exact ⟨⟨[.on_heartbeat_timeout], rfl, rfl⟩, .inl rfl⟩
  | timed_out hset hdeadline => exact ⟨⟨[.on_heartbeat_timeout], rfl, rfl⟩, .inr ⟨rfl, rfl⟩⟩

theorem TickMove.gap (hlt : s.io.reads < upto) (h : TickMove s upto r) :
    GapMove s upto .timer r := by
  cases h with
  | thrown hthrown hprobe =>
    obtain ⟨⟨es, hnotes, hnone⟩, hgap⟩ := hprobe.gap
    rcases hgap with hsame | ⟨hclosed, -⟩
    · exact .kept hsame hprobe.same.2 es hnotes fun _ => hnone
    · exact .closed hclosed es hnotes fun _ => hnone
  | @ticked r₁ _ hthrown hprobe hretry =>
    obtain ⟨⟨es, hnotes, hnone⟩, hgap⟩ := hprobe.gap
    have hsec := hprobe.same.2
    cases hretry with
    | idle h =>
      rcases hgap with hsame | ⟨hclosed, -⟩
      · exact .kept hsame hsec es hnotes fun _ => hnone
      · exact .closed hclosed es hnotes fun _ => hnone
    | exhausted h hbudget => exact .closed rfl es hnotes fun _ => hnone
    | asked h hbudget reqs hreqs =>
      obtain ⟨hopen, hattempts, hlast⟩ := h
      -- a gap that is due is the one from before the tick
      have hsame : r₁.gap = s.gap :=
        hgap.resolve_right fun hclosed => absurd (hopen.symm.trans hclosed.1) (by simp)
      rw [hsame] at hopen hlast hbudget
      rw [hsec] at hlast
      refine .asked s.io.reads le_rfl hlt (s.gap.rr_attempts + 1) ?_ ?_ hsec rfl (es ++ reqs) ?_ ?_
      · exact .inr ⟨hopen, rfl, by omega, hlast⟩
      · rw [← hsame]
        rfl
      · rw [← List.append_assoc, ← hnotes]
        rfl
      · rw [List.filter_append, hnone, hreqs.filter]
        exact hreqs

theorem RegisterMove.gap (h : RegisterMove s upto c r) :
    GapMove s upto c r := by
  cases h with
  | kept h => exact .same rfl rfl rfl
  | buffered parser => exact .same rfl rfl rfl
  | message hup k hk hlt h => exact h.gap
  | ticked hactive hlt h => exact h.gap hlt
  | expired es hes => exact .closed rfl es rfl fun _ => filter_farewell hes
  | requested e hc =>
    refine .kept rfl rfl [e] rfl fun hown => ?_
    rcases hc with ⟨msg, rfl⟩ | ⟨raw, rfl⟩ <;> cases hown
  | greeted st hst gap hgap =>
    rcases hgap with rfl | rfl
    · exact .same rfl rfl rfl
    · exact .silent rfl rfl
  | logged_out reason => exact .same rfl rfl rfl
  | dropped => exact .silent rfl rfl
  | rearmed => exact .silent rfl rfl
  | connected st hst hlt => exact .silent rfl rfl

theorem own_requests_eq {es : List Event} (hsets : Sets r s (s.call c))
    (hnotes : r.notes = s.io.notes ++ es) (hc : c.of_application = false) :
    s.own_requests c = (es.filter Event.is_request).map fun e => ⟨r.gap.rr_last, e⟩ := by
  have hafter : (s.call c).io.notes = s.io.notes ++ es :=
    (congrArg Registers.notes hsets.registers).trans hnotes
  have hgap : (s.call c).gap = r.gap := congrArg Registers.gap hsets.registers
  rw [own_requests, hc, if_neg Bool.false_ne_true, hafter, List.drop_left, hgap]

theorem own_requests_none {es : List Event} (hsets : Sets r s (s.call c))
    (hnotes : r.notes = s.io.notes ++ es)
    (hnone : c.of_application = false → es.filter Event.is_request = []) :
    s.own_requests c = [] := by
  by_cases hc : c.of_application = true
  · rw [own_requests, if_pos hc]
  · have hc : c.of_application = false := by simpa using hc
    rw [own_requests_eq hsets hnotes hc, hnone hc]
    rfl

/-! ## An episode -/

/-- What is left of the budget of a gap, after the requests `reqs`. -/
structure Budget (reqs : List Request) (s : Session σ) : Prop where
  attempts : 1 ≤ s.gap.rr_attempts ∧ s.gap.rr_attempts ≤ kMaxGapRetries
  counted : (reqs.length : ℤ) ≤ s.gap.rr_attempts
  past : ∀ k, s.io.reads ≤ k → s.gap.rr_last ≤ s.io.env.clock k
  times : ∀ req ∈ reqs, req.time ≤ s.gap.rr_last
  spaced : reqs.IsChain fun a b => a.time + s.heartbeat_sec * 1200 ≤ b.time
  latest : (reqs.length : ℤ) = s.gap.rr_attempts → ∀ req ∈ reqs.getLast?, req.time = s.gap.rr_last

omit [IMessageStore σ] in
theorem Budget.asked {reqs new : List Request} {t attempt : ℤ} (hgap : s.gap = ⟨true, t, attempt⟩)
    (hattempts : attempt ≤ kMaxGapRetries) (hcounted : (reqs.length : ℤ) + 1 ≤ attempt)
    (hnew : new = [] ∨ ∃ e, new = [⟨t, e⟩]) (hpast : ∀ k, s.io.reads ≤ k → t ≤ s.io.env.clock k)
    (htimes : ∀ req ∈ reqs, req.time ≤ t)
    (hspaced : reqs.IsChain fun a b => a.time + s.heartbeat_sec * 1200 ≤ b.time)
    (hlast : ∀ req ∈ reqs.getLast?, req.time + s.heartbeat_sec * 1200 ≤ t) :
    Budget (reqs ++ new) s := by
  have hrr_last : s.gap.rr_last = t := by rw [hgap]
  have hrr_attempts : s.gap.rr_attempts = attempt := by rw [hgap]
  rcases hnew with rfl | ⟨e, rfl⟩
  · rw [List.append_nil]
    refine ⟨by omega, by omega, by rw [hrr_last]; exact hpast, by rw [hrr_last]; exact htimes,
      hspaced, ?_⟩
    intro hall
    omega
  · have hlength : ((reqs ++ [(⟨t, e⟩ : Request)]).length : ℤ) = reqs.length + 1 := by simp
    refine ⟨by omega, by omega, by rw [hrr_last]; exact hpast, ?_, ?_, ?_⟩
    · intro req hreq
      rw [hrr_last]
      rcases List.mem_append.mp hreq with hold | hnow
      · exact htimes req hold
      · rw [List.mem_singleton.mp hnow]
    · refine hspaced.append (List.isChain_singleton _) ?_
      intro req hreq next hnext
      obtain rfl : ⟨t, e⟩ = next := by simpa using hnext
      exact hlast req hreq
    · intro _ req hreq
      obtain rfl : ⟨t, e⟩ = req := by simpa using hreq
      exact hrr_last.symm

theorem Asks.requests {reqs : List Event} (h : Asks s reqs) (t : ℤ) :
    (reqs.map fun e => (⟨t, e⟩ : Request)) = [] ∨
    ∃ e, (reqs.map fun e => (⟨t, e⟩ : Request)) = [⟨t, e⟩] := by
  rcases h with rfl | ⟨n, w, rfl, -⟩
  · exact .inl rfl
  · exact .inr ⟨_, rfl⟩

section Runs

variable [StoreContract σ]

theorem budget_opened (hclock : Monotone s.io.env.clock) (hbefore : s.gap.is_open = false)
    {c : Call} (hafter : (s.call c).gap.is_open = true) :
    Budget (s.own_requests c) (s.call c) ∧ (s.call c).gap.rr_attempts = 1 := by
  obtain ⟨r, hmove, hsets⟩ := registers_call s c
  have hgap_after : (s.call c).gap = r.gap := congrArg Registers.gap hsets.registers
  cases hmove.gap with
  | closed h es hnotes hnone =>
    rw [hgap_after] at hafter
    exact absurd (hafter.symm.trans h) (by simp)
  | kept hgap hsec es hnotes hnone =>
    rw [hgap_after, hgap] at hafter
    exact absurd (hafter.symm.trans hbefore) (by simp)
  | asked k hk hlt attempt hturn hgap hsec hc es hnotes hasks =>
    obtain ⟨-, rfl⟩ := hturn.resolve_right fun h => absurd (h.1.symm.trans hbefore) (by simp)
    rw [hgap] at hgap_after
    refine ⟨?_, by rw [hgap_after]⟩
    rw [own_requests_eq hsets hnotes hc, hgap]
    have hnone : ([] : List Request).length + (1 : ℤ) ≤ 1 := by decide
    refine Budget.asked hgap_after (by decide) hnone (hasks.requests _) ?_
      (by simp) List.isChain_nil (by simp)
    intro j hj
    rw [hsets.env]
    exact hclock (hlt.le.trans hj)

theorem Budget.call (hclock : Monotone s.io.env.clock) {reqs : List Request} (h : Budget reqs s)
    (hbefore : s.gap.is_open = true) {c : Call} (hafter : (s.call c).gap.is_open = true) :
    Budget (reqs ++ s.own_requests c) (s.call c) ∧ (s.call c).heartbeat_sec = s.heartbeat_sec := by
  obtain ⟨r, hmove, hsets⟩ := registers_call s c
  have hgap_after : (s.call c).gap = r.gap := congrArg Registers.gap hsets.registers
  have hsec_after : (s.call c).heartbeat_sec = r.heartbeat_sec :=
    congrArg Registers.heartbeat_sec hsets.registers
  cases hmove.gap with
  | closed h es hnotes hnone =>
    rw [hgap_after] at hafter
    exact absurd (hafter.symm.trans h) (by simp)
  | kept hgap hsec es hnotes hnone =>
    rw [hgap] at hgap_after
    rw [hsec] at hsec_after
    refine ⟨?_, hsec_after⟩
    rw [own_requests_none hsets hnotes hnone, List.append_nil]
    refine ⟨?_, ?_, ?_, ?_, ?_, ?_⟩
    · rw [hgap_after]
      exact h.attempts
    · rw [hgap_after]
      exact h.counted
    · intro k hk
      rw [hgap_after, hsets.env]
      exact h.past k (hsets.reads.trans hk)
    · rw [hgap_after]
      exact h.times
    · rw [hsec_after]
      exact h.spaced
    · rw [hgap_after]
      exact h.latest
  | asked k hk hlt attempt hturn hgap hsec hc es hnotes hasks =>
    obtain ⟨-, hattempt, hbudget, hdue⟩ :=
      hturn.resolve_left fun h => absurd (h.1.symm.trans hbefore) (by simp)
    rw [hgap] at hgap_after
    rw [hsec] at hsec_after
    refine ⟨?_, hsec_after⟩
    rw [own_requests_eq hsets hnotes hc, hgap]
    have hlater := h.past k hk
    have hcounted := h.counted
    refine Budget.asked hgap_after hbudget (by omega) (hasks.requests _) ?_ ?_ ?_ ?_
    · intro j hj
      rw [hsets.env]
      exact hclock (hlt.le.trans hj)
    · intro req hreq
      exact (h.times req hreq).trans hlater
    · rw [hsec_after]
      exact h.spaced
    · intro req hreq
      rw [hsec_after]
      have htime := h.times req (List.mem_of_mem_getLast? hreq)
      omega

/-- The gap opens with the first of the calls, and stays open. -/
structure Episode (s : Session σ) (calls : List Call) : Prop where
  before : s.gap.is_open = false
  nonempty : calls ≠ []
  through : ∀ p, p <+: calls → p ≠ [] → (s.run p).gap.is_open = true

theorem Episode.budget (hclock : Monotone s.io.env.clock) {calls : List Call}
    (h : Episode s calls) :
    Budget (s.requests calls) (s.run calls) := by
  induction calls using List.reverseRecOn with
  | nil => exact absurd rfl h.nonempty
  | append_singleton calls c ih =>
    have hafter := h.through (calls ++ [c]) List.prefix_rfl h.nonempty
    rw [run_concat] at hafter
    rw [requests_concat, run_concat]
    by_cases hfirst : calls = []
    · rw [hfirst] at hafter ⊢
      exact (budget_opened hclock h.before hafter).1
    · have hopen := h.through calls (List.prefix_append _ _) hfirst
      have hearlier : Episode s calls :=
        ⟨h.before, hfirst, fun p hp => h.through p (hp.trans (List.prefix_append _ _))⟩
      have hclock' : Monotone (s.run calls).io.env.clock := by
        rw [env_run]
        exact hclock
      exact ((ih hearlier).call hclock' hopen hafter).1

theorem tick_exhausted (hactive : s.state = .Active) (hopen : s.gap.is_open = true)
    (hspent : s.gap.rr_attempts = kMaxGapRetries)
    (hdue : s.heartbeat_sec * 1200 ≤ s.io.clock_now - s.gap.rr_last)
    (hthrows : s.tick_throws = false) : s.on_timer.state = .Disconnected ∧
    s.on_timer.gap.is_open = false := by
  obtain ⟨r, -, hmove, hsets⟩ := sets_tick hactive
  have hstate : s.on_timer.state = r.state := congrArg Registers.state hsets.registers
  have hgap : s.on_timer.gap = r.gap := congrArg Registers.gap hsets.registers
  rw [hstate, hgap]
  cases hmove with
  | thrown hthrown hprobe => exact absurd (hthrows.symm.trans hthrown) (by simp)
  | @ticked r₁ _ hthrown hprobe hretry =>
    have hsec := hprobe.same.2
    have hbudget : r₁.gap = s.gap → r₁.Due s.io.clock_now := by
      intro hsame
      refine ⟨by rw [hsame]; exact hopen, ?_, by rw [hsame, hsec]; exact hdue⟩
      rw [hsame, hspent]
      decide
    rcases hprobe.gap.2 with hsame | ⟨hclosed, hdown⟩
    · cases hretry with
      | idle h => exact absurd (hbudget hsame) h
      | asked h hleft reqs hreqs =>
        rw [hsame, hspent] at hleft
        exact absurd hleft (lt_irrefl _)
      | exhausted h hleft => exact ⟨rfl, rfl⟩
    · -- the timeout has ended the connection, and the gap with it
      cases hretry with
      | idle h => exact ⟨hdown, hclosed⟩
      | asked h hleft reqs hreqs => exact absurd (h.1.symm.trans hclosed) (by simp)
      | exhausted h hleft => exact ⟨rfl, rfl⟩

theorem own_requests_spec {c : Call} {req : Request} (h : req ∈ s.own_requests c) :
    (s.call c).gap.is_open = true ∧ ReadsAt s c req.time ∧
      ∃ n w, req.event = .do_send (.sent n) w ∧
      Carries s.cfg.id (resend_request_message s.next_target 0) n w := by
  obtain ⟨r, hmove, hsets⟩ := registers_call s c
  have hgap_after : (s.call c).gap = r.gap := congrArg Registers.gap hsets.registers
  cases hmove.gap with
  | closed hclosed es hnotes hnone =>
    rw [own_requests_none hsets hnotes hnone] at h
    exact absurd h List.not_mem_nil
  | kept hgap hsec es hnotes hnone =>
    rw [own_requests_none hsets hnotes hnone] at h
    exact absurd h List.not_mem_nil
  | asked k hk hlt attempt hturn hgap hsec hc es hnotes hasks =>
    rw [own_requests_eq hsets hnotes hc, hgap] at h
    refine ⟨by rw [hgap_after, hgap], ?_⟩
    rcases hasks with hnone | ⟨n, w, hone, hw⟩
    · rw [hnone] at h
      exact absurd h List.not_mem_nil
    · rw [hone, List.map_singleton] at h
      rw [List.mem_singleton.mp h]
      exact ⟨⟨k, hk, hlt, rfl⟩, n, w, rfl, hw⟩

/-- The requests of an episode. -/
structure Throttled (s : Session σ) (calls : List Call) : Prop where
  bounded : (s.requests calls).length ≤ kMaxGapRetries
  spaced :
    (s.requests calls).IsChain fun a b => a.time + (s.run calls).heartbeat_sec * 1200 ≤ b.time
  asks : ∀ pre c post, calls = pre ++ c :: post → ∀ req ∈ (s.run pre).own_requests c,
    ReadsAt (s.run pre) c req.time ∧ ∃ n w, req.event = .do_send (.sent n) w ∧
      Carries (s.run pre).cfg.id (resend_request_message (s.run pre).next_target 0) n w
  /-- A tick behind the fifth request, unless a handler throws out of it. -/
  exhausted : (s.requests calls).length = kMaxGapRetries → ∀ req ∈ (s.requests calls).getLast?,
    (s.run calls).state = .Active →
    req.time + (s.run calls).heartbeat_sec * 1200 ≤ (s.run calls).io.clock_now →
    (s.run calls).tick_throws = false →
    (s.run calls).on_timer.state = .Disconnected ∧ (s.run calls).on_timer.gap.is_open = false
  fresh : ∀ c, calls = [c] → (s.run calls).gap.rr_attempts = 1

/-- **Gap requests are throttled and bounded**, and none is made outside of an episode. -/
theorem gap_requests_throttled (s : Session σ) (hclock : Monotone s.io.env.clock) :
    (∀ calls, Episode s calls → Throttled s calls) ∧
      ∀ c, s.own_requests c ≠ [] → (s.call c).gap.is_open = true := by
  constructor
  · intro calls hepisode
    have hbudget := hepisode.budget hclock
    have hopen := hepisode.through calls List.prefix_rfl hepisode.nonempty
    refine ⟨hbudget.counted.trans hbudget.attempts.2, hbudget.spaced, ?_, ?_, ?_⟩
    · intro pre c post _ req hreq
      exact (own_requests_spec hreq).2
    · intro hfive req hreq hactive hdue hthrows
      have hcounted := hbudget.counted
      have hattempts := hbudget.attempts.2
      -- no attempt was in vain, so the last request is the last attempt
      have hspent : (s.run calls).gap.rr_attempts = kMaxGapRetries := by omega
      have hlast := hbudget.latest (hfive.trans hspent.symm) req hreq
      exact tick_exhausted hactive hopen hspent (by omega) hthrows
    · rintro c rfl
      exact (budget_opened hclock hepisode.before hopen).2
  · intro c hsome
    obtain ⟨req, hreq⟩ := List.exists_mem_of_ne_nil _ hsome
    exact (own_requests_spec hreq).1

end Runs

end Session

/-- The client in a session, with forty seconds between two readings of the clock. -/
def slow_session : Session MemoryStore :=
  (Session.create quiet_config MemoryStore.create slow_env).run [.logon, .message broker_logon]

theorem gap_requests_throttled_retry :
    slow_session.Episode [.message (broker_report 5), .timer] ∧
      (slow_session.requests [.message (broker_report 5), .timer]).length = 2 ∧
      slow_session.Throttled [.message (broker_report 5), .timer] := by
  have hepisode : slow_session.Episode [.message (broker_report 5), .timer] := by
    refine ⟨by decide, by simp, ?_⟩
    intro p hp hne
    have hmem := (List.mem_inits p _).mpr hp
    simp only [List.inits, List.map_cons, List.map_nil, List.mem_cons, List.not_mem_nil,
      or_false] at hmem
    rcases hmem with rfl | rfl | rfl
    · exact absurd rfl hne
    · decide
    · decide +kernel
  have hclock : Monotone slow_session.io.env.clock := by
    have henv : slow_session.io.env = slow_env := Session.env_run _ _
    rw [henv]
    exact monotone_slow_env
  exact ⟨hepisode, by decide +kernel,
    (Session.gap_requests_throttled slow_session hclock).1 _ hepisode⟩

/-- All handlers of the client throw. -/
def throwing_session : Session MemoryStore :=
  (Session.create quiet_config MemoryStore.create
    { slow_env with throws := fun _ => some (ascii "boom") }).run
    [.logon, .message broker_logon]

/-- A gap with four retries, in which the peer is heard between the ticks. -/
def stalled_calls : List Call :=
  [.message (broker_report 5), .timer, .message (broker_report 6), .timer,
    .message (broker_report 7), .timer, .message (broker_report 8), .timer]

/-- **A session that is not given up.** Five requests have gone out and the next is due, but the
handler of the heartbeat timeout throws out of the tick before it comes to the gap. A
ResendRequest that the application sends is not throttled. -/
theorem throwing_handler_keeps_gap :
    (throwing_session.gap.is_open = false ∧
      (throwing_session.requests stalled_calls).length = 5 ∧
      (throwing_session.run stalled_calls).state = .Active ∧
      (throwing_session.run stalled_calls).gap.is_open = true ∧
      ((throwing_session.requests stalled_calls).getLast?.map Request.time).any (fun t =>
        t + 36000 ≤ (throwing_session.run stalled_calls).io.clock_now) = true ∧
      (throwing_session.run stalled_calls).on_timer.state = .Active ∧
      (throwing_session.run stalled_calls).on_timer.gap.is_open = true) ∧
    (slow_session.call (.message (broker_report 5))).gap.is_open = true ∧
      types_sent (slow_session.call (.message (broker_report 5)))
        (.send (resend_request_message 2 0)) =
        [some msg_types.ResendRequest] := by
  decide +kernel

end FixEngine
