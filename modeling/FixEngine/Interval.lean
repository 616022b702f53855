/-
`Interval.lean` -- the heartbeat interval.

The interval starts from the configuration and is taken over from the peer's Logons. It is
taken over before the state is looked at, so a Logon that completes no handshake changes it
as well, and it is narrowed to an `int` after its sign has been checked, so an interval of
more than 31 bits can come out as zero or negative.
-/
import FixEngine.Receive
import FixEngine.Timers

set_option autoImplicit false

namespace FixEngine

open IMessageStore

theorem to_i32_of_fits {v : ℤ} (hpos : 0 < v) (h : v < 2 ^ 31) : to_i32 v = v := by
  rw [to_i32]
  omega

namespace Session

variable {σ : Type} [IMessageStore σ] {s : Session σ}

/-! ## One call -/

/-- What a call makes of the interval. -/
inductive IntervalMove (s : Session σ) (c : Call) (r : Registers) : Prop where
  | kept (h : r.heartbeat_sec = s.heartbeat_sec) (hstate : r.state = .Active → s.state = .Active)
  | taken {msg : Message} {hb : ℤ} (hc : c = .message msg) (h : TakesOver msg hb s)
      (hsec : r.heartbeat_sec = to_i32 hb) (hstate : r.state = .Active → s.state ≠ .Active)

theorem MessageMove.interval {msg : Message} {upto : ℕ} {t : ℤ} {r : Registers}
    (h : MessageMove msg s upto (s.registers.heard t) r) : IntervalMove s (.message msg) r := by
  cases h with
  | kept es hes => exact .kept rfl fun h => h
  | cleared es hes => exact .kept rfl fun h => h
  | ended es hes => exact .kept rfl (fun h => by cases h)
  | requested hclosed es hes k hk hlt reqs hreqs => exact .kept rfl fun h => h
  | entered hwait h =>
    refine .taken rfl h rfl fun _ hactive => ?_
    rcases hwait with hst | hst
    · exact absurd (hst.symm.trans hactive) (by simp)
    · exact absurd (hst.symm.trans hactive) (by simp)
  | adopted hstate h => exact .taken rfl h rfl fun _ => hstate.2
  | refused hactive h => exact .taken rfl h rfl (fun h => by cases h)

theorem TickMove.interval {upto : ℕ} {r : Registers} (hactive : s.state = .Active)
    (h : TickMove s upto r) :
    IntervalMove s .timer r := by
  refine .kept ?_ fun _ => hactive
  cases h with
  | thrown _ hprobe => exact hprobe.same.2
  | ticked _ hprobe hretry =>
    have hsame := hprobe.same.2
    cases hretry with
    | idle h => exact hsame
    | asked h hbudget reqs hreqs => exact hsame
    | exhausted h hbudget => exact hsame

theorem RegisterMove.interval {upto : ℕ} {c : Call} {r : Registers} (h : RegisterMove s upto c r) :
    IntervalMove s c r := by
  cases h with
  | kept h => exact .kept rfl fun h => h
  | buffered parser => exact .kept rfl fun h => h
  | message hup k hk hlt h => exact h.interval
  | ticked hactive hlt h => exact h.interval hactive
  | expired es hes => exact .kept rfl (fun h => by cases h)
  | requested e hc => exact .kept rfl fun h => h
  | greeted st hst gap hgap => exact .kept rfl fun h => absurd h hst
  | logged_out reason => exact .kept rfl (by simp)
  | dropped => exact .kept rfl (fun h => by cases h)
  | rearmed => exact .kept rfl (by simp)
  | connected st hst hlt => exact .kept rfl fun h => absurd h hst

/-! ## The interval of a session -/

/-- The interval is positive, and in an established session it is the one of the Logon with
which it was established. -/
structure Negotiated (s₀ : Session σ) (calls : List Call) : Prop where
  positive : 1 ≤ (s₀.run calls).heartbeat_sec
  agreed : (s₀.run calls).state = .Active → ∃ pre msg post, calls = pre ++ .message msg :: post ∧
    (s₀.run pre).Enters (.message msg) ∧
    (∀ p, p <+: post → (s₀.run (pre ++ .message msg :: p)).state = .Active) ∧
    msg.msg_type = msg_types.Logon ∧ msg.get_int tags.HeartBtInt = some (s₀.run calls).heartbeat_sec

/-- An interval that the call takes over fits into an `int`. -/
def Fits (s : Session σ) (c : Call) : Prop :=
  ∀ msg hb, c = .message msg → TakesOver msg hb s → hb < 2 ^ 31

section Runs

variable [StoreContract σ]

theorem Negotiated.call {s₀ : Session σ} {calls : List Call} (h : Negotiated s₀ calls) {c : Call}
    (hfits : Fits (s₀.run calls) c) : Negotiated s₀ (calls ++ [c]) := by
  obtain ⟨r, hmove, hsets⟩ := registers_call (s₀.run calls) c
  have hsec : (s₀.run (calls ++ [c])).heartbeat_sec = r.heartbeat_sec := by
    rw [run_concat]
    exact congrArg Registers.heartbeat_sec hsets.registers
  have hstate : (s₀.run (calls ++ [c])).state = r.state := by
    rw [run_concat]
    exact congrArg Registers.state hsets.registers
  cases hmove.interval with
  | kept hsame hactive =>
    refine ⟨by rw [hsec, hsame]; exact h.positive, ?_⟩
    intro hnow
    obtain ⟨pre, msg, post, hcalls, henters, hthrough, hlogon, hinterval⟩ :=
      h.agreed (hactive (hstate ▸ hnow))
    refine ⟨pre, msg, post ++ [c], by rw [hcalls]; simp, henters, ?_, hlogon,
      by rw [hsec, hsame]; exact hinterval⟩
    intro p hp
    rcases List.prefix_concat_iff.mp hp with rfl | hp
    · rw [← List.cons_append, ← List.append_assoc, ← hcalls]
      exact hnow
    · exact hthrough p hp
  | @taken msg hb hc htakes hadopted hentered =>
    have hpos := htakes.adopts.positive
    have hcast := to_i32_of_fits hpos (hfits msg hb hc htakes)
    refine ⟨by rw [hsec, hadopted, hcast]; exact hpos, ?_⟩
    intro hnow
    have henters : (s₀.run calls).Enters (.message msg) := by
      refine ⟨hentered (hstate ▸ hnow), ?_⟩
      rw [← hc, ← run_concat]
      exact hnow
    refine ⟨calls, msg, [], by rw [hc], henters, ?_, htakes.adopts.logon, ?_⟩
    · intro p hp
      rw [List.prefix_nil.mp hp, ← hc]
      exact hnow
    · rw [htakes.adopts.interval, hsec, hadopted, hcast]

/-- **The heartbeat interval stays usable**, as long as the intervals of the peer's Logons
fit into an `int`. -/
theorem heartbeat_usable (cfg : SessionConfig) (store : σ) (env : Env) (calls : List Call)
    (hfits : ∀ pre c post, calls = pre ++ c :: post → Fits ((create cfg store env).run pre) c) :
    Negotiated (create cfg store env) calls := by
  induction calls using List.reverseRecOn with
  | nil => exact ⟨le_max_left 1 cfg.heartbeat_interval, fun h => by cases h⟩
  | append_singleton calls c ih =>
    refine Negotiated.call (ih ?_) (hfits calls c [] rfl)
    intro pre d post hcalls
    exact hfits pre d (post ++ [c]) (by rw [hcalls]; simp)

end Runs

/-! ## Logons that complete no handshake -/

theorem heartbeat_handle {msg : Message} {hb : ℤ} (h : Adopts msg hb s) :
    (s.handle msg).heartbeat_sec = to_i32 hb := by
  have hhandle : s.handle msg = s.handle_logon msg := by
    rw [handle, if_neg (by simp [h.unique]), process_admin, h.logon]
    rfl
  obtain ⟨r, hmove, hsets⟩ := sets_handle_logon h
  have hsec : (s.handle_logon msg).heartbeat_sec = r.heartbeat_sec :=
    congrArg Registers.heartbeat_sec hsets.registers
  rw [hhandle, hsec]
  cases hmove <;> rfl

theorem TakesOver.heartbeat {msg : Message} {hb : ℤ} (h : TakesOver msg hb s) :
    (s.process_message msg).heartbeat_sec = to_i32 hb := by
  have htype : msg.msg_type ≠ msg_types.SequenceReset := by
    rw [h.adopts.logon]
    decide
  have hhas : msg.has tags.MsgType = true := by
    by_contra hnot
    have hlogon := h.adopts.logon
    rw [msg_type_of_not_has (by simpa using hnot)] at hlogon
    exact absurd hlogon (by decide)
  have htaken : ∀ (validated : Bool) (s' : Session σ),
      (s'.consume_inbound msg validated).count_received.heartbeat_sec = s'.heartbeat_sec :=
    fun validated s' => congrArg Registers.heartbeat_sec (keeps_taken msg validated s').registers
  rcases hunnumbered : s.state.unnumbered with _ | _
  · obtain ⟨hpos, hseq⟩ := h.judged.resolve_left (by simp [hunnumbered])
    rw [process_in_sequence h.identity hhas htype hunnumbered hpos hseq, htaken]
    exact heartbeat_handle (h.adopts.congr rfl rfl rfl)
  · rw [process_message_unnumbered h.identity hhas htype hunnumbered, htaken]
    exact heartbeat_handle (h.adopts.congr rfl rfl rfl)

/-- **The interval stays as it is** exactly if no other is taken over, whether the message
completes a handshake or not. -/
theorem interval_kept_iff [StoreContract σ] (s : Session σ) (msg : Message) :
    (s.call (.message msg)).heartbeat_sec = s.heartbeat_sec ↔
      s.state = .Disconnected ∨ ∀ hb, TakesOver msg hb s → to_i32 hb = s.heartbeat_sec := by
  by_cases hdown : s.state = .Disconnected
  · refine iff_of_true ?_ (.inl hdown)
    rw [call, if_pos hdown]
  have hcall : s.call (.message msg) = s.process_message msg := if_neg hdown
  constructor
  · intro hkept
    refine .inr fun hb htakes => ?_
    rw [← htakes.heartbeat, ← hcall]
    exact hkept
  · intro h
    obtain ⟨r, hmove, hsets⟩ := registers_call s (.message msg)
    rw [show (s.call (.message msg)).heartbeat_sec = r.heartbeat_sec from
      congrArg Registers.heartbeat_sec hsets.registers]
    cases hmove.interval with
    | kept hsame _ => exact hsame
    | @taken msg' hb hc htakes hadopted _ =>
      obtain rfl : msg = msg' := Call.message.inj hc
      rw [hadopted]
      exact h.resolve_left hdown hb htakes

end Session

/-- The client as an acceptor, in a connection. -/
def waiting_session : Session MemoryStore :=
  (Session.create { quiet_config with initiator := false } MemoryStore.create quiet_env).run
    [.transport_connected]

def logon_with (interval : Bytes) (seq : ℕ) : Message :=
  broker_message msg_types.Logon seq [⟨tags.HeartBtInt, interval⟩]

theorem heartbeat_usable_thirty :
    (quiet_session.run [.logon, .message broker_logon]).state = .Active ∧
      1 ≤ (quiet_session.run [.logon, .message broker_logon]).heartbeat_sec := by
  refine ⟨by decide, ?_⟩
  refine (Session.heartbeat_usable quiet_config MemoryStore.create quiet_env
    [.logon, .message broker_logon] ?_).positive
  intro pre c post hcalls msg hb hc htakes
  have hmem : Call.message msg ∈ [.logon, .message broker_logon] := by
    rw [hcalls, ← hc]
    simp
  have hmsg : msg = broker_logon := by
    simpa using hmem
  have hinterval := htakes.adopts.interval
  rw [hmsg, show broker_logon.get_int tags.HeartBtInt = some 30 by decide] at hinterval
  rw [← Option.some.inj hinterval]
  decide

/-- **An interval of no length.** It is positive on the wire, and zero as an `int`. The session
is established with it, and every tick sends a Heartbeat and a TestRequest at once. -/
theorem zero_interval :
    (logon_with (ascii "4294967296") 1).get_int tags.HeartBtInt = some (2 ^ 32) ∧
      (waiting_session.call (.message (logon_with (ascii "4294967296") 1))).state = .Active ∧
      (waiting_session.call (.message (logon_with (ascii "4294967296") 1))).heartbeat_sec = 0 ∧
      types_sent (waiting_session.call (.message (logon_with (ascii "4294967296") 1))) .timer =
        [some msg_types.Heartbeat, some msg_types.TestRequest] := by
  decide +kernel

/-- The established session of the client. -/
def trading_session : Session MemoryStore := quiet_session.run [.logon, .message broker_logon]

/-- A duplicate Logon with another interval that comes too early, and one with the same interval. -/
theorem interval_kept_logons :
    ¬trading_session.Enters (.message (logon_with (ascii "60") 3)) ∧
      (trading_session.call (.message (logon_with (ascii "60") 3))).heartbeat_sec =
        trading_session.heartbeat_sec ∧
      ¬trading_session.Enters (.message (logon_with (ascii "30") 2)) ∧
      (trading_session.call (.message (logon_with (ascii "30") 2))).heartbeat_sec =
        trading_session.heartbeat_sec := by
  have hactive : trading_session.state = .Active := by decide
  have hnever : ∀ c, ¬trading_session.Enters c := fun _ h => h.1 hactive
  refine ⟨hnever _, (Session.interval_kept_iff trading_session _).mpr (.inr ?_), hnever _,
    (Session.interval_kept_iff trading_session _).mpr (.inr ?_)⟩
  · intro hb htakes
    have hjudged : ¬(trading_session.state.unnumbered = true ∨
        (logon_with (ascii "60") 3).seq_num ≠ 0 ∧
          (logon_with (ascii "60") 3).seq_num = trading_session.next_target) := by decide
    exact absurd htakes.judged hjudged
  · intro hb htakes
    have hinterval := htakes.adopts.interval
    rw [show (logon_with (ascii "30") 2).get_int tags.HeartBtInt = some 30 by decide] at hinterval
    rw [← Option.some.inj hinterval]
    decide

/-- **A duplicate Logon.** It is refused and ends the session, but its interval stays, and the
client proposes it in its next Logon. -/
theorem duplicate_logon_interval :
    trading_session.heartbeat_sec = 30 ∧
      ¬trading_session.Enters (.message (logon_with (ascii "60") 2)) ∧
      (trading_session.call (.message (logon_with (ascii "60") 2))).state = .Disconnected ∧
      (trading_session.call (.message (logon_with (ascii "60") 2))).heartbeat_sec = 60 ∧
      types_sent (trading_session.call (.message (logon_with (ascii "60") 2))) .logon =
      [some msg_types.Logon] := by
  decide +kernel

end FixEngine
