/-
`Disconnect.lean` -- a disconnect request and the connection it is meant for.

`disconnect` may be called by any thread, also by the session from within its own
disconnect callback; the flag it raises is read by the IO thread, at the head of its
event loop. `Transport.lean` takes the calls in any order. Here the IO thread is where
its program is: it adopts a connection only when it has none, reads the flag, flushes,
leaves the loop with a reason, and closes what it adopted before it goes on. The calls
of other threads come in between anywhere.

A connection is its number, which no other one gets, so "the same connection" is an
equation, also where the system gives out a descriptor again.

The reading of the flag is one step of its own: it is an atomic and not under the lock.
What else ends a connection (the peer, the kernel, `stop`) is a step that may come at
any time, with one of the texts of the source.
-/
import FixEngine.Loop
import FixEngine.Transport

set_option autoImplicit false

namespace FixEngine

open Decimal

/-! ## The IO thread -/

/-- Where the IO thread is. -/
inductive IoPhase where
  /-- Connecting, accepting or asleep. -/
  | idle
  /-- In `on_connected_`, or at the head of the loop of `run_event_loop`. -/
  | head (fd : ℕ)
  /-- Past the look at the flag. -/
  | turn (fd : ℕ)
  /-- `run_event_loop` has returned. -/
  | left (fd : ℕ) (reason : Bytes)
  deriving DecidableEq

/-- The connection the IO thread has adopted and not closed. -/
def IoPhase.connection : IoPhase → Option ℕ
  | .idle => none
  | .head fd | .turn fd | .left fd _ => some fd

/-- The connection whose event loop the IO thread is in. -/
def IoPhase.serving : IoPhase → Option ℕ
  | .head fd | .turn fd => some fd
  | _ => none

theorem IoPhase.connection_of_serving {phase : IoPhase} {fd : ℕ} (h : phase.serving = some fd) :
    phase.connection = some fd := by
  cases phase with
  | idle => cases h
  | head _ => exact h
  | turn _ => exact h
  | left _ _ => cases h

/-- The reason of a requested disconnect. -/
def disconnect_text : Bytes := ascii "disconnect requested"

/-- The other reasons of `run_event_loop`, apart from that of `handle_send`; the empty
one is `stop`. -/
def other_endings : List Bytes :=
  [[], ascii "epoll_create1 failed", ascii "epoll_ctl failed", ascii "epoll_wait failed",
    ascii "poll failed", ascii "connection error", ascii "peer closed", ascii "recv failed"]

/-- A step of some thread. The first two are of any thread, the others of the IO thread. -/
inductive IoEvent where
  | send (connected_seen : Bool) (data : Bytes)
  | disconnect
  | adopt_connection
  /-- The look at the flag, at the head of the loop. -/
  | check
  | handle_send
  /-- Back to the head of the loop. -/
  | again
  | leave (reason : Bytes)
  | close_connection
  deriving DecidableEq

/-- The transport and its IO thread, with the connections that a `disconnect` found live
and the way each connection ended, in the order of the steps. -/
structure IoThread where
  wire : Wire
  phase : IoPhase
  requested : List ℕ
  endings : List (ℕ × Bytes)

namespace IoThread

def start (script : List KernelSend) : IoThread := ⟨.start script, .idle, [], []⟩

/-- `run_event_loop` returns. -/
def leave (fd : ℕ) (reason : Bytes) (io : IoThread) : IoThread :=
  { io with phase := .left fd reason, endings := io.endings ++ [(fd, reason)] }

/-- One step, or `none` where the IO thread is somewhere else. -/
def step (io : IoThread) : IoEvent → Option IoThread
  | .send connected_seen data => some { io with wire := io.wire.call (.send connected_seen data) }
  | .disconnect =>
    some { io with
      wire := io.wire.call .disconnect
      requested := io.requested ++ io.wire.transport.conn_fd.toList }
  | .adopt_connection =>
    match io.phase with
    | .idle =>
      some { io with wire := io.wire.call .adopt_connection, phase := .head io.wire.connections }
    | _ => none
  | .check =>
    match io.phase with
    | .head fd =>
      if io.wire.transport.disconnect_requested then some (io.leave fd disconnect_text)
      else some { io with phase := .turn fd }
    | _ => none
  | .handle_send =>
    match io.phase with
    | .turn fd =>
      let reason := (io.wire.transport.handle_send fd).1
      let io := { io with wire := io.wire.call .handle_send }
      some (if reason.isEmpty then io else io.leave fd reason)
    | _ => none
  | .again =>
    match io.phase with
    | .turn fd => some { io with phase := .head fd }
    | _ => none
  | .leave reason =>
    match io.phase.serving with
    | some fd => if reason ∈ other_endings then some (io.leave fd reason) else none
    | none => none
  | .close_connection =>
    match io.phase with
    | .left _ _ => some { io with wire := io.wire.call .close_connection, phase := .idle }
    | _ => none

/-! ## A request stays with its connection -/

/-- What every interleaving keeps: the live connection is the one the IO thread serves, a
raised flag was raised for it, and so was every one that ended a connection. -/
structure Kept (io : IoThread) : Prop where
  conserved : io.wire.Conserved
  owned : io.wire.transport.conn_fd = io.phase.connection
  raised : io.wire.transport.disconnect_requested = true →
    ∃ fd, io.wire.transport.conn_fd = some fd ∧ fd ∈ io.requested
  ended : ∀ fd, (fd, disconnect_text) ∈ io.endings → fd ∈ io.requested

variable {io io' : IoThread}

theorem kept_start (script : List KernelSend) : (start script).Kept :=
  ⟨Wire.conserved_start script, rfl, fun h => absurd h Bool.false_ne_true,
    fun _ h => absurd h List.not_mem_nil⟩

theorem call_send_keeps (w : Wire) (connected_seen : Bool) (data : Bytes) :
    (w.call (.send connected_seen data)).transport.conn_fd = w.transport.conn_fd ∧
      (w.call (.send connected_seen data)).transport.disconnect_requested
        = w.transport.disconnect_requested := by
  dsimp only [Wire.call]
  fun_cases TcpTransport.send connected_seen data w.transport
  · exact ⟨rfl, rfl⟩
  · exact ⟨rfl, rfl⟩
  · exact ⟨rfl, rfl⟩
  · dsimp only
    split
    · exact ⟨rfl, rfl⟩
    · exact ⟨rfl, rfl⟩
  · exact ⟨rfl, rfl⟩

theorem call_handle_send_keeps (w : Wire) :
    (w.call .handle_send).transport.conn_fd = w.transport.conn_fd ∧
      (w.call .handle_send).transport.disconnect_requested = w.transport.disconnect_requested := by
  dsimp only [Wire.call]
  split
  · exact ⟨rfl, rfl⟩
  · exact ⟨rfl, rfl⟩

theorem Kept.moves (h : io.Kept) {c : TransportCall}
    (hc : (io.wire.call c).transport.conn_fd = io.wire.transport.conn_fd ∧
      (io.wire.call c).transport.disconnect_requested = io.wire.transport.disconnect_requested) :
    { io with wire := io.wire.call c }.Kept := by
  refine ⟨h.conserved.call c, hc.1.trans h.owned, ?_, h.ended⟩
  intro hflag
  obtain ⟨fd, hlive, hrequested⟩ := h.raised (hc.2.symm.trans hflag)
  exact ⟨fd, hc.1.trans hlive, hrequested⟩

theorem Kept.leave (h : io.Kept) {fd : ℕ} (hfd : io.phase.connection = some fd) {reason : Bytes}
    (hreason : reason = disconnect_text → fd ∈ io.requested) : (io.leave fd reason).Kept := by
  refine ⟨h.conserved, h.owned.trans hfd, h.raised, ?_⟩
  intro k hk
  rcases List.mem_append.mp hk with hk | hk
  · exact h.ended k hk
  · obtain ⟨rfl, htext⟩ := Prod.mk.inj (List.mem_singleton.mp hk)
    exact hreason htext.symm

theorem Kept.disconnect (h : io.Kept) :
    { io with
      wire := io.wire.call .disconnect
      requested := io.requested ++ io.wire.transport.conn_fd.toList }.Kept := by
  have hended : ∀ fd, (fd, disconnect_text) ∈ io.endings →
      fd ∈ io.requested ++ io.wire.transport.conn_fd.toList := fun fd hfd =>
    List.mem_append_left _ (h.ended fd hfd)
  rcases hlive : io.wire.transport.conn_fd with _ | fd
  · -- no live connection: nothing is done
    have hsame : io.wire.call .disconnect = io.wire := by
      rw [Wire.call, TcpTransport.disconnect, hlive]
      rfl
    rw [hsame, Option.toList_none, List.append_nil]
    exact h
  · have hconn : (io.wire.call .disconnect).transport.conn_fd = some fd := by
      rw [Wire.call, TcpTransport.disconnect, hlive]
      rfl
    rw [hlive] at hended
    refine ⟨h.conserved.call .disconnect, hconn.trans (hlive.symm.trans h.owned), ?_, hended⟩
    intro _
    exact ⟨fd, hconn, List.mem_append_right _ (List.mem_singleton.mpr rfl)⟩

theorem Kept.seen (h : io.Kept) {fd : ℕ} (hfd : io.phase.connection = some fd)
    (hflag : io.wire.transport.disconnect_requested = true) : fd ∈ io.requested := by
  obtain ⟨k, hlive, hrequested⟩ := h.raised hflag
  obtain rfl : k = fd := Option.some.inj (hlive.symm.trans (h.owned.trans hfd))
  exact hrequested

theorem handle_send_reason (fd : ℕ) (t : TcpTransport) :
    (t.handle_send fd).1 ≠ disconnect_text := by
  rw [TcpTransport.handle_send]
  dsimp only
  split
  · decide
  · decide

/-- **One step** of any thread. -/
theorem Kept.step (h : io.Kept) {e : IoEvent} (hstep : io.step e = some io') : io'.Kept := by
  cases e with
  | send connected_seen data =>
    obtain rfl := Option.some.inj hstep
    exact h.moves (call_send_keeps io.wire connected_seen data)
  | disconnect =>
    obtain rfl := Option.some.inj hstep
    exact h.disconnect
  | adopt_connection =>
    rw [IoThread.step] at hstep
    split at hstep
    · obtain rfl := Option.some.inj hstep
      exact ⟨h.conserved.call .adopt_connection, rfl, fun h => absurd h Bool.false_ne_true, h.ended⟩
    · cases hstep
  | check =>
    rw [IoThread.step] at hstep
    split at hstep
    · rename_i fd hphase
      have hfd : io.phase.connection = some fd := congrArg IoPhase.connection hphase
      split at hstep
      · rename_i hflag
        obtain rfl := Option.some.inj hstep
        exact h.leave hfd fun _ => h.seen hfd hflag
      · obtain rfl := Option.some.inj hstep
        exact ⟨h.conserved, h.owned.trans hfd, h.raised, h.ended⟩
    · cases hstep
  | handle_send =>
    rw [IoThread.step] at hstep
    split at hstep
    · rename_i fd hphase
      have hfd : io.phase.connection = some fd := congrArg IoPhase.connection hphase
      have hmoved := h.moves (call_handle_send_keeps io.wire)
      obtain rfl := Option.some.inj hstep
      split
      · exact hmoved
      · refine hmoved.leave hfd fun htext => ?_
        exact absurd htext (handle_send_reason fd io.wire.transport)
    · cases hstep
  | again =>
    rw [IoThread.step] at hstep
    split at hstep
    · rename_i fd hphase
      have hfd : io.phase.connection = some fd := congrArg IoPhase.connection hphase
      obtain rfl := Option.some.inj hstep
      exact ⟨h.conserved, h.owned.trans hfd, h.raised, h.ended⟩
    · cases hstep
  | leave reason =>
    rw [IoThread.step] at hstep
    split at hstep
    · rename_i fd hserving
      split at hstep
      · rename_i hother
        obtain rfl := Option.some.inj hstep
        refine h.leave (IoPhase.connection_of_serving hserving) fun htext => ?_
        -- the flag has a text of its own
        rw [htext] at hother
        exact absurd hother (by decide)
      · cases hstep
    · cases hstep
  | close_connection =>
    rw [IoThread.step] at hstep
    split at hstep
    · obtain rfl := Option.some.inj hstep
      exact ⟨h.conserved.call .close_connection, rfl, fun h => absurd h Bool.false_ne_true, h.ended⟩
    · cases hstep

/-- **A disconnect request never leaks into the next connection.** Without a live
connection the flag is down and the queue empty; and a connection ends as requested
only when a `disconnect` took the lock while it was live. -/
theorem disconnect_stays (script : List KernelSend) (events : List IoEvent) (io : IoThread)
    (h : Loop.run step (start script) events = some io) :
    (io.wire.transport.conn_fd = none →
      io.wire.transport.disconnect_requested = false ∧ io.wire.transport.send_queue = []) ∧
      ∀ fd, (fd, disconnect_text) ∈ io.endings → fd ∈ io.requested := by
  have hkept := Loop.run_invariant (fun hkept hstep => hkept.step hstep) (kept_start script) h
  refine ⟨?_, hkept.ended⟩
  intro hnone
  constructor
  · by_contra hflag
    obtain ⟨fd, hlive, -⟩ := hkept.raised (Bool.not_eq_false _ |>.mp hflag)
    exact absurd (hlive.symm.trans hnone) (by simp)
  · have hlive := hkept.conserved.live
    rw [hnone] at hlive
    exact hlive

/-- A connection is ended as requested, and the callback behind it asks once more. -/
def ended_twice : List IoEvent :=
  [.adopt_connection, .disconnect, .check, .close_connection, .disconnect]

theorem disconnect_stays_twice :
    ∃ io, (Loop.run step (start []) ended_twice = some io ∧ io.wire.transport.conn_fd = none ∧
        (0, disconnect_text) ∈ io.endings) ∧
      io.wire.transport.disconnect_requested = false ∧ 0 ∈ io.requested := by
  obtain ⟨io, hrun⟩ :=
    Option.isSome_iff_exists.mp
      (show (Loop.run step (start []) ended_twice).isSome = true by decide)
  have hnone : io.wire.transport.conn_fd = none := by
    have hmap : (Loop.run step (start []) ended_twice).map (·.wire.transport.conn_fd) =
        some none := by decide
    rw [hrun] at hmap
    exact Option.some.inj hmap
  have hended : (0, disconnect_text) ∈ io.endings := by
    have hmap : (Loop.run step (start []) ended_twice).map (·.endings) =
        some [(0, disconnect_text)] := by decide
    rw [hrun] at hmap
    have hends : io.endings = [(0, disconnect_text)] := Option.some.inj hmap
    rw [hends]
    exact List.mem_singleton.mpr rfl
  obtain ⟨hdown, hrequested⟩ := disconnect_stays [] ended_twice io hrun
  exact ⟨io, ⟨hrun, hnone, hended⟩, (hdown hnone).1, hrequested 0 hended⟩

end IoThread

end FixEngine
