/-
`Transport.lean` -- the transmit side of `src/transport/tcp_transport.cpp`.

Each function below is one critical section of `send_mutex_`, so an interleaving of
threads is a list of calls. What the kernel answers to `::send` is a script, one
outcome for each call: some number of bytes, EAGAIN, EINTR or a fatal error; a
script that has run out means a full buffer. Connections are numbered in the order
in which they were adopted, and the number stands for the descriptor: what was
written to each is kept apart, also where the system reuses a descriptor.

`send` looks at `connected_` before it takes the lock. The value it saw is an
argument, so a stale one is among the cases.
-/
import FixEngine.Message

set_option autoImplicit false

namespace FixEngine

open Decimal

/-! ## The kernel -/

/-- What one `::send` of a non-blocking socket does. -/
inductive KernelSend where
  /-- That many bytes were taken, or all if there were fewer. -/
  | wrote (n : ℕ)
  /-- EAGAIN or EWOULDBLOCK. -/
  | again
  /-- EINTR. -/
  | intr
  | fatal
  deriving DecidableEq

/-! ## The transport -/

/-- The members of `TcpTransport` under `send_mutex_`, the outcomes of the coming calls of
the kernel, and what was written to each connection. -/
structure TcpTransport where
  conn_fd : Option ℕ
  connected : Bool
  send_queue : List Bytes
  disconnect_requested : Bool
  script : List KernelSend
  written : ℕ → Bytes

/-- The loop of `handle_send`: the outcomes that are left, the queue, what was written,
and whether a fatal error ended it. -/
def flush : List KernelSend → List Bytes → Bytes → List KernelSend × List Bytes × Bytes × Bool
  | script, [], out => (script, [], out, false)
  | [], queue, out => ([], queue, out, false)
  | .again :: script, queue, out => (script, queue, out, false)
  | .intr :: script, queue, out => flush script queue out
  | .fatal :: script, queue, out => (script, queue, out, true)
  | .wrote n :: script, front :: queue, out =>
    if n < front.length then (script, front.drop n :: queue, out ++ front.take n, false)
    else flush script queue (out ++ front)

/-- The direct write of `send`: how many bytes of `data` were taken; `none` is a fatal
error. -/
def direct_write (data : Bytes) : List KernelSend → List KernelSend × Option ℕ
  | [] => ([], some 0)
  | .intr :: script => direct_write data script
  | .again :: script => (script, some 0)
  | .fatal :: script => (script, none)
  | .wrote n :: script => (script, some (min n data.length))

namespace TcpTransport

/-- `TcpTransport::handle_send`: why the connection must be torn down, if it must. -/
def handle_send (fd : ℕ) (t : TcpTransport) : Bytes × TcpTransport :=
  match flush t.script t.send_queue (t.written fd) with
  | (script, queue, out, err) =>
    (if err then ascii "send failed" else [],
      { t with
        script := script, send_queue := queue, written := Function.update t.written fd out })

/-- `TcpTransport::send`. -/
def send (connected_seen : Bool) (data : Bytes) (t : TcpTransport) : Result Unit × TcpTransport :=
  if !connected_seen then (.error .TransportError, t)
  else
    match t.conn_fd with
    | none => (.error .TransportError, t)
    | some fd =>
      if t.send_queue.isEmpty then
        match direct_write data t.script with
        | (script, none) => (.error .TransportError, { t with script := script })
        | (script, some n) =>
          let t := { t with
            script := script
            written := Function.update t.written fd (t.written fd ++ data.take n) }
          (.ok (), if n < data.length then { t with send_queue := [data.drop n] } else t)
      else (.ok (), { t with send_queue := t.send_queue ++ [data] })

/-- `TcpTransport::adopt_connection`. -/
def adopt_connection (fd : ℕ) (t : TcpTransport) : TcpTransport :=
  { t with conn_fd := some fd, connected := true, send_queue := [], disconnect_requested := false }

/-- The part of `close_connection` that holds `send_mutex_`. -/
def release_connection (t : TcpTransport) : TcpTransport :=
  { t with conn_fd := none, send_queue := [], disconnect_requested := false }

/-- `TcpTransport::close_connection`. -/
def close_connection (t : TcpTransport) : TcpTransport :=
  { t.release_connection with connected := false }

/-- `TcpTransport::disconnect`. -/
def disconnect (t : TcpTransport) : TcpTransport :=
  if t.conn_fd.isNone then t else { t with disconnect_requested := true }

def create (script : List KernelSend) : TcpTransport where
  conn_fd := none
  connected := false
  send_queue := []
  disconnect_requested := false
  script := script
  written := fun _ => []

end TcpTransport

/-! ## Interleavings -/

/-- A call of some thread. The last three are of the IO thread. -/
inductive TransportCall where
  | send (connected_seen : Bool) (data : Bytes)
  | disconnect
  | handle_send
  | adopt_connection
  | close_connection
  deriving DecidableEq

/-- A transport with its history: how many connections were adopted, and the payloads of
the `send` calls that returned success on each, in lock order. -/
structure Wire where
  transport : TcpTransport
  connections : ℕ
  accepted : ℕ → Bytes

namespace Wire

def start (script : List KernelSend) : Wire := ⟨.create script, 0, fun _ => []⟩

def call (w : Wire) : TransportCall → Wire
  | .send connected_seen data =>
    let r := w.transport.send connected_seen data
    { w with
      transport := r.2
      accepted := match r.1, w.transport.conn_fd with
        | .ok _, some fd => Function.update w.accepted fd (w.accepted fd ++ data)
        | _, _ => w.accepted }
  | .disconnect => { w with transport := w.transport.disconnect }
  | .handle_send =>
    -- the IO thread is in its event loop, with the connection it adopted
    match w.transport.conn_fd with
    | some fd => { w with transport := (w.transport.handle_send fd).2 }
    | none => w
  | .adopt_connection =>
    { w with
      transport := w.transport.adopt_connection w.connections, connections := w.connections + 1 }
  | .close_connection => { w with transport := w.transport.close_connection }

def run (w : Wire) (calls : List TransportCall) : Wire := calls.foldl call w

end Wire

/-! ## No loss, no duplicate, no reordering -/

theorem flush_conserves (script : List KernelSend) (queue : List Bytes) (out : Bytes) :
    (flush script queue out).2.2.1 ++ (flush script queue out).2.1.flatten =
      out ++ queue.flatten ∧ out <+: (flush script queue out).2.2.1 := by
  fun_induction flush script queue out with
  | case1 => exact ⟨rfl, List.prefix_refl _⟩
  | case2 => exact ⟨rfl, List.prefix_refl _⟩
  | case3 => exact ⟨rfl, List.prefix_refl _⟩
  | case4 _ _ _ _ ih => exact ih
  | case5 => exact ⟨rfl, List.prefix_refl _⟩
  | case6 n script front queue out hpart =>
    refine ⟨?_, List.prefix_append _ _⟩
    rw [List.flatten_cons, List.flatten_cons, List.append_assoc, ← List.append_assoc (front.take n),
      List.take_append_drop]
  | case7 n script front queue out hfull ih =>
    refine ⟨?_, (List.prefix_append _ _).trans ih.2⟩
    rw [ih.1, List.flatten_cons, List.append_assoc]

theorem direct_write_le {data : Bytes} {script script' : List KernelSend} {n : ℕ}
    (h : direct_write data script = (script', some n)) : n ≤ data.length := by
  fun_induction direct_write data script with
  | case1 =>
    obtain ⟨-, rfl⟩ := Prod.mk.inj h |>.imp_right Option.some.inj
    exact Nat.zero_le _
  | case2 _ ih => exact ih h
  | case3 =>
    obtain ⟨-, rfl⟩ := Prod.mk.inj h |>.imp_right Option.some.inj
    exact Nat.zero_le _
  | case4 => exact absurd ((Prod.mk.inj h).2) (by simp)
  | case5 =>
    obtain ⟨-, rfl⟩ := Prod.mk.inj h |>.imp_right Option.some.inj
    exact Nat.min_le_right _ _

namespace Wire

/-- What every interleaving keeps. On the live connection the bytes written and the bytes
queued are the accepted ones, in order; without one nothing is queued. On every
connection what was written is a first part of what was accepted there. -/
structure Conserved (w : Wire) : Prop where
  live : match w.transport.conn_fd with
    | some fd => w.transport.written fd ++ w.transport.send_queue.flatten = w.accepted fd
    | none => w.transport.send_queue = []
  past : ∀ fd, w.transport.written fd <+: w.accepted fd
  fresh : ∀ fd, w.connections ≤ fd → w.transport.written fd = [] ∧ w.accepted fd = []
  adopted : ∀ fd, w.transport.conn_fd = some fd → fd < w.connections

variable {w : Wire}

theorem conserved_start (script : List KernelSend) : Conserved (start script) :=
  ⟨rfl, fun _ => List.prefix_refl _, fun _ _ => ⟨rfl, rfl⟩, fun _ h => by cases h⟩

theorem Conserved.update (h : Conserved w) {fd : ℕ} (hfd : w.transport.conn_fd = some fd)
    (t' : TcpTransport) (more : Bytes) {out : Bytes} (hconn : t'.conn_fd = some fd)
    (hwritten : t'.written = Function.update w.transport.written fd out)
    (hlive : out ++ t'.send_queue.flatten = w.accepted fd ++ more) :
    Conserved { w with
      transport := t', accepted := Function.update w.accepted fd (w.accepted fd ++ more) } := by
  have hpast : ∀ k, t'.written k <+: Function.update w.accepted fd (w.accepted fd ++ more) k := by
    intro k
    by_cases hk : k = fd
    · rw [hk, hwritten, Function.update_self, Function.update_self, ← hlive]
      exact List.prefix_append _ _
    · rw [hwritten, Function.update_of_ne hk, Function.update_of_ne hk]
      exact h.past k
  refine ⟨?_, hpast, ?_, ?_⟩
  · show match t'.conn_fd with
      | some fd' => t'.written fd' ++ t'.send_queue.flatten =
          Function.update w.accepted fd (w.accepted fd ++ more) fd'
      | none => t'.send_queue = []
    rw [hconn, hwritten]
    show Function.update w.transport.written fd out fd ++ _ = _
    rw [Function.update_self, Function.update_self, hlive]
  · intro k hk
    have hne : k ≠ fd :=
      fun heq => absurd (h.adopted fd hfd) (by rw [← heq]; exact Nat.not_lt.mpr hk)
    show t'.written k = [] ∧ Function.update w.accepted fd (w.accepted fd ++ more) k = []
    rw [hwritten, Function.update_of_ne hne, Function.update_of_ne hne]
    exact h.fresh k hk
  · intro k hk
    exact h.adopted k (hfd.trans (hconn.symm.trans hk))

theorem Conserved.send (h : Conserved w) (connected_seen : Bool) (data : Bytes) :
    Conserved (w.call (.send connected_seen data)) := by
  have hkeep : ∀ t' : TcpTransport, t'.conn_fd = w.transport.conn_fd →
      t'.written = w.transport.written → t'.send_queue = w.transport.send_queue →
      Conserved { w with transport := t' } := by
    intro t' hconn hwritten hqueue
    obtain ⟨hlive, hpast, hfresh, hadopted⟩ := h
    refine ⟨?_, ?_, ?_, ?_⟩
    · show match t'.conn_fd with
        | some fd => t'.written fd ++ t'.send_queue.flatten = w.accepted fd
        | none => t'.send_queue = []
      rw [hconn, hwritten, hqueue]
      exact hlive
    · show ∀ fd, t'.written fd <+: w.accepted fd
      rw [hwritten]
      exact hpast
    · show ∀ fd, _ → t'.written fd = [] ∧ _
      rw [hwritten]
      exact hfresh
    · show ∀ fd, t'.conn_fd = some fd → _
      rw [hconn]
      exact hadopted
  rcases hseen : connected_seen with _ | _
  · exact hkeep w.transport rfl rfl rfl
  rcases hfd : w.transport.conn_fd with _ | fd
  · have hsend : w.transport.send true data = (.error .TransportError, w.transport) := by
      simp only [TcpTransport.send, hfd]
      rfl
    rw [call, hsend]
    exact hkeep w.transport rfl rfl rfl
  have hlive := h.live
  rw [hfd] at hlive
  rcases hqueue : w.transport.send_queue.isEmpty with _ | _
  · -- behind what is queued already
    have hsend : w.transport.send true data =
        (.ok (), { w.transport with send_queue := w.transport.send_queue ++ [data] }) := by
      simp only [TcpTransport.send, hfd, hqueue]
      rfl
    rw [call, hsend, hfd]
    refine h.update hfd _ data hfd (Function.update_eq_self fd w.transport.written).symm ?_
    show _ ++ (w.transport.send_queue ++ [data]).flatten = _
    rw [List.flatten_append, List.flatten_singleton, ← List.append_assoc, hlive]
  · have hempty := List.isEmpty_iff.mp hqueue
    rw [hempty] at hlive
    rcases hdirect : direct_write data w.transport.script with ⟨script, _ | n⟩
    · have hsend : w.transport.send true data =
          (.error .TransportError, { w.transport with script := script }) := by
        simp only [TcpTransport.send, hfd, hqueue, hdirect]
        rfl
      rw [call, hsend]
      exact hkeep _ rfl rfl rfl
    · -- the part that was taken, and the rest queued
      have hle := direct_write_le hdirect
      have hsend : w.transport.send true data =
          (.ok (), { w.transport with
            script := script
            written := Function.update w.transport.written fd
              (w.transport.written fd ++ data.take n)
            send_queue := if n < data.length then [data.drop n] else [] }) := by
        by_cases hpart : n < data.length
        · simp [TcpTransport.send, hfd, hqueue, hdirect, hpart]
        · simp [TcpTransport.send, hfd, hdirect, hpart, hempty]
      rw [call, hsend, hfd]
      refine h.update hfd _ data hfd rfl ?_
      show _ ++ (if n < data.length then [data.drop n] else []).flatten = _
      have hrest : (if n < data.length then [data.drop n] else []).flatten = data.drop n := by
        split
        · exact List.flatten_singleton
        · rw [List.drop_eq_nil_of_le (by omega)]
          rfl
      rw [hrest, List.append_assoc, List.take_append_drop, ← hlive, List.flatten_nil,
        List.append_nil]

theorem Conserved.handle_send (h : Conserved w) : Conserved (w.call .handle_send) := by
  rcases hfd : w.transport.conn_fd with _ | fd
  · rw [call, hfd]
    exact h
  · have hlive := h.live
    rw [hfd] at hlive
    obtain ⟨hconserves, -⟩ :=
      flush_conserves w.transport.script w.transport.send_queue (w.transport.written fd)
    rw [call, hfd]
    have hupdated := h.update hfd (w.transport.handle_send fd).2 [] hfd rfl
      (by rw [List.append_nil]; exact hconserves.trans hlive)
    rw [List.append_nil, Function.update_eq_self] at hupdated
    exact hupdated

/-- **One call keeps the bytes.** -/
theorem Conserved.call (h : Conserved w) (c : TransportCall) : Conserved (w.call c) := by
  cases c with
  | send connected_seen data => exact h.send connected_seen data
  | disconnect =>
    rw [Wire.call, TcpTransport.disconnect]
    split
    · exact h
    · exact ⟨h.live, h.past, h.fresh, h.adopted⟩
  | handle_send => exact h.handle_send
  | adopt_connection =>
    obtain ⟨hwritten, haccepted⟩ := h.fresh w.connections le_rfl
    refine ⟨?_, h.past, ?_, ?_⟩
    · show w.transport.written w.connections ++ [] = w.accepted w.connections
      rw [hwritten, haccepted]
      rfl
    · intro fd hfd
      exact h.fresh fd (Nat.le_of_succ_le hfd)
    · intro fd hfd
      obtain rfl : w.connections = fd := Option.some.inj hfd
      exact Nat.lt_succ_self _
  | close_connection => exact ⟨rfl, h.past, h.fresh, fun _ h => by cases h⟩

/-- **An interleaving keeps the bytes.** -/
theorem Conserved.run (h : Conserved w) (calls : List TransportCall) : Conserved (w.run calls) := by
  induction calls generalizing w with
  | nil => exact h
  | cons c calls ih => exact ih (h.call c)

/-- **The transmit stream of each connection is FIFO, without loss or duplication**, and
no byte accepted on one connection is written to another. -/
theorem transmit_fifo (script : List KernelSend) (calls : List TransportCall) :
    (match ((start script).run calls).transport.conn_fd with
      | some fd => ((start script).run calls).transport.written fd ++
          ((start script).run calls).transport.send_queue.flatten =
            ((start script).run calls).accepted fd
      | none => ((start script).run calls).transport.send_queue = []) ∧
    ∀ fd, ((start script).run calls).transport.written fd <+:
      ((start script).run calls).accepted fd := by
  have hconserved := (conserved_start script).run calls
  exact ⟨hconserved.live, hconserved.past⟩

end Wire

end FixEngine
