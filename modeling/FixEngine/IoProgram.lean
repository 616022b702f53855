/-
`IoProgram.lean` -- the IO thread of `src/transport/tcp_transport.cpp`, point by point.

`run_initiator`, `do_connect`, `run_acceptor`, `run_event_loop` and `handle_recv` are one
program here, with a program point before each call of the kernel and before each look at
a flag that other threads write. What the kernel answers is an input, and so are the calls
of other threads (and of callbacks): `send`, `disconnect`, and whatever is written to
`running_`, which `stop` clears and `start` sets and clears again. A run is a list of
inputs, each of them possible where it comes. The loops of `wait_writable` and
`interruptible_sleep`, which only wait, are one answer each. The Linux variant of
`run_event_loop` is the one that is modelled.

What each step does is said once (`Moved`): the descriptors that the thread holds are those
of its program point, the callbacks come in their order, the connection of the transport is
that of the event loop, and once `running_` is false the way to the end gets shorter.
-/
import FixEngine.Disconnect

set_option autoImplicit false

namespace FixEngine

open Decimal

/-- The members of `TcpTransportConfig` that the IO thread reads. Delays are milliseconds. -/
structure TcpTransportConfig where
  initiator : Bool := true
  reconnect_delay : ℤ := 5000
  reconnect_delay_max : ℤ := 60000

namespace IoProgram

/-! ## Program points -/

/-- An event of `epoll_wait`. -/
inductive EpollEvent where
  /-- On the wake pipe. -/
  | wake
  /-- EPOLLHUP or EPOLLERR. -/
  | broken
  /-- EPOLLIN or EPOLLRDHUP, and EPOLLOUT. -/
  | ready (readable writable : Bool)
  deriving DecidableEq

/-- What `poll` reports of the listening socket. -/
inductive Polled where
  | readable
  /-- POLLERR, POLLHUP or POLLNVAL. -/
  | broken
  | nothing
  deriving DecidableEq

/-- Who has called `run_event_loop`. -/
inductive Caller where
  | do_connect
  | run_acceptor (lfd : ℕ)
  deriving DecidableEq

/-- The points of `run_event_loop`, each before the call or the look it is named after. -/
inductive LoopPc where
  | epoll_create
  | epoll_ctl (efd : ℕ)
  /-- The condition of the loop: `running_`. -/
  | head (efd : ℕ)
  /-- `disconnect_requested_`. -/
  | check (efd : ℕ)
  | epoll_wait (efd : ℕ)
  /-- At the next event. -/
  | event (efd : ℕ) (evs : List EpollEvent)
  /-- The wake pipe has been drained: `running_`. -/
  | woken (efd : ℕ) (evs : List EpollEvent)
  /-- In `handle_recv`; the event may be one for `handle_send`, too. -/
  | recv (efd : ℕ) (writable : Bool) (evs : List EpollEvent)
  /-- At the `handle_send` of an event. -/
  | send (efd : ℕ) (evs : List EpollEvent)
  /-- At the `handle_send` that follows the events. -/
  | flush (efd : ℕ)
  deriving DecidableEq

/-- The points of the program. `left` counts the addresses that are still to be tried. -/
inductive Pc where
  /-- The condition of the loop of `run_initiator`. -/
  | run_initiator
  /-- The condition of the loop of `do_connect`. -/
  | address (left : ℕ)
  | socket (left : ℕ)
  | prepare_socket (fd left : ℕ)
  | connect (fd left : ℕ)
  | wait_writable (fd left : ℕ)
  /-- The socket is closed, and the wait may have been ended by `stop`. -/
  | abandoned (left : ℕ)
  | so_error (fd left : ℕ)
  /-- Behind the loop of `do_connect`, without a connection. -/
  | unconnected
  /-- `do_connect` has returned. -/
  | attempted (established : Bool)
  | interruptible_sleep (established : Bool)
  | listen_socket
  /-- At `bind` and `listen`. -/
  | bind (lfd : ℕ)
  /-- The condition of the outer loop of `run_acceptor`. -/
  | accepting (lfd : ℕ)
  | poll (lfd : ℕ)
  | polled (lfd : ℕ) (woken : Bool) (r : Polled)
  /-- The condition of the inner loop. -/
  | backlog (lfd : ℕ)
  | accept (lfd : ℕ)
  | accept_backoff (lfd : ℕ)
  | prepare_accepted (lfd fd : ℕ)
  /-- Behind the loops of `run_acceptor`. -/
  | close_listener (lfd : ℕ)
  /-- `adopt_connection` has returned. -/
  | adopted (fd : ℕ) (k : Caller)
  | serving (fd : ℕ) (k : Caller) (l : LoopPc)
  /-- `run_event_loop` has returned. -/
  | left (fd : ℕ) (k : Caller) (reason : Bytes)
  /-- `close_connection` has released `send_mutex_`, with what `conn_fd_` was. -/
  | closing (fd : Option ℕ) (k : Caller) (reason : Bytes)
  /-- `close_connection` has returned. -/
  | closed (k : Caller) (reason : Bytes)
  | exited
  deriving DecidableEq

/-! ### What is held at a point -/

def Caller.held : Caller → List ℕ
  | .do_connect => []
  | .run_acceptor lfd => [lfd]

def LoopPc.held : LoopPc → List ℕ
  | .epoll_create => []
  | .epoll_ctl efd | .head efd | .check efd | .epoll_wait efd | .event efd _ | .woken efd _
  | .recv efd _ _
  | .send efd _ | .flush efd => [efd]

/-- The descriptors that are open at the point, the last one first. -/
def Pc.held : Pc → List ℕ
  | .prepare_socket fd _ | .connect fd _ | .wait_writable fd _ | .so_error fd _ => [fd]
  | .bind lfd | .accepting lfd | .poll lfd | .polled lfd _ _ | .backlog lfd | .accept lfd
  | .accept_backoff lfd
  | .close_listener lfd => [lfd]
  | .prepare_accepted lfd fd => [fd, lfd]
  | .serving fd k l => l.held ++ fd :: k.held
  | .adopted fd k | .left fd k _ => fd :: k.held
  | .closing fd k _ => fd.toList ++ k.held
  | .closed k _ => k.held
  | .run_initiator | .address _ | .socket _ | .abandoned _ | .unconnected | .attempted _
  | .interruptible_sleep _
  | .listen_socket | .exited => []

/-- The connection that is adopted at the point: `conn_fd_`. -/
def Pc.connection : Pc → Option ℕ
  | .adopted fd _ | .serving fd _ _ | .left fd _ _ => some fd
  | _ => none

/-- `connected_`, which is cleared later than `conn_fd_`. -/
def Pc.connected : Pc → Bool
  | .adopted _ _ | .serving _ _ _ | .left _ _ _ | .closing _ _ _ => true
  | _ => false

/-- The application has been told of a connection, and not of its end. -/
def Pc.told : Pc → Bool
  | .serving _ _ _ | .left _ _ _ | .closing _ _ _ | .closed _ _ => true
  | _ => false

/-! ## Steps -/

/-- What the IO thread does that can be seen from outside. -/
inductive Act where
  | opened (fd : ℕ)
  | closed (fd : ℕ)
  | on_connected
  | on_data (data : Bytes)
  | on_disconnected (reason : Bytes)
  | on_error
  /-- `interruptible_sleep` between two attempts, the first of which came to this. -/
  | slept (established : Bool) (delay : ℤ)
  deriving DecidableEq

/-- What the kernel answers. -/
inductive Answer where
  /-- The kernel is not asked: members are read or written. -/
  | look
  | ok
  | failed
  /-- EAGAIN or EWOULDBLOCK. -/
  | again
  /-- EINTR. -/
  | intr
  | in_progress
  | fd (fd : ℕ)
  /-- `recv` of some bytes. -/
  | data (data : Bytes)
  /-- `recv` of none. -/
  | eof
  | polled (woken : Bool) (r : Polled)
  | events (evs : List EpollEvent)
  /-- SO_ERROR, and whether it is one. -/
  | error_code (reported : Bool)
  /-- The wait is over; `poll` failed that many times on the way. -/
  | waited (errors : ℕ)
  deriving DecidableEq

/-- The members that the IO thread uses, its program point, and what it has done. -/
structure State where
  pc : Pc
  running : Bool
  transport : TcpTransport
  delay : ℤ
  trace : List Act

/-- `delay` at the start of `run_initiator`. -/
def initial_delay (cfg : TcpTransportConfig) : ℤ := max cfg.reconnect_delay 0

def delay_max (cfg : TcpTransportConfig) : ℤ :=
  max (max (initial_delay cfg) cfg.reconnect_delay_max) 1

/-- `std::clamp(established ? cfg_.reconnect_delay : delay * 2, ms{1}, delay_max)`. -/
def next_delay (cfg : TcpTransportConfig) (established : Bool) (delay : ℤ) : ℤ :=
  let wanted := if established then cfg.reconnect_delay else delay * 2
  if wanted < 1 then 1 else if delay_max cfg < wanted then delay_max cfg else wanted

namespace State

/-- On to another point. -/
def goto (acts : List Act) (pc : Pc) (io : State) : State :=
  { io with pc := pc, trace := io.trace ++ acts }

/-- `adopt_connection`. -/
def adopt (fd : ℕ) (k : Caller) (io : State) : State :=
  { io.goto [] (.adopted fd k) with transport := io.transport.adopt_connection fd }

/-- `run_initiator` and `do_connect`. -/
def initiator_step (cfg : TcpTransportConfig) (addresses : ℕ) (io : State) :
    Pc → Answer → Option State
  | .run_initiator, .look =>
    if !io.running then io.goto [] .exited
    -- no address was resolved
    else if addresses = 0 then io.goto [.on_error] (.attempted false)
    else io.goto [] (.address addresses)
  | .address 0, .look => io.goto [] .unconnected
  | .address (left + 1), .look => io.goto [] (if io.running then .socket left else .unconnected)
  | .socket left, .failed => io.goto [] (.address left)
  | .socket left, .fd fd => io.goto [.opened fd] (.prepare_socket fd left)
  | .prepare_socket fd left, .ok => io.goto [] (.connect fd left)
  | .prepare_socket fd left, .failed => io.goto [.closed fd] (.address left)
  | .connect fd left, .ok => io.goto [] (.so_error fd left)
  | .connect fd left, .in_progress => io.goto [] (.wait_writable fd left)
  | .connect fd left, .failed => io.goto [.closed fd] (.address left)
  | .wait_writable fd left, .ok => io.goto [] (.so_error fd left)
  | .wait_writable fd left, .failed => io.goto [.closed fd] (.abandoned left)
  | .abandoned left, .look => io.goto [] (if io.running then .address left else .unconnected)
  | .so_error fd left, .failed => io.goto [.closed fd] (.address left)
  | .so_error fd _, .ok => io.adopt fd .do_connect
  | .unconnected, .look => io.goto (if io.running then [.on_error] else []) (.attempted false)
  | .attempted established, .look =>
    io.goto [] (if io.running then .interruptible_sleep established else .exited)
  | .interruptible_sleep established, .waited errors =>
    let io := io.goto (.slept established io.delay :: List.replicate errors .on_error)
      (if io.running then .run_initiator else .exited)
    if io.running then some { io with delay := next_delay cfg established io.delay } else some io
  | _, _ => none

/-- `run_acceptor`. -/
def acceptor_step (io : State) : Pc → Answer → Option State
  | .listen_socket, .failed => io.goto [.on_error] .exited
  | .listen_socket, .fd lfd => io.goto [.opened lfd] (.bind lfd)
  | .bind lfd, .failed => io.goto [.closed lfd, .on_error] .exited
  | .bind lfd, .ok => io.goto [] (.accepting lfd)
  | .accepting lfd, .look => io.goto [] (if io.running then .poll lfd else .close_listener lfd)
  | .poll lfd, .intr => io.goto [] (.accepting lfd)
  | .poll lfd, .failed => io.goto [.on_error] (.close_listener lfd)
  | .poll lfd, .polled woken r => io.goto [] (.polled lfd woken r)
  | .polled lfd woken r, .look =>
    if woken && !io.running then io.goto [] (.close_listener lfd)
    else
      match r with
      | .readable => io.goto [] (.backlog lfd)
      | .broken => io.goto [.on_error] (.close_listener lfd)
      | .nothing => io.goto [] (.accepting lfd)
  | .backlog lfd, .look => io.goto [] (if io.running then .accept lfd else .accepting lfd)
  | .accept lfd, .intr => io.goto [] (.backlog lfd)
  | .accept lfd, .again => io.goto [] (.accepting lfd)
  | .accept lfd, .failed => io.goto [.on_error] (.accept_backoff lfd)
  | .accept lfd, .fd fd =>
    if fd = lfd then none else io.goto [.opened fd] (.prepare_accepted lfd fd)
  | .accept_backoff lfd, .waited errors =>
    io.goto (List.replicate errors .on_error) (.accepting lfd)
  | .prepare_accepted lfd fd, .failed => io.goto [.closed fd, .on_error] (.backlog lfd)
  | .prepare_accepted lfd fd, .ok => io.adopt fd (.run_acceptor lfd)
  | .close_listener lfd, .look => io.goto [.closed lfd] .exited
  | _, _ => none

/-- On to another point of the event loop. -/
def turn (fd : ℕ) (k : Caller) (acts : List Act) (l : LoopPc) (io : State) : State :=
  io.goto acts (.serving fd k l)

/-- The end of the event loop: the epoll descriptor is closed. -/
def leave (fd : ℕ) (k : Caller) (efd : ℕ) (acts : List Act) (reason : Bytes) (io : State) : State :=
  io.goto (acts ++ [.closed efd]) (.left fd k reason)

/-- A `handle_send`, and then the point `l` unless it failed. -/
def flush (fd : ℕ) (k : Caller) (efd : ℕ) (l : LoopPc) (io : State) : State :=
  let r := io.transport.handle_send fd
  let io := { io with transport := r.2 }
  if r.1.isEmpty then io.turn fd k [] l else io.leave fd k efd [.on_error] r.1

/-- `run_event_loop` and `handle_recv`. -/
def loop_step (fd : ℕ) (k : Caller) (io : State) : LoopPc → Answer → Option State
  | .epoll_create, .failed => io.goto [.on_error] (.left fd k (ascii "epoll_create1 failed"))
  | .epoll_create, .fd efd =>
    if (fd :: k.held).contains efd then none else io.turn fd k [.opened efd] (.epoll_ctl efd)
  | .epoll_ctl efd, .failed =>
    io.goto [.closed efd, .on_error] (.left fd k (ascii "epoll_ctl failed"))
  | .epoll_ctl efd, .ok => io.turn fd k [] (.head efd)
  | .head efd, .look => if io.running then io.turn fd k [] (.check efd) else io.leave fd k efd [] []
  | .check efd, .look =>
    if io.transport.disconnect_requested then io.leave fd k efd [] disconnect_text
    else io.turn fd k [] (.epoll_wait efd)
  | .epoll_wait efd, .intr => io.turn fd k [] (.head efd)
  | .epoll_wait efd, .failed => io.leave fd k efd [.on_error] (ascii "epoll_wait failed")
  | .epoll_wait efd, .events evs =>
    if evs.length ≤ 64 then io.turn fd k [] (.event efd evs) else none
  | .event efd [], .look => io.turn fd k [] (.flush efd)
  | .event efd (.wake :: evs), .look => io.turn fd k [] (.woken efd evs)
  | .event efd (.broken :: _), .error_code reported =>
    io.leave fd k efd (if reported then [.on_error] else []) (ascii "connection error")
  | .event efd (.ready readable writable :: evs), .look =>
    io.turn fd k [] (if readable then .recv efd writable evs else if writable then .send efd evs
    else .event efd evs)
  | .woken efd evs, .look =>
    if io.running then io.turn fd k [] (.event efd evs) else io.leave fd k efd [] []
  | .recv efd writable evs, .data data =>
    if data.isEmpty then none else io.turn fd k [.on_data data] (.recv efd writable evs)
  | .recv efd _ _, .eof => io.leave fd k efd [] (ascii "peer closed")
  | .recv efd writable evs, .again =>
    io.turn fd k [] (if writable then .send efd evs else .event efd evs)
  | .recv efd writable evs, .intr => io.turn fd k [] (.recv efd writable evs)
  | .recv efd _ _, .failed => io.leave fd k efd [.on_error] (ascii "recv failed")
  | .send efd evs, .look => io.flush fd k efd (.event efd evs)
  | .flush efd, .look => io.flush fd k efd (.head efd)
  | _, _ => none

/-- `fire_disconnected`: the reason that the application gets. -/
def shown_reason (reason : Bytes) : Bytes :=
  if reason.isEmpty then ascii "transport stopped" else reason

/-- Where the caller of `run_event_loop` goes on. -/
def resume : Caller → Pc
  | .do_connect => .attempted true
  | .run_acceptor lfd => .accepting lfd

/-- A step of the IO thread. -/
def advance (cfg : TcpTransportConfig) (addresses : ℕ) (io : State) (a : Answer) : Option State :=
  match io.pc with
  | .adopted fd k =>
    if a = .look then io.goto [.on_connected] (.serving fd k .epoll_create) else none
  | .serving fd k l => io.loop_step fd k l a
  | .left _ k reason =>
    if a = .look then
      some { io.goto [] (.closing io.transport.conn_fd k reason) with
        transport := io.transport.release_connection }
    else none
  | .closing fd k reason =>
    -- `close_connection` closes what `conn_fd_` named, whatever the event loop has served
    if a = .look then
      some { io.goto (fd.toList.map .closed) (.closed k reason) with
        transport := { io.transport with connected := false } }
    else none
  | .closed k reason =>
    if a = .look then io.goto [.on_disconnected (shown_reason reason)] (resume k) else none
  | .listen_socket | .bind _ | .accepting _ | .poll _ | .polled _ _ _ | .backlog _ | .accept _
  | .accept_backoff _
  | .prepare_accepted _ _ | .close_listener _ => io.acceptor_step io.pc a
  | _ => io.initiator_step cfg addresses io.pc a

end State

/-- A step of some thread. The first one is of the IO thread. -/
inductive Input where
  | io (a : Answer)
  | send (connected_seen : Bool) (data : Bytes)
  | disconnect
  | set_running (b : Bool)
  deriving DecidableEq

namespace State

variable (cfg : TcpTransportConfig) (addresses : ℕ)

def step (io : State) : Input → Option State
  | .io a => io.advance cfg addresses a
  | .send connected_seen data =>
    some { io with transport := (io.transport.send connected_seen data).2 }
  | .disconnect => some { io with transport := io.transport.disconnect }
  | .set_running b => some { io with running := b }

/-- The IO thread at its start, for this script of `::send`. -/
def start (script : List KernelSend) : State where
  pc := if cfg.initiator then .run_initiator else .listen_socket
  running := true
  transport := .create script
  delay := initial_delay cfg
  trace := []

end State

/-! ## What a step does -/

/-- The descriptors that are open after the acts; `none` if one was given out that was open, or
closed that was not. -/
def descriptors : List Act → List ℕ → Option (List ℕ)
  | [], fds => some fds
  | .opened fd :: acts, fds => if fds.contains fd then none else descriptors acts (fd :: fds)
  | .closed fd :: acts, fds => if fds.contains fd then descriptors acts (fds.erase fd) else none
  | _ :: acts, fds => descriptors acts fds

/-- Whether the application has a connection after the acts; `none` if it was told of one that
it had, or got data or the end of one that it had not, or an end without a reason. -/
def callbacks : List Act → Bool → Option Bool
  | [], told => some told
  | .on_connected :: acts, told => if told then none else callbacks acts true
  | .on_data _ :: acts, told => if told then callbacks acts true else none
  | .on_disconnected reason :: acts, told =>
    if told && !reason.isEmpty then callbacks acts false else none
  | _ :: acts, told => callbacks acts told

def Act.is_on_disconnected : Act → Bool
  | .on_disconnected _ => true
  | _ => false

/-- The sleeps between attempts. -/
def sleeps (acts : List Act) : List (Bool × ℤ) :=
  acts.filterMap fun act =>
    match act with
    | .slept established delay => some (established, delay)
    | _ => none

theorem descriptors_append (acts more : List Act) (fds : List ℕ) :
    descriptors (acts ++ more) fds = (descriptors acts fds).bind (descriptors more) := by
  induction acts generalizing fds with
  | nil => rfl
  | cons act acts ih =>
    cases act with
    | opened fd =>
      rw [List.cons_append, descriptors, descriptors]
      split
      · rfl
      · exact ih _
    | closed fd =>
      rw [List.cons_append, descriptors, descriptors]
      split
      · exact ih _
      · rfl
    | _ => exact ih fds

theorem callbacks_append (acts more : List Act) (told : Bool) :
    callbacks (acts ++ more) told = (callbacks acts told).bind (callbacks more) := by
  induction acts generalizing told with
  | nil => rfl
  | cons act acts ih =>
    cases act with
    | on_connected =>
      rw [List.cons_append, callbacks, callbacks]
      split
      · rfl
      · exact ih _
    | on_data data =>
      rw [List.cons_append, callbacks, callbacks]
      split
      · exact ih _
      · rfl
    | on_disconnected reason =>
      rw [List.cons_append, callbacks, callbacks]
      split
      · exact ih _
      · rfl
    | _ => exact ih told

theorem reports_silent (n : ℕ) (fds : List ℕ) (told : Bool) :
    descriptors (List.replicate n .on_error) fds = some fds ∧
      callbacks (List.replicate n .on_error) told = some told ∧
      sleeps (List.replicate n .on_error) = [] := by
  induction n with
  | zero => exact ⟨rfl, rfl, rfl⟩
  | succ n ih => exact ih

/-! ### The way to the end -/

def LoopPc.ahead : LoopPc → ℕ
  | .head _ => 6
  | .epoll_ctl _ | .flush _ => 7
  | .epoll_create => 8
  | .event _ evs => 8 + 3 * evs.length
  | .woken _ evs | .send _ evs => 9 + 3 * evs.length
  | .recv _ _ evs => 10 + 3 * evs.length
  | .epoll_wait _ => 201
  | .check _ => 202

/-- The steps from the point to the end of the thread, at the most, once `running_` is false. -/
def Pc.ahead : Pc → ℕ
  | .exited => 0
  | .run_initiator | .attempted _ | .interruptible_sleep _ | .close_listener _ => 1
  | .unconnected | .accepting _ => 2
  | .address _ | .abandoned _ | .backlog _ | .accept_backoff _ | .bind _ | .closed _ _ => 3
  | .polled _ _ _ | .listen_socket | .closing _ _ _ => 4
  | .poll _ | .left _ _ _ => 5
  | .serving _ _ l => l.ahead
  | .adopted _ _ => 9
  | .so_error _ _ | .prepare_accepted _ _ => 10
  | .wait_writable _ _ | .accept _ => 11
  | .connect _ _ => 12
  | .prepare_socket _ _ => 13
  | .socket _ => 14

/-- The batches of `epoll_wait` have at most 64 events. -/
def Pc.batched : Pc → Prop
  | .serving _ _ (.event _ evs) | .serving _ _ (.woken _ evs) | .serving _ _ (.recv _ _ evs)
  | .serving _ _ (.send _ evs) => evs.length ≤ 64
  | _ => True

/-- Another turn of the loop of `handle_recv`: it does not look at `running_`. -/
def Pc.receives : Pc → Answer → Bool
  | .serving _ _ (.recv _ _ _), .data _ => true
  | .serving _ _ (.recv _ _ _), .intr => true
  | _, _ => false

/-- **What one step of the IO thread does.** -/
structure Moved (cfg : TcpTransportConfig) (a : Answer) (io io' : State) : Prop where
  running : io'.running = io.running
  acts : io.transport.conn_fd = io.pc.connection → ∃ acts, io'.trace = io.trace ++ acts ∧
    descriptors acts io.pc.held = some io'.pc.held ∧ callbacks acts io.pc.told = some io'.pc.told ∧
    ((sleeps acts = [] ∧ io'.delay = io.delay) ∨
    ∃ established, sleeps acts = [(established, io.delay)] ∧
      (io'.pc = .exited ∨ io'.delay = next_delay cfg established io.delay))
  connection : io.transport.conn_fd = io.pc.connection → io.transport.connected = io.pc.connected →
    io'.transport.conn_fd = io'.pc.connection ∧ io'.transport.connected = io'.pc.connected
  ahead : io.running = false → io'.pc.ahead + (if io.pc.receives a then 0 else 1) ≤ io.pc.ahead
  batched : io.pc.batched → io'.pc.batched
  alive : io.pc ≠ .exited

section Steps

variable {cfg : TcpTransportConfig} {io io' : State} {a : Answer} {pc pc' : Pc} {acts : List Act}
  {reason : Bytes}

attribute [local simp] descriptors callbacks sleeps Pc.held Pc.told Pc.connection Pc.connected
  Pc.ahead Pc.receives
  Pc.batched

theorem moved_goto (hpc : io.pc = pc) (hheld : descriptors acts pc.held = some pc'.held)
    (htold : callbacks acts pc.told = some pc'.told) (hsleeps : sleeps acts = [])
    (hconnection : (pc'.connection, pc'.connected) = (pc.connection, pc.connected))
    (hahead : io.running = false → pc'.ahead + (if pc.receives a then 0 else 1) ≤ pc.ahead)
    (hbatched : pc.batched → pc'.batched) (halive : pc ≠ .exited) :
    Moved cfg a io (io.goto acts pc') := by
  subst hpc
  refine ⟨rfl, fun _ => ⟨acts, rfl, hheld, htold, .inl ⟨hsleeps, rfl⟩⟩, ?_, hahead,
    hbatched, halive⟩
  intro hfd hconnected
  obtain ⟨hsame, hflag⟩ := Prod.mk.inj hconnection
  exact ⟨hfd.trans hsame.symm, hconnected.trans hflag.symm⟩

theorem moved_adopt {fd : ℕ} {k : Caller} (hpc : io.pc = pc) (hheld : pc.held = fd :: k.held)
    (htold : pc.told = false) (hahead : 10 ≤ pc.ahead) (halive : pc ≠ .exited) :
    Moved cfg .ok io (io.adopt fd k) := by
  subst hpc
  refine ⟨rfl, fun _ => ⟨[], rfl, ?_, ?_, .inl ⟨rfl, rfl⟩⟩, fun _ _ => ⟨rfl, rfl⟩,
    fun _ => ?_, fun _ => trivial, halive⟩
  · rw [hheld]
    rfl
  · rw [htold]
    rfl
  · show 9 + _ ≤ _
    split <;> omega

theorem moved_sleep {n errors : ℕ} {established : Bool}
    (h : io.initiator_step cfg n (.interruptible_sleep established) (.waited errors) = some io')
    (hpc : io.pc = .interruptible_sleep established) : Moved cfg (.waited errors) io io' := by
  obtain ⟨hdescriptors, hcallbacks, hsleeps⟩ := reports_silent errors [] false
  have hslept : sleeps (.slept established io.delay :: List.replicate errors .on_error) =
      [(established, io.delay)] :=
    congrArg (_ :: ·) hsleeps
  rw [State.initiator_step] at h
  dsimp only [State.goto] at h
  split at h <;> rename_i hrun <;> obtain rfl := Option.some.inj h
  · refine ⟨rfl, fun _ => ⟨_, rfl, ?_, ?_, .inr ⟨established, hslept, .inr rfl⟩⟩, ?_,
      ?_, ?_, ?_⟩ <;>
      simp +contextual [hrun, hpc, hdescriptors, hcallbacks]
  · refine ⟨rfl, fun _ => ⟨_, rfl, ?_, ?_, .inr ⟨established, hslept, .inl ?_⟩⟩, ?_, ?_, ?_, ?_⟩ <;>
      simp +contextual [hrun, hpc, hdescriptors, hcallbacks]

/-- **Every step of the initiator's thread outside of `epoll_loop`.** -/
theorem moved_initiator_step {addresses : ℕ}
    (h : io.initiator_step cfg addresses io.pc a = some io') :
    Moved cfg a io io' := by
  generalize hpc : io.pc = pc at h
  unfold State.initiator_step at h
  split at h
  case h_1 =>
    split at h
    · obtain rfl := Option.some.inj h
      exact moved_goto hpc rfl rfl rfl rfl (fun _ => le_rfl) id (by simp)
    · -- the loop of `do_connect` is entered only while `running_` is true
      rename_i hrun
      split at h <;> obtain rfl := Option.some.inj h <;>
        exact moved_goto hpc rfl rfl rfl rfl (by simp_all) id (by simp)
  case h_15 fd left =>
    obtain rfl := Option.some.inj h
    exact moved_adopt hpc rfl rfl (by simp) (by simp)
  case h_18 established errors => exact moved_sleep (n := addresses) h hpc
  case h_19 => exact absurd h (by simp)
  all_goals
    obtain rfl := Option.some.inj h
    cases hrun : io.running <;> refine moved_goto hpc ?_ ?_ ?_ ?_ ?_ ?_ ?_ <;> simp [hrun]

/-- **Every step of the acceptor's.** -/
theorem moved_acceptor_step (h : io.acceptor_step io.pc a = some io') : Moved cfg a io io' := by
  generalize hpc : io.pc = pc at h
  unfold State.acceptor_step at h
  split at h
  case h_9 lfd woken r =>
    split at h
    · obtain rfl := Option.some.inj h
      refine moved_goto hpc ?_ ?_ ?_ ?_ ?_ ?_ ?_ <;> simp
    · cases r <;> obtain rfl := Option.some.inj h <;> refine moved_goto hpc ?_ ?_ ?_ ?_ ?_ ?_ ?_ <;>
        simp
  case h_14 lfd fd =>
    split at h
    · exact absurd h (by simp)
    · rename_i hfd
      obtain rfl := Option.some.inj h
      refine moved_goto hpc ?_ ?_ ?_ ?_ ?_ ?_ ?_ <;> simp [hfd]
  case h_15 lfd errors =>
    obtain ⟨hdescriptors, hcallbacks, hsleeps⟩ := reports_silent errors [lfd] false
    obtain rfl := Option.some.inj h
    exact moved_goto hpc hdescriptors hcallbacks hsleeps rfl (by simp) id (by simp)
  case h_17 lfd fd =>
    obtain rfl := Option.some.inj h
    exact moved_adopt hpc rfl rfl (by simp) (by simp)
  case h_19 => exact absurd h (by simp)
  all_goals
    obtain rfl := Option.some.inj h
    cases hrun : io.running <;> refine moved_goto hpc ?_ ?_ ?_ ?_ ?_ ?_ ?_ <;> simp [hrun]

theorem Moved.of_transport {t : TcpTransport} (h : Moved cfg a { io with transport := t } io')
    (hfd : t.conn_fd = io.transport.conn_fd) (hconnected : t.connected = io.transport.connected) :
    Moved cfg a io io' where
  running := h.running
  acts hadopted := h.acts (hfd.trans hadopted)
  connection hadopted hflag := h.connection (hfd.trans hadopted) (hconnected.trans hflag)
  ahead := h.ahead
  batched := h.batched
  alive := h.alive

section Loop

variable {fd efd : ℕ} {k : Caller} {l l' : LoopPc}

theorem moved_turn (hpc : io.pc = .serving fd k l) (hl : l'.held = l.held)
    (hahead : io.running = false →
    l'.ahead + (if (Pc.serving fd k l).receives a then 0 else 1) ≤ l.ahead)
    (hbatched : (Pc.serving fd k l).batched → (Pc.serving fd k l').batched) :
    Moved cfg a io (io.turn fd k [] l') := by
  refine moved_goto hpc ?_ rfl rfl rfl hahead hbatched (by simp)
  simp [hl]

theorem moved_leave (hpc : io.pc = .serving fd k l) (hl : l.held = [efd])
    (hacts : ∃ n, acts = List.replicate n .on_error) (hahead : 6 ≤ l.ahead) :
    Moved cfg a io (io.leave fd k efd acts reason) := by
  obtain ⟨n, rfl⟩ := hacts
  obtain ⟨hdescriptors, hcallbacks, hsleeps⟩ := reports_silent n (efd :: fd :: k.held) true
  refine moved_goto hpc ?_ ?_ ?_ rfl ?_ (by simp) (by simp)
  · rw [descriptors_append]
    simp [hl, hdescriptors]
  · rw [callbacks_append]
    simp [hcallbacks]
  · rw [sleeps, List.filterMap_append]
    exact congrArg (· ++ _) hsleeps
  · intro _
    show 5 + _ ≤ l.ahead
    split <;> omega

theorem moved_flush (hpc : io.pc = .serving fd k l) (hl : l.held = [efd]) (hl' : l'.held = [efd])
    (hahead : l'.ahead + 1 ≤ l.ahead) (hleft : 6 ≤ l.ahead)
    (hbatched : (Pc.serving fd k l).batched → (Pc.serving fd k l').batched) :
    Moved cfg .look io (io.flush fd k efd l') := by
  apply Moved.of_transport (t := (io.transport.handle_send fd).2) _ rfl rfl
  dsimp only [State.flush]
  split
  · exact moved_turn hpc (hl'.trans hl.symm) (fun _ => by simpa using hahead) hbatched
  · exact moved_leave hpc hl ⟨1, rfl⟩ hleft

attribute [local simp] LoopPc.held LoopPc.ahead

/-- **Every step in `epoll_loop`**, from which it returns to either of them. -/
theorem moved_loop_step (hpc : io.pc = .serving fd k l) (h : io.loop_step fd k l a = some io') :
    Moved cfg a io io' := by
  unfold State.loop_step at h
  split at h
  case h_1 =>
    obtain rfl := Option.some.inj h
    refine moved_goto hpc ?_ ?_ ?_ ?_ ?_ ?_ ?_ <;> simp
  case h_2 efd =>
    -- the kernel gives out no descriptor that is open
    split at h
    · exact absurd h (by simp)
    · rename_i hfresh
      obtain rfl := Option.some.inj h
      refine moved_goto hpc ?_ ?_ ?_ ?_ ?_ ?_ ?_ <;> simp_all
  case h_3 efd =>
    obtain rfl := Option.some.inj h
    refine moved_goto hpc ?_ ?_ ?_ ?_ ?_ ?_ ?_ <;> simp
  case h_5 efd =>
    split at h <;> rename_i hrun <;> obtain rfl := Option.some.inj h
    · exact moved_turn hpc rfl (by simp [hrun]) id
    · exact moved_leave hpc rfl ⟨0, rfl⟩ le_rfl
  case h_6 efd =>
    split at h <;> obtain rfl := Option.some.inj h
    · exact moved_leave hpc rfl ⟨0, rfl⟩ (by simp)
    · exact moved_turn hpc rfl (by simp) id
  case h_9 efd evs =>
    split at h
    · rename_i hbatch
      obtain rfl := Option.some.inj h
      exact moved_turn hpc rfl (fun _ => by simp; omega) fun _ => hbatch
    · exact absurd h (by simp)
  case h_12 efd evs reported =>
    obtain rfl := Option.some.inj h
    refine moved_leave hpc rfl ⟨if reported then 1 else 0, ?_⟩ (by simp; omega)
    cases reported <;> rfl
  case h_13 efd readable writable evs =>
    obtain rfl := Option.some.inj h
    cases readable <;> cases writable <;> refine moved_turn hpc rfl ?_ ?_ <;> simp <;> omega
  case h_14 efd evs =>
    split at h <;> obtain rfl := Option.some.inj h
    · exact moved_turn hpc rfl (by simp) id
    · exact moved_leave hpc rfl ⟨0, rfl⟩ (by simp; omega)
  case h_15 efd writable evs data =>
    split at h
    · exact absurd h (by simp)
    · obtain rfl := Option.some.inj h
      refine moved_goto hpc ?_ ?_ ?_ ?_ ?_ ?_ ?_ <;> simp
  case h_20 efd evs =>
    obtain rfl := Option.some.inj h
    exact moved_flush hpc rfl rfl (by simp) (by simp; omega) id
  case h_21 efd =>
    obtain rfl := Option.some.inj h
    exact moved_flush hpc rfl rfl (by simp) (by simp) fun _ => trivial
  case h_22 => exact absurd h (by simp)
  -- what is left goes on or leaves without a condition
  case h_8 | h_19 =>
    obtain rfl := Option.some.inj h
    exact moved_leave hpc rfl ⟨1, rfl⟩ (by simp <;> omega)
  case h_16 =>
    obtain rfl := Option.some.inj h
    exact moved_leave hpc rfl ⟨0, rfl⟩ (by simp; omega)
  case h_17 efd writable evs =>
    obtain rfl := Option.some.inj h
    cases writable <;> refine moved_turn hpc rfl ?_ ?_ <;> simp
  all_goals
    obtain rfl := Option.some.inj h
    refine moved_turn hpc rfl ?_ ?_ <;> simp <;> omega

end Loop

theorem shown_reason_isEmpty : (State.shown_reason reason).isEmpty = false := by
  unfold State.shown_reason
  split
  · rfl
  · simp_all

/-- **Every step of the IO thread.** -/
theorem moved_advance {n : ℕ} (h : io.advance cfg n a = some io') : Moved cfg a io io' := by
  unfold State.advance at h
  split at h
  case h_1 fd k hpc =>
    split at h
    · rename_i hlook
      obtain rfl := hlook
      obtain rfl := Option.some.inj h
      refine moved_goto hpc ?_ ?_ ?_ ?_ ?_ ?_ ?_ <;> simp [LoopPc.held, LoopPc.ahead]
    · exact absurd h (by simp)
  case h_2 fd k l hpc => exact moved_loop_step hpc h
  case h_3 fd k reason hpc =>
    split at h
    · rename_i hlook
      obtain rfl := hlook
      obtain rfl := Option.some.inj h
      refine ⟨rfl, fun hfd => ⟨[], rfl, ?_, ?_, .inl ⟨rfl, rfl⟩⟩, fun _ hconnected => ⟨rfl, ?_⟩,
        fun _ => ?_, fun _ => trivial, ?_⟩ <;>
        simp_all [State.goto, TcpTransport.release_connection]
    · exact absurd h (by simp)
  case h_4 fd k reason hpc =>
    split at h
    · rename_i hlook
      obtain rfl := hlook
      obtain rfl := Option.some.inj h
      refine ⟨rfl, fun _ => ⟨_, rfl, ?_, ?_, .inl ⟨?_, rfl⟩⟩, fun hfd _ => ⟨?_, rfl⟩, fun _ => ?_,
        fun _ => trivial, ?_⟩ <;>
        cases fd <;> simp_all [State.goto]
    · exact absurd h (by simp)
  case h_5 k reason hpc =>
    split at h
    · rename_i hlook
      obtain rfl := hlook
      obtain rfl := Option.some.inj h
      cases k <;> refine moved_goto hpc ?_ ?_ ?_ ?_ ?_ ?_ ?_ <;>
        simp [State.resume, Caller.held, shown_reason_isEmpty]
    · exact absurd h (by simp)
  case h_16 => exact moved_initiator_step h
  all_goals exact moved_acceptor_step h

end Steps

/-! ## Runs -/

/-- The delay after the sleeps, from a first one; `none` if one was not as long as the one before
it and what came of the attempt in between make it. -/
def pace (cfg : TcpTransportConfig) : List (Bool × ℤ) → ℤ → Option ℤ
  | [], d => some d
  | s :: ss, d => if s.2 = d then pace cfg ss (next_delay cfg s.1 d) else none

theorem pace_append (cfg : TcpTransportConfig) (ss more : List (Bool × ℤ)) (d : ℤ) :
    pace cfg (ss ++ more) d = (pace cfg ss d).bind (pace cfg more) := by
  induction ss generalizing d with
  | nil => rfl
  | cons s ss ih =>
    rw [List.cons_append, pace, pace]
    split
    · exact ih _
    · rfl

/-- What holds between any two steps. -/
structure Orderly (cfg : TcpTransportConfig) (io : State) : Prop where
  descriptors : descriptors io.trace [] = some io.pc.held
  callbacks : callbacks io.trace false = some io.pc.told
  conn_fd : io.transport.conn_fd = io.pc.connection
  connected : io.transport.connected = io.pc.connected
  batched : io.pc.batched
  pace : ∃ d, pace cfg (sleeps io.trace) (initial_delay cfg) = some d ∧
    (io.pc = .exited ∨ io.delay = d)

section Runs

variable {cfg : TcpTransportConfig} {n : ℕ} {script : List KernelSend} {io io' : State}

theorem orderly_start : Orderly cfg (.start cfg script) := by
  refine ⟨?_, ?_, ?_, ?_, ?_, initial_delay cfg, rfl, .inr rfl⟩ <;> cases h : cfg.initiator <;>
    simp [State.start, h, descriptors, callbacks, Pc.held, Pc.told, Pc.connection,
      Pc.connected, Pc.batched, TcpTransport.create]

theorem Moved.orderly {a : Answer} (h : Moved cfg a io io') (ho : Orderly cfg io) :
    Orderly cfg io' := by
  obtain ⟨acts, htrace, hheld, htold, hpace⟩ := h.acts ho.conn_fd
  obtain ⟨hfd, hconnected⟩ := h.connection ho.conn_fd ho.connected
  refine ⟨?_, ?_, hfd, hconnected, h.batched ho.batched, ?_⟩
  · rw [htrace, descriptors_append, ho.descriptors]
    exact hheld
  · rw [htrace, callbacks_append, ho.callbacks]
    exact htold
  · obtain ⟨d, hd, halive⟩ := ho.pace
    have hdelay : io.delay = d := halive.resolve_left h.alive
    have hsleeps : sleeps io'.trace = sleeps io.trace ++ sleeps acts := by
      rw [htrace, sleeps, List.filterMap_append]
      rfl
    rw [hsleeps, pace_append, hd]
    rcases hpace with ⟨hnone, hsame⟩ | ⟨established, hone, hnext⟩
    · rw [hnone]
      exact ⟨d, rfl, .inr (hsame.trans hdelay)⟩
    · rw [hone, ← hdelay]
      refine ⟨next_delay cfg established io.delay, ?_, hnext⟩
      show (if io.delay = io.delay then _ else _) = _
      rw [if_pos rfl]
      rfl

theorem send_keeps_connection (t : TcpTransport) (connected_seen : Bool) (data : Bytes) :
    (t.send connected_seen data).2.conn_fd = t.conn_fd ∧
    (t.send connected_seen data).2.connected = t.connected := by
  fun_cases TcpTransport.send connected_seen data t
  · exact ⟨rfl, rfl⟩
  · exact ⟨rfl, rfl⟩
  · exact ⟨rfl, rfl⟩
  · dsimp only
    split
    · exact ⟨rfl, rfl⟩
    · exact ⟨rfl, rfl⟩
  · exact ⟨rfl, rfl⟩

theorem disconnect_keeps_connection (t : TcpTransport) :
    t.disconnect.conn_fd = t.conn_fd ∧ t.disconnect.connected = t.connected := by
  unfold TcpTransport.disconnect
  split
  · exact ⟨rfl, rfl⟩
  · exact ⟨rfl, rfl⟩

theorem Orderly.of_transport {t : TcpTransport} (ho : Orderly cfg io)
    (h : t.conn_fd = io.transport.conn_fd ∧ t.connected = io.transport.connected) :
    Orderly cfg { io with transport := t } :=
  ⟨ho.descriptors, ho.callbacks, h.1.trans ho.conn_fd, h.2.trans ho.connected, ho.batched, ho.pace⟩

theorem orderly_step {e : Input} (ho : Orderly cfg io) (h : io.step cfg n e = some io') :
    Orderly cfg io' := by
  cases e with
  | io a => exact (moved_advance h).orderly ho
  | send connected_seen data =>
    obtain rfl := Option.some.inj h
    exact ho.of_transport (send_keeps_connection io.transport connected_seen data)
  | disconnect =>
    obtain rfl := Option.some.inj h
    exact ho.of_transport (disconnect_keeps_connection io.transport)
  | set_running b =>
    obtain rfl := Option.some.inj h
    exact ⟨ho.descriptors, ho.callbacks, ho.conn_fd, ho.connected, ho.batched, ho.pace⟩

theorem orderly_run {steps : List Input}
    (h : Loop.run (State.step cfg n) (.start cfg script) steps = some io) :
    Orderly cfg io := Loop.run_invariant (fun ho hstep => orderly_step ho hstep) orderly_start h

/-! ### Descriptors -/

theorem descriptors_count {acts : List Act} {fds fds' : List ℕ}
    (h : descriptors acts fds = some fds') (hnodup : fds.Nodup) : fds'.Nodup ∧
      ∀ fd, acts.count (.opened fd) + fds.count fd = acts.count (.closed fd) + fds'.count fd := by
  induction acts generalizing fds with
  | nil =>
    obtain rfl := Option.some.inj h
    exact ⟨hnodup, fun fd => by simp⟩
  | cons act acts ih =>
    cases act with
    | opened new =>
      rw [descriptors] at h
      split at h
      · exact absurd h (by simp)
      · rename_i hfresh
        obtain ⟨hn, hcount⟩ := ih h (List.nodup_cons.mpr ⟨by simpa using hfresh, hnodup⟩)
        refine ⟨hn, fun fd => ?_⟩
        have hfd := hcount fd
        by_cases heq : new = fd
        · subst heq
          rw [List.count_cons_self] at hfd ⊢
          simp
          omega
        · rw [List.count_cons_of_ne heq] at hfd
          simp [heq]
          omega
    | closed old =>
      rw [descriptors] at h
      split at h
      · rename_i hopen
        obtain ⟨hn, hcount⟩ := ih h (hnodup.erase old)
        refine ⟨hn, fun fd => ?_⟩
        have hfd := hcount fd
        have hmem : old ∈ fds := by simpa using hopen
        by_cases heq : old = fd
        · subst heq
          have hpos : 0 < fds.count old := List.count_pos_iff.mpr hmem
          rw [List.count_erase_self] at hfd
          simp
          omega
        · rw [List.count_erase_of_ne (Ne.symm heq)] at hfd
          simp [heq]
          omega
      · exact absurd h (by simp)
    | _ =>
      obtain ⟨hn, hcount⟩ := ih h hnodup
      refine ⟨hn, fun fd => ?_⟩
      simpa [List.count_cons] using hcount fd

theorem length_held_le (pc : Pc) : pc.held.length ≤ 3 := by
  cases pc with
  | serving fd k l => cases k <;> cases l <;> simp [Pc.held, Caller.held, LoopPc.held]
  | adopted fd k | left fd k reason | closed k reason => cases k <;> simp [Pc.held, Caller.held]
  | closing fd k reason => cases fd <;> cases k <;> simp [Pc.held, Caller.held]
  | _ => simp [Pc.held]

/-- **No descriptor is leaked, and none is closed twice.** In every interleaving, whatever the
kernel answers, the descriptors that are open are those of the program point; they are at
most three, and when the thread has ended every descriptor that it opened is closed. -/
theorem descriptors_balanced {steps : List Input}
    (h : Loop.run (State.step cfg n) (.start cfg script) steps = some io) :
    descriptors io.trace [] = some io.pc.held ∧ io.pc.held.Nodup ∧ io.pc.held.length ≤ 3 ∧
      (io.pc = .exited → ∀ fd, io.trace.count (.opened fd) = io.trace.count (.closed fd)) := by
  have ho := orderly_run h
  obtain ⟨hnodup, hcount⟩ := descriptors_count ho.descriptors List.nodup_nil
  refine ⟨ho.descriptors, hnodup, length_held_le io.pc, fun hexited fd => ?_⟩
  have hfd := hcount fd
  rw [hexited] at hfd
  simpa [Pc.held] using hfd

/-- An acceptor gets a client on descriptor 7, serves it through epoll descriptor 8, and is
stopped. -/
def served : List Input :=
  [.io (.fd 5), .io .ok, .io .look, .io (.polled false .readable), .io .look, .io .look,
    .io (.fd 7), .io .ok, .io .look, .io (.fd 8), .io .ok, .io .look, .io .look,
    .io (.events [.ready true false]), .io .look, .io (.data [56]), .io .again, .io .look,
    .io .look, .set_running false]

/-- It ends: the descriptors are closed in the order 8, 7, 5. -/
def ended : List Input := List.replicate 6 (.io .look)

def acceptor : TcpTransportConfig := { initiator := false }

theorem run_reads (cfg : TcpTransportConfig) (n : ℕ) (s : State) (steps : List Input) {pc : Pc}
    {running : Bool} {trace : List Act}
    (h : (Loop.run (State.step cfg n) s steps).map (fun io => (io.pc, io.running, io.trace))
      = some (pc, running, trace)) :
    ∃ io, Loop.run (State.step cfg n) s steps = some io ∧ io.pc = pc ∧ io.running = running ∧
    io.trace = trace := by
  obtain ⟨io, hrun, heq⟩ := Option.map_eq_some_iff.mp h
  obtain ⟨hpc, hrest⟩ := Prod.mk.inj heq
  obtain ⟨hrunning, htrace⟩ := Prod.mk.inj hrest
  exact ⟨io, hrun, hpc, hrunning, htrace⟩

/-- The acceptor serves one connection and is stopped: each of its three descriptors is closed.
-/
theorem descriptors_balanced_acceptor :
    ∃ io, Loop.run (State.step acceptor 0) (.start acceptor []) (served ++ ended) = some io ∧
      io.trace = [.opened 5, .opened 7, .on_connected, .opened 8, .on_data [56],
      .closed 8, .closed 7,
        .on_disconnected (ascii "transport stopped"), .closed 5] ∧
      io.trace.count (.opened 7) = io.trace.count (.closed 7) := by
  obtain ⟨io, hrun, hpc, _, htrace⟩ :=
    run_reads acceptor 0 (.start acceptor []) (served ++ ended) rfl
  exact ⟨io, hrun, htrace, (descriptors_balanced hrun).2.2.2 hpc 7⟩

/-! ### Callbacks -/

theorem callbacks_count {acts : List Act} {told told' : Bool}
    (h : callbacks acts told = some told') :
    acts.count .on_connected + told.toNat = acts.countP Act.is_on_disconnected + told'.toNat := by
  induction acts generalizing told with
  | nil =>
    obtain rfl := Option.some.inj h
    simp
  | cons act acts ih =>
    cases act with
    | on_connected =>
      rw [callbacks] at h
      split at h
      · exact absurd h (by simp)
      · have hrest := ih h
        simp_all [Act.is_on_disconnected]
    | on_data data =>
      rw [callbacks] at h
      split at h
      · have hrest := ih h
        simp_all [Act.is_on_disconnected]
      · exact absurd h (by simp)
    | on_disconnected reason =>
      rw [callbacks] at h
      split at h
      · rename_i htold
        have hrest := ih h
        obtain ⟨rfl, _⟩ := Bool.and_eq_true_iff.mp htold
        rw [List.countP_cons_of_pos rfl, List.count_cons_of_ne (by simp)]
        simp at hrest ⊢
        omega
      · exact absurd h (by simp)
    | _ =>
      have hrest := ih h
      simpa [Act.is_on_disconnected] using hrest

/-- **The application sees connections one after the other.** In every interleaving it is told of
a connection, gets its data, and is told of its end with a reason, before it is told of the
next one. `conn_fd_` is set from right before it is told of a connection and cleared before it is
told of the end, `connected_` is set with it and cleared after it; in between, the application has
a connection or is just being told of one. When the thread has ended it has been told of the end
of every connection. -/
theorem callbacks_ordered {steps : List Input}
    (h : Loop.run (State.step cfg n) (.start cfg script) steps = some io) :
    callbacks io.trace false = some io.pc.told ∧
      (io.transport.conn_fd.isSome → io.transport.connected = true) ∧
      (io.transport.connected = true → io.pc.told = true ∨ ∃ fd k, io.pc = .adopted fd k) ∧
      (io.pc.told = true → io.transport.connected = true ∨ ∃ k reason, io.pc = .closed k reason) ∧
      io.trace.count .on_connected = io.trace.countP Act.is_on_disconnected + io.pc.told.toNat ∧
      (io.pc = .exited → io.transport.conn_fd = none ∧ io.transport.connected = false ∧
        io.trace.count .on_connected = io.trace.countP Act.is_on_disconnected) := by
  have ho := orderly_run h
  have hcount := callbacks_count ho.callbacks
  rw [ho.conn_fd, ho.connected]
  refine ⟨ho.callbacks, ?_, ?_, ?_, hcount, fun hexited => ?_⟩
  · cases io.pc <;> simp [Pc.connection, Pc.connected]
  · cases io.pc <;> simp [Pc.told, Pc.connected]
  · cases io.pc <;> simp [Pc.told, Pc.connected]
  · rw [hexited] at hcount ⊢
    exact ⟨rfl, rfl, hcount⟩

/-- While the acceptor serves a connection, `on_connected` was called once. -/
theorem callbacks_ordered_acceptor :
    ∃ io, Loop.run (State.step acceptor 0) (.start acceptor []) served = some io ∧
    io.pc.told = true ∧
      callbacks io.trace false = some true ∧ io.trace.count .on_connected = 1 := by
  obtain ⟨io, hrun, hpc, _, htrace⟩ := run_reads acceptor 0 (.start acceptor []) served rfl
  have hordered := (callbacks_ordered hrun).1
  rw [hpc] at hordered
  refine ⟨io, hrun, ?_, hordered, ?_⟩
  · rw [hpc]
    rfl
  · rw [htrace]
    rfl

/-! ### Stopping -/

/-- A step of the IO thread, except another turn of the loop of `handle_recv` and a wait that a
signal has interrupted. -/
def Input.progresses : Input → Bool
  | .io (.data _) | .io .intr => false
  | .io _ => true
  | _ => false

theorem progresses_le (pc : Pc) (a : Answer) :
    (if (Input.io a).progresses then 1 else 0) ≤ if pc.receives a then 0 else 1 := by
  cases hreceives : pc.receives a with
  | false => split <;> simp
  | true =>
    unfold Pc.receives at hreceives
    split at hreceives
    · exact le_rfl
    · exact le_rfl
    · exact absurd hreceives (by simp)

theorem ahead_step {e : Input} (hstopped : io.running = false) (hstays : e ≠ .set_running true)
    (h : io.step cfg n e = some io') :
    io'.running = false ∧ (if e.progresses then 1 else 0) + io'.pc.ahead ≤ io.pc.ahead := by
  cases e with
  | io a =>
    have hmoved := moved_advance h
    have hless := hmoved.ahead hstopped
    have hcounted := progresses_le io.pc a
    exact ⟨hmoved.running.trans hstopped, by omega⟩
  | send connected_seen data =>
    obtain rfl := Option.some.inj h
    exact ⟨hstopped, by simp [Input.progresses]⟩
  | disconnect =>
    obtain rfl := Option.some.inj h
    exact ⟨hstopped, by simp [Input.progresses]⟩
  | set_running b =>
    obtain rfl := Option.some.inj h
    cases b with
    | false => exact ⟨rfl, by simp [Input.progresses]⟩
    | true => exact absurd rfl hstays

theorem ahead_run {more : List Input} (hstopped : io.running = false)
    (hstays : .set_running true ∉ more) (h : Loop.run (State.step cfg n) io more = some io') :
    io'.running = false ∧ more.countP Input.progresses + io'.pc.ahead ≤ io.pc.ahead := by
  induction more generalizing io with
  | nil =>
    obtain rfl := Option.some.inj h
    exact ⟨hstopped, by simp⟩
  | cons e more ih =>
    obtain ⟨next, hstep, hrest⟩ := Option.bind_eq_some_iff.mp h
    obtain ⟨hrunning, hless⟩ :=
      ahead_step hstopped (fun heq => hstays (heq ▸ List.mem_cons_self)) hstep
    obtain ⟨hends, hmore⟩ := ih hrunning (fun hmem => hstays (List.mem_cons_of_mem e hmem)) hrest
    refine ⟨hends, ?_⟩
    rw [List.countP_cons]
    omega

theorem ahead_le {pc : Pc} (h : pc.batched) : pc.ahead ≤ 202 := by
  cases pc with
  | serving fd k l =>
    cases l <;> simp [Pc.batched] at h <;> simp [Pc.ahead, LoopPc.ahead] <;> omega
  | _ => simp [Pc.ahead]

theorem ahead_eq_zero_iff (pc : Pc) : pc.ahead = 0 ↔ pc = .exited := by
  cases pc with
  | serving fd k l => cases l <;> simp [Pc.ahead, LoopPc.ahead]
  | _ => simp [Pc.ahead]

theorem advance_possible (halive : io.pc ≠ .exited) : ∃ a, (io.advance cfg n a).isSome := by
  unfold State.advance
  cases hpc : io.pc with
  | exited => exact absurd hpc halive
  | run_initiator =>
    refine ⟨.look, ?_⟩
    dsimp only [State.initiator_step]
    split
    · rfl
    · split <;> rfl
  | address left => cases left <;> exact ⟨.look, rfl⟩
  | interruptible_sleep established =>
    refine ⟨.waited 0, ?_⟩
    cases hrun : io.running <;> simp [State.initiator_step, State.goto, hrun]
  | accept_backoff lfd => exact ⟨.waited 0, rfl⟩
  | polled lfd woken r =>
    refine ⟨.look, ?_⟩
    dsimp only [State.acceptor_step]
    split
    · rfl
    · cases r <;> rfl
  | serving fd k l =>
    cases l with
    | event efd evs =>
      rcases evs with _ | ⟨ev, evs⟩
      · exact ⟨.look, rfl⟩
      · cases ev with
        | broken => exact ⟨.error_code false, rfl⟩
        | _ => exact ⟨.look, rfl⟩
    | head efd | check efd | woken efd evs =>
      refine ⟨.look, ?_⟩
      dsimp only [State.loop_step]
      split <;> rfl
    | send efd evs | flush efd => exact ⟨.look, rfl⟩
    | _ => exact ⟨.failed, rfl⟩
  | adopted fd k | left fd k reason | closing fd k reason | closed k reason => exact ⟨.look, rfl⟩
  | abandoned left | unconnected | attempted established | accepting lfd | backlog lfd
  | close_listener lfd =>
    exact ⟨.look, rfl⟩
  | _ => exact ⟨.failed, rfl⟩

/-- **A stop ends the IO thread.** From any state that can be reached, once `running_` is false and
stays so, the thread makes at most 202 more steps, whatever the kernel answers and the other
threads do, if `recv` stops giving it data and its waits are not interrupted forever; and it is
never stuck before it has ended. -/
theorem stop_ends_thread {steps more : List Input}
    (hreach : Loop.run (State.step cfg n) (.start cfg script) steps = some io)
    (hstopped : io.running = false) (h : Loop.run (State.step cfg n) io more = some io')
    (hstays : .set_running true ∉ more) :
    more.countP Input.progresses ≤ 202 ∧ (more.countP Input.progresses = 202 → io'.pc = .exited) ∧
      (io'.pc = .exited ∨ ∃ a, (io'.advance cfg n a).isSome) := by
  have hbound := ahead_le (orderly_run hreach).batched
  obtain ⟨_, hless⟩ := ahead_run hstopped hstays h
  refine ⟨by omega, fun hall => ?_, ?_⟩
  · rw [← ahead_eq_zero_iff]
    omega
  · by_cases hpc : io'.pc = .exited
    · exact .inl hpc
    · exact .inr (advance_possible hpc)

/-- The acceptor of above is stopped while it serves, and gets to its end. -/
theorem stop_ends_thread_acceptor :
    ∃ io io', Loop.run (State.step acceptor 0) (.start acceptor []) served = some io ∧
    io.running = false ∧
      Loop.run (State.step acceptor 0) io ended = some io' ∧
      ended.countP Input.progresses ≤ 202 := by
  obtain ⟨io, hrun, _, hstopped, _⟩ := run_reads acceptor 0 (.start acceptor []) served rfl
  obtain ⟨io', hwhole, _⟩ := run_reads acceptor 0 (.start acceptor []) (served ++ ended) rfl
  rw [Loop.run, List.foldlM_append] at hwhole
  obtain ⟨mid, hmid, hmore⟩ := Option.bind_eq_some_iff.mp hwhole
  obtain rfl : mid = io := Option.some.inj (hmid.symm.trans hrun)
  exact ⟨mid, io', hrun, hstopped, hmore, (stop_ends_thread hrun hstopped hmore (by decide)).1⟩

/-! ### Backoff -/

theorem one_le_delay_max (cfg : TcpTransportConfig) : 1 ≤ delay_max cfg := le_max_right _ _

theorem next_delay_bounds (cfg : TcpTransportConfig) (established : Bool) (d : ℤ) :
    1 ≤ next_delay cfg established d ∧ next_delay cfg established d ≤ delay_max cfg := by
  have hmax := one_le_delay_max cfg
  dsimp only [next_delay]
  generalize (if established then cfg.reconnect_delay else d * 2) = wanted
  split
  · exact ⟨le_rfl, hmax⟩
  · split <;> constructor <;> omega

theorem next_delay_established (d : ℤ) : next_delay cfg true d = max 1 cfg.reconnect_delay := by
  have hmax : cfg.reconnect_delay ≤ delay_max cfg :=
    (le_max_left _ _).trans ((le_max_left _ _).trans (le_max_left _ _))
  simp only [next_delay, if_true]
  split
  · omega
  · split <;> omega

theorem next_delay_failed {d : ℤ} (h : 1 ≤ d) :
    next_delay cfg false d = min (2 * d) (delay_max cfg) := by
  simp only [next_delay, Bool.false_eq_true, if_false]
  split
  · omega
  · split <;> omega

theorem pace_bounds {ss : List (Bool × ℤ)} {d d' : ℤ} (h : pace cfg ss d = some d')
    (hd : 0 ≤ d ∧ d ≤ delay_max cfg) :
    ∀ s ∈ ss, 0 ≤ s.2 ∧ s.2 ≤ delay_max cfg := by
  induction ss generalizing d with
  | nil => simp
  | cons s ss ih =>
    rw [pace] at h
    split at h
    · rename_i heq
      obtain ⟨hlow, hhigh⟩ := next_delay_bounds cfg s.1 d
      intro s' hs'
      rcases List.mem_cons.mp hs' with rfl | hrest
      · rw [heq]
        exact hd
      · exact ih h ⟨by omega, hhigh⟩ s' hrest
    · exact absurd h (by simp)

theorem pace_doubles {fails after : List (Bool × ℤ)} {s : Bool × ℤ} {d d' : ℤ}
    (h : pace cfg (fails ++ s :: after) d = some d') (hfails : ∀ f ∈ fails, f.1 = false)
    (hd : 1 ≤ d) (hmax : d ≤ delay_max cfg) : s.2 = min (2 ^ fails.length * d) (delay_max cfg) := by
  induction fails generalizing d with
  | nil =>
    rw [List.nil_append, pace] at h
    split at h
    · rename_i heq
      simp [heq, hmax]
    · exact absurd h (by simp)
  | cons f fails ih =>
    rw [List.cons_append, pace] at h
    split at h
    · rw [hfails f List.mem_cons_self, next_delay_failed hd] at h
      have hone := one_le_delay_max cfg
      have hs := ih h (fun g hg => hfails g (List.mem_cons_of_mem f hg)) (by omega) (by omega)
      -- a cap that was reached stays reached: `2 ^ k * M` is not below `M`
      have hcap : delay_max cfg ≤ 2 ^ fails.length * delay_max cfg :=
        le_mul_of_one_le_left (by omega) (one_le_pow₀ (by norm_num))
      rw [hs, mul_min_of_nonneg _ _ (by positivity), List.length_cons, pow_succ, min_assoc,
        min_eq_right hcap, mul_assoc]
    · exact absurd h (by simp)

/-- **Reconnects back off.** Whatever the attempts of an initiator come to, no sleep between two of
them is longer than the maximum. In a row of failures the sleeps double up to it: from the
configured delay, if there has been no connection; after a connection, the sleep that follows it
is still the old one, and the row starts with the next one, from at least a millisecond. -/
theorem reconnect_backoff {steps : List Input}
    (h : Loop.run (State.step cfg n) (.start cfg script) steps = some io) :
    (∀ s ∈ sleeps io.trace, 0 ≤ s.2 ∧ s.2 ≤ delay_max cfg) ∧
      (∀ fails s after, sleeps io.trace = fails ++ s :: after → (∀ f ∈ fails, f.1 = false) →
      1 ≤ cfg.reconnect_delay →
        s.2 = min (2 ^ fails.length * cfg.reconnect_delay) (delay_max cfg)) ∧
      ∀ before old fails s after, sleeps io.trace = before ++ (true, old) :: (fails ++ s :: after) →
        (∀ f ∈ fails, f.1 = false) →
        s.2 = min (2 ^ fails.length * max 1 cfg.reconnect_delay) (delay_max cfg) := by
  obtain ⟨d, hd, _⟩ := (orderly_run h).pace
  have hinitial : initial_delay cfg ≤ delay_max cfg := (le_max_left _ _).trans (le_max_left _ _)
  have hzero : 0 ≤ initial_delay cfg := le_max_right _ _
  refine ⟨pace_bounds hd ⟨hzero, hinitial⟩, ?_, ?_⟩
  · intro fails s after hsleeps hfails hdelay
    have hfirst : initial_delay cfg = cfg.reconnect_delay := max_eq_left (by omega)
    rw [hsleeps] at hd
    have hs := pace_doubles hd hfails (by omega) hinitial
    rwa [hfirst] at hs
  · intro before old fails s after hsleeps hfails
    rw [hsleeps, pace_append] at hd
    obtain ⟨d', _, hd'⟩ := Option.bind_eq_some_iff.mp hd
    rw [pace] at hd'
    split at hd'
    · rw [next_delay_established] at hd'
      have hmax := next_delay_bounds cfg true d'
      rw [next_delay_established] at hmax
      exact pace_doubles hd' hfails hmax.1 hmax.2
    · exact absurd hd' (by simp)

/-- The one address of an initiator fails three times. -/
def refused : List Input := (List.replicate 3
  [.io .look, .io .look, .io .failed, .io .look, .io .look, .io .look, .io (.waited 0)]).flatten

def hasty : TcpTransportConfig := { reconnect_delay := 2, reconnect_delay_max := 5 }

/-- Three attempts that fail: two milliseconds, four, and five, which is the maximum. -/
theorem reconnect_backoff_initiator :
    ∃ io, Loop.run (State.step hasty 1) (.start hasty []) refused = some io ∧
      sleeps io.trace = [(false, 2), (false, 4), (false, 5)] ∧
      (5 : ℤ) = min (2 ^ 2 * 2) (delay_max hasty) := by
  obtain ⟨io, hrun, _, _, htrace⟩ := run_reads hasty 1 (.start hasty []) refused rfl
  have hsleeps : sleeps io.trace = [(false, 2), (false, 4), (false, 5)] := by
    rw [htrace]
    rfl
  exact ⟨io, hrun, hsleeps,
    (reconnect_backoff hrun).2.1 [(false, 2), (false, 4)] (false, 5) [] hsleeps
    (by decide) (by decide)⟩

end Runs

end IoProgram

end FixEngine
