/-
`AuditThreads.lean` -- an audit log, its writer thread and the threads that call it.

Translated from `src/log/message_log.cpp`. `log`, `flush` and the writer share a queue
under one lock, the writer and `rotate` the files under another. Each step below is
one section under a lock, so an interleaving is a list of steps; a call that waits is two
of them, its request and its return. The writer pops an entry, gives the lock back, writes,
takes the lock again; with an empty queue and a request open it flushes the file
outside the lock and acknowledges only if the queue is still empty.

`AuditRun` adds what the source does not keep: the entries that `log` has accepted, and
for each `flush` in progress how many there were when it took its token. The one
equation that carries everything is `Held.exact`: what was accepted is what the files have,
what the writer holds and what is queued, in this order.

What is left out: the files have no names here (`AuditFiles.lean` has them), writing and
opening do not fail, and the counters are `ℕ`. A condition variable is a wait for its
condition; who wakes whom is no part of a section. The destructor begins when no call is in
progress, and none begins after it: a call on a dying object is undefined in the language.
-/
import FixEngine.AuditFiles
import FixEngine.Loop

set_option autoImplicit false

namespace FixEngine

open FixEngine.Decimal

/-! ## Entries and lines -/

/-- `struct AuditEntry`; the timestamp is broken down. -/
structure AuditEntry : Type where
  timestamp : UtcTime
  session_id : Bytes
  outbound : Bool
  raw : Bytes

/-- The time of a record, `"%04d-%02d-%02dT%02d:%02d:%02d.%03dZ"`. -/
def iso_timestamp (t : UtcTime) : Bytes :=
  zero_pad 4 t.year ++ ascii "-" ++ zero_pad 2 t.month ++ ascii "-" ++ zero_pad 2 t.day ++ ascii "T"
    ++ zero_pad 2 t.hour ++ ascii ":" ++ zero_pad 2 t.minute ++ ascii ":" ++ zero_pad 2 t.second
    ++ ascii "." ++ zero_pad 3 t.millis ++ ascii "Z"

/-- What `write_entry` writes of an entry, up to the line feed; a SOH becomes a bar. -/
def audit_record (e : AuditEntry) : Bytes :=
  iso_timestamp e.timestamp ++ ascii " " ++ ascii (if e.outbound then "OUT " else "IN  ") ++
    e.session_id
    ++ ascii " " ++ e.raw.map fun c => if c = SOH then 124 else c

def audit_line (e : AuditEntry) : Bytes := audit_record e ++ [LF]

/-! ## The files -/

/-- What is under `file_mutex_`. A file is the entries in it; of the open one the first
`flushed` have been flushed, and a file is flushed before it is closed. -/
structure LogFiles : Type where
  closed : List (List AuditEntry) := []
  current : List AuditEntry := []
  current_size : ℕ := 0
  flushed : ℕ := 0
  flushed_le : flushed ≤ current.length := by exact Nat.zero_le _

namespace LogFiles

/-- Every entry in the files, in the order of writing. -/
def written (f : LogFiles) : List AuditEntry := f.closed.flatten ++ f.current

/-- The entries that were flushed. -/
def on_disk (f : LogFiles) : List AuditEntry := f.closed.flatten ++ f.current.take f.flushed

/-- `out_.flush()`. -/
def flush (f : LogFiles) : LogFiles :=
  { f with flushed := f.current.length, flushed_le := Nat.le_refl _ }

/-- `rotate_locked`: the open file is flushed and closed, another one opened. -/
def rotate_locked (f : LogFiles) : LogFiles := { closed := f.closed ++ [f.current] }

/-- `write_entry`. -/
def write_entry (max_size : ℕ) (e : AuditEntry) (f : LogFiles) : LogFiles :=
  let f : LogFiles := { f with
    current := f.current ++ [e]
    current_size := f.current_size + (audit_line e).length
    flushed_le := by rw [List.length_append]; exact Nat.le_add_right_of_le f.flushed_le }
  if f.current_size ≥ max_size then f.rotate_locked else f

theorem on_disk_le_written (f : LogFiles) : f.on_disk <+: f.written :=
  List.prefix_append_right_inj _ |>.mpr (List.take_prefix _ _)

@[simp] theorem written_flush (f : LogFiles) : f.flush.written = f.written := rfl

@[simp] theorem on_disk_flush (f : LogFiles) : f.flush.on_disk = f.written := by
  rw [on_disk, flush, List.take_length]
  rfl

@[simp] theorem written_rotate_locked (f : LogFiles) : f.rotate_locked.written = f.written := by
  simp [written, rotate_locked]

@[simp] theorem on_disk_rotate_locked (f : LogFiles) : f.rotate_locked.on_disk = f.written := by
  simp [written, on_disk, rotate_locked]

@[simp] theorem written_write_entry (max_size : ℕ) (e : AuditEntry) (f : LogFiles) :
    (f.write_entry max_size e).written = f.written ++ [e] := by
  rw [write_entry]
  dsimp only
  split
  · rw [written_rotate_locked, written, written, List.append_assoc]
  · rw [written, written, List.append_assoc]

theorem on_disk_write_entry (max_size : ℕ) (e : AuditEntry) (f : LogFiles) :
    f.on_disk <+: (f.write_entry max_size e).on_disk := by
  rw [write_entry]
  dsimp only
  split
  · rw [on_disk_rotate_locked, written, ← List.append_assoc]
    exact f.on_disk_le_written.trans (List.prefix_append _ _)
  · rw [on_disk, on_disk, List.take_append_of_le_length f.flushed_le]

end LogFiles

/-! ## The log -/

/-- Where the writer thread is in `write_loop`. -/
inductive WriterPhase where
  /-- At the wait for something to do. -/
  | waiting
  /-- Before or in `write_entry`, without the queue lock. -/
  | writing (e : AuditEntry)
  /-- `write_entry` has returned. -/
  | wrote
  /-- Before the flush of the file, without the queue lock. -/
  | flushing
  | flushed
  | done

/-- `class FileAuditLog`: what is under `queue_mutex_`, and the files. -/
structure FileAuditLog : Type where
  cfg : AuditConfig
  queue : List AuditEntry := []
  running : Bool := true
  flush_req : ℕ := 0
  flush_done : ℕ := 0
  dropped : ℕ := 0
  writer : WriterPhase := .waiting
  files : LogFiles := {}

namespace FileAuditLog

/-- The entry that the writer has popped and not yet written. -/
def holding (l : FileAuditLog) : List AuditEntry :=
  match l.writer with
  | .writing e => [e]
  | _ => []

/-- The queue is bounded and at its bound. -/
def full (l : FileAuditLog) : Prop := l.cfg.max_queue > 0 ∧ l.queue.length ≥ l.cfg.max_queue

instance (l : FileAuditLog) : Decidable l.full := inferInstanceAs (Decidable (_ ∧ _))

/-- `FileAuditLog::log`: the entry is queued, or dropped and counted. -/
def log (e : AuditEntry) (l : FileAuditLog) : FileAuditLog :=
  if l.full then { l with dropped := l.dropped + 1 } else { l with queue := l.queue ++ [e] }

/-- The end of a turn of `write_loop`, with the queue lock. -/
def end_turn (l : FileAuditLog) : FileAuditLog :=
  { l with
    writer := if l.running = false ∧ l.queue.isEmpty ∧ l.flush_req = l.flush_done then .done
      else .waiting }

/-- The drain loop of `write_loop` and the look at the requests, with the queue lock, up to
the next place where it is given back. -/
def drain_turn (l : FileAuditLog) : FileAuditLog :=
  match l.queue with
  | e :: queue => { l with queue := queue, writer := .writing e }
  | [] => if l.flush_req > l.flush_done then { l with writer := .flushing } else l.end_turn

/-- The acknowledgement, after the flush of the file and with the queue lock again. -/
def acknowledge (l : FileAuditLog) : FileAuditLog :=
  if l.queue.isEmpty then { l with flush_done := l.flush_req } else l

end FileAuditLog

/-! ## Interleavings -/

/-- One section under a lock, of a calling thread or of the writer. -/
inductive AuditStep where
  | log (e : AuditEntry)
  /-- The first section of `flush`. -/
  | flush
  /-- The wait of `flush` is over. -/
  | flush_return (token : ℕ)
  | rotate
  /-- The wait of the writer is over. -/
  | wake
  | write_entry
  | relock
  | flush_file
  | acknowledge
  /-- The first section of the destructor. -/
  | destroy
  /-- The writer has been joined, and the file is flushed and closed. -/
  | destroyed

/-- A log with its history: how many `log` calls took the lock, which entries they put into
the queue, the token of every `flush` in progress with the number of entries accepted
when it took it, and how far the destructor is. -/
structure AuditRun where
  log : FileAuditLog
  logged : ℕ
  accepted : List AuditEntry
  waits : List (ℕ × ℕ)
  destroying : Bool
  destroyed : Bool

namespace AuditRun

def start (cfg : AuditConfig) : AuditRun := ⟨{ cfg := cfg }, 0, [], [], false, false⟩

/-- One step, or `none` where it is not possible. -/
def step (r : AuditRun) : AuditStep → Option AuditRun
  | .log e =>
    if r.destroying then none
    else
      some { r with
        log := r.log.log e
        logged := r.logged + 1
        accepted := if r.log.full then r.accepted else r.accepted ++ [e] }
  | .flush =>
    if r.destroying then none
    else
      let token := r.log.flush_req + 1
      some { r with
        log := { r.log with flush_req := token }
        waits := r.waits ++ [(token, r.accepted.length)] }
  | .flush_return token =>
    if token ∈ r.waits.map Prod.fst ∧ r.log.flush_done ≥ token then
      some { r with waits := r.waits.filter fun wait => wait.1 ≠ token }
    else none
  | .rotate =>
    if r.destroying then none
    else some { r with log := { r.log with files := r.log.files.rotate_locked } }
  | .wake =>
    match r.log.writer with
    | .waiting =>
      if r.log.queue.isEmpty = false ∨ r.log.flush_req > r.log.flush_done ∨
        r.log.running = false then
        some { r with log := r.log.drain_turn }
      else none
    | _ => none
  | .write_entry =>
    match r.log.writer with
    | .writing e =>
      some { r with
        log := { r.log with
          files := r.log.files.write_entry r.log.cfg.max_size e, writer := .wrote } }
    | _ => none
  | .relock =>
    match r.log.writer with
    | .wrote => some { r with log := r.log.drain_turn }
    | _ => none
  | .flush_file =>
    match r.log.writer with
    | .flushing =>
      some { r with log := { r.log with files := r.log.files.flush, writer := .flushed } }
    | _ => none
  | .acknowledge =>
    match r.log.writer with
    | .flushed => some { r with log := r.log.acknowledge.end_turn }
    | _ => none
  | .destroy =>
    if r.destroying = false ∧ r.waits = [] then
      some { r with log := { r.log with running := false }, destroying := true }
    else none
  | .destroyed =>
    match r.log.writer with
    | .done =>
      if r.destroying then
        some { r with log := { r.log with files := r.log.files.flush }, destroyed := true }
      else none
    | _ => none

end AuditRun

/-! ## What the sections do -/

namespace FileAuditLog

/-- What a section of the writer does under the queue lock: at most one entry goes from
the queue to the writer, and the writer is done only when it has nothing left to do. -/
structure Turned (l l' : FileAuditLog) : Prop where
  files : l'.files = l.files
  running : l'.running = l.running
  dropped : l'.dropped = l.dropped
  requests : l'.flush_req = l.flush_req ∧ l'.flush_done = l.flush_done
  moved : l'.holding ++ l'.queue = l.queue
  unflushed : l'.writer ≠ .flushed
  ended : l'.writer = .done → l'.running = false ∧ l'.queue = []

theorem turned_end_turn (l : FileAuditLog) : Turned l l.end_turn := by
  rw [end_turn]
  split
  · rename_i hend
    exact ⟨rfl, rfl, rfl, ⟨rfl, rfl⟩, rfl, by simp, fun _ => ⟨hend.1, List.isEmpty_iff.mp hend.2.1⟩⟩
  · exact ⟨rfl, rfl, rfl, ⟨rfl, rfl⟩, rfl, by simp, by simp⟩

theorem turned_drain_turn (l : FileAuditLog) : Turned l l.drain_turn := by
  fun_cases drain_turn l with
  | case1 e queue hqueue => exact ⟨rfl, rfl, rfl, ⟨rfl, rfl⟩, hqueue.symm, by simp, by simp⟩
  | case2 hqueue hrequest => exact ⟨rfl, rfl, rfl, ⟨rfl, rfl⟩, rfl, by simp, by simp⟩
  | case3 hqueue hrequest => exact l.turned_end_turn

end FileAuditLog

/-! ## What every interleaving keeps -/

namespace AuditRun

open FileAuditLog

/-- What a step does, with the condition under which it is possible. -/
inductive Moves (r : AuditRun) : AuditRun → Prop where
  | log (e : AuditEntry) (hlive : ¬r.destroying = true) :
      Moves r { r with
        log := r.log.log e
        logged := r.logged + 1
        accepted := if r.log.full then r.accepted else r.accepted ++ [e] }
  | flush :
      Moves r { r with
        log := { r.log with flush_req := r.log.flush_req + 1 }
        waits := r.waits ++ [(r.log.flush_req + 1, r.accepted.length)] }
  | flush_return (token : ℕ) : Moves r { r with waits := r.waits.filter fun wait => wait.1 ≠ token }
  | rotate (hlive : ¬r.destroying = true) :
      Moves r { r with log := { r.log with files := r.log.files.rotate_locked } }
  /-- The writer takes the queue lock, with nothing in its hands. -/
  | turn (hidle : ∀ e, r.log.writer ≠ .writing e) (hrunning : r.log.writer ≠ .done)
      {l' : FileAuditLog} (hturned : Turned r.log l') : Moves r { r with log := l' }
  | write_entry {e : AuditEntry} (hwriter : r.log.writer = .writing e) :
      Moves r { r with
        log := { r.log with
          files := r.log.files.write_entry r.log.cfg.max_size e, writer := .wrote } }
  | flush_file (hwriter : r.log.writer = .flushing) :
      Moves r { r with log := { r.log with files := r.log.files.flush, writer := .flushed } }
  | acknowledge (hwriter : r.log.writer = .flushed) :
      Moves r { r with log := r.log.acknowledge.end_turn }
  | destroy (hlive : ¬r.destroying = true) :
      Moves r { r with log := { r.log with running := false }, destroying := true }
  | destroyed (hdone : r.log.writer = .done) :
      Moves r { r with log := { r.log with files := r.log.files.flush }, destroyed := true }

/-- **Every step is one of these.** -/
theorem moves_of_step {r r' : AuditRun} {e : AuditStep} (hstep : r.step e = some r') :
    Moves r r' := by
  cases e with
  | log e =>
    rw [step] at hstep
    split at hstep
    · cases hstep
    · rename_i hlive
      obtain rfl := Option.some.inj hstep
      exact .log e hlive
  | flush =>
    rw [step] at hstep
    split at hstep
    · cases hstep
    · obtain rfl := Option.some.inj hstep
      exact .flush
  | flush_return token =>
    rw [step] at hstep
    split at hstep
    · obtain rfl := Option.some.inj hstep
      exact .flush_return token
    · cases hstep
  | rotate =>
    rw [step] at hstep
    split at hstep
    · cases hstep
    · rename_i hlive
      obtain rfl := Option.some.inj hstep
      exact .rotate hlive
  | wake =>
    rw [step] at hstep
    split at hstep
    · rename_i hwriter
      split at hstep
      · obtain rfl := Option.some.inj hstep
        exact .turn (by simp [hwriter]) (by simp [hwriter]) r.log.turned_drain_turn
      · cases hstep
    · cases hstep
  | write_entry =>
    rw [step] at hstep
    split at hstep
    · rename_i e hwriter
      obtain rfl := Option.some.inj hstep
      exact .write_entry hwriter
    · cases hstep
  | relock =>
    rw [step] at hstep
    split at hstep
    · rename_i hwriter
      obtain rfl := Option.some.inj hstep
      exact .turn (by simp [hwriter]) (by simp [hwriter]) r.log.turned_drain_turn
    · cases hstep
  | flush_file =>
    rw [step] at hstep
    split at hstep
    · rename_i hwriter
      obtain rfl := Option.some.inj hstep
      exact .flush_file hwriter
    · cases hstep
  | acknowledge =>
    rw [step] at hstep
    split at hstep
    · rename_i hwriter
      obtain rfl := Option.some.inj hstep
      exact .acknowledge hwriter
    · cases hstep
  | destroy =>
    rw [step] at hstep
    split at hstep
    · rename_i hlive
      obtain rfl := Option.some.inj hstep
      exact .destroy (by rw [hlive.1]; exact Bool.noConfusion)
    · cases hstep
  | destroyed =>
    rw [step] at hstep
    split at hstep
    · rename_i hdone
      split at hstep
      · obtain rfl := Option.some.inj hstep
        exact .destroyed hdone
      · cases hstep
    · cases hstep

/-- The books of a log in use. -/
structure Held (r : AuditRun) : Prop where
  exact : r.accepted = r.log.files.written ++ (r.log.holding ++ r.log.queue)
  counted : r.logged = r.accepted.length + r.log.dropped
  requested : r.log.flush_done ≤ r.log.flush_req
  waiting : ∀ wait ∈ r.waits, wait.1 ≤ r.log.flush_req ∧ wait.2 ≤ r.accepted.length ∧
    (wait.1 ≤ r.log.flush_done → wait.2 ≤ r.log.files.on_disk.length)
  flushed : r.log.writer = .flushed → r.log.files.on_disk = r.log.files.written
  stopped : r.log.running = false → r.destroying = true
  ended : r.log.writer = .done → r.log.running = false ∧ r.log.queue = []
  gone : r.destroyed = true → r.log.writer = .done ∧ r.log.files.on_disk = r.log.files.written

theorem held_start (cfg : AuditConfig) : (start cfg).Held :=
  ⟨rfl, rfl, Nat.le_refl _, fun _ h => absurd h List.not_mem_nil, nofun, nofun, nofun, nofun⟩

variable {r r' : AuditRun}

theorem Held.alive (h : r.Held) (hlive : ¬r.destroying = true) :
    r.log.writer ≠ .done ∧ r.destroyed ≠ true := by
  have hwriter : r.log.writer ≠ .done := fun hdone => hlive (h.stopped (h.ended hdone).1)
  exact ⟨hwriter, fun hgone => hwriter (h.gone hgone).1⟩

theorem Held.log (h : r.Held) (e : AuditEntry) (hlive : ¬r.destroying = true) :
    { r with
      log := r.log.log e
      logged := r.logged + 1
      accepted := if r.log.full then r.accepted else r.accepted ++ [e] }.Held := by
  have halive := h.alive hlive
  rw [FileAuditLog.log]
  by_cases hfull : r.log.full
  · rw [if_pos hfull, if_pos hfull]
    refine ⟨h.exact, ?_, h.requested, h.waiting, h.flushed, h.stopped, h.ended, h.gone⟩
    show r.logged + 1 = r.accepted.length + (r.log.dropped + 1)
    rw [h.counted]
    omega
  · rw [if_neg hfull, if_neg hfull]
    refine ⟨?_, ?_, h.requested, ?_, h.flushed, h.stopped, ?_, ?_⟩
    · show r.accepted ++ [e] = r.log.files.written ++ (r.log.holding ++ (r.log.queue ++ [e]))
      rw [h.exact]
      simp only [List.append_assoc]
    · show r.logged + 1 = (r.accepted ++ [e]).length + r.log.dropped
      rw [h.counted, List.length_append, List.length_singleton]
      omega
    · intro wait hwait
      obtain ⟨hissued, hmark, hdisk⟩ := h.waiting wait hwait
      exact ⟨hissued, hmark.trans (List.prefix_append _ _).length_le, hdisk⟩
    · exact fun hdone => absurd hdone halive.1
    · exact fun hgone => absurd hgone halive.2

theorem Held.flush (h : r.Held) :
    { r with
      log := { r.log with flush_req := r.log.flush_req + 1 }
      waits := r.waits ++ [(r.log.flush_req + 1, r.accepted.length)] }.Held := by
  have hrequested := h.requested
  refine ⟨h.exact, h.counted, Nat.le_succ_of_le h.requested, ?_, h.flushed, h.stopped,
    h.ended, h.gone⟩
  intro wait hwait
  rcases List.mem_append.mp hwait with hold | hnew
  · obtain ⟨hissued, hrest⟩ := h.waiting wait hold
    exact ⟨Nat.le_succ_of_le hissued, hrest⟩
  · obtain rfl := List.mem_singleton.mp hnew
    refine ⟨Nat.le_refl _, Nat.le_refl _, fun hdone => ?_⟩
    have hlate : r.log.flush_req + 1 ≤ r.log.flush_done := hdone
    omega

theorem Held.waiting_of_disk (h : r.Held) {f : LogFiles}
    (hdisk : r.log.files.on_disk.length ≤ f.on_disk.length) :
    ∀ wait ∈ r.waits, wait.1 ≤ r.log.flush_req ∧ wait.2 ≤ r.accepted.length ∧
      (wait.1 ≤ r.log.flush_done → wait.2 ≤ f.on_disk.length) := by
  intro wait hwait
  obtain ⟨hissued, hmark, hacked⟩ := h.waiting wait hwait
  exact ⟨hissued, hmark, fun hdone => (hacked hdone).trans hdisk⟩

theorem Held.rotate (h : r.Held) (hlive : ¬r.destroying = true) :
    { r with log := { r.log with files := r.log.files.rotate_locked } }.Held := by
  have halive := h.alive hlive
  refine ⟨?_, h.counted, h.requested, ?_, fun _ => ?_, h.stopped, h.ended,
    fun hgone => absurd hgone halive.2⟩
  · show _ = r.log.files.rotate_locked.written ++ _
    rw [LogFiles.written_rotate_locked]
    exact h.exact
  · apply h.waiting_of_disk
    rw [LogFiles.on_disk_rotate_locked]
    exact r.log.files.on_disk_le_written.length_le
  · rw [LogFiles.on_disk_rotate_locked, LogFiles.written_rotate_locked]

theorem Held.turn (h : r.Held) (hholding : r.log.holding = []) (hdone : r.log.writer ≠ .done)
    {l' : FileAuditLog} (hturned : Turned r.log l') : { r with log := l' }.Held := by
  obtain ⟨hreq, hack⟩ := hturned.requests
  refine ⟨?_, ?_, ?_, ?_, ?_, ?_, hturned.ended, ?_⟩
  · show r.accepted = l'.files.written ++ (l'.holding ++ l'.queue)
    rw [h.exact, hturned.files, hturned.moved, hholding, List.nil_append]
  · show r.logged = r.accepted.length + l'.dropped
    rw [hturned.dropped]
    exact h.counted
  · show l'.flush_done ≤ l'.flush_req
    rw [hreq, hack]
    exact h.requested
  · show ∀ wait ∈ r.waits, wait.1 ≤ l'.flush_req ∧ _ ∧
        (wait.1 ≤ l'.flush_done → wait.2 ≤ l'.files.on_disk.length)
    rw [hreq, hack, hturned.files]
    exact h.waiting
  · exact fun hflushed => absurd hflushed hturned.unflushed
  · show l'.running = false → _
    rw [hturned.running]
    exact h.stopped
  · exact fun hgone => absurd (h.gone hgone).1 hdone

theorem Held.write_entry (h : r.Held) {e : AuditEntry} (hwriter : r.log.writer = .writing e) :
    { r with
      log := { r.log with
        files := r.log.files.write_entry r.log.cfg.max_size e, writer := .wrote } }.Held := by
  have hholding : r.log.holding = [e] := by rw [holding, hwriter]
  refine ⟨?_, h.counted, h.requested, ?_, by simp, h.stopped, by simp, fun hgone => ?_⟩
  · show r.accepted = (r.log.files.write_entry r.log.cfg.max_size e).written ++ ([] ++ r.log.queue)
    rw [LogFiles.written_write_entry, h.exact, hholding, List.append_assoc, List.nil_append]
  · exact h.waiting_of_disk (r.log.files.on_disk_write_entry r.log.cfg.max_size e).length_le
  · exact absurd (hwriter.symm.trans (h.gone hgone).1) (by simp)

theorem Held.flush_file (h : r.Held) (hwriter : r.log.writer = .flushing) :
    { r with log := { r.log with files := r.log.files.flush, writer := .flushed } }.Held := by
  have hholding : r.log.holding = [] := by rw [holding, hwriter]
  refine ⟨?_, h.counted, h.requested, ?_, fun _ => ?_, h.stopped, by simp, fun hgone => ?_⟩
  · show r.accepted = r.log.files.flush.written ++ ([] ++ r.log.queue)
    rw [LogFiles.written_flush, h.exact, hholding]
  · apply h.waiting_of_disk
    rw [LogFiles.on_disk_flush]
    exact r.log.files.on_disk_le_written.length_le
  · exact r.log.files.on_disk_flush
  · exact absurd (hwriter.symm.trans (h.gone hgone).1) (by simp)

/-- **The acknowledgement is right**: with the queue still empty, nothing was accepted that
the flush of the file did not reach. -/
theorem Held.acknowledge (h : r.Held) (hwriter : r.log.writer = .flushed) :
    { r with log := r.log.acknowledge }.Held := by
  have hholding : r.log.holding = [] := by rw [holding, hwriter]
  rw [FileAuditLog.acknowledge]
  split
  · rename_i hempty
    refine ⟨h.exact, h.counted, Nat.le_refl _, ?_, h.flushed, h.stopped, h.ended, h.gone⟩
    intro wait hwait
    obtain ⟨hissued, hmark, -⟩ := h.waiting wait hwait
    refine ⟨hissued, hmark, fun _ => ?_⟩
    have hall : r.accepted = r.log.files.on_disk := by
      rw [h.exact, hholding, List.isEmpty_iff.mp hempty, h.flushed hwriter]
      exact List.append_nil _
    rwa [hall] at hmark
  · exact h

theorem writer_acknowledge (l : FileAuditLog) : l.acknowledge.writer = l.writer := by
  rw [FileAuditLog.acknowledge]
  split
  · rfl
  · rfl

theorem holding_of_writer {l : FileAuditLog} (h : ∀ e, l.writer ≠ .writing e) : l.holding = [] := by
  rw [holding]
  split
  · rename_i e hwriter
    exact absurd hwriter (h e)
  · rfl

/-- **One step** of any thread. -/
theorem Held.step (h : r.Held) {e : AuditStep} (hstep : r.step e = some r') : r'.Held := by
  cases moves_of_step hstep with
  | log e hlive => exact h.log e hlive
  | flush => exact h.flush
  | flush_return token =>
    refine ⟨h.exact, h.counted, h.requested, ?_, h.flushed, h.stopped, h.ended, h.gone⟩
    exact fun wait hwait => h.waiting wait (List.mem_of_mem_filter hwait)
  | rotate hlive => exact h.rotate hlive
  | turn hidle hrunning hturned => exact h.turn (holding_of_writer hidle) hrunning hturned
  | write_entry hwriter => exact h.write_entry hwriter
  | flush_file hwriter => exact h.flush_file hwriter
  | acknowledge hwriter =>
    have hsame : r.log.acknowledge.writer = .flushed := (writer_acknowledge r.log).trans hwriter
    exact (h.acknowledge hwriter).turn (holding_of_writer (by simp [hsame])) (by simp [hsame])
      r.log.acknowledge.turned_end_turn
  | destroy hlive =>
    have halive := h.alive hlive
    exact ⟨h.exact, h.counted, h.requested, h.waiting, h.flushed, fun _ => rfl,
      fun hdone => absurd hdone halive.1, h.gone⟩
  | destroyed hdone =>
    refine ⟨h.exact, h.counted, h.requested, ?_, ?_, h.stopped, h.ended, fun _ => ⟨hdone, ?_⟩⟩
    · apply h.waiting_of_disk
      rw [LogFiles.on_disk_flush]
      exact r.log.files.on_disk_le_written.length_le
    · exact fun _ => r.log.files.on_disk_flush
    · exact r.log.files.on_disk_flush

/-! ## One `flush`, from its request to its return -/

/-- A `flush` took this token when these entries had been accepted. -/
structure Asked (token : ℕ) (entries : List AuditEntry) (r : AuditRun) : Prop where
  issued : token ≤ r.log.flush_req
  marked : ∀ wait ∈ r.waits, wait.1 = token → wait.2 = entries.length
  kept : entries <+: r.accepted

theorem Asked.step {token : ℕ} {entries : List AuditEntry} (h : Asked token entries r)
    {e : AuditStep} (hstep : r.step e = some r') : Asked token entries r' := by
  cases moves_of_step hstep with
  | log e _ =>
    refine ⟨?_, h.marked, h.kept.trans ?_⟩
    · show token ≤ (r.log.log e).flush_req
      rw [FileAuditLog.log]
      split
      · exact h.issued
      · exact h.issued
    · dsimp only
      split
      · exact List.prefix_refl _
      · exact List.prefix_append _ _
  | flush =>
    refine ⟨Nat.le_succ_of_le h.issued, ?_, h.kept⟩
    intro wait hwait htoken
    rcases List.mem_append.mp hwait with hold | hnew
    · exact h.marked wait hold htoken
    · have hissued := h.issued
      rw [List.mem_singleton.mp hnew] at htoken
      dsimp only at htoken
      omega
  | flush_return _ =>
    exact ⟨h.issued, fun wait hwait => h.marked wait (List.mem_of_mem_filter hwait), h.kept⟩
  | turn _ _ hturned => exact ⟨hturned.requests.1 ▸ h.issued, h.marked, h.kept⟩
  | acknowledge _ =>
    refine ⟨?_, h.marked, h.kept⟩
    show token ≤ r.log.acknowledge.flush_req
    rw [FileAuditLog.acknowledge]
    split
    · exact h.issued
    · exact h.issued
  | rotate _ | write_entry _ | flush_file _ | destroy _ | destroyed _ =>
    exact ⟨h.issued, h.marked, h.kept⟩

/-- **A `flush` returns when what was accepted before it is flushed.** -/
theorem Held.returned (h : r.Held) {token : ℕ} {entries : List AuditEntry}
    (hasked : Asked token entries r) (hstep : r.step (.flush_return token) = some r') :
    entries <+: r'.log.files.on_disk := by
  rw [AuditRun.step] at hstep
  split at hstep
  · rename_i hreturn
    obtain rfl := Option.some.inj hstep
    obtain ⟨wait, hwait, htoken⟩ := List.mem_map.mp hreturn.1
    have hmark : entries.length ≤ r.log.files.on_disk.length := by
      rw [← hasked.marked wait hwait htoken]
      exact (h.waiting wait hwait).2.2 (htoken ▸ hreturn.2)
    -- both are first parts of what was accepted
    have hdisk : r.log.files.on_disk <+: r.accepted := by
      rw [h.exact]
      exact r.log.files.on_disk_le_written.trans (List.prefix_append _ _)
    exact List.prefix_of_prefix_length_le hasked.kept hdisk hmark
  · cases hstep

theorem Held.written_of_drained (h : r.Held) (hdrained : r.log.holding ++ r.log.queue = []) :
    r.log.files.written = r.accepted := by
  rw [h.exact, hdrained, List.append_nil]

/-- **After the destructor** everything that was accepted is flushed. -/
theorem Held.all_on_disk (h : r.Held) (hgone : r.destroyed = true) :
    r.log.files.on_disk = r.accepted := by
  obtain ⟨hdone, hdisk⟩ := h.gone hgone
  rw [h.exact, (h.ended hdone).2, holding_of_writer (by simp [hdone]), hdisk]
  exact (List.append_nil _).symm

/-- **The audit log loses nothing.** After any interleaving, what was accepted is what was
written, what the writer holds and what is queued, in this order, and every logged entry is
among them or counted as dropped. When a `flush` that began here returns, whatever came in
between, what had been accepted is flushed; and after the destructor everything is. -/
theorem audit_flush_loses_nothing (cfg : AuditConfig) (steps : List AuditStep) (r : AuditRun)
    (h : Loop.run step (start cfg) steps = some r) :
    r.accepted = r.log.files.written ++ (r.log.holding ++ r.log.queue) ∧
      r.logged = r.log.files.written.length + (r.log.holding.length + r.log.queue.length)
        + r.log.dropped ∧
      (∀ (asked before_return returned : AuditRun) (between : List AuditStep), r.step .flush =
      some asked →
        Loop.run step asked between = some before_return →
        before_return.step (.flush_return (r.log.flush_req + 1)) = some returned →
        r.accepted <+: returned.log.files.on_disk) ∧
      (r.destroyed = true → r.log.files.on_disk = r.accepted) := by
  have hheld := Loop.run_invariant (fun hheld hstep => hheld.step hstep) (held_start cfg) h
  refine ⟨hheld.exact, ?_, ?_, hheld.all_on_disk⟩
  · rw [hheld.counted, hheld.exact, List.length_append, List.length_append]
  · intro asked before_return returned between hflush hbetween hreturn
    have hasked : Asked (r.log.flush_req + 1) r.accepted asked := by
      rw [step] at hflush
      split at hflush
      · cases hflush
      · obtain rfl := Option.some.inj hflush
        refine ⟨Nat.le_refl _, ?_, List.prefix_refl _⟩
        intro wait hwait htoken
        rcases List.mem_append.mp hwait with hold | hnew
        · have hissued := (hheld.waiting wait hold).1
          omega
        · rw [List.mem_singleton.mp hnew]
    have hbefore :=
      Loop.run_invariant (fun hheld hstep => hheld.step hstep) (hheld.step hflush) hbetween
    exact hbefore.returned
      (Loop.run_invariant (fun hasked hstep => hasked.step hstep) hasked hbetween) hreturn

/-- One entry, and a log that rotates after every entry. -/
def sample : AuditEntry := ⟨new_year, ascii "S", true, ascii "8=FIX.4.2"⟩

@[inherit_doc sample]
def rotating : AuditConfig := { max_size := 0 }

/-- The entry is logged and the log destroyed. -/
def logged_and_gone : List AuditStep :=
  [.log sample, .destroy, .wake, .write_entry, .relock, .destroyed]

/-- The writer serves a request; a rotation comes in between. -/
def served : List AuditStep := [.wake, .write_entry, .relock, .rotate, .flush_file, .acknowledge]

/-- The entry is logged and a `flush` waits for it; in another run the log is destroyed. -/
theorem audit_flush_loses_nothing_sample :
    ∃ (r asked before_return returned last : AuditRun),
      (Loop.run step (start rotating) [.log sample] = some r ∧ r.step .flush = some asked ∧
        Loop.run step asked served = some before_return ∧
        before_return.step (.flush_return (r.log.flush_req + 1)) = some returned ∧
        Loop.run step (start rotating) logged_and_gone = some last ∧ last.destroyed = true) ∧
      [sample] <+: returned.log.files.on_disk ∧ last.log.files.on_disk = [sample] :=
  ⟨_, _, _, _, _, ⟨rfl, rfl, rfl, rfl, rfl, rfl⟩,
    (audit_flush_loses_nothing rotating [.log sample] _ rfl).2.2.1 _ _ _ served rfl rfl rfl,
    (audit_flush_loses_nothing rotating logged_and_gone _ rfl).2.2.2 rfl⟩

/-! ## A log that keeps up -/

/-- The log has nothing to do. -/
structure Idle (r : AuditRun) : Prop where
  live : r.destroying = false
  running : r.log.running = true
  waiting : r.log.writer = .waiting
  queue : r.log.queue = []
  requests : r.log.flush_req = r.log.flush_done

theorem Idle.serve (h : r.Idle) (e : AuditEntry) :
    ∃ r', Loop.run AuditRun.step r [.log e, .wake, .write_entry, .relock] = some r' ∧ r'.Idle ∧
      r'.accepted = r.accepted ++ [e] := by
  obtain ⟨⟨cfg, queue, running, req, done, dropped, writer, files⟩, logged, accepted, waits,
      destroying, destroyed⟩ := r
  obtain ⟨rfl, rfl, rfl, rfl, hrequests⟩ := h
  obtain rfl : req = done := hrequests
  have hroom : ¬FileAuditLog.full ⟨cfg, [], true, req, req, dropped, .waiting, files⟩ := by
    rintro ⟨hbound, hlength⟩
    exact absurd (Nat.lt_of_lt_of_le hbound hlength) (Nat.lt_irrefl 0)
  refine ⟨⟨⟨cfg, [], true, req, req, dropped, .waiting, files.write_entry cfg.max_size e⟩,
    logged + 1,
    accepted ++ [e], waits, false, destroyed⟩, ?_, ⟨rfl, rfl, rfl, rfl, rfl⟩, rfl⟩
  simp [Loop.run, AuditRun.step, FileAuditLog.log, FileAuditLog.drain_turn,
    FileAuditLog.end_turn, hroom]

theorem Idle.serve_all (h : r.Idle) (entries : List AuditEntry) :
    ∃ steps r', Loop.run AuditRun.step r steps = some r' ∧ r'.Idle ∧
    r'.accepted = r.accepted ++ entries := by
  induction entries generalizing r with
  | nil => exact ⟨[], r, rfl, h, (List.append_nil _).symm⟩
  | cons e entries ih =>
    obtain ⟨r₁, hrun, hidle, haccepted⟩ := h.serve e
    obtain ⟨steps, r₂, hrest, hidle₂, haccepted₂⟩ := ih hidle
    refine ⟨[.log e, .wake, .write_entry, .relock] ++ steps, r₂, ?_, hidle₂, ?_⟩
    · rw [Loop.run, List.foldlM_append]
      exact Option.bind_eq_some_iff.mpr ⟨r₁, hrun, hrest⟩
    · rw [haccepted₂, haccepted, List.append_assoc, List.singleton_append]

theorem idle_start (cfg : AuditConfig) : (start cfg).Idle := ⟨rfl, rfl, rfl, rfl, rfl⟩

end AuditRun

end FixEngine
