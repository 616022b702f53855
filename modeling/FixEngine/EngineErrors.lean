/-
`EngineErrors.lean` -- the engine's queue of errors (`DeferredErrorSink` in
`include/fix/engine.hpp`).

A failed `send` of a transport is noticed under the send lock of a session, where the error
sink of the application must not run. It is pushed into a queue, and every thread that has
left its lock drains the queue: it swaps it out under the lock of the queue and hands the
errors over one by one outside of it, so that drains of several threads and pushes
interleave, and a sink that sends again drains again, in the middle of a drain. What the
sink throws is swallowed.

The queue never looks at the errors. `ErrorRun` gives each push its number, and the argument
is that of `Custody.lean`: a push is at all times in one place.
-/
import FixEngine.SessionManager
import FixEngine.Loop
import FixEngine.Custody

set_option autoImplicit false

namespace FixEngine

/-- The threads that call an engine. -/
inductive Thread where
  | app (i : ℕ)
  /-- The timer thread of one `Engine::start`; `stop` may leave it running. -/
  | timer (i : ℕ)
  /-- The IO thread of the transport of a connection. -/
  | io (c : ℕ)
  deriving DecidableEq

/-- `DeferredErrorSink`, for errors of any kind. `sink` says whether there is a sink. -/
structure DeferredErrorSink (α : Type) where
  sink : Bool
  queue : List α
  dropped : ℕ

namespace DeferredErrorSink

/-- `kMaxQueued`. -/
def kMaxQueued : ℕ := 256

variable {α : Type}

/-- `DeferredErrorSink::push`. -/
def push (ec : α) (d : DeferredErrorSink α) : DeferredErrorSink α :=
  if kMaxQueued ≤ d.queue.length then { d with dropped := d.dropped + 1 }
    else { d with queue := d.queue ++ [ec] }

/-- The section of `drain` under the lock: the batch. -/
def swap (d : DeferredErrorSink α) : List α × DeferredErrorSink α :=
  (d.queue, { d with queue := [] })

end DeferredErrorSink

/-- The queue with the pushes numbered, what each thread in `drain` still has to hand over, and
what has become of the rest. -/
structure ErrorRun where
  errors : DeferredErrorSink (ℕ × ErrorCode)
  pushed : ℕ
  batch : Thread → List (ℕ × ErrorCode)
  handed : List (ℕ × ErrorCode)
  /-- Batches that were drained without a sink. -/
  discarded : List (ℕ × ErrorCode)
  refused : List (ℕ × ErrorCode)

inductive ErrorMove where
  | push (ec : ErrorCode)
  | drain
  /-- The next call of the sink. -/
  | hand
  deriving DecidableEq

namespace ErrorRun

def start (sink : Bool) : ErrorRun where
  errors := { sink := sink, queue := [], dropped := 0 }
  pushed := 0
  batch := fun _ => []
  handed := []
  discarded := []
  refused := []

def step (r : ErrorRun) : Thread × ErrorMove → Option ErrorRun
  | (_, .push ec) =>
    let item := (r.pushed, ec)
    some { r with
      errors := r.errors.push item
      pushed := r.pushed + 1
      refused := if (r.errors.push item).dropped = r.errors.dropped then r.refused
        else item :: r.refused }
  | (t, .drain) =>
    let r' := { r with errors := r.errors.swap.2 }
    if r.errors.sink then
      -- a drain inside of a call of the sink comes before the rest of the drain around it
      some { r' with batch := Function.update r.batch t (r.errors.swap.1 ++ r.batch t) }
    else some { r' with discarded := r.errors.swap.1 ++ r.discarded }
  | (t, .hand) =>
    match r.batch t with
    | [] => none
    | item :: rest =>
      some { r with batch := Function.update r.batch t rest, handed := item :: r.handed }

/-! ## Custody -/

/-- Where a push can be. -/
inductive Shelf where
  | queue
  | batch (t : Thread)
  | handed
  | discarded
  | refused
  deriving DecidableEq

open Custody

def contents (r : ErrorRun) (p : Shelf) : List ℕ :=
  (match p with
    | .queue => r.errors.queue
    | .batch t => r.batch t
    | .handed => r.handed
    | .discarded => r.discarded
    | .refused => r.refused).map Prod.fst

variable {r r' : ErrorRun} {t : Thread}

theorem goes_push (ec : ErrorCode) (h : r.step (t, .push ec) = some r') :
    Goes r.contents r.pushed r'.contents r'.pushed := by
  obtain rfl := Option.some.inj h
  by_cases hfull : DeferredErrorSink.kMaxQueued ≤ r.errors.queue.length
  · refine .new .refused fun p n => ?_
    by_cases hn : n = r.pushed
    · cases p <;> simp [contents, DeferredErrorSink.push, hfull, hn]
    · cases p <;> simp [contents, DeferredErrorSink.push, hfull, hn, Ne.symm hn]
  · refine .new .queue fun p n => ?_
    by_cases hn : n = r.pushed
    · cases p <;> simp [contents, DeferredErrorSink.push, hfull, hn]
    · cases p <;> simp [contents, DeferredErrorSink.push, hfull, hn, Ne.symm hn]

theorem goes_step {mv : Thread × ErrorMove} (h : r.step mv = some r') :
    Goes r.contents r.pushed r'.contents r'.pushed := by
  obtain ⟨t, mv⟩ := mv
  cases mv with
  | push ec => exact goes_push ec h
  | drain =>
    dsimp only [step] at h
    split at h <;> obtain rfl := Option.some.inj h
    · refine .moves (p := .queue) (q := .batch t) (l := r.contents .queue)
        ⟨by simp, fun n => ?_, fun n => ?_, fun o hq ho => ?_⟩
      · simp [contents, DeferredErrorSink.swap]
      · simp [contents, DeferredErrorSink.swap]
        omega
      · cases o with
        | queue => exact absurd rfl hq
        | batch u =>
          have hu : u ≠ t := fun heq => ho (heq ▸ rfl)
          simp [contents, hu]
        | _ => rfl
    · refine .moves (p := .queue) (q := .discarded) (l := r.contents .queue)
        ⟨by simp, fun n => ?_, fun n => ?_, fun o hq ho => ?_⟩
      · simp [contents, DeferredErrorSink.swap]
      · simp [contents, DeferredErrorSink.swap]
        omega
      · cases o <;> simp_all [contents]
  | hand =>
    dsimp only [step] at h
    split at h
    · exact absurd h (by simp)
    · rename_i item rest hbatch
      obtain rfl := Option.some.inj h
      refine .moves (p := .batch t) (q := .handed) (l := [item.1])
        ⟨by simp, fun n => ?_, fun n => ?_, fun o hq ho => ?_⟩
      · simp [contents, hbatch, List.count_cons]
        omega
      · simp [contents, List.count_cons]
      · cases o with
        | batch u =>
          have hu : u ≠ t := fun heq => hq (heq ▸ rfl)
          simp [contents, hu]
        | handed => exact absurd rfl ho
        | _ => rfl

/-- What holds between any two steps. -/
structure Tallied (wired : Bool) (r : ErrorRun) : Prop where
  numbered : Numbered r.contents r.pushed
  bounded : r.errors.queue.length ≤ DeferredErrorSink.kMaxQueued
  dropped : r.errors.dropped = r.refused.length
  sink : r.errors.sink = wired
  discarded : wired = true → r.discarded = []

theorem tallied_start (wired : Bool) : Tallied wired (start wired) where
  numbered := ⟨fun c hc => absurd hc (Nat.not_lt_zero c), fun c _ p => by cases p <;> rfl⟩
  bounded := Nat.zero_le _
  dropped := rfl
  sink := rfl
  discarded _ := rfl

theorem tallied_step {wired : Bool} {mv : Thread × ErrorMove} (ht : Tallied wired r)
    (h : r.step mv = some r') :
    Tallied wired r' := by
  have hnumbered := (goes_step h).numbered ht.numbered
  have hbounded := ht.bounded
  obtain ⟨t, mv⟩ := mv
  cases mv with
  | push ec =>
    obtain rfl := Option.some.inj h
    by_cases hfull : DeferredErrorSink.kMaxQueued ≤ r.errors.queue.length
    · refine ⟨hnumbered, ?_, ?_, ?_, ht.discarded⟩
      · simp [DeferredErrorSink.push, hfull, hbounded]
      · simp [DeferredErrorSink.push, hfull, ht.dropped]
      · simp [DeferredErrorSink.push, hfull, ht.sink]
    · refine ⟨hnumbered, ?_, ?_, ?_, ht.discarded⟩
      · simp [DeferredErrorSink.push, hfull]
        omega
      · simp [DeferredErrorSink.push, hfull, ht.dropped]
      · simp [DeferredErrorSink.push, hfull, ht.sink]
  | drain =>
    dsimp only [step] at h
    split at h <;> rename_i hsink <;> obtain rfl := Option.some.inj h
    · exact ⟨hnumbered, Nat.zero_le _, ht.dropped, ht.sink, ht.discarded⟩
    · -- without a sink nothing is promised of the batch
      exact ⟨hnumbered, Nat.zero_le _, ht.dropped, ht.sink,
        fun htrue => absurd (ht.sink.trans htrue) hsink⟩
  | hand =>
    dsimp only [step] at h
    split at h
    · exact absurd h (by simp)
    · obtain rfl := Option.some.inj h
      exact ⟨hnumbered, ht.bounded, ht.dropped, ht.sink, ht.discarded⟩

/-- **Every error reaches the sink once, or is counted.** With an error sink, whatever threads push
and drain in whatever interleaving, drains inside of calls of the sink included, each push is at
all times in one place: in the queue, in the batch of one draining thread, handed to the sink, or
refused because 256 were waiting; the refused ones are what `dropped()` says. So when the
queue is empty and no thread is in `drain`, each error that was not counted as dropped has
been handed over, and no error twice. -/
theorem errors_handed_once {moves : List (Thread × ErrorMove)}
    (h : Loop.run step (start true) moves = some r) :
    r.errors.queue.length ≤ DeferredErrorSink.kMaxQueued ∧ r.errors.dropped = r.refused.length ∧
      (∀ n < r.pushed, ∃ p, p ≠ .discarded ∧ Custody.Only r.contents n p) ∧
      (r.errors.queue = [] → (∀ t, r.batch t = []) → ∀ n < r.pushed,
        (r.contents .handed).count n + (r.contents .refused).count n = 1) := by
  have ht : Tallied true r :=
    Loop.run_invariant (fun ht hstep => tallied_step ht hstep) (tallied_start true) h
  have hplace : ∀ n < r.pushed, ∃ p, p ≠ .discarded ∧ Custody.Only r.contents n p := by
    intro n hn
    obtain ⟨p, hp⟩ := ht.numbered.only n hn
    refine ⟨p, ?_, hp⟩
    rintro rfl
    exact absurd hp.1 (by simp [contents, ht.discarded rfl])
  refine ⟨ht.bounded, ht.dropped, hplace, fun hqueue hbatch n hn => ?_⟩
  obtain ⟨p, hne, hone, hrest⟩ := hplace n hn
  cases p with
  | queue => exact absurd hone (by simp [contents, hqueue])
  | batch t => exact absurd hone (by simp [contents, hbatch])
  | handed => rw [hone, hrest .refused (by simp)]
  | discarded => exact absurd rfl hne
  | refused => rw [hone, hrest .handed (by simp)]

theorem errors_handed_once_two :
    ∃ r, Loop.run step (start true)
        [(.io 0, .push .TransportError), (.app 0, .push .SessionError), (.io 0, .drain),
          (.io 0, .hand),
          (.timer 0, .drain), (.io 0, .hand)] = some r ∧
          r.handed = [(1, .SessionError), (0, .TransportError)] ∧
      r.errors.dropped = r.refused.length := by
  obtain ⟨r, hrun, hhanded⟩ := Option.map_eq_some_iff.mp
    (rfl : (Loop.run step (start true)
        [(.io 0, .push .TransportError), (.app 0, .push .SessionError), (.io 0, .drain),
          (.io 0, .hand), (.timer 0, .drain), (.io 0, .hand)]).map ErrorRun.handed =
          some [(1, .SessionError), (0, .TransportError)])
  exact ⟨r, hrun, hhanded, (errors_handed_once hrun).2.1⟩

end ErrorRun

end FixEngine
