/-
`Ledger.lean` -- what the numbering of outbound frames is for.

The send path claims a number, and gives it back if the frame can not be built or
stored. What this is for is said by a small machine of its own: a `Ledger` is the
next number and a book of what was stored, emitted, reset and lost, and each of
its steps is one entry. The invariant of the numbering is proved of the machine,
by one lemma about a step and an induction over the run. At the end stand the
lemmas that say what the members of a session enter into its book.
-/
import FixEngine.SessionInbound
import Mathlib.Logic.Relation

set_option autoImplicit false

namespace FixEngine

/-! ## The ledger -/

/-- The events that enter the book. -/
def Event.booked : Event → Bool
  | .do_send _ _ => true
  | .stored _ _ => true
  | .store_reset => true
  | .rollback_failed => true
  | _ => false

/-- The next number to give out, and the book so far. -/
structure Ledger where
  next : ℕ
  book : List Event

/-- One entry, where `R` is what a store gives back of a frame, and `F` says which frames may
go out under which number. -/
inductive Ledger.Step (R : Bytes → Bytes) (F : ℕ → Bytes → Prop) : Ledger → Ledger → Prop where
  /-- A frame is held by the store under the next number and then handed to the transport. -/
  | sent (n : ℕ) (book : List Event) (w : Bytes) (h : F n w) :
      Ledger.Step R F ⟨n, book⟩
        ⟨seq_succ n, book ++ [.stored n (some (R w)), .do_send (.sent n) w]⟩
  /-- A frame goes out that takes no number. -/
  | unnumbered (n : ℕ) (book : List Event) (origin : Origin) (w : Bytes)
      (h : ∀ k, origin ≠ .sent k) : Ledger.Step R F ⟨n, book⟩ ⟨n, book ++ [.do_send origin w]⟩
  /-- A number was claimed and could not be given back. -/
  | stuck (n m : ℕ) (book : List Event) :
      Ledger.Step R F ⟨n, book⟩ ⟨m, book ++ [.rollback_failed]⟩
  /-- The store was reset. -/
  | reset (n m : ℕ) (book : List Event) : Ledger.Step R F ⟨n, book⟩ ⟨m, book ++ [.store_reset]⟩

abbrev Ledger.Run (R : Bytes → Bytes) (F : ℕ → Bytes → Prop) : Ledger → Ledger → Prop :=
  Relation.ReflTransGen (Ledger.Step R F)

/-- One event's effect on the numbers emitted since the last reset of the store. -/
def note_emitted (numbers : List ℕ) : Event → List ℕ
  | .store_reset => []
  | .do_send (.sent n) _ => numbers ++ [n]
  | _ => numbers

/-- The numbers of the frames that the send path handed to `do_send` since the last
reset of the store, in the order of emission. -/
def emitted (events : List Event) : List ℕ := events.foldl note_emitted []

/-- Each frame of the send path was held by the store under its own number when it was
handed to `do_send`: the last entry before it is that reading of the store. -/
def StoredFirst (R : Bytes → Bytes) (events : List Event) : Prop :=
  ∀ before n w after, events = before ++ .do_send (.sent n) w :: after →
    (before.filter Event.booked).getLast? = some (.stored n (some (R w)))

theorem emitted_append (events more : List Event) :
    emitted (events ++ more) = more.foldl note_emitted (emitted events) :=
  List.foldl_append

theorem emitted_filter_booked (events : List Event) :
    emitted (events.filter Event.booked) = emitted events := by
  suffices h : ∀ acc, (events.filter Event.booked).foldl note_emitted acc =
      events.foldl note_emitted acc from h []
  induction events with
  | nil => intro acc; rfl
  | cons e events ih =>
    intro acc
    rw [List.filter_cons]
    split
    · exact ih _
    · rename_i hbooked
      have hskip : note_emitted acc e = acc := by
        rcases e with ⟨origin, w⟩ | _ <;> first | rfl | exact absurd rfl hbooked
      rw [List.foldl_cons, hskip, ih]

section

variable {R : Bytes → Bytes} {F : ℕ → Bytes → Prop}

theorem StoredFirst.of_filter {events : List Event}
    (h : StoredFirst R (events.filter Event.booked)) : StoredFirst R events := by
  intro before n w after heq
  have hsplit : events.filter Event.booked = before.filter Event.booked ++
      .do_send (.sent n) w :: after.filter Event.booked := by
    rw [heq, List.filter_append, List.filter_cons_of_pos rfl]
  have hlast := h _ n w _ hsplit
  rw [List.filter_filter] at hlast
  simpa using hlast

theorem storedFirst_nil : StoredFirst R [] := by
  intro before n w after heq
  exact absurd heq.symm (by simp)

theorem StoredFirst.snoc {book : List Event} (h : StoredFirst R book) {e : Event}
    (he : ∀ n w, e ≠ .do_send (.sent n) w) : StoredFirst R (book ++ [e]) := by
  intro before n w after heq
  rcases List.eq_nil_or_concat after with rfl | ⟨init, last, rfl⟩
  · exact absurd (List.append_inj_right' heq rfl) (by simpa using he n w)
  · have hsplit : book ++ [e] = (before ++ .do_send (.sent n) w :: init) ++ [last] := by
      simpa using heq
    exact h before n w init (List.append_inj_left' hsplit rfl)

theorem StoredFirst.snoc_sent {book : List Event} (h : StoredFirst R book) (n : ℕ) (w : Bytes) :
    StoredFirst R (book ++ [.stored n (some (R w)), .do_send (.sent n) w]) := by
  intro before k v after heq
  rcases List.eq_nil_or_concat after with rfl | ⟨init, last, rfl⟩
  · -- the frame is the new one, and its store entry stands just before it
    have hsplit : (book ++ [.stored n (some (R w))]) ++ [.do_send (.sent n) w] =
        before ++ [.do_send (.sent k) v] := by simpa using heq
    have hbefore := List.append_inj_left' hsplit rfl
    have hframe := List.append_inj_right' hsplit rfl
    simp only [List.cons.injEq, Event.do_send.injEq, Origin.sent.injEq, and_true] at hframe
    rw [← hbefore, ← hframe.1, ← hframe.2, List.filter_append]
    exact List.getLast?_concat
  · have hsplit : (book ++ [.stored n (some (R w))]) ++ [.do_send (.sent n) w] =
        (before ++ .do_send (.sent k) v :: init) ++ [last] := by simpa using heq
    exact h.snoc (fun _ _ => by simp) before k v init (List.append_inj_left' hsplit rfl)

/-- What the numbering keeps: consecutive numbers, the next number one beyond the
last, the order of storing and emitting, and the number inside each frame. -/
structure Ledger.Sound (R : Bytes → Bytes) (F : ℕ → Bytes → Prop) (l : Ledger) : Prop where
  consecutive : (emitted l.book).IsChain (fun a b => b = seq_succ a)
  next_eq : ∀ n, (emitted l.book).getLast? = some n → l.next = seq_succ n
  stored_first : StoredFirst R l.book
  frames : ∀ n w, .do_send (.sent n) w ∈ l.book → F n w

theorem Ledger.Sound.snoc {n m : ℕ} {book : List Event} {e : Event}
    (h : Ledger.Sound R F ⟨n, book⟩) (he : ∀ k w, e ≠ .do_send (.sent k) w)
    (hemit : emitted (book ++ [e]) = [] ∨ emitted (book ++ [e]) = emitted book ∧ m = n) :
    Ledger.Sound R F ⟨m, book ++ [e]⟩ := by
  refine ⟨?_, ?_, h.stored_first.snoc he, ?_⟩
  · show (emitted (book ++ [e])).IsChain _
    rcases hemit with hnil | ⟨hsame, _⟩
    · rw [hnil]
      exact List.isChain_nil
    · rw [hsame]
      exact h.consecutive
  · show ∀ k, (emitted (book ++ [e])).getLast? = some k → m = seq_succ k
    rcases hemit with hnil | ⟨hsame, rfl⟩
    · rw [hnil]
      simp
    · rw [hsame]
      exact h.next_eq
  · intro k w hmem
    rcases List.mem_append.mp hmem with hmem | hmem
    · exact h.frames k w hmem
    · exact absurd (List.mem_singleton.mp hmem).symm (he k w)

/-- **One entry keeps the numbering sound** unless a number was lost. -/
theorem Ledger.Sound.step {l l' : Ledger} (h : l.Sound R F) (hstep : Ledger.Step R F l l')
    (hroll : .rollback_failed ∉ l'.book) : l'.Sound R F := by
  rcases hstep with ⟨n, book, w, hF⟩ | ⟨n, book, origin, w, horigin⟩ | ⟨n, m, book⟩ | ⟨n, m, book⟩
  · have hemit : emitted (book ++ [.stored n (some (R w)), .do_send (.sent n) w]) =
        emitted book ++ [n] := by
      rw [emitted_append]
      rfl
    refine ⟨?_, ?_, h.stored_first.snoc_sent n w, ?_⟩
    · show (emitted (book ++ _)).IsChain _
      rw [hemit, List.isChain_append]
      refine ⟨h.consecutive, List.isChain_singleton n, ?_⟩
      intro a ha b hb
      obtain rfl : n = b := by simpa using hb
      exact h.next_eq a ha
    · show ∀ k, (emitted (book ++ _)).getLast? = some k → seq_succ n = seq_succ k
      rw [hemit]
      intro k hk
      obtain rfl : n = k := by simpa using hk
      rfl
    · intro k v hmem
      rcases List.mem_append.mp hmem with hmem | hmem
      · exact h.frames k v hmem
      · simp only [List.mem_cons, reduceCtorEq, Event.do_send.injEq, Origin.sent.injEq,
          List.not_mem_nil, or_false, false_or] at hmem
        rw [hmem.1, hmem.2]
        exact hF
  · refine h.snoc ?_ (.inr ⟨?_, rfl⟩)
    · intro k v heq
      injection heq with hor
      exact horigin k hor
    · rw [emitted_append]
      rcases origin with k | _ | _
      · exact absurd rfl (horigin k)
      · rfl
      · rfl
  · exact absurd (List.mem_append_right book List.mem_cons_self) hroll
  · refine h.snoc (fun _ _ => by simp) (.inl ?_)
    rw [emitted_append]
    rfl

theorem Ledger.Step.book_subset {l l' : Ledger} (h : Ledger.Step R F l l') :
    l.book ⊆ l'.book := by
  rcases h with ⟨n, book, w, hF⟩ | ⟨n, book, origin, w, horigin⟩ | ⟨n, m, book⟩ | ⟨n, m, book⟩ <;>
    exact List.subset_append_left _ _

/-- **A run keeps the numbering sound** unless a number was lost. -/
theorem Ledger.Sound.run {l l' : Ledger} (h : l.Sound R F) (hrun : Ledger.Run R F l l')
    (hroll : .rollback_failed ∉ l'.book) : l'.Sound R F := by
  induction hrun with
  | refl => exact h
  | tail _ hstep ih =>
    have hbefore := fun hmem => hroll (hstep.book_subset hmem)
    exact (ih hbefore).step hstep hroll

end

/-! ## What the members of `Outside` book -/

namespace Outside

/-- The book of a session. -/
def book (o : Outside) : List Event := o.events.filter Event.booked

variable (o : Outside)

theorem book_append_unbooked (events more : List Event) (h : ∀ e ∈ more, e.booked = false) :
    (events ++ more).filter Event.booked = events.filter Event.booked := by
  have hnone : more.filter Event.booked = [] := by
    rw [List.filter_eq_nil_iff]
    intro e he
    rw [h e he]
    exact Bool.false_ne_true
  rw [List.filter_append, hnone, List.append_nil]

@[simp] theorem book_tick : o.tick.book = o.book := rfl

theorem book_emit {e : Event} (h : e.booked = true) : (o.emit e).book = o.book ++ [e] := by
  rw [book, emit, List.filter_append, List.filter_cons_of_pos h]
  rfl

theorem book_emit_unbooked {e : Event} (h : e.booked = false) : (o.emit e).book = o.book :=
  book_append_unbooked _ _ (by simpa using h)

@[simp] theorem book_report (what : Bytes) : (o.report what).book = o.book := by
  simp only [report]
  split
  · split <;> rfl
  · exact book_append_unbooked _ _ (by simp [Event.booked])

@[simp] theorem book_drain_pending_errors : o.drain_pending_errors.book = o.book := by
  apply book_append_unbooked
  intro e he
  obtain ⟨what, _, rfl⟩ := List.mem_map.mp he
  rfl

@[simp] theorem book_audit_frame (outbound : Bool) (raw : Bytes) :
    (o.audit_frame outbound raw).book = o.book := by
  rw [audit_frame]
  split
  · rfl
  · split
    · exact o.tick.book_emit_unbooked rfl
    · rw [book_report, book_tick]

theorem book_hand_over (n : ℕ) (held : Option Bytes) (w : Bytes) :
    (((o.emit (.stored n held)).emit (.do_send (.sent n) w)).audit_frame true w).tick.book =
      o.book ++ [.stored n held, .do_send (.sent n) w] := by
  rw [book_tick, book_audit_frame, book_emit _ rfl, book_emit _ rfl, List.append_assoc]
  rfl

@[simp] theorem env_report (what : Bytes) : (o.report what).env = o.env := by
  simp only [report]
  split
  · split <;> rfl
  · rfl

@[simp] theorem env_guarded (e : Event) : (o.guarded e).env = o.env := by
  rw [guarded]
  split
  · rfl
  · exact env_report _ _

@[simp] theorem env_audit_frame (outbound : Bool) (raw : Bytes) :
    (o.audit_frame outbound raw).env = o.env := by
  rw [audit_frame]
  split
  · rfl
  · split
    · rfl
    · exact env_report _ _

end Outside

end FixEngine
