/-
`Store.lean` -- the store interface of `include/fix/store/message_store.hpp` and the
in-memory store of `include/fix/store/memory_store.hpp`.

A store is a state type with the interface's operations on it. Every mutation
returns its result together with the store it leaves, also when it fails, since
what a failing operation leaves behind is half of the contract. `get_messages`
returns the list of the calls it makes to its callback, in order; it is given
the store and returns it because reading a file may fail and be noted by the
file system underneath.

`StoreContract` states what the interface's comments promise about the two
sequence counters: a mutation that fails has consumed nothing, a claim returns
the old counter and advances past it in one step, the target counter advances to
a maximum, and the message operations leave both counters alone. `StoreContents`
states what they promise about the frames: one that was stored is there to be read
under its number.
-/
import FixEngine.Message
import FixEngine.OrdMap

set_option autoImplicit false

namespace FixEngine

/-! ## The interface -/

/-- The operations of `IMessageStore` on a state `σ`. -/
class IMessageStore (σ : Type) where
  next_sender_seq_num : σ → ℕ
  next_target_seq_num : σ → ℕ
  set_next_sender_seq_num : ℕ → σ → Result Unit × σ
  set_next_target_seq_num : ℕ → σ → Result Unit × σ
  incr_sender_seq_num : σ → Result Unit × σ
  incr_target_seq_num : σ → Result Unit × σ
  next_sender_seq_num_incr : σ → Result ℕ × σ
  advance_next_target_seq_num : ℕ → σ → Result Unit × σ
  store_outbound : ℕ → Bytes → σ → Result Unit × σ
  store_inbound : ℕ → Bytes → σ → Result Unit × σ
  get_messages : ℕ → ℕ → σ → Result (List (ℕ × Bytes)) × σ
  reset : σ → Result Unit × σ
  refresh : σ → Result Unit × σ
  close : σ → Result Unit × σ
  /-- The same store, where nothing underneath fails from now on. Only the model has it, to
  say what a store holds without a failure of the reading. -/
  calm : σ → σ

namespace IMessageStore

variable {σ : Type} [IMessageStore σ]

/-- Both counters: NextSenderMsgSeqNum and NextTargetMsgSeqNum. -/
def seqs (s : σ) : ℕ × ℕ := (next_sender_seq_num s, next_target_seq_num s)

/-- The operation moves the counters to `f` of its result, and a failure leaves
them where they were. -/
def Moves {α : Type} (s : σ) (r : Result α × σ) (f : α → ℕ × ℕ) : Prop :=
  match r.1 with
  | .ok a => seqs r.2 = f a
  | .error _ => seqs r.2 = seqs s

/-- What the store holds under a number, as `get_messages` would read it. -/
def held (n : ℕ) (s : σ) : Option Bytes :=
  match (get_messages n n (calm s)).1 with
  | .ok ms => ms.lookup n
  | .error _ => none

end IMessageStore

open IMessageStore in
/-- What the comments of the interface promise about the counters. -/
class StoreContract (σ : Type) [IMessageStore σ] : Prop where
  set_next_sender_seq_num_moves : ∀ (n : ℕ) (s : σ),
    Moves s (set_next_sender_seq_num n s) fun _ => (n, next_target_seq_num s)
  set_next_target_seq_num_moves : ∀ (n : ℕ) (s : σ),
    Moves s (set_next_target_seq_num n s) fun _ => (next_sender_seq_num s, n)
  next_sender_seq_num_incr_moves : ∀ s : σ,
    Moves s (next_sender_seq_num_incr s) fun n => (seq_succ n, next_target_seq_num s)
  next_sender_seq_num_incr_claims : ∀ (s : σ) (n : ℕ),
    (next_sender_seq_num_incr s).1 = .ok n → n = next_sender_seq_num s
  advance_next_target_seq_num_moves : ∀ (n : ℕ) (s : σ),
    Moves s (advance_next_target_seq_num n s) fun _ =>
      (next_sender_seq_num s, max (next_target_seq_num s) n)
  store_outbound_seqs : ∀ (n : ℕ) (raw : Bytes) (s : σ), seqs (store_outbound n raw s).2 = seqs s
  store_inbound_seqs : ∀ (n : ℕ) (raw : Bytes) (s : σ), seqs (store_inbound n raw s).2 = seqs s
  get_messages_seqs : ∀ (first last : ℕ) (s : σ), seqs (get_messages first last s).2 = seqs s
  reset_seqs : ∀ s : σ, (reset s).1 = .ok () → seqs (reset s).2 = (1, 1)

open IMessageStore in
/-- A reset leaves the counters at one or, where it is refused, as they were. The interface
does not promise this of a reset that fails half way; both stores keep it. -/
class ResetContract (σ : Type) [IMessageStore σ] : Prop where
  reset_target : ∀ s : σ, next_target_seq_num (reset s).2 = 1 ∨
    next_target_seq_num (reset s).2 = next_target_seq_num s

open IMessageStore in
/-- What the comments of the interface promise about the outbound frames, of the stores that
are `Fit` to keep their promise. A log that is read by lines gives back a frame up to its
first line feed. -/
class StoreContents (σ : Type) [IMessageStore σ] where
  Fit : σ → Prop
  read_back : Bytes → Bytes
  read_back_line : ∀ raw, LF ∉ raw → read_back raw = raw
  held_store_outbound : ∀ (n : ℕ) (raw : Bytes) (s : σ), Fit s →
    (store_outbound n raw s).1 = .ok () → held n (store_outbound n raw s).2 = some (read_back raw)
  fit_store_outbound : ∀ (n : ℕ) (raw : Bytes) (s : σ), Fit s → Fit (store_outbound n raw s).2
  fit_next_sender_seq_num_incr : ∀ s : σ, Fit s → Fit (next_sender_seq_num_incr s).2
  fit_set_next_sender_seq_num : ∀ (n : ℕ) (s : σ), Fit s → Fit (set_next_sender_seq_num n s).2
  fit_reset : ∀ s : σ, Fit s → Fit (reset s).2

/-! ## MemoryStore -/

/-- The in-memory store: two counters that start at one and two ordered maps. -/
structure MemoryStore where
  sender_seq : ℕ
  target_seq : ℕ
  outbound : OrdMap ℕ Bytes
  inbound : OrdMap ℕ Bytes
  deriving DecidableEq

namespace MemoryStore

/-- `MemoryStore()`. -/
def create : MemoryStore := ⟨1, 1, .empty, .empty⟩

def set_next_sender_seq_num (n : ℕ) (s : MemoryStore) : Result Unit × MemoryStore :=
  (.ok (), { s with sender_seq := n })

def set_next_target_seq_num (n : ℕ) (s : MemoryStore) : Result Unit × MemoryStore :=
  (.ok (), { s with target_seq := n })

def incr_sender_seq_num (s : MemoryStore) : Result Unit × MemoryStore :=
  (.ok (), { s with sender_seq := seq_succ s.sender_seq })

def incr_target_seq_num (s : MemoryStore) : Result Unit × MemoryStore :=
  (.ok (), { s with target_seq := seq_succ s.target_seq })

def next_sender_seq_num_incr (s : MemoryStore) : Result ℕ × MemoryStore :=
  -- fetch_add returns the previous value and wraps
  (.ok s.sender_seq, { s with sender_seq := seq_succ s.sender_seq })

def advance_next_target_seq_num (n : ℕ) (s : MemoryStore) : Result Unit × MemoryStore :=
  (.ok (), if s.target_seq < n then { s with target_seq := n } else s)

def store_outbound (seq : ℕ) (raw : Bytes) (s : MemoryStore) : Result Unit × MemoryStore :=
  (.ok (), { s with outbound := s.outbound.insert seq raw })

def store_inbound (seq : ℕ) (raw : Bytes) (s : MemoryStore) : Result Unit × MemoryStore :=
  (.ok (), { s with inbound := s.inbound.insert seq raw })

end MemoryStore

/-- The last key of a walk that ends at `last`, where zero stands for the greatest key. -/
def walk_end {α : Type} (last : ℕ) (m : OrdMap ℕ α) : ℕ :=
  if last = 0 then m.last_key.getD 0 else last

theorem range_walk_end_insert {α : Type} (n : ℕ) (v : α) (m : OrdMap ℕ α) :
    ∃ more, (m.insert n v).range n (walk_end n (m.insert n v)) = (n, v) :: more := by
  apply OrdMap.range_insert_head
  rw [walk_end]
  split
  · rename_i hzero
    rw [hzero]
    exact Nat.zero_le _
  · exact le_refl n

namespace MemoryStore

def get_messages (first last : ℕ) (s : MemoryStore) :
    Result (List (ℕ × Bytes)) × MemoryStore :=
  (.ok (s.outbound.range first (walk_end last s.outbound)), s)

def reset (_ : MemoryStore) : Result Unit × MemoryStore := (.ok (), create)

def refresh (s : MemoryStore) : Result Unit × MemoryStore := (.ok (), s)

def close (s : MemoryStore) : Result Unit × MemoryStore := (.ok (), s)

instance : IMessageStore MemoryStore where
  next_sender_seq_num := sender_seq
  next_target_seq_num := target_seq
  set_next_sender_seq_num := set_next_sender_seq_num
  set_next_target_seq_num := set_next_target_seq_num
  incr_sender_seq_num := incr_sender_seq_num
  incr_target_seq_num := incr_target_seq_num
  next_sender_seq_num_incr := next_sender_seq_num_incr
  advance_next_target_seq_num := advance_next_target_seq_num
  store_outbound := store_outbound
  store_inbound := store_inbound
  get_messages := get_messages
  reset := reset
  refresh := refresh
  close := close
  calm := id

instance : StoreContract MemoryStore where
  set_next_sender_seq_num_moves _ _ := rfl
  set_next_target_seq_num_moves _ _ := rfl
  next_sender_seq_num_incr_moves _ := rfl
  next_sender_seq_num_incr_claims s n h := by
    injection h with h
    exact h.symm
  advance_next_target_seq_num_moves n s := by
    show IMessageStore.seqs (if s.target_seq < n then { s with target_seq := n } else s) =
      (s.sender_seq, max s.target_seq n)
    split
    · rename_i hlt
      rw [Nat.max_eq_right hlt.le]
      rfl
    · rename_i hge
      rw [Nat.max_eq_left (Nat.le_of_not_lt hge)]
      rfl
  store_outbound_seqs _ _ _ := rfl
  store_inbound_seqs _ _ _ := rfl
  get_messages_seqs _ _ _ := rfl
  reset_seqs _ _ := rfl

instance : ResetContract MemoryStore where
  reset_target _ := .inl rfl

instance : StoreContents MemoryStore where
  Fit _ := True
  read_back := id
  read_back_line _ _ := rfl
  held_store_outbound n raw s _ _ := by
    obtain ⟨more, hwalk⟩ := range_walk_end_insert n raw s.outbound
    show List.lookup n ((s.outbound.insert n raw).range n (walk_end n (s.outbound.insert n raw))) =
        _
    rw [hwalk, List.lookup_cons_self]
    rfl
  fit_store_outbound _ _ _ _ := trivial
  fit_next_sender_seq_num_incr _ _ := trivial
  fit_set_next_sender_seq_num _ _ _ := trivial
  fit_reset _ _ := trivial

end MemoryStore

end FixEngine
