/-
`FileStoreMutations.lean` -- the mutations of a file store, stopped and failed.

The six mutations of a counter are one step of a small machine on the pair
(NextSender, NextTarget). A store on disk goes through such steps: whichever of
them the machine is stopped in, the pair found afterwards is the one before or
the one after that step.

The second half has the stores that a session can come to have, whatever failed on
the way, with the files that their operations leave alone.
-/
import FixEngine.FileStoreCrash

set_option autoImplicit false

namespace FixEngine

open Storage IMessageStore

/-! ## Mutations of the counters -/

/-- The sequence mutations of the interface. -/
inductive SeqOp where
  | set_next_sender (n : ℕ)
  | set_next_target (n : ℕ)
  | incr_sender
  | incr_target
  | next_sender_incr
  | advance_next_target (n : ℕ)
  deriving DecidableEq

namespace SeqOp

/-- The counters after an operation that succeeded. At the last number there is no next
one. -/
def after (p : ℕ × ℕ) : SeqOp → ℕ × ℕ
  | .set_next_sender n => (n, p.2)
  | .set_next_target n => (p.1, n)
  | .incr_sender => if p.1 = 2 ^ 64 - 1 then p else (seq_succ p.1, p.2)
  | .incr_target => if p.2 = 2 ^ 64 - 1 then p else (p.1, seq_succ p.2)
  | .next_sender_incr => if p.1 = 2 ^ 64 - 1 then p else (seq_succ p.1, p.2)
  | .advance_next_target n => (p.1, max p.2 n)

/-- An argument is a SeqNum of at least one. -/
def Valid : SeqOp → Prop
  | .set_next_sender n => 1 ≤ n ∧ n < 2 ^ 64
  | .set_next_target n => 1 ≤ n ∧ n < 2 ^ 64
  | .advance_next_target n => 1 ≤ n ∧ n < 2 ^ 64
  | _ => True

/-- The operation on a file store; of a claim only success or failure is kept. -/
def run (st : FileStore) : SeqOp → Result Unit × FileStore
  | .set_next_sender n => st.set_next_sender_seq_num n
  | .set_next_target n => st.set_next_target_seq_num n
  | .incr_sender => st.incr_sender_seq_num
  | .incr_target => st.incr_target_seq_num
  | .next_sender_incr =>
    let r := st.next_sender_seq_num_incr
    (r.1.map fun _ => (), r.2)
  | .advance_next_target n => st.advance_next_target_seq_num n

variable {op : SeqOp}

/-- Counters that a session can have. -/
def InRange (p : ℕ × ℕ) : Prop := (1 ≤ p.1 ∧ p.1 < 2 ^ 64) ∧ 1 ≤ p.2 ∧ p.2 < 2 ^ 64

theorem seq_succ_inRange {n : ℕ} (hn : n < 2 ^ 64) (hlast : n ≠ 2 ^ 64 - 1) :
    1 ≤ seq_succ n ∧ seq_succ n < 2 ^ 64 := by
  rw [seq_succ, Nat.mod_eq_of_lt (by omega)]
  omega

theorem Valid.after_inRange (hop : op.Valid) {p : ℕ × ℕ} (hp : InRange p) :
    InRange (op.after p) := by
  obtain ⟨s, t⟩ := p
  obtain ⟨hs, ht⟩ := hp
  cases op with
  | set_next_sender n => exact ⟨hop, ht⟩
  | set_next_target n => exact ⟨hs, hop⟩
  | incr_sender | next_sender_incr =>
    rw [after]
    split
    · exact ⟨hs, ht⟩
    · rename_i hlast
      exact ⟨seq_succ_inRange hs.2 hlast, ht⟩
  | incr_target =>
    rw [after]
    split
    · exact ⟨hs, ht⟩
    · rename_i hlast
      exact ⟨hs, seq_succ_inRange ht.2 hlast⟩
  | advance_next_target n =>
    refine ⟨hs, ?_⟩
    show 1 ≤ max t n ∧ max t n < 2 ^ 64
    have hn : 1 ≤ n ∧ n < 2 ^ 64 := hop
    dsimp only at ht
    omega

theorem run_cases (op : SeqOp) (st : FileStore) :
    (op.run st).1 = .error .StoreError ∧ (op.run st).2 = st ∨
    op.run st = (.ok (), st) ∧ op.after (seqs st) = seqs st ∨
    op.run st = st.commit (op.after (seqs st)).1 (op.after (seqs st)).2 := by
  have hnext : ∀ {n : ℕ}, ¬(st.closed || n == 2 ^ 64 - 1) = true → n ≠ 2 ^ 64 - 1 := by
    intro n hnot
    simp only [Bool.or_eq_true, beq_iff_eq, not_or] at hnot
    exact hnot.2
  cases op with
  | set_next_sender n =>
    rw [run, FileStore.set_next_sender_seq_num]
    split
    · exact .inl ⟨rfl, rfl⟩
    · exact .inr (.inr rfl)
  | set_next_target n =>
    rw [run, FileStore.set_next_target_seq_num]
    split
    · exact .inl ⟨rfl, rfl⟩
    · exact .inr (.inr rfl)
  | incr_sender =>
    rw [run, FileStore.incr_sender_seq_num]
    split
    · exact .inl ⟨rfl, rfl⟩
    · rename_i hnot
      rw [after, if_neg (show (seqs st).1 ≠ _ from hnext hnot)]
      exact .inr (.inr rfl)
  | incr_target =>
    rw [run, FileStore.incr_target_seq_num]
    split
    · exact .inl ⟨rfl, rfl⟩
    · rename_i hnot
      rw [after, if_neg (show (seqs st).2 ≠ _ from hnext hnot)]
      exact .inr (.inr rfl)
  | next_sender_incr =>
    rw [run, FileStore.next_sender_seq_num_incr]
    split
    · exact .inl ⟨rfl, rfl⟩
    · rename_i hnot
      rw [after, if_neg (show (seqs st).1 ≠ _ from hnext hnot)]
      refine .inr (.inr (Prod.ext ?_ rfl))
      show ((st.commit (seq_succ st.sender_seq) st.target_seq).1.map fun _ => st.sender_seq).map _ =
        (st.commit (seq_succ st.sender_seq) st.target_seq).1
      rcases (st.commit (seq_succ st.sender_seq) st.target_seq).1 with e | _ <;> rfl
  | advance_next_target n =>
    rw [run, FileStore.advance_next_target_seq_num]
    split
    · exact .inl ⟨rfl, rfl⟩
    · split
      · rename_i hle
        exact .inr (.inl ⟨rfl, Prod.ext rfl (Nat.max_eq_left hle)⟩)
      · rename_i hlt
        have hmax : (after (seqs st) (.advance_next_target n)).2 = n :=
          Nat.max_eq_right (Nat.le_of_not_le hlt)
        rw [hmax]
        exact .inr (.inr rfl)

end SeqOp

/-! ## A stop in a mutation -/

namespace FileStore

variable {dir : Directory} {sid : SessionID} {st : FileStore}

/-- **One mutation**: the store stays steady, moves to the counters of after or stays at
those of before, and passes through disks that hold the one or the other. -/
theorem Steady.seq_op (h : Steady dir sid st) {op : SeqOp} (hop : op.Valid) :
    Steady dir sid (op.run st).2 ∧
    (seqs (op.run st).2 = seqs st ∨ seqs (op.run st).2 = op.after (seqs st)) ∧
    ∃ steps, (op.run st).2.fs.trail = steps ++ st.fs.trail ∧
      ∀ d ∈ steps, Holds dir sid (fun p => p = seqs st ∨ p = op.after (seqs st)) d := by
  rcases op.run_cases st with ⟨-, hsame⟩ | ⟨hsame, -⟩ | hcommit
  · rw [hsame]
    exact ⟨h, .inl rfl, [], rfl, by simp⟩
  · rw [hsame]
    exact ⟨h, .inl rfl, [], rfl, by simp⟩
  · have hst : SeqOp.InRange (seqs st) := h.range
    have hrange := hop.after_inRange hst
    have hmoves := commit_moves (op.after (seqs st)).1 (op.after (seqs st)).2 st
    obtain ⟨hsteady, hsteps⟩ := h.commit hrange.1 hrange.2
    rw [hcommit]
    refine ⟨hsteady, ?_, hsteps⟩
    rw [Moves] at hmoves
    split at hmoves
    · exact .inr hmoves
    · exact .inl hmoves

/-- The store after a sequence of mutations. -/
def after_ops (st : FileStore) (ops : List SeqOp) : FileStore :=
  ops.foldl (fun st op => (op.run st).2) st

theorem Steady.after_ops (h : Steady dir sid st) {ops : List SeqOp} (hops : ∀ op ∈ ops, op.Valid) :
    Steady dir sid (st.after_ops ops) := by
  induction ops generalizing st with
  | nil => exact h
  | cons op ops ih =>
    apply ih (h.seq_op (hops op List.mem_cons_self)).1
    intro op' hop'
    exact hops op' (List.mem_cons_of_mem _ hop')

/-- The disks that an operation passes through, from the one it leaves back to the one
it starts from. -/
def disks_of (op : SeqOp) (st : FileStore) : List Disk :=
  (op.run st).2.fs.passed.take ((op.run st).2.fs.trail.length - st.fs.trail.length + 1)

/-- **The sequence file is crash-safe.** -/
theorem sequence_file_crash_safe {opts opts' : FileStoreOptions} {d₀ : Files}
    (hsynced : SequenceSynced dir sid d₀) (hopen : (open_ dir sid opts (.sound d₀)).1 = .ok ())
    (faults : List (Option Fault)) (ops : List SeqOp) (hops : ∀ op ∈ ops, op.Valid) (op : SeqOp)
    (hop : op.Valid) {d : Disk} {d' : Files}
    (hstop : d ∈ disks_of op
      (((open_ dir sid opts (.sound d₀)).2.with_faults faults).after_ops ops))
        (hcrash : CrashImage d d') :
    (open_ dir sid opts' (.sound d')).1 = .ok () ∧
      (seqs (open_ dir sid opts' (.sound d')).2 =
          seqs (((open_ dir sid opts (.sound d₀)).2.with_faults faults).after_ops ops) ∨
        seqs (open_ dir sid opts' (.sound d')).2 =
          op.after
            (seqs (((open_ dir sid opts (.sound d₀)).2.with_faults faults).after_ops ops))) := by
  have hopened : Steady dir sid ((open_ dir sid opts (.sound d₀)).2.with_faults faults) :=
    (steady_of_open hsynced hopen).with_faults faults
  have hbefore := hopened.after_ops hops
  generalize ((open_ dir sid opts (.sound d₀)).2.with_faults faults).after_ops ops = st at *
  obtain ⟨hafter, hseqs, steps, htrail, hholds⟩ := hbefore.seq_op hop
  -- every disk on the way holds one of the two pairs
  have hdisk : Holds dir sid (fun p => p = seqs st ∨ p = op.after (seqs st)) d := by
    rw [disks_of, FileSystem.passed, htrail, List.length_append, Nat.add_sub_cancel,
      List.take_succ_cons, List.take_left] at hstop
    rcases List.mem_cons.mp hstop with rfl | hd
    · apply hafter.counters.imp
      rintro _ rfl
      exact hseqs
    · exact hholds d hd
  exact hdisk.reopen hcrash opts'

/-- A session of two plain CompIDs. -/
def plain_sid : SessionID :=
  { version := .FIX_4_2, senderCompID := ascii "CLIENT", targetCompID := ascii "BROKER"
    qualifier := [] }

/-- A new store after one claim. -/
def claimed_once : FileStore :=
  ((open_ .plain plain_sid ⟨false⟩ (.sound fun _ => none)).2.with_faults []).after_ops
    [.next_sender_incr]

/-- A stop after the second claim, with everything lost that was not synced. -/
theorem sequence_file_crash_safe_claim :
    (open_ .plain plain_sid ⟨false⟩
      (.sound (SeqOp.run claimed_once .next_sender_incr).2.fs.disk.stop)).1 = .ok () ∧
    (seqs (open_ .plain plain_sid ⟨false⟩
        (.sound (SeqOp.run claimed_once .next_sender_incr).2.fs.disk.stop)).2 = seqs claimed_once ∨
      seqs (open_ .plain plain_sid ⟨false⟩
        (.sound (SeqOp.run claimed_once .next_sender_incr).2.fs.disk.stop)).2 =
          SeqOp.after (seqs claimed_once) .next_sender_incr) := by
  have hsynced : SequenceSynced .plain plain_sid fun _ => none := by
    rintro f (hf | hf)
    · simp at hf
    · simp at hf
  have hopen : (open_ .plain plain_sid ⟨false⟩ (.sound fun _ => none)).1 = .ok () := by decide
  have hvalid : ∀ op ∈ [SeqOp.next_sender_incr], op.Valid := by
    intro op hop
    rw [List.mem_singleton.mp hop]
    trivial
  have hleft : (SeqOp.run claimed_once .next_sender_incr).2.fs.disk ∈
      disks_of .next_sender_incr claimed_once := List.mem_cons_self
  exact sequence_file_crash_safe hsynced hopen [] [.next_sender_incr] hvalid .next_sender_incr
    trivial hleft (crashImage_stop _)

/-! ## The stores of a session -/

/-- The mutating operations of the interface. -/
inductive Mutation where
  | seq (op : SeqOp)
  | reset
  deriving DecidableEq

def Mutation.run (st : FileStore) : Mutation → Result Unit × FileStore
  | .seq op => op.run st
  | .reset => st.reset

/-- The stores that a session can have: one that opened, whatever failed on the way, and
what any operations leave of it. -/
inductive Reachable (dir : Directory) (sid : SessionID) : FileStore → Prop where
  | opened {opts : FileStoreOptions} {fs : FileSystem} (h : (open_ dir sid opts fs).1 = .ok ()) :
      Reachable dir sid (open_ dir sid opts fs).2
  | mutated {st : FileStore} (m : Mutation) (h : Reachable dir sid st) :
      Reachable dir sid (m.run st).2
  | stored_outbound {st : FileStore} (seq : ℕ) (raw : Bytes) (h : Reachable dir sid st) :
      Reachable dir sid (st.store_outbound seq raw).2
  | stored_inbound {st : FileStore} (seq : ℕ) (raw : Bytes) (h : Reachable dir sid st) :
      Reachable dir sid (st.store_inbound seq raw).2
  | read {st : FileStore} (first last : ℕ) (h : Reachable dir sid st) :
      Reachable dir sid (st.get_messages first last).2
  | refreshed {st : FileStore} (h : Reachable dir sid st) : Reachable dir sid st.refresh.2
  | closed {st : FileStore} (h : Reachable dir sid st) : Reachable dir sid st.close.2

/-- The file names of a store belong to one session. -/
structure Named (sid : SessionID) (st : FileStore) : Prop where
  seqfile : st.seqfile = seq_path sid
  outfile : st.outfile = store_path sid out_ext
  infile : st.infile = store_path sid in_ext

/-- No operation renames the files of a store. -/
def SameNames (st st' : FileStore) : Prop :=
  st'.seqfile = st.seqfile ∧ st'.outfile = st.outfile ∧ st'.infile = st.infile

section SameNames

variable (st : FileStore)

theorem sameNames_commit (s t : ℕ) : SameNames st (st.commit s t).2 := by
  rw [commit]
  dsimp only
  split <;> exact ⟨rfl, rfl, rfl⟩

theorem sameNames_seq_op (op : SeqOp) : SameNames st (op.run st).2 := by
  rcases op.run_cases st with ⟨-, hsame⟩ | ⟨hsame, -⟩ | hcommit
  · rw [hsame]
    exact ⟨rfl, rfl, rfl⟩
  · rw [hsame]
    exact ⟨rfl, rfl, rfl⟩
  · rw [hcommit]
    exact st.sameNames_commit _ _

theorem sameNames_load_seqs : SameNames st st.load_seqs.2 := by
  rw [load_seqs]
  dsimp only
  split
  · exact ⟨rfl, rfl, rfl⟩
  · exact ⟨rfl, rfl, rfl⟩
  · split <;> exact ⟨rfl, rfl, rfl⟩

theorem sameNames_rebuild_index : SameNames st st.rebuild_index.2 := by
  rw [rebuild_index]
  dsimp only
  split
  · exact ⟨rfl, rfl, rfl⟩
  · split
    · exact ⟨rfl, rfl, rfl⟩
    · split <;> exact ⟨rfl, rfl, rfl⟩

theorem sameNames_reset : SameNames st st.reset.2 := by
  rw [reset]
  split
  · exact ⟨rfl, rfl, rfl⟩
  · dsimp only
    split
    · exact ⟨rfl, rfl, rfl⟩
    · split
      · exact ⟨rfl, rfl, rfl⟩
      · split <;> exact ⟨rfl, rfl, rfl⟩

theorem sameNames_refresh : SameNames st st.refresh.2 := by
  have hload := st.sameNames_load_seqs
  have hindex := st.load_seqs.2.sameNames_rebuild_index
  have hboth : SameNames st st.load_seqs.2.rebuild_index.2 :=
    ⟨hindex.1.trans hload.1, hindex.2.1.trans hload.2.1, hindex.2.2.trans hload.2.2⟩
  rw [refresh]
  dsimp only
  split
  · exact hload
  · split
    · exact hboth
    · exact hboth

theorem named_open (dir : Directory) (sid : SessionID) (opts : FileStoreOptions) (fs : FileSystem) :
    SameNames (blank sid opts fs) (open_ dir sid opts fs).2 := by
  unfold open_
  dsimp only
  split
  · exact ⟨rfl, rfl, rfl⟩
  split
  · exact ⟨rfl, rfl, rfl⟩
  generalize hst : { blank sid opts fs with
    fs := (migrate_legacy_files dir sid (attempt (blank sid opts fs).fs).2).2 } = st
  have hnames : SameNames (blank sid opts fs) st := by
    rw [← hst]
    exact ⟨rfl, rfl, rfl⟩
  have hload := st.sameNames_load_seqs
  have hindex := st.load_seqs.2.sameNames_rebuild_index
  have hloaded : SameNames (blank sid opts fs) st.load_seqs.2 :=
    ⟨hload.1.trans hnames.1, hload.2.1.trans hnames.2.1, hload.2.2.trans hnames.2.2⟩
  have hindexed : SameNames (blank sid opts fs) st.load_seqs.2.rebuild_index.2 :=
    ⟨hindex.1.trans hloaded.1, hindex.2.1.trans hloaded.2.1, hindex.2.2.trans hloaded.2.2⟩
  split
  · exact hloaded
  · split
    · exact hindexed
    · exact hindexed

end SameNames

theorem Named.of_same {st st' : FileStore} (h : Named sid st) (hsame : SameNames st st') :
    Named sid st' :=
  ⟨hsame.1.trans h.seqfile, hsame.2.1.trans h.outfile, hsame.2.2.trans h.infile⟩

theorem Reachable.named {st : FileStore} (h : Reachable dir sid st) : Named sid st := by
  induction h with
  | opened _ =>
    have hblank : ∀ opts fs, Named sid (blank sid opts fs) := fun _ _ => ⟨rfl, rfl, rfl⟩
    exact (hblank _ _).of_same (named_open dir sid _ _)
  | mutated m _ ih =>
    cases m with
    | seq op => exact ih.of_same (sameNames_seq_op _ op)
    | reset => exact ih.of_same (sameNames_reset _)
  | stored_outbound seq raw _ ih =>
    apply ih.of_same
    rw [store_outbound]
    split
    · exact ⟨rfl, rfl, rfl⟩
    · dsimp only
      split
      · exact ⟨rfl, rfl, rfl⟩
      · split
        · split <;> exact ⟨rfl, rfl, rfl⟩
        · exact ⟨rfl, rfl, rfl⟩
  | stored_inbound seq raw _ ih =>
    apply ih.of_same
    rw [store_inbound]
    split
    · exact ⟨rfl, rfl, rfl⟩
    · dsimp only
      split
      · exact ⟨rfl, rfl, rfl⟩
      · split <;> exact ⟨rfl, rfl, rfl⟩
  | read first last _ ih =>
    apply ih.of_same
    rw [get_messages]
    split <;> exact ⟨rfl, rfl, rfl⟩
  | refreshed _ ih => exact ih.of_same (sameNames_refresh _)
  | closed _ ih =>
    apply ih.of_same
    rw [close]
    split <;> exact ⟨rfl, rfl, rfl⟩


/-! ### Files that operations leave alone -/

theorem read_all_disk (p : Path) (fs : FileSystem) : (read_all p fs).2.disk = fs.disk := by
  rw [read_all, bind_apply]
  rcases (open_read p fs).1 with _ | data
  · rfl
  · dsimp only
    rw [bind_apply]
    rcases (read_limit (open_read p fs).2).1 with _ | k <;> rfl

theorem load_seqs_disk (st : FileStore) : st.load_seqs.2.fs.disk = st.fs.disk := by
  rw [load_seqs]
  dsimp only
  split
  · rfl
  · rfl
  · split
    · exact read_all_disk _ _
    · exact read_all_disk _ _

theorem rebuild_index_keeps (st : FileStore) {p : Path} (hp : p ≠ st.outfile) :
    st.rebuild_index.2.fs.disk p = st.fs.disk p := by
  have hopen := keeps_open_read (p := p) st.outfile st.fs
  have hread := (keeps_read_limit (p := p) (open_read st.outfile st.fs).2).trans hopen
  rw [rebuild_index]
  dsimp only
  split
  · exact hopen
  · split
    · exact hread
    · split
      · exact hread
      · exact (keeps_resize_file hp _ _).trans hread

theorem rebuild_index_fields (st : FileStore) :
    seqs st.rebuild_index.2 = seqs st ∧
      st.rebuild_index.2.out_stream = st.out_stream ∧ st.rebuild_index.2.out_pos = st.out_pos ∧
      st.rebuild_index.2.closed = st.closed := by
  rw [rebuild_index]
  dsimp only
  split
  · exact ⟨rfl, rfl, rfl, rfl⟩
  · split
    · exact ⟨rfl, rfl, rfl, rfl⟩
    · split <;> exact ⟨rfl, rfl, rfl, rfl⟩

theorem open_streams_keeps (st : FileStore) {p : Path} (hout : p ≠ st.outfile)
    (hin : p ≠ st.infile) :
    st.open_streams.fs.disk p = st.fs.disk p :=
  (keeps_open_append hin _).trans (keeps_open_append hout _)

theorem reopen_keeps (stream : Stream) {p q : Path} (hq : q ≠ p) (fs : FileSystem) :
    (reopen stream p fs).2.disk q = fs.disk q := by
  rw [reopen]
  split
  · exact keeps_open_append hq _
  · rfl

end FileStore

end FixEngine
