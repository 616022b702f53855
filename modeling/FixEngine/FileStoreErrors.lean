/-
`FileStoreErrors.lean` -- the mutations of a file store that return an error.

A counter mutation that fails leaves everything as it was: the store differs from
what it was in the temporary file at most, and no operation reads that file before
it has been cut. `reset` is different: it changes the counters, the index and the
streams in memory before its first call of the file system, and a call that fails
does not bring them back. A stream it has closed stays closed; of a stream that had
only failed, `refresh` makes a good one.
-/
import FixEngine.FileStoreMutations

set_option autoImplicit false

namespace FixEngine

open Storage IMessageStore

namespace FileStore

variable {dir : Directory} {sid : SessionID} {st st' : FileStore}

/-- The sequence file is not the outbound log. -/
theorem Named.seq_ne_out (h : Named sid st) : st.seqfile ≠ st.outfile := by
  rw [h.seqfile, h.outfile]
  exact seq_ne_any_out _ _

/-- Nor is it the inbound one. -/
theorem Named.seq_ne_in (h : Named sid st) : st.seqfile ≠ st.infile := by
  rw [h.seqfile, h.infile]
  exact seq_ne_any_in _ _

/-! ## The sequence file of a store that can be written to -/

/-- As long as the outbound log is open, the sequence file has the counters in memory. -/
def Told (st : FileStore) : Prop :=
  st.out_stream ≠ .closed → SeqOp.InRange (seqs st) →
    loads (st.fs.disk st.seqfile) = some (seqs st)

theorem Told.of_kept {st st' : FileStore} (h : Told st) (hname : st'.seqfile = st.seqfile)
    (hseqs : seqs st' = seqs st) (hfile : st'.fs.disk st.seqfile = st.fs.disk st.seqfile)
    (hstream : st.out_stream = .closed → st'.out_stream = .closed) : Told st' := by
  intro hopen hrange
  rw [hseqs] at hrange
  rw [hname, hseqs, hfile]
  exact h (fun hclosed => hopen (hstream hclosed)) hrange

theorem told_of_closed {st : FileStore} (h : st.out_stream = .closed) : Told st :=
  fun hopen => absurd h hopen

theorem load_seqs_told {st : FileStore} (hok : st.load_seqs.1 = .ok ()) :
    loads (st.fs.disk st.seqfile) = some (seqs st.load_seqs.2) := by
  rcases st with ⟨seqfile, outfile, infile, opts, s₀, t₀, out, pos, inb, index, closed, ⟨d, tr, fl⟩⟩
  show loads (d seqfile) = _
  rw [load_seqs] at hok ⊢
  rcases hexists : fl.head?.join with _ | k
  · rcases hfile : d seqfile with _ | f
    · simp [exists_file, call_of_outcome _ _ _ hexists, hfile]
      rfl
    · -- the file was opened, read to its end and accepted
      simp only [exists_file, call_of_outcome _ _ _ hexists, hfile] at hok ⊢
      rcases hopen : fl.tail.head?.join with _ | k
      · rcases hread : fl.tail.tail.head?.join with _ | k
        · rcases hparse : parse_seqs f.data with _ | ⟨s, t⟩
          · simp [read_all, open_read, read_limit, call_of_outcome _ _ _ hopen,
              call_of_outcome _ _ _ hread, hfile, hparse] at hok
          · simp [read_all, open_read, read_limit, call_of_outcome _ _ _ hopen,
              call_of_outcome _ _ _ hread, hfile, hparse]
            exact hparse
        · simp [read_all, open_read, read_limit, call_of_outcome _ _ _ hopen,
            call_of_outcome _ _ _ hread, hfile] at hok
      · simp [read_all, open_read, call_of_outcome _ _ _ hopen] at hok
  · simp [exists_file, call_of_outcome _ _ _ hexists] at hok

theorem load_seqs_seqs {st : FileStore} {e : ErrorCode} (herr : st.load_seqs.1 = .error e) :
    seqs st.load_seqs.2 = seqs st := by
  rw [load_seqs] at herr ⊢
  dsimp only at herr ⊢
  split at herr
  · rfl
  · simp at herr
  · split at herr
    · rfl
    · simp at herr

theorem told_of_loads {st : FileStore} (h : loads (st.fs.disk st.seqfile) = some (seqs st)) :
    Told st :=
  fun _ _ => h

theorem loads_replaced {fs : FileSystem} {p : Path} {s t : ℕ}
    (hdone : (replace_file p (seq_data s t) fs).1 = true) (hrange : SeqOp.InRange (s, t)) :
    loads ((replace_file p (seq_data s t) fs).2.disk p) = some (s, t) := by
  obtain ⟨hreplaced, -⟩ := replace_file_spec fs.disk fs.faults p (seq_data s t) fs ⟨rfl, rfl⟩
  rw [hreplaced.files _ (ne_tmp _), if_pos ⟨hdone, rfl⟩]
  exact parse_seqs_seq_data hrange.1.1 hrange.1.2 hrange.2.1 hrange.2.2

theorem replace_file_failed {fs : FileSystem} {p : Path} {data : Bytes}
    (hdone : (replace_file p data fs).1 = false) {q : Path} (hq : q ≠ p ++ tmp_ext) :
    (replace_file p data fs).2.disk q = fs.disk q := by
  obtain ⟨hreplaced, -⟩ := replace_file_spec fs.disk fs.faults p data fs ⟨rfl, rfl⟩
  rw [hreplaced.files q hq, hdone, if_neg (fun h => absurd h.1 (by simp))]

theorem Told.commit {st : FileStore} (h : Told st) (s t : ℕ) : Told (st.commit s t).2 := by
  rcases hdone : (replace_file st.seqfile (seq_data s t) st.fs).1 with _ | _
  · have hcommit : (st.commit s t).2 =
        { st with fs := (replace_file st.seqfile (seq_data s t) st.fs).2 } := by
      simp only [FileStore.commit, persist_seqs, hdone, store_result]
      rfl
    rw [hcommit]
    exact h.of_kept rfl rfl (replace_file_failed hdone (ne_tmp _)) id
  · intro _ hrange
    simp only [FileStore.commit, persist_seqs, hdone, store_result] at hrange ⊢
    exact loads_replaced hdone hrange

theorem Told.seq_op {st : FileStore} (h : Told st) (op : SeqOp) : Told (op.run st).2 := by
  rcases op.run_cases st with ⟨-, hsame⟩ | ⟨hsame, -⟩ | hcommit
  · rw [hsame]
    exact h
  · rw [hsame]
    exact h
  · rw [hcommit]
    exact h.commit _ _

theorem Named.told_reset {st : FileStore} (hn : Named sid st) (h : Told st) : Told st.reset.2 := by
  rw [reset]
  split
  · exact h
  dsimp only
  split
  · exact told_of_closed rfl
  split
  · exact told_of_closed rfl
  generalize (truncate st.infile (truncate st.outfile st.fs).2).2 = fs
  rcases hdone : (replace_file st.seqfile (seq_data 1 1) fs).1 with _ | _
  · simp only [persist_seqs, hdone, store_result]
    exact told_of_closed rfl
  · simp only [persist_seqs, hdone, store_result]
    apply told_of_loads
    have hkeep := open_streams_keeps { st with fs := (replace_file st.seqfile (seq_data 1 1) fs).2 }
      hn.seq_ne_out hn.seq_ne_in
    exact (congrArg loads hkeep).trans (loads_replaced hdone ⟨by decide, by decide⟩)

theorem Named.told_store_outbound {st : FileStore} (hn : Named sid st) (h : Told st) (seq : ℕ)
    (raw : Bytes) : Told (st.store_outbound seq raw).2 := by
  have hne := hn.seq_ne_out
  have hwrite := (touches_write_all (p := st.outfile) (log_record seq raw)).keeps hne st.fs
  have hsync := ((touches_fsync_path st.outfile).keeps hne
    (write_all st.outfile (log_record seq raw) st.fs).2).trans hwrite
  rw [store_outbound]
  split
  · exact h
  · rename_i hgood
    -- a stream that was written to was not closed
    have hstream : st.out_stream = .good := by
      simp only [Bool.or_eq_true, bne_iff_ne, not_or, not_not] at hgood
      exact hgood.2
    have hnot : ∀ {s : Stream}, st.out_stream = .closed → s = .closed := by
      intro s hclosed
      rw [hstream] at hclosed
      simp at hclosed
    dsimp only
    split
    · exact h.of_kept rfl rfl hwrite hnot
    · split
      · split
        · exact h.of_kept rfl rfl hsync hnot
        · exact h.of_kept rfl rfl hsync hnot
      · exact h.of_kept rfl rfl hwrite hnot

theorem Named.told_store_inbound {st : FileStore} (hn : Named sid st) (h : Told st) (seq : ℕ)
    (raw : Bytes) : Told (st.store_inbound seq raw).2 := by
  have hne := hn.seq_ne_in
  have hwrite := (touches_write_all (p := st.infile) (log_record seq raw)).keeps hne st.fs
  have hsync := ((touches_fsync_path st.infile).keeps hne
    (write_all st.infile (log_record seq raw) st.fs).2).trans hwrite
  rw [store_inbound]
  split
  · exact h
  · dsimp only
    split
    · exact h.of_kept rfl rfl hwrite id
    · split
      · exact h.of_kept rfl rfl hsync id
      · exact h.of_kept rfl rfl hwrite id

theorem Told.load_seqs {st : FileStore} (h : Told st) : Told st.load_seqs.2 := by
  have hnames := st.sameNames_load_seqs
  rcases hload : st.load_seqs.1 with e | _
  · have hstream : st.load_seqs.2.out_stream = st.out_stream := by
      rw [FileStore.load_seqs]
      dsimp only
      split
      · rfl
      · rfl
      · split <;> rfl
    exact h.of_kept hnames.1 (load_seqs_seqs hload) (by rw [load_seqs_disk])
      (fun hclosed => hstream.trans hclosed)
  · apply told_of_loads
    rw [load_seqs_disk, hnames.1]
    exact load_seqs_told hload

theorem Named.told_refresh {st : FileStore} (hn : Named sid st) (h : Told st) :
    Told st.refresh.2 := by
  have hnames := st.sameNames_load_seqs
  have hnames' := st.load_seqs.2.sameNames_rebuild_index
  have hne : st.load_seqs.2.seqfile ≠ st.load_seqs.2.outfile := by
    rw [hnames.1, hnames.2.1]
    exact hn.seq_ne_out
  have hne' : st.load_seqs.2.seqfile ≠ st.load_seqs.2.infile := by
    rw [hnames.1, hnames.2.2]
    exact hn.seq_ne_in
  obtain ⟨hseqs, hstream, -⟩ := st.load_seqs.2.rebuild_index_fields
  have hindexed : Told st.load_seqs.2.rebuild_index.2 :=
    h.load_seqs.of_kept hnames'.1 hseqs (rebuild_index_keeps _ hne) hstream.trans
  rw [refresh]
  dsimp only
  split
  · exact h.load_seqs
  · split
    · exact hindexed
    · refine Told.of_kept hindexed ?_ ?_ ?_ ?_
      · rfl
      · rfl
      · rw [hnames'.1]
        exact (reopen_keeps _ (hnames'.2.2 ▸ hne') _).trans (reopen_keeps _ (hnames'.2.1 ▸ hne) _)
      · intro hclosed
        dsimp only
        rw [hclosed]
        rfl

theorem told_open {opts : FileStoreOptions} {fs : FileSystem}
    (hok : (open_ dir sid opts fs).1 = .ok ()) : Told (open_ dir sid opts fs).2 := by
  unfold open_ at hok ⊢
  dsimp only at hok ⊢
  split at hok
  · simp at hok
  rename_i hmade
  rw [if_neg hmade]
  split at hok
  · simp at hok
  rename_i hmoved
  rw [if_neg hmoved]
  generalize hst : { blank sid opts fs with
    fs := (migrate_legacy_files dir sid (attempt (blank sid opts fs).fs).2).2 } = st at hok ⊢
  have hn : Named sid st := by
    rw [← hst]
    exact ⟨rfl, rfl, rfl⟩
  have hnames := st.sameNames_load_seqs
  have hnames' := st.load_seqs.2.sameNames_rebuild_index
  split at hok
  · simp at hok
  rename_i hload
  split at hok
  · simp at hok
  apply told_of_loads
  show loads (st.load_seqs.2.rebuild_index.2.open_streams.fs.disk
    st.load_seqs.2.rebuild_index.2.seqfile) = some (seqs st.load_seqs.2.rebuild_index.2)
  have hout : st.seqfile ≠ st.load_seqs.2.rebuild_index.2.outfile := by
    rw [hnames'.2.1, hnames.2.1]
    exact hn.seq_ne_out
  have hin : st.seqfile ≠ st.load_seqs.2.rebuild_index.2.infile := by
    rw [hnames'.2.2, hnames.2.2]
    exact hn.seq_ne_in
  have hout' : st.seqfile ≠ st.load_seqs.2.outfile := by
    rw [hnames.2.1]
    exact hn.seq_ne_out
  rw [hnames'.1, hnames.1, open_streams_keeps _ hout hin, rebuild_index_keeps _ hout',
    load_seqs_disk, load_seqs_told hload, (rebuild_index_fields _).1]

/-- **A store to which messages can be written**, or could be but for a failed stream, **has its
counters on disk.** -/
theorem Reachable.told {st : FileStore} (h : Reachable dir sid st) : Told st := by
  induction h with
  | opened h => exact told_open h
  | mutated m hreach ih =>
    cases m with
    | seq op => exact ih.seq_op op
    | reset => exact hreach.named.told_reset ih
  | stored_outbound seq raw hreach ih => exact hreach.named.told_store_outbound ih seq raw
  | stored_inbound seq raw hreach ih => exact hreach.named.told_store_inbound ih seq raw
  | read first last _ ih =>
    rw [get_messages]
    split
    · exact ih.of_kept rfl rfl rfl id
    · exact ih.of_kept rfl rfl rfl id
  | refreshed hreach ih => exact hreach.named.told_refresh ih
  | closed _ ih =>
    rw [close]
    split
    · exact ih
    · exact told_of_closed rfl

/-! ## Stores that differ in the temporary file -/

theorem in_ne_tmp (base : Path) : base ++ in_ext ≠ base ++ seq_ext ++ tmp_ext := by
  rw [List.append_assoc]
  exact append_ne base (by decide)

/-- The stores of one session that agree but for the temporary file and the history of their
file systems. -/
structure Twin (sid : SessionID) (st st' : FileStore) : Prop where
  named : Named sid st
  fields : st' = { st with fs := st'.fs }
  same : SameBut (seq_path sid ++ tmp_ext) st.fs st'.fs

theorem Named.seq_ne_tmp (h : Named sid st) : st.seqfile ≠ seq_path sid ++ tmp_ext := by
  rw [h.seqfile]
  exact ne_tmp _

theorem Named.out_ne_tmp (h : Named sid st) : st.outfile ≠ seq_path sid ++ tmp_ext := by
  rw [h.outfile]
  exact FixEngine.out_ne_tmp _

theorem Named.in_ne_tmp (h : Named sid st) : st.infile ≠ seq_path sid ++ tmp_ext := by
  rw [h.infile]
  exact FileStore.in_ne_tmp _

theorem Twin.with_faults (h : Twin sid st st') (faults : List (Option Fault)) :
    Twin sid (st.with_faults faults) (st'.with_faults faults) := by
  obtain ⟨hnamed, hfields, hsame⟩ := h
  refine ⟨⟨hnamed.seqfile, hnamed.outfile, hnamed.infile⟩, ?_, hsame.files, rfl⟩
  rw [hfields]
  rfl

theorem blind_read_all {p q : Path} (hq : q ≠ p) : Blind p (read_all q) := by
  apply blind_bind (blind_open_read hq)
  intro content
  rcases content with _ | data
  · exact blind_pure _
  · apply blind_bind blind_read_limit
    intro limit
    rcases limit with _ | k
    · exact blind_pure _
    · exact blind_pure _

theorem blind_reopen {p q : Path} (hq : q ≠ p) (stream : Stream) : Blind p (reopen stream q) := by
  intro fs fs' hsame
  rw [reopen, reopen]
  split
  · obtain ⟨hresult, hafter⟩ := blind_open_append hq fs fs' hsame
    refine ⟨?_, hafter⟩
    dsimp only
    rw [hresult]
  · exact ⟨rfl, hsame⟩

theorem blind_fsync_path {p q : Path} (hq : q ≠ p) : Blind p (fsync_path q) := by
  apply blind_bind blind_attempt
  intro ok
  rcases ok with _ | _
  · exact blind_pure _
  · exact blind_fsync hq

theorem Twin.load_seqs (h : Twin sid st st') :
    st'.load_seqs.1 = st.load_seqs.1 ∧ Twin sid st.load_seqs.2 st'.load_seqs.2 := by
  obtain ⟨hnames, hfields, hsame⟩ := h
  obtain ⟨hfound, hasked⟩ := blind_exists_file hnames.seq_ne_tmp _ _ hsame
  obtain ⟨hcontent, hread⟩ := blind_read_all hnames.seq_ne_tmp _ _ hasked
  rw [hfields]
  simp only [FileStore.load_seqs]
  rw [hfound, hcontent]
  rcases (exists_file st.seqfile st.fs).1 with _ | _ | _
  · exact ⟨rfl, ⟨hnames.1, hnames.2, hnames.3⟩, rfl, hasked⟩
  · exact ⟨rfl, ⟨hnames.1, hnames.2, hnames.3⟩, rfl, hasked⟩
  · dsimp only
    rcases ((read_all st.seqfile (exists_file st.seqfile st.fs).2).1.bind parse_seqs) with _ |
      ⟨s, t⟩
    · exact ⟨rfl, ⟨hnames.1, hnames.2, hnames.3⟩, rfl, hread⟩
    · exact ⟨rfl, ⟨hnames.1, hnames.2, hnames.3⟩, rfl, hread⟩

theorem Twin.rebuild_index (h : Twin sid st st') :
    st'.rebuild_index.1 = st.rebuild_index.1 ∧ Twin sid st.rebuild_index.2 st'.rebuild_index.2 := by
  obtain ⟨hnames, hfields, hsame⟩ := h
  obtain ⟨hcontent, hopened⟩ := blind_open_read hnames.out_ne_tmp _ _ hsame
  obtain ⟨hlimit, hread⟩ := blind_read_limit _ _ hopened
  rw [hfields]
  simp only [FileStore.rebuild_index]
  rw [hcontent, hlimit]
  rcases (open_read st.outfile st.fs).1 with _ | data
  · exact ⟨rfl, ⟨hnames.1, hnames.2, hnames.3⟩, rfl, hopened⟩
  · dsimp only
    rcases (read_limit (open_read st.outfile st.fs).2).1 with _ | k
    · dsimp only
      rcases rebuild_loop data [] 0 .empty with ⟨index, _ | last_good⟩
      · exact ⟨rfl, ⟨hnames.1, hnames.2, hnames.3⟩, rfl, hread⟩
      · obtain ⟨hcut, hafter⟩ := blind_resize_file hnames.out_ne_tmp last_good _ _ hread
        dsimp only
        rw [hcut]
        exact ⟨rfl, ⟨hnames.1, hnames.2, hnames.3⟩, rfl, hafter⟩
    · exact ⟨rfl, ⟨hnames.1, hnames.2, hnames.3⟩, rfl, hread⟩

theorem file_end_congr {p q : Path} (hq : q ≠ p) {fs fs' : FileSystem} (h : SameBut p fs fs') :
    file_end q fs' = file_end q fs := by
  rw [file_end, file_end, h.files q hq]

theorem Twin.refresh (h : Twin sid st st') : Twin sid st.refresh.2 st'.refresh.2 := by
  obtain ⟨hload, hloaded⟩ := h.load_seqs
  obtain ⟨hindex, hindexed⟩ := hloaded.rebuild_index
  simp only [FileStore.refresh]
  rw [hload]
  rcases st.load_seqs.1 with e | _
  · exact hloaded
  · dsimp only
    rw [hindex]
    rcases st.load_seqs.2.rebuild_index.1 with e | _
    · exact hindexed
    · -- the two streams, one after the other
      dsimp only
      generalize st.load_seqs.2.rebuild_index.2 = a at *
      generalize st'.load_seqs.2.rebuild_index.2 = b at *
      obtain ⟨hnames, hfields, hsame⟩ := hindexed
      rw [hfields]
      dsimp only
      obtain ⟨hout, hafter⟩ := blind_reopen hnames.out_ne_tmp a.out_stream _ _ hsame
      obtain ⟨hin, hlast⟩ := blind_reopen hnames.in_ne_tmp a.in_stream _ _ hafter
      rw [hout, hin, file_end_congr hnames.out_ne_tmp hafter]
      exact ⟨⟨hnames.1, hnames.2, hnames.3⟩, rfl, hlast⟩

theorem Twin.store_outbound (h : Twin sid st st') (seq : ℕ) (raw : Bytes) :
    (st'.store_outbound seq raw).1 = (st.store_outbound seq raw).1 := by
  obtain ⟨hnames, hfields, hsame⟩ := h
  obtain ⟨hwrite, hwritten⟩ := blind_write_all hnames.out_ne_tmp (log_record seq raw) _ _ hsame
  obtain ⟨hsync, -⟩ := blind_fsync_path hnames.out_ne_tmp _ _ hwritten
  rw [hfields]
  simp only [FileStore.store_outbound, hwrite, hsync]
  split
  · rfl
  · split
    · rfl
    · split
      · split <;> rfl
      · rfl

/-! ## What a mutation that failed must not have changed -/

/-- The store after refreshes, each with the outcomes of its calls of the file system. -/
def after_refreshes (st : FileStore) (scripts : List (List (Option Fault))) : FileStore :=
  scripts.foldl (fun st faults => (st.with_faults faults).refresh.2) st

/-- What a mutation that returned an error must not have changed: the counters, the numbers
that a reopen would load, the answers to `get_messages`, and that messages can be stored, at
once or after refreshes. -/
structure Unchanged (dir : Directory) (sid : SessionID) (st st' : FileStore) : Prop where
  counters : seqs st' = seqs st
  on_disk : loads (stored_file dir sid st'.fs.disk.files) =
    loads (stored_file dir sid st.fs.disk.files)
  messages : ∀ first last, ((st'.with_faults []).get_messages first last).1 =
    ((st.with_faults []).get_messages first last).1
  accepted : ∀ scripts faults seq raw,
    (((st.after_refreshes scripts).with_faults faults).store_outbound seq raw).1 = .ok () →
      (((st'.after_refreshes scripts).with_faults faults).store_outbound seq raw).1 = .ok ()

theorem Unchanged.refl (dir : Directory) (sid : SessionID) (st : FileStore) :
    Unchanged dir sid st st :=
  ⟨rfl, rfl, fun _ _ => rfl, fun _ _ _ _ h => h⟩

theorem get_messages_calm (st : FileStore) (first last : ℕ) :
    ((st.with_faults []).get_messages first last).1 =
      match st.fs.disk st.outfile with
      | none => .error .StoreError
      | some f =>
        .ok (read_records f.data none
          (st.out_index.range first (walk_end last st.out_index)) true) := by
  rcases st with ⟨seqfile, outfile, infile, opts, s₀, t₀, out, pos, inb, index, closed, ⟨d, tr, fl⟩⟩
  rcases hfile : d outfile with _ | f
  · simp [get_messages, FileStore.with_faults, hfile]
  · simp [get_messages, FileStore.with_faults, hfile]

theorem Twin.after_refreshes
    (h : ∀ faults, Twin sid (st.with_faults faults) (st'.with_faults faults))
    (scripts : List (List (Option Fault))) (faults : List (Option Fault)) :
    Twin sid ((st.after_refreshes scripts).with_faults faults)
      ((st'.after_refreshes scripts).with_faults faults) := by
  induction scripts generalizing st st' with
  | nil => exact h faults
  | cons script scripts ih => exact ih fun faults => ((h script).refresh).with_faults faults

theorem unchanged_of_twins
    (h : ∀ faults, Twin sid (st.with_faults faults) (st'.with_faults faults)) :
    Unchanged dir sid st st' := by
  obtain ⟨hnamed, hfields, hsame⟩ := h []
  have hfiles : ∀ q, q ≠ seq_path sid ++ tmp_ext → st'.fs.disk q = st.fs.disk q := hsame.files
  have hindex : st'.out_index = st.out_index :=
    show (st'.with_faults []).out_index = _ from hfields ▸ rfl
  have hout : st'.outfile = st.outfile := show (st'.with_faults []).outfile = _ from hfields ▸ rfl
  have hlog : st.outfile ≠ seq_path sid ++ tmp_ext := hnamed.out_ne_tmp
  refine ⟨show seqs (st'.with_faults []) = _ from hfields ▸ rfl, ?_, ?_, ?_⟩
  · apply congrArg loads
    apply stored_file_congr
    rintro p hp
    apply hfiles
    rintro rfl
    exact not_isSeq_tmp _ hp
  · intro first last
    rw [get_messages_calm, get_messages_calm, hindex, hout, hfiles _ hlog]
  · intro scripts faults seq raw hok
    rw [(Twin.after_refreshes h scripts faults).store_outbound]
    exact hok

/-- **A counter mutation that fails has changed nothing.** -/
theorem Named.seq_op_unchanged (h : Named sid st) {op : SeqOp} {e : ErrorCode}
    (herr : (op.run st).1 = .error e) : Unchanged dir sid st (op.run st).2 := by
  rcases op.run_cases st with ⟨-, hsame⟩ | ⟨hsame, -⟩ | hcommit
  · rw [hsame]
    exact .refl dir sid st
  · rw [hsame] at herr
    simp at herr
  · rw [hcommit] at herr ⊢
    generalize (op.after (seqs st)).1 = s at herr ⊢
    generalize (op.after (seqs st)).2 = t at herr ⊢
    rcases hdone : (replace_file st.seqfile (seq_data s t) st.fs).1 with _ | _
    · have hcommit : (st.commit s t).2 =
          { st with fs := (replace_file st.seqfile (seq_data s t) st.fs).2 } := by
        simp only [FileStore.commit, persist_seqs, hdone, store_result]
        rfl
      rw [hcommit]
      apply unchanged_of_twins
      intro faults
      refine ⟨⟨h.seqfile, h.outfile, h.infile⟩, rfl, ?_, rfl⟩
      intro q hq
      rw [← h.seqfile] at hq
      exact replace_file_failed hdone hq
    · have hok : (st.commit s t).1 = .ok () := by
        simp only [FileStore.commit, persist_seqs, hdone, store_result]
        rfl
      rw [hok] at herr
      simp at herr

/-! ## A reset that fails -/

theorem resize_file_keeps (p : Path) (n : ℕ) (fs : FileSystem) :
    Agree p fs.disk (resize_file p n fs).2.disk ∧
      ((resize_file p n fs).2.disk p).isSome = (fs.disk p).isSome := by
  rw [resize_file, call]
  dsimp only
  split
  · refine ⟨(Agree.refl p fs.disk).write _, ?_⟩
    show ((fs.disk.write p ((fs.disk p).map fun f => f.resize n)) p).isSome = _
    rw [Disk.write_self, Option.isSome_map]
  · exact ⟨Agree.refl _ _, rfl⟩

theorem truncate_keeps (p : Path) (fs : FileSystem) :
    Agree p fs.disk (truncate p fs).2.disk ∧
      ((truncate p fs).2.disk p).isSome = (fs.disk p).isSome := by
  have hdisk : (exists_file p fs).2.disk = fs.disk := rfl
  rw [truncate, bind_apply]
  rcases (exists_file p fs).1 with _ | _ | _
  · exact ⟨Agree.refl _ _, rfl⟩
  · exact ⟨Agree.refl _ _, rfl⟩
  · rw [← hdisk]
    exact resize_file_keeps p 0 (exists_file p fs).2

/-- The calls that a truncation makes: it asks for the file, and cuts one that is there. -/
def truncate_calls (p : Path) (d : Disk) : ℕ := if (d p).isSome then 2 else 1

theorem truncate_ok_iff (p : Path) (fs : FileSystem) :
    ((truncate p fs).1 = true ↔ Clear (truncate_calls p fs.disk) fs.faults) ∧
      ((truncate p fs).1 = true →
        (truncate p fs).2.faults = fs.faults.drop (truncate_calls p fs.disk)) := by
  rcases fs with ⟨d, tr, fl⟩
  dsimp only
  rw [truncate_calls]
  rcases hasked : fl.head?.join with _ | k
  · rcases hfile : d p with _ | f
    · simp [truncate, exists_file, call_of_outcome _ _ _ hasked, hfile, clear_succ,
        clear_zero, hasked]
    · rw [if_pos (by rfl), clear_succ, clear_succ, truncate, bind_apply, exists_file,
        call_of_outcome _ _ _ hasked, hfile]
      show ((resize_file p 0 ⟨d, d :: tr, fl.tail⟩).1 = true ↔ _) ∧
        ((resize_file p 0 ⟨d, d :: tr, fl.tail⟩).1 = true → fl.tail.tail = _)
      rw [resize_file_result (by rw [hfile]; rfl)]
      refine ⟨?_, fun _ => ?_⟩
      · simp [hasked, clear_zero]
      · rw [← List.drop_one, ← List.drop_one, List.drop_drop]
  · have hfailed : (truncate p ⟨d, tr, fl⟩).1 = false := by
      simp [truncate, exists_file, call_of_outcome _ _ _ hasked]
    have hnot : ∀ n, ¬Clear (n + 1) fl := by
      intro n hclear
      rw [((clear_succ n fl).mp hclear).1] at hasked
      simp at hasked
    rw [hfailed]
    refine ⟨⟨fun h => absurd h (by simp), fun hclear => ?_⟩, fun h => absurd h (by simp)⟩
    split at hclear
    · exact absurd hclear (hnot 1)
    · exact absurd hclear (hnot 0)

theorem replace_file_ok_iff (p : Path) (data : Bytes) (fs : FileSystem) :
    (replace_file p data fs).1 = true ↔ Clear 5 fs.faults := by
  rw [replace_file]
  refine guarded_ok_iff 4 (update_result _ fs) rfl (fun _ => rfl) ?_
  refine guarded_ok_iff 3 rfl rfl (fun _ => rfl) ?_
  refine guarded_ok_iff 2 (update_result _ _) rfl (fun _ => rfl) ?_
  refine guarded_ok_iff 1 rfl rfl (fun _ => rfl) ?_
  refine guarded_ok_iff 0 ?_ rfl (fun _ => rfl) ?_
  · -- the file that was written and synced is there
    apply rename_result
    exact (fsync_isSome _ _).trans (write_all_isSome _ _ _)
  · exact ⟨fun _ => clear_zero _, fun _ => rfl⟩

/-- The calls of the file system whose failure `reset` returns: those of the two logs, and the
five that put a new sequence file in place. -/
def reset_calls (st : FileStore) : ℕ :=
  truncate_calls st.outfile st.fs.disk + (truncate_calls st.infile st.fs.disk + 5)

theorem reset_ok_parts (hopen : st.closed = false) :
    st.reset.1 = .ok () ↔ (truncate st.outfile st.fs).1 = true ∧
      (truncate st.infile (truncate st.outfile st.fs).2).1 = true ∧
      (replace_file st.seqfile (seq_data 1 1)
        (truncate st.infile (truncate st.outfile st.fs).2).2).1 = true := by
  rw [reset, if_neg (by rw [hopen]; exact Bool.false_ne_true)]
  dsimp only
  rcases (truncate st.outfile st.fs).1 with _ | _
  · simp
  · rcases (truncate st.infile (truncate st.outfile st.fs).2).1 with _ | _
    · simp
    · rcases hdone : (replace_file st.seqfile (seq_data 1 1)
          (truncate st.infile (truncate st.outfile st.fs).2).2).1 with _ | _
      · simp [persist_seqs, hdone, store_result]
      · simp [persist_seqs, hdone, store_result]

/-- **A reset succeeds exactly if its calls do.** -/
theorem Named.reset_ok_iff (h : Named sid st) (hopen : st.closed = false) :
    st.reset.1 = .ok () ↔ Clear (reset_calls st) st.fs.faults := by
  have hin : st.infile ≠ st.outfile := by
    rw [h.outfile, h.infile]
    exact (out_ne_in _).symm
  obtain ⟨hfirst, hused⟩ := truncate_ok_iff st.outfile st.fs
  obtain ⟨hsecond, hused'⟩ := truncate_ok_iff st.infile (truncate st.outfile st.fs).2
  have hcalls : truncate_calls st.infile (truncate st.outfile st.fs).2.disk =
      truncate_calls st.infile st.fs.disk := by
    rw [truncate_calls, truncate_calls, (truncate_keeps st.outfile st.fs).1.files _ hin]
  rw [hcalls] at hsecond hused'
  rw [reset_ok_parts hopen, replace_file_ok_iff, reset_calls, clear_add, clear_add, hfirst]
  -- each part starts where the one before has ended
  apply and_congr_right
  intro hclear
  rw [hused (hfirst.mpr hclear)] at hsecond hused'
  rw [hsecond]
  apply and_congr_right
  intro hclear'
  rw [hused' (hsecond.mpr hclear')]

/-- What is left by a reset that failed: the memory of a new store, no open stream, and
the old sequence file. -/
structure HalfReset (st st' : FileStore) : Prop where
  counters : seqs st' = (1, 1)
  index : st'.out_index = .empty
  stream : st'.out_stream = .closed
  outfile : st'.outfile = st.outfile
  log : (st'.fs.disk st.outfile).isSome = (st.fs.disk st.outfile).isSome
  others : ∀ q, q ≠ st.outfile → q ≠ st.infile → q ≠ st.seqfile ++ tmp_ext →
    st'.fs.disk q = st.fs.disk q

/-- **A reset that fails leaves half of it done.** The counters, the index and the streams are
those of a new store, and the sequence file is the old one. -/
theorem Named.half_reset (h : Named sid st) (hopen : st.closed = false) {e : ErrorCode}
    (herr : st.reset.1 = .error e) : HalfReset st st.reset.2 := by
  have hin : st.outfile ≠ st.infile := by
    rw [h.outfile, h.infile]
    exact out_ne_in _
  have htmp : st.outfile ≠ st.seqfile ++ tmp_ext := by
    rw [h.seqfile]
    exact h.out_ne_tmp
  obtain ⟨hagree₁, hlog₁⟩ := truncate_keeps st.outfile st.fs
  obtain ⟨hagree₂, -⟩ := truncate_keeps st.infile (truncate st.outfile st.fs).2
  unfold reset at herr ⊢
  rw [if_neg (by rw [hopen]; exact Bool.false_ne_true)] at herr ⊢
  dsimp only at herr ⊢
  split at herr
  · rename_i hfail
    rw [if_pos hfail]
    exact ⟨rfl, rfl, rfl, rfl, hlog₁, fun q hq _ _ => hagree₁.files q hq⟩
  rename_i hcut
  rw [if_neg hcut]
  have hlog₂ : ((truncate st.infile (truncate st.outfile st.fs).2).2.disk st.outfile).isSome =
      (st.fs.disk st.outfile).isSome := by
    rw [hagree₂.files _ hin, hlog₁]
  have hothers : ∀ q, q ≠ st.outfile → q ≠ st.infile →
      (truncate st.infile (truncate st.outfile st.fs).2).2.disk q = st.fs.disk q :=
    fun q hout hinb => (hagree₂.files q hinb).trans (hagree₁.files q hout)
  split at herr
  · rename_i hfail
    rw [if_pos hfail]
    exact ⟨rfl, rfl, rfl, rfl, hlog₂, fun q hout hinb _ => hothers q hout hinb⟩
  rename_i hcut₂
  rw [if_neg hcut₂]
  -- both logs are cut, and the new sequence file could not be put in place
  generalize (truncate st.infile (truncate st.outfile st.fs).2).2 = fs at *
  rcases hdone : (replace_file st.seqfile (seq_data 1 1) fs).1 with _ | _
  · simp only [persist_seqs, hdone, store_result]
    refine ⟨rfl, rfl, rfl, rfl, ?_, ?_⟩
    · show ((replace_file st.seqfile (seq_data 1 1) fs).2.disk st.outfile).isSome = _
      rw [replace_file_failed hdone htmp, hlog₂]
    · intro q hout hinb hq
      exact (replace_file_failed hdone hq).trans (hothers q hout hinb)
  · simp only [persist_seqs, hdone, store_result] at herr
    simp at herr

theorem HalfReset.messages (h : HalfReset st st') (first last : ℕ) :
    ((st'.with_faults []).get_messages first last).1 =
      if (st.fs.disk st.outfile).isSome then .ok [] else .error .StoreError := by
  rw [get_messages_calm, h.index, h.outfile, ← h.log]
  rcases st'.fs.disk st.outfile with _ | f
  · rfl
  · rfl

/-! ## Streams that a refresh reopens -/

theorem refresh_closed (h : st.out_stream = .closed) : st.refresh.2.out_stream = .closed := by
  have hload : st.load_seqs.2.out_stream = .closed := by
    rw [load_seqs]
    dsimp only
    split
    · exact h
    · exact h
    · split <;> exact h
  have hindex := (st.load_seqs.2.rebuild_index_fields).2.1.trans hload
  rw [refresh]
  dsimp only
  split
  · exact hload
  · split
    · exact hindex
    · dsimp only
      rw [hindex]
      rfl

theorem after_refreshes_closed (h : st.out_stream = .closed)
    (scripts : List (List (Option Fault))) :
    (st.after_refreshes scripts).out_stream = .closed := by
  induction scripts generalizing st with
  | nil => exact h
  | cons script scripts ih =>
    apply ih
    have hclosed : (st.with_faults script).out_stream = .closed := h
    exact refresh_closed hclosed

theorem store_outbound_refused (h : st.out_stream = .closed) (seq : ℕ) (raw : Bytes) :
    (st.store_outbound seq raw).1 = .error .StoreError := by
  rw [store_outbound, if_pos]
  rw [h]
  simp

theorem store_outbound_taken (hopen : st.closed = false) (hgood : st.out_stream = .good) (seq : ℕ)
    (raw : Bytes) : ((st.with_faults []).store_outbound seq raw).1 = .ok () := by
  rcases st with ⟨seqfile, outfile, infile, opts, s₀, t₀, out, pos, inb, index, closed, ⟨d, tr, fl⟩⟩
  dsimp only at hopen hgood
  subst hopen hgood
  rcases hsync : opts.fsync_messages with _ | _
  · simp [store_outbound, FileStore.with_faults, hsync]
  · simp [store_outbound, FileStore.with_faults, hsync, fsync_path]

/-- **A refresh without a fault reopens a stream that had failed**, if the counters can be read. -/
theorem refresh_reopens {s t : ℕ} (hload : loads (st.fs.disk st.seqfile) = some (s, t))
    (hopen : st.closed = false) (hfailed : st.out_stream = .failed) :
    (st.with_faults []).refresh.2.closed = false ∧
      (st.with_faults []).refresh.2.out_stream = .good := by
  obtain ⟨fs₁, hloaded, hq₁, -⟩ := load_seqs_quiet (st.with_faults []) rfl hload
  obtain ⟨index, fs₂, hindexed, hq₂, -⟩ := rebuild_index_quiet
    { (st.with_faults []) with sender_seq := s, target_seq := t, fs := fs₁ } hq₁
  rcases fs₂ with ⟨d, tr, fl⟩
  obtain rfl : fl = [] := hq₂
  rw [refresh, hloaded]
  dsimp only
  rw [hindexed]
  refine ⟨hopen, ?_⟩
  show (reopen st.out_stream st.outfile ⟨d, tr, []⟩).1 = .good
  rw [hfailed, reopen, if_pos rfl, open_append_quiet]
  rfl

/-! ## Atomicity -/

/-- A store in which a reset has nothing to lose: both counters are 1, `get_messages`
finds nothing and the outbound log is closed. -/
structure Emptied (st : FileStore) : Prop where
  counters : seqs st = (1, 1)
  messages : ∀ first last msgs, ((st.with_faults []).get_messages first last).1 = .ok msgs →
    msgs = []
  stream : st.out_stream = .closed

theorem HalfReset.stream_closed (h : HalfReset st st') (hreach : Reachable dir sid st)
    (hopen : st.closed = false) (hsame : Unchanged dir sid st st') : st.out_stream = .closed := by
  have hrefused : ∀ scripts, (((st.after_refreshes scripts).with_faults []).store_outbound 1 []).1 ≠
      .ok () := by
    intro scripts hok
    have htaken := hsame.accepted scripts [] 1 [] hok
    have hclosed : ((st'.after_refreshes scripts).with_faults []).out_stream = .closed :=
      after_refreshes_closed h.stream scripts
    rw [store_outbound_refused hclosed] at htaken
    simp at htaken
  have hone : seqs st = (1, 1) := hsame.counters.symm.trans h.counters
  rcases hstream : st.out_stream with _ | _ | _
  · rfl
  · exact absurd (store_outbound_taken hopen hstream 1 []) (hrefused [])
  · -- the refresh that would have brought the stream back
    have hrange : SeqOp.InRange (seqs st) := by
      rw [hone]
      exact ⟨by decide, by decide⟩
    have hload := hreach.told (by rw [hstream]; simp) hrange
    obtain ⟨hopen', hgood⟩ := refresh_reopens hload hopen hstream
    exact absurd (store_outbound_taken hopen' hgood 1 []) (hrefused [[]])

/-- **A reset that failed is harmless exactly where there was nothing to lose.** -/
theorem Reachable.reset_unchanged_iff (hreach : Reachable dir sid st) (hopen : st.closed = false)
    {e : ErrorCode} (herr : st.reset.1 = .error e) :
    Unchanged dir sid st st.reset.2 ↔ Emptied st := by
  have hnamed := hreach.named
  have hhalf := hnamed.half_reset hopen herr
  constructor
  · intro hsame
    refine ⟨hsame.counters.symm.trans hhalf.counters, ?_, hhalf.stream_closed hreach hopen hsame⟩
    intro first last msgs hmsgs
    have hafter := hhalf.messages first last
    rw [hsame.messages, hmsgs] at hafter
    split at hafter
    · exact Except.ok.inj hafter
    · simp at hafter
  · intro hempty
    refine ⟨hhalf.counters.trans hempty.counters.symm, ?_, ?_, ?_⟩
    · -- neither name of the sequence file is a log or the temporary file
      apply congrArg loads
      apply stored_file_congr
      rintro p hp
      apply hhalf.others
      · rintro rfl
        rw [hnamed.outfile] at hp
        exact not_isSeq_out _ hp
      · rintro rfl
        rw [hnamed.infile] at hp
        exact not_isSeq_in _ hp
      · rintro rfl
        exact not_isSeq_tmp _ hp
    · intro first last
      rw [hhalf.messages]
      have hbefore := hempty.messages first last
      rw [get_messages_calm] at hbefore ⊢
      rcases hlog : st.fs.disk st.outfile with _ | f
      · rfl
      · rw [hlog] at hbefore
        dsimp only
        rw [hbefore _ rfl]
        rfl
    · intro scripts faults seq raw hok
      have hclosed : ((st.after_refreshes scripts).with_faults faults).out_stream = .closed :=
        after_refreshes_closed hempty.stream scripts
      rw [store_outbound_refused hclosed] at hok
      simp at hok

/-- **Mutations are atomic on error, but for a reset that has something to lose.** -/
theorem mutation_atomic_iff (hreach : Reachable dir sid st) (hopen : st.closed = false)
    (m : Mutation) :
    (∀ e, (m.run st).1 = .error e → Unchanged dir sid st (m.run st).2) ↔
      (m = .reset → Clear (reset_calls st) st.fs.faults ∨ Emptied st) := by
  have hnamed := hreach.named
  cases m with
  | seq op =>
    constructor
    · exact fun _ hreset => absurd hreset (by simp)
    · exact fun _ e herr => hnamed.seq_op_unchanged herr
  | reset =>
    rw [← hnamed.reset_ok_iff hopen]
    constructor
    · intro hatomic _
      rcases hreset : st.reset.1 with e | _
      · exact .inr ((hreach.reset_unchanged_iff hopen hreset).mp (hatomic e hreset))
      · exact .inl rfl
    · intro hcond e herr
      rcases hcond rfl with hok | hempty
      · exact absurd (hok.symm.trans herr) (fun h => absurd h (by simp))
      · exact (hreach.reset_unchanged_iff hopen herr).mpr hempty

/-- A new store on an empty disk, on which the seven calls of the constructor succeed and
the calls after them go as `faults` says. -/
def opened_before (faults : List (Option Fault)) : FileStore :=
  (open_ .plain plain_sid ⟨false⟩ ⟨⟨fun _ => none, []⟩, [], List.replicate 7 none ++ faults⟩).2

/-- The claim of a number fails at its first call, and nothing has changed. -/
theorem mutation_atomic_claim :
    (SeqOp.run (opened_before [some 0]) .next_sender_incr).1 = .error .StoreError ∧
      Unchanged .plain plain_sid (opened_before [some 0])
        (SeqOp.run (opened_before [some 0]) .next_sender_incr).2 := by
  have herr : (SeqOp.run (opened_before [some 0]) .next_sender_incr).1 = .error .StoreError := by
    decide
  have hreach : Reachable .plain plain_sid (opened_before [some 0]) := .opened (by decide)
  have hopen : (opened_before [some 0]).closed = false := by decide
  exact ⟨herr, (mutation_atomic_iff hreach hopen (.seq .next_sender_incr)).mpr (by simp) _ herr⟩

/-- A store that has claimed one number, whose next call of the file system fails. -/
def reset_victim : FileStore :=
  (SeqOp.run (opened_before (List.replicate 6 none ++ [some 0])) .next_sender_incr).2

/-- **A reset that fails at its first call** has set both counters to 1 while the disk still
has NextSender 2, and messages that could be stored before it are refused after it. -/
theorem failed_reset_loses_counters :
    Reachable .plain plain_sid reset_victim ∧ reset_victim.closed = false ∧
      reset_victim.reset.1 = .error .StoreError ∧
      seqs reset_victim = (2, 1) ∧ seqs reset_victim.reset.2 = (1, 1) ∧
      loads (stored_file .plain plain_sid reset_victim.reset.2.fs.disk.files) = some (2, 1) ∧
      ((reset_victim.with_faults []).store_outbound 1 []).1 = .ok () ∧
      ((reset_victim.reset.2.with_faults []).store_outbound 1 []).1 = .error .StoreError ∧
      ¬Unchanged .plain plain_sid reset_victim reset_victim.reset.2 := by
  have hbefore : seqs reset_victim = (2, 1) := by decide
  have hafter : seqs reset_victim.reset.2 = (1, 1) := by decide
  refine ⟨.mutated (.seq .next_sender_incr) (.opened (by decide)), by decide,
    by decide, hbefore, hafter, by decide, by decide, by decide, ?_⟩
  intro hsame
  have hcounters := hsame.counters
  rw [hbefore, hafter] at hcounters
  simp at hcounters

end FileStore

end FixEngine
