/-
`FileStoreContents.lean` -- a frame that the file store has taken is there to be read.

`store_outbound` enters the offset of its stream into the index, and `get_messages`
reads the line that starts there. That is the record just written if the stream
stood at the end of its file. It does when the store has been opened, and whatever
fails in the operations of the send path, a stream that can still be written to
stays there. (A `refresh()` that cuts a torn line away is what leaves a stream
beyond the end; see `LogRepair.lean`.) So a session over a file store hands over
no frame that the store does not hold.

What is read is the frame up to its first line feed, since the log is read by lines.
-/
import FixEngine.LogRepair
import FixEngine.Numbering

set_option autoImplicit false

namespace FixEngine.FileStore

open Storage IMessageStore

/-- The names are those of a session, and the outbound stream, if it can be written to,
stands at the end of its file. -/
structure Ready (st : FileStore) : Prop where
  named : ∃ sid, Named sid st
  at_end : st.out_stream = .good → ∃ f, st.fs.disk st.outfile = some f ∧ st.out_pos = f.data.length

variable {st : FileStore}

theorem Ready.of_stopped (hnamed : ∃ sid, Named sid st) (hstream : st.out_stream ≠ .good) :
    Ready st :=
  ⟨hnamed, fun hgood => absurd hgood hstream⟩

/-! ## What keeps a store ready -/

theorem keeps_replace_file {p q : Path} (data : Bytes) (hq : q ≠ p) (htmp : q ≠ p ++ tmp_ext) :
    Keeps q (replace_file p data) := by
  intro fs
  obtain ⟨hreplaced, -⟩ := replace_file_spec fs.disk fs.faults p data fs ⟨rfl, rfl⟩
  rw [hreplaced.files q htmp, if_neg fun h => hq h.2]

theorem Ready.commit (h : Ready st) (s t : ℕ) : Ready (st.commit s t).2 := by
  obtain ⟨sid, hnamed⟩ := h.named
  have hkeep : (replace_file st.seqfile (seq_data s t) st.fs).2.disk st.outfile =
      st.fs.disk st.outfile := by
    apply keeps_replace_file
    · rw [hnamed.outfile, hnamed.seqfile]
      exact (seq_ne_any_out _ _).symm
    · rw [hnamed.seqfile]
      exact hnamed.out_ne_tmp
  have hend : st.out_stream = .good → ∃ f,
      (replace_file st.seqfile (seq_data s t) st.fs).2.disk st.outfile = some f ∧
        st.out_pos = f.data.length := by
    rw [hkeep]
    exact h.at_end
  have hnames := st.sameNames_commit s t
  refine ⟨⟨sid, hnamed.of_same hnames⟩, ?_⟩
  rw [FileStore.commit]
  dsimp only
  split
  · exact hend
  · exact hend

theorem ready_open_streams (hnamed : ∃ sid, Named sid st) : Ready st.open_streams := by
  obtain ⟨sid, hnamed⟩ := hnamed
  have hne : st.outfile ≠ st.infile := by
    rw [hnamed.outfile, hnamed.infile]
    exact out_ne_in _
  refine ⟨⟨sid, hnamed.of_same ⟨rfl, rfl, rfl⟩⟩, fun hgood => ?_⟩
  have hopened : (open_append st.outfile st.fs).1 = true := by
    rcases hok : (open_append st.outfile st.fs).1 with _ | _
    · have hclosed : st.open_streams.out_stream = .closed := by
        show opened (open_append st.outfile st.fs).1 = .closed
        rw [hok]
        rfl
      rw [hclosed] at hgood
      simp at hgood
    · rfl
  obtain ⟨f, hf⟩ : ∃ f, (open_append st.outfile st.fs).2.disk st.outfile = some f := by
    rcases hfault : st.fs.faults.head?.join with _ | k
    · exact ⟨(st.fs.disk st.outfile).getD File.new, by simp [open_append, update, call, hfault]⟩
    · simp [open_append, update, call, hfault] at hopened
  refine ⟨f, (keeps_open_append hne _).trans hf, ?_⟩
  show file_end st.outfile (open_append st.outfile st.fs).2 = f.data.length
  rw [file_end, hf]
  rfl

theorem opened_streams {dir : Directory} {sid : SessionID} {opts : FileStoreOptions}
    {fs : FileSystem} (hok : (open_ dir sid opts fs).1 = .ok ()) :
    ∃ st, Named sid st ∧ (open_ dir sid opts fs).2 = st.open_streams := by
  unfold open_ at hok ⊢
  dsimp only at hok ⊢
  split at hok
  · simp at hok
  rename_i hmade
  rw [if_neg hmade]
  split at hok
  · simp at hok
  rename_i hmoved
  rw [if_neg hmoved]
  generalize hst : { blank sid opts fs with
    fs := (migrate_legacy_files dir sid (attempt (blank sid opts fs).fs).2).2 } = st at hok ⊢
  have hnamed : Named sid st := by
    rw [← hst]
    exact ⟨rfl, rfl, rfl⟩
  have hload := st.sameNames_load_seqs
  have hindex := st.load_seqs.2.sameNames_rebuild_index
  split at hok
  · simp at hok
  split at hok
  · simp at hok
  exact ⟨st.load_seqs.2.rebuild_index.2, (hnamed.of_same hload).of_same hindex, rfl⟩

/-- **A store that has just been opened is ready.** -/
theorem ready_open {dir : Directory} {sid : SessionID} {opts : FileStoreOptions} {fs : FileSystem}
    (hok : (open_ dir sid opts fs).1 = .ok ()) : Ready (open_ dir sid opts fs).2 := by
  obtain ⟨st, hnamed, hopened⟩ := opened_streams hok
  rw [hopened]
  exact ready_open_streams ⟨sid, hnamed⟩

theorem file_end_written {p : Path} {bytes : Bytes} {fs : FileSystem} {f : File}
    (hf : fs.disk p = some f) (hok : (write_all p bytes fs).1 = true) :
    file_end p (write_all p bytes fs).2 = (f.append bytes).data.length := by
  rw [file_end, write_all_ok hf hok]
  rfl

theorem Ready.store_outbound (h : Ready st) (n : ℕ) (raw : Bytes) :
    Ready (st.store_outbound n raw).2 := by
  obtain ⟨sid, hnamed⟩ := h.named
  rw [FileStore.store_outbound]
  split
  · exact h
  rename_i hstream
  have hgood : st.closed = false ∧ st.out_stream = .good := by simpa using hstream
  obtain ⟨f, hf, -⟩ := h.at_end hgood.2
  dsimp only
  split
  · exact .of_stopped ⟨sid, hnamed.of_same ⟨rfl, rfl, rfl⟩⟩ (by simp)
  rename_i hwritten
  have hok : (write_all st.outfile (log_record n raw) st.fs).1 = true := by simpa using hwritten
  have hend := file_end_written hf hok
  -- the sync changes no bytes, so the offset stays right whatever it returns
  have hsynced : ∃ f', (fsync_path st.outfile
      (write_all st.outfile (log_record n raw) st.fs).2).2.disk st.outfile = some f' ∧
        file_end st.outfile (write_all st.outfile (log_record n raw) st.fs).2 = f'.data.length := by
    have hdata := fsync_path_data st.outfile (write_all st.outfile (log_record n raw) st.fs).2
    rw [write_all_ok hf hok, Option.map_some] at hdata
    obtain ⟨f', hf', hdata'⟩ := Option.map_eq_some_iff.mp hdata
    exact ⟨f', hf', by rw [hend, hdata']⟩
  split
  · split
    · exact ⟨⟨sid, hnamed.of_same ⟨rfl, rfl, rfl⟩⟩, fun _ => hsynced⟩
    · exact ⟨⟨sid, hnamed.of_same ⟨rfl, rfl, rfl⟩⟩, fun _ => hsynced⟩
  · exact ⟨⟨sid, hnamed.of_same ⟨rfl, rfl, rfl⟩⟩,
      fun _ => ⟨_, write_all_ok hf hok, hend⟩⟩

theorem Ready.reset (h : Ready st) : Ready st.reset.2 := by
  obtain ⟨sid, hnamed⟩ := h.named
  rw [FileStore.reset]
  split
  · exact h
  dsimp only
  split
  · exact .of_stopped ⟨sid, hnamed.of_same ⟨rfl, rfl, rfl⟩⟩ (by simp)
  split
  · exact .of_stopped ⟨sid, hnamed.of_same ⟨rfl, rfl, rfl⟩⟩ (by simp)
  split
  · exact .of_stopped ⟨sid, hnamed.of_same ⟨rfl, rfl, rfl⟩⟩ (by simp [persist_seqs])
  · exact ready_open_streams ⟨sid, hnamed.of_same ⟨rfl, rfl, rfl⟩⟩

/-! ## Reading a frame back -/

/-- **A frame that was taken is held**, up to its first line feed. -/
theorem Ready.held_store_outbound (h : Ready st) {n : ℕ} {raw : Bytes}
    (hok : (st.store_outbound n raw).1 = .ok ()) :
    held n (st.store_outbound n raw).2 = some (raw.takeWhile (· != LF)) := by
  obtain ⟨f, hf, hpos⟩ := h.at_end (store_outbound_good hok).2
  obtain ⟨hindex, hname, f', hf', hdata⟩ := store_outbound_ok hf hok
  have hquiet : ((st.store_outbound n raw).2.with_faults []).fs.faults = [] := rfl
  have hread := get_messages_quiet hquiet (hname ▸ hf') n n
  -- the walk starts with the new entry, and the record stands where it points
  obtain ⟨more, hwalk⟩ := range_walk_end_insert n st.out_pos st.out_index
  have hrecord : f'.data.drop st.out_pos = log_record n raw ++ [] := by
    rw [hdata, hpos, List.drop_left, List.append_nil]
  rw [show ((st.store_outbound n raw).2.with_faults []).out_index = _ from hindex, hwalk,
    read_records_cons hrecord] at hread
  rw [held, show (IMessageStore.get_messages n n (calm (st.store_outbound n raw).2)).1 =
    _ from hread]
  exact List.lookup_cons_self

instance : StoreContents FileStore where
  Fit := Ready
  read_back raw := raw.takeWhile (· != LF)
  read_back_line _ hraw := List.takeWhile_eq_self_iff.mpr (all_ne_of_not_mem hraw)
  held_store_outbound _ _ _ h hok := h.held_store_outbound hok
  fit_store_outbound n raw _ h := h.store_outbound n raw
  fit_next_sender_seq_num_incr st h := by
    show Ready (next_sender_seq_num_incr st).2
    rw [next_sender_seq_num_incr]
    split
    · exact h
    · exact h.commit _ _
  fit_set_next_sender_seq_num n st h := by
    show Ready (set_next_sender_seq_num n st).2
    rw [set_next_sender_seq_num]
    split
    · exact h
    · exact h.commit _ _
  fit_reset _ h := h.reset

end FixEngine.FileStore

namespace FixEngine.Session

/-- **A session on a file store that was opened hands over no frame that the store does not
hold**, up to its first line feed, under the number of the frame. -/
theorem opened_store_holds_frames {s₀ s : Session FileStore} {dir : Directory} {sid : SessionID}
    {opts : FileStoreOptions} {fs : Storage.FileSystem}
    (hopened : (FileStore.open_ dir sid opts fs).1 = .ok ())
    (hstore : s₀.store = (FileStore.open_ dir sid opts fs).2) (hstart : s₀.io.events = [])
    (hrun : Interleaved s₀ s) (hroll : .rollback_failed ∉ s.io.events) :
    StoredFirst (fun w => w.takeWhile (· != LF)) s.io.events := by
  have hfit : s₀.FitStore := by
    rw [FitStore, hstore]
    exact FileStore.ready_open hopened
  exact (hrun.sound hstart hfit hroll).stored_first.of_filter

end FixEngine.Session
