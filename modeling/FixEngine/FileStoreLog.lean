/-
`FileStoreLog.lean` -- the outbound log of the file store against the in-memory map.

The abstract outbound history of a session is the map of `MemoryStore`. The file
store keeps the same history as text, with an index of byte offsets that is
written when a frame is stored and computed again from the text when the store
is opened or refreshed. `Aligned` ties the two representations together: the
scan of the text gives the index in memory, at every indexed offset stands the
record that the map has under that number, and the stream stands at the end of the
text. Each operation keeps it, so a walk of the index reads what a walk of the map
reads.

All of this is true of frames without a line feed. The line feed is the record
separator and the store does not escape it, so a frame that contains one is cut
when it is read back; the last section puts the two together.
-/
import FixEngine.FileStoreSpec

set_option autoImplicit false

namespace FixEngine

open Decimal Storage

/-! ## Scanning the text -/

theorem rebuild_loop_append {a line : Bytes} {pos : ℕ} {ix ix' : OrdMap ℕ ℕ} (b : Bytes)
    (h : rebuild_loop a line pos ix = (ix', none)) :
    rebuild_loop (a ++ b) line pos ix = rebuild_loop b [] (pos + line.length + a.length) ix' := by
  induction a generalizing line pos ix with
  | nil =>
    rw [rebuild_loop] at h
    injection h with hix hline
    have hnil : line = [] := by
      by_contra hne
      rw [if_neg (by simpa using hne)] at hline
      simp at hline
    rw [hnil, hix]
    rfl
  | cons c a ih =>
    rw [rebuild_loop] at h
    rw [List.cons_append, rebuild_loop]
    split
    · rename_i hc
      rw [if_pos hc] at h
      rw [ih h]
      congr 1
      simp only [List.length_nil, List.length_cons]
      omega
    · rename_i hc
      rw [if_neg hc] at h
      rw [ih h]
      congr 1
      simp only [List.length_append, List.length_cons, List.length_nil]
      omega

theorem rebuild_loop_line {body : Bytes} (hbody : LF ∉ body) (line rest : Bytes) (pos : ℕ)
    (ix : OrdMap ℕ ℕ) :
    rebuild_loop (body ++ LF :: rest) line pos ix =
      rebuild_loop rest [] (pos + line.length + body.length + 1)
        (index_line (line ++ body) pos ix) := by
  induction body generalizing line with
  | nil =>
    rw [List.nil_append, rebuild_loop, if_pos rfl, List.append_nil]
    rfl
  | cons c body ih =>
    have ⟨hc, hbody⟩ := List.ne_and_not_mem_of_not_mem_cons hbody
    rw [List.cons_append, rebuild_loop, if_neg (Ne.symm hc), ih hbody, List.append_assoc]
    congr 1
    simp only [List.length_append, List.length_cons, List.length_nil]
    omega

theorem BAR_not_mem_to_chars (n : ℕ) : BAR ∉ to_chars n := fun h =>
  absurd (is_digit_of_mem_to_chars h) (by decide)

theorem LF_not_mem_to_chars (n : ℕ) : LF ∉ to_chars n := fun h =>
  absurd (is_digit_of_mem_to_chars h) (by decide)

theorem all_ne_of_not_mem {x : UInt8} {l : Bytes} (h : x ∉ l) : ∀ c ∈ l, (c != x) = true := by
  intro c hc
  rw [bne_iff_ne]
  rintro rfl
  exact h hc

theorem index_line_record {seq : ℕ} (hpos : 1 ≤ seq) (hlt : seq < 2 ^ 64) (raw : Bytes) (pos : ℕ)
    (ix : OrdMap ℕ ℕ) : index_line (to_chars seq ++ BAR :: raw) pos ix = ix.insert seq pos := by
  have hbar : BAR ∈ to_chars seq ++ BAR :: raw := by simp
  have htake : (to_chars seq ++ BAR :: raw).takeWhile (· != BAR) = to_chars seq :=
    Scan.takeWhile_append_cons (all_ne_of_not_mem (BAR_not_mem_to_chars seq)) (by decide)
  rw [index_line, if_pos hbar, htake, parse_unsigned_to_chars hlt]
  exact if_pos hpos

theorem rebuild_loop_record {data : Bytes} {ix : OrdMap ℕ ℕ} {seq : ℕ} {raw : Bytes}
    (h : rebuild_loop data [] 0 .empty = (ix, none)) (hpos : 1 ≤ seq) (hlt : seq < 2 ^ 64)
    (hraw : LF ∉ raw) :
    rebuild_loop (data ++ log_record seq raw) [] 0 .empty =
      (ix.insert seq data.length, none) := by
  have hbody : LF ∉ to_chars seq ++ BAR :: raw := by
    simp only [List.mem_append, List.mem_cons, not_or]
    exact ⟨LF_not_mem_to_chars seq, by decide, hraw⟩
  have hrec : log_record seq raw = (to_chars seq ++ BAR :: raw) ++ LF :: [] := by
    simp [log_record]
  rw [rebuild_loop_append _ h, hrec, rebuild_loop_line hbody, List.nil_append,
    index_line_record hpos hlt, rebuild_loop]
  simp

/-! ## Reading a record back -/

/-- The record of `seq` stands at the offset `pos`. -/
def RecordAt (data : Bytes) (seq pos : ℕ) (raw : Bytes) : Prop :=
  (∃ rest, data.drop pos = log_record seq raw ++ rest) ∧ LF ∉ raw

theorem getline_record (seq : ℕ) (raw rest : Bytes) :
    ((log_record seq raw ++ rest).takeWhile (· != LF)).dropWhile (· != BAR) =
      BAR :: raw.takeWhile (· != LF) := by
  have hline : (log_record seq raw ++ rest).takeWhile (· != LF) =
      to_chars seq ++ BAR :: raw.takeWhile (· != LF) := by
    rw [log_record, List.append_assoc, List.cons_append, List.append_assoc,
      List.takeWhile_append_of_pos (all_ne_of_not_mem (LF_not_mem_to_chars seq)),
      List.takeWhile_cons_of_pos (by decide), List.singleton_append,
      Scan.takeWhile_append_barrier raw rest (by decide)]
  rw [hline]
  exact Scan.dropWhile_append_cons (all_ne_of_not_mem (BAR_not_mem_to_chars seq)) (by decide)

theorem read_records_cons {data rest : Bytes} {seq pos : ℕ} {raw : Bytes}
    (h : data.drop pos = log_record seq raw ++ rest) (es : List (ℕ × ℕ)) :
    read_records data none ((seq, pos) :: es) true =
      (seq, raw.takeWhile (· != LF)) :: read_records data none es true := by
  have hne : (log_record seq raw ++ rest).isEmpty = false := by
    rw [List.isEmpty_eq_false_iff]
    simp [log_record]
  rw [read_records]
  simp only [h, if_true, Option.elim_none, getline_record, hne, Bool.not_false, Bool.and_self,
    Option.map_none]

theorem read_records_of_forall₂ {data : Bytes} {es : List (ℕ × ℕ)} {ms : List (ℕ × Bytes)}
    (h : List.Forall₂ (fun a b => a.1 = b.1 ∧ RecordAt data a.1 a.2 b.2) es ms) :
    read_records data none es true = ms := by
  induction h with
  | nil => rfl
  | @cons e m es ms he _ ih =>
    obtain ⟨hseq, ⟨rest, hdrop⟩, hraw⟩ := he
    rw [read_records_cons hdrop, ih, List.takeWhile_eq_self_iff.mpr (all_ne_of_not_mem hraw), hseq]

theorem RecordAt.append {data : Bytes} {seq pos : ℕ} {raw : Bytes} (h : RecordAt data seq pos raw)
    (more : Bytes) : RecordAt (data ++ more) seq pos raw := by
  obtain ⟨⟨rest, hdrop⟩, hraw⟩ := h
  have hlt : pos < data.length := by
    by_contra hge
    rw [List.drop_eq_nil_of_le (not_lt.mp hge)] at hdrop
    simp [log_record] at hdrop
  refine ⟨⟨rest ++ more, ?_⟩, hraw⟩
  rw [List.drop_append_of_le_length hlt.le, hdrop, List.append_assoc]

/-! ## The two representations -/

/-- Operations on the outbound history. `reopen` is `close()` and a new store on the
same directory. -/
inductive LogOp where
  | store_outbound (seq : ℕ) (raw : Bytes)
  | reset
  | reopen
  | refresh
  deriving DecidableEq

/-- An operation a session can make: a number of at least one and no NUL byte. -/
def LogOp.Admissible : LogOp → Prop
  | .store_outbound seq raw => 1 ≤ seq ∧ seq < 2 ^ 64 ∧ 0 ∉ raw
  | _ => True

/-- The bytes the operation stores, if any, have no line feed. -/
def LogOp.LineFree : LogOp → Prop
  | .store_outbound _ raw => LF ∉ raw
  | _ => True

namespace FileStore

def run_op (dir : Directory) (sid : SessionID) (st : FileStore) : LogOp → FileStore
  | .store_outbound seq raw => (st.store_outbound seq raw).2
  | .reset => st.reset.2
  | .reopen => (open_ dir sid st.opts st.close.2.fs).2
  | .refresh => st.refresh.2

end FileStore

namespace MemoryStore

def run_op (m : MemoryStore) : LogOp → MemoryStore
  | .store_outbound seq raw => (m.store_outbound seq raw).2
  | .reset => m.reset.2
  | .reopen => m.close.2
  | .refresh => m.refresh.2

end MemoryStore

/-- The file store, without a fault to come, represents the map of the in-memory store. -/
structure Aligned (sid : SessionID) (st : FileStore) (m : MemoryStore) : Prop where
  quiet : st.fs.faults = []
  seqfile_eq : st.seqfile = store_path sid seq_ext
  outfile_eq : st.outfile = store_path sid out_ext
  infile_eq : st.infile = store_path sid in_ext
  is_open : st.closed = false
  out_good : st.out_stream = .good
  in_good : st.in_stream = .good
  sender_range : 1 ≤ st.sender_seq ∧ st.sender_seq < 2 ^ 64
  target_range : 1 ≤ st.target_seq ∧ st.target_seq < 2 ^ 64
  loadable : ∃ s t, FileStore.loads (st.fs.disk st.seqfile) = some (s, t)
  log : ∃ f, st.fs.disk st.outfile = some f ∧ st.out_pos = f.data.length ∧
    rebuild_loop f.data [] 0 .empty = (st.out_index, none) ∧
    OrdMap.Related (RecordAt f.data) st.out_index m.outbound

/-- Both stores make the same calls for every range. -/
def SameReplay (st : FileStore) (m : MemoryStore) : Prop :=
  ∀ first last, (st.get_messages first last).1 = (m.get_messages first last).1

theorem walk_end_related {α β : Type} {R : ℕ → α → β → Prop} {m₁ : OrdMap ℕ α} {m₂ : OrdMap ℕ β}
    (h : OrdMap.Related R m₁ m₂) (last : ℕ) : walk_end last m₁ = walk_end last m₂ := by
  rw [walk_end, walk_end, h.last_key]

theorem get_messages_quiet {st : FileStore} (hq : st.fs.faults = []) {f : File}
    (hf : st.fs.disk st.outfile = some f) (first last : ℕ) :
    (st.get_messages first last).1 =
      .ok (read_records f.data none
        (st.out_index.range first (walk_end last st.out_index)) true) := by
  rcases st with ⟨seqfile, outfile, infile, opts, s₀, t₀, out, pos, inb, index, closed, ⟨d, tr, fl⟩⟩
  obtain rfl : fl = [] := hq
  replace hf : d outfile = some f := hf
  simp [FileStore.get_messages, hf]

namespace Aligned

variable {sid : SessionID} {st : FileStore} {m : MemoryStore}

theorem same_replay (h : Aligned sid st m) : SameReplay st m := by
  intro first last
  obtain ⟨f, hf, -, -, hrel⟩ := h.log
  rw [get_messages_quiet h.quiet hf, walk_end_related hrel,
    read_records_of_forall₂ (hrel.range first _)]
  rfl

theorem recordAt_end (data : Bytes) (seq : ℕ) {raw : Bytes} (hraw : LF ∉ raw) :
    RecordAt (data ++ log_record seq raw) seq data.length raw :=
  ⟨⟨[], by rw [List.drop_left, List.append_nil]⟩, hraw⟩

theorem store_outbound (h : Aligned sid st m) {seq : ℕ} {raw : Bytes} (hpos : 1 ≤ seq)
    (hlt : seq < 2 ^ 64) (hraw : LF ∉ raw) :
    Aligned sid (st.store_outbound seq raw).2 (m.store_outbound seq raw).2 := by
  obtain ⟨f, hf, hend, hloop, hrel⟩ := h.log
  obtain ⟨fs, f', hstore, hq, hf', hdata, hkeep⟩ :=
    FileStore.store_outbound_quiet st h.quiet h.is_open h.out_good hf seq raw
  rw [hstore, hend]
  have hne : st.seqfile ≠ st.outfile := by
    rw [h.seqfile_eq, h.outfile_eq]
    exact seq_ne_out _
  refine { h with quiet := hq, loadable := ?_, log := ⟨f', hf', rfl, ?_, ?_⟩ }
  · show ∃ s t, FileStore.loads (fs.disk st.seqfile) = some (s, t)
    rw [hkeep _ hne]
    exact h.loadable
  · rw [hdata]
    exact rebuild_loop_record hloop hpos hlt hraw
  · rw [hdata]
    apply OrdMap.Related.insert
    · exact hrel.imp fun _ _ _ hrec => hrec.append _
    · exact recordAt_end f.data seq hraw

theorem one_in_range : 1 ≤ 1 ∧ 1 < 2 ^ 64 := by decide

theorem reset (h : Aligned sid st m) : Aligned sid st.reset.2 m.reset.2 := by
  obtain ⟨f, hf, _⟩ := h.log
  obtain ⟨fs, hreset, hq, hseq, hout⟩ :=
    FileStore.reset_quiet st h.quiet h.is_open h.seqfile_eq h.outfile_eq h.infile_eq hf
  rw [hreset]
  refine { h with
    quiet := hq, out_good := rfl, in_good := rfl, loadable := ⟨1, 1, ?_⟩,
    sender_range := one_in_range, target_range := one_in_range,
    log := ⟨f.resize 0, hout, ?_, ?_, OrdMap.related_empty _⟩ }
  · show FileStore.loads (fs.disk st.seqfile) = some (1, 1)
    rw [hseq]
    exact parse_seqs_seq_data (by decide) (by decide) (by decide) (by decide)
  · rw [File.resize, List.take_zero, Nat.zero_sub]
    rfl
  · rw [File.resize, List.take_zero, Nat.zero_sub]
    rfl

theorem refresh (h : Aligned sid st m) : Aligned sid st.refresh.2 m := by
  obtain ⟨f, hf, hend, hloop, hrel⟩ := h.log
  obtain ⟨s, t, hloads⟩ := h.loadable
  obtain ⟨fs₁, hloaded, hq₁, hd₁⟩ := FileStore.load_seqs_quiet st h.quiet hloads
  obtain ⟨index, fs₂, hindexed, hq₂, _, _, _, hsome⟩ := FileStore.rebuild_index_quiet
    { st with sender_seq := s, target_seq := t, fs := fs₁ } hq₁
  obtain ⟨rfl, hd₂⟩ := hsome f st.out_index ((Disk.congr_files hd₁ _).trans hf) hloop
  -- both streams are good, so neither is reopened
  have hrefresh : st.refresh =
      (.ok (), { st with sender_seq := s, target_seq := t, fs := fs₂ }) := by
    have hgood : ∀ stream p fs, stream = Stream.good →
        FileStore.reopen stream p fs = (stream, fs) := by
      rintro stream p fs rfl
      rfl
    have hopen : st.out_stream ≠ .failed := by
      rw [h.out_good]
      decide
    simp only [FileStore.refresh, hloaded, hindexed, hgood _ _ _ h.out_good,
      hgood _ _ _ h.in_good, if_neg hopen]
  have hdisk : fs₂.disk = st.fs.disk := hd₂.trans hd₁
  have ⟨hs, ht⟩ := FileStore.loads_range hloads
  rw [hrefresh]
  refine { h with
    quiet := hq₂, sender_range := hs, target_range := ht, loadable := ⟨s, t, ?_⟩,
    log := ⟨f, ?_, hend, hloop, hrel⟩ }
  · exact (congrArg FileStore.loads (Disk.congr_files hdisk _)).trans hloads
  · exact (Disk.congr_files hdisk _).trans hf

theorem reopen (h : Aligned sid st m) (dir : Directory) :
    Aligned sid (FileStore.open_ dir sid st.opts st.close.2.fs).2 m := by
  obtain ⟨f, hf, -, hloop, hrel⟩ := h.log
  obtain ⟨hq, hseq, f', hf', hdata⟩ :=
    FileStore.close_quiet st h.quiet h.is_open h.seqfile_eq h.outfile_eq hf
  rw [h.seqfile_eq] at hseq
  rw [h.outfile_eq] at hf'
  have hloads : FileStore.loads (st.close.2.fs.disk (store_path sid seq_ext)) =
      some (st.sender_seq, st.target_seq) := by
    rw [hseq]
    exact parse_seqs_seq_data h.sender_range.1 h.sender_range.2 h.target_range.1 h.target_range.2
  obtain ⟨index, pos, fs, hopen, hq', -, -, hkeep, _, hsome⟩ :=
    FileStore.open_quiet dir sid st.opts _ hq
    (fun hnone => absurd (hseq.symm.trans hnone) (by simp)) hloads
  obtain ⟨rfl, hend, hlog⟩ := hsome f' st.out_index hf' (hdata ▸ hloop)
  rw [hopen]
  exact
    { quiet := hq'
      seqfile_eq := rfl
      outfile_eq := rfl
      infile_eq := rfl
      is_open := rfl
      out_good := rfl
      in_good := rfl
      sender_range := h.sender_range
      target_range := h.target_range
      loadable := ⟨st.sender_seq, st.target_seq,
        (congrArg FileStore.loads (hkeep _ (seq_ne_out _) (seq_ne_in _))).trans hloads⟩
      log := ⟨f', hlog, hend, hdata ▸ hloop, hdata ▸ hrel⟩ }

theorem run_op (h : Aligned sid st m) (dir : Directory) {op : LogOp} (hadm : op.Admissible)
    (hfree : op.LineFree) : Aligned sid (st.run_op dir sid op) (m.run_op op) := by
  match op with
  | .store_outbound seq raw => exact h.store_outbound hadm.1 hadm.2.1 hfree
  | .reset => exact h.reset
  | .reopen => exact h.reopen dir
  | .refresh => exact h.refresh

theorem not_same_replay_store (h : Aligned sid st m) {seq : ℕ} {raw : Bytes} (hpos : 1 ≤ seq)
    (hraw : LF ∈ raw) :
    ¬ SameReplay (st.store_outbound seq raw).2 (m.store_outbound seq raw).2 := by
  intro hsame
  obtain ⟨f, hf, htell, _⟩ := h.log
  obtain ⟨fs, f', hstore, hq, hf', hdata, _⟩ :=
    FileStore.store_outbound_quiet st h.quiet h.is_open h.out_good hf seq raw
  have hread := hsame seq seq
  have hend : ∀ {α : Type} (x : OrdMap ℕ α), walk_end seq x = seq := fun x =>
    if_neg (by omega)
  rw [hstore, get_messages_quiet (f := f') hq hf'] at hread
  simp only [MemoryStore.get_messages, MemoryStore.store_outbound, hend,
    OrdMap.range_insert_self, htell] at hread
  have hdrop : f'.data.drop f.data.length = log_record seq raw ++ [] := by
    rw [hdata, List.drop_left, List.append_nil]
  rw [read_records_cons hdrop] at hread
  have hcut : raw.takeWhile (· != LF) = raw := by
    injection hread with hread
    injection hread with hhead
    exact (Prod.mk.inj hhead).2
  have hall := List.takeWhile_eq_self_iff.mp hcut LF hraw
  exact absurd hall (by decide)

end Aligned

/-! ## Whole runs -/

/-- The session has no files yet, under the present names or the old ones. -/
def FreshDirectory (dir : Directory) (sid : SessionID) (fs : Files) : Prop :=
  fs (store_path sid seq_ext) = none ∧ fs (store_path sid out_ext) = none ∧
    fs (legacy_path dir sid seq_ext) = none

theorem aligned_of_fresh {dir : Directory} {sid : SessionID} {d : Files}
    (hd : FreshDirectory dir sid d) (opts : FileStoreOptions) :
    Aligned sid (FileStore.open_ dir sid opts (FileSystem.sound d)).2 MemoryStore.create := by
  obtain ⟨hseq, hout, hlegacy⟩ := hd
  have hloads : FileStore.loads (d (store_path sid seq_ext)) = some (1, 1) := by
    rw [hseq]
    rfl
  obtain ⟨index, pos, fs, hopen, hq, -, -, hkeep, hnone, _⟩ := FileStore.open_quiet dir sid opts
    (FileSystem.sound d) rfl (fun _ => hlegacy) hloads
  obtain ⟨rfl, hend, hlog⟩ := hnone hout
  rw [hopen]
  exact
    { quiet := hq
      seqfile_eq := rfl
      outfile_eq := rfl
      infile_eq := rfl
      is_open := rfl
      out_good := rfl
      in_good := rfl
      sender_range := Aligned.one_in_range
      target_range := Aligned.one_in_range
      loadable := ⟨1, 1, (congrArg FileStore.loads
        (hkeep _ (seq_ne_out _) (seq_ne_in _))).trans hloads⟩
      log := ⟨File.new, hlog, hend, rfl, OrdMap.related_empty _⟩ }

theorem same_replay_run_iff (dir : Directory) {sid : SessionID} {st : FileStore} {m : MemoryStore}
    (h : Aligned sid st m) {ops : List LogOp} (hadm : ∀ op ∈ ops, op.Admissible) :
    (∀ done, done <+: ops →
      SameReplay (done.foldl (FileStore.run_op dir sid) st) (done.foldl MemoryStore.run_op m)) ↔
      ∀ op ∈ ops, op.LineFree := by
  induction ops generalizing st m with
  | nil =>
    refine ⟨fun _ op hop => absurd hop List.not_mem_nil, fun _ done hdone => ?_⟩
    rw [List.prefix_nil.mp hdone]
    exact h.same_replay
  | cons op ops ih =>
    have hop := hadm op List.mem_cons_self
    have hops : ∀ o ∈ ops, o.Admissible := fun o ho => hadm o (List.mem_cons_of_mem op ho)
    rw [List.forall_mem_cons]
    constructor
    · intro hsame
      -- The state after the first operation tells whether that one is free of line feeds.
      have hfree : op.LineFree := by
        have hfirst := hsame [op] (List.cons_prefix_cons.mpr ⟨rfl, List.nil_prefix⟩)
        match op with
        | .store_outbound seq raw =>
          intro hraw
          exact h.not_same_replay_store hop.1 hraw hfirst
        | .reset => trivial
        | .reopen => trivial
        | .refresh => trivial
      refine ⟨hfree, (ih (h.run_op dir hop hfree) hops).mp fun done hdone => ?_⟩
      exact hsame (op :: done) (List.cons_prefix_cons.mpr ⟨rfl, hdone⟩)
    · rintro ⟨hfree, hrest⟩ done hdone
      rcases List.prefix_cons_iff.mp hdone with rfl | ⟨more, rfl, hmore⟩
      · exact h.same_replay
      · exact (ih (h.run_op dir hop hfree) hops).mpr hrest more hmore

/-- **The outbound log refines the in-memory map exactly on frames without a line
feed.** On a new directory and without I/O failures, `get_messages` of the two
stores agrees for every range in every state that a run of stores, resets, reopens
and refreshes reaches if and only if no stored frame contains a line feed. -/
theorem outbound_log_refines_map_iff (dir : Directory) (sid : SessionID) (opts : FileStoreOptions)
    (d : Files) (hd : FreshDirectory dir sid d) (ops : List LogOp)
    (hadm : ∀ op ∈ ops, op.Admissible) :
    (∀ done, done <+: ops →
      SameReplay
        (done.foldl (FileStore.run_op dir sid)
          (FileStore.open_ dir sid opts (FileSystem.sound d)).2)
        (done.foldl MemoryStore.run_op MemoryStore.create)) ↔
      ∀ op ∈ ops, op.LineFree :=
  same_replay_run_iff dir (aligned_of_fresh hd opts) hadm

/-- An initiator's session, for the runs below. -/
def log_sid : SessionID := ⟨.FIX_4_4, ascii "CLIENT", ascii "SERVER", []⟩

/-- A Text field with a line break, as a frame may carry it. -/
def two_line_text : Bytes := ascii "58=first\nsecond" ++ [SOH]

/-- A frame with a line break is stored whole by the in-memory store and is cut at
the line break by the file store. -/
theorem two_line_text_cut :
    LogOp.Admissible (.store_outbound 1 two_line_text) ∧
      (((FileStore.open_ .plain log_sid ⟨false⟩ (FileSystem.sound fun _ => none)).2.run_op
        .plain log_sid
        (.store_outbound 1 two_line_text)).get_messages 1 0).1.toOption =
          some [(1, ascii "58=first")] ∧
      ((MemoryStore.create.run_op (.store_outbound 1 two_line_text)).get_messages 1 0).1.toOption =
        some [(1, two_line_text)] := by
  refine ⟨⟨by decide, by decide, by decide⟩, ?_, ?_⟩
  · decide
  · decide

/-- A run that stores a number twice, with bars in the text, and reopens in between. -/
def overwrite_run : List LogOp :=
  [.store_outbound 1 (ascii "a|b"), .store_outbound 3 (ascii "|"), .reopen,
    .store_outbound 1 (ascii "c"), .refresh]

theorem outbound_log_refines_map_overwrite :
    ((overwrite_run.foldl (FileStore.run_op .plain log_sid)
        (FileStore.open_ .plain log_sid ⟨true⟩ (FileSystem.sound fun _ => none)).2).get_messages 1
          0).1 =
      ((overwrite_run.foldl MemoryStore.run_op MemoryStore.create).get_messages 1 0).1 := by
  refine (outbound_log_refines_map_iff .plain log_sid ⟨true⟩ (fun _ => none) ⟨rfl, rfl, rfl⟩
    overwrite_run ?_).mpr ?_ overwrite_run List.prefix_rfl 1 0
  · simp only [overwrite_run, List.forall_mem_cons, LogOp.Admissible, List.not_mem_nil,
      false_implies, implies_true, and_true]
    decide
  · simp only [overwrite_run, List.forall_mem_cons, LogOp.LineFree, List.not_mem_nil,
      false_implies, implies_true, and_true]
    decide

end FixEngine
