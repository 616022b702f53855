/-
`Migration.lean` -- what opening a store does to the files of a directory.

A store opened for a session works on the three files under the session's name, and
it moves the three files under the name of old times, `<sender>-<target>`, to the
new one. The old name is not escaped, so it is a path, and it can lead to the file that
has the new name of another session: then the move takes that session's files away.
This is the only way in which opening one store touches another's files.

The move itself may be interrupted at any point. `Interrupted` is a sequence of opens,
each stopped after any of its steps; `Carried` is what every disk on the way has of
the old history, and it is enough for the next open to finish the move. A log is not
moved onto an existing one, so the two files must not both be there to begin with.
-/
import FixEngine.LogRepair
import FixEngine.FileNames

set_option autoImplicit false

namespace FixEngine

open Decimal Storage IMessageStore OutboundLog

/-! ## Names -/

/-- The extensions of the three files of a session. -/
def exts : List Path := [seq_ext, out_ext, in_ext]

theorem out_ne_any_in (p q : Path) : p ++ out_ext ≠ q ++ in_ext := by
  -- both end in `.log`; the byte before tells them apart
  intro heq
  have hout : out_ext = ascii ".out" ++ ascii ".log" := by decide
  have hin : in_ext = ascii ".in" ++ ascii ".log" := by decide
  rw [hout, hin, ← List.append_assoc, ← List.append_assoc] at heq
  have hcut := List.append_cancel_right heq
  exact ext_ne p q (x := 116) (y := 110) (by decide) (by decide) (by decide) hcut

theorem ext_inj {p q a b : Path} (ha : a ∈ exts) (hb : b ∈ exts) (h : p ++ a = q ++ b) :
    p = q ∧ a = b := by
  simp only [exts, List.mem_cons, List.not_mem_nil, or_false] at ha hb
  rcases ha with rfl | rfl | rfl
  · rcases hb with rfl | rfl | rfl
    · exact ⟨List.append_cancel_right h, rfl⟩
    · exact absurd h (seq_ne_any_out p q)
    · exact absurd h (seq_ne_any_in p q)
  · rcases hb with rfl | rfl | rfl
    · exact absurd h.symm (seq_ne_any_out q p)
    · exact ⟨List.append_cancel_right h, rfl⟩
    · exact absurd h (out_ne_any_in p q)
  · rcases hb with rfl | rfl | rfl
    · exact absurd h.symm (seq_ne_any_in q p)
    · exact absurd h.symm (out_ne_any_in q p)
    · exact ⟨List.append_cancel_right h, rfl⟩

theorem seq_mem : seq_ext ∈ exts := List.mem_cons_self

theorem out_mem : out_ext ∈ exts := List.mem_cons_of_mem _ List.mem_cons_self

theorem in_mem : in_ext ∈ exts := List.mem_cons_of_mem _ (List.mem_cons_of_mem _ List.mem_cons_self)

theorem name_ne {p q a b : Path} (ha : a ∈ exts) (hb : b ∈ exts) (hne : p ≠ q) :
    p ++ a ≠ q ++ b := fun h =>
  hne (ext_inj ha hb h).1

theorem ext_ne_of_ne {p q a b : Path} (ha : a ∈ exts) (hb : b ∈ exts) (hne : a ≠ b) :
    p ++ a ≠ q ++ b := fun h =>
  hne (ext_inj ha hb h).2

theorem slash_not_mem (sid : SessionID) : (47 : UInt8) ∉ make_prefix sid := by
  have hpart : ∀ raw, (47 : UInt8) ∉ sanitize_component raw kComponentCap := by
    intro raw hmem
    exact absurd (path_safe_component raw kComponentCap 47 hmem) (by decide)
  have htilde : (47 : UInt8) ≠ 126 := by decide
  unfold make_prefix
  dsimp only
  split
  · simp [hpart, htilde]
  · simp [hpart, htilde]

theorem directory_part_of_no_slash {raw : Path} (h : (47 : UInt8) ∉ raw) :
    directory_part raw = [] := by
  rw [directory_part, List.rdropWhile_eq_nil_iff]
  intro c hc
  rw [bne_iff_ne]
  rintro rfl
  exact h hc

/-- **The old name of a session is a name of now** exactly if it leads to the directory and ends
in it. -/
theorem entry_eq_iff (dir : Directory) {raw : Path} (hnul : (0 : UInt8) ∉ raw) (b : SessionID) :
    dir.entry raw = make_prefix b ↔
      dir.own (directory_part raw) = true ∧ file_part raw = make_prefix b := by
  rw [Directory.entry, if_neg (by simpa using hnul)]
  split_ifs with hown
  · exact (and_iff_right hown).symm
  · constructor
    · -- a path that leads elsewhere has a slash
      intro heq
      have hpart : directory_part raw = [] := directory_part_of_no_slash (heq ▸ slash_not_mem b)
      rw [hpart] at hown
      exact absurd (dir.dots [] (by decide)) hown
    · exact fun h => absurd h.1 hown

namespace FileStore

variable {dir : Directory}

/-! ## Files that opening leaves alone -/

theorem open_disk (dir : Directory) (sid : SessionID) (opts : FileStoreOptions) (fs : FileSystem)
    {p : Path} (hout : p ≠ store_path sid out_ext) (hin : p ≠ store_path sid in_ext) :
    (open_ dir sid opts fs).2.fs.disk p =
      if (attempt fs).1 then (migrate_legacy_files dir sid (attempt fs).2).2.disk p
      else fs.disk p := by
  unfold open_
  dsimp only
  by_cases hmade : (attempt fs).1 = true
  · rw [if_pos hmade, if_neg (by simpa [blank] using hmade)]
    split
    · rfl
    generalize hst : { blank sid opts fs with
      fs := (migrate_legacy_files dir sid (attempt (blank sid opts fs).fs).2).2 } = st
    have hdisk : st.fs.disk p = (migrate_legacy_files dir sid (attempt fs).2).2.disk p := by
      rw [← hst]
      rfl
    have houtfile : st.load_seqs.2.outfile = store_path sid out_ext := by
      rw [(sameNames_load_seqs st).2.1, ← hst]
      rfl
    have hload : st.load_seqs.2.fs.disk p = st.fs.disk p := Disk.congr_files st.load_seqs_disk p
    have hindex : st.load_seqs.2.rebuild_index.2.fs.disk p = st.fs.disk p :=
      (rebuild_index_keeps _ (houtfile ▸ hout)).trans hload
    split
    · exact hload.trans hdisk
    · split
      · exact hindex.trans hdisk
      · have hnames := sameNames_rebuild_index st.load_seqs.2
        have hinfile : st.load_seqs.2.rebuild_index.2.infile = store_path sid in_ext := by
          rw [hnames.2.2, (sameNames_load_seqs st).2.2, ← hst]
          rfl
        have hstreams := open_streams_keeps st.load_seqs.2.rebuild_index.2 (p := p)
          (by rw [hnames.2.1, houtfile]; exact hout) (by rw [hinfile]; exact hin)
        exact hstreams.trans (hindex.trans hdisk)
  · rw [if_neg hmade, if_pos (by simpa [blank] using hmade)]
    rfl

theorem keeps_migrate_log {p src dst : Path} (hsrc : p ≠ src) (hdst : p ≠ dst) :
    Keeps p (migrate_log src dst) := by
  apply keeps_bind (keeps_exists_file dst)
  intro found
  split
  · apply keeps_bind (keeps_exists_file src)
    intro found'
    split
    · exact keeps_rename hsrc hdst
    · exact keeps_pure _
  · exact keeps_pure _

theorem keeps_migrate_legacy_files {p : Path} (dir : Directory) (sid : SessionID)
    (hold : ∀ e ∈ exts, p ≠ legacy_path dir sid e) (hnew : ∀ e ∈ exts, p ≠ store_path sid e) :
    Keeps p (migrate_legacy_files dir sid) := by
  apply keeps_bind (keeps_exists_file _)
  intro found
  split
  · apply keeps_bind (keeps_exists_file _)
    intro found'
    split
    · apply keeps_bind (keeps_migrate_log (hold _ out_mem) (hnew _ out_mem))
      intro ok
      split
      · exact keeps_pure _
      · apply keeps_bind (keeps_migrate_log (hold _ in_mem) (hnew _ in_mem))
        intro ok'
        split
        · exact keeps_pure _
        · exact keeps_rename (hold _ seq_mem) (hnew _ seq_mem)
    · exact keeps_pure _
  · exact keeps_pure _

theorem migrate_idle (dir : Directory) (sid : SessionID) (fs : FileSystem)
    (h : (fs.disk (seq_path sid)).isSome ∨ fs.disk (legacy_seq_path dir sid) = none) :
    (migrate_legacy_files dir sid fs).2.disk = fs.disk := by
  rcases fs with ⟨d, tr, fl⟩
  rcases hout : fl.head?.join with _ | k
  · rcases hseq : (d (seq_path sid)).isSome with _ | _
    · have hnone : d (legacy_seq_path dir sid) = none := h.resolve_left (by rw [hseq]; decide)
      rcases hout' : fl.tail.head?.join with _ | k <;>
        simp_all [migrate_legacy_files, exists_file, call_of_outcome _ _ _ hout,
          call_of_outcome _ _ _ hout', seq_path, legacy_seq_path]
    · rw [seq_path] at hseq
      simp [migrate_legacy_files, exists_file, call_of_outcome _ _ _ hout, hseq]
  · simp [migrate_legacy_files, exists_file, call_of_outcome _ _ _ hout]

/-- Whatever fails, opening a store for `a` leaves the three files of `b` as they were. -/
def LeavesAlone (dir : Directory) (a b : SessionID) (d : Files) : Prop :=
  ∀ (opts : FileStoreOptions) (faults : List (Option Fault)), ∀ e ∈ exts,
    (open_ dir a opts ⟨⟨d, []⟩, [], faults⟩).2.fs.disk (store_path b e) = d (store_path b e)

/-- The old name of `a`, as a path, is that of the file `b` in the directory of the store; `b` has
a sequence file, and `a` has none. -/
structure Takes (dir : Directory) (a b : SessionID) (d : Files) : Prop where
  leads : dir.own (directory_part <| legacy_prefix a) = true
  name : (file_part <| legacy_prefix a) = make_prefix b
  absent : d (seq_path a) = none
  present : (d (seq_path b)).isSome

/-- **Opening one store leaves another's files alone**, unless it takes them for its own of old. -/
theorem open_leaves_alone_iff (dir : Directory) {a b : SessionID}
    (hnul : (0 : UInt8) ∉ legacy_prefix a) (hne : make_prefix a ≠ make_prefix b) (d : Files) :
    LeavesAlone dir a b d ↔ ¬Takes dir a b d := by
  have hopen : ∀ opts faults, ∀ e ∈ exts,
      (open_ dir a opts ⟨⟨d, []⟩, [], faults⟩).2.fs.disk (store_path b e) =
        if (attempt ⟨⟨d, []⟩, [], faults⟩).1 then
          (migrate_legacy_files dir a (attempt ⟨⟨d, []⟩, [], faults⟩).2).2.disk (store_path b e)
        else d (store_path b e) := fun opts faults e he =>
    open_disk dir a opts _ (name_ne he out_mem hne.symm) (name_ne he in_mem hne.symm)
  constructor
  · rintro halone ⟨hleads, hname, hseq, hother⟩
    obtain ⟨f, hf⟩ := Option.isSome_iff_exists.mp hother
    have hpath : legacy_seq_path dir a = seq_path b :=
      congrArg (· ++ seq_ext) ((entry_eq_iff dir hnul b).mpr ⟨hleads, hname⟩)
    -- without a fault the sequence file of `b` is moved away
    obtain ⟨steps, hrun, -⟩ := migrate_run dir a ⟨d, []⟩ [⟨d, []⟩] hseq
      ((congrArg d hpath).trans hf) rfl rfl
    have hgone := (halone ⟨false⟩ [] seq_ext seq_mem).symm.trans (hopen ⟨false⟩ [] seq_ext seq_mem)
    rw [attempt_quiet, if_pos rfl, hrun, hpath] at hgone
    have hmoved := hgone.trans (Files.write_ne _ (name_ne seq_mem seq_mem hne.symm))
    exact absurd (hf.symm.trans (hmoved.trans (Files.write_self _ _ _))) (by simp)
  · intro htakes opts faults e he
    rw [hopen opts faults e he]
    split_ifs
    · by_cases hname : (dir.entry <| legacy_prefix a) = make_prefix b
      · have hidle : (d (seq_path a)).isSome ∨ d (legacy_seq_path dir a) = none := by
          by_contra hboth
          rw [not_or, Option.not_isSome_iff_eq_none, ← ne_eq, Option.ne_none_iff_isSome] at hboth
          obtain ⟨hleads, hfile⟩ := (entry_eq_iff dir hnul b).mp hname
          have hpath : legacy_seq_path dir a = seq_path b := congrArg (· ++ seq_ext) hname
          exact htakes ⟨hleads, hfile, hboth.1, hpath ▸ hboth.2⟩
        exact Disk.congr_files (migrate_idle dir a (attempt ⟨⟨d, []⟩, [], faults⟩).2 hidle) _
      · exact keeps_migrate_legacy_files dir a (fun e' he' => name_ne he he' (Ne.symm hname))
          (fun e' he' => name_ne he he' hne.symm) _
    · rfl

/-- Two sessions whose names have nothing to do with each other. -/
theorem open_leaves_alone_apart :
    make_prefix ⟨.FIX_4_2, ascii "A", ascii "B", []⟩ ≠
    make_prefix ⟨.FIX_4_2, ascii "A", ascii "C", []⟩ ∧
      LeavesAlone .plain ⟨.FIX_4_2, ascii "A", ascii "B", []⟩ ⟨.FIX_4_2, ascii "A", ascii "C", []⟩
        fun _ => some (File.durable (seq_data 4 7)) := by
  have hne : make_prefix ⟨.FIX_4_2, ascii "A", ascii "B", []⟩ ≠
      make_prefix ⟨.FIX_4_2, ascii "A", ascii "C", []⟩ := by decide
  refine ⟨hne, (open_leaves_alone_iff .plain (by decide) hne _).mpr ?_⟩
  intro htakes
  have habsent := htakes.absent
  simp at habsent

/-- A sender with a `~`. -/
def tilde_sender : SessionID := ⟨.FIX_4_2, ascii "X~Y", ascii "Z", []⟩

/-- A target with a `-`. -/
def dash_target : SessionID := ⟨.FIX_4_2, ascii "X", ascii "Y-Z", []⟩

/-- The old name of the one is the name of the other. -/
theorem open_takes_sequence_file :
    make_prefix tilde_sender ≠ make_prefix dash_target ∧
      (open_ .plain tilde_sender ⟨false⟩ (.sound fun p =>
        if p = ascii "X~Y-Z.seqnums" then some (File.durable (seq_data 4 7)) else none)).2.fs.disk
          (store_path dash_target seq_ext) = none ∧
      store_path dash_target seq_ext = ascii "X~Y-Z.seqnums" := by
  decide

/-- So is the path of old of a sender that starts with `./`. -/
example : Directory.plain.entry (ascii "./X~Y-Z") = make_prefix dash_target := by
  decide

/-! ## The old history -/

/-- A directory from before the new names: the sequence file has the old one. -/
structure Upgrade (dir : Directory) (sid : SessionID) (d : Files) (s t : ℕ) : Prop where
  absent : d (seq_path sid) = none
  present : ∃ f, d (legacy_seq_path dir sid) = some f ∧ SequenceText f.data s t

/-- `d'` is left of `d` by opens of the store that were stopped at any of their steps. -/
inductive Interrupted (dir : Directory) (sid : SessionID) (d : Files) : Files → Prop
  | untouched : Interrupted dir sid d d
  | stopped {d' : Files} {d'' : Disk} (opts : FileStoreOptions) (h : Interrupted dir sid d d')
      (hpassed : d'' ∈ (open_ dir sid opts (.sound d')).2.fs.passed) :
        Interrupted dir sid d d''.files

/-- No log has both names. -/
def Uncontested (dir : Directory) (sid : SessionID) (d : Files) : Prop :=
  ∀ e ∈ [out_ext, in_ext], d (legacy_path dir sid e) = none ∨ d (store_path sid e) = none

/-- After any interruptions, the next open has the old numbers and the old records, and no file has
an old name. -/
def ComesAcross (dir : Directory) (sid : SessionID) (d : Files) (s t : ℕ) : Prop :=
  ∀ d', Interrupted dir sid d d' → ∀ opts,
    (open_ dir sid opts (.sound d')).1 = .ok () ∧ seqs (open_ dir sid opts (.sound d')).2 = (s, t) ∧
      (∀ g, d (legacy_path dir sid out_ext) = some g →
        Replays (open_ dir sid opts (.sound d')).2 fun n text =>
          ∃ pos, LastRecord (repaired g.data) n pos text) ∧
      ∀ e ∈ exts, (open_ dir sid opts (.sound d')).2.fs.disk (legacy_path dir sid e) = none

section Carried

variable {sid : SessionID} {d₀ fs : Files} {d : Disk}

/-- The sequence file has not been moved yet. -/
structure Pending (dir : Directory) (sid : SessionID) (d₀ fs : Files) : Prop where
  absent : fs (seq_path sid) = none
  seq : fs (legacy_seq_path dir sid) = d₀ (legacy_seq_path dir sid)
  uncontested : Uncontested dir sid fs
  history : ∀ g, d₀ (legacy_path dir sid out_ext) = some g →
    (fs (legacy_path dir sid out_ext)).or (fs (store_path sid out_ext)) = some g

/-- Everything has been moved, and the log perhaps repaired. -/
structure Settled (dir : Directory) (sid : SessionID) (d₀ fs : Files) : Prop where
  seq : fs (seq_path sid) = d₀ (legacy_seq_path dir sid)
  gone : ∀ e ∈ exts, fs (legacy_path dir sid e) = none
  history : ∀ g, d₀ (legacy_path dir sid out_ext) = some g →
    ∃ g', fs (store_path sid out_ext) = some g' ∧ repaired g'.data = repaired g.data

/-- What every disk on the way has of the old history. -/
def Carried (dir : Directory) (sid : SessionID) (d₀ fs : Files) : Prop :=
  Pending dir sid d₀ fs ∨ Settled dir sid d₀ fs

theorem log_mem_exts {e : Path} (he : e ∈ [out_ext, in_ext]) : e ∈ exts := List.mem_cons_of_mem _ he

theorem seq_ne_log {e : Path} (he : e ∈ [out_ext, in_ext]) : seq_ext ≠ e := by
  simp only [List.mem_cons, List.not_mem_nil, or_false] at he
  rcases he with rfl | rfl <;> decide

theorem Pending.moved (h : Pending dir sid d₀ d.files)
    (hname : (dir.entry <| legacy_prefix sid) ≠ make_prefix sid) {e : Path}
    (he : e ∈ [out_ext, in_ext]) :
    Pending dir sid d₀ (moved (legacy_path dir sid e) (store_path sid e) d).files ∧
      FileStore.moved (legacy_path dir sid e) (store_path sid e) d
        (legacy_path dir sid e) = none := by
  have hmem := log_mem_exts he
  have hsrc : FileStore.moved (legacy_path dir sid e) (store_path sid e) d
      (legacy_path dir sid e) = none :=
    moved_src d (name_ne hmem hmem hname) (h.uncontested e he)
  -- files with another extension stay
  have hlegacy : ∀ {e'}, e' ∈ exts → e' ≠ e →
      FileStore.moved (legacy_path dir sid e) (store_path sid e) d (legacy_path dir sid e') =
        d (legacy_path dir sid e') :=
    fun he' hne => moved_ne _ _ d (ext_ne_of_ne he' hmem hne) (ext_ne_of_ne he' hmem hne)
  have hstore : ∀ {e'}, e' ∈ exts → e' ≠ e →
      FileStore.moved (legacy_path dir sid e) (store_path sid e) d (store_path sid e') =
        d (store_path sid e') :=
    fun he' hne => moved_ne _ _ d (ext_ne_of_ne he' hmem hne) (ext_ne_of_ne he' hmem hne)
  refine ⟨⟨?_, ?_, ?_, ?_⟩, hsrc⟩
  · exact (hstore seq_mem (seq_ne_log he)).trans h.absent
  · exact (hlegacy seq_mem (seq_ne_log he)).trans h.seq
  · intro e' he'
    by_cases heq : e' = e
    · exact .inl (heq ▸ hsrc)
    · rw [hlegacy (log_mem_exts he') heq, hstore (log_mem_exts he') heq]
      exact h.uncontested e' he'
  · intro g hg
    have hold := h.history g hg
    by_cases heq : out_ext = e
    · subst heq
      rw [hsrc, moved_dst, Option.none_or]
      rcases h.uncontested out_ext he with hnone | hnone
      · rw [hnone, Option.none_or] at hold
        rw [hold, Option.some_or]
      · rw [hnone, Option.or_none] at hold
        rw [hnone, hold, Option.none_or]
    · rw [hlegacy out_mem heq, hstore out_mem heq]
      exact hold

theorem Pending.settle (h : Pending dir sid d₀ d.files)
    (hname : (dir.entry <| legacy_prefix sid) ≠ make_prefix sid)
    (hgone : ∀ e ∈ [out_ext, in_ext], d (legacy_path dir sid e) = none) :
    Settled dir sid d₀ (d.move (legacy_seq_path dir sid) (seq_path sid)).files := by
  have hkeep : ∀ {p e}, e ∈ [out_ext, in_ext] →
      (d.move (legacy_seq_path dir sid) (seq_path sid)).files (p ++ e) = d (p ++ e) := fun he =>
    (Files.write_ne _ (ext_ne_of_ne (log_mem_exts he) seq_mem (seq_ne_log he).symm)).trans
      (Files.write_ne _ (ext_ne_of_ne (log_mem_exts he) seq_mem (seq_ne_log he).symm))
  refine ⟨(Files.write_self _ _ _).trans h.seq, ?_, ?_⟩
  · intro e he
    rcases List.mem_cons.mp he with rfl | he
    · exact (Files.write_ne _ (name_ne seq_mem seq_mem hname)).trans (Files.write_self _ _ _)
    · exact (hkeep he).trans (hgone e he)
  · intro g hg
    have hold := h.history g hg
    rw [hgone out_ext List.mem_cons_self, Option.none_or] at hold
    exact ⟨g, (hkeep List.mem_cons_self).trans hold, rfl⟩

/-- **The migration finishes the move**, wherever it was interrupted. -/
theorem Carried.migrate (h : Carried dir sid d₀ d.files)
    (hname : (dir.entry <| legacy_prefix sid) ≠ make_prefix sid) {f : File}
    (hf : d₀ (legacy_seq_path dir sid) = some f) (tr : List Disk) :
    ∃ d' steps, migrate_legacy_files dir sid ⟨d, tr, []⟩ = (true, ⟨d', steps ++ tr, []⟩) ∧
      Settled dir sid d₀ d'.files ∧ ∀ x ∈ steps, Carried dir sid d₀ x.files := by
  rcases h with hpending | hsettled
  · obtain ⟨steps, hrun, hsteps⟩ := migrate_run dir sid d tr hpending.absent (hpending.seq.trans hf)
      rfl rfl
    obtain ⟨hpending₁, hgone₁⟩ := hpending.moved hname (e := out_ext) List.mem_cons_self
    obtain ⟨hpending₂, hgone₂⟩ := hpending₁.moved hname (e := in_ext)
      (List.mem_cons_of_mem _ List.mem_cons_self)
    refine ⟨_, steps, hrun, hpending₂.settle hname ?_, ?_⟩
    · intro e he
      simp only [List.mem_cons, List.not_mem_nil, or_false] at he
      rcases he with rfl | rfl
      · exact (moved_ne _ _ _ (out_ne_any_in _ _) (out_ne_any_in _ _)).trans hgone₁
      · exact hgone₂
    · intro x hx
      rcases hsteps x hx with rfl | rfl | rfl
      · exact .inl hpending
      · exact .inl hpending₁
      · exact .inl hpending₂
  · refine ⟨d, [d], ?_, hsettled, ?_⟩
    · have hfile := hsettled.seq.trans hf
      rw [seq_path] at hfile
      simp [migrate_legacy_files, hfile]
    · intro x hx
      rw [List.mem_singleton.mp hx]
      exact .inr hsettled

theorem Settled.of_logs (h : Settled dir sid d₀ fs)
    (hname : (dir.entry <| legacy_prefix sid) ≠ make_prefix sid) {fs' : Files}
    (hkeep : ∀ q, q ≠ store_path sid out_ext → q ≠ store_path sid in_ext → fs' q = fs q)
    (hlog : ∀ g, fs (store_path sid out_ext) = some g →
      ∃ g', fs' (store_path sid out_ext) = some g' ∧ repaired g'.data = repaired g.data) :
    Settled dir sid d₀ fs' := by
  refine ⟨?_, ?_, ?_⟩
  · exact (hkeep _ (seq_ne_any_out _ _) (seq_ne_any_in _ _)).trans h.seq
  · intro e he
    exact (hkeep _ (name_ne he out_mem hname) (name_ne he in_mem hname)).trans (h.gone e he)
  · intro g hg
    obtain ⟨g₁, hg₁, hsame₁⟩ := h.history g hg
    obtain ⟨g₂, hg₂, hsame₂⟩ := hlog g₁ hg₁
    exact ⟨g₂, hg₂, hsame₂.trans hsame₁⟩

theorem read_all_trail (p : Path) (fs : FileSystem) :
    ∀ x ∈ (read_all p fs).2.trail, x = fs.disk ∨ x ∈ fs.trail := by
  rw [read_all, bind_apply]
  intro x
  rcases (open_read p fs).1 with _ | data
  · simp [open_read, call]
  · dsimp only
    rw [bind_apply]
    rcases (read_limit (open_read p fs).2).1 with _ | k
    · simp [open_read, read_limit, call]
    · simp [open_read, read_limit, call]

theorem load_seqs_trail (st : FileStore) :
    ∀ x ∈ st.load_seqs.2.fs.trail, x = st.fs.disk ∨ x ∈ st.fs.trail := by
  have hread := read_all_trail st.seqfile (exists_file st.seqfile st.fs).2
  rw [load_seqs]
  dsimp only
  intro x hx
  split at hx
  · simpa [exists_file, call] using hx
  · simpa [exists_file, call] using hx
  · have hfound : x ∈ (read_all st.seqfile (exists_file st.seqfile st.fs).2).2.trail := by
      split at hx
      · exact hx
      · exact hx
    rcases hread x hfound with rfl | hold
    · exact .inl rfl
    · simpa [exists_file, call] using hold

theorem rebuild_index_trail (st : FileStore) :
    ∀ x ∈ st.rebuild_index.2.fs.trail, x = st.fs.disk ∨ x ∈ st.fs.trail := by
  rw [rebuild_index]
  dsimp only
  intro x
  split
  · simp [open_read, call]
  · split
    · simp [open_read, read_limit, call]
    · split <;> simp [open_read, read_limit, resize_file, call]

/-- **An open finishes the move** and passes only through disks that the next one could start
from. -/
theorem Carried.open_ (h : Carried dir sid d₀ fs)
    (hname : (dir.entry <| legacy_prefix sid) ≠ make_prefix sid) {f : File}
    (hf : d₀ (legacy_seq_path dir sid) = some f) {s t : ℕ}
    (hparse : parse_seqs f.data = some (s, t)) (opts : FileStoreOptions) :
    (FileStore.open_ dir sid opts (.sound fs)).1 = .ok () ∧
      seqs (FileStore.open_ dir sid opts (.sound fs)).2 = (s, t) ∧
      Settled dir sid d₀ (FileStore.open_ dir sid opts (.sound fs)).2.fs.disk.files ∧
      (∀ x ∈ (FileStore.open_ dir sid opts (.sound fs)).2.fs.trail, Carried dir sid d₀ x.files) ∧
      ∀ g, d₀ (legacy_path dir sid out_ext) = some g →
        Repaired g.data (FileStore.open_ dir sid opts (.sound fs)).2 := by
  obtain ⟨d₁, steps, hmoved, hsettled₁, hsteps⟩ :=
    Carried.migrate (d := ⟨fs, []⟩) h hname hf [⟨fs, []⟩]
  -- the numbers
  obtain ⟨st₁, hst₁⟩ : ∃ st₁, st₁ = { blank sid opts (.sound fs) with
    fs := ⟨d₁, steps ++ [Disk.mk fs []], []⟩ } := ⟨_, rfl⟩
  have hload₁ : loads (st₁.fs.disk st₁.seqfile) = some (s, t) := by
    rw [hst₁]
    exact (congrArg loads (hsettled₁.seq.trans hf)).trans hparse
  obtain ⟨fs₂, hloaded, hq₂, hd₂⟩ := load_seqs_quiet st₁ (by rw [hst₁]) hload₁
  have htrail₂ := st₁.load_seqs_trail
  rw [hloaded] at htrail₂
  -- the log
  obtain ⟨st₂, hst₂⟩ : ∃ st₂, st₂ = { st₁ with sender_seq := s, target_seq := t, fs := fs₂ } :=
    ⟨_, rfl⟩
  rw [← hst₂] at hloaded htrail₂
  have hdisk₂ : st₂.fs.disk = d₁ := by rw [hst₂]; exact hd₂.trans (by rw [hst₁])
  have hfaults₂ : st₂.fs.faults = [] := by rw [hst₂]; exact hq₂
  have hout₂ : st₂.outfile = store_path sid out_ext := by rw [hst₂, hst₁]; rfl
  obtain ⟨ix, fs₃, hindexed, hq₃, hkeep₃, -⟩ := rebuild_index_quiet st₂ hfaults₂
  have htrail₃ := st₂.rebuild_index_trail
  have hrepaired₃ : ∀ g, d₁ (store_path sid out_ext) = some g →
      Repaired g.data st₂.rebuild_index.2 := by
    intro g hg
    refine (rebuild_index_read ?_ ?_).2 (by rw [hindexed])
    · rw [hfaults₂]
      intro o ho
      simp at ho
    · rw [hdisk₂, hout₂, hg]
  rw [hindexed] at htrail₃ hrepaired₃
  rw [hdisk₂, hout₂] at hkeep₃
  have hsettled₃ : Settled dir sid d₀ fs₃.disk.files := by
    apply hsettled₁.of_logs hname (fun q hq _ => hkeep₃ q hq)
    intro g hg
    obtain ⟨g', hg', hdata⟩ := (hrepaired₃ g hg).content
    exact ⟨g', hout₂ ▸ hg', by rw [hdata, repaired_repaired]⟩
  -- the streams
  obtain ⟨d₃, tr₃, fl₃⟩ := fs₃
  obtain rfl : fl₃ = [] := hq₃
  obtain ⟨d₄, hd₄⟩ : ∃ d₄, d₄ = d₃.write (store_path sid out_ext)
    (some ((d₃ (store_path sid out_ext)).getD File.new)) := ⟨_, rfl⟩
  obtain ⟨d₅, hd₅⟩ : ∃ d₅, d₅ = d₄.write (store_path sid in_ext)
    (some ((d₄ (store_path sid in_ext)).getD File.new)) := ⟨_, rfl⟩
  have hopen : FileStore.open_ dir sid opts (.sound fs) = (.ok (), { st₂ with
      out_index := ix, out_stream := .good,
      out_pos := file_end (store_path sid out_ext) ⟨d₄, d₃ :: tr₃, []⟩, in_stream := .good,
      fs := ⟨d₅, d₄ :: d₃ :: tr₃, []⟩ }) := by
    have hblank : (blank sid opts (.sound fs)).fs = ⟨⟨fs, []⟩, [], []⟩ := rfl
    have hin₂ : st₂.infile = store_path sid in_ext := by rw [hst₂, hst₁]; rfl
    unfold FileStore.open_
    simp only [hblank, attempt_quiet, Bool.not_true, Bool.false_eq_true, if_false, hmoved, ← hst₁,
      hloaded, hindexed, open_streams, hout₂, hin₂, open_append_quiet, opened, ← hd₄,
      ← hd₅, if_true]
  have hout₄ : ∀ g, d₃ (store_path sid out_ext) = some g →
      d₄ (store_path sid out_ext) = some g := by
    intro g hg
    rw [hd₄, Disk.write_self, hg, Option.getD_some]
  have hout₅ : d₅ (store_path sid out_ext) = d₄ (store_path sid out_ext) := by
    rw [hd₅]
    exact Disk.write_ne _ (out_ne_any_in _ _)
  have hsettled₄ : Settled dir sid d₀ d₄.files := by
    apply hsettled₃.of_logs hname
    · intro q hq _
      rw [hd₄, Disk.write_ne _ hq]
    · intro g hg
      exact ⟨g, hout₄ g hg, rfl⟩
  have hsettled₅ : Settled dir sid d₀ d₅.files := by
    apply hsettled₄.of_logs hname
    · intro q _ hq
      rw [hd₅, Disk.write_ne _ hq]
    · intro g hg
      exact ⟨g, hout₅.trans hg, rfl⟩
  rw [hopen]
  refine ⟨rfl, ?_, hsettled₅, ?_, ?_⟩
  · rw [hst₂]
    rfl
  · -- every disk on the trail: of the migration, or settled
    intro x hx
    have hold : ∀ x ∈ st₁.fs.trail, Carried dir sid d₀ x.files := by
      intro x hx
      rw [hst₁] at hx
      rcases List.mem_append.mp hx with hx | hx
      · exact hsteps x hx
      · rw [List.mem_singleton.mp hx]
        exact h
    have hcarried₁ : Carried dir sid d₀ d₁.files := .inr hsettled₁
    rcases List.mem_cons.mp hx with rfl | hx
    · exact .inr hsettled₄
    rcases List.mem_cons.mp hx with rfl | hx
    · exact .inr hsettled₃
    rcases htrail₃ x hx with rfl | hx
    · exact hdisk₂ ▸ hcarried₁
    rcases htrail₂ x hx with rfl | hx
    · rw [hst₁]
      exact hcarried₁
    · exact hold x hx
  · intro g hg
    obtain ⟨g₁, hg₁, hsame⟩ := hsettled₁.history g hg
    obtain ⟨⟨g₃, hg₃, hdata⟩, hindex⟩ := hrepaired₃ g₁ hg₁
    rw [hsame] at hdata hindex
    refine ⟨⟨g₃, ?_, hdata⟩, hindex⟩
    show d₅ st₂.outfile = some g₃
    rw [hout₂, hout₅]
    exact hout₄ g₃ (hout₂ ▸ hg₃)

end Carried

/-- **The old history comes across**, whatever interrupts the move, when no log has both names, and
only then. -/
theorem legacy_comes_across_iff {sid : SessionID} {d : Files} {s t : ℕ}
    (h : Upgrade dir sid d s t) :
    ComesAcross dir sid d s t ↔ Uncontested dir sid d := by
  obtain ⟨f, hf, htext⟩ := h.present
  have hparse := parse_seqs_of_text htext
  have hname : (dir.entry <| legacy_prefix sid) ≠ make_prefix sid := by
    intro heq
    have hsame : legacy_seq_path dir sid = seq_path sid := congrArg (· ++ seq_ext) heq
    exact absurd ((hsame ▸ hf).symm.trans h.absent) (by simp)
  constructor
  · -- a log that is not moved keeps its old name
    intro hacross e he
    by_contra hboth
    rw [not_or] at hboth
    obtain ⟨g, hg⟩ := Option.ne_none_iff_exists'.mp hboth.2
    have hmem := log_mem_exts he
    obtain ⟨-, -, -, hgone⟩ := hacross d .untouched ⟨false⟩
    have hkept := open_disk dir sid ⟨false⟩ (.sound d) (p := legacy_path dir sid e)
      (name_ne hmem out_mem hname) (name_ne hmem in_mem hname)
    have hnone := hkept.symm.trans (hgone e hmem)
    obtain ⟨steps, hrun, -⟩ := migrate_run dir sid ⟨d, []⟩ [⟨d, []⟩] h.absent hf rfl rfl
    have hattempt : attempt (.sound d) = (true, ⟨⟨d, []⟩, [⟨d, []⟩], []⟩) := rfl
    rw [hattempt, if_pos rfl, hrun] at hnone
    have hseq : ∀ p, p ++ e ≠ legacy_seq_path dir sid ∧ p ++ e ≠ seq_path sid := fun p =>
      ⟨ext_ne_of_ne hmem seq_mem (seq_ne_log he).symm,
        ext_ne_of_ne hmem seq_mem (seq_ne_log he).symm⟩
    replace hnone :=
      ((Files.write_ne _ (hseq _).2).trans (Files.write_ne _ (hseq _).1)).symm.trans hnone
    simp only [List.mem_cons, List.not_mem_nil, or_false] at he
    rcases he with rfl | rfl
    · refine hboth.1 (Eq.trans ?_ hnone)
      refine Eq.symm ((moved_ne _ _ _ (out_ne_any_in _ _) (out_ne_any_in _ _)).trans ?_)
      rw [moved_of_some (d := ⟨d, []⟩) hg]
      rfl
    · refine hboth.1 (Eq.trans ?_ hnone)
      have hlogs := moved_ne (legacy_path dir sid out_ext) (store_path sid out_ext) ⟨d, []⟩
        (q := legacy_path dir sid in_ext) (Ne.symm (out_ne_any_in _ _))
          (Ne.symm (out_ne_any_in _ _))
      have hnew := moved_ne (legacy_path dir sid out_ext) (store_path sid out_ext) ⟨d, []⟩
        (q := store_path sid in_ext) (Ne.symm (out_ne_any_in _ _)) (Ne.symm (out_ne_any_in _ _))
      rw [moved_of_some (hnew.trans hg)]
      exact hlogs.symm
  · intro hclear
    have hstart : Carried dir sid d d := by
      refine .inl ⟨h.absent, rfl, hclear, ?_⟩
      intro g hg
      rw [hg, Option.some_or]
    have hcarried : ∀ d', Interrupted dir sid d d' → Carried dir sid d d' := by
      intro d' hint
      induction hint with
      | untouched => exact hstart
      | stopped opts _ hpassed ih =>
        obtain ⟨-, -, hsettled, htrail, -⟩ := ih.open_ hname hf hparse opts
        rcases List.mem_cons.mp hpassed with rfl | hmem
        · exact .inr hsettled
        · exact htrail _ hmem
    intro d' hint opts
    obtain ⟨hok, hseqs, hsettled, -, hrepaired⟩ := (hcarried d' hint).open_ hname hf hparse opts
    exact ⟨hok, hseqs, fun g hg => (hrepaired g hg).replays, hsettled.gone⟩

/-- A directory of old times: numbers, and a log of one record and a torn one. -/
def old_directory : Files := fun p =>
  if p = ascii "A-B.seqnums" then some (File.durable (seq_data 4 7))
  else if p = ascii "A-B.out.log" then some (File.durable (ascii "3|8=FIX.4.2\n4|8=F"))
  else none

/-- The same directory after a store of the new names was opened and its files were put back. -/
def mixed_directory : Files := old_directory.write (ascii "A~B.out.log") (some File.new)

theorem upgrade_old_directory :
    Upgrade .plain ⟨.FIX_4_2, ascii "A", ascii "B", []⟩ old_directory 4 7 where
  absent := by decide
  present := ⟨File.durable (seq_data 4 7), by decide, text_of_parse_seqs (by decide)⟩

/-- An upgrade of a directory of old times. -/
theorem legacy_comes_across_old_directory :
    Upgrade .plain ⟨.FIX_4_2, ascii "A", ascii "B", []⟩ old_directory 4 7 ∧
      ComesAcross .plain ⟨.FIX_4_2, ascii "A", ascii "B", []⟩ old_directory 4 7 := by
  refine ⟨upgrade_old_directory, (legacy_comes_across_iff upgrade_old_directory).mpr ?_⟩
  intro e he
  simp only [List.mem_cons, List.not_mem_nil, or_false] at he
  rcases he with rfl | rfl
  · exact .inr (by decide)
  · exact .inr (by decide)

/-- An empty log under the new name keeps the old log and its record away. -/
theorem legacy_log_left_behind :
    Upgrade .plain ⟨.FIX_4_2, ascii "A", ascii "B", []⟩ mixed_directory 4 7 ∧
      (open_ .plain ⟨.FIX_4_2, ascii "A", ascii "B", []⟩ ⟨false⟩ (.sound mixed_directory)).1 =
      .ok () ∧
      ((open_ .plain ⟨.FIX_4_2, ascii "A", ascii "B", []⟩ ⟨false⟩
        (.sound mixed_directory)).2.get_messages 1 0).1 = .ok [] ∧
      ((open_ .plain ⟨.FIX_4_2, ascii "A", ascii "B", []⟩ ⟨false⟩
        (.sound mixed_directory)).2.fs.disk
        (ascii "A-B.out.log")).map File.data = some (ascii "3|8=FIX.4.2\n4|8=F") := by
  refine ⟨⟨by decide, File.durable (seq_data 4 7), by decide,
    text_of_parse_seqs (by decide)⟩, ?_⟩
  decide

end FileStore

end FixEngine
