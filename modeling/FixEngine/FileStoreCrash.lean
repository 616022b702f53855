/-
`FileStoreCrash.lean` -- what a stop of the machine leaves of a file store.

`Holds P d` says of a disk that a store opened on anything a stop may have left of it
starts with counters in `P`, whichever of the renames that are not on stable storage
are undone by the stop. An open store is `Steady` while its disk holds its counters.
Every operation of the send path keeps the store steady and passes only through disks
that hold the counters of before or of after: the sequence file is replaced as a whole,
the directory is synced before the operation returns, and the logs are other files.
-/
import FixEngine.FileStoreSpec

set_option autoImplicit false

namespace FixEngine

open Decimal Storage

/-! ## File names -/

theorem ext_ne {a b : Path} (p q : Path) {x y : UInt8} (ha : a.getLast? = some x)
    (hb : b.getLast? = some y) (hne : x ≠ y) : p ++ a ≠ q ++ b := by
  intro heq
  have hlast := congrArg List.getLast? heq
  rw [List.getLast?_append, List.getLast?_append, ha, hb] at hlast
  exact hne (Option.some.inj hlast)

theorem seq_ne_seq_tmp (p q : Path) : p ++ seq_ext ≠ q ++ tmp_ext :=
  ext_ne p q (x := 115) (y := 112) (by decide) (by decide) (by decide)

theorem seq_ne_any_out (p q : Path) : p ++ seq_ext ≠ q ++ out_ext :=
  ext_ne p q (x := 115) (y := 103) (by decide) (by decide) (by decide)

theorem seq_ne_any_in (p q : Path) : p ++ seq_ext ≠ q ++ in_ext :=
  ext_ne p q (x := 115) (y := 103) (by decide) (by decide) (by decide)

namespace FileStore

/-- The sequence file under its name of now. -/
def seq_path (sid : SessionID) : Path := store_path sid seq_ext

/-- The sequence file under its old name. -/
def legacy_seq_path (dir : Directory) (sid : SessionID) : Path := legacy_path dir sid seq_ext

/-- The names of the sequence file. -/
def IsSeq (dir : Directory) (sid : SessionID) (p : Path) : Prop :=
  p = seq_path sid ∨ p = legacy_seq_path dir sid

section IsSeq

variable {dir : Directory} {sid : SessionID}

theorem not_isSeq {p : Path} (h : ∀ q, q ++ seq_ext ≠ p) : ¬IsSeq dir sid p := by
  rintro (rfl | rfl)
  · exact h _ rfl
  · exact h _ rfl

theorem not_isSeq_out (p : Path) : ¬IsSeq dir sid (p ++ out_ext) :=
  not_isSeq fun q => seq_ne_any_out q p

theorem not_isSeq_in (p : Path) : ¬IsSeq dir sid (p ++ in_ext) :=
  not_isSeq fun q => seq_ne_any_in q p

theorem not_isSeq_tmp (p : Path) : ¬IsSeq dir sid (p ++ tmp_ext) :=
  not_isSeq fun q => seq_ne_seq_tmp q p

end IsSeq

/-! ## The migration -/

/-- What the move of one log leaves. -/
def moved (src dst : Path) (d : Disk) : Disk :=
  if (d dst).isNone && (d src).isSome then d.move src dst else d

theorem moved_ne (src dst : Path) (d : Disk) {q : Path} (hsrc : q ≠ src) (hdst : q ≠ dst) :
    moved src dst d q = d q := by
  rw [moved]
  split_ifs
  · exact (Files.write_ne _ hdst).trans (Files.write_ne _ hsrc)
  · rfl

theorem moved_dst (src dst : Path) (d : Disk) : moved src dst d dst = (d dst).or (d src) := by
  rw [moved]
  rcases hdst : d dst with _ | f
  · rcases hsrc : d src with _ | g
    · exact hdst
    · exact (Files.write_self _ _ _).trans hsrc
  · exact hdst

theorem moved_of_some {src dst : Path} {d : Disk} {f : File} (h : d dst = some f) :
    moved src dst d = d := by
  rw [moved, h]
  rfl

theorem moved_src {src dst : Path} (d : Disk) (hne : src ≠ dst)
    (hfree : d src = none ∨ d dst = none) : moved src dst d src = none := by
  rcases hsrc : d src with _ | g
  · rw [moved, hsrc]
    split_ifs
    · exact (Files.write_ne _ hne).trans (Files.write_self _ _ _)
    · exact hsrc
  · have hdst : d dst = none := hfree.resolve_left (by rw [hsrc]; simp)
    rw [moved, hsrc, hdst]
    exact (Files.write_ne _ hne).trans (Files.write_self _ _ _)

theorem migrate_log_run (d : Disk) (tr : List Disk) (src dst : Path) :
    ∃ steps, migrate_log src dst ⟨d, tr, []⟩ = (true, ⟨moved src dst d, steps ++ tr, []⟩) ∧
      ∀ x ∈ steps, x = d := by
  rcases hdst : d dst with _ | f
  · rcases hsrc : d src with _ | g
    · refine ⟨[d, d], ?_, by simp⟩
      simp [migrate_log, hdst, hsrc, moved]
    · refine ⟨[d, d, d], ?_, by simp⟩
      simp [migrate_log, hdst, hsrc, rename, call, moved]
  · refine ⟨[d], ?_, by simp⟩
    rw [moved_of_some hdst]
    simp [migrate_log, hdst]

/-- **The migration** of a sequence file: the logs move first, the sequence file last. -/
theorem migrate_run (dir : Directory) (sid : SessionID) (d : Disk) (tr : List Disk) {f : File}
    (hseq : d (seq_path sid) = none) (hlegacy : d (legacy_seq_path dir sid) = some f) {d₁ d₂ : Disk}
    (hd₁ : d₁ = moved (legacy_path dir sid out_ext) (store_path sid out_ext) d)
    (hd₂ : d₂ = moved (legacy_path dir sid in_ext) (store_path sid in_ext) d₁) :
    ∃ steps, migrate_legacy_files dir sid ⟨d, tr, []⟩ =
        (true, ⟨d₂.move (legacy_seq_path dir sid) (seq_path sid), steps ++ tr, []⟩) ∧
      ∀ x ∈ steps, x = d ∨ x = d₁ ∨ x = d₂ := by
  obtain ⟨steps₁, hmoved₁, hsteps₁⟩ := migrate_log_run d (d :: d :: tr)
    (legacy_path dir sid out_ext) (store_path sid out_ext)
  obtain ⟨steps₂, hmoved₂, hsteps₂⟩ := migrate_log_run d₁ (steps₁ ++ d :: d :: tr)
    (legacy_path dir sid in_ext) (store_path sid in_ext)
  rw [← hd₁] at hmoved₁
  rw [← hd₂] at hmoved₂
  have hstill : d₂ (legacy_seq_path dir sid) = some f := by
    have hout : d₁ (legacy_seq_path dir sid) = some f := by
      rw [hd₁]
      exact (moved_ne _ _ d (seq_ne_any_out _ _) (seq_ne_any_out _ _)).trans hlegacy
    rw [hd₂]
    exact (moved_ne _ _ d₁ (seq_ne_any_in _ _) (seq_ne_any_in _ _)).trans hout
  refine ⟨d₂ :: (steps₂ ++ (steps₁ ++ [d, d])), ?_, ?_⟩
  · rw [seq_path] at hseq
    rw [legacy_seq_path] at hlegacy hstill
    simp [migrate_legacy_files, hseq, hlegacy, hmoved₁, hmoved₂, rename, call, hstill, seq_path,
      legacy_seq_path]
  · intro x hx
    simp only [List.mem_cons, List.mem_append, List.not_mem_nil, or_false] at hx
    rcases hx with hx | hx | hx | hx | hx
    · exact .inr (.inr hx)
    · exact .inr (.inl (hsteps₂ x hx))
    · exact .inl (hsteps₁ x hx)
    · exact .inl hx
    · exact .inl hx

/-- The sequence file that a store opened on the files reads: the one under the old name
is moved when there is none under the new name. -/
def stored_file (dir : Directory) (sid : SessionID) (fs : Files) : Option File :=
  (fs (seq_path sid)).or (fs (legacy_seq_path dir sid))

variable {dir : Directory} {sid : SessionID}

theorem stored_file_congr {fs fs' : Files}
    (h : ∀ p, IsSeq dir sid p → fs p = fs' p) :
    stored_file dir sid fs = stored_file dir sid fs' := by
  rw [stored_file, stored_file, h _ (.inl rfl), h _ (.inr rfl)]

theorem migrate_cases (dir : Directory) (sid : SessionID) (d : Disk) (tr : List Disk) :
    ∃ d' tr', migrate_legacy_files dir sid ⟨d, tr, []⟩ = (true, ⟨d', tr', []⟩) ∧
      ((d' = d ∧ (d (seq_path sid) = none → d (legacy_seq_path dir sid) = none)) ∨
        ∃ d₂, d' = d₂.move (legacy_seq_path dir sid) (seq_path sid) ∧ d (seq_path sid) = none ∧
          d₂ = moved (legacy_path dir sid in_ext) (store_path sid in_ext)
            (moved (legacy_path dir sid out_ext) (store_path sid out_ext) d)) := by
  rcases hseq : d (seq_path sid) with _ | f
  · rcases hlegacy : d (legacy_seq_path dir sid) with _ | g
    · refine ⟨d, d :: d :: tr, ?_, .inl ⟨rfl, fun _ => rfl⟩⟩
      rw [seq_path] at hseq
      rw [legacy_seq_path] at hlegacy
      simp [migrate_legacy_files, hseq, hlegacy]
    · obtain ⟨steps, hrun, -⟩ := migrate_run dir sid d tr hseq hlegacy rfl rfl
      exact ⟨_, _, hrun, .inr ⟨_, rfl, rfl, rfl⟩⟩
  · refine ⟨d, d :: tr, ?_, .inl ⟨rfl, fun hnone => absurd hnone (by simp)⟩⟩
    rw [seq_path] at hseq
    simp [migrate_legacy_files, hseq]

theorem moved_log_seq {src dst : Path}
    (hsrc : ¬IsSeq dir sid src) (hdst : ¬IsSeq dir sid dst) (d : Disk) :
    ∀ p, IsSeq dir sid p → moved src dst d p = d p := by
  intro p hp
  apply moved_ne
  · rintro rfl
    exact hsrc hp
  · rintro rfl
    exact hdst hp

theorem moved_logs_seq (dir : Directory) (sid : SessionID) (d : Disk) :
    ∀ p, IsSeq dir sid p → moved (legacy_path dir sid in_ext) (store_path sid in_ext)
      (moved (legacy_path dir sid out_ext) (store_path sid out_ext) d) p = d p := fun p hp =>
  (moved_log_seq (not_isSeq_in _) (not_isSeq_in _) _ p hp).trans
    (moved_log_seq (not_isSeq_out _) (not_isSeq_out _) _ p hp)

theorem move_seq_stored {d : Disk}
    (h : d (seq_path sid) = none) :
    stored_file dir sid (d.move (legacy_seq_path dir sid) (seq_path sid)).files =
      stored_file dir sid d.files := by
  rw [stored_file, stored_file, h, Option.none_or]
  have hnew : (d.move (legacy_seq_path dir sid) (seq_path sid)) (seq_path sid) =
      d (legacy_seq_path dir sid) := Files.write_self _ _ _
  rw [hnew]
  rcases hlegacy : d (legacy_seq_path dir sid) with _ | f
  · -- nothing was moved, so nothing stands under either name
    rw [Option.none_or]
    by_cases hsame : legacy_seq_path dir sid = seq_path sid
    · exact (congrArg _ hsame).trans (hnew.trans hlegacy)
    · exact (Files.write_ne _ hsame).trans (Files.write_self _ _ _)
  · rfl

theorem migrate_stored_file (dir : Directory) (sid : SessionID) (d : Disk) (tr : List Disk) :
    ∃ d' tr', migrate_legacy_files dir sid ⟨d, tr, []⟩ = (true, ⟨d', tr', []⟩) ∧
      d' (seq_path sid) = stored_file dir sid d.files := by
  obtain ⟨d', tr', hrun, ⟨rfl, hnone⟩ | ⟨d₂, rfl, hseq, hd₂⟩⟩ := migrate_cases dir sid d tr
  · refine ⟨d', tr', hrun, ?_⟩
    rw [stored_file]
    rcases hseq : d' (seq_path sid) with _ | f
    · rw [hnone hseq]
      rfl
    · rfl
  · refine ⟨_, tr', hrun, ?_⟩
    rw [stored_file, hseq, Option.none_or]
    refine (Files.write_self _ _ _).trans ?_
    rw [hd₂]
    exact moved_logs_seq dir sid d _ (.inr rfl)

theorem open_refuses (opts : FileStoreOptions) (fs : Files)
    (d : Disk) (tr : List Disk)
    (hmoved : migrate_legacy_files dir sid ⟨⟨fs, []⟩, [⟨fs, []⟩], []⟩ = (true, ⟨d, tr, []⟩))
    (hload : loads (d (seq_path sid)) = none) :
    (open_ dir sid opts (.sound fs)).1 = .error .StoreError := by
  rcases hfile : d (seq_path sid) with _ | f
  · rw [hfile] at hload
    exact absurd hload (by decide)
  · rw [hfile] at hload
    replace hload : parse_seqs f.data = none := hload
    rw [seq_path] at hfile
    unfold open_
    simp [blank, FileSystem.sound, hmoved, load_seqs, read_all, hfile, hload]

/-- **A store loads that file**, and refuses to start where the reader refuses it. -/
theorem reopen_loads (dir : Directory) (sid : SessionID) (opts : FileStoreOptions) (fs : Files) :
    match loads (stored_file dir sid fs) with
    | some p => (open_ dir sid opts (.sound fs)).1 = .ok () ∧
        IMessageStore.seqs (open_ dir sid opts (.sound fs)).2 = p
    | none => (open_ dir sid opts (.sound fs)).1 = .error .StoreError := by
  obtain ⟨d', tr', hmoved, hfile⟩ := migrate_stored_file dir sid ⟨fs, []⟩ [⟨fs, []⟩]
  rcases hload : loads (stored_file dir sid fs) with _ | ⟨s, t⟩
  · exact open_refuses opts fs d' tr' hmoved (hfile ▸ hload)
  · obtain ⟨index, pos, fs', hopened, -⟩ :=
      open_migrated dir sid opts ⟨fs, []⟩ d' [] tr' hmoved (s := s) (t := t) (hfile ▸ hload)
    rw [FileSystem.sound, hopened]
    exact ⟨rfl, rfl⟩

/-! ## Disks that hold counters -/

section Holds

variable (dir : Directory) (sid : SessionID)

/-- The files have the counters `p`: on stable storage, or in that there is no sequence file
yet. -/
structure Has (p : ℕ × ℕ) (fs : Files) : Prop where
  counters : loads (stored_file dir sid fs) = some p
  synced : ∀ f, stored_file dir sid fs = some f → f = File.durable f.data

/-- Whatever of the renames is undone, the files have counters in `P`. -/
def Holds (P : ℕ × ℕ → Prop) (d : Disk) : Prop := ∀ fs ∈ d.versions, ∃ p, P p ∧ Has dir sid p fs

/-- NextSender is at least `lo`. -/
def Safe (lo : ℕ) (d : Disk) : Prop := Holds dir sid (fun p => lo ≤ p.1) d

variable {dir sid}

theorem ne_nil_of_parse_seqs {data : Bytes} {p : ℕ × ℕ} (h : parse_seqs data = some p) :
    data ≠ [] := by
  rintro rfl
  have hnone : parse_seqs [] = none := by decide
  exact absurd (hnone.symm.trans h) (by simp)

theorem Has.congr {p : ℕ × ℕ} {fs fs' : Files} (h : Has dir sid p fs)
    (hsame : ∀ q, IsSeq dir sid q → fs' q = fs q) : Has dir sid p fs' := by
  have hstored : stored_file dir sid fs' = stored_file dir sid fs := stored_file_congr hsame
  exact ⟨hstored ▸ h.counters, hstored ▸ h.synced⟩

theorem Has.survives {p : ℕ × ℕ} {fs fs' : Files} (h : Has dir sid p fs)
    (hsurvives : ∀ q, Survives (fs q) (fs' q)) :
    stored_file dir sid fs' = stored_file dir sid fs := by
  have hkept : ∀ {q : Path} {f : File}, fs q = some f → stored_file dir sid fs = some f →
      fs' q = some f := by
    intro q f hq hstored
    have hload := h.counters
    rw [hstored] at hload
    have hdurable := h.synced f hstored
    have hleft := hsurvives q
    rw [hq, hdurable] at hleft
    rw [hdurable]
    exact Survives.of_durable (ne_nil_of_parse_seqs hload) hleft
  have hgone : ∀ {q : Path}, fs q = none → fs' q = none := by
    intro q hq
    have hleft := hsurvives q
    rw [hq] at hleft
    exact hleft
  rcases hseq : fs (seq_path sid) with _ | f
  · rcases hlegacy : fs (legacy_seq_path dir sid) with _ | g
    · rw [stored_file, stored_file, hgone hseq, hgone hlegacy, hseq, hlegacy]
    · have hstored : stored_file dir sid fs = some g := by rw [stored_file, hseq, hlegacy]; rfl
      rw [stored_file, hgone hseq, hkept hlegacy hstored, hstored]
      rfl
  · have hstored : stored_file dir sid fs = some f := by rw [stored_file, hseq]; rfl
    rw [stored_file, hkept hseq hstored, hstored]
    rfl

variable {P : ℕ × ℕ → Prop} {d : Disk}

/-- **A store opens on whatever a stop leaves**, with counters that the disk held. -/
theorem Holds.reopen {d' : Files} (h : Holds dir sid P d)
    (hcrash : CrashImage d d') (opts : FileStoreOptions) :
    (open_ dir sid opts (.sound d')).1 = .ok () ∧
      P (IMessageStore.seqs (open_ dir sid opts (.sound d')).2) := by
  obtain ⟨fs, hfs, hsurvives⟩ := hcrash
  obtain ⟨p, hp, hhas⟩ := h fs hfs
  have hloads := reopen_loads dir sid opts d'
  rw [hhas.survives hsurvives, hhas.counters] at hloads
  exact ⟨hloads.1, hloads.2 ▸ hp⟩

theorem Holds.imp {P Q : ℕ × ℕ → Prop} (h : Holds dir sid P d) (hPQ : ∀ p, P p → Q p) :
    Holds dir sid Q d := by
  intro fs hfs
  obtain ⟨p, hp, hhas⟩ := h fs hfs
  exact ⟨p, hPQ p hp, hhas⟩

theorem Holds.of_agree {d d' : Disk} (h : Holds dir sid P d)
    (hsep : Separate (IsSeq dir sid) d.unsynced) {q : Path} (hq : ¬IsSeq dir sid q)
    (hagree : Agree q d d') : Holds dir sid P d' := by
  intro fs hfs
  have hsame : ∀ p, IsSeq dir sid p → d' p = d p := by
    intro p hp
    apply hagree.files
    rintro rfl
    exact hq hp
  rw [Disk.versions, hagree.unsynced] at hfs
  obtain ⟨fs₀, hfs₀, heq⟩ := versions_congr hsep hsame hfs
  obtain ⟨p, hp, hhas⟩ := h fs₀ hfs₀
  exact ⟨p, hp, hhas.congr heq⟩

theorem Holds.move (h : Holds dir sid P d) {old new : Path}
    (hnow : ∃ p, P p ∧ Has dir sid p (d.move old new).files) :
    Holds dir sid P (d.move old new) := by
  intro fs hfs
  rw [versions_move] at hfs
  rcases List.mem_cons.mp hfs with rfl | hold
  · exact hnow
  · exact h fs hold

theorem Holds.moved (h : Holds dir sid P d) {src dst : Path}
    (hsrc : ¬IsSeq dir sid src) (hdst : ¬IsSeq dir sid dst) :
    Holds dir sid P (moved src dst d) := by
  have hseq := moved_log_seq hsrc hdst d
  rw [FileStore.moved] at hseq ⊢
  split_ifs at hseq ⊢
  · obtain ⟨p, hp, hhas⟩ := h d.files (mem_versions d)
    exact h.move ⟨p, hp, hhas.congr hseq⟩
  · exact h

theorem separate_moved (h : Separate (IsSeq dir sid) d.unsynced) {src dst : Path}
    (hsrc : ¬IsSeq dir sid src) (hdst : ¬IsSeq dir sid dst) :
    Separate (IsSeq dir sid) (moved src dst d).unsynced := by
  rw [FileStore.moved]
  split_ifs
  · intro r hr
    rcases List.mem_cons.mp hr with rfl | hold
    · exact iff_of_false hsrc hdst
    · exact h r hold
  · exact h

end Holds

/-! ## Steady stores -/

/-- The store has the files of `sid`, and its counters are those that its disk holds. -/
structure Steady (dir : Directory) (sid : SessionID) (st : FileStore) : Prop where
  seqfile : st.seqfile = seq_path sid
  outfile : st.outfile = store_path sid out_ext
  infile : st.infile = store_path sid in_ext
  counters : Holds dir sid (· = IMessageStore.seqs st) st.fs.disk
  separate : Separate (IsSeq dir sid) st.fs.disk.unsynced

variable {dir : Directory} {sid : SessionID} {lo : ℕ} {st st' st'' : FileStore}

theorem Steady.range (h : Steady dir sid st) :
    (1 ≤ st.sender_seq ∧ st.sender_seq < 2 ^ 64) ∧ 1 ≤ st.target_seq ∧ st.target_seq < 2 ^ 64 := by
  obtain ⟨_, rfl, hhas⟩ := h.counters _ (mem_versions _)
  exact loads_range hhas.counters

theorem Steady.with_faults (h : Steady dir sid st) (faults : List (Option Fault)) :
    Steady dir sid (st.with_faults faults) :=
  ⟨h.seqfile, h.outfile, h.infile, h.counters, h.separate⟩

theorem Steady.safe (h : Steady dir sid st) (hlo : lo ≤ st.sender_seq) :
    Safe dir sid lo st.fs.disk := by
  apply h.counters.imp
  rintro _ rfl
  exact hlo

/-- From `st` to `st'` the store stays steady, keeps NextSender at or above `lo`, and
passes through safe disks only. -/
structure Guarded (dir : Directory) (sid : SessionID) (lo : ℕ) (st st' : FileStore) : Prop where
  steady : Steady dir sid st'
  lo_le : lo ≤ st'.sender_seq
  passed : ∃ steps, st'.fs.trail = steps ++ st.fs.trail ∧ ∀ d ∈ steps, Safe dir sid lo d

theorem Guarded.refl (h : Steady dir sid st) (hlo : lo ≤ st.sender_seq) :
    Guarded dir sid lo st st :=
  ⟨h, hlo, [], rfl, by simp⟩

theorem Guarded.trans (h : Guarded dir sid lo st st') (h' : Guarded dir sid lo st' st'') :
    Guarded dir sid lo st st'' := by
  obtain ⟨steps, htrail, hsafe⟩ := h.passed
  obtain ⟨steps', htrail', hsafe'⟩ := h'.passed
  refine ⟨h'.steady, h'.lo_le, steps' ++ steps, ?_, ?_⟩
  · rw [htrail', htrail, List.append_assoc]
  · intro d hd
    exact (List.mem_append.mp hd).elim (hsafe' d) (hsafe d)

theorem Steady.guarded_of_touches {α : Type} {p : Path} {prog : FS α} (h : Steady dir sid st)
    (hlo : lo ≤ st.sender_seq) (htouches : Touches p prog) (hp : ¬IsSeq dir sid p)
    (hst' : st' = { st with
      out_stream := st'.out_stream, out_pos := st'.out_pos, in_stream := st'.in_stream,
      out_index := st'.out_index, fs := (prog st.fs).2 }) : Guarded dir sid lo st st' := by
  obtain ⟨hagree, steps, htrail, hsteps⟩ := htouches st.fs.disk st.fs (Agree.refl _ _)
  rw [hst']
  refine ⟨⟨h.seqfile, h.outfile, h.infile, ?_, ?_⟩, hlo, steps, htrail, ?_⟩
  · exact h.counters.of_agree h.separate hp hagree
  · show Separate _ (prog st.fs).2.disk.unsynced
    rw [hagree.unsynced]
    exact h.separate
  · intro d hd
    exact (h.safe hlo).of_agree h.separate hp (hsteps d hd)

theorem has_seq_data {s t : ℕ} (hs : 1 ≤ s ∧ s < 2 ^ 64) (ht : 1 ≤ t ∧ t < 2 ^ 64) {fs : Files}
    (hfile : fs (seq_path sid) = some (File.durable (seq_data s t))) : Has dir sid (s, t) fs := by
  have hstored : stored_file dir sid fs = some (File.durable (seq_data s t)) := by
    rw [stored_file, hfile]
    rfl
  refine ⟨?_, ?_⟩
  · rw [hstored]
    exact parse_seqs_seq_data hs.1 hs.2 ht.1 ht.2
  · intro f hf
    rw [← Option.some.inj (hstored.symm.trans hf)]
    rfl

/-- **The replacement of the sequence file.** Whatever fails, the store stays steady, and
every disk on the way holds the counters of before or of after. -/
theorem Steady.commit (h : Steady dir sid st) {s t : ℕ} (hs : 1 ≤ s ∧ s < 2 ^ 64)
    (ht : 1 ≤ t ∧ t < 2 ^ 64) :
    Steady dir sid (st.commit s t).2 ∧ ∃ steps, (st.commit s t).2.fs.trail = steps ++ st.fs.trail ∧
      ∀ d ∈ steps, Holds dir sid (fun p => p = IMessageStore.seqs st ∨ p = (s, t)) d := by
  have htmp : ¬IsSeq dir sid (seq_path sid ++ tmp_ext) := not_isSeq_tmp _
  obtain ⟨hreplaced, steps, htrail, hsteps⟩ := replace_file_spec st.fs.disk st.fs.faults
    (seq_path sid) (seq_data s t) st.fs ⟨rfl, rfl⟩
  have hbefore : ∀ d, Agree (seq_path sid ++ tmp_ext) st.fs.disk d →
      Holds dir sid (fun p => p = IMessageStore.seqs st ∨ p = (s, t)) d := fun d hagree =>
    (h.counters.of_agree h.separate htmp hagree).imp fun _ => .inl
  have hholds : ∀ d ∈ steps, Holds dir sid (fun p => p = IMessageStore.seqs st ∨ p = (s, t)) d := by
    intro d hd
    rcases hsteps d hd with hagree | ⟨d₁, hagree, hnew, rfl⟩
    · exact hbefore d hagree
    · -- the new file, until the directory is synced perhaps not in its place yet
      apply (hbefore d₁ hagree).move
      exact ⟨(s, t), .inr rfl, has_seq_data hs ht ((Files.write_self _ _ _).trans hnew)⟩
  rcases hdone : (replace_file (seq_path sid) (seq_data s t) st.fs).1 with _ | _
  · -- not replaced: the counters are taken back
    have hcommit : (st.commit s t).2 =
        { st with fs := (replace_file (seq_path sid) (seq_data s t) st.fs).2 } := by
      simp only [FileStore.commit, persist_seqs, h.seqfile, hdone, store_result]
      rfl
    have hagree : Agree (seq_path sid ++ tmp_ext) st.fs.disk
        (replace_file (seq_path sid) (seq_data s t) st.fs).2.disk := by
      refine ⟨fun q hq => ?_, ?_⟩
      · rw [hreplaced.files q hq, hdone, if_neg (fun h => absurd h.1 (by simp))]
      · rw [hreplaced.unsynced, hdone]
        rfl
    rw [hcommit]
    refine ⟨⟨h.seqfile, h.outfile, h.infile, ?_, ?_⟩, steps, htrail, hholds⟩
    · exact h.counters.of_agree h.separate htmp hagree
    · show Separate _ (replace_file (seq_path sid) (seq_data s t) st.fs).2.disk.unsynced
      rw [hagree.unsynced]
      exact h.separate
  · have hcommit : (st.commit s t).2 =
        { st with
          sender_seq := s, target_seq := t
          fs := (replace_file (seq_path sid) (seq_data s t) st.fs).2 } := by
      simp only [FileStore.commit, persist_seqs, h.seqfile, hdone, store_result]
      rfl
    -- the directory is synced, so there is nothing to undo
    have hsynced : (replace_file (seq_path sid) (seq_data s t) st.fs).2.disk.unsynced = [] := by
      rw [hreplaced.unsynced, hdone]
      rfl
    have hfile : (replace_file (seq_path sid) (seq_data s t) st.fs).2.disk (seq_path sid) =
        some (File.durable (seq_data s t)) := by
      rw [hreplaced.files _ (ne_tmp _), hdone, if_pos ⟨rfl, rfl⟩]
    rw [hcommit]
    refine ⟨⟨h.seqfile, h.outfile, h.infile, ?_, ?_⟩, steps, htrail, hholds⟩
    · intro fs hfs
      replace hfs : fs ∈ (replace_file (seq_path sid) (seq_data s t) st.fs).2.disk.versions := hfs
      rw [Disk.versions, hsynced] at hfs
      rw [List.mem_singleton.mp hfs]
      exact ⟨(s, t), rfl, has_seq_data hs ht hfile⟩
    · show Separate _ (replace_file (seq_path sid) (seq_data s t) st.fs).2.disk.unsynced
      rw [hsynced]
      exact fun r hr => absurd hr List.not_mem_nil

theorem Steady.guarded_commit (h : Steady dir sid st) (hlo : lo ≤ st.sender_seq) {s t : ℕ}
    (hs : 1 ≤ s ∧ s < 2 ^ 64) (ht : 1 ≤ t ∧ t < 2 ^ 64) (hlos : lo ≤ s) :
    Guarded dir sid lo st (st.commit s t).2 := by
  obtain ⟨hsteady, steps, htrail, hholds⟩ := h.commit hs ht
  have hmoves := commit_moves s t st
  refine ⟨hsteady, ?_, steps, htrail, ?_⟩
  · rw [IMessageStore.Moves] at hmoves
    split at hmoves
    · exact hlos.trans_eq (congrArg Prod.fst hmoves).symm
    · exact hlo.trans_eq (congrArg Prod.fst hmoves).symm
  · intro d hd
    apply (hholds d hd).imp
    rintro _ (rfl | rfl)
    · exact hlo
    · exact hlos

/-! ## Operations of the send path -/

theorem touches_fsync_path (p : Path) : Touches p (fsync_path p) := by
  apply touches_bind touches_attempt
  intro ok
  rcases ok with _ | _
  · exact touches_pure false
  · exact touches_fsync

theorem touches_append (p : Path) (bytes : Bytes) :
    Touches p (write_all p bytes >>= fun _ => fsync_path p) :=
  touches_bind (touches_write_all bytes) fun _ => touches_fsync_path p

/-- **Storing a frame is guarded**, whatever fails: it touches the log only. -/
theorem Steady.guarded_store_outbound (h : Steady dir sid st) (hlo : lo ≤ st.sender_seq) (seq : ℕ)
    (raw : Bytes) : Guarded dir sid lo st (st.store_outbound seq raw).2 := by
  have hlog : ¬IsSeq dir sid st.outfile := h.outfile ▸ not_isSeq_out _
  rw [store_outbound]
  split
  · exact Guarded.refl h hlo
  · dsimp only
    split
    · exact h.guarded_of_touches hlo (touches_write_all _) hlog rfl
    · split
      · split
        · exact h.guarded_of_touches hlo (touches_append _ _) hlog rfl
        · exact h.guarded_of_touches hlo (touches_append _ _) hlog rfl
      · exact h.guarded_of_touches hlo (touches_write_all _) hlog rfl

theorem Steady.guarded_store_inbound (h : Steady dir sid st) (hlo : lo ≤ st.sender_seq) (seq : ℕ)
    (raw : Bytes) : Guarded dir sid lo st (st.store_inbound seq raw).2 := by
  have hlog : ¬IsSeq dir sid st.infile := h.infile ▸ not_isSeq_in _
  rw [store_inbound]
  split
  · exact Guarded.refl h hlo
  · dsimp only
    split
    · exact h.guarded_of_touches hlo (touches_write_all _) hlog rfl
    · split
      · exact h.guarded_of_touches hlo (touches_append _ _) hlog rfl
      · exact h.guarded_of_touches hlo (touches_write_all _) hlog rfl

theorem Steady.guarded_get_messages (h : Steady dir sid st) (hlo : lo ≤ st.sender_seq)
    (first last : ℕ) : Guarded dir sid lo st (st.get_messages first last).2 := by
  have hlog : ¬IsSeq dir sid st.outfile := h.outfile ▸ not_isSeq_out _
  rw [get_messages]
  split
  · exact h.guarded_of_touches hlo (touches_open_read _) hlog rfl
  · exact h.guarded_of_touches hlo (touches_bind (touches_open_read _) fun _ => touches_read_limit)
      hlog rfl

theorem Steady.guarded_set_next_sender (h : Steady dir sid st) (hlo : lo ≤ st.sender_seq) {n : ℕ}
    (hn : 1 ≤ n ∧ n < 2 ^ 64) (hlon : lo ≤ n) :
    Guarded dir sid lo st (st.set_next_sender_seq_num n).2 := by
  rw [set_next_sender_seq_num]
  split
  · exact Guarded.refl h hlo
  · exact h.guarded_commit hlo hn h.range.2 hlon

theorem Steady.guarded_set_next_target (h : Steady dir sid st) (hlo : lo ≤ st.sender_seq) {n : ℕ}
    (hn : 1 ≤ n ∧ n < 2 ^ 64) : Guarded dir sid lo st (st.set_next_target_seq_num n).2 := by
  rw [set_next_target_seq_num]
  split
  · exact Guarded.refl h hlo
  · exact h.guarded_commit hlo h.range.1 hn hlo

theorem Steady.guarded_advance_next_target (h : Steady dir sid st) (hlo : lo ≤ st.sender_seq)
    {n : ℕ} (hn : n < 2 ^ 64) :
    Guarded dir sid lo st (st.advance_next_target_seq_num n).2 := by
  rw [advance_next_target_seq_num]
  split
  · exact Guarded.refl h hlo
  · split
    · exact Guarded.refl h hlo
    · rename_i hmore
      have hn' : 1 ≤ n ∧ n < 2 ^ 64 := by
        have := h.range.2.1
        omega
      exact h.guarded_commit hlo h.range.1 hn' hlo

theorem Steady.guarded_claim (h : Steady dir sid st) (hlo : lo ≤ st.sender_seq) :
    Guarded dir sid lo st st.next_sender_seq_num_incr.2 ∧
      ∀ n, st.next_sender_seq_num_incr.1 = .ok n →
        n = st.sender_seq ∧ st.next_sender_seq_num_incr.2.sender_seq = n + 1 := by
  have hlt := h.range.1.2
  by_cases hfull : (st.closed || st.sender_seq == 2 ^ 64 - 1) = true
  · have hrefused : st.next_sender_seq_num_incr = (.error .StoreError, st) := by
      rw [next_sender_seq_num_incr, if_pos hfull]
    rw [hrefused]
    exact ⟨Guarded.refl h hlo, by simp⟩
  · have hnext : seq_succ st.sender_seq = st.sender_seq + 1 := by
      simp only [Bool.or_eq_true, beq_iff_eq, not_or] at hfull
      rw [seq_succ, Nat.mod_eq_of_lt (by omega)]
    have hmoves := commit_moves (seq_succ st.sender_seq) st.target_seq st
    rw [IMessageStore.Moves] at hmoves
    rw [next_sender_seq_num_incr, if_neg hfull]
    refine ⟨?_, ?_⟩
    · have hs : 1 ≤ seq_succ st.sender_seq ∧ seq_succ st.sender_seq < 2 ^ 64 :=
        ⟨by omega, Nat.mod_lt _ (by decide)⟩
      exact h.guarded_commit hlo hs h.range.2 (by omega)
    · intro n hn
      rcases hdone : (st.commit (seq_succ st.sender_seq) st.target_seq).1 with e | _
      · simp only [hdone, Except.map] at hn
        simp at hn
      · rw [hdone] at hmoves
        simp only [hdone, Except.map] at hn
        injection hn with hn
        rw [← hn, ← hnext]
        exact ⟨rfl, congrArg Prod.fst hmoves⟩

/-! ## Opening -/

/-- The sequence file is on stable storage, under either name. -/
def SequenceSynced (dir : Directory) (sid : SessionID) (fs : Files) : Prop :=
  ∀ f, fs (seq_path sid) = some f ∨ fs (legacy_seq_path dir sid) = some f → f = File.durable f.data

theorem Holds.migrate {p : ℕ × ℕ} {d d' : Disk} {tr tr' : List Disk} (h : Holds dir sid (· = p) d)
    (hsep : Separate (IsSeq dir sid) d.unsynced)
    (hrun : migrate_legacy_files dir sid ⟨d, tr, []⟩ = (true, ⟨d', tr', []⟩)) :
    Holds dir sid (· = p) d' ∧ Separate (IsSeq dir sid) d'.unsynced := by
  obtain ⟨d'', tr'', hrun', hcases⟩ := migrate_cases dir sid d tr
  obtain rfl : d'' = d' := by
    have hdisks := hrun'.symm.trans hrun
    injection hdisks with _ hfs
    injection hfs
  rcases hcases with ⟨rfl, -⟩ | ⟨d₂, rfl, hseq, hd₂⟩
  · exact ⟨h, hsep⟩
  · have hin : Holds dir sid (· = p) d₂ := by
      rw [hd₂]
      exact (h.moved (not_isSeq_out _) (not_isSeq_out _)).moved (not_isSeq_in _) (not_isSeq_in _)
    have hsep₂ : Separate (IsSeq dir sid) d₂.unsynced := by
      rw [hd₂]
      exact separate_moved (separate_moved hsep (not_isSeq_out _) (not_isSeq_out _))
        (not_isSeq_in _)
        (not_isSeq_in _)
    have hnone : d₂ (seq_path sid) = none := by
      rw [hd₂]
      exact (moved_logs_seq dir sid d _ (.inl rfl)).trans hseq
    refine ⟨hin.move ?_, ?_⟩
    · obtain ⟨_, rfl, hhas⟩ := hin d₂.files (mem_versions d₂)
      have hstored : stored_file dir sid (d₂.move (legacy_seq_path dir sid) (seq_path sid)).files =
          stored_file dir sid d₂.files := move_seq_stored hnone
      exact ⟨_, rfl, hstored ▸ hhas.counters, hstored ▸ hhas.synced⟩
    · intro r hr
      rcases List.mem_cons.mp hr with rfl | hold
      · exact iff_of_true (.inr rfl) (.inl rfl)
      · exact hsep₂ r hold

/-- **A store that opened is steady.** -/
theorem steady_of_open {opts : FileStoreOptions} {fs : Files} (hsynced : SequenceSynced dir sid fs)
    (hopen : (open_ dir sid opts (.sound fs)).1 = .ok ()) :
    Steady dir sid (open_ dir sid opts (.sound fs)).2 := by
  obtain ⟨d', tr', hmoved, hstored⟩ := migrate_stored_file dir sid ⟨fs, []⟩ [⟨fs, []⟩]
  rcases hload : loads (stored_file dir sid fs) with _ | ⟨s, t⟩
  · have hrefused := open_refuses opts fs d' tr' hmoved (hstored ▸ hload)
    rw [hopen] at hrefused
    simp at hrefused
  · have hhas : Has dir sid (s, t) fs := by
      refine ⟨hload, fun f hf => hsynced f ?_⟩
      rcases Option.or_eq_some_iff.mp hf with hseq | ⟨-, hlegacy⟩
      · exact .inl hseq
      · exact .inr hlegacy
    have hstart : Holds dir sid (· = (s, t)) ⟨fs, []⟩ := by
      intro v hv
      rw [List.mem_singleton.mp hv]
      exact ⟨_, rfl, hhas⟩
    obtain ⟨hholds, hsep⟩ := hstart.migrate (fun r hr => absurd hr List.not_mem_nil) hmoved
    obtain ⟨index, pos, fs', hopened, -, -, hrenames, hkeep, -⟩ :=
      open_migrated dir sid opts ⟨fs, []⟩ d' [] tr' hmoved (s := s) (t := t) (hstored ▸ hload)
    rw [FileSystem.sound, hopened]
    -- opening changed the two logs only
    have hseq : ∀ p, IsSeq dir sid p → fs'.disk p = d' p := by
      rintro p (rfl | rfl)
      · exact hkeep _ (seq_ne_any_out _ _) (seq_ne_any_in _ _)
      · exact hkeep _ (seq_ne_any_out _ _) (seq_ne_any_in _ _)
    refine ⟨rfl, rfl, rfl, ?_, ?_⟩
    · intro v hv
      replace hv : v ∈ fs'.disk.versions := hv
      rw [Disk.versions, hrenames] at hv
      obtain ⟨v₀, hv₀, heq⟩ := versions_congr hsep hseq hv
      obtain ⟨p, hp, hhas⟩ := hholds v₀ hv₀
      exact ⟨p, hp, hhas.congr heq⟩
    · show Separate _ fs'.disk.unsynced
      rw [hrenames]
      exact hsep

end FileStore

end FixEngine
