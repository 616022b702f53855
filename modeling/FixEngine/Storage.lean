/-
`Storage.lean` -- a file system that can fail and crash, with a crash Hoare logic.

A disk maps names to files, and a file knows how many of its leading bytes are
on stable storage. A rename is atomic, but it is on stable storage only when the
directory has been synced: until then the disk remembers how to undo it. Every
call of a program is one step: it meets the next outcome of a fault script
(success, or failure after some bytes), and it leaves the disk it started from on
a trail, so that the trail of a run lists every state in which the machine could
have stopped. `CrashImage` says what may be found after such a stop: the newest
renames that were not synced may be undone, bytes that were synced survive, and
bytes that were not may be lost or replaced by anything.

`Spec P prog C Q` is the triple of crash Hoare logic: from a disk and fault
script in `P`, the program ends in `Q` and every disk it passes through is in
`C`. The rules below it (`spec_pure`, `spec_bind`, `spec_step`, `spec_conseq`)
are all that a client needs; each operation has its step lemma.
-/
import FixEngine.Decimal

set_option autoImplicit false

namespace FixEngine.Storage

open FixEngine.Decimal (Bytes)

/-! ## Disks -/

abbrev Path := Bytes

/-- A file: its bytes, and how many of them are on stable storage. -/
structure File where
  data : Bytes
  synced : ℕ
  deriving DecidableEq, Repr

namespace File

/-- A file all of whose bytes are on stable storage. -/
def durable (data : Bytes) : File := ⟨data, data.length⟩

/-- A file just created. -/
def new : File := ⟨[], 0⟩

/-- Bytes written at the end are not on stable storage yet. -/
def append (f : File) (bytes : Bytes) : File := { f with data := f.data ++ bytes }

/-- The file cut, or filled with zeros, to the length `n`. -/
def resize (f : File) (n : ℕ) : File :=
  ⟨f.data.take n ++ List.replicate (n - f.data.length) 0, min f.synced n⟩

end File

/-- What stands under the names. -/
abbrev Files := Path → Option File

namespace Files

/-- The files with `f` under the name `p`. -/
def write (fs : Files) (p : Path) (f : Option File) : Files := fun q => if q = p then f else fs q

@[simp] theorem write_self (fs : Files) (p : Path) (f : Option File) : fs.write p f p = f :=
  if_pos rfl

theorem write_ne {fs : Files} {p q : Path} (f : Option File) (h : q ≠ p) :
    fs.write p f q = fs q :=
  if_neg h

end Files

/-- A rename, and what stood under the new name before it. -/
structure Rename where
  old : Path
  new : Path
  was : Option File

/-- The files as if the rename had not been: the file is back under its old name. -/
def Rename.undo (r : Rename) (fs : Files) : Files := (fs.write r.old (fs r.new)).write r.new r.was

/-- The files, and the renames that are not on stable storage yet, newest first. -/
structure Disk where
  files : Files
  unsynced : List Rename

namespace Disk

instance : CoeFun Disk fun _ => Path → Option File := ⟨files⟩

/-- The disk with `f` under the name `p`. -/
def write (d : Disk) (p : Path) (f : Option File) : Disk := { d with files := d.files.write p f }

@[simp] theorem write_self (d : Disk) (p : Path) (f : Option File) : d.write p f p = f :=
  if_pos rfl

theorem write_ne {d : Disk} {p q : Path} (f : Option File) (h : q ≠ p) : d.write p f q = d q :=
  if_neg h

theorem congr_files {d d' : Disk} (h : d = d') (p : Path) : d p = d' p := congrArg (files · p) h

/-- The file `old` under the name `new`. -/
def move (d : Disk) (old new : Path) : Disk where
  files := (d.files.write old none).write new (d old)
  unsynced := ⟨old, new, d new⟩ :: d.unsynced

end Disk

/-- The files now, and with the newest renames undone one after the other. -/
def versions (fs : Files) : List Rename → List Files
  | [] => [fs]
  | r :: rest => fs :: versions (r.undo fs) rest

/-- What the directory may be found to hold after a stop. -/
def Disk.versions (d : Disk) : List Files := Storage.versions d.files d.unsynced

/-- What a stop of the machine may leave of one file. Synced bytes survive; of the
others some number is found, with any contents. A file without synced bytes may
be gone. -/
def Survives : Option File → Option File → Prop
  | none, g => g = none
  | some f, none => f.synced = 0
  | some f, some g => ∃ junk : Bytes, junk.length ≤ f.data.length - f.synced ∧
      g = File.durable (f.data.take f.synced ++ junk)

/-- `d'` may be found after the machine stopped with the disk `d`. -/
def CrashImage (d : Disk) (d' : Files) : Prop := ∃ fs ∈ d.versions, ∀ p, Survives (fs p) (d' p)

theorem Survives.of_durable {data : Bytes} {g : Option File} (hne : data ≠ [])
    (h : Survives (some (File.durable data)) g) : g = some (File.durable data) := by
  rcases g with _ | g
  · exact absurd (List.length_eq_zero_iff.mp h) hne
  · obtain ⟨junk, hlen, hg⟩ := h
    have hjunk : junk = [] := by
      apply List.length_eq_zero_iff.mp
      simpa only [File.durable, Nat.sub_self, Nat.le_zero] using hlen
    rw [hg, hjunk, List.append_nil]
    simp only [File.durable, List.take_length]

/-- The files with only their synced bytes. -/
def Disk.stop (d : Disk) : Files := fun p => (d p).map fun f => File.durable (f.data.take f.synced)

theorem mem_versions (d : Disk) : d.files ∈ d.versions := by
  rcases d with ⟨fs, _ | ⟨r, rest⟩⟩
  · exact List.mem_cons_self
  · exact List.mem_cons_self

theorem crashImage_stop (d : Disk) : CrashImage d d.stop := by
  refine ⟨d.files, mem_versions d, fun p => ?_⟩
  rw [Disk.stop]
  rcases d p with _ | f
  · rfl
  · exact ⟨[], Nat.zero_le _, by rw [List.append_nil]⟩

theorem undo_move (d : Disk) (old new : Path) :
    Rename.undo ⟨old, new, d new⟩ (d.move old new).files = d.files := by
  funext q
  rw [Rename.undo]
  by_cases hnew : q = new
  · rw [hnew, Files.write_self]
  · rw [Files.write_ne _ hnew]
    by_cases hold : q = old
    · rw [hold, Files.write_self]
      exact Files.write_self _ _ _
    · rw [Files.write_ne _ hold]
      exact (Files.write_ne _ hnew).trans (Files.write_ne _ hold)

theorem versions_move (d : Disk) (old new : Path) :
    (d.move old new).versions = (d.move old new).files :: d.versions :=
  congrArg (fun fs => (d.move old new).files :: versions fs d.unsynced)
    (undo_move d old new)

/-! ### Versions of the files under some names -/

/-- No rename leads into or out of the names `S`. -/
def Separate (S : Path → Prop) (renames : List Rename) : Prop :=
  ∀ r ∈ renames, S r.old ↔ S r.new

theorem Rename.undo_congr {S : Path → Prop} {r : Rename} (hr : S r.old ↔ S r.new) {fs fs' : Files}
    (h : ∀ p, S p → fs p = fs' p) : ∀ p, S p → r.undo fs p = r.undo fs' p := by
  intro p hp
  rw [Rename.undo, Rename.undo]
  by_cases hnew : p = r.new
  · rw [hnew, Files.write_self, Files.write_self]
  · rw [Files.write_ne _ hnew, Files.write_ne _ hnew]
    by_cases hold : p = r.old
    · subst hold
      rw [Files.write_self, Files.write_self]
      exact h _ (hr.mp hp)
    · rw [Files.write_ne _ hold, Files.write_ne _ hold]
      exact h p hp

theorem versions_congr {S : Path → Prop} {renames : List Rename} (hsep : Separate S renames)
    {fs fs' : Files} (h : ∀ p, S p → fs p = fs' p) {v : Files} (hv : v ∈ versions fs renames) :
    ∃ v' ∈ versions fs' renames, ∀ p, S p → v p = v' p := by
  induction renames generalizing fs fs' with
  | nil =>
    rw [List.mem_singleton.mp hv]
    exact ⟨fs', List.mem_cons_self, h⟩
  | cons r rest ih =>
    rcases List.mem_cons.mp hv with rfl | hv
    · exact ⟨fs', List.mem_cons_self, h⟩
    · have hr := hsep r List.mem_cons_self
      have hrest : Separate S rest := fun r' hr' => hsep r' (List.mem_cons_of_mem r hr')
      obtain ⟨v', hv', hsame⟩ := ih hrest (Rename.undo_congr hr h) hv
      exact ⟨v', List.mem_cons_of_mem _ hv', hsame⟩

/-! ## Programs -/

/-- A call fails after having moved this many bytes. -/
abbrev Fault := ℕ

/-- The disk, the disks before each step so far (newest first), and the outcomes
of the calls to come; a script that has run out means success. -/
structure FileSystem where
  disk : Disk
  trail : List Disk
  faults : List (Option Fault)

namespace FileSystem

/-- A machine just started on these files, on which every call will succeed. -/
def sound (fs : Files) : FileSystem := ⟨⟨fs, []⟩, [], []⟩

/-- Every disk passed through so far, the present one included. -/
def passed (fs : FileSystem) : List Disk := fs.disk :: fs.trail

end FileSystem

abbrev FS (α : Type) := StateM FileSystem α

/-- One call: `act` says what it returns and leaves, given its outcome. -/
def call {α : Type} (act : Option Fault → Disk → α × Disk) : FS α := fun fs =>
  let r := act fs.faults.head?.join fs.disk
  (r.1, ⟨r.2, fs.disk :: fs.trail, fs.faults.tail⟩)

/-- A call that does nothing to the disk and returns whether it succeeded. -/
def attempt : FS Bool := call fun o d => (o.isNone, d)

/-- A call that changes the disk unless it fails, and returns whether it succeeded. -/
def update (act : Disk → Disk) : FS Bool := call fun o d =>
  if o.isNone then (true, act d) else (false, d)

/-- Does the file exist? `none`: the question could not be answered. -/
def exists_file (p : Path) : FS (Option Bool) := call fun o d =>
  (if o.isNone then some (d p).isSome else none, d)

/-- Open for writing, creating the file or discarding its contents. -/
def open_trunc (p : Path) : FS Bool := update fun d => d.write p (some File.new)

/-- Open for writing at the end, creating the file when it is missing. -/
def open_append (p : Path) : FS Bool := update fun d => d.write p (some ((d p).getD File.new))

/-- Write at the end. A failing write may have written the first bytes. -/
def write_all (p : Path) (bytes : Bytes) : FS Bool := call fun o d =>
  (o.isNone, d.write p (some (((d p).getD File.new).append
    (match o with
      | none => bytes
      | some k => bytes.take k))))

/-- Force the file's bytes to stable storage. -/
def fsync (p : Path) : FS Bool := update fun d => d.write p ((d p).map fun f => File.durable f.data)

/-- Move a file, replacing what stood under the new name. -/
def rename (old new : Path) : FS Bool := call fun o d =>
  if o.isNone && (d old).isSome then (true, d.move old new) else (false, d)

/-- Force the renames to stable storage. The callers do not look at the outcome; a file
system that refuses to sync a directory is taken to have its renames on stable storage. -/
def sync_directory : FS Bool := call fun o d => (o.isNone, { d with unsynced := [] })

/-- Delete a file. -/
def remove (p : Path) : FS Bool := update fun d => d.write p none

/-- Set the length of a file. -/
def resize_file (p : Path) (n : ℕ) : FS Bool := call fun o d =>
  if o.isNone && (d p).isSome then (true, d.write p ((d p).map fun f => f.resize n)) else (false, d)

/-- Open a file for reading; `none`: it could not be opened. -/
def open_read (p : Path) : FS (Option Bytes) := call fun o d =>
  (if o.isNone then (d p).map File.data else none, d)

/-- How many bytes the reads of an open file give before one of them fails; `none`: none
of them does. -/
def read_limit : FS (Option ℕ) := call fun o d => (o, d)

theorem call_of_outcome {α : Type} (act : Option Fault → Disk → α × Disk) (d : Disk)
    (tr : List Disk) {fl : List (Option Fault)} {o : Option Fault} (h : fl.head?.join = o) :
    call act ⟨d, tr, fl⟩ = ((act o d).1, ⟨(act o d).2, d :: tr, fl.tail⟩) := by
  subst h
  rfl

/-! ## Runs without faults

Each operation computes when the fault script is empty; these equations are the
simp set of such runs. -/

section Quiet

variable {α β : Type} (d : Disk) (tr : List Disk) (p q : Path)

@[simp] theorem bind_apply (prog : FS α) (next : α → FS β) (fs : FileSystem) :
    (prog >>= next) fs = next (prog fs).1 (prog fs).2 := rfl

@[simp] theorem pure_apply (a : α) (fs : FileSystem) : (pure a : FS α) fs = (a, fs) := rfl

@[simp] theorem attempt_quiet : attempt ⟨d, tr, []⟩ = (true, ⟨d, d :: tr, []⟩) := rfl

@[simp] theorem exists_file_quiet :
    exists_file p ⟨d, tr, []⟩ = (some (d p).isSome, ⟨d, d :: tr, []⟩) := rfl

@[simp] theorem open_append_quiet :
    open_append p ⟨d, tr, []⟩ =
      (true, ⟨d.write p (some ((d p).getD File.new)), d :: tr, []⟩) := rfl

@[simp] theorem write_all_quiet (bytes : Bytes) :
    write_all p bytes ⟨d, tr, []⟩ =
      (true, ⟨d.write p (some (((d p).getD File.new).append bytes)), d :: tr, []⟩) := rfl

@[simp] theorem fsync_quiet :
    fsync p ⟨d, tr, []⟩ =
      (true, ⟨d.write p ((d p).map fun f => File.durable f.data), d :: tr, []⟩) := rfl

@[simp] theorem open_read_quiet :
    open_read p ⟨d, tr, []⟩ = ((d p).map File.data, ⟨d, d :: tr, []⟩) := rfl

@[simp] theorem read_limit_quiet : read_limit ⟨d, tr, []⟩ = (none, ⟨d, d :: tr, []⟩) := rfl

theorem resize_file_quiet {f : File} (hf : d p = some f) (n : ℕ) :
    resize_file p n ⟨d, tr, []⟩ = (true, ⟨d.write p (some (f.resize n)), d :: tr, []⟩) := by
  simp [resize_file, call, hf]

end Quiet

/-! ## Crash Hoare logic -/

abbrev Assertion := Disk → List (Option Fault) → Prop

/-- From `P` the program ends in `Q`, and every disk it passes through on the way
is in `C`. -/
def Spec {α : Type} (P : Assertion) (prog : FS α) (C : Disk → Prop) (Q : α → Assertion) : Prop :=
  ∀ fs : FileSystem, P fs.disk fs.faults →
    Q (prog fs).1 (prog fs).2.disk (prog fs).2.faults ∧
      ∃ steps, (prog fs).2.trail = steps ++ fs.trail ∧ ∀ d ∈ steps, C d

section Rules

variable {α β : Type} {P P' : Assertion} {C C' : Disk → Prop} {Q Q' : α → Assertion}

theorem spec_pure {a : α} (h : ∀ d fl, P d fl → Q a d fl) : Spec P (pure a) C Q := by
  intro fs hP
  exact ⟨h _ _ hP, [], rfl, fun d hd => absurd hd List.not_mem_nil⟩

/-- **The rule of sequence.** The crash condition of the whole is that of both parts. -/
theorem spec_bind {prog : FS α} {next : α → FS β} {R : β → Assertion} (hprog : Spec P prog C Q)
    (hnext : ∀ a, Spec (Q a) (next a) C R) : Spec P (prog >>= next) C R := by
  intro fs hP
  obtain ⟨hQ, steps₁, htrail₁, hsteps₁⟩ := hprog fs hP
  obtain ⟨hR, steps₂, htrail₂, hsteps₂⟩ := hnext (prog fs).1 (prog fs).2 hQ
  refine ⟨hR, steps₂ ++ steps₁, ?_, ?_⟩
  · rw [List.append_assoc, ← htrail₁]
    exact htrail₂
  · intro d hd
    exact (List.mem_append.mp hd).elim (hsteps₂ d) (hsteps₁ d)

theorem spec_guard {prog : FS Bool} {Q : Bool → Assertion} {abort next : FS β} {R : β → Assertion}
    (hprog : Spec P prog C Q) (habort : Spec (Q false) abort C R)
    (hnext : Spec (Q true) next C R) :
    Spec P (prog >>= fun ok => if (!ok) = true then abort else next) C R := by
  apply spec_bind hprog
  intro ok
  rcases ok with _ | _
  · exact habort
  · exact hnext

/-- **The rule of consequence**, with a crash condition that may be weakened like the
postcondition. -/
theorem spec_conseq {prog : FS α} (h : Spec P' prog C' Q') (hP : ∀ d fl, P d fl → P' d fl)
    (hC : ∀ d, C' d → C d) (hQ : ∀ a d fl, Q' a d fl → Q a d fl) : Spec P prog C Q := by
  intro fs hPfs
  obtain ⟨hpost, steps, htrail, hsteps⟩ := h fs (hP _ _ hPfs)
  exact ⟨hQ _ _ _ hpost, steps, htrail, fun d hd => hC d (hsteps d hd)⟩

theorem spec_call {act : Option Fault → Disk → α × Disk} (hC : ∀ d fl, P d fl → C d)
    (hQ : ∀ d fl, P d fl →
      Q (act fl.head?.join d).1 (act fl.head?.join d).2 fl.tail) :
    Spec P (call act) C Q := by
  intro fs hP
  refine ⟨hQ _ _ hP, [fs.disk], rfl, ?_⟩
  intro d hd
  rw [List.mem_singleton.mp hd]
  exact hC _ _ hP

theorem spec_update {act : Disk → Disk} {Q : Bool → Assertion} (hC : ∀ d fl, P d fl → C d)
    (hok : ∀ d fl, P d fl → fl.head?.join = none → Q true (act d) fl.tail)
    (hfail : ∀ d fl, P d fl → fl ≠ [] → Q false d fl.tail) : Spec P (update act) C Q := by
  apply spec_call hC
  intro d fl hP
  rcases hout : fl.head?.join with _ | k
  · exact hok d fl hP hout
  · apply hfail d fl hP
    rintro rfl
    simp at hout

theorem spec_attempt {Q : Bool → Assertion} (hC : ∀ d fl, P d fl → C d)
    (hok : ∀ d fl, P d fl → Q true d fl.tail)
    (hfail : ∀ d fl, P d fl → fl ≠ [] → Q false d fl.tail) : Spec P attempt C Q := by
  apply spec_call hC
  intro d fl hP
  rcases hout : fl.head?.join with _ | k
  · exact hok d fl hP
  · apply hfail d fl hP
    rintro rfl
    simp at hout

end Rules

/-! ## Programs that touch one file -/

/-- Only the file `p` may differ. -/
structure Agree (p : Path) (d₀ d : Disk) : Prop where
  files : ∀ q, q ≠ p → d q = d₀ q
  unsynced : d.unsynced = d₀.unsynced

theorem Agree.refl (p : Path) (d : Disk) : Agree p d d := ⟨fun _ _ => rfl, rfl⟩

/-- The program changes no file but `p`, at no time. -/
def Touches {α : Type} (p : Path) (prog : FS α) : Prop :=
  ∀ d₀, Spec (fun d _ => Agree p d₀ d) prog (Agree p d₀) (fun _ d _ => Agree p d₀ d)

section Touches

variable {α β : Type} {p : Path}

theorem Agree.write {d₀ d : Disk} (h : Agree p d₀ d) (f : Option File) :
    Agree p d₀ (d.write p f) :=
  ⟨fun q hq => (Disk.write_ne f hq).trans (h.files q hq), h.unsynced⟩

theorem touches_call {act : Option Fault → Disk → α × Disk}
    (h : ∀ o d, (act o d).2 = d ∨ ∃ f, (act o d).2 = d.write p f) : Touches p (call act) := by
  intro d₀
  apply spec_call
  · intro d fl hd
    exact hd
  · intro d fl hd
    rcases h fl.head?.join d with hsame | ⟨f, hwrite⟩
    · rw [hsame]
      exact hd
    · rw [hwrite]
      exact hd.write f

theorem touches_bind {prog : FS α} {next : α → FS β} (h : Touches p prog)
    (hnext : ∀ a, Touches p (next a)) : Touches p (prog >>= next) :=
  fun d₀ => spec_bind (h d₀) fun a => hnext a d₀

theorem touches_pure (a : α) : Touches p (pure a) :=
  fun _ => spec_pure fun _ _ h => h

theorem touches_attempt : Touches p attempt :=
  touches_call fun _ _ => .inl rfl

theorem touches_open_read (q : Path) : Touches p (open_read q) :=
  touches_call fun _ _ => .inl rfl

theorem touches_read_limit : Touches p read_limit :=
  touches_call fun _ _ => .inl rfl

theorem touches_write_all (bytes : Bytes) : Touches p (write_all p bytes) :=
  touches_call fun _ _ => .inr ⟨_, rfl⟩

theorem touches_fsync : Touches p (fsync p) := by
  apply touches_call
  intro o d
  rcases o with _ | k
  · exact .inr ⟨_, rfl⟩
  · exact .inl rfl

end Touches

/-! ## Programs that leave one file alone -/

/-- Whatever fails, the program ends with the file `p` as it was. -/
def Keeps {α : Type} (p : Path) (prog : FS α) : Prop := ∀ fs, (prog fs).2.disk p = fs.disk p

section Keeps

variable {α β : Type} {p : Path}

theorem keeps_bind {prog : FS α} {next : α → FS β} (h : Keeps p prog)
    (hnext : ∀ a, Keeps p (next a)) :
    Keeps p (prog >>= next) :=
  fun fs => (hnext _ _).trans (h fs)

theorem keeps_pure (a : α) : Keeps p (pure a) := fun _ => rfl

theorem keeps_exists_file (q : Path) : Keeps p (exists_file q) := fun _ => rfl

theorem keeps_open_read (q : Path) : Keeps p (open_read q) := fun _ => rfl

theorem keeps_read_limit : Keeps p read_limit := fun _ => rfl

theorem Touches.keeps {prog : FS α} {q : Path} (h : Touches q prog) (hne : p ≠ q) : Keeps p prog :=
  fun fs => (h fs.disk fs (Agree.refl _ _)).1.files p hne

theorem keeps_call {act : Option Fault → Disk → α × Disk} (h : ∀ o d, (act o d).2 p = d p) :
    Keeps p (call act) := fun _ => h _ _

theorem keeps_open_append {q : Path} (hne : p ≠ q) : Keeps p (open_append q) := by
  apply keeps_call
  intro o d
  rcases o with _ | k
  · exact Disk.write_ne _ hne
  · rfl

theorem keeps_resize_file {q : Path} (hne : p ≠ q) (n : ℕ) : Keeps p (resize_file q n) := by
  apply keeps_call
  intro o d
  split
  · exact Disk.write_ne _ hne
  · rfl

theorem keeps_rename {old new : Path} (hold : p ≠ old) (hnew : p ≠ new) :
    Keeps p (rename old new) := by
  apply keeps_call
  intro o d
  split
  · exact (Files.write_ne _ hnew).trans (Files.write_ne _ hold)
  · rfl

end Keeps

/-! ## Programs that do not look at one file -/

/-- The two file systems differ in the file `p` at most; their histories may differ. -/
structure SameBut (p : Path) (fs fs' : FileSystem) : Prop where
  files : ∀ q, q ≠ p → fs'.disk q = fs.disk q
  faults : fs'.faults = fs.faults

/-- The program does the same whatever stands under `p`. -/
def Blind {α : Type} (p : Path) (prog : FS α) : Prop :=
  ∀ fs fs', SameBut p fs fs' → (prog fs').1 = (prog fs).1 ∧ SameBut p (prog fs).2 (prog fs').2

section Blind

variable {α β : Type} {p : Path}

theorem blind_bind {prog : FS α} {next : α → FS β} (h : Blind p prog)
    (hnext : ∀ a, Blind p (next a)) :
    Blind p (prog >>= next) := by
  intro fs fs' hsame
  obtain ⟨hresult, hafter⟩ := h fs fs' hsame
  rw [bind_apply, bind_apply, hresult]
  exact hnext _ _ _ hafter

theorem blind_pure (a : α) : Blind p (pure a) := fun _ _ hsame => ⟨rfl, hsame⟩

theorem blind_call {act : Option Fault → Disk → α × Disk}
    (h : ∀ o d d', (∀ q, q ≠ p → d' q = d q) →
      (act o d').1 = (act o d).1 ∧ ∀ q, q ≠ p → (act o d').2 q = (act o d).2 q) :
    Blind p (call act) := by
  intro fs fs' hsame
  obtain ⟨hresult, hfiles⟩ := h fs.faults.head?.join fs.disk fs'.disk hsame.files
  rw [call, call, hsame.faults]
  exact ⟨hresult, hfiles, rfl⟩

theorem blind_exists_file {q : Path} (hq : q ≠ p) : Blind p (exists_file q) := by
  apply blind_call
  intro o d d' hsame
  rw [hsame q hq]
  exact ⟨rfl, hsame⟩

theorem blind_open_read {q : Path} (hq : q ≠ p) : Blind p (open_read q) := by
  apply blind_call
  intro o d d' hsame
  rw [hsame q hq]
  exact ⟨rfl, hsame⟩

theorem blind_read_limit : Blind p read_limit := by
  apply blind_call
  intro o d d' hsame
  exact ⟨rfl, hsame⟩

theorem blind_attempt : Blind p attempt := by
  apply blind_call
  intro o d d' hsame
  exact ⟨rfl, hsame⟩

theorem sameBut_write {d d' : Disk} (hsame : ∀ q, q ≠ p → d' q = d q) (r : Path) (f : Option File) :
    ∀ q, q ≠ p → d'.write r f q = d.write r f q := by
  intro q hq
  by_cases hr : q = r
  · rw [hr, Disk.write_self, Disk.write_self]
  · rw [Disk.write_ne _ hr, Disk.write_ne _ hr, hsame q hq]

theorem blind_open_append {q : Path} (hq : q ≠ p) : Blind p (open_append q) := by
  apply blind_call
  intro o d d' hsame
  rcases o with _ | k
  · refine ⟨rfl, ?_⟩
    show ∀ r, r ≠ p → d'.write q _ r = d.write q _ r
    rw [hsame q hq]
    exact sameBut_write hsame q _
  · exact ⟨rfl, hsame⟩

theorem blind_write_all {q : Path} (hq : q ≠ p) (bytes : Bytes) : Blind p (write_all q bytes) := by
  apply blind_call
  intro o d d' hsame
  rw [hsame q hq]
  exact ⟨rfl, sameBut_write hsame q _⟩

theorem blind_fsync {q : Path} (hq : q ≠ p) : Blind p (fsync q) := by
  apply blind_call
  intro o d d' hsame
  rcases o with _ | k
  · refine ⟨rfl, ?_⟩
    show ∀ r, r ≠ p → d'.write q _ r = d.write q _ r
    rw [hsame q hq]
    exact sameBut_write hsame q _
  · exact ⟨rfl, hsame⟩

theorem blind_resize_file {q : Path} (hq : q ≠ p) (n : ℕ) : Blind p (resize_file q n) := by
  apply blind_call
  intro o d d' hsame
  rw [hsame q hq]
  split
  · exact ⟨rfl, sameBut_write hsame q _⟩
  · exact ⟨rfl, hsame⟩

end Blind

/-! ## Scripts -/

/-- The next `n` calls succeed. -/
def Clear (n : ℕ) (faults : List (Option Fault)) : Prop := ∀ o ∈ faults.take n, o = none

theorem clear_zero (faults : List (Option Fault)) : Clear 0 faults := by
  intro o ho
  simp at ho

theorem clear_succ (n : ℕ) (faults : List (Option Fault)) :
    Clear (n + 1) faults ↔ faults.head?.join = none ∧ Clear n faults.tail := by
  rcases faults with _ | ⟨o, faults⟩
  · simp [Clear]
  · rw [Clear, List.take_succ_cons, List.forall_mem_cons]
    rfl

theorem clear_add (m n : ℕ) (faults : List (Option Fault)) :
    Clear (m + n) faults ↔ Clear m faults ∧ Clear n (faults.drop m) := by
  induction m generalizing faults with
  | zero => simp [clear_zero]
  | succ m ih =>
    rw [Nat.succ_add, clear_succ, clear_succ, ih, and_assoc, List.drop_tail]

theorem update_result (act : Disk → Disk) (fs : FileSystem) :
    (update act fs).1 = fs.faults.head?.join.isNone := by
  rw [update, call]
  rcases fs.faults.head?.join with _ | k <;> rfl

theorem rename_result {old : Path} (new : Path) {fs : FileSystem}
    (h : (fs.disk old).isSome = true) :
    (rename old new fs).1 = fs.faults.head?.join.isNone := by
  rw [rename, call, h]
  rcases fs.faults.head?.join with _ | k <;> rfl

theorem resize_file_result {p : Path} {n : ℕ} {fs : FileSystem} (h : (fs.disk p).isSome = true) :
    (resize_file p n fs).1 = fs.faults.head?.join.isNone := by
  rw [resize_file, call, h]
  rcases fs.faults.head?.join with _ | k <;> rfl

theorem write_all_isSome (p : Path) (bytes : Bytes) (fs : FileSystem) :
    ((write_all p bytes fs).2.disk p).isSome = true :=
  congrArg Option.isSome (Disk.write_self _ _ _)

theorem fsync_isSome (p : Path) (fs : FileSystem) :
    ((fsync p fs).2.disk p).isSome = (fs.disk p).isSome := by
  rw [fsync, update, call]
  rcases fs.faults.head?.join with _ | k
  · exact (congrArg Option.isSome (Disk.write_self _ _ _)).trans Option.isSome_map
  · rfl

theorem guarded_ok_iff {prog abort next : FS Bool} {fs : FileSystem} (n : ℕ)
    (hresult : (prog fs).1 = fs.faults.head?.join.isNone)
    (hfaults : (prog fs).2.faults = fs.faults.tail) (habort : ∀ fs, (abort fs).1 = false)
    (hnext : (next (prog fs).2).1 = true ↔ Clear n (prog fs).2.faults) :
    ((prog >>= fun ok => if (!ok) = true then abort else next) fs).1 = true ↔
      Clear (n + 1) fs.faults := by
  rw [bind_apply, hresult, clear_succ, ← hfaults, ← hnext]
  rcases fs.faults.head?.join with _ | k
  · simp
  · simp [habort]

end FixEngine.Storage
