/-
`FileStore.lean` -- the persistent store of `src/store/file_store.cpp`.

The store keeps its two counters in a sequence file that is replaced as a whole
(temporary file, fsync, rename) and its outbound frames in a log of lines
`<seq>|<raw>\n`, of which an in-memory index holds the byte offsets. The
functions below follow the source one by one: the file names with their
escaping, the migration of files under the old names, the strict reader of the
sequence file, the rebuild of the index with the repair of a torn last line, and
the operations of the interface. Each file-system call the source looks at is
one call of `Storage`, so that it can fail and the machine can stop after it.

A stream is open and good, open and failed, or closed. A write that fails leaves
the stream failed, as `std::ofstream` does, and some first bytes of the record
in the file. An append-mode stream has an offset of its own, which `tellp` reports:
the end of the file when it was opened, and after each write. A file that is cut
under an open stream leaves that offset behind.

The names of now have no slash in them. The names of old are not escaped, so they
are paths; `Directory` says which of them lead back to the directory of the store.
-/
import FixEngine.Store
import FixEngine.Storage

set_option autoImplicit false

namespace FixEngine

open Decimal Storage

/-! ## File names -/

/-- The default `cap` of `sanitize_component`. -/
def kComponentCap : ℕ := 32

def kHex : Bytes := ascii "0123456789ABCDEF"

/-- `kHex[n]`, for `n < 16`. -/
def hex_digit (n : ℕ) : UInt8 := kHex.getD n 0

/-- A byte that stands for itself in a file name: `[A-Za-z0-9_-]`. -/
def is_safe (u : UInt8) : Bool :=
  (65 ≤ u && u ≤ 90) || (97 ≤ u && u ≤ 122) || (48 ≤ u && u ≤ 57) || u == 95 || u == 45

def escape_byte (u : UInt8) : Bytes :=
  if is_safe u then [u] else [37, hex_digit (u.toNat / 16), hex_digit (u.toNat % 16)]

/-- The 64-bit FNV-1a hash. -/
def fnv1a (raw : Bytes) : UInt64 :=
  raw.foldl (fun h c => (h ^^^ c.toUInt64) * 0x100000001b3) 0xcbf29ce484222325

/-- The low 32 bits of a hash as eight hexadecimal digits. -/
def fingerprint (h : UInt64) : Bytes :=
  [28, 24, 20, 16, 12, 8, 4, 0].map fun shift => hex_digit (h.toNat / 2 ^ shift % 16)

/-- `FileStore::sanitize_component`. -/
def sanitize_component (raw : Bytes) (cap : ℕ) : Bytes :=
  if raw.isEmpty then ascii "%0"
  else
    let out := (raw.take cap).flatMap escape_byte
    if cap < raw.length then out ++ 126 :: fingerprint (fnv1a raw) else out

/-- `FileStore::make_prefix`. -/
def make_prefix (sid : SessionID) : Path :=
  let pair := sanitize_component sid.senderCompID kComponentCap ++ 126 ::
    sanitize_component sid.targetCompID kComponentCap
  if sid.qualifier.isEmpty then pair
  else pair ++ 126 :: sanitize_component sid.qualifier kComponentCap

/-- The name before escaping was introduced: `<sender>-<target>`. -/
def legacy_prefix (sid : SessionID) : Path := sid.senderCompID ++ 45 :: sid.targetCompID

/-- A part of a path, up to a slash, that leads nowhere else: `./`, `.//` and the like. -/
def dot_part (part : Path) : Bool :=
  part.head? != some 47 && (part.splitOn 47).all fun c => c.isEmpty || c == [46]

/-- The directory of a store, as the operating system resolves the paths below it: `own` says
which directory parts of a path, up to their last slash, lead back to the directory. These
are at least those made of dots; `../store/`, an absolute path or a symbolic link may be
others. -/
structure Directory where
  own : Path → Bool
  dots : ∀ part, dot_part part = true → own part = true

/-- A directory to which only dots lead back. -/
def Directory.plain : Directory := ⟨dot_part, fun _ h => h⟩

/-- The part of a path up to its last slash. -/
def directory_part (raw : Path) : Path := raw.rdropWhile (· != 47)

/-- The part of a path behind its last slash. -/
def file_part (raw : Path) : Path := raw.rtakeWhile (· != 47)

/-- The name under which the file `dir / raw` stands in the directory; a path that leads
elsewhere stands for itself, with its slashes. A text with a NUL is not a path. -/
def Directory.entry (dir : Directory) (raw : Path) : Path :=
  if raw.contains 0 then raw
  else if dir.own (directory_part raw) then file_part raw else raw

def seq_ext : Path := ascii ".seqnums"

def out_ext : Path := ascii ".out.log"

def in_ext : Path := ascii ".in.log"

def tmp_ext : Path := ascii ".tmp"

/-- `dir_ / (prefix + ext)`. -/
def store_path (sid : SessionID) (ext : Path) : Path := make_prefix sid ++ ext

/-- `dir / (legacy + ext)`: no extension has a slash, so the three files of the old name stand in
one directory. -/
def legacy_path (dir : Directory) (sid : SessionID) (ext : Path) : Path :=
  (dir.entry <| legacy_prefix sid) ++ ext

/-! ## Protocols on the file system -/

/-- `fsync_path`: fsync through a second handle. -/
def fsync_path (p : Path) : FS Bool := do
  if !(← attempt) then return false
  fsync p

/-- Move one log of the old name unless the new one exists or there is none. -/
def migrate_log (src dst : Path) : FS Bool := do
  match ← exists_file dst with
  | some false =>
    match ← exists_file src with
    | some true => rename src dst
    | _ => return true
  | _ => return true

/-- `migrate_legacy_files`: the logs first, the sequence file last. -/
def migrate_legacy_files (dir : Directory) (sid : SessionID) : FS Bool := do
  match ← exists_file (store_path sid seq_ext) with
  | some false =>
    match ← exists_file (legacy_path dir sid seq_ext) with
    | some true =>
      if !(← migrate_log (legacy_path dir sid out_ext) (store_path sid out_ext)) then return false
      if !(← migrate_log (legacy_path dir sid in_ext) (store_path sid in_ext)) then return false
      rename (legacy_path dir sid seq_ext) (store_path sid seq_ext)
    | _ => return true
  | _ => return true

/-- `discard_tmp` of `persist_seqs`. -/
def discard_tmp (tmp : Path) : FS Bool := do
  let _ ← attempt
  let _ ← remove tmp
  return false

/-- The file-system side of `persist_seqs`: write the temporary file, fsync and close
it, rename it over the sequence file, fsync the directory if that is possible. -/
def replace_file (seqfile : Path) (data : Bytes) : FS Bool := do
  let tmp := seqfile ++ tmp_ext
  if !(← open_trunc tmp) then return false
  if !(← write_all tmp data) then return ← discard_tmp tmp
  if !(← fsync tmp) then return ← discard_tmp tmp
  if !(← attempt) then
    let _ ← remove tmp
    return false
  if !(← rename tmp seqfile) then
    let _ ← remove tmp
    return false
  let _ ← sync_directory
  return true

/-- Read a whole file through `std::istreambuf_iterator`, out of which a read that fails
throws. -/
def read_all (p : Path) : FS (Option Bytes) := do
  match ← open_read p with
  | none => return none
  | some data =>
    match ← read_limit with
    | none => return some data
    | some _ => return none

/-! ## The sequence file -/

/-- The whitespace of the sequence file. -/
def is_ws (c : UInt8) : Bool := c == 32 || c == 9 || c == 13 || c == 10

/-- What `persist_seqs` writes. -/
def seq_data (s t : ℕ) : Bytes := to_chars s ++ LF :: (to_chars t ++ [LF])

/-- The parser of `load_seqs`. -/
def parse_seqs (content : Bytes) : Option (ℕ × ℕ) :=
  if content.any fun c => !is_digit c && !is_ws c then none
  else
    -- std::from_chars fails on an empty range, as the explicit check does
    match from_chars_unsigned (2 ^ 64) (content.dropWhile is_ws) with
    | .ok s rest =>
      -- the two numbers must be separated
      if (rest.head?.map is_ws).getD false then
        match from_chars_unsigned (2 ^ 64) (rest.dropWhile is_ws) with
        | .ok t rest =>
          if (rest.dropWhile is_ws).isEmpty && decide (1 ≤ s) && decide (1 ≤ t) then some (s, t)
          else none
        | _ => none
      else none
    | _ => none

/-! ## The outbound log -/

def BAR : UInt8 := 124

/-- One line of a log. -/
def log_record (seq : ℕ) (raw : Bytes) : Bytes := to_chars seq ++ BAR :: (raw ++ [LF])

/-- The index with a complete line that starts at `pos`; a line without a number
of at least one before its first bar is skipped. -/
def index_line (line : Bytes) (pos : ℕ) (index : OrdMap ℕ ℕ) : OrdMap ℕ ℕ :=
  if BAR ∈ line then
    match parse_unsigned (2 ^ 64) (line.takeWhile (· != BAR)) with
    | some seq => if 0 < seq then index.insert seq pos else index
    | none => index
  else index

/-- The `getline` loop of `rebuild_index`. `line` is what was extracted since `pos`,
where the record being examined starts. The result is the index, and where a torn
last line starts. -/
def rebuild_loop : Bytes → Bytes → ℕ → OrdMap ℕ ℕ → OrdMap ℕ ℕ × Option ℕ
  | [], line, pos, index => (index, if line.isEmpty then none else some pos)
  | c :: rest, line, pos, index =>
    if c = LF then
      rebuild_loop rest [] (pos + line.length + 1) (index_line line pos index)
    else rebuild_loop rest (line ++ [c]) pos index

/-- The loop of `get_messages` over the indexed offsets, with the bytes that can be read
before a read fails. The stream stays `good` unless a `getline` extracts nothing or its
read fails, which leaves what was extracted so far; a failed stream yields empty lines. -/
def read_records (data : Bytes) : Option ℕ → List (ℕ × ℕ) → Bool → List (ℕ × Bytes)
  | _, [], _ => []
  | limit, (seq, pos) :: rest, good =>
    let tail := data.drop pos
    let whole := tail.takeWhile (· != LF)
    let line := if good then limit.elim whole fun k => whole.take k else []
    let broken := limit.elim false fun k => decide (k ≤ whole.length)
    let more := read_records data (limit.map (· - (whole.length + 1))) rest
      (good && !tail.isEmpty && !broken)
    match line.dropWhile (· != BAR) with
    | [] => more
    | _ :: raw => (seq, raw) :: more

/-! ## The store -/

/-- `FileStore::Options`. -/
structure FileStoreOptions where
  fsync_messages : Bool
  deriving DecidableEq, Repr

inductive Stream where
  | closed
  | good
  | failed
  deriving DecidableEq, Repr

structure FileStore where
  seqfile : Path
  outfile : Path
  infile : Path
  opts : FileStoreOptions
  sender_seq : ℕ
  target_seq : ℕ
  out_stream : Stream
  /-- The offset of the outbound stream. -/
  out_pos : ℕ
  in_stream : Stream
  out_index : OrdMap ℕ ℕ
  closed : Bool
  fs : FileSystem

/-- `Result<void>` of a call that can only fail with `StoreError`. -/
def store_result (ok : Bool) : Result Unit := if ok then .ok () else .error .StoreError

/-- `out_stream_.open(..., app)`. -/
def opened (ok : Bool) : Stream := if ok then .good else .closed

namespace FileStore

def load_seqs (st : FileStore) : Result Unit × FileStore :=
  let found := exists_file st.seqfile st.fs
  match found.1 with
  | none => (.error .StoreError, { st with fs := found.2 })
  | some false => (.ok (), { st with sender_seq := 1, target_seq := 1, fs := found.2 })
  | some true =>
    let content := read_all st.seqfile found.2
    match content.1.bind parse_seqs with
    | none => (.error .StoreError, { st with fs := content.2 })
    | some (s, t) => (.ok (), { st with sender_seq := s, target_seq := t, fs := content.2 })

def persist_seqs (st : FileStore) : Result Unit × FileStore :=
  let done := replace_file st.seqfile (seq_data st.sender_seq st.target_seq) st.fs
  (store_result done.1, { st with fs := done.2 })

def rebuild_index (st : FileStore) : Result Unit × FileStore :=
  let content := open_read st.outfile st.fs
  match content.1 with
  | none => (.ok (), { st with fs := content.2 })
  | some data =>
    let limit := read_limit content.2
    match limit.1 with
    | some k =>
      -- the failing getline drops what it has extracted and ends the loop; `torn` stays false
      let scanned := rebuild_loop (data.take k) [] 0 .empty
      (.ok (), { st with out_index := scanned.1, fs := limit.2 })
    | none =>
      match rebuild_loop data [] 0 .empty with
      | (index, none) => (.ok (), { st with out_index := index, fs := limit.2 })
      | (index, some last_good) =>
        let cut := resize_file st.outfile last_good limit.2
        (store_result cut.1, { st with out_index := index, fs := cut.2 })

/-- The store before its constructor has read anything. -/
def blank (sid : SessionID) (opts : FileStoreOptions) (fs : FileSystem) : FileStore where
  seqfile := store_path sid seq_ext
  outfile := store_path sid out_ext
  infile := store_path sid in_ext
  opts := opts
  sender_seq := 1
  target_seq := 1
  out_stream := .closed
  out_pos := 0
  in_stream := .closed
  out_index := .empty
  closed := false
  fs := fs

/-- Where the file ends. -/
def file_end (p : Path) (fs : FileSystem) : ℕ := (fs.disk p).elim 0 fun f => f.data.length

/-- Open both logs for appending. A log that cannot be opened is not fatal. -/
def open_streams (st : FileStore) : FileStore :=
  let out := open_append st.outfile st.fs
  let inb := open_append st.infile out.2
  { st with
    out_stream := opened out.1, out_pos := file_end st.outfile out.2, in_stream := opened inb.1,
    fs := inb.2 }

/-- The constructor, and `FileStore::open`: the error for what the constructor throws. -/
def open_ (dir : Directory) (sid : SessionID) (opts : FileStoreOptions) (fs : FileSystem) :
    Result Unit × FileStore :=
  let st := blank sid opts fs
  -- create_directories
  let made := attempt st.fs
  if !made.1 then (.error .StoreError, { st with fs := made.2 })
  else
    let moved := migrate_legacy_files dir sid made.2
    if !moved.1 then (.error .StoreError, { st with fs := moved.2 })
    else
      let loaded := { st with fs := moved.2 }.load_seqs
      match loaded.1 with
      | .error e => (.error e, loaded.2)
      | .ok _ =>
        let indexed := loaded.2.rebuild_index
        match indexed.1 with
        | .error e => (.error e, indexed.2)
        | .ok _ => (.ok (), indexed.2.open_streams)

/-! ### Sequence mutations -/

/-- The shape of every counter mutation: the new counters are kept only if they
could be persisted. -/
def commit (s t : ℕ) (st : FileStore) : Result Unit × FileStore :=
  let done := { st with sender_seq := s, target_seq := t }.persist_seqs
  match done.1 with
  | .ok _ => (.ok (), done.2)
  | .error e =>
    (.error e, { done.2 with sender_seq := st.sender_seq, target_seq := st.target_seq })

def set_next_sender_seq_num (n : ℕ) (st : FileStore) : Result Unit × FileStore :=
  if st.closed then (.error .StoreError, st) else st.commit n st.target_seq

def set_next_target_seq_num (n : ℕ) (st : FileStore) : Result Unit × FileStore :=
  if st.closed then (.error .StoreError, st) else st.commit st.sender_seq n

def incr_sender_seq_num (st : FileStore) : Result Unit × FileStore :=
  if st.closed || st.sender_seq == 2 ^ 64 - 1 then (.error .StoreError, st)
  else st.commit (seq_succ st.sender_seq) st.target_seq

def incr_target_seq_num (st : FileStore) : Result Unit × FileStore :=
  if st.closed || st.target_seq == 2 ^ 64 - 1 then (.error .StoreError, st)
  else st.commit st.sender_seq (seq_succ st.target_seq)

def next_sender_seq_num_incr (st : FileStore) : Result ℕ × FileStore :=
  if st.closed || st.sender_seq == 2 ^ 64 - 1 then (.error .StoreError, st)
  else
    let done := st.commit (seq_succ st.sender_seq) st.target_seq
    (done.1.map fun _ => st.sender_seq, done.2)

def advance_next_target_seq_num (n : ℕ) (st : FileStore) : Result Unit × FileStore :=
  if st.closed then (.error .StoreError, st)
  else if n ≤ st.target_seq then (.ok (), st)
  else st.commit st.sender_seq n

/-! ### Message logs -/

/-- `out_stream_.tellp()`. -/
def tellp (st : FileStore) : ℕ := st.out_pos

def store_outbound (seq : ℕ) (raw : Bytes) (st : FileStore) : Result Unit × FileStore :=
  if st.closed || st.out_stream != .good then (.error .StoreError, st)
  else
    let pos := st.tellp
    let written := write_all st.outfile (log_record seq raw) st.fs
    if !written.1 then (.error .StoreError, { st with out_stream := .failed, fs := written.2 })
    else
      -- the write went to the end of the file, wherever the stream stood
      let st := { st with out_pos := file_end st.outfile written.2 }
      let indexed := st.out_index.insert seq pos
      if st.opts.fsync_messages then
        let synced := fsync_path st.outfile written.2
        if !synced.1 then (.error .StoreError, { st with fs := synced.2 })
        else (.ok (), { st with out_index := indexed, fs := synced.2 })
      else (.ok (), { st with out_index := indexed, fs := written.2 })

def store_inbound (seq : ℕ) (raw : Bytes) (st : FileStore) : Result Unit × FileStore :=
  if st.closed || st.in_stream != .good then (.error .StoreError, st)
  else
    let written := write_all st.infile (log_record seq raw) st.fs
    if !written.1 then (.error .StoreError, { st with in_stream := .failed, fs := written.2 })
    else if st.opts.fsync_messages then
      let synced := fsync_path st.infile written.2
      (store_result synced.1, { st with fs := synced.2 })
    else (.ok (), { st with fs := written.2 })

def get_messages (first last : ℕ) (st : FileStore) : Result (List (ℕ × Bytes)) × FileStore :=
  let content := open_read st.outfile st.fs
  match content.1 with
  | none => (.error .StoreError, { st with fs := content.2 })
  | some data =>
    let limit := read_limit content.2
    let walk := st.out_index.range first (walk_end last st.out_index)
    (.ok (read_records data limit.1 walk true), { st with fs := limit.2 })

/-! ### Reset, refresh and close -/

/-- Cut a file to nothing if it exists. -/
def truncate (p : Path) : FS Bool := do
  match ← exists_file p with
  | none => return false
  | some false => return true
  | some true => resize_file p 0

def reset (st : FileStore) : Result Unit × FileStore :=
  if st.closed then (.error .StoreError, st)
  else
    let st := { st with
      sender_seq := 1, target_seq := 1, out_index := .empty,
      out_stream := .closed, in_stream := .closed }
    let out := truncate st.outfile st.fs
    if !out.1 then (.error .StoreError, { st with fs := out.2 })
    else
      let inb := truncate st.infile out.2
      if !inb.1 then (.error .StoreError, { st with fs := inb.2 })
      else
        let done := { st with fs := inb.2 }.persist_seqs
        match done.1 with
        | .error e => (.error e, done.2)
        | .ok _ => (.ok (), done.2.open_streams)

/-- A stream in the failed state is closed and opened again. -/
def reopen (stream : Stream) (p : Path) (fs : FileSystem) : Stream × FileSystem :=
  if stream = .failed then
    let r := open_append p fs
    (opened r.1, r.2)
  else (stream, fs)

def refresh (st : FileStore) : Result Unit × FileStore :=
  let loaded := st.load_seqs
  match loaded.1 with
  | .error e => (.error e, loaded.2)
  | .ok _ =>
    let indexed := loaded.2.rebuild_index
    match indexed.1 with
    | .error e => (.error e, indexed.2)
    | .ok _ =>
      let st := indexed.2
      let out := reopen st.out_stream st.outfile st.fs
      let inb := reopen st.in_stream st.infile out.2
      let pos := if st.out_stream = .failed then file_end st.outfile out.2 else st.out_pos
      (.ok (), { st with out_stream := out.1, out_pos := pos, in_stream := inb.1, fs := inb.2 })

/-- The second error of `close` replaces the first only where there already is one:
`!r && !first_error` tests `first_error` for failure. -/
def first_error (first : Result Unit) (ok : Bool) : Result Unit :=
  match ok, first with
  | false, .error _ => .error .StoreError
  | _, first => first

/-- Flush, fsync and close one log. -/
def close_stream (first : Result Unit) (stream : Stream) (p : Path) (fs : FileSystem) :
    Result Unit × FileSystem :=
  match stream with
  | .closed => (first, fs)
  | .failed => (.error .StoreError, fs)
  | .good =>
    let synced := fsync_path p fs
    (first_error first synced.1, synced.2)

def close (st : FileStore) : Result Unit × FileStore :=
  if st.closed then (.ok (), st)
  else
    let out := close_stream (.ok ()) st.out_stream st.outfile st.fs
    let inb := close_stream out.1 st.in_stream st.infile out.2
    let done := { st with out_stream := .closed, in_stream := .closed, fs := inb.2 }.persist_seqs
    (first_error inb.1 done.1.isOk, { done.2 with closed := true })

/-- The store with the outcomes of its coming calls of the file system. -/
def with_faults (faults : List (Option Fault)) (st : FileStore) : FileStore :=
  { st with fs := { st.fs with faults := faults } }

instance : IMessageStore FileStore where
  next_sender_seq_num := sender_seq
  next_target_seq_num := target_seq
  set_next_sender_seq_num := set_next_sender_seq_num
  set_next_target_seq_num := set_next_target_seq_num
  incr_sender_seq_num := incr_sender_seq_num
  incr_target_seq_num := incr_target_seq_num
  next_sender_seq_num_incr := next_sender_seq_num_incr
  advance_next_target_seq_num := advance_next_target_seq_num
  store_outbound := store_outbound
  store_inbound := store_inbound
  get_messages := get_messages
  reset := reset
  refresh := refresh
  close := close
  calm := with_faults []

end FileStore

end FixEngine
