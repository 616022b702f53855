/-
`AuditTrail.lean` -- the lines of the audit files, and the frames that a session audits.

`Session::audit_frame` hands every frame to the log as it is. `write_entry` writes it as
one line, with a bar for every SOH. Nothing else is replaced, and a field value may hold a
line feed: the parser and the builder refuse NUL and SOH and no other byte. So a frame with a
line feed in a value is more than one line of the file, and the second one says
what the peer likes. `LogFiles.lines_eq_iff` is the exact condition: the lines of the files are
the records exactly when no record has a line feed in it.

`AuditThreads.lean` says that the files have what was accepted, in order, whatever the
rotations were; here the bytes of the files are read back.
-/
import FixEngine.AuditThreads
import FixEngine.Numbering
import FixEngine.SessionStep

set_option autoImplicit false

namespace FixEngine

open FixEngine.Decimal

/-! ## Lines -/

/-- The lines that end in a line feed, behind `line`, the part of the first one that has
been read. -/
def lines_from (line : Bytes) : Bytes → List Bytes
  | [] => []
  | c :: text => if c = LF then line :: lines_from [] text else lines_from (line ++ [c]) text

/-- The lines of a text that end in a line feed. -/
def terminated_lines (text : Bytes) : List Bytes := lines_from [] text

theorem lines_from_append {x : Bytes} (hx : LF ∉ x) (line text : Bytes) :
    lines_from line (x ++ LF :: text) = (line ++ x) :: lines_from [] text := by
  induction x generalizing line with
  | nil => rw [List.nil_append, lines_from, if_pos rfl, List.append_nil]
  | cons c x ih =>
    rw [List.mem_cons, not_or] at hx
    rw [List.cons_append, lines_from, if_neg (Ne.symm hx.1), ih hx.2, List.append_assoc,
      List.singleton_append]

theorem length_lines_from (line text : Bytes) : (lines_from line text).length = text.count LF := by
  induction text generalizing line with
  | nil => rfl
  | cons c text ih =>
    rw [lines_from, List.count_cons]
    split
    · rename_i hc
      rw [List.length_cons, ih, hc, beq_self_eq_true, if_pos rfl]
    · rename_i hc
      rw [ih, beq_eq_false_iff_ne.mpr hc, if_neg Bool.false_ne_true, Nat.add_zero]

/-! ## Records -/

theorem lf_not_mem_zero_pad (w n : ℕ) : LF ∉ zero_pad w n := fun h =>
  absurd (is_digit_of_mem_zero_pad h) (by decide)

theorem lf_not_mem_iso_timestamp (t : UtcTime) : LF ∉ iso_timestamp t := by
  have hdash : LF ∉ ascii "-" := by decide
  have ht : LF ∉ ascii "T" := by decide
  have hcolon : LF ∉ ascii ":" := by decide
  have hdot : LF ∉ ascii "." := by decide
  have hz : LF ∉ ascii "Z" := by decide
  simp only [iso_timestamp, List.mem_append, lf_not_mem_zero_pad, hdash, ht, hcolon, hdot,
    hz, or_self, not_false_eq_true]

theorem lf_mem_audit_record (e : AuditEntry) :
    LF ∈ audit_record e ↔ LF ∈ e.session_id ∨ LF ∈ e.raw := by
  have hblank : LF ∉ ascii " " := by decide
  have hdirection : LF ∉ ascii (if e.outbound then "OUT " else "IN  ") := by
    split
    · decide
    · decide
  have hraw : LF ∈ (e.raw.map fun c => if c = SOH then 124 else c) ↔ LF ∈ e.raw := by
    rw [List.mem_map]
    constructor
    · rintro ⟨c, hc, hlf⟩
      split at hlf
      · exact absurd hlf (by decide)
      · rwa [← hlf]
    · intro hlf
      exact ⟨LF, hlf, by decide⟩
  simp only [audit_record, List.mem_append, lf_not_mem_iso_timestamp, hblank, hdirection, hraw,
    false_or, or_false]

theorem terminated_lines_of_clean {entries : List AuditEntry}
    (h : ∀ e ∈ entries, LF ∉ audit_record e) :
    terminated_lines (entries.flatMap audit_line) = entries.map audit_record := by
  induction entries with
  | nil => rfl
  | cons e entries ih =>
    rw [List.flatMap_cons, audit_line, List.append_assoc, List.singleton_append, terminated_lines,
      lines_from_append (h e List.mem_cons_self), List.nil_append, List.map_cons]
    exact congrArg _ (ih fun e he => h e (List.mem_cons_of_mem _ he))

theorem count_lf_lines (entries : List AuditEntry) :
    (entries.flatMap audit_line).count LF
      = entries.length + (entries.map fun e => (audit_record e).count LF).sum := by
  induction entries with
  | nil => rfl
  | cons e entries ih =>
    have hline : (audit_line e).count LF = (audit_record e).count LF + 1 := by
      rw [audit_line, List.count_append, List.count_singleton_self]
    rw [List.flatMap_cons, List.count_append, ih, hline, List.length_cons, List.map_cons,
      List.sum_cons]
    omega

/-- The lines of the files, in the order in which they were opened. -/
def LogFiles.lines (f : LogFiles) : List Bytes :=
  (f.closed ++ [f.current]).flatMap fun file => terminated_lines (file.flatMap audit_line)

theorem length_lines_of_files (files : List (List AuditEntry)) :
    (files.flatMap fun file => terminated_lines (file.flatMap audit_line)).length
      = (files.flatten.flatMap audit_line).count LF := by
  induction files with
  | nil => rfl
  | cons file files ih =>
    rw [List.flatMap_cons, List.length_append, ih, terminated_lines, length_lines_from,
      List.flatten_cons, List.flatMap_append, List.count_append]

theorem LogFiles.written_eq_flatten (f : LogFiles) :
    f.written = (f.closed ++ [f.current]).flatten := by
  rw [written, List.flatten_append, List.flatten_singleton]

theorem LogFiles.length_lines (f : LogFiles) :
    f.lines.length = (f.written.flatMap audit_line).count LF := by
  rw [lines, length_lines_of_files, written_eq_flatten]

/-- **The lines are the records** exactly when no record has a line feed in it. -/
theorem LogFiles.lines_eq_iff (f : LogFiles) :
    f.lines = f.written.map audit_record ↔ ∀ e ∈ f.written, LF ∉ audit_record e := by
  constructor
  · -- the number of lines leaves no line feed for the records
    intro heq e he
    have hlength := congrArg List.length heq
    rw [f.length_lines, count_lf_lines, List.length_map, Nat.add_eq_left,
      List.sum_eq_zero_iff] at hlength
    exact List.count_eq_zero.mp (hlength _ (List.mem_map.mpr ⟨e, he, rfl⟩))
  · -- file by file
    rw [lines, written_eq_flatten]
    generalize f.closed ++ [f.current] = files
    intro hclean
    induction files with
    | nil => rfl
    | cons file files ih =>
      rw [List.flatten_cons] at hclean
      rw [List.flatMap_cons, List.flatten_cons, List.map_append,
        ih fun e he => hclean e (List.mem_append_right _ he),
        terminated_lines_of_clean fun e he => hclean e (List.mem_append_left _ he)]

/-! ## The trail of a session -/

/-- `SessionID::to_string`. -/
def SessionID.to_string (id : SessionID) : Bytes :=
  id.version.to_string ++ ascii ":" ++ id.senderCompID ++ ascii "->" ++ id.targetCompID
    ++ if id.qualifier.isEmpty then [] else ascii "/" ++ id.qualifier

/-- The frames that were handed to the audit log, with their direction. -/
def audited (events : List Event) : List (Bool × Bytes) :=
  events.filterMap fun
    | .audit outbound raw => some (outbound, raw)
    | _ => none

/-- The entries that `audit_frame` made of them, with the times at which it was called. -/
def Session.audit_entries {σ : Type} (stamp : ℕ → UtcTime) (s : Session σ) : List AuditEntry :=
  (audited s.io.events).mapIdx fun i frame => ⟨stamp i, s.cfg.id.to_string, frame.1, frame.2⟩

theorem Session.forall_audit_entries {σ : Type} {stamp : ℕ → UtcTime} {s : Session σ}
    {P : AuditEntry → Prop} {Q : Bool × Bytes → Prop}
    (h : ∀ t frame, P ⟨t, s.cfg.id.to_string, frame.1, frame.2⟩ ↔ Q frame) :
    (∀ e ∈ s.audit_entries stamp, P e) ↔ ∀ frame ∈ audited s.io.events, Q frame := by
  constructor
  · intro hentries frame hframe
    obtain ⟨i, hi, rfl⟩ := List.mem_iff_getElem.mp hframe
    exact (h (stamp i) _).mp (hentries _ (List.mem_mapIdx.mpr ⟨i, hi, rfl⟩))
  · intro hframes e he
    obtain ⟨i, hi, rfl⟩ := List.mem_mapIdx.mp he
    exact (h (stamp i) _).mpr (hframes _ (List.getElem_mem hi))

/-- **One line for each frame.** A log has been given the frames that a session audited in a
run, dropped none and written all of them, whatever the interleaving and the rotations
were. The lines of its files are their records, one by one, exactly when no frame has a line feed
in it, and no identity under which a frame was audited has one. -/
theorem audit_lines_iff {σ : Type} [IMessageStore σ] (s : Session σ) (calls : List Call)
    (stamp : ℕ → UtcTime) (cfg : AuditConfig) (steps : List AuditStep) (r : AuditRun)
    (hrun : Loop.run AuditRun.step (.start cfg) steps = some r)
    (haccepted : r.accepted = (s.run calls).audit_entries stamp)
    (hdrained : r.log.holding ++ r.log.queue = []) :
    r.log.files.lines = ((s.run calls).audit_entries stamp).map audit_record ↔
      ∀ frame ∈ audited (s.run calls).io.events, LF ∉ frame.2 ∧
      LF ∉ (s.run calls).cfg.id.to_string := by
  have hheld :=
    Loop.run_invariant (fun hheld hstep => hheld.step hstep) (AuditRun.held_start cfg) hrun
  have hwritten : r.log.files.written = (s.run calls).audit_entries stamp :=
    (hheld.written_of_drained hdrained).trans haccepted
  rw [← hwritten, LogFiles.lines_eq_iff, hwritten]
  apply Session.forall_audit_entries
  intro t frame
  rw [lf_mem_audit_record, not_or, and_comm]

/-- A session whose audit log takes everything. -/
def audited_session : Session MemoryStore :=
  Session.create quiet_config MemoryStore.create { quiet_env with audit := some fun _ => none }

theorem exists_written (cfg : AuditConfig) (entries : List AuditEntry) :
    ∃ steps r, Loop.run AuditRun.step (.start cfg) steps = some r ∧ r.accepted = entries ∧
      r.log.holding ++ r.log.queue = [] := by
  obtain ⟨steps, r, hrun, hidle, haccepted⟩ := (AuditRun.idle_start cfg).serve_all entries
  refine ⟨steps, r, hrun, haccepted, ?_⟩
  rw [hidle.queue, List.append_nil]
  exact AuditRun.holding_of_writer (by simp [hidle.waiting])

/-- A Logon is sent: one frame, one line. -/
theorem audit_lines_logon :
    ∃ steps r, (Loop.run AuditRun.step (.start {}) steps = some r ∧
        r.accepted = (audited_session.run [.logon]).audit_entries (fun _ => midnight) ∧
        r.log.holding ++ r.log.queue = []) ∧
      r.log.files.lines =
      ((audited_session.run [.logon]).audit_entries fun _ => midnight).map audit_record ∧
      (audited (audited_session.run [.logon]).io.events).length = 1 := by
  obtain ⟨steps, r, hrun, haccepted, hdrained⟩ :=
    exists_written {} ((audited_session.run [.logon]).audit_entries fun _ => midnight)
  have hclean : ∀ frame ∈ audited (audited_session.run [.logon]).io.events,
      LF ∉ frame.2 ∧ LF ∉ (audited_session.run [.logon]).cfg.id.to_string := by decide +kernel
  exact ⟨steps, r, ⟨hrun, haccepted, hdrained⟩,
    (audit_lines_iff _ _ _ _ steps r hrun haccepted hdrained).mpr hclean, by decide⟩

/-- A frame whose Text is a line feed and what looks like a record. -/
def forged_frame : Bytes :=
  MessageBuilder.build (ascii "FIX.4.2")
    (ascii "35=0\x0158=\n2024-01-01T00:00:00.000Z OUT forged\x01")

/-- The session audits that frame and its answer, and the file has three lines. -/
theorem forged_record :
    (audited (audited_session.on_data forged_frame).io.events).length = 2 ∧
      ∃ steps r, Loop.run AuditRun.step (.start {}) steps = some r ∧
        r.accepted = (audited_session.on_data forged_frame).audit_entries (fun _ => midnight) ∧
        r.log.holding ++ r.log.queue = [] ∧ r.log.files.lines.length = 3 := by
  refine ⟨by decide +kernel, ?_⟩
  obtain ⟨steps, r, hrun, haccepted, hdrained⟩ :=
    exists_written {} ((audited_session.on_data forged_frame).audit_entries fun _ => midnight)
  refine ⟨steps, r, hrun, haccepted, hdrained, ?_⟩
  have hheld :=
    Loop.run_invariant (fun hheld hstep => hheld.step hstep) (AuditRun.held_start {}) hrun
  rw [LogFiles.length_lines, hheld.written_of_drained hdrained, haccepted]
  decide +kernel

end FixEngine
