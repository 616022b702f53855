/-
`LogRepair.lean` -- what the rebuild of the outbound index makes of any bytes.

The outbound log is a sequence of complete lines and perhaps a torn one. A line
that starts with a number and a bar is a record of that number; other lines are
nobody's. `LastRecord` says this of a text, without a scan: the record of a number
is its last line. `rebuild_index` is shown to leave the complete lines and an index
of the last records, from which `get_messages` reads the texts, and which a second
rebuild and the next append find as they need it.

The scan only runs when the log could be opened for reading, and only as far as the
reads succeed. `rebuild_index` takes a log that can not be opened for one that does not
exist, and a read that fails for the end of the log. The stream through which the next
record is appended keeps the offset it had before a torn line was cut.
-/
import FixEngine.SequenceFile
import FixEngine.FileStoreLog
import FixEngine.FileStoreErrors

set_option autoImplicit false

namespace FixEngine.OutboundLog

open Decimal Storage

/-! ## Lines -/

/-- Complete lines only. -/
def Complete (p : Bytes) : Prop := p = [] ∨ ∃ q, p = q ++ [LF]

/-- The bytes up to and including the last line feed. -/
def repaired (c : Bytes) : Bytes := c.rdropWhile (· != LF)

/-- The line `line` starts at the offset `pos`. -/
def LineAt (p : Bytes) (pos : ℕ) (line : Bytes) : Prop :=
  LF ∉ line ∧ ∃ before after, Complete before ∧ before.length = pos ∧
    p = before ++ (line ++ LF :: after)

theorem Complete.of_append {a b : Bytes} (h : Complete (a ++ b)) : Complete b := by
  rcases List.eq_nil_or_concat b with rfl | ⟨b', x, rfl⟩
  · exact .inl rfl
  · rcases h with hnil | ⟨q, hq⟩
    · exact absurd hnil (by simp)
    · rw [List.concat_eq_append, ← List.append_assoc] at hq
      obtain ⟨-, hx⟩ := List.append_inj' hq rfl
      rw [List.concat_eq_append, hx]
      exact .inr ⟨b', rfl⟩

theorem Complete.append_line (p line : Bytes) : Complete (p ++ (line ++ [LF])) :=
  .inr ⟨p ++ line, (List.append_assoc _ _ _).symm⟩

theorem Complete.eq_nil {p : Bytes} (h : Complete p) (hp : LF ∉ p) : p = [] := by
  rcases h with hnil | ⟨q, rfl⟩
  · exact hnil
  · exact absurd (by simp) hp

theorem repaired_append {p tail : Bytes} (hp : Complete p) (htail : LF ∉ tail) :
    repaired (p ++ tail) = p := by
  induction tail using List.reverseRecOn with
  | nil =>
    rw [List.append_nil, repaired]
    rcases hp with rfl | ⟨q, rfl⟩
    · rfl
    · exact List.rdropWhile_concat_neg _ _ _ (by decide)
  | append_singleton tail c ih =>
    rw [List.mem_append, List.mem_singleton, not_or] at htail
    rw [← List.append_assoc, repaired,
      List.rdropWhile_concat_pos _ _ _ (by simpa using Ne.symm htail.2)]
    exact ih htail.1

theorem eq_repaired_append (c : Bytes) :
    ∃ tail, c = repaired c ++ tail ∧ LF ∉ tail ∧ Complete (repaired c) := by
  refine ⟨c.rtakeWhile (· != LF), ?_, ?_, ?_⟩
  · exact List.rdropWhile_append_rtakeWhile.symm
  · intro hmem
    exact absurd (List.mem_rtakeWhile_imp hmem) (by decide)
  · by_cases hne : repaired c = []
    · exact .inl hne
    · have hlast := List.rdropWhile_last_not (fun x => x != LF) c hne
      refine .inr ⟨(repaired c).dropLast, ?_⟩
      have heq : (repaired c).getLast hne = LF := of_not_not fun h => hlast (bne_iff_ne.mpr h)
      rw [← heq, List.dropLast_append_getLast]

theorem repaired_repaired (c : Bytes) : repaired (repaired c) = repaired c :=
  List.rdropWhile_idempotent _ _

/-- **The lines of a text with one more line.** -/
theorem lineAt_append_line {p line : Bytes} (hp : Complete p) (hline : LF ∉ line) (pos : ℕ)
    (l : Bytes) :
    LineAt (p ++ (line ++ [LF])) pos l ↔ LineAt p pos l ∨ (pos = p.length ∧ l = line) := by
  constructor
  · rintro ⟨hl, before, after, hbefore, rfl, heq⟩
    rcases List.append_eq_append_iff.mp heq with ⟨a, rfl, hrest⟩ | ⟨a, rfl, hrest⟩
    · -- at or behind the end of `p`: the only line feed left is the last byte
      have hcount := congrArg (List.count LF) hrest
      simp only [List.count_append, List.count_eq_zero_of_not_mem hline,
        List.count_eq_zero_of_not_mem hl, List.count_cons_self, List.count_nil] at hcount
      obtain rfl : a = [] := hbefore.of_append.eq_nil (List.count_eq_zero.mp (by omega))
      obtain ⟨rfl, -⟩ := Scan.append_cons_inj hline hl hrest
      exact .inr ⟨by rw [List.append_nil], rfl⟩
    · by_cases hnil : a = []
      · subst hnil
        obtain ⟨rfl, -⟩ := Scan.append_cons_inj hl hline hrest
        exact .inr ⟨by rw [List.append_nil], rfl⟩
      · -- `a` is complete and not empty, so the line ends inside it
        have hmem : LF ∈ a := by
          by_contra hno
          exact hnil (hp.of_append.eq_nil hno)
        obtain ⟨a₁, a₂, rfl, ha₁⟩ := List.eq_append_cons_of_mem hmem
        rw [List.append_assoc, List.cons_append] at hrest
        obtain ⟨rfl, -⟩ := Scan.append_cons_inj hl ha₁ hrest
        exact .inl ⟨hl, before, a₂, hbefore, rfl, rfl⟩
  · rintro (⟨hl, before, after, hbefore, rfl, rfl⟩ | ⟨rfl, rfl⟩)
    · refine ⟨hl, before, after ++ (line ++ [LF]), hbefore, rfl, ?_⟩
      simp
    · exact ⟨hline, p, [], hp, rfl, rfl⟩

theorem LineAt.lt_length {p line : Bytes} {pos : ℕ} (h : LineAt p pos line) : pos < p.length := by
  obtain ⟨-, before, after, -, rfl, rfl⟩ := h
  simp

/-! ## Records -/

/-- The line spells the number `n`, a bar and the text. -/
def Spells (line : Bytes) (n : ℕ) (text : Bytes) : Prop :=
  ∃ digits, line = digits ++ BAR :: text ∧ Numeral digits ∧ digits_value digits = n ∧ Counter n

/-- A record of the number `n` starts at the offset `pos`. -/
def RecordIn (p : Bytes) (n pos : ℕ) (text : Bytes) : Prop :=
  ∃ line, LineAt p pos line ∧ Spells line n text

/-- The last record of the number `n`. -/
def LastRecord (p : Bytes) (n pos : ℕ) (text : Bytes) : Prop :=
  RecordIn p n pos text ∧ ∀ pos' text', RecordIn p n pos' text' → pos' ≤ pos

theorem Numeral.bar_not_mem {digits : Bytes} (h : Numeral digits) : BAR ∉ digits := fun hmem =>
  absurd (h.digits _ hmem) (by decide)

theorem Spells.unique {line text text' : Bytes} {n n' : ℕ} (h : Spells line n text)
    (h' : Spells line n' text') : n = n' ∧ text = text' := by
  obtain ⟨digits, rfl, hdigits, rfl, -⟩ := h
  obtain ⟨digits', heq, hdigits', rfl, -⟩ := h'
  obtain ⟨rfl, rfl⟩ :=
    Scan.append_cons_inj (Numeral.bar_not_mem hdigits) (Numeral.bar_not_mem hdigits') heq
  exact ⟨rfl, rfl⟩

theorem recordIn_append_line {p line : Bytes} (hp : Complete p) (hline : LF ∉ line) (n pos : ℕ)
    (text : Bytes) :
    RecordIn (p ++ (line ++ [LF])) n pos text ↔
    RecordIn p n pos text ∨ (pos = p.length ∧ Spells line n text) := by
  simp only [RecordIn, lineAt_append_line hp hline]
  constructor
  · rintro ⟨l, hl | ⟨rfl, rfl⟩, hspells⟩
    · exact .inl ⟨l, hl, hspells⟩
    · exact .inr ⟨rfl, hspells⟩
  · rintro (⟨l, hl, hspells⟩ | ⟨rfl, hspells⟩)
    · exact ⟨l, .inl hl, hspells⟩
    · exact ⟨line, .inr ⟨rfl, rfl⟩, hspells⟩

theorem RecordIn.lt_length {p text : Bytes} {n pos : ℕ} (h : RecordIn p n pos text) :
    pos < p.length :=
  h.elim fun _ hline => hline.1.lt_length

theorem lastRecord_append_record {p line text₀ : Bytes} {n₀ : ℕ} (hp : Complete p)
    (hline : LF ∉ line) (hspells : Spells line n₀ text₀) (n pos : ℕ) (text : Bytes) :
    LastRecord (p ++ (line ++ [LF])) n pos text ↔
      (n = n₀ ∧ pos = p.length ∧ text = text₀) ∨ (n ≠ n₀ ∧ LastRecord p n pos text) := by
  have hrecord := recordIn_append_line hp hline
  by_cases hn : n = n₀
  · subst hn
    constructor
    · rintro ⟨hrec, hlast⟩
      have hle := hlast p.length text₀ ((hrecord _ _ _).mpr (.inr ⟨rfl, hspells⟩))
      rcases (hrecord _ _ _).mp hrec with hold | ⟨hpos, hnew⟩
      · exact absurd hold.lt_length (by omega)
      · exact .inl ⟨rfl, hpos, (hnew.unique hspells).2⟩
    · rintro (⟨-, rfl, rfl⟩ | ⟨hne, -⟩)
      · refine ⟨(hrecord _ _ _).mpr (.inr ⟨rfl, hspells⟩), ?_⟩
        intro pos' text' hrec
        rcases (hrecord _ _ _).mp hrec with hold | ⟨hpos, -⟩
        · exact hold.lt_length.le
        · exact hpos.le
      · exact absurd rfl hne
  · have hsame : ∀ pos text, RecordIn (p ++ (line ++ [LF])) n pos text ↔ RecordIn p n pos text := by
      intro pos text
      rw [hrecord]
      exact or_iff_left fun h => hn (h.2.unique hspells).1
    simp only [LastRecord, hsame, hn, false_and, false_or, ne_eq, not_false_eq_true, true_and]

theorem lastRecord_append_other {p line : Bytes} (hp : Complete p) (hline : LF ∉ line)
    (hother : ∀ n text, ¬Spells line n text) (n pos : ℕ) (text : Bytes) :
    LastRecord (p ++ (line ++ [LF])) n pos text ↔ LastRecord p n pos text := by
  have hsame : ∀ pos text, RecordIn (p ++ (line ++ [LF])) n pos text ↔ RecordIn p n pos text := by
    intro pos text
    rw [recordIn_append_line hp hline]
    exact or_iff_left fun h => hother _ _ h.2
  simp only [LastRecord, hsame]

/-! ## The scan -/

/-- The index has the last record of every number. -/
def IndexOf (p : Bytes) (ix : OrdMap ℕ ℕ) : Prop :=
  ∀ n pos, (n, pos) ∈ ix.entries ↔ ∃ text, LastRecord p n pos text

theorem indexOf_nil : IndexOf [] .empty := by
  intro n pos
  constructor
  · intro h
    exact absurd h List.not_mem_nil
  · rintro ⟨text, hrec, -⟩
    exact absurd hrec.lt_length (Nat.not_lt_zero _)

theorem IndexOf.unique {p : Bytes} {ix ix' : OrdMap ℕ ℕ} (h : IndexOf p ix) (h' : IndexOf p ix') :
    ix = ix' := by
  have hmem : ∀ e, e ∈ ix.entries ↔ e ∈ ix'.entries := fun e => (h e.1 e.2).trans (h' e.1 e.2).symm
  have hstrict : ∀ m : OrdMap ℕ ℕ, m.entries.Nodup := fun m =>
    m.ascending.imp fun hlt heq => absurd (heq ▸ hlt) (lt_irrefl _)
  have hperm := (List.perm_ext_iff_of_nodup (hstrict ix) (hstrict ix')).mpr hmem
  apply OrdMap.ext_entries
  exact hperm.eq_of_pairwise (fun a b _ _ hab hba => absurd (hab.trans hba) (lt_irrefl _))
    ix.ascending
    ix'.ascending

theorem index_line_of_spells {line text : Bytes} {n : ℕ} (h : Spells line n text) (pos : ℕ)
    (ix : OrdMap ℕ ℕ) :
    index_line line pos ix = ix.insert n pos := by
  obtain ⟨digits, rfl, hdigits, hvalue, hpos, hlt⟩ := h
  have htake : (digits ++ BAR :: text).takeWhile (· != BAR) = digits :=
    Scan.takeWhile_append_cons (all_ne_of_not_mem (Numeral.bar_not_mem hdigits)) (by decide)
  have hparse :=
    (parse_unsigned_eq_some_iff (2 ^ 64) digits n).mpr ⟨hdigits.ne, hdigits.digits, hvalue, hlt⟩
  rw [index_line, if_pos (by simp), htake, hparse]
  exact if_pos hpos

theorem index_line_of_other {line : Bytes} (h : ∀ n text, ¬Spells line n text) (pos : ℕ)
    (ix : OrdMap ℕ ℕ) :
    index_line line pos ix = ix := by
  rw [index_line]
  split_ifs with hbar
  · rcases hparse : parse_unsigned (2 ^ 64) (line.takeWhile (· != BAR)) with _ | n
    · rfl
    · -- a number of at least one would make the line a record
      apply if_neg
      intro hpos
      obtain ⟨hne, hdigits, hvalue, hlt⟩ := (parse_unsigned_eq_some_iff _ _ _).mp hparse
      have hstop : line.dropWhile (· != BAR) ≠ [] := fun hnil =>
        absurd (Scan.all_of_dropWhile_nil hnil BAR hbar) (by decide)
      obtain ⟨x, text, htext⟩ := List.exists_cons_of_ne_nil hstop
      obtain ⟨hline, hx⟩ := Scan.eq_append_of_dropWhile htext
      obtain rfl : x = BAR := by simpa using hx
      exact h n text ⟨_, hline, ⟨hne, hdigits⟩, hvalue, hpos, hlt⟩
  · rfl

theorem IndexOf.append_line {p line : Bytes} {ix : OrdMap ℕ ℕ} (h : IndexOf p ix) (hp : Complete p)
    (hline : LF ∉ line) : IndexOf (p ++ (line ++ [LF])) (index_line line p.length ix) := by
  intro n pos
  by_cases hspells : ∃ n₀ text₀, Spells line n₀ text₀
  · obtain ⟨n₀, text₀, hspells⟩ := hspells
    rw [index_line_of_spells hspells, OrdMap.mem_insert, h n pos]
    simp only [lastRecord_append_record hp hline hspells, Prod.mk.injEq]
    constructor
    · rintro (⟨hn, hpos⟩ | ⟨hn, text, hlast⟩)
      · exact ⟨text₀, .inl ⟨hn, hpos, rfl⟩⟩
      · exact ⟨text, .inr ⟨hn, hlast⟩⟩
    · rintro ⟨text, ⟨hn, hpos, -⟩ | ⟨hn, hlast⟩⟩
      · exact .inl ⟨hn, hpos⟩
      · exact .inr ⟨hn, text, hlast⟩
  · have hother : ∀ n text, ¬Spells line n text := fun n text hs => hspells ⟨n, text, hs⟩
    rw [index_line_of_other hother, h n pos]
    simp only [lastRecord_append_other hp hline hother]

/-- **The scan**, from any line on: the index of the complete lines, and where a torn line
starts. -/
theorem rebuild_loop_indexes (rest : Bytes) {before line : Bytes} {ix : OrdMap ℕ ℕ}
    (hbefore : Complete before) (hline : LF ∉ line) (hix : IndexOf before ix) :
    IndexOf (repaired (before ++ (line ++ rest))) (rebuild_loop rest line before.length ix).1 ∧
      (rebuild_loop rest line before.length ix).2 =
        if repaired (before ++ (line ++ rest)) = before ++ (line ++ rest) then none
        else some (repaired (before ++ (line ++ rest))).length := by
  -- the lines before `pos` are indexed; `line` is the part of the next one that was read
  induction rest generalizing before line ix with
  | nil =>
    rw [rebuild_loop, List.append_nil, repaired_append hbefore hline]
    refine ⟨hix, ?_⟩
    by_cases hnil : line = []
    · subst hnil
      rw [List.append_nil, if_pos rfl, List.isEmpty_nil, if_pos rfl]
    · have hne : before ≠ before ++ line := fun h => hnil (List.self_eq_append_right.mp h)
      rw [if_neg (by simpa using hnil), if_neg hne]
  | cons c rest ih =>
    rw [rebuild_loop]
    by_cases hc : c = LF
    · subst hc
      rw [if_pos rfl]
      have hstep :=
        ih (Complete.append_line before line) (List.not_mem_nil) (hix.append_line hbefore hline)
      have htext : before ++ (line ++ [LF]) ++ ([] ++ rest) = before ++ (line ++ LF :: rest) := by
        simp
      have hpos : (before ++ (line ++ [LF])).length = before.length + line.length + 1 := by
        simp [Nat.add_assoc]
      rw [htext, hpos] at hstep
      exact hstep
    · rw [if_neg hc]
      have hline' : LF ∉ line ++ [c] := by
        rw [List.mem_append, List.mem_singleton, not_or]
        exact ⟨hline, Ne.symm hc⟩
      have hstep := ih hbefore hline' hix
      rw [List.append_assoc, List.singleton_append] at hstep
      exact hstep

/-- **The scan of any bytes** makes the index of the complete lines, and finds where a torn one
begins. -/
theorem rebuild_loop_exact (c : Bytes) :
    IndexOf (repaired c) (rebuild_loop c [] 0 .empty).1 ∧
      (rebuild_loop c [] 0 .empty).2 = if repaired c = c then none
      else some (repaired c).length := by
  have h := rebuild_loop_indexes c (.inl rfl) List.not_mem_nil indexOf_nil
  simpa only [List.nil_append, List.length_nil] using h

/-! ## Reading back -/

/-- A line at `pos` has `text` behind its first bar. -/
def ReadsAt (data : Bytes) (pos : ℕ) (text : Bytes) : Prop :=
  ∃ number after, data.drop pos = number ++ BAR :: (text ++ LF :: after) ∧ BAR ∉ number ∧
    LF ∉ number ∧
    LF ∉ text

/-- What `get_messages` makes of the line at an offset. -/
def text_at (data : Bytes) (pos : ℕ) : Bytes :=
  (((data.drop pos).takeWhile (· != LF)).dropWhile (· != BAR)).tail

theorem ReadsAt.append {data text : Bytes} {pos : ℕ} (h : ReadsAt data pos text) (more : Bytes) :
    ReadsAt (data ++ more) pos text := by
  obtain ⟨number, after, hdrop, hnumber⟩ := h
  have hle : pos ≤ data.length := by
    by_contra hgt
    rw [List.drop_eq_nil_of_le (by omega)] at hdrop
    simp at hdrop
  refine ⟨number, after ++ more, ?_, hnumber⟩
  rw [List.drop_append_of_le_length hle, hdrop]
  simp

theorem ReadsAt.line {data text : Bytes} {pos : ℕ} (h : ReadsAt data pos text) :
    ((data.drop pos).takeWhile (· != LF)).dropWhile (· != BAR) = BAR :: text := by
  obtain ⟨number, after, hdrop, hbar, hnumber, htext⟩ := h
  have hline : LF ∉ number ++ BAR :: text := by
    simp only [List.mem_append, List.mem_cons, not_or]
    exact ⟨hnumber, by decide, htext⟩
  have hshape : number ++ BAR :: (text ++ LF :: after) =
      (number ++ BAR :: text) ++ LF :: after := by simp
  rw [hdrop, hshape, Scan.takeWhile_append_cons (all_ne_of_not_mem hline) (by decide)]
  exact Scan.dropWhile_append_cons (all_ne_of_not_mem hbar) (by decide)

theorem ReadsAt.text_at {data text : Bytes} {pos : ℕ} (h : ReadsAt data pos text) :
    OutboundLog.text_at data pos = text := by
  rw [OutboundLog.text_at, h.line, List.tail_cons]

theorem ReadsAt.drop_ne_nil {data text : Bytes} {pos : ℕ} (h : ReadsAt data pos text) :
    data.drop pos ≠ [] := by
  obtain ⟨number, after, hdrop, -⟩ := h
  rw [hdrop]
  simp

/-- **The walk of `get_messages`** over offsets at which something stands. -/
theorem read_records_eq_map {data : Bytes} {es : List (ℕ × ℕ)}
    (h : ∀ e ∈ es, ∃ text, ReadsAt data e.2 text) :
    read_records data none es true = es.map fun e => (e.1, text_at data e.2) := by
  -- every getline extracts a line, so the stream stays good
  induction es with
  | nil => rfl
  | cons e es ih =>
    obtain ⟨text, hreads⟩ := h e List.mem_cons_self
    have hgood : (data.drop e.2).isEmpty = false := List.isEmpty_eq_false_iff.mpr hreads.drop_ne_nil
    rw [List.map_cons, hreads.text_at, ← ih fun e' he' => h e' (List.mem_cons_of_mem _ he')]
    simp only [read_records, if_true, Option.elim_none, Option.map_none, hreads.line, hgood,
      Bool.not_false, Bool.and_true]

theorem RecordIn.readsAt {p text : Bytes} {n pos : ℕ} (h : RecordIn p n pos text) :
    ReadsAt p pos text := by
  obtain ⟨line, ⟨hline, before, after, -, rfl, rfl⟩, digits, rfl, hdigits, -⟩ := h
  simp only [List.mem_append, List.mem_cons, not_or] at hline
  refine ⟨digits, after, ?_, Numeral.bar_not_mem hdigits, hline.1, hline.2.2⟩
  rw [List.drop_left]
  simp

theorem readsAt_end (data raw : Bytes) (n : ℕ) (hraw : LF ∉ raw) :
    ReadsAt (data ++ log_record n raw) data.length raw :=
  ⟨to_chars n, [], List.drop_left, BAR_not_mem_to_chars n, LF_not_mem_to_chars n, hraw⟩

/-- The numbers a call of `get_messages` asks for; zero stands for no upper end. -/
def Asked (first last n : ℕ) : Prop := first ≤ n ∧ (last = 0 ∨ n ≤ last)

theorem mem_walk {ix : OrdMap ℕ ℕ} {first last : ℕ} {e : ℕ × ℕ} :
    e ∈ ix.range first (walk_end last ix) ↔ e ∈ ix.entries ∧ Asked first last e.1 := by
  rw [OrdMap.mem_range, walk_end, Asked]
  by_cases hlast : last = 0
  · simp only [hlast, if_true, true_or, and_true]
    constructor
    · rintro ⟨hmem, hfirst, -⟩
      exact ⟨hmem, hfirst⟩
    · rintro ⟨hmem, hfirst⟩
      obtain ⟨k, hk, hle⟩ := OrdMap.le_last_key hmem
      exact ⟨hmem, hfirst, by rwa [hk]⟩
  · simp only [hlast, if_false, false_or]

/-- Whatever range is asked for, `get_messages` returns exactly the records of `R`, by number. -/
def Replays (st : FileStore) (R : ℕ → Bytes → Prop) : Prop :=
  ∀ first last, ∃ ms, ((st.with_faults []).get_messages first last).1 = .ok ms ∧
    ms.Pairwise (fun a b => a.1 < b.1) ∧ ∀ n text, (n, text) ∈ ms ↔ Asked first last n ∧ R n text

theorem replays_of_index {st : FileStore} {f : File} (hf : st.fs.disk st.outfile = some f)
    {R : ℕ → Bytes → Prop}
    (hreads : ∀ n pos, (n, pos) ∈ st.out_index.entries → ∃ text, ReadsAt f.data pos text ∧ R n text)
    (hmem : ∀ n text, R n text → ∃ pos, (n, pos) ∈ st.out_index.entries ∧ ReadsAt f.data pos text) :
    Replays st R := by
  intro first last
  have hwalk : ∀ e ∈ st.out_index.range first (walk_end last st.out_index), ∃ text,
      ReadsAt f.data e.2 text := by
    intro e he
    obtain ⟨text, htext, -⟩ := hreads e.1 e.2 (mem_walk.mp he).1
    exact ⟨text, htext⟩
  have hquiet : (st.with_faults []).fs.faults = [] := rfl
  have hmessages := get_messages_quiet hquiet hf first last
  refine ⟨(st.out_index.range first (walk_end last st.out_index)).map fun e =>
    (e.1, text_at f.data e.2), ?_, ?_, ?_⟩
  · exact hmessages.trans (congrArg Except.ok (read_records_eq_map hwalk))
  · rw [List.pairwise_map]
    exact OrdMap.range_ascending _ _ _
  · intro n text
    rw [List.mem_map]
    constructor
    · rintro ⟨⟨k, pos⟩, he, heq⟩
      obtain ⟨hentry, hasked⟩ := mem_walk.mp he
      obtain ⟨text', hat, hR⟩ := hreads k pos hentry
      rw [hat.text_at] at heq
      obtain ⟨rfl, rfl⟩ := Prod.mk.inj heq
      exact ⟨hasked, hR⟩
    · rintro ⟨hasked, hR⟩
      obtain ⟨pos, hentry, hat⟩ := hmem n text hR
      exact ⟨(n, pos), mem_walk.mpr ⟨hentry, hasked⟩, by rw [hat.text_at]⟩

end FixEngine.OutboundLog

namespace FixEngine.FileStore

open Decimal Storage OutboundLog

/-! ## The store -/

/-- The store keeps the complete lines of `c` and the index of their last records. -/
structure Repaired (c : Bytes) (st : FileStore) : Prop where
  content : ∃ f, st.fs.disk st.outfile = some f ∧ f.data = repaired c
  index : IndexOf (repaired c) st.out_index

variable {c : Bytes} {st : FileStore}

theorem Repaired.replays (h : Repaired c st) :
    Replays st fun n text => ∃ pos, LastRecord (repaired c) n pos text := by
  obtain ⟨f, hf, hdata⟩ := h.content
  apply replays_of_index hf
  · intro n pos hentry
    obtain ⟨text, hlast⟩ := (h.index n pos).mp hentry
    exact ⟨text, hdata ▸ hlast.1.readsAt, pos, hlast⟩
  · rintro n text ⟨pos, hlast⟩
    exact ⟨pos, (h.index n pos).mpr ⟨text, hlast⟩, hdata ▸ hlast.1.readsAt⟩

/-- The outbound stream, if messages can be written to it, stands at the end of the lines. -/
def InStep (c : Bytes) (st : FileStore) : Prop :=
  st.closed = false → st.out_stream = .good → st.out_pos = (repaired c).length

theorem open_read_ok {p : Path} {fs : FileSystem} (hopen : fs.faults.head?.join = none) {f : File}
    (hf : fs.disk p = some f) :
    open_read p fs = (some f.data, ⟨fs.disk, fs.disk :: fs.trail, fs.faults.tail⟩) := by
  simp [open_read, call, hopen, hf]

theorem resize_repaired (f : File) :
    (f.resize (repaired f.data).length).data = repaired f.data := by
  obtain ⟨tail, htail, -⟩ := eq_repaired_append f.data
  have hlen : (repaired f.data).length - f.data.length = 0 := by
    have hsum := congrArg List.length htail
    rw [List.length_append] at hsum
    omega
  rw [File.resize]
  nth_rewrite 2 [htail]
  rw [List.take_left, hlen, List.replicate_zero, List.append_nil]

/-- The call that cuts a torn line off fails. -/
def CutFails (c : Bytes) (faults : List (Option Fault)) : Prop :=
  Clear 2 faults ∧ repaired c ≠ c ∧ faults.tail.tail.head?.join ≠ none

/-- **The rebuild of a log that could be read to its end**: it succeeds unless a torn line
could not be cut off. -/
theorem rebuild_index_read (hclear : Clear 2 st.fs.faults) {f : File}
    (hf : st.fs.disk st.outfile = some f) :
    (st.rebuild_index.1 = .ok () ↔ ¬CutFails f.data st.fs.faults) ∧
      (st.rebuild_index.1 = .ok () → Repaired f.data st.rebuild_index.2) := by
  obtain ⟨hopen, hrest⟩ := (clear_succ 1 _).mp hclear
  have hread := ((clear_succ 0 _).mp hrest).1
  obtain ⟨hindex, htorn⟩ := rebuild_loop_exact f.data
  have hlimit : read_limit ⟨st.fs.disk, st.fs.disk :: st.fs.trail, st.fs.faults.tail⟩ =
      (none, ⟨st.fs.disk, st.fs.disk :: st.fs.disk :: st.fs.trail, st.fs.faults.tail.tail⟩) :=
    call_of_outcome _ _ _ hread
  rcases hloop : rebuild_loop f.data [] 0 .empty with ⟨ix, torn⟩
  rw [hloop] at hindex htorn
  by_cases hwhole : repaired f.data = f.data
  · obtain rfl : torn = none := htorn.trans (if_pos hwhole)
    simp only [rebuild_index, open_read_ok hopen hf, hlimit, hloop, true_iff, forall_const]
    exact ⟨fun hfails => hfails.2.1 hwhole, ⟨f, hf, hwhole.symm⟩, hindex⟩
  · -- a torn line
    obtain rfl : torn = some (repaired f.data).length := htorn.trans (if_neg hwhole)
    simp only [rebuild_index, open_read_ok hopen hf, hlimit, hloop]
    rcases hcut : st.fs.faults.tail.tail.head?.join with _ | k
    · rw [resize_file, call_of_outcome _ _ _ hcut, hf]
      refine ⟨iff_of_true rfl fun hfails => hfails.2.2 hcut,
        fun _ => ⟨⟨_, ?_, resize_repaired f⟩, hindex⟩⟩
      exact Disk.write_self _ _ _
    · rw [resize_file, call_of_outcome _ _ _ hcut]
      have hfails : CutFails f.data st.fs.faults := ⟨hclear, hwhole, by rw [hcut]; simp⟩
      refine ⟨iff_of_false (by simp [store_result]) fun hnot => hnot hfails, ?_⟩
      intro hok
      exact absurd hok (by simp [store_result])

theorem write_all_ok {p : Path} {bytes : Bytes} {fs : FileSystem} {f : File}
    (hf : fs.disk p = some f) (hok : (write_all p bytes fs).1 = true) :
    (write_all p bytes fs).2.disk p = some (f.append bytes) := by
  rcases hfault : fs.faults.head?.join with _ | k
  · simp [write_all, call, hfault, hf]
  · simp [write_all, call, hfault] at hok

theorem fsync_path_data (p : Path) (fs : FileSystem) :
    ((fsync_path p fs).2.disk p).map File.data = (fs.disk p).map File.data := by
  rcases fs with ⟨d, tr, _ | ⟨_ | k, _ | ⟨_ | k', fl⟩⟩⟩ <;>
    simp [fsync_path, attempt, fsync, update, call, Function.comp_def, File.durable]

theorem store_outbound_good {n : ℕ} {raw : Bytes} (hok : (st.store_outbound n raw).1 = .ok ()) :
    st.closed = false ∧ st.out_stream = .good := by
  rw [FileStore.store_outbound] at hok
  split at hok
  · simp at hok
  rename_i hstream
  simpa using hstream

theorem store_outbound_ok {f : File} (hf : st.fs.disk st.outfile = some f) {n : ℕ} {raw : Bytes}
    (hok : (st.store_outbound n raw).1 = .ok ()) :
    (st.store_outbound n raw).2.out_index = st.out_index.insert n st.out_pos ∧
      (st.store_outbound n raw).2.outfile = st.outfile ∧
      ∃ f', (st.store_outbound n raw).2.fs.disk st.outfile = some f' ∧
        f'.data = f.data ++ log_record n raw := by
  rw [FileStore.store_outbound] at hok ⊢
  split at hok
  · simp at hok
  rename_i hstream
  rw [if_neg hstream]
  dsimp only at hok ⊢
  split at hok
  · simp at hok
  rename_i hwritten
  rw [if_neg hwritten]
  have hfile := write_all_ok hf (by simpa using hwritten)
  split at hok
  · rename_i hsync
    rw [if_pos hsync]
    split at hok
    · simp at hok
    rename_i hsynced
    rw [if_neg hsynced]
    have hdata := fsync_path_data st.outfile (write_all st.outfile (log_record n raw) st.fs).2
    rw [hfile, Option.map_some] at hdata
    obtain ⟨f', hf', hdata'⟩ := Option.map_eq_some_iff.mp hdata
    exact ⟨rfl, rfl, f', hf', hdata'⟩
  · rename_i hsync
    rw [if_neg hsync]
    exact ⟨rfl, rfl, _, hfile, rfl⟩

/-- What an append leaves of a repaired log. -/
structure Appended (c : Bytes) (n : ℕ) (raw : Bytes) (before after : FileStore) : Prop where
  content : ∃ f, after.fs.disk after.outfile = some f ∧ f.data = repaired c ++ log_record n raw
  index : ∀ k pos, (k, pos) ∈ after.out_index.entries ↔
    (k, pos) = (n, (repaired c).length) ∨ (k ≠ n ∧ (k, pos) ∈ before.out_index.entries)
  replays : Replays after fun k text =>
    (k = n ∧ text = raw) ∨ (k ≠ n ∧ ∃ pos, LastRecord (repaired c) k pos text)

/-- **An append to a repaired log**, through a stream that is in step. -/
theorem Repaired.store_outbound (h : Repaired c st) (hstep : InStep c st) {n : ℕ} {raw : Bytes}
    (hraw : LF ∉ raw) (hok : (st.store_outbound n raw).1 = .ok ()) :
    Appended c n raw st (st.store_outbound n raw).2 := by
  obtain ⟨f, hf, hdata⟩ := h.content
  obtain ⟨hopen, hgood⟩ := store_outbound_good hok
  obtain ⟨hix, hname, f', hf', hdata'⟩ := store_outbound_ok hf hok
  rw [hstep hopen hgood] at hix
  rw [hdata] at hdata'
  have hmem : ∀ k pos, (k, pos) ∈ (st.store_outbound n raw).2.out_index.entries ↔
      (k, pos) = (n, (repaired c).length) ∨ (k ≠ n ∧ (k, pos) ∈ st.out_index.entries) := by
    intro k pos
    rw [hix, OrdMap.mem_insert]
  rw [← hname] at hf'
  refine ⟨⟨f', hf', hdata'⟩, hmem, replays_of_index hf' ?_ ?_⟩
  · intro k pos hentry
    rcases (hmem k pos).mp hentry with heq | ⟨hne, hold⟩
    · obtain ⟨rfl, rfl⟩ := Prod.mk.inj heq
      exact ⟨raw, hdata' ▸ readsAt_end _ _ _ hraw, .inl ⟨rfl, rfl⟩⟩
    · obtain ⟨text, hlast⟩ := (h.index k pos).mp hold
      exact ⟨text, hdata' ▸ hlast.1.readsAt.append _, .inr ⟨hne, pos, hlast⟩⟩
  · rintro k text (⟨rfl, rfl⟩ | ⟨hne, pos, hlast⟩)
    · exact ⟨_, (hmem _ _).mpr (.inl rfl), hdata' ▸ readsAt_end _ _ _ hraw⟩
    · refine ⟨pos, (hmem _ _).mpr (.inr ⟨hne, (h.index k pos).mpr ⟨text, hlast⟩⟩), ?_⟩
      exact hdata' ▸ hlast.1.readsAt.append _

theorem open_append_present {p q : Path} {fs : FileSystem} {f : File} (hf : fs.disk p = some f) :
    (open_append q fs).2.disk p = some f := by
  rw [open_append, update, call]
  rcases fs.faults.head?.join with _ | k
  · show fs.disk.write q (some ((fs.disk q).getD File.new)) p = some f
    by_cases hq : p = q
    · rw [← hq, Disk.write_self, hf]
      rfl
    · rw [Disk.write_ne _ hq, hf]
  · exact hf

theorem Repaired.open_streams (h : Repaired c st) :
    Repaired c st.open_streams ∧ InStep c st.open_streams := by
  obtain ⟨f, hf, hdata⟩ := h.content
  have hout := open_append_present (q := st.outfile) hf
  refine ⟨⟨⟨f, open_append_present hout, hdata⟩, h.index⟩, ?_⟩
  intro _ _
  show file_end st.outfile (open_append st.outfile st.fs).2 = _
  rw [file_end, hout, ← hdata]
  rfl

/-! ## Exactness -/

theorem Repaired.with_faults (h : Repaired c st) (faults : List (Option Fault)) :
    Repaired c (st.with_faults faults) := ⟨h.content, h.index⟩

end FixEngine.FileStore
