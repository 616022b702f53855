/-
`SequenceFile.lean` -- what the reader of the sequence file accepts.

`SequenceText` is the grammar of the file: two numbers of at least one and below
2^64, whitespace between them, perhaps whitespace around them, and nothing else.
`load_seqs` reads with a cursor, after a first pass over all bytes; it is shown to
accept exactly the grammar, to set the two counters that the text spells and to
leave them alone otherwise. What `persist_seqs` writes is in the grammar.
-/
import FixEngine.FileStoreCrash

set_option autoImplicit false

namespace FixEngine

open Decimal Storage IMessageStore

/-! ## The grammar -/

/-- A non-empty string of digits. -/
structure Numeral (ds : Bytes) : Prop where
  ne : ds ≠ []
  digits : ∀ c ∈ ds, is_digit c = true

/-- Whitespace, perhaps none. -/
def Blank (ws : Bytes) : Prop := ∀ c ∈ ws, is_ws c = true

/-- A `SeqNum` of at least one. -/
def Counter (n : ℕ) : Prop := 1 ≤ n ∧ n < 2 ^ 64

/-- The text of a sequence file with the counters `s` and `t`. -/
inductive SequenceText : Bytes → ℕ → ℕ → Prop
  | intro {before first between second after : Bytes} (hbefore : Blank before)
      (hfirst : Numeral first) (hbetween : Blank between) (hsep : between ≠ [])
      (hsecond : Numeral second) (hafter : Blank after) (hs : Counter (digits_value first))
      (ht : Counter (digits_value second)) :
      SequenceText (before ++ (first ++ (between ++ (second ++ after)))) (digits_value first)
        (digits_value second)

/-! ## Reading one number -/

theorem Blank.dropWhile {ws : Bytes} (h : Blank ws) (rest : Bytes) :
    (ws ++ rest).dropWhile is_ws = rest.dropWhile is_ws :=
  List.dropWhile_append_of_pos h

theorem Numeral.dropWhile_ws {ds : Bytes} (h : Numeral ds) (rest : Bytes) :
    (ds ++ rest).dropWhile is_ws = ds ++ rest := by
  obtain ⟨c, cs, rfl⟩ := List.exists_cons_of_ne_nil h.ne
  have hc : is_ws c = false := is_ws_of_is_digit (h.digits c List.mem_cons_self)
  rw [List.cons_append, List.dropWhile_cons_of_neg (by rw [hc]; decide)]

/-- The bytes behind a number: none, or a first one that is no digit. -/
def Stops (rest : Bytes) : Prop := ∀ c, rest.head? = some c → is_digit c = false

theorem Blank.stops {ws : Bytes} (h : Blank ws) : Stops ws := by
  intro c hc
  exact is_digit_of_is_ws (h c (List.mem_of_mem_head? hc))

theorem Blank.stops_append {ws : Bytes} (h : Blank ws) (hne : ws ≠ []) (rest : Bytes) :
    Stops (ws ++ rest) := by
  obtain ⟨c, cs, rfl⟩ := List.exists_cons_of_ne_nil hne
  intro x hx
  obtain rfl : c = x := Option.some.inj hx
  exact is_digit_of_is_ws (h c List.mem_cons_self)

/-- **`std::from_chars` takes the digits at the front**, and fails on no digit and on a value out
of range. -/
theorem from_chars_unsigned_ok_iff {bound v : ℕ} {text rest : Bytes} :
    from_chars_unsigned bound text = .ok v rest ↔
      ∃ ds, text = ds ++ rest ∧ Numeral ds ∧ Stops rest ∧ digits_value ds = v ∧ v < bound := by
  constructor
  · intro h
    rw [from_chars_unsigned] at h
    split_ifs at h with hempty hbound
    injection h with hv hrest
    refine ⟨text.takeWhile is_digit, ?_, ⟨?_, ?_⟩, ?_, hv, ?_⟩
    · rw [← hrest, List.takeWhile_append_dropWhile]
    · simpa using hempty
    · intro c hc
      exact List.mem_takeWhile_imp hc
    · intro c hc
      have hstop := List.head?_dropWhile_not is_digit text
      rw [hrest, hc] at hstop
      simpa using hstop
    · rw [← hv]
      exact not_le.mp hbound
  · rintro ⟨ds, rfl, hds, hstop, rfl, hlt⟩
    have htake : (ds ++ rest).takeWhile is_digit = ds := by
      rw [List.takeWhile_append_of_pos hds.digits]
      rcases rest with _ | ⟨c, rest⟩
      · exact List.append_nil ds
      · rw [List.takeWhile_cons_of_neg (by rw [hstop c rfl]; decide), List.append_nil]
    have hdrop : (ds ++ rest).dropWhile is_digit = rest := by
      rw [List.dropWhile_append_of_pos hds.digits]
      rcases rest with _ | ⟨c, rest⟩
      · rfl
      · rw [List.dropWhile_cons_of_neg (by rw [hstop c rfl]; decide)]
    have hempty : ¬ds.isEmpty = true := by simpa using hds.ne
    rw [from_chars_unsigned, htake, hdrop, if_neg hempty, if_neg (not_le.mpr hlt)]

/-! ## Reading the file -/

theorem SequenceText.bytes {c : Bytes} {s t : ℕ} (h : SequenceText c s t) :
    (c.any fun x => !is_digit x && !is_ws x) = false := by
  rw [List.any_eq_false]
  intro x hx
  cases h with
  | intro hbefore hfirst hbetween _ hsecond hafter _ _ =>
    have hkind : is_digit x = true ∨ is_ws x = true := by
      simp only [List.mem_append] at hx
      rcases hx with hx | hx | hx | hx | hx
      · exact .inr (hbefore x hx)
      · exact .inl (hfirst.digits x hx)
      · exact .inr (hbetween x hx)
      · exact .inl (hsecond.digits x hx)
      · exact .inr (hafter x hx)
    rcases hkind with h | h
    · simp [h]
    · simp [h]

theorem parse_seqs_of_text {c : Bytes} {s t : ℕ} (h : SequenceText c s t) :
    parse_seqs c = some (s, t) := by
  have hbytes := h.bytes
  cases h with
  | @intro before first between second after hbefore hfirst hbetween hsep hsecond hafter hs ht =>
    have hread : from_chars_unsigned (2 ^ 64) (first ++ (between ++ (second ++ after))) =
        .ok (digits_value first) (between ++ (second ++ after)) :=
      from_chars_unsigned_ok_iff.mpr ⟨first, rfl, hfirst, hbetween.stops_append hsep _, rfl, hs.2⟩
    have hread' : from_chars_unsigned (2 ^ 64) (second ++ after) =
        .ok (digits_value second) after :=
      from_chars_unsigned_ok_iff.mpr ⟨second, rfl, hsecond, hafter.stops, rfl, ht.2⟩
    have hsep' : ((between ++ (second ++ after)).head?.map is_ws).getD false = true := by
      obtain ⟨x, xs, rfl⟩ := List.exists_cons_of_ne_nil hsep
      exact hbetween x List.mem_cons_self
    have hend : after.dropWhile is_ws = [] := List.dropWhile_eq_nil_iff.mpr hafter
    rw [parse_seqs, hbytes, if_neg Bool.noConfusion, hbefore.dropWhile, hfirst.dropWhile_ws, hread]
    dsimp only
    rw [if_pos hsep', hbetween.dropWhile, hsecond.dropWhile_ws, hread']
    dsimp only
    rw [hend]
    simp [hs.1, ht.1]

theorem text_of_parse_seqs {c : Bytes} {s t : ℕ} (h : parse_seqs c = some (s, t)) :
    SequenceText c s t := by
  have hrange := parse_seqs_range h
  simp only [parse_seqs] at h
  split at h
  · simp at h
  · split at h
    · rename_i s' rest hfirst
      split_ifs at h with hsep
      split at h
      · rename_i t' after hsecond
        split_ifs at h with hend
        obtain ⟨rfl, rfl⟩ := Prod.mk.inj (Option.some.inj h)
        obtain ⟨first, hcut, hnum, -, rfl, -⟩ := from_chars_unsigned_ok_iff.mp hfirst
        obtain ⟨second, hcut', hnum', -, rfl, -⟩ := from_chars_unsigned_ok_iff.mp hsecond
        simp only [Bool.and_eq_true, List.isEmpty_iff] at hend
        -- the text is cut where each scan stopped
        have htext : c = c.takeWhile is_ws ++
            (first ++ (rest.takeWhile is_ws ++ (second ++ after))) := by
          rw [← hcut', List.takeWhile_append_dropWhile, ← hcut, List.takeWhile_append_dropWhile]
        have hblank : ∀ x : Bytes, Blank (x.takeWhile is_ws) :=
          fun x b hb => List.mem_takeWhile_imp hb
        rw [htext]
        refine .intro (hblank c) hnum (hblank rest) ?_ hnum' ?_ hrange.1 hrange.2
        · rcases rest with _ | ⟨x, rest⟩
          · simp at hsep
          · have hx : is_ws x = true := hsep
            rw [List.takeWhile_cons_of_pos hx]
            exact List.cons_ne_nil _ _
        · exact List.dropWhile_eq_nil_iff.mp hend.1.1
      · simp at h
    · simp at h

/-- **The reader accepts exactly the grammar.** -/
theorem parse_seqs_eq_some_iff {c : Bytes} {s t : ℕ} :
    parse_seqs c = some (s, t) ↔ SequenceText c s t :=
  ⟨text_of_parse_seqs, parse_seqs_of_text⟩

theorem parse_seqs_eq_none_iff {c : Bytes} : parse_seqs c = none ↔ ¬∃ s t, SequenceText c s t := by
  rw [Option.eq_none_iff_forall_not_mem]
  constructor
  · rintro hnone ⟨s, t, htext⟩
    exact hnone (s, t) (parse_seqs_of_text htext)
  · rintro hno ⟨s, t⟩ hsome
    exact hno ⟨s, t, text_of_parse_seqs hsome⟩

namespace FileStore

theorem load_seqs_file {st : FileStore} (hq : st.fs.faults = []) {f : File}
    (hf : st.fs.disk st.seqfile = some f) :
    st.load_seqs.1 = (match parse_seqs f.data with
      | some _ => .ok ()
      | none => .error .StoreError) ∧
    seqs st.load_seqs.2 = (parse_seqs f.data).getD (seqs st) := by
  rcases st with ⟨seqfile, outfile, infile, opts, s₀, t₀, out, pos, inb, index, closed, ⟨d, tr, fl⟩⟩
  obtain rfl : fl = [] := hq
  replace hf : d seqfile = some f := hf
  rcases hparse : parse_seqs f.data with _ | ⟨s, t⟩
  · simp [load_seqs, read_all, hf, hparse, seqs, next_sender_seq_num, next_target_seq_num]
  · simp [load_seqs, read_all, hf, hparse, seqs, next_sender_seq_num, next_target_seq_num]

theorem persisted_text {st : FileStore} (hs : Counter st.sender_seq) (ht : Counter st.target_seq)
    (hok : st.persist_seqs.1 = .ok ()) :
    ∃ f, st.persist_seqs.2.fs.disk st.seqfile = some f ∧
    SequenceText f.data st.sender_seq st.target_seq := by
  obtain ⟨⟨hdisk, -⟩, -⟩ := replace_file_spec st.fs.disk st.fs.faults st.seqfile
    (seq_data st.sender_seq st.target_seq) st.fs ⟨rfl, rfl⟩
  have hdone : (replace_file st.seqfile (seq_data st.sender_seq st.target_seq) st.fs).1 = true := by
    by_contra hno
    rw [persist_seqs, Bool.eq_false_of_not_eq_true hno] at hok
    cases hok
  refine ⟨.durable (seq_data st.sender_seq st.target_seq), ?_, ?_⟩
  · exact (hdisk _ (ne_tmp _)).trans (if_pos ⟨hdone, rfl⟩)
  · exact text_of_parse_seqs (parse_seqs_seq_data hs.1 hs.2 ht.1 ht.2)

/-- **The sequence file decoder accepts exactly its grammar and inverts the encoder.** -/
theorem load_seqs_decodes {st : FileStore} (hq : st.fs.faults = []) {f : File}
    (hf : st.fs.disk st.seqfile = some f) :
    (st.load_seqs.1 = .ok () ↔ ∃ s t, SequenceText f.data s t) ∧
    (∀ s t, SequenceText f.data s t → seqs st.load_seqs.2 = (s, t)) ∧
    ((¬∃ s t, SequenceText f.data s t) →
      st.load_seqs.1 = .error .StoreError ∧ seqs st.load_seqs.2 = seqs st) ∧
    ∀ writer : FileStore, Counter writer.sender_seq → Counter writer.target_seq →
      writer.persist_seqs.1 = .ok () → writer.persist_seqs.2.fs.disk writer.seqfile = some f →
        st.load_seqs.1 = .ok () ∧ seqs st.load_seqs.2 = seqs writer := by
  obtain ⟨hresult, hseqs⟩ := load_seqs_file hq hf
  have haccept : ∀ s t, SequenceText f.data s t → st.load_seqs.1 = .ok () ∧
      seqs st.load_seqs.2 = (s, t) := by
    intro s t htext
    rw [parse_seqs_of_text htext] at hresult hseqs
    exact ⟨hresult, hseqs⟩
  have hrefuse : (¬∃ s t, SequenceText f.data s t) →
      st.load_seqs.1 = .error .StoreError ∧ seqs st.load_seqs.2 = seqs st := by
    intro hno
    rw [parse_seqs_eq_none_iff.mpr hno] at hresult hseqs
    exact ⟨hresult, hseqs⟩
  refine ⟨⟨?_, ?_⟩, fun s t htext => (haccept s t htext).2, hrefuse, ?_⟩
  · intro hok
    by_contra hno
    exact absurd (hok.symm.trans (hrefuse hno).1) (by simp)
  · rintro ⟨s, t, htext⟩
    exact (haccept s t htext).1
  · intro writer hs ht hdone hwritten
    obtain ⟨g, hg, htext⟩ := persisted_text hs ht hdone
    obtain rfl : f = g := Option.some.inj (hwritten.symm.trans hg)
    exact haccept _ _ htext

/-- A store on a disk with this sequence file alone. -/
def on_sequence_file (data : Bytes) : FileStore :=
  blank ⟨.FIX_4_2, ascii "A", ascii "B", []⟩ ⟨false⟩
    (.sound fun p => if p = ascii "A~B.seqnums" then some (File.durable data) else none)

/-- Leading zeros, tabs and blank lines are part of the grammar. -/
theorem load_seqs_decodes_spaced :
    (on_sequence_file (ascii " 007\t\r\n12\n")).load_seqs.1 = .ok () ∧
      seqs (on_sequence_file (ascii " 007\t\r\n12\n")).load_seqs.2 = (7, 12) := by
  have htext : SequenceText (ascii " 007\t\r\n12\n") 7 12 := text_of_parse_seqs (by decide)
  have hquiet : (on_sequence_file (ascii " 007\t\r\n12\n")).fs.faults = [] := rfl
  have hfile : (on_sequence_file (ascii " 007\t\r\n12\n")).fs.disk
      (on_sequence_file (ascii " 007\t\r\n12\n")).seqfile =
        some (.durable (ascii " 007\t\r\n12\n")) := by
    decide
  obtain ⟨haccepts, hsets, -⟩ := load_seqs_decodes hquiet hfile
  exact ⟨haccepts.mpr ⟨7, 12, htext⟩, hsets 7 12 htext⟩

end FileStore

end FixEngine
