/-
`FileStoreSpec.lean` -- what each operation of the file store does to the disk.

The replacement of the sequence file is specified once, in crash Hoare logic:
whatever fails and wherever the machine stops, every file but the temporary one
is as before, except that the sequence file may already be the new one; the
result says which of the two it is, and without faults it is the new one. The
operations of the store are specified from that: what they leave in memory, and
what every disk they pass through holds under the names that matter.
-/
import FixEngine.FileStore
import FixEngine.Scan

set_option autoImplicit false

namespace FixEngine

open Decimal Storage

/-! ## Replacing a file -/

section ReplaceFile

variable (d₀ : Disk) (quiet : Prop) (file : Path) (data : Bytes)

/-- Only the temporary file differs from `d₀`. After a success it is as `Γ` says, and
a quiet run has no failures. -/
structure Stage (Γ : Option File → Prop) (ok : Bool) (d : Disk)
    (fl : List (Option Fault)) : Prop where
  agree : Agree (file ++ tmp_ext) d₀ d
  tmp : ok = true → Γ (d (file ++ tmp_ext))
  quiet : quiet → ok = true ∧ fl = []

/-- The temporary file has been moved over the file, and the directory is not synced. -/
def Moved (d : Disk) : Prop :=
  ∃ d₁, Agree (file ++ tmp_ext) d₀ d₁ ∧ d₁ (file ++ tmp_ext) = some (File.durable data) ∧
    d = d₁.move (file ++ tmp_ext) file

/-- Apart from the temporary file the disk is still the old one, or the new file has just been
moved over the old one. -/
def Between (d : Disk) : Prop := Agree (file ++ tmp_ext) d₀ d ∨ Moved d₀ file data d

/-- The result says whether the file was replaced; then the directory is synced too. -/
structure Replaced (ok : Bool) (d : Disk) (fl : List (Option Fault)) : Prop where
  files : ∀ q, q ≠ file ++ tmp_ext →
    d q = if ok = true ∧ q = file then some (File.durable data) else d₀ q
  unsynced : d.unsynced = if ok = true then [] else d₀.unsynced
  quiet : quiet → ok = true ∧ fl = []

theorem ne_tmp : file ≠ file ++ tmp_ext := by
  intro h
  exact absurd (List.append_right_eq_self.mp h.symm) (by decide)

variable {d₀ quiet file data}

theorem Stage.between {Γ : Option File → Prop} {ok : Bool} {d : Disk} {fl : List (Option Fault)}
    (h : Stage d₀ quiet file Γ ok d fl) : Between d₀ file data d := .inl h.agree

theorem spec_stage {Γ Γ' : Option File → Prop} {act : Disk → Disk}
    (hact : ∀ d, ∃ f, act d = d.write (file ++ tmp_ext) f)
    (hΓ : ∀ d, Γ (d (file ++ tmp_ext)) → Γ' (act d (file ++ tmp_ext))) :
    Spec (Stage d₀ quiet file Γ true) (update act) (Between d₀ file data)
      (Stage d₀ quiet file Γ') := by
  apply spec_update
  · intro d fl h
    exact h.between
  · intro d fl ⟨hkeep, htmp, hquiet⟩ _
    refine ⟨?_, ?_, ?_⟩
    · obtain ⟨f, hf⟩ := hact d
      exact hf ▸ hkeep.write f
    · intro _
      exact hΓ d (htmp rfl)
    · intro hq
      rw [(hquiet hq).2]
      exact ⟨rfl, rfl⟩
  · intro d fl ⟨hkeep, _, hquiet⟩ hne
    exact ⟨hkeep, by simp, fun hq => absurd (hquiet hq).2 hne⟩

theorem spec_stage_attempt {Γ : Option File → Prop} :
    Spec (Stage d₀ quiet file Γ true) attempt (Between d₀ file data) (Stage d₀ quiet file Γ) := by
  apply spec_attempt
  · intro d fl h
    exact h.between
  · intro d fl ⟨hkeep, htmp, hquiet⟩
    refine ⟨hkeep, htmp, fun hq => ?_⟩
    rw [(hquiet hq).2]
    exact ⟨rfl, rfl⟩
  · intro d fl ⟨hkeep, _, hquiet⟩ hne
    exact ⟨hkeep, by simp, fun hq => absurd (hquiet hq).2 hne⟩

theorem spec_write_tmp :
    Spec (Stage d₀ quiet file (· = some File.new) true) (write_all (file ++ tmp_ext) data)
      (Between d₀ file data) (Stage d₀ quiet file (fun f => f.map File.data = some data)) := by
  apply spec_call
  · intro d fl h
    exact h.between
  · intro d fl ⟨hkeep, htmp, hquiet⟩
    refine ⟨hkeep.write _, ?_, ?_⟩
    · intro hok
      rw [Option.isNone_iff_eq_none.mp hok, htmp rfl]
      simp [File.append, File.new]
    · intro hq
      rw [(hquiet hq).2]
      exact ⟨rfl, rfl⟩

theorem Stage.replaced {Γ : Option File → Prop} {d : Disk} {fl : List (Option Fault)}
    (h : Stage d₀ quiet file Γ false d fl) : Replaced d₀ quiet file data false d fl := by
  refine ⟨?_, h.agree.unsynced, fun hq => absurd ((h.quiet hq).1) (by simp)⟩
  intro q hq
  rw [if_neg (fun h => absurd h.1 (by simp))]
  exact h.agree.files q hq

theorem spec_remove_tmp {Γ : Option File → Prop} :
    Spec (Stage d₀ quiet file Γ false) (do
        let _ ← remove (file ++ tmp_ext)
        return false)
      (Between d₀ file data) (Replaced d₀ quiet file data) := by
  apply spec_bind (Q := fun _ => Stage d₀ quiet file (fun _ => True) false)
  · apply spec_update
    · intro d fl h
      exact h.between
    · intro d fl ⟨hkeep, _, hquiet⟩ _
      exact ⟨hkeep.write _, by simp, fun hq => absurd ((hquiet hq).1) (by simp)⟩
    · intro d fl ⟨hkeep, _, hquiet⟩ _
      exact ⟨hkeep, by simp, fun hq => absurd ((hquiet hq).1) (by simp)⟩
  · intro _
    apply spec_pure
    intro d fl h
    exact h.replaced

theorem spec_discard_tmp {Γ : Option File → Prop} :
    Spec (Stage d₀ quiet file Γ false) (discard_tmp (file ++ tmp_ext)) (Between d₀ file data)
      (Replaced d₀ quiet file data) := by
  apply spec_bind (Q := fun _ => Stage d₀ quiet file Γ false)
  · apply spec_attempt
    · intro d fl h
      exact h.between
    · intro d fl ⟨hkeep, htmp, hquiet⟩
      exact ⟨hkeep, htmp, fun hq => absurd ((hquiet hq).1) (by simp)⟩
    · intro d fl ⟨hkeep, htmp, hquiet⟩ _
      exact ⟨hkeep, htmp, fun hq => absurd ((hquiet hq).1) (by simp)⟩
  · intro _
    exact spec_remove_tmp

theorem spec_rename_tmp :
    Spec (Stage d₀ quiet file (· = some (File.durable data)) true) (rename (file ++ tmp_ext) file)
      (Between d₀ file data)
      (fun ok => match ok with
        | true => fun d fl => Moved d₀ file data d ∧ (quiet → fl = [])
        | false => Stage d₀ quiet file (fun _ => True) false) := by
  apply spec_call
  · intro d fl h
    exact h.between
  · intro d fl ⟨hkeep, htmp, hquiet⟩
    have htmp := htmp rfl
    rcases hout : fl.head?.join with _ | k
    · -- the call succeeds, since the temporary file exists
      simp only [htmp, Option.isNone_none, Option.isSome_some, Bool.and_self, if_true]
      refine ⟨⟨d, hkeep, htmp, rfl⟩, fun hq => ?_⟩
      rw [(hquiet hq).2]
      rfl
    · simp only [Option.isNone_some, Bool.false_and, Bool.false_eq_true, if_false]
      refine ⟨hkeep, by simp, fun hq => ?_⟩
      rw [(hquiet hq).2] at hout
      simp at hout

theorem spec_sync_directory :
    Spec (fun d fl => Moved d₀ file data d ∧ (quiet → fl = [])) sync_directory
      (Between d₀ file data)
      (fun _ => Replaced d₀ quiet file data true) := by
  apply spec_call
  · intro d fl h
    exact .inr h.1
  · rintro _ fl ⟨⟨d, hkeep, htmp, rfl⟩, hquiet⟩
    refine ⟨?_, rfl, fun hq => ⟨rfl, by rw [hquiet hq]; rfl⟩⟩
    intro q hq
    by_cases hqf : q = file
    · rw [if_pos ⟨rfl, hqf⟩, hqf, ← htmp]
      exact Files.write_self _ _ _
    · rw [if_neg (fun h => hqf h.2), ← hkeep.files q hq]
      exact (Files.write_ne _ hqf).trans (Files.write_ne _ hq)

/-- **The replacement of a file.** Every disk passed through has the old file, or the new one
just moved over it; the result says which one is left, and a quiet run leaves the new one. -/
theorem replace_file_spec (d₀ : Disk) (fl₀ : List (Option Fault)) (file : Path) (data : Bytes) :
    Spec (fun d fl => d = d₀ ∧ fl = fl₀) (replace_file file data) (Between d₀ file data)
      (Replaced d₀ (fl₀ = []) file data) := by
  have hstart : ∀ d fl, d = d₀ ∧ fl = fl₀ → Stage d₀ (fl₀ = []) file (fun _ => True) true d fl := by
    rintro d fl ⟨rfl, rfl⟩
    exact ⟨Agree.refl _ _, fun _ => trivial, fun hq => ⟨rfl, hq⟩⟩
  refine spec_conseq ?_ hstart (fun _ h => h) (fun _ _ _ h => h)
  apply spec_guard (Q := Stage d₀ (fl₀ = []) file (· = some File.new))
  · apply spec_stage
    · intro d
      exact ⟨_, rfl⟩
    · intro d _
      exact Disk.write_self _ _ _
  · apply spec_pure
    intro d fl h
    exact h.replaced
  apply spec_guard (Q := Stage d₀ (fl₀ = []) file (fun f => f.map File.data = some data))
  · exact spec_write_tmp
  · exact spec_discard_tmp
  apply spec_guard (Q := Stage d₀ (fl₀ = []) file (· = some (File.durable data)))
  · apply spec_stage
    · intro d
      exact ⟨_, rfl⟩
    · intro d hdata
      obtain ⟨f, hf, hfd⟩ := Option.map_eq_some_iff.mp hdata
      rw [Disk.write_self, hf, Option.map_some, hfd]
  · exact spec_discard_tmp
  -- closing the handle changes nothing on the disk
  apply spec_guard (Q := Stage d₀ (fl₀ = []) file (· = some (File.durable data)))
  · exact spec_stage_attempt
  · exact spec_remove_tmp
  apply spec_guard spec_rename_tmp
  · exact spec_remove_tmp (Γ := fun _ => True)
  · apply spec_bind (Q := fun _ => Replaced d₀ (fl₀ = []) file data true)
    · exact spec_sync_directory
    · intro _
      exact spec_pure fun _ _ h => h

end ReplaceFile

/-! ## The sequence file -/

theorem is_ws_LF : is_ws LF = true := by decide

theorem is_digit_of_is_ws {c : UInt8} (h : is_ws c = true) : is_digit c = false := by
  simp only [is_ws, Bool.or_eq_true, beq_iff_eq] at h
  rcases h with ((rfl | rfl) | rfl) | rfl <;> decide

theorem is_ws_of_is_digit {c : UInt8} (h : is_digit c = true) : is_ws c = false := by
  by_contra hws
  rw [is_digit_of_is_ws (by simpa using hws)] at h
  exact absurd h (by decide)

theorem from_chars_to_chars_append {n : ℕ} (hn : n < 2 ^ 64) {c : UInt8} (rest : Bytes)
    (hc : is_digit c = false) :
    from_chars_unsigned (2 ^ 64) (to_chars n ++ c :: rest) = .ok n (c :: rest) := by
  have hall : ∀ x ∈ to_chars n, is_digit x = true := fun x hx => is_digit_of_mem_to_chars hx
  rw [from_chars_unsigned, Scan.takeWhile_append_cons hall hc, Scan.dropWhile_append_cons hall hc,
    digits_value_to_chars]
  simp only [List.isEmpty_iff, to_chars_ne_nil, if_false, not_le.mpr hn]

theorem dropWhile_ws_to_chars (n : ℕ) (rest : Bytes) :
    (to_chars n ++ rest).dropWhile is_ws = to_chars n ++ rest := by
  obtain ⟨c, cs, hcs⟩ := List.exists_cons_of_ne_nil (to_chars_ne_nil n)
  have hc : is_digit c = true := is_digit_of_mem_to_chars (hcs ▸ List.mem_cons_self)
  rw [hcs, List.cons_append, List.dropWhile_cons_of_neg]
  rw [is_ws_of_is_digit hc]
  decide

/-- **The reader inverts the writer** on counters that a session can have. -/
theorem parse_seqs_seq_data {s t : ℕ} (hs : 1 ≤ s) (hs' : s < 2 ^ 64) (ht : 1 ≤ t)
    (ht' : t < 2 ^ 64) : parse_seqs (seq_data s t) = some (s, t) := by
  have hLF : is_digit LF = false := by decide
  have hclean : ((seq_data s t).any fun c => !is_digit c && !is_ws c) = false := by
    rw [List.any_eq_false]
    intro c hc
    have : is_digit c = true ∨ c = LF := by
      simp only [seq_data, List.mem_append, List.mem_cons, List.not_mem_nil, or_false] at hc
      rcases hc with hc | rfl | hc | rfl
      · exact .inl (is_digit_of_mem_to_chars hc)
      · exact .inr rfl
      · exact .inl (is_digit_of_mem_to_chars hc)
      · exact .inr rfl
    rcases this with h | rfl
    · simp [h]
    · decide
  rw [parse_seqs, hclean, seq_data, dropWhile_ws_to_chars,
    from_chars_to_chars_append hs' _ hLF]
  have hskip : (LF :: (to_chars t ++ [LF])).dropWhile is_ws = to_chars t ++ [LF] := by
    rw [List.dropWhile_cons_of_pos is_ws_LF, dropWhile_ws_to_chars]
  simp only [List.head?_cons, Option.map_some, is_ws_LF, Option.getD_some, if_true, hskip,
    from_chars_to_chars_append ht' [] hLF, Bool.false_eq_true, if_false]
  rw [List.dropWhile_cons_of_pos is_ws_LF]
  simp [hs, ht]

theorem from_chars_unsigned_lt {bound v : ℕ} {s rest : Bytes}
    (h : from_chars_unsigned bound s = .ok v rest) : v < bound := by
  simp only [from_chars_unsigned] at h
  split_ifs at h with hempty hbound
  injection h with hv
  rw [← hv]
  exact not_le.mp hbound

theorem parse_seqs_range {content : Bytes} {s t : ℕ} (h : parse_seqs content = some (s, t)) :
    (1 ≤ s ∧ s < 2 ^ 64) ∧ 1 ≤ t ∧ t < 2 ^ 64 := by
  simp only [parse_seqs] at h
  split at h
  · simp at h
  split at h
  · rename_i s' rest hs
    split_ifs at h
    split at h
    · rename_i t' rest' ht
      split_ifs at h with hend
      simp only [Bool.and_eq_true, decide_eq_true_eq] at hend
      obtain ⟨rfl, rfl⟩ := Prod.mk.inj (Option.some.inj h)
      exact ⟨⟨hend.1.2, from_chars_unsigned_lt hs⟩, hend.2, from_chars_unsigned_lt ht⟩
    · simp at h
  · simp at h

/-! ## File names -/

theorem append_ne {a b : Path} (base : Path) (h : a ≠ b) : base ++ a ≠ base ++ b :=
  fun heq => h (List.append_cancel_left heq)

theorem seq_ne_out (base : Path) : base ++ seq_ext ≠ base ++ out_ext :=
  append_ne base (by decide)

theorem seq_ne_in (base : Path) : base ++ seq_ext ≠ base ++ in_ext :=
  append_ne base (by decide)

theorem out_ne_in (base : Path) : base ++ out_ext ≠ base ++ in_ext :=
  append_ne base (by decide)

theorem out_ne_tmp (base : Path) : base ++ out_ext ≠ base ++ seq_ext ++ tmp_ext := by
  rw [List.append_assoc]
  exact append_ne base (by decide)

/-! ## The counters -/

namespace FileStore

open IMessageStore

theorem commit_moves (s t : ℕ) (st : FileStore) : Moves st (st.commit s t) fun _ => (s, t) := by
  rw [Moves, commit, persist_seqs]
  rcases (replace_file st.seqfile (seq_data s t) st.fs).1 with _ | _ <;> rfl

theorem refused_moves {α : Type} (st : FileStore) (f : α → ℕ × ℕ) :
    Moves st ((.error .StoreError, st) : Result α × FileStore) f := rfl

theorem store_outbound_seqs (seq : ℕ) (raw : Bytes) (st : FileStore) :
    seqs (st.store_outbound seq raw).2 = seqs st := by
  simp only [store_outbound]
  split_ifs <;> rfl

theorem store_inbound_seqs (seq : ℕ) (raw : Bytes) (st : FileStore) :
    seqs (st.store_inbound seq raw).2 = seqs st := by
  simp only [store_inbound]
  split_ifs <;> rfl

theorem get_messages_seqs (first last : ℕ) (st : FileStore) :
    seqs (st.get_messages first last).2 = seqs st := by
  simp only [get_messages]
  split <;> rfl

theorem reset_seqs (st : FileStore) (h : st.reset.1 = .ok ()) : seqs st.reset.2 = (1, 1) := by
  simp only [reset] at h ⊢
  split_ifs at h ⊢
  split at h
  · simp at h
  · rfl

instance : StoreContract FileStore where
  set_next_sender_seq_num_moves n st := by
    show Moves st (st.set_next_sender_seq_num n) _
    rw [set_next_sender_seq_num]
    split
    · exact refused_moves st _
    · exact commit_moves n st.target_seq st
  set_next_target_seq_num_moves n st := by
    show Moves st (st.set_next_target_seq_num n) _
    rw [set_next_target_seq_num]
    split
    · exact refused_moves st _
    · exact commit_moves st.sender_seq n st
  next_sender_seq_num_incr_moves st := by
    show Moves st st.next_sender_seq_num_incr _
    rw [next_sender_seq_num_incr]
    split
    · exact refused_moves st _
    · have hmoves := commit_moves (seq_succ st.sender_seq) st.target_seq st
      rw [Moves] at hmoves ⊢
      rcases hdone : (st.commit (seq_succ st.sender_seq) st.target_seq).1 with e | _
      · rw [hdone] at hmoves
        simp only [hdone, Except.map]
        exact hmoves
      · rw [hdone] at hmoves
        simp only [hdone, Except.map]
        exact hmoves
  next_sender_seq_num_incr_claims st n h := by
    replace h : (st.next_sender_seq_num_incr).1 = .ok n := h
    rw [next_sender_seq_num_incr] at h
    split at h
    · simp at h
    · rcases hdone : (st.commit (seq_succ st.sender_seq) st.target_seq).1 with e | _
      · simp only [hdone, Except.map] at h
        simp at h
      · simp only [hdone, Except.map] at h
        injection h with h
        exact h.symm
  advance_next_target_seq_num_moves n st := by
    show Moves st (st.advance_next_target_seq_num n) fun _ => (st.sender_seq, max st.target_seq n)
    rw [advance_next_target_seq_num]
    split
    · exact refused_moves st _
    · split
      · rename_i hle
        rw [Nat.max_eq_left hle]
        exact rfl
      · rename_i hlt
        rw [Nat.max_eq_right (Nat.le_of_not_le hlt)]
        exact commit_moves st.sender_seq n st
  store_outbound_seqs := store_outbound_seqs
  store_inbound_seqs := store_inbound_seqs
  get_messages_seqs := get_messages_seqs
  reset_seqs := reset_seqs

instance : ResetContract FileStore where
  reset_target st := by
    show st.reset.2.target_seq = 1 ∨ st.reset.2.target_seq = st.target_seq
    simp only [reset]
    split_ifs
    · exact .inr rfl
    · exact .inl rfl
    · exact .inl rfl
    · -- the counters are set before the files are touched
      refine .inl ?_
      split
      · rfl
      · rfl

/-! ## Operations without faults -/

/-- What opening a store finds in the sequence file. -/
def loads : Option File → Option (ℕ × ℕ)
  | none => some (1, 1)
  | some f => parse_seqs f.data

theorem loads_range {f : Option File} {s t : ℕ} (h : loads f = some (s, t)) :
    (1 ≤ s ∧ s < 2 ^ 64) ∧ 1 ≤ t ∧ t < 2 ^ 64 := by
  rcases f with _ | f
  · injection h with h
    injection h with hs ht
    subst hs ht
    decide
  · exact parse_seqs_range h

section Quiet

variable (st : FileStore)

theorem persist_seqs_quiet (hq : st.fs.faults = []) :
    ∃ fs : FileSystem, st.persist_seqs = (.ok (), { st with fs := fs }) ∧ fs.faults = [] ∧
      fs.disk st.seqfile = some (File.durable (seq_data st.sender_seq st.target_seq)) ∧
      ∀ q, q ≠ st.seqfile → q ≠ st.seqfile ++ tmp_ext → fs.disk q = st.fs.disk q := by
  obtain ⟨⟨hdisk, -, hquiet⟩, _⟩ := replace_file_spec st.fs.disk st.fs.faults st.seqfile
    (seq_data st.sender_seq st.target_seq) st.fs ⟨rfl, rfl⟩
  have ⟨hok, hfaults⟩ := hquiet hq
  refine ⟨_, ?_, hfaults, ?_, ?_⟩
  · rw [persist_seqs, hok]
    rfl
  · rw [hdisk _ (ne_tmp _), if_pos ⟨hok, rfl⟩]
  · intro q hne htmp
    rw [hdisk q htmp, if_neg (fun h => hne h.2)]

theorem load_seqs_quiet (hq : st.fs.faults = []) {s t : ℕ}
    (hload : loads (st.fs.disk st.seqfile) = some (s, t)) :
    ∃ fs : FileSystem, st.load_seqs =
        (.ok (), { st with sender_seq := s, target_seq := t, fs := fs }) ∧
      fs.faults = [] ∧ fs.disk = st.fs.disk := by
  rcases st with ⟨seqfile, outfile, infile, opts, s₀, t₀, out, pos, inb, index, closed, ⟨d, tr, fl⟩⟩
  obtain rfl : fl = [] := hq
  replace hload : loads (d seqfile) = some (s, t) := hload
  rcases hfile : d seqfile with _ | f
  · rw [hfile] at hload
    injection hload with hload
    injection hload with hs ht
    subst hs ht
    exact ⟨⟨d, d :: tr, []⟩, by simp [load_seqs, hfile], rfl, rfl⟩
  · rw [hfile] at hload
    replace hload : parse_seqs f.data = some (s, t) := hload
    exact ⟨⟨d, d :: d :: d :: tr, []⟩, by simp [load_seqs, read_all, hfile, hload], rfl, rfl⟩

theorem rebuild_index_quiet (hq : st.fs.faults = []) :
    ∃ (index : OrdMap ℕ ℕ) (fs : FileSystem),
      st.rebuild_index = (.ok (), { st with out_index := index, fs := fs }) ∧ fs.faults = [] ∧
      (∀ q, q ≠ st.outfile → fs.disk q = st.fs.disk q) ∧ fs.disk.unsynced = st.fs.disk.unsynced ∧
      (st.fs.disk st.outfile = none → index = st.out_index ∧ fs.disk = st.fs.disk) ∧
      (∀ f ix, st.fs.disk st.outfile = some f → rebuild_loop f.data [] 0 .empty = (ix, none) →
        index = ix ∧ fs.disk = st.fs.disk) := by
  rcases st with ⟨seqfile, outfile, infile, opts, s₀, t₀, out, pos, inb, index, closed, ⟨d, tr, fl⟩⟩
  obtain rfl : fl = [] := hq
  rcases hfile : d outfile with _ | f
  · refine ⟨index, ⟨d, d :: tr, []⟩, by simp [rebuild_index, hfile], rfl, fun _ _ => rfl, rfl,
      fun _ => ⟨rfl, rfl⟩, ?_⟩
    intro f ix hf
    exact absurd hf (by simp)
  · rcases hloop : rebuild_loop f.data [] 0 .empty with ⟨ix, _ | last_good⟩
    · refine ⟨ix, ⟨d, d :: d :: tr, []⟩, by simp [rebuild_index, hfile, hloop], rfl,
        fun _ _ => rfl, rfl,
        fun h => absurd h (by simp), ?_⟩
      intro f' ix' hf hix
      obtain rfl : f = f' := Option.some.inj hf
      exact ⟨(Prod.mk.inj (hloop.symm.trans hix)).1, rfl⟩
    · refine ⟨ix, ⟨d.write outfile (some (f.resize last_good)), d :: d :: d :: tr, []⟩, ?_,
        rfl, ?_, rfl,
        fun h => absurd h (by simp), ?_⟩
      · simp [rebuild_index, hfile, hloop, resize_file_quiet _ _ _ hfile, store_result]
      · intro q hne
        exact Disk.write_ne _ hne
      · intro f' ix' hf hix
        obtain rfl : f = f' := Option.some.inj hf
        exact absurd (Prod.mk.inj (hloop.symm.trans hix)).2 (by simp)

theorem open_streams_quiet (hq : st.fs.faults = []) (hne : st.outfile ≠ st.infile) :
    ∃ fs : FileSystem, st.open_streams =
        { st with
          out_stream := .good, out_pos := ((st.fs.disk st.outfile).getD File.new).data.length,
          in_stream := .good, fs := fs } ∧
      fs.faults = [] ∧ fs.disk.unsynced = st.fs.disk.unsynced ∧
      fs.disk st.outfile = some ((st.fs.disk st.outfile).getD File.new) ∧
      ∀ q, q ≠ st.outfile → q ≠ st.infile → fs.disk q = st.fs.disk q := by
  rcases st with ⟨seqfile, outfile, infile, opts, s₀, t₀, out, pos, inb, index, closed, ⟨d, tr, fl⟩⟩
  obtain rfl : fl = [] := hq
  let d₁ := d.write outfile (some ((d outfile).getD File.new))
  refine ⟨⟨d₁.write infile (some ((d₁ infile).getD File.new)), d₁ :: d :: tr, []⟩,
    by simp [open_streams, opened, file_end, d₁], rfl, rfl, ?_, ?_⟩
  · exact (Disk.write_ne _ hne).trans (Disk.write_self _ _ _)
  · intro q hout hin
    exact (Disk.write_ne _ hin).trans (Disk.write_ne _ hout)

theorem store_outbound_quiet (hq : st.fs.faults = []) (hopen : st.closed = false)
    (hgood : st.out_stream = .good) {f : File} (hf : st.fs.disk st.outfile = some f) (seq : ℕ)
    (raw : Bytes) :
    ∃ (fs : FileSystem) (f' : File), st.store_outbound seq raw =
        (.ok (), { st with
          out_index := st.out_index.insert seq st.out_pos, out_pos := f'.data.length, fs := fs }) ∧
      fs.faults = [] ∧ fs.disk st.outfile = some f' ∧ f'.data = f.data ++ log_record seq raw ∧
      ∀ q, q ≠ st.outfile → fs.disk q = st.fs.disk q := by
  rcases st with ⟨seqfile, outfile, infile, ⟨sync⟩, s₀, t₀, out, pos, inb, index, closed,
    ⟨d, tr, fl⟩⟩
  obtain rfl : fl = [] := hq
  obtain rfl : closed = false := hopen
  obtain rfl : out = .good := hgood
  replace hf : d outfile = some f := hf
  rcases sync with _ | _
  · refine ⟨⟨d.write outfile (some (f.append (log_record seq raw))), d :: tr, []⟩, _, ?_, rfl,
      Disk.write_self _ _ _, rfl, fun q hne => Disk.write_ne _ hne⟩
    simp [store_outbound, hf, tellp, file_end]
  · let d₁ := d.write outfile (some (f.append (log_record seq raw)))
    refine ⟨⟨d₁.write outfile (some (File.durable (f.data ++ log_record seq raw))),
      d₁ :: d₁ :: d :: tr, []⟩, _, ?_, rfl, Disk.write_self _ _ _, rfl,
      fun q hne => (Disk.write_ne _ hne).trans (Disk.write_ne _ hne)⟩
    simp [store_outbound, hf, tellp, file_end, fsync_path, d₁, File.append, File.durable]

theorem truncate_quiet (d : Disk) (tr : List Disk) (p : Path) :
    ∃ tr', truncate p ⟨d, tr, []⟩ =
      (true, ⟨d.write p ((d p).map fun f => f.resize 0), tr', []⟩) := by
  rcases hf : d p with _ | f
  · refine ⟨d :: tr, ?_⟩
    have hsame : d.write p none = d := by
      refine congrArg (Disk.mk · d.unsynced) (funext fun q => ?_)
      by_cases hq : q = p
      · rw [hq, Files.write_self, ← hf]
      · exact Files.write_ne _ hq
    simp [truncate, hf, hsame]
  · exact ⟨d :: d :: tr, by simp [truncate, hf, resize_file_quiet _ _ _ hf]⟩

theorem migrate_quiet (d : Disk) (tr : List Disk) (dir : Directory) (sid : SessionID)
    (hmig : d (store_path sid seq_ext) = none → d (legacy_path dir sid seq_ext) = none) :
    ∃ tr', migrate_legacy_files dir sid ⟨d, tr, []⟩ = (true, ⟨d, tr', []⟩) := by
  rcases hf : d (store_path sid seq_ext) with _ | f
  · exact ⟨d :: d :: tr, by simp [migrate_legacy_files, hf, hmig hf]⟩
  · exact ⟨d :: tr, by simp [migrate_legacy_files, hf]⟩

/-- **Without faults a reset succeeds**: the counters are 1 and 1, in the file too, and the log
is empty. -/
theorem reset_quiet {base : Path} (hq : st.fs.faults = []) (hopen : st.closed = false)
    (hseq : st.seqfile = base ++ seq_ext) (hout : st.outfile = base ++ out_ext)
    (hin : st.infile = base ++ in_ext) {f : File} (hf : st.fs.disk st.outfile = some f) :
    ∃ fs : FileSystem, st.reset =
        (.ok (), { st with
          sender_seq := 1, target_seq := 1, out_index := .empty, out_stream := .good, out_pos := 0,
          in_stream := .good, fs := fs }) ∧
      fs.faults = [] ∧ fs.disk st.seqfile = some (File.durable (seq_data 1 1)) ∧
      fs.disk st.outfile = some (f.resize 0) := by
  rcases st with ⟨seqfile, outfile, infile, opts, s₀, t₀, out, pos, inb, index, closed, ⟨d, tr, fl⟩⟩
  obtain rfl : fl = [] := hq
  obtain rfl : closed = false := hopen
  obtain rfl : seqfile = base ++ seq_ext := hseq
  obtain rfl : outfile = base ++ out_ext := hout
  obtain rfl : infile = base ++ in_ext := hin
  replace hf : d (base ++ out_ext) = some f := hf
  obtain ⟨tr₁, htrunc₁⟩ := truncate_quiet d tr (base ++ out_ext)
  rw [hf, Option.map_some] at htrunc₁
  obtain ⟨d₁, hd₁⟩ : ∃ d₁, d₁ = d.write (base ++ out_ext) (some (f.resize 0)) := ⟨_, rfl⟩
  obtain ⟨tr₂, htrunc₂⟩ := truncate_quiet d₁ tr₁ (base ++ in_ext)
  obtain ⟨d₂, hd₂⟩ : ∃ d₂, d₂ = d₁.write (base ++ in_ext)
    ((d₁ (base ++ in_ext)).map fun f => f.resize 0) := ⟨_, rfl⟩
  rw [← hd₁] at htrunc₁
  rw [← hd₂] at htrunc₂
  obtain ⟨fs₃, hpersist, hq₃, hseq₃, hkeep₃⟩ := persist_seqs_quiet
    ⟨base ++ seq_ext, base ++ out_ext, base ++ in_ext, opts, 1, 1, .closed, pos,
      .closed, .empty, false, ⟨d₂, tr₂, []⟩⟩ rfl
  obtain ⟨fs₄, hstreams, hq₄, -, hout₄, hkeep₄⟩ := open_streams_quiet
    ⟨base ++ seq_ext, base ++ out_ext, base ++ in_ext, opts, 1, 1, .closed, pos,
      .closed, .empty, false, fs₃⟩ hq₃ (out_ne_in _)
  have hfile : fs₃.disk (base ++ out_ext) = some (f.resize 0) := by
    rw [hkeep₃ _ (seq_ne_out base).symm (out_ne_tmp base)]
    show d₂ (base ++ out_ext) = _
    rw [hd₂, Disk.write_ne _ (out_ne_in base), hd₁, Disk.write_self]
  have hend : ((fs₃.disk (base ++ out_ext)).getD File.new).data.length = 0 := by
    rw [hfile, Option.getD_some, File.resize, List.take_zero, Nat.zero_sub]
    rfl
  refine ⟨fs₄, ?_, hq₄, ?_, ?_⟩
  · simp only [reset, Bool.false_eq_true, if_false, htrunc₁, htrunc₂, Bool.not_true, hpersist,
      hstreams, hend]
  · exact (hkeep₄ _ (seq_ne_out _) (seq_ne_in _)).trans hseq₃
  · exact hout₄.trans (congrArg (fun x => some (x.getD File.new)) hfile)

theorem close_stream_quiet (first : Result Unit) (stream : Stream) (p : Path) (d : Disk)
    (tr : List Disk) :
    ∃ d' tr', (close_stream first stream p ⟨d, tr, []⟩).2 = ⟨d', tr', []⟩ ∧
      ∀ q, (d' q).map File.data = (d q).map File.data := by
  rcases stream with _ | _ | _
  · exact ⟨d, tr, rfl, fun _ => rfl⟩
  · refine ⟨_, _, rfl, ?_⟩
    intro q
    by_cases hq : q = p
    · rw [hq]
      show ((Disk.write d p _) p).map File.data = _
      rw [Disk.write_self, Option.map_map]
      rfl
    · show ((Disk.write d p _) q).map File.data = _
      rw [Disk.write_ne _ hq]
  · exact ⟨d, tr, rfl, fun _ => rfl⟩

theorem close_quiet {base : Path} (hq : st.fs.faults = []) (hopen : st.closed = false)
    (hseq : st.seqfile = base ++ seq_ext) (hout : st.outfile = base ++ out_ext)
    {f : File} (hf : st.fs.disk st.outfile = some f) :
    st.close.2.fs.faults = [] ∧
      st.close.2.fs.disk st.seqfile =
        some (File.durable (seq_data st.sender_seq st.target_seq)) ∧
      ∃ f', st.close.2.fs.disk st.outfile = some f' ∧ f'.data = f.data := by
  rcases st with ⟨seqfile, outfile, infile, opts, s₀, t₀, out, pos, inb, index, closed, ⟨d, tr, fl⟩⟩
  obtain rfl : fl = [] := hq
  obtain rfl : closed = false := hopen
  obtain rfl : seqfile = base ++ seq_ext := hseq
  obtain rfl : outfile = base ++ out_ext := hout
  obtain ⟨d₁, tr₁, hclose₁, hsame₁⟩ := close_stream_quiet (.ok ()) out (base ++ out_ext) d tr
  obtain ⟨d₂, tr₂, hclose₂, hsame₂⟩ := close_stream_quiet
    (close_stream (.ok ()) out (base ++ out_ext) ⟨d, tr, []⟩).1 inb infile d₁ tr₁
  let st₂ : FileStore := ⟨base ++ seq_ext, base ++ out_ext, infile, opts, s₀, t₀, .closed, pos,
    .closed, index, false, ⟨d₂, tr₂, []⟩⟩
  obtain ⟨fs₃, hpersist, hq₃, hseq₃, hkeep₃⟩ := persist_seqs_quiet st₂ rfl
  have hfs : (close ⟨base ++ seq_ext, base ++ out_ext, infile, opts, s₀, t₀, out, pos, inb, index,
      false, ⟨d, tr, []⟩⟩).2.fs = fs₃ := by
    simp only [close, Bool.false_eq_true, if_false, hclose₁, hclose₂]
    exact congrArg (fun r => r.2.fs) hpersist
  rw [hfs]
  refine ⟨hq₃, hseq₃, ?_⟩
  have hdata : (d₂ (base ++ out_ext)).map File.data = some f.data := by
    rw [hsame₂, hsame₁]
    exact congrArg (Option.map File.data) hf
  obtain ⟨f', hf', hfd⟩ := Option.map_eq_some_iff.mp hdata
  exact ⟨f', (hkeep₃ _ (seq_ne_out base).symm (out_ne_tmp base)).trans hf', hfd⟩

end Quiet

theorem open_migrated (dir : Directory) (sid : SessionID) (opts : FileStoreOptions) (d₀ d : Disk)
    (tr₀ tr : List Disk)
    (hmoved : migrate_legacy_files dir sid ⟨d₀, d₀ :: tr₀, []⟩ = (true, ⟨d, tr, []⟩)) {s t : ℕ}
    (hload : loads (d (store_path sid seq_ext)) = some (s, t)) :
    ∃ (index : OrdMap ℕ ℕ) (pos : ℕ) (fs' : FileSystem), open_ dir sid opts ⟨d₀, tr₀, []⟩ =
        (.ok (), { blank sid opts ⟨d₀, tr₀, []⟩ with
          sender_seq := s, target_seq := t, out_stream := .good, out_pos := pos, in_stream := .good,
          out_index := index, fs := fs' }) ∧
      fs'.faults = [] ∧ (∃ f, fs'.disk (store_path sid out_ext) = some f) ∧
      fs'.disk.unsynced = d.unsynced ∧
      (∀ q, q ≠ store_path sid out_ext → q ≠ store_path sid in_ext → fs'.disk q = d q) ∧
      (d (store_path sid out_ext) = none →
        index = .empty ∧ pos = 0 ∧ fs'.disk (store_path sid out_ext) = some File.new) ∧
      (∀ f ix, d (store_path sid out_ext) = some f →
        rebuild_loop f.data [] 0 .empty = (ix, none) →
        index = ix ∧ pos = f.data.length ∧ fs'.disk (store_path sid out_ext) = some f) := by
  obtain ⟨fs₂, hloaded, hq₂, hd₂⟩ := load_seqs_quiet
    { blank sid opts ⟨d₀, tr₀, []⟩ with fs := ⟨d, tr, []⟩ } rfl hload
  obtain ⟨index, fs₃, hindexed, hq₃, hkeep₃, hrenames₃, hnone₃, hsome₃⟩ := rebuild_index_quiet
    { blank sid opts ⟨d₀, tr₀, []⟩ with sender_seq := s, target_seq := t, fs := fs₂ } hq₂
  obtain ⟨fs₄, hopened, hq₄, hrenames₄, hout₄, hkeep₄⟩ := open_streams_quiet
    { blank sid opts ⟨d₀, tr₀, []⟩ with
      sender_seq := s, target_seq := t, out_index := index, fs := fs₃ } hq₃ (out_ne_in _)
  refine ⟨index, ((fs₃.disk (store_path sid out_ext)).getD File.new).data.length, fs₄, ?_, hq₄,
    ⟨_, hout₄⟩, ?_, ?_, ?_, ?_⟩
  · unfold open_
    simp only [show (blank sid opts ⟨d₀, tr₀, []⟩).fs = ⟨d₀, tr₀, []⟩ from rfl, attempt_quiet,
      Bool.not_true, Bool.false_eq_true, if_false, hmoved, hloaded, hindexed, hopened]
    rfl
  · rw [hrenames₄]
    exact hrenames₃.trans (congrArg Disk.unsynced hd₂)
  · intro q hout hin
    rw [hkeep₄ q hout hin]
    exact (hkeep₃ q hout).trans (Disk.congr_files hd₂ q)
  · intro hnone
    obtain ⟨hindex, hd₃⟩ := hnone₃ ((Disk.congr_files hd₂ _).trans hnone)
    have hfile : fs₃.disk (store_path sid out_ext) = none :=
      (Disk.congr_files hd₃ _).trans ((Disk.congr_files hd₂ _).trans hnone)
    exact ⟨hindex, congrArg (fun x => (x.getD File.new).data.length) hfile,
      hout₄.trans (congrArg (fun x => some (x.getD File.new)) hfile)⟩
  · intro f ix hf hloop
    obtain ⟨hindex, hd₃⟩ := hsome₃ f ix ((Disk.congr_files hd₂ _).trans hf) hloop
    have hfile : fs₃.disk (store_path sid out_ext) = some f :=
      (Disk.congr_files hd₃ _).trans ((Disk.congr_files hd₂ _).trans hf)
    exact ⟨hindex, congrArg (fun x => (x.getD File.new).data.length) hfile,
      hout₄.trans (congrArg (fun x => some (x.getD File.new)) hfile)⟩

/-- **Opening a store without faults** where there is nothing to migrate. -/
theorem open_quiet (dir : Directory) (sid : SessionID) (opts : FileStoreOptions) (fs : FileSystem)
    (hq : fs.faults = [])
    (hmig : fs.disk (store_path sid seq_ext) = none → fs.disk (legacy_path dir sid seq_ext) = none)
    {s t : ℕ} (hload : loads (fs.disk (store_path sid seq_ext)) = some (s, t)) :
    ∃ (index : OrdMap ℕ ℕ) (pos : ℕ) (fs' : FileSystem), open_ dir sid opts fs =
        (.ok (), { blank sid opts fs with
          sender_seq := s, target_seq := t, out_stream := .good, out_pos := pos, in_stream := .good,
          out_index := index, fs := fs' }) ∧
      fs'.faults = [] ∧ (∃ f, fs'.disk (store_path sid out_ext) = some f) ∧
      fs'.disk.unsynced = fs.disk.unsynced ∧
      (∀ q, q ≠ store_path sid out_ext → q ≠ store_path sid in_ext → fs'.disk q = fs.disk q) ∧
      (fs.disk (store_path sid out_ext) = none →
        index = .empty ∧ pos = 0 ∧ fs'.disk (store_path sid out_ext) = some File.new) ∧
      (∀ f ix, fs.disk (store_path sid out_ext) = some f →
        rebuild_loop f.data [] 0 .empty = (ix, none) →
        index = ix ∧ pos = f.data.length ∧ fs'.disk (store_path sid out_ext) = some f) := by
  rcases fs with ⟨d, tr, fl⟩
  obtain rfl : fl = [] := hq
  obtain ⟨tr₁, hmoved⟩ := migrate_quiet d (d :: tr) dir sid hmig
  exact open_migrated dir sid opts d d tr tr₁ hmoved hload

/-! ## A store that works -/

/-- The store is open with both streams good and its log in place, and no call is going to
fail. -/
structure Working (st : FileStore) : Prop where
  quiet : st.fs.faults = []
  is_open : st.closed = false
  out_good : st.out_stream = .good
  in_good : st.in_stream = .good
  named : ∃ base : Path, st.seqfile = base ++ seq_ext ∧ st.outfile = base ++ out_ext ∧
    st.infile = base ++ in_ext
  log : ∃ f, st.fs.disk st.outfile = some f

/-- **A store that was opened without faults works.** -/
theorem working_open_ (dir : Directory) (sid : SessionID) (opts : FileStoreOptions)
    (fs : FileSystem) (hq : fs.faults = [])
    (hmig : fs.disk (store_path sid seq_ext) = none → fs.disk (legacy_path dir sid seq_ext) = none)
    {s t : ℕ} (hload : loads (fs.disk (store_path sid seq_ext)) = some (s, t)) :
    Working (open_ dir sid opts fs).2 := by
  obtain ⟨index, pos, fs', hopened, hfaults, hlog, -⟩ := open_quiet dir sid opts fs hq hmig hload
  rw [hopened]
  exact ⟨hfaults, rfl, rfl, rfl, ⟨_, rfl, rfl, rfl⟩, hlog⟩

namespace Working

variable {st : FileStore}

theorem of_fs (h : Working st) {fs : FileSystem} (hq : fs.faults = []) {f : File}
    (hlog : fs.disk st.outfile = some f) : Working { st with fs := fs } :=
  ⟨hq, h.is_open, h.out_good, h.in_good, h.named, f, hlog⟩

theorem commit (h : Working st) (s t : ℕ) :
    (st.commit s t).1 = .ok () ∧ Working (st.commit s t).2 := by
  obtain ⟨base, hseq, hout, hin⟩ := h.named
  obtain ⟨f, hf⟩ := h.log
  have hworks : Working { st with sender_seq := s, target_seq := t } :=
    ⟨h.quiet, h.is_open, h.out_good, h.in_good, h.named, h.log⟩
  obtain ⟨fs, hpersist, hq, -, hkeep⟩ :=
    persist_seqs_quiet { st with sender_seq := s, target_seq := t } h.quiet
  have hlog : fs.disk st.outfile = some f := by
    refine (hkeep _ ?_ ?_).trans hf
    · show st.outfile ≠ st.seqfile
      rw [hout, hseq]
      exact (seq_ne_out base).symm
    · show st.outfile ≠ st.seqfile ++ tmp_ext
      rw [hout, hseq]
      exact out_ne_tmp base
  rw [FileStore.commit, hpersist]
  exact ⟨rfl, hworks.of_fs hq hlog⟩

theorem set_next_sender_seq_num (h : Working st) (n : ℕ) :
    (st.set_next_sender_seq_num n).1 = .ok () ∧ Working (st.set_next_sender_seq_num n).2 := by
  rw [FileStore.set_next_sender_seq_num, if_neg (by simp [h.is_open])]
  exact h.commit _ _

theorem set_next_target_seq_num (h : Working st) (n : ℕ) :
    (st.set_next_target_seq_num n).1 = .ok () ∧ Working (st.set_next_target_seq_num n).2 := by
  rw [FileStore.set_next_target_seq_num, if_neg (by simp [h.is_open])]
  exact h.commit _ _

theorem next_sender_seq_num_incr (h : Working st) :
    (st.sender_seq ≠ 2 ^ 64 - 1 → st.next_sender_seq_num_incr.1 = .ok st.sender_seq) ∧
      Working st.next_sender_seq_num_incr.2 := by
  obtain ⟨hok, hworks⟩ := h.commit (seq_succ st.sender_seq) st.target_seq
  rw [FileStore.next_sender_seq_num_incr]
  split
  · rename_i hrefused
    have hlast : st.sender_seq = 2 ^ 64 - 1 := by simpa [h.is_open] using hrefused
    exact ⟨fun hne => absurd hlast hne, h⟩
  · dsimp only
    rw [hok]
    exact ⟨fun _ => rfl, hworks⟩

theorem advance_next_target_seq_num (h : Working st) (n : ℕ) :
    (st.advance_next_target_seq_num n).1 = .ok () ∧
    Working (st.advance_next_target_seq_num n).2 := by
  rw [FileStore.advance_next_target_seq_num, if_neg (by simp [h.is_open])]
  split
  · exact ⟨rfl, h⟩
  · exact h.commit _ _

theorem store_outbound (h : Working st) (seq : ℕ) (raw : Bytes) :
    (st.store_outbound seq raw).1 = .ok () ∧ Working (st.store_outbound seq raw).2 := by
  obtain ⟨f, hf⟩ := h.log
  obtain ⟨fs, f', hstore, hq, hf', -⟩ :=
    st.store_outbound_quiet h.quiet h.is_open h.out_good hf seq raw
  rw [hstore]
  exact ⟨rfl, hq, h.is_open, h.out_good, h.in_good, h.named, f', hf'⟩

theorem store_inbound (h : Working st) (seq : ℕ) (raw : Bytes) :
    (st.store_inbound seq raw).1 = .ok () ∧ Working (st.store_inbound seq raw).2 := by
  obtain ⟨f, hf⟩ := h.log
  obtain ⟨base, -, hout, hin⟩ := h.named
  have hne : st.outfile ≠ st.infile := by
    rw [hout, hin]
    exact out_ne_in base
  have hworks : ∀ fs : FileSystem, fs.faults = [] → fs.disk st.outfile = some f →
      Working { st with fs := fs } := fun _ hq hlog => h.of_fs hq hlog
  rcases st with ⟨seqfile, outfile, infile, ⟨sync⟩, s₀, t₀, out, pos, inb, index, closed,
    ⟨d, tr, fl⟩⟩
  obtain rfl : fl = [] := h.quiet
  obtain rfl : closed = false := h.is_open
  obtain rfl : inb = .good := h.in_good
  rcases sync with _ | _
  · simp only [FileStore.store_inbound, bne_self_eq_false, Bool.or_self,
      Bool.false_eq_true, if_false, write_all_quiet, Bool.not_true]
    exact ⟨trivial, hworks _ rfl ((Disk.write_ne _ hne).trans hf)⟩
  · simp only [FileStore.store_inbound, bne_self_eq_false, Bool.or_self,
      Bool.false_eq_true, if_false, write_all_quiet, Bool.not_true, if_true, fsync_path, bind_apply,
      attempt_quiet, fsync_quiet]
    exact ⟨rfl, hworks _ rfl ((Disk.write_ne _ hne).trans ((Disk.write_ne _ hne).trans hf))⟩

theorem get_messages (h : Working st) (first last : ℕ) :
    (∃ frames, (st.get_messages first last).1 = .ok frames) ∧
    Working (st.get_messages first last).2 := by
  obtain ⟨f, hf⟩ := h.log
  have hworks : ∀ fs : FileSystem, fs.faults = [] → fs.disk st.outfile = some f →
      Working { st with fs := fs } := fun _ hq hlog => h.of_fs hq hlog
  rcases st with ⟨seqfile, outfile, infile, opts, s₀, t₀, out, pos, inb, index, closed, ⟨d, tr, fl⟩⟩
  obtain rfl : fl = [] := h.quiet
  replace hf : d outfile = some f := hf
  simp only [FileStore.get_messages, open_read_quiet, hf, Option.map_some, read_limit_quiet]
  exact ⟨⟨_, rfl⟩, hworks _ rfl hf⟩

theorem reset (h : Working st) : st.reset.1 = .ok () ∧ Working st.reset.2 := by
  obtain ⟨base, hseq, hout, hin⟩ := h.named
  obtain ⟨f, hf⟩ := h.log
  obtain ⟨fs, hreset, hq, -, hlog⟩ := st.reset_quiet h.quiet h.is_open hseq hout hin hf
  rw [hreset]
  exact ⟨rfl, hq, h.is_open, rfl, rfl, h.named, _, hlog⟩

end Working

end FileStore

end FixEngine
