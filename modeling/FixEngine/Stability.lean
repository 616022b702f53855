/-
What the parser decides on a buffer it decides on every longer one.

`scan_frame_error` lists the ways a buffer is refused. `scan_frame_append` shows
that a decision stands when more bytes arrive, unless it was to wait for them,
and `resync_len_append` that what `resync_scan` drops does not depend on when it
runs. Both hold as long as the stream is within the message limit (`Fits`): past
it, an oversized frame is skipped whole or by its header depending on how much of
it has arrived. So the decisions of `try_parse_one`, as `parse_step`, form a stable
incremental consumer.
-/
import FixEngine.Grammar
import FixEngine.Incremental

set_option autoImplicit false

namespace FixEngine

open FixEngine.Decimal FixEngine.Scan FixEngine.Incremental

/-! ## Stability of the decisions -/

/-- Buffers of `n` bytes are within the message limit. -/
def Fits (opts : StreamParserOptions) (n : ℕ) : Prop :=
  n < 2 ^ 64 - 1 ∧ (opts.max_msg_len = 0 ∨ n ≤ opts.max_msg_len)

variable {opts : StreamParserOptions}

theorem Fits.mono (m n : ℕ) (h : m ≤ n) (hn : Fits opts n) :
    Fits opts m := by
  unfold Fits at *
  omega

theorem header_field_append (x e : Bytes) (pos : ℕ) (expected : TagNum) (on_error : ℕ)
    (mismatch : ErrorCode) (hpos : pos ≤ x.length) :
    header_field x pos expected on_error mismatch = .error (.need_more none) ∨
      header_field (x ++ e) pos expected on_error mismatch
        = header_field x pos expected on_error mismatch := by
  have hdrop : (x ++ e).drop pos = x.drop pos ++ e := List.drop_append_of_le_length hpos
  have hlen : (x.drop pos).length = x.length - pos := List.length_drop
  have hlen' : (x ++ e).length = x.length + e.length := List.length_append
  unfold header_field
  rw [hdrop]
  by_cases hshort : x.length - pos < kMaxHeaderScan
  · -- the whole rest of the buffer was scanned
    have htake : (x.drop pos).take kMaxHeaderScan = x.drop pos :=
      List.take_of_length_le (by omega)
    have htake' : (x.drop pos ++ e).take kMaxHeaderScan
        = x.drop pos ++ e.take (kMaxHeaderScan - (x.drop pos).length) := by
      rw [List.take_append, htake]
    by_cases hinc : parse_field (x.drop pos) = .Incomplete
    · left
      rw [htake, hinc]
      exact if_pos hshort
    · right
      rw [htake, htake', parse_field_append _ hinc]
      rcases hf : parse_field (x.drop pos) with ⟨t, v, n⟩ | _ | _
      · rfl
      · exact absurd hf hinc
      · rfl
  · right
    have htake : (x.drop pos ++ e).take kMaxHeaderScan = (x.drop pos).take kMaxHeaderScan :=
      List.take_append_of_le_length (by omega)
    rw [htake, if_neg hshort, if_neg (by omega)]

theorem frame_end_of_fits {n n' body_start body_length : ℕ}
    (hs : body_start ≤ 128) (hn : Fits opts n) (hn' : Fits opts n') :
    frame_end_of opts n body_start body_length = frame_end_of opts n' body_start body_length := by
  unfold Fits at hn hn'
  unfold frame_end_of
  simp only
  split
  · rename_i hover
    by_cases hok : body_length ≤ 2 ^ 64 - 1 - (body_start + 7)
    · simp only [if_pos hok]
      have h1 : ¬ n ≥ body_start + body_length + 7 := by
        rcases hover with h | ⟨h0, h | h⟩ <;> omega
      have h2 : ¬ n' ≥ body_start + body_length + 7 := by
        rcases hover with h | ⟨h0, h | h⟩ <;> omega
      simp only [h1, h2, false_and, if_false, not_le.1 h1, not_le.1 h2, and_true]
    · simp only [if_neg hok]
      have h1 : ¬ n ≥ 2 ^ 64 - 1 := by omega
      have h2 : ¬ n' ≥ 2 ^ 64 - 1 := by omega
      simp only [h1, h2, false_and, if_false, not_le.1 h1, not_le.1 h2, and_true]
  · rfl

theorem parse_frame_append (opts : StreamParserOptions) (x e bv : Bytes) (bs bl : ℕ)
    (hlen : bs + bl + 7 ≤ x.length) :
    parse_frame opts (x ++ e) bv bs bl (bs + bl + 7) =
    parse_frame opts x bv bs bl (bs + bl + 7) := by
  have hlen' : (x ++ e).length = x.length + e.length := List.length_append
  have hdl : (x.drop bs).length = x.length - bs := List.length_drop
  have hdl' : (x.drop (bs + bl)).length = x.length - (bs + bl) := List.length_drop
  have hbody : ((x ++ e).drop bs).take bl = (x.drop bs).take bl := by
    rw [List.drop_append_of_le_length (by omega), List.take_append_of_le_length (by omega)]
  have htrail : parse_trailer (x ++ e) (bs + bl) = parse_trailer x (bs + bl) := by
    unfold parse_trailer
    rw [List.drop_append_of_le_length (by omega),
      List.take_append_of_le_length (by unfold kTrailerBytes; omega)]
  have hraw : (x ++ e).take (bs + bl + kTrailerBytes) = x.take (bs + bl + kTrailerBytes) :=
    List.take_append_of_le_length (by unfold kTrailerBytes; omega)
  have hsum : (x ++ e).take (bs + bl + kTrailerBytes - kTrailerBytes)
      = x.take (bs + bl + kTrailerBytes - kTrailerBytes) :=
    List.take_append_of_le_length (by omega)
  unfold parse_frame
  rw [if_neg (by omega), if_neg (by omega)]
  simp only [hbody, htrail, hraw, hsum]

theorem frame_end_of_ok {n bs bl fe : ℕ} (hs : bs ≤ 128)
    (h : frame_end_of opts n bs bl = .ok fe) : fe = bs + bl + 7 :=
  ((frame_end_of_ok_iff hs fe).1 h).1

variable {x : Bytes}

theorem header_field_bounds {pos : ℕ} {expected : TagNum} {on_error : ℕ}
    {mismatch : ErrorCode} {v : Bytes} {n : ℕ}
    (h : header_field x pos expected on_error mismatch = .ok (v, n)) :
    0 < n ∧ n ≤ 64 ∧ pos + n ≤ x.length := by
  obtain ⟨f, rest, hd, h64, -, -, rfl⟩ := (header_field_ok_iff _ _ _ _ _ _ _).1 h
  have hf := f.length_bytes
  have hl := congrArg List.length hd
  rw [List.length_drop, List.length_append] at hl
  exact ⟨by omega, h64, by omega⟩

/-- **The decision on a buffer stands when more bytes arrive**, unless it was to
wait for them. -/
theorem scan_frame_append (opts : StreamParserOptions) (x e : Bytes)
    (hfit : Fits opts (x ++ e).length) :
    (∃ err, scan_frame opts x = .error (.need_more err)) ∨
      scan_frame opts (x ++ e) = scan_frame opts x := by
  have hlen : (x ++ e).length = x.length + e.length := List.length_append
  have hfitx : Fits opts x.length := Fits.mono _ _ (by omega) hfit
  unfold scan_frame
  by_cases h2 : x.length < 2
  · exact Or.inl ⟨none, by rw [if_pos h2]; rfl⟩
  rw [if_neg h2, if_neg (by omega : ¬ (x ++ e).length < 2),
    List.take_append_of_le_length (by omega : 2 ≤ x.length)]
  by_cases h8 : x.take 2 ≠ ascii "8="
  · exact Or.inr (by rw [if_pos h8, if_pos h8]; rfl)
  rw [if_neg h8, if_neg h8]
  by_cases hmin : x.length < kMinMsgLen
  · exact Or.inl ⟨none, by rw [if_pos hmin]; rfl⟩
  rw [if_neg hmin, if_neg (by omega : ¬ (x ++ e).length < kMinMsgLen)]
  rcases header_field_append x e 0 tags.BeginString 1 .InvalidField (Nat.zero_le _) with hb | hb
  · exact Or.inl ⟨none, by rw [begin_string_field, hb]; rfl⟩
  rw [begin_string_field, begin_string_field, hb]
  rcases hbv : header_field x 0 tags.BeginString 1 .InvalidField with r | ⟨bv, p⟩
  · exact Or.inr rfl
  obtain ⟨-, hp64, hp⟩ := header_field_bounds hbv
  simp only [bind, Except.bind]
  rcases header_field_append x e p tags.BodyLength p .BadLength (by omega) with hl | hl
  · exact Or.inl ⟨none, by rw [body_length_field, hl]⟩
  rw [body_length_field, body_length_field, hl]
  rcases hlv : header_field x p tags.BodyLength p .BadLength with r | ⟨v, l⟩
  · exact Or.inr rfl
  obtain ⟨-, hl64, hpl⟩ := header_field_bounds hlv
  simp only
  rcases hv : parse_unsigned (2 ^ 64) v with _ | bl
  · exact Or.inr rfl
  simp only
  rw [frame_end_of_fits (by omega) hfit hfitx]
  rcases hfe : frame_end_of opts x.length (p + l) bl with r | fe
  · exact Or.inr rfl
  obtain rfl := frame_end_of_ok (by omega) hfe
  simp only
  by_cases hfull : x.length < p + l + bl + 7
  · refine Or.inl ⟨none, ?_⟩
    unfold parse_frame
    rw [if_pos hfull]
    rfl
  · exact Or.inr (parse_frame_append opts x e bv (p + l) bl (by omega))

variable {r : Refusal}

theorem parse_body_error {fuel body_end : ℕ} {rem : Bytes} {msg : Message} {seen : List TagNum}
    {dup : Bool} (hfuel : rem.length ≤ fuel)
    (h : parse_body fuel body_end rem msg seen dup = .error r) :
    ∃ n err, r = .skip n err ∧ n ≤ body_end := by
  induction fuel generalizing rem msg seen dup with
  | zero =>
    obtain rfl : rem = [] := List.length_eq_zero_iff.1 (Nat.le_zero.1 hfuel)
    unfold parse_body at h
    cases h
  | succ fuel ih =>
    rcases rem with _ | ⟨c, cs⟩
    · unfold parse_body at h
      cases h
    rw [parse_body] at h
    rcases hf : parse_field (c :: cs) with ⟨tag, value, n⟩ | _ | _
    · obtain ⟨f, rest, hcs, -, -, hn⟩ := (parse_field_ok_iff _ _ _ _).1 hf
      have hflen := f.length_bytes
      have hdrop : ((c :: cs).drop n).length ≤ fuel := by
        rw [List.length_drop]
        rw [List.length_cons] at *
        omega
      simp only [hf] at h
      split at h
      · cases h
        exact ⟨_, _, rfl, Nat.sub_le _ _⟩
      · split at h
        · exact ih hdrop h
        · split at h
          · cases h
            exact ⟨_, _, rfl, Nat.sub_le _ _⟩
          · exact ih hdrop h
    · simp only [hf] at h
      cases h
      exact ⟨_, _, rfl, le_refl _⟩
    · simp only [hf] at h
      cases h
      exact ⟨_, _, rfl, Nat.sub_le _ _⟩

theorem parse_trailer_error {body_end : ℕ}
    (h : parse_trailer x body_end = .error r) : ∃ err, r = .skip body_end err := by
  unfold parse_trailer at h
  split at h
  · split at h
    · split at h
      · cases h
        exact ⟨_, rfl⟩
      · split at h <;> cases h
        exact ⟨_, rfl⟩
    · cases h
      exact ⟨_, rfl⟩
  · cases h
    exact ⟨_, rfl⟩

theorem parse_frame_error {x bv : Bytes} {bs bl : ℕ}
    (h : parse_frame opts x bv bs bl (bs + bl + 7) = .error r) :
    (x.length < bs + bl + 7 ∧ r = .need_more none) ∨ ∃ n err, r = .skip n err ∧ n ≤ x.length := by
  unfold parse_frame at h
  by_cases hfull : x.length < bs + bl + 7
  · rw [if_pos hfull] at h
    cases h
    exact Or.inl ⟨hfull, rfl⟩
  right
  rw [if_neg hfull] at h
  by_cases hc : clean bv = true
  · have hseed : ({} : Message).add tags.BeginString bv
        = .ok { fields := [⟨tags.BeginString, bv⟩] } := add_of_clean hc
    have hseed2 : ({ fields := [⟨tags.BeginString, bv⟩] } : Message).add tags.BodyLength
          (to_chars_int (to_i64 bl)) = .ok (seed_message bv bl) :=
      add_of_clean (clean_to_chars_int _)
    simp only [hseed, hseed2, bind, Except.bind] at h
    rcases hb : parse_body bl (bs + bl) ((x.drop bs).take bl) (seed_message bv bl)
        header_seen false with r' | ⟨m, d⟩
    · obtain ⟨n', err', rfl, hle⟩ := parse_body_error (by rw [List.length_take]; omega) hb
      rw [hb] at h
      cases h
      exact ⟨_, _, rfl, by omega⟩
    rw [hb] at h
    simp only at h
    rcases ht : parse_trailer x (bs + bl) with r' | provided
    · obtain ⟨err', rfl⟩ := parse_trailer_error ht
      rw [ht] at h
      cases h
      exact ⟨_, _, rfl, by omega⟩
    rw [ht] at h
    simp only at h
    split at h
    · cases h
      exact ⟨_, _, rfl, by unfold kTrailerBytes; omega⟩
    · split at h
      · cases h
        exact ⟨_, _, rfl, by unfold kTrailerBytes; omega⟩
      · cases h
  · have hseed : ({} : Message).add tags.BeginString bv = .error .InvalidField :=
      add_of_not_clean hc
    simp only [hseed] at h
    cases h
    exact ⟨_, _, rfl, by omega⟩

theorem header_field_error {pos : ℕ} {expected : TagNum} {on_error : ℕ}
    {mismatch : ErrorCode}
    (h : header_field x pos expected on_error mismatch = .error r) :
    (x.length - pos < kMaxHeaderScan ∧ r = .need_more none) ∨ ∃ err, r = .skip on_error err := by
  unfold header_field at h
  split at h
  · split at h
    · cases h
      exact Or.inl ⟨by assumption, rfl⟩
    · cases h
      exact Or.inr ⟨_, rfl⟩
  · cases h
    exact Or.inr ⟨_, rfl⟩
  · split at h
    · cases h
    · cases h
      exact Or.inr ⟨_, rfl⟩

theorem frame_end_of_error {n bs bl : ℕ}
    (h : frame_end_of opts n bs bl = .error r) :
    (n < opts.buf_cap ∧ r = .need_more (some .BadLength)) ∨
      ∃ k err, r = .skip k err ∧ (k ≤ n ∨ k = bs) := by
  unfold frame_end_of at h
  simp only at h
  split_ifs at h <;> cases h
  · exact Or.inl ⟨by omega, rfl⟩
  · exact Or.inr ⟨_, _, rfl, by omega⟩
  · exact Or.inr ⟨_, _, rfl, Or.inr rfl⟩
  · exact Or.inl ⟨by omega, rfl⟩
  · exact Or.inr ⟨_, _, rfl, by omega⟩
  · exact Or.inr ⟨_, _, rfl, Or.inr rfl⟩

/-- The lengths at which more bytes are awaited: a header is incomplete, an oversized
frame is short of the cap, or a frame is short of its end. -/
def Awaited (opts : StreamParserOptions) (n : ℕ) : Prop :=
  n < 2 * kMaxHeaderScan ∨ n < opts.buf_cap ∨ opts.max_msg_len = 0 ∨ n < opts.max_msg_len

/-- **How a buffer is refused.** It is too short to decide, or holds no frame start
at its front, or is skipped up to some position inside it. -/
theorem scan_frame_error
    (h : scan_frame opts x = .error r) :
    (∃ err, r = .need_more err ∧ Awaited opts x.length) ∨
      (2 ≤ x.length ∧ x.take 2 ≠ ascii "8=" ∧ r = .resync) ∨
      (2 ≤ x.length ∧ x.take 2 = ascii "8=" ∧ ∃ n err, r = .skip n err ∧ n ≤ x.length) := by
  unfold scan_frame at h
  by_cases h2 : x.length < 2
  · rw [if_pos h2] at h
    cases h
    exact Or.inl ⟨_, rfl, Or.inl (by unfold kMaxHeaderScan; omega)⟩
  rw [if_neg h2] at h
  by_cases h8 : x.take 2 = ascii "8="
  · rw [if_neg (not_not.2 h8)] at h
    by_cases hmin : x.length < kMinMsgLen
    · rw [if_pos hmin] at h
      cases h
      unfold kMinMsgLen at hmin
      exact Or.inl ⟨_, rfl, Or.inl (by unfold kMaxHeaderScan; omega)⟩
    rw [if_neg hmin] at h
    simp only [bind, Except.bind] at h
    -- from here on the refusal is the one of the first stage that refuses
    suffices (∃ err, r = .need_more err ∧ Awaited opts x.length) ∨
        ∃ n err, r = .skip n err ∧ n ≤ x.length from
      this.imp id (fun hk => Or.inr ⟨by omega, h8, hk⟩)
    rcases hb : begin_string_field x with r' | ⟨bv, p⟩
    · rw [hb] at h
      cases h
      rcases header_field_error hb with ⟨hshort, rfl⟩ | ⟨err, rfl⟩
      · exact Or.inl ⟨_, rfl, Or.inl (by omega)⟩
      · exact Or.inr ⟨_, _, rfl, by omega⟩
    rw [hb] at h
    obtain ⟨-, hp64, hp⟩ := header_field_bounds hb
    simp only at h
    rcases hl : body_length_field x p with r' | ⟨v, l⟩
    · rw [hl] at h
      cases h
      rcases header_field_error hl with ⟨hshort, rfl⟩ | ⟨err, rfl⟩
      · unfold kMaxHeaderScan at hshort
        exact Or.inl ⟨_, rfl, Or.inl (by unfold kMaxHeaderScan; omega)⟩
      · exact Or.inr ⟨_, _, rfl, by omega⟩
    rw [hl] at h
    obtain ⟨-, hl64, hpl⟩ := header_field_bounds hl
    simp only at h
    rcases hv : parse_unsigned (2 ^ 64) v with _ | bl
    · rw [hv] at h
      cases h
      exact Or.inr ⟨_, _, rfl, hpl⟩
    rw [hv] at h
    simp only at h
    rcases hfe : frame_end_of opts x.length (p + l) bl with r' | fe
    · rw [hfe] at h
      cases h
      rcases frame_end_of_error hfe with ⟨hcap, rfl⟩ | ⟨k, err, rfl, hk⟩
      · exact Or.inl ⟨_, rfl, Or.inr (Or.inl hcap)⟩
      · exact Or.inr ⟨_, _, rfl, by omega⟩
    · rw [hfe] at h
      obtain ⟨rfl, hmax⟩ := (frame_end_of_ok_iff (by omega) fe).1 hfe
      rcases parse_frame_error h with ⟨hshort, rfl⟩ | hk
      · exact Or.inl ⟨_, rfl, Or.inr (Or.inr (by omega))⟩
      · exact Or.inr hk
  · rw [if_pos h8] at h
    cases h
    exact Or.inr (Or.inl ⟨by omega, h8, rfl⟩)

theorem scan_frame_skip_le {n : ℕ} {err : ErrorCode}
    (h : scan_frame opts x = .error (.skip n err)) : 0 < x.length ∧ n ≤ x.length := by
  rcases scan_frame_error h with ⟨_, hr, -⟩ | ⟨-, -, hr⟩ | ⟨h2, -, n', err', hr, hle⟩
  · cases hr
  · cases hr
  · cases hr
    exact ⟨by omega, hle⟩

theorem scan_frame_resync_iff :
    scan_frame opts x = .error .resync ↔ 2 ≤ x.length ∧ x.take 2 ≠ ascii "8=" := by
  constructor
  · intro h
    rcases scan_frame_error h with ⟨_, hr, -⟩ | ⟨h2, h8, -⟩ | ⟨-, -, n', err', hr, -⟩
    · cases hr
    · exact ⟨h2, h8⟩
    · cases hr
  · rintro ⟨h2, h8⟩
    unfold scan_frame
    rw [if_neg (by omega), if_pos h8]
    rfl

/-! ## Resynchronisation -/

theorem find_frame_start_bounds {i : ℕ} (h : find_frame_start x = some i) :
    i + 2 ≤ x.length ∧ (x.drop i).take 2 = ascii "8=" := by
  induction x generalizing i with
  | nil => cases h
  | cons a x ih =>
    rcases x with _ | ⟨b, x⟩
    · cases h
    rw [find_frame_start] at h
    split at h
    · rename_i hab
      cases h
      rw [hab.1, hab.2]
      exact ⟨by simp, rfl⟩
    · rcases hr : find_frame_start (b :: x) with _ | j
      · rw [hr] at h
        cases h
      · rw [hr, Option.map_some, Option.some.injEq] at h
        subst h
        obtain ⟨hj, hd⟩ := ih hr
        refine ⟨?_, hd⟩
        rw [List.length_cons]
        omega

theorem find_frame_start_aligned (h : x.take 2 = ascii "8=") :
    find_frame_start x = some 0 := by
  have h' : x.take 2 = [56, 61] := h
  rcases x with _ | ⟨a, _ | ⟨b, x⟩⟩
  · cases h'
  · cases h'
  · simp only [List.take_succ_cons, List.take_zero, List.cons.injEq, and_true] at h'
    rw [find_frame_start, if_pos h']

theorem find_frame_start_append {i : ℕ} (e : Bytes)
    (h : find_frame_start x = some i) : find_frame_start (x ++ e) = some i := by
  induction x generalizing i with
  | nil => cases h
  | cons a x ih =>
    rcases x with _ | ⟨b, x⟩
    · cases h
    rw [find_frame_start] at h
    rw [List.cons_append, List.cons_append, find_frame_start]
    split at h
    · rename_i hab
      rw [if_pos hab]
      exact h
    · rename_i hab
      rw [if_neg hab]
      rcases hr : find_frame_start (b :: x) with _ | j
      · rw [hr] at h
        cases h
      · rw [hr] at h
        rw [← List.cons_append, ih hr]
        exact h

theorem find_frame_start_drop (e : Bytes) (k : ℕ) (hk : k < x.length)
    (h : find_frame_start x = none) :
    find_frame_start (x ++ e) = (find_frame_start (x.drop k ++ e)).map (· + k) := by
  induction k generalizing x with
  | zero => simp
  | succ k ih =>
    rcases x with _ | ⟨a, _ | ⟨b, x⟩⟩
    · cases hk
    · simp at hk
    · rw [find_frame_start] at h
      split at h
      · cases h
      · rename_i hab
        have hr : find_frame_start (b :: x) = none := by simpa using h
        rw [List.cons_append, List.cons_append, find_frame_start, if_neg hab, List.drop_succ_cons,
          ← List.cons_append, ih (by simpa using hk) hr, Option.map_map]
        rfl

theorem resync_len_eq (hfit : Fits opts x.length) :
    resync_len opts x = if x.length < 2 then 0 else
      (find_frame_start x).getD (x.length - min x.length kKeepTail) := by
  have hwin : (if opts.max_msg_len > 0 then min x.length opts.max_msg_len else x.length)
      = x.length := by
    unfold Fits at hfit
    split <;> omega
  unfold resync_len
  simp only [hwin, List.take_length]

theorem resync_len_le (opts : StreamParserOptions) (x : Bytes) :
    resync_len opts x ≤ x.length := by
  unfold resync_len
  simp only
  split
  · exact Nat.zero_le _
  · rcases hf : find_frame_start _ with _ | i
    · exact Nat.sub_le _ _
    · have := (find_frame_start_bounds hf).1
      rw [List.length_take] at this
      rw [Option.getD_some]
      omega

/-- **Resynchronising early drops nothing that resynchronising late would keep.** -/
theorem resync_len_append (x e : Bytes)
    (hfit : Fits opts (x ++ e).length) :
    resync_len opts (x ++ e)
      = resync_len opts x + resync_len opts (x.drop (resync_len opts x) ++ e) := by
  have hlen : (x ++ e).length = x.length + e.length := List.length_append
  have hrx := resync_len_eq (Fits.mono x.length _ (by omega) hfit)
  by_cases hzero : resync_len opts x = 0
  · rw [hzero, List.drop_zero, Nat.zero_add]
  by_cases h2 : x.length < 2
  · rw [if_pos h2] at hrx
    exact absurd hrx hzero
  rw [if_neg h2] at hrx
  rw [resync_len_eq hfit, if_neg (by omega : ¬ (x ++ e).length < 2)]
  have hfit' : Fits opts (x.drop (resync_len opts x) ++ e).length := by
    refine Fits.mono _ _ ?_ hfit
    rw [List.length_append, List.length_drop]
    omega
  have hdlen : (x.drop (resync_len opts x) ++ e).length
      = x.length - resync_len opts x + e.length := by
    rw [List.length_append, List.length_drop]
  rw [resync_len_eq hfit']
  rcases hf : find_frame_start x with _ | i
  · rw [hf, Option.getD_none] at hrx
    have hk : resync_len opts x < x.length := by
      unfold kKeepTail at hrx
      omega
    rw [find_frame_start_drop e _ hk hf,
      if_neg (by unfold kKeepTail at hrx; omega : ¬ (x.drop (resync_len opts x) ++ e).length < 2)]
    rcases hg : find_frame_start (x.drop (resync_len opts x) ++ e) with _ | j
    · rw [Option.map_none, Option.getD_none, Option.getD_none]
      unfold kKeepTail at *
      omega
    · rw [Option.map_some, Option.getD_some, Option.getD_some]
      omega
  · rw [hf, Option.getD_some] at hrx
    obtain ⟨hi, h8⟩ := find_frame_start_bounds hf
    have halign : (x.drop i ++ e).take 2 = ascii "8=" := by
      rw [List.take_append_of_le_length (by rw [List.length_drop]; omega), h8]
    rw [find_frame_start_append e hf, hrx, find_frame_start_aligned halign]
    simp

/-! ## The parser as an incremental consumer -/

/-- One `try_parse_one`, as the messages it delivers and the bytes it uses. -/
def parse_step (opts : StreamParserOptions) : Step UInt8 Message := fun x =>
  match scan_frame opts x with
  | .ok (msg, n) => some ([msg], n)
  | .error (.need_more _) => none
  | .error .resync => if resync_len opts x > 0 then some ([], resync_len opts x) else none
  | .error (.skip n _) =>
    let n := min (max n 1) x.length
    some ([], n + resync_len opts (x.drop n))

theorem scan_frame_ok_bounds {msg : Message} {n : ℕ}
    (h : scan_frame opts x = .ok (msg, n)) : 0 < n ∧ n ≤ x.length := by
  obtain ⟨-, f, rest, rfl, rfl, -⟩ := frame_of_scan_frame h
  have := f.length_bytes
  rw [List.length_append]
  omega

theorem parse_step_progress (opts : StreamParserOptions) : Progress (parse_step opts) := by
  constructor
  · intro x o n h
    unfold parse_step at h
    split at h
    · rename_i msg k hs
      cases h
      exact (scan_frame_ok_bounds hs).1
    · cases h
    · split at h
      · cases h
        assumption
      · cases h
    · rename_i k err hs
      cases h
      have := (scan_frame_skip_le hs).1
      omega
  · intro x o n h
    unfold parse_step at h
    split at h
    · rename_i msg k hs
      cases h
      exact (scan_frame_ok_bounds hs).2
    · cases h
    · split at h
      · cases h
        exact resync_len_le opts x
      · cases h
    · rename_i k err hs
      cases h
      have := resync_len_le opts (x.drop (min (max k 1) x.length))
      rw [List.length_drop] at this
      omega

theorem run_resync {z : Bytes} (hfit : Fits opts z.length) :
    run (parse_step opts) z
      = join ([], resync_len opts z) (run (parse_step opts) (z.drop (resync_len opts z))) := by
  by_cases hzero : resync_len opts z = 0
  · rw [hzero, List.drop_zero, join_nil]
  have h2 : ¬ z.length < 2 := by
    intro h2
    rw [resync_len_eq hfit, if_pos h2] at hzero
    exact hzero rfl
  have h8 : z.take 2 ≠ ascii "8=" := by
    intro h8
    rw [resync_len_eq hfit, if_neg h2, find_frame_start_aligned h8] at hzero
    exact hzero rfl
  have hstep : parse_step opts z = some ([], resync_len opts z) := by
    unfold parse_step
    rw [scan_frame_resync_iff.2 ⟨by omega, h8⟩]
    exact if_pos (by omega)
  exact run_of_some (parse_step_progress opts) hstep

theorem run_after_resync (y e : Bytes)
    (hfit : Fits opts (y ++ e).length) :
    join ([], resync_len opts (y ++ e))
        (run (parse_step opts) ((y ++ e).drop (resync_len opts (y ++ e))))
      = join ([], resync_len opts y) (run (parse_step opts) (y.drop (resync_len opts y) ++ e)) := by
  have hle := resync_len_le opts y
  have hfit' : Fits opts (y.drop (resync_len opts y) ++ e).length := by
    refine Fits.mono _ _ ?_ hfit
    rw [List.length_append, List.length_append, List.length_drop]
    omega
  rw [run_resync hfit', resync_len_append y e hfit, ← join_assoc, ← List.drop_drop,
    List.drop_append_of_le_length hle]
  simp [join]

/-- **The parser's decisions are stable**, as long as the stream is within the
message limit. -/
theorem parse_step_stable (opts : StreamParserOptions) :
    Stable (parse_step opts) (Fits opts) := by
  intro x e o n hfit h
  have hlen : (x ++ e).length = x.length + e.length := List.length_append
  have hs := parse_step_progress opts
  have happ := scan_frame_append opts x e hfit
  unfold parse_step at h
  split at h
  · rename_i msg k hscan
    cases h
    have hk := (scan_frame_ok_bounds hscan).2
    have hstep : parse_step opts (x ++ e) = some ([msg], n) := by
      unfold parse_step
      rcases happ with ⟨err, hn⟩ | heq
      · rw [hscan] at hn
        cases hn
      · rw [heq, hscan]
    rw [run_of_some hs hstep, List.drop_append_of_le_length hk]
  · cases h
  · rename_i hscan
    split at h
    · cases h
      rw [run_resync hfit]
      exact run_after_resync x e hfit
    · cases h
  · rename_i k err hscan
    cases h
    obtain ⟨hx0, hk⟩ := scan_frame_skip_le hscan
    set k' := min (max k 1) x.length with hk'
    have hk'le : k' ≤ x.length := by omega
    have hsame : min (max k 1) (x ++ e).length = k' := by omega
    have hstep : parse_step opts (x ++ e)
        = some ([], k' + resync_len opts (x.drop k' ++ e)) := by
      unfold parse_step
      rcases happ with ⟨err', hn⟩ | heq
      · rw [hscan] at hn
        cases hn
      · rw [heq, hscan]
        simp only [hsame, List.drop_append_of_le_length hk'le]
    have hfit' : Fits opts (x.drop k' ++ e).length := by
      refine Fits.mono _ _ ?_ hfit
      rw [List.length_append, List.length_drop]
      omega
    rw [run_of_some hs hstep, ← List.drop_drop, List.drop_append_of_le_length hk'le,
      ← List.drop_drop]
    have hafter := run_after_resync (x.drop k') e hfit'
    have hsplit : ∀ a b : ℕ, ∀ r : List Message × ℕ,
        join (([] : List Message), a + b) r = join ([], a) (join ([], b) r) := by
      intro a b r
      simp [join, Nat.add_assoc]
    rw [hsplit, hsplit, hafter]

end FixEngine
