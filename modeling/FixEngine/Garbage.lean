/-
`Garbage.lean` -- a frame behind garbage.

The garbage has no frame start, so the first one in the stream is that of the frame. The
parser looks for it in the first `max_msg_len` bytes of its buffer only, and the buffer may
hold `kBacklogSlack` bytes more. Where the search is in vain, everything but seven bytes is
dropped, and with it a frame that starts behind the window. So the frame gets through if its
start comes into the window before it comes into the slack, which depends on the length of
the garbage modulo what is dropped at a time.
-/
import FixEngine.Backlog

set_option autoImplicit false

namespace FixEngine

open FixEngine.Decimal FixEngine.Incremental

/-! ## Searching for a frame start -/

theorem find_frame_start_eq_none {x : Bytes} (h : ¬ascii "8=" <:+: x) :
    find_frame_start x = none := by
  rcases hfind : find_frame_start x with _ | i
  · rfl
  · obtain ⟨-, hstart⟩ := find_frame_start_bounds hfind
    refine absurd ?_ h
    rw [← hstart]
    exact (List.take_prefix _ _).isInfix.trans (List.drop_suffix _ _).isInfix

theorem find_frame_start_take {x : Bytes} (h : find_frame_start x = none) (n : ℕ) :
    find_frame_start (x.take n) = none := by
  rcases hfind : find_frame_start (x.take n) with _ | i
  · rfl
  · have happend := find_frame_start_append (x.drop n) hfind
    rw [List.take_append_drop, h] at happend
    simp at happend

theorem find_frame_start_skip {x : Bytes} (h : find_frame_start x = none) (n : ℕ) :
    find_frame_start (x.drop n) = none := by
  by_cases hn : n < x.length
  · have hdrop := find_frame_start_drop [] n hn h
    rw [List.append_nil, List.append_nil, h] at hdrop
    exact Option.map_eq_none_iff.mp hdrop.symm
  · rw [List.drop_of_length_le (by omega)]
    rfl

theorem find_frame_start_garbage {g : Bytes} (h : find_frame_start g = none) (t : Bytes) :
    find_frame_start (g ++ 56 :: EQ :: t) = some g.length := by
  induction g with
  | nil => exact if_pos ⟨rfl, rfl⟩
  | cons a g ih =>
    rcases g with _ | ⟨b, g⟩
    · -- the byte before the frame start does not make one with it
      have hEQ : ¬(a = 56 ∧ (56 : UInt8) = EQ) := fun h => absurd h.2 (by decide)
      rw [List.cons_append, List.nil_append, find_frame_start, if_neg hEQ, find_frame_start,
        if_pos ⟨rfl, rfl⟩]
      rfl
    · rw [find_frame_start] at h
      split at h
      · simp at h
      · rename_i hab
        have hrest : find_frame_start (b :: g) = none := by simpa using h
        rw [List.cons_append, List.cons_append, find_frame_start, if_neg hab,
          ← List.cons_append, ih hrest]
        rfl

theorem find_frame_start_half {g : Bytes} (h : find_frame_start g = none) :
    find_frame_start (g ++ [56]) = none := by
  rcases hfind : find_frame_start (g ++ [56]) with _ | i
  · rfl
  · have hboth := find_frame_start_append [EQ] hfind
    rw [List.append_assoc] at hboth
    have hi : i = g.length := Option.some.inj (hboth.symm.trans (find_frame_start_garbage h []))
    have hbounds := (find_frame_start_bounds hfind).1
    rw [List.length_append, List.length_singleton] at hbounds
    omega

theorem find_frame_start_behind {g : Bytes} (h : find_frame_start g = none) (t : Bytes) (n : ℕ) :
    find_frame_start ((g ++ 56 :: EQ :: t).take n) = if g.length + 2 ≤ n then some g.length
    else none := by
  rw [List.take_append]
  split
  · rename_i hn
    obtain ⟨k, hk⟩ : ∃ k, n - g.length = k + 2 := ⟨n - g.length - 2, by omega⟩
    rw [List.take_of_length_le (by omega), hk]
    exact find_frame_start_garbage h _
  · rename_i hn
    by_cases hhalf : n = g.length + 1
    · rw [List.take_of_length_le (by omega), show n - g.length = 1 by omega]
      exact find_frame_start_half h
    · rw [show n - g.length = 0 by omega, List.take_zero, List.append_nil]
      exact find_frame_start_take h n

/-! ## A buffer with garbage and a part of the frame -/

/-- The bytes `f` are a frame of the parser, with the message `m`. -/
structure Parses (opts : StreamParserOptions) (f : Bytes) (m : Message) : Prop where
  scan : scan_frame opts f = .ok (m, f.length)
  raw : m.raw = f
  long : kMinMsgLen ≤ f.length
  fits : Fits opts f.length
  limited : f.length ≤ opts.max_msg_len

section Buffers

variable {opts : StreamParserOptions} {f g : Bytes} {m : Message}

theorem Parses.lengths (h : Parses opts f m) :
    kKeepTail = 7 ∧ 20 ≤ f.length ∧ f.length ≤ opts.max_msg_len :=
  ⟨rfl, h.long, h.limited⟩

theorem Parses.start (h : Parses opts f m) : ∃ t, f = 56 :: EQ :: t := by
  have hmin := h.long
  have h8 : f.take 2 = ascii "8=" := by
    by_contra hne
    have hresync : scan_frame opts f = .error .resync :=
      scan_frame_resync_iff.mpr ⟨hmin.trans' (by decide), hne⟩
    rw [h.scan] at hresync
    simp at hresync
  refine ⟨f.drop 2, ?_⟩
  have hsplit := List.take_append_drop 2 f
  rw [h8] at hsplit
  exact hsplit.symm

theorem Parses.run (h : Parses opts f m) : run (parse_step opts) f = ([m], f.length) := by
  have hstep : parse_step opts f = some ([m], f.length) := by
    rw [parse_step, h.scan]
  rw [run_of_some (parse_step_progress opts) hstep, List.drop_length, run_of_none rfl]
  rfl

theorem Parses.run_take (h : Parses opts f m) {l : ℕ} (hl : l < f.length) :
    Incremental.run (parse_step opts) (f.take l) = ([], 0) := by
  apply run_of_none
  have hfit : Fits opts (f.take l ++ f.drop l).length := by
    rw [List.take_append_drop]
    exact h.fits
  rcases scan_frame_append opts (f.take l) (f.drop l) hfit with ⟨err, hwait⟩ | hsame
  · rw [parse_step, hwait]
  · rw [List.take_append_drop, h.scan] at hsame
    have hbounds := (scan_frame_ok_bounds hsame.symm).2
    rw [List.length_take] at hbounds
    omega

theorem Parses.find_take (h : Parses opts f m) (hg : find_frame_start g = none) (n : ℕ) :
    find_frame_start ((g ++ f).take n) = if g.length + 2 ≤ n then some g.length else none := by
  obtain ⟨t, rfl⟩ := h.start
  exact find_frame_start_behind hg t n

theorem Parses.resync_len_take (h : Parses opts f m) (hg : find_frame_start g = none) {n : ℕ}
    (h2 : 2 ≤ n) (hn : n ≤ (g ++ f).length) :
    resync_len opts ((g ++ f).take n) =
      if g.length + 2 ≤ min n opts.max_msg_len then g.length else n - min n kKeepTail := by
  obtain ⟨hkeep, hmin, hmax⟩ := h.lengths
  have hlength : ((g ++ f).take n).length = n := by
    rw [List.length_take, Nat.min_eq_left hn]
  rw [resync_len]
  dsimp only
  rw [hlength, if_neg (by omega), if_pos (by omega), List.take_take,
    Nat.min_eq_left (Nat.min_le_left _ _), h.find_take hg]
  split
  · rfl
  · rfl

theorem run_resynced {x : Bytes} (h2 : 2 ≤ x.length) (h8 : x.take 2 ≠ ascii "8=")
    (hpos : 0 < resync_len opts x) :
    run (parse_step opts) x =
    join ([], resync_len opts x) (run (parse_step opts) (x.drop (resync_len opts x))) := by
  have hstep : parse_step opts x = some ([], resync_len opts x) := by
    rw [parse_step, scan_frame_resync_iff.mpr ⟨h2, h8⟩]
    exact if_pos hpos
  exact run_of_some (parse_step_progress opts) hstep

/-- **The frame start is in the window**: the garbage is dropped. -/
theorem Parses.run_found (h : Parses opts f m) (hg : find_frame_start g = none) {n : ℕ}
    (hn : n ≤ (g ++ f).length) (hfound : g.length + 2 ≤ min n opts.max_msg_len) :
    Incremental.run (parse_step opts) ((g ++ f).take n) =
      join ([], g.length) (Incremental.run (parse_step opts) (f.take (n - g.length))) := by
  have hdrop : ((g ++ f).take n).drop g.length = f.take (n - g.length) := by
    rw [List.drop_take, List.drop_left]
  have hlength : ((g ++ f).take n).length = n := by
    rw [List.length_take, Nat.min_eq_left hn]
  have hresync := h.resync_len_take hg (by omega) hn
  rw [if_pos hfound] at hresync
  rcases Nat.eq_zero_or_pos g.length with hzero | hpos
  · rw [← hdrop, hzero, List.drop_zero, join_nil]
  · have h8 : ((g ++ f).take n).take 2 ≠ ascii "8=" := by
      intro h8
      have hfind := h.find_take hg n
      rw [find_frame_start_aligned h8, if_pos (by omega)] at hfind
      have hsame := Option.some.inj hfind
      omega
    rw [run_resynced (by omega) h8 (by omega), hresync, hdrop]

/-- **It is not**: all but seven bytes are dropped. -/
theorem Parses.run_lost (h : Parses opts f m) (hg : find_frame_start g = none) {n : ℕ}
    (hn : n ≤ (g ++ f).length) (hlost : min n opts.max_msg_len < g.length + 2)
    (htail : kKeepTail < n) :
    Incremental.run (parse_step opts) ((g ++ f).take n) =
      join ([], n - kKeepTail)
        (Incremental.run (parse_step opts) (((g ++ f).take n).drop (n - kKeepTail))) := by
  obtain ⟨hkeep, hmin, hmax⟩ := h.lengths
  have hlength : ((g ++ f).take n).length = n := by
    rw [List.length_take, Nat.min_eq_left hn]
  have hresync := h.resync_len_take hg (n := n) (by omega) hn
  rw [if_neg (by omega), Nat.min_eq_right htail.le] at hresync
  have h8 : ((g ++ f).take n).take 2 ≠ ascii "8=" := by
    intro h8
    have hwindow : ((g ++ f).take (min n opts.max_msg_len)).take 2 = ascii "8=" := by
      rw [List.take_take, Nat.min_eq_left (by omega)]
      rw [List.take_take, Nat.min_eq_left (by omega)] at h8
      exact h8
    have hfind := h.find_take hg (min n opts.max_msg_len)
    rw [find_frame_start_aligned hwindow, if_neg (by omega)] at hfind
    simp at hfind
  rw [run_resynced (by omega) h8 (by omega), hresync]

theorem run_tail (hM : kMinMsgLen ≤ opts.max_msg_len) {t : Bytes} (ht : t.length ≤ kKeepTail) :
    run (parse_step opts) t = ([], (find_frame_start t).getD 0) := by
  have hkeep : kKeepTail = 7 := rfl
  have hlimit : kMinMsgLen = 20 := rfl
  -- what starts with a frame and is so short is waited for
  have hwait : ∀ x : Bytes, x.length ≤ kKeepTail → x.take 2 = ascii "8=" →
      run (parse_step opts) x = ([], 0) := by
    intro x hx h8
    apply run_of_none
    have h2 : 2 ≤ x.length := by
      by_contra hshort
      have hlength := congrArg List.length h8
      rw [List.length_take, Nat.min_eq_right (by omega)] at hlength
      exact hshort hlength.ge
    rw [parse_step, scan_frame, if_neg (by omega), if_neg (not_not.mpr h8), if_pos (by omega)]
    rfl
  have hresync : resync_len opts t = (find_frame_start t).getD 0 := by
    have hfit : Fits opts t.length := by
      rw [Fits]
      omega
    rw [resync_len_eq hfit]
    split
    · rename_i hshort
      rcases t with _ | ⟨a, _ | ⟨b, t⟩⟩
      · rfl
      · rfl
      · rw [List.length_cons, List.length_cons] at hshort
        omega
    · rw [Nat.min_eq_left ht, Nat.sub_self]
  by_cases h8 : t.take 2 = ascii "8="
  · rw [hwait t ht h8, find_frame_start_aligned h8]
    rfl
  rcases hfind : find_frame_start t with _ | i
  · rw [hfind] at hresync
    apply run_of_none
    by_cases h2 : 2 ≤ t.length
    · rw [parse_step, scan_frame_resync_iff.mpr ⟨h2, h8⟩]
      exact if_neg (by rw [hresync]; exact lt_irrefl 0)
    · rw [parse_step, scan_frame, if_pos (by omega)]
      rfl
  · obtain ⟨hbounds, hstart⟩ := find_frame_start_bounds hfind
    rw [hfind, Option.getD_some] at hresync
    have hpos : 0 < i := by
      rcases Nat.eq_zero_or_pos i with rfl | hpos
      · exact absurd hstart h8
      · exact hpos
    have hshorter : (t.drop i).length ≤ kKeepTail := by
      rw [List.length_drop]
      omega
    rw [run_resynced (by omega) h8 (by omega), hresync, hwait _ hshorter hstart]
    rfl

end Buffers

/-! ## Messages longer than what is left -/

namespace StreamParser

theorem drain_unread (p : StreamParser) : p.drain.unread = rest (parse_step p.opts) p.unread :=
  congrArg Obs.unread (drain_spec p).2

theorem drain_pending (p : StreamParser) :
    p.drain.pending = p.pending ++ (run (parse_step p.opts) p.unread).1 :=
  congrArg Obs.pending (drain_spec p).2

theorem parse_step_output {opts : StreamParserOptions} {x : Bytes} {out : List Message} {n : ℕ}
    (h : parse_step opts x = some (out, n)) {m : Message} (hm : m ∈ out) :
    ∃ k, scan_frame opts x = .ok (m, k) := by
  rw [parse_step] at h
  split at h
  · rename_i msg k hscan
    obtain ⟨rfl, rfl⟩ := Prod.mk.inj (Option.some.inj h)
    rw [List.mem_singleton.mp hm]
    exact ⟨k, hscan⟩
  · simp at h
  · split at h
    · rw [← (Prod.mk.inj (Option.some.inj h)).1] at hm
      simp at hm
    · simp at h
  · rw [← (Prod.mk.inj (Option.some.inj h)).1] at hm
    simp at hm

theorem length_raw_le_of_run {opts : StreamParserOptions} (x : Bytes) :
    ∀ m ∈ (run (parse_step opts) x).1, m.raw.length ≤ x.length := by
  induction hlen : x.length using Nat.strong_induction_on generalizing x with
  | _ len ih =>
    rcases hx : parse_step opts x with _ | ⟨out, n⟩
    · rw [run_of_none hx]
      simp
    · have hpos := (parse_step_progress opts).pos hx
      have hle := (parse_step_progress opts).le hx
      rw [run_of_some (parse_step_progress opts) hx]
      intro m hm
      rcases List.mem_append.mp hm with hm | hm
      · obtain ⟨k, hscan⟩ := parse_step_output hx hm
        have hk := (scan_frame_ok_bounds hscan).2
        obtain ⟨-, f, rest, -, rfl, -, -, rfl⟩ := frame_of_scan_frame hscan
        exact hk.trans hlen.le
      · have hshorter : (x.drop n).length < len := by
          rw [List.length_drop]
          omega
        exact (ih _ hshorter (x.drop n) rfl m hm).trans hshorter.le

/-- With `n` bytes to come, neither a message nor the buffer gets longer than `b`. -/
structure Short (b n : ℕ) (p : StreamParser) : Prop where
  pending : ∀ m ∈ p.pending, m.raw.length ≤ b
  unread : p.unread.length ≤ b
  room : p.unread.length + n ≤ b ∨ p.opts.buf_cap ≠ 0 ∧ p.opts.buf_cap ≤ b

variable {b n : ℕ} {p : StreamParser}

theorem Short.keep {q : StreamParser} (h : Short b n p) (hopts : q.opts = p.opts)
    (hpending : q.pending = p.pending) (hunread : q.unread.length ≤ p.unread.length) :
    Short b n q := by
  refine ⟨?_, hunread.trans h.unread, ?_⟩
  · rw [hpending]
    exact h.pending
  · rw [hopts]
    exact h.room.imp_left fun hroom => (Nat.add_le_add_right hunread n).trans hroom

theorem Short.drain (h : Short b n p) : Short b n p.drain := by
  have hunread : p.drain.unread.length ≤ p.unread.length := by
    rw [drain_unread, rest, List.length_drop]
    omega
  refine ⟨?_, hunread.trans h.unread, ?_⟩
  · intro m hm
    rw [drain_pending] at hm
    rcases List.mem_append.mp hm with hm | hm
    · exact h.pending m hm
    · exact (length_raw_le_of_run p.unread m hm).trans h.unread
  · rw [(drain_keeps p).1]
    exact h.room.imp_left fun hroom => (Nat.add_le_add_right hunread n).trans hroom

theorem Short.enforce_cap (h : Short b n p) : Short b n p.enforce_cap := by
  rw [StreamParser.enforce_cap]
  split
  · exact h
  · -- the buffer is resynchronised and parsed again, and then perhaps given up
    have hscan : Short b n (p.resync_scan .ParseError).compact := by
      rw [resync_scan]
      dsimp only
      split
      · exact h.keep rfl rfl le_rfl
      · exact h.keep rfl rfl (by
          show (p.unread.drop _).length ≤ _
          rw [List.length_drop]
          omega)
    have hdrain := hscan.drain
    dsimp only
    split
    · exact hdrain.keep rfl rfl (Nat.zero_le _)
    · exact hdrain.keep rfl rfl le_rfl

theorem Short.append {data : Bytes} (h : Short b data.length p.compact) {k : ℕ}
    (hk : k ≤ p.compact.space data.length) :
    Short b (data.drop k).length (append_bytes (data.take k) p.compact) := by
  have hopts : p.compact.opts = p.opts := rfl
  have hwrite : p.compact.write_pos = p.unread.length := Nat.zero_add _
  have hfewer : (data.drop k).length ≤ data.length := by
    rw [List.length_drop]
    omega
  have hkept : Short b (data.drop k).length p.compact :=
    ⟨h.pending, h.unread, h.room.imp_left fun hroom => (Nat.add_le_add_left hfewer _).trans hroom⟩
  have hroom : (p.unread ++ data.take k).length ≤ b ∧
      ((p.unread ++ data.take k).length + (data.drop k).length ≤ b ∨ p.opts.buf_cap ≠ 0 ∧
      p.opts.buf_cap ≤ b) := by
    rw [List.length_append, List.length_take, List.length_drop]
    rcases h.room with hall | ⟨hcap, hle⟩
    · have hall : p.unread.length + data.length ≤ b := hall
      omega
    · have hcap : p.opts.buf_cap ≠ 0 := hcap
      have hle : p.opts.buf_cap ≤ b := hle
      have hunread : p.unread.length ≤ b := h.unread
      refine ⟨?_, Or.inr ⟨hcap, hle⟩⟩
      rw [space, hopts, if_neg hcap, hwrite] at hk
      split at hk
      · omega
      · omega
  rw [append_bytes]
  split
  · exact hkept
  · split
    · exact hkept.keep rfl rfl le_rfl
    · exact ⟨h.pending, hroom.1, hroom.2⟩

/-- **No message longer than `b` is delivered.** -/
theorem Short.feed_loop {fuel : ℕ} {data : Bytes} {p : StreamParser}
    (h : Short b data.length p.drain) :
    ∀ m ∈ (feed_loop fuel data p).pending, m.raw.length ≤ b := by
  induction fuel generalizing data p with
  | zero =>
    rcases data with _ | ⟨c, cs⟩
    · exact h.pending
    · intro m hm
      apply h.pending
      rw [drain_pending]
      exact List.mem_append_left _ hm
  | succ fuel ih =>
    rcases data with _ | ⟨c, cs⟩
    · exact h.pending
    · rw [StreamParser.feed_loop]
      dsimp only
      have hcompact : Short b (c :: cs).length p.drain.compact := h.keep rfl rfl le_rfl
      split
      · have henforced := hcompact.enforce_cap
        split
        · exact henforced.pending
        · split
          · exact henforced.pending
          · exact ih henforced.drain
      · exact ih (hcompact.append (Nat.min_le_right _ _)).drain

end StreamParser

/-! ## Feeding garbage and a frame -/

theorem StreamParser.feed_loop_fill {p : StreamParser} {z data : Bytes} {fuel : ℕ} (hne : data ≠ [])
    (hlt : p.drain.buffered < p.opts.buf_cap) (hsplit : p.drain.unread ++ data = z)
    (hfuel : data.length < fuel + 1) :
    ∃ q : StreamParser, feed_loop (fuel + 1) data p = feed_loop fuel (z.drop p.opts.buf_cap) q ∧
      q.opts = p.opts ∧ q.pending = p.drain.pending ∧ q.unread = z.take p.opts.buf_cap ∧
      (z.drop p.opts.buf_cap).length < fuel := by
  have hlt' : p.drain.unread.length < p.opts.buf_cap := hlt
  have htaken : p.taken data = min data.length (p.opts.buf_cap - p.drain.unread.length) := rfl
  have hleft : data.drop (p.taken data) = z.drop p.opts.buf_cap := by
    rw [← hsplit, List.drop_append, List.drop_of_length_le hlt'.le, List.nil_append, htaken]
    rcases Nat.le_total data.length (p.opts.buf_cap - p.drain.unread.length) with hle | hle
    · rw [Nat.min_eq_left hle, List.drop_length, List.drop_of_length_le hle]
    · rw [Nat.min_eq_right hle]
  have hfill : p.drain.unread ++ data.take (p.taken data) = z.take p.opts.buf_cap := by
    rw [← hsplit, List.take_append, List.take_of_length_le hlt'.le, htaken]
    rcases Nat.le_total data.length (p.opts.buf_cap - p.drain.unread.length) with hle | hle
    · rw [Nat.min_eq_left hle, List.take_length, List.take_of_length_le hle]
    · rw [Nat.min_eq_right hle]
  have hpos : 0 < data.length := List.length_pos_iff.mpr hne
  refine ⟨p.turned data, ?_, (turned_keeps p data).1, rfl, hfill, ?_⟩
  · obtain ⟨c, cs, rfl⟩ := List.exists_cons_of_ne_nil hne
    rw [feed_loop_turn hlt, hleft]
  · rw [← hleft, List.length_drop]
    omega

section Feeding

variable {opts : StreamParserOptions} {f : Bytes} {m : Message}

/-- The frame is delivered if `ok` holds, and otherwise nothing as long as it. -/
def Outcome (f : Bytes) (m : Message) (ok : Prop) (p : StreamParser) : Prop :=
  ok ∧ p.pending = [m] ∨ ¬ok ∧ ∀ m' ∈ p.pending, m'.raw.length < f.length

theorem Outcome.delivers_iff {ok : Prop} {p : StreamParser} (h : Outcome f m ok p)
    (hraw : m.raw = f) :
    p.pending.map Message.raw = [f] ↔ ok := by
  rcases h with ⟨hok, hpending⟩ | ⟨hok, hshort⟩
  · rw [hpending, ← hraw]
    exact iff_of_true rfl hok
  · refine iff_of_false ?_ hok
    intro hmap
    have hmem : f ∈ p.pending.map Message.raw := by
      rw [hmap]
      exact List.mem_singleton_self f
    obtain ⟨m', hm', rfl⟩ := List.mem_map.mp hmem
    exact lt_irrefl _ (hshort m' hm')

/-- The start of the frame comes into the search window, and not only into the slack behind
it, when the garbage has passed. -/
def InWindow (opts : StreamParserOptions) (n : ℕ) : Prop :=
  n % (opts.buf_cap - kKeepTail) + 1 < min opts.buf_cap opts.max_msg_len

theorem Parses.delivered (h : Parses opts f m) (hcap : f.length ≤ opts.buf_cap) {g : Bytes}
    (hg : find_frame_start g = none) (hfound : g.length + 2 ≤ min opts.buf_cap opts.max_msg_len)
    {q : StreamParser} (hopts : q.opts = opts) (hpending : q.pending = [])
    (hunread : q.unread = (g ++ f).take opts.buf_cap) {fuel : ℕ}
    (hfuel : ((g ++ f).drop opts.buf_cap).length < fuel) :
    (StreamParser.feed_loop fuel ((g ++ f).drop opts.buf_cap) q).pending = [m] := by
  subst hopts
  have hlength : (g ++ f).length = g.length + f.length := List.length_append
  have hlong := h.lengths
  have hdrain := q.drain_pending
  rw [hpending, List.nil_append, hunread] at hdrain
  have hrest := q.drain_unread
  by_cases hall : (g ++ f).length ≤ q.opts.buf_cap
  · rw [List.drop_of_length_le hall, StreamParser.feed_loop, hdrain, List.take_of_length_le hall]
    have hrun := h.run_found hg le_rfl (by omega)
    rw [List.take_length, hlength, Nat.add_sub_cancel_left, List.take_length, h.run] at hrun
    rw [hrun]
    rfl
  · -- what is missing of the frame fits once the garbage is gone
    have hpart : q.opts.buf_cap - g.length < f.length := by omega
    have hrun := h.run_found hg (n := q.opts.buf_cap) (by omega) (by omega)
    rw [h.run_take hpart] at hrun
    rw [hrun] at hdrain
    rw [rest, hunread, hrun] at hrest
    have hkept : q.drain.unread = f.take (q.opts.buf_cap - g.length) := by
      rw [hrest, join, Nat.add_zero, List.drop_take, List.drop_left]
    have hbuffered : q.drain.buffered < q.opts.buf_cap := by
      rw [StreamParser.buffered, hkept, List.length_take]
      omega
    have hsplit : q.drain.unread ++ (g ++ f).drop q.opts.buf_cap = f := by
      rw [hkept, List.drop_append, List.drop_of_length_le (by omega), List.nil_append,
        List.take_append_drop]
    have hne : (g ++ f).drop q.opts.buf_cap ≠ [] := by
      intro hnil
      have hzero := congrArg List.length hnil
      rw [List.length_drop, List.length_nil] at hzero
      omega
    rcases fuel with _ | fuel
    · omega
    · obtain ⟨r, hturn, hopts, hrpending, hrunread, -⟩ :=
        StreamParser.feed_loop_fill hne hbuffered hsplit hfuel
      rw [hturn, List.drop_of_length_le hcap, StreamParser.feed_loop, r.drain_pending, hrpending,
        hrunread, hopts, List.take_of_length_le hcap, h.run, hdrain]
      rfl

theorem Parses.drain_lost (h : Parses opts f m) {g : Bytes} (hg : find_frame_start g = none) {n : ℕ}
    (hn : n ≤ (g ++ f).length) (hlost : min n opts.max_msg_len < g.length + 2)
    (htail : kKeepTail < n) {q : StreamParser} (hopts : q.opts = opts) (hpending : q.pending = [])
    (hunread : q.unread = (g ++ f).take n) :
    q.drain.pending = [] ∧ q.drain.unread.length ≤ kKeepTail ∧
      q.drain.unread = (((g ++ f).take n).drop (n - kKeepTail)).drop
        ((find_frame_start (((g ++ f).take n).drop (n - kKeepTail))).getD 0) := by
  subst hopts
  have hlimit : kMinMsgLen ≤ q.opts.max_msg_len := h.long.trans h.limited
  have hshort : (((g ++ f).take n).drop (n - kKeepTail)).length ≤ kKeepTail := by
    rw [List.length_drop, List.length_take]
    omega
  have hrun := h.run_lost hg hn hlost htail
  rw [run_tail hlimit hshort] at hrun
  have hrest : q.drain.unread = (((g ++ f).take n).drop (n - kKeepTail)).drop
      ((find_frame_start (((g ++ f).take n).drop (n - kKeepTail))).getD 0) := by
    rw [q.drain_unread, rest, hunread, hrun, List.drop_drop]
    rfl
  refine ⟨?_, ?_, hrest⟩
  · rw [q.drain_pending, hpending, hunread, hrun]
    rfl
  · rw [hrest, List.length_drop]
    omega

/-- **The start of the frame was dropped**: nothing as long as the frame can follow. -/
theorem Parses.dropped (h : Parses opts f m) (hcap : f.length ≤ opts.buf_cap) {g : Bytes}
    (hg : find_frame_start g = none) (hlost : opts.max_msg_len < g.length + 2)
    (hstart : g.length + kKeepTail < opts.buf_cap) {q : StreamParser} (hopts : q.opts = opts)
    (hpending : q.pending = []) (hunread : q.unread = (g ++ f).take opts.buf_cap) (fuel : ℕ) :
    ∀ m' ∈ (StreamParser.feed_loop fuel ((g ++ f).drop opts.buf_cap) q).pending,
    m'.raw.length < f.length := by
  obtain ⟨hkeep, hlong, hlimited⟩ := h.lengths
  have hlength : (g ++ f).length = g.length + f.length := List.length_append
  have hfull : q.unread = (g ++ f).take (min opts.buf_cap (g ++ f).length) := by
    rw [hunread, ← List.take_take, List.take_length]
  obtain ⟨hnone, hshort, -⟩ :=
    h.drain_lost hg (Nat.min_le_right _ _) (by omega) (by omega) hopts hpending hfull
  have hbound : StreamParser.Short (f.length - 1) ((g ++ f).drop opts.buf_cap).length q.drain := by
    refine ⟨?_, by omega, Or.inl ?_⟩
    · rw [hnone]
      simp
    · rw [List.length_drop]
      omega
  intro m' hm'
  have hle := hbound.feed_loop m' hm'
  omega

/-- **Garbage alone was dropped**: what is left of it is as far from the window. -/
theorem Parses.passed (h : Parses opts f m) (hcap : f.length ≤ opts.buf_cap) {g : Bytes}
    (hg : find_frame_start g = none) (hlost : min opts.buf_cap opts.max_msg_len < g.length + 2)
    (hstart : opts.buf_cap ≤ g.length + kKeepTail) {q : StreamParser} (hopts : q.opts = opts)
    (hpending : q.pending = []) (hunread : q.unread = (g ++ f).take opts.buf_cap) :
    ∃ g', find_frame_start g' = none ∧ (InWindow opts g'.length ↔ InWindow opts g.length) ∧
      q.drain.pending = [] ∧ q.drain.unread.length ≤ kKeepTail ∧
      q.drain.unread ++ (g ++ f).drop opts.buf_cap = g' ++ f := by
  obtain ⟨hkeep, hlong, hlimited⟩ := h.lengths
  have hlength : (g ++ f).length = g.length + f.length := List.length_append
  obtain ⟨hnone, hshort, hrest⟩ :=
    h.drain_lost hg (by omega) hlost (by omega) hopts hpending hunread
  -- the seven bytes that are kept, and the garbage among them
  have hleft :
      (g ++ f).drop (opts.buf_cap - kKeepTail) = g.drop (opts.buf_cap - kKeepTail) ++ f := by
    rw [List.drop_append, show opts.buf_cap - kKeepTail - g.length = 0 by omega, List.drop_zero]
  have htail : ((g ++ f).take opts.buf_cap).drop (opts.buf_cap - kKeepTail) =
      (g.drop (opts.buf_cap - kKeepTail) ++ f).take kKeepTail := by
    rw [List.drop_take, hleft, show opts.buf_cap - (opts.buf_cap - kKeepTail) = kKeepTail by omega]
  have hmore :
      (g ++ f).drop opts.buf_cap = (g.drop (opts.buf_cap - kKeepTail) ++ f).drop kKeepTail := by
    rw [← hleft, List.drop_drop, show opts.buf_cap - kKeepTail + kKeepTail = opts.buf_cap by omega]
  have hclean := find_frame_start_skip hg (opts.buf_cap - kKeepTail)
  have hpassed :
      (g.drop (opts.buf_cap - kKeepTail)).length = g.length - (opts.buf_cap - kKeepTail) :=
    List.length_drop
  have hmod : g.length % (opts.buf_cap - kKeepTail) =
      (g.drop (opts.buf_cap - kKeepTail)).length % (opts.buf_cap - kKeepTail) := by
    rw [hpassed]
    exact Nat.mod_eq_sub_mod (by omega)
  rw [htail, h.find_take hclean] at hrest
  rw [hmore]
  generalize g.drop (opts.buf_cap - kKeepTail) = left at hclean hmod hrest hpassed
  split at hrest
  · -- the frame starts in them, so the rest of the garbage goes as well
    rename_i hseen
    refine ⟨[], rfl, ?_, hnone, hshort, ?_⟩
    · have hsmall : left.length % (opts.buf_cap - kKeepTail) = left.length :=
        Nat.mod_eq_of_lt (by omega)
      rw [InWindow, InWindow, hmod, hsmall, List.length_nil, Nat.zero_mod]
      omega
    · rw [hrest, Option.getD_some, List.drop_take, List.drop_left, List.drop_append,
        List.drop_of_length_le (by omega), List.nil_append, List.nil_append, List.take_append_drop]
  · refine ⟨left, hclean, ?_, hnone, hshort, ?_⟩
    · rw [InWindow, InWindow, hmod]
    · rw [hrest, Option.getD_none, List.drop_zero, List.take_append_drop]

/-- **The loop on garbage and a frame.** -/
theorem Parses.feed_loop (h : Parses opts f m) (hcap : f.length ≤ opts.buf_cap) {fuel : ℕ}
    {g data : Bytes} {p : StreamParser} (hg : find_frame_start g = none) (hopts : p.opts = opts)
    (hpending : p.drain.pending = []) (hshort : p.drain.unread.length ≤ kKeepTail)
    (hsplit : p.drain.unread ++ data = g ++ f) (hfuel : data.length < fuel) :
    Outcome f m (InWindow opts g.length) (StreamParser.feed_loop fuel data p) := by
  obtain ⟨hkeep, hlong, hlimited⟩ := h.lengths
  induction fuel generalizing g data p with
  | zero => omega
  | succ fuel ih =>
    have hlength := congrArg List.length hsplit
    rw [List.length_append, List.length_append] at hlength
    have hne : data ≠ [] := by
      rintro rfl
      rw [List.length_nil] at hlength
      omega
    have hlt : p.drain.buffered < p.opts.buf_cap := by
      rw [StreamParser.buffered, hopts]
      omega
    obtain ⟨q, hturn, hqopts, hqpending, hqunread, hqfuel⟩ :=
      StreamParser.feed_loop_fill hne hlt hsplit hfuel
    rw [hpending] at hqpending
    rw [hopts] at hturn hqopts hqunread hqfuel
    rw [hturn]
    by_cases hfound : g.length + 2 ≤ min opts.buf_cap opts.max_msg_len
    · refine Or.inl ⟨?_, h.delivered hcap hg hfound hqopts hqpending hqunread hqfuel⟩
      have hmod := Nat.mod_le g.length (opts.buf_cap - kKeepTail)
      rw [InWindow]
      omega
    · by_cases hstart : g.length + kKeepTail < opts.buf_cap
      · refine Or.inr ⟨?_, h.dropped hcap hg (by omega) hstart hqopts hqpending hqunread fuel⟩
        rw [InWindow, Nat.mod_eq_of_lt (by omega)]
        omega
      · obtain ⟨g', hg', hsame, hnone, htail, hrest⟩ :=
          h.passed hcap hg (by omega) (by omega) hqopts hqpending hqunread
        rw [Outcome, ← hsame]
        exact ih hg' hqopts hnone htail hrest hqfuel

/-- **The whole stream in one buffer.** -/
theorem Parses.drain (h : Parses opts f m) {g : Bytes} (hg : find_frame_start g = none)
    {q : StreamParser} (hopts : q.opts = opts) (hpending : q.pending = [])
    (hunread : q.unread = g ++ f) :
    Outcome f m (g.length + 1 < opts.max_msg_len) q.drain := by
  obtain ⟨hkeep, hlong, hlimited⟩ := h.lengths
  have hlength : (g ++ f).length = g.length + f.length := List.length_append
  have hfull : q.unread = (g ++ f).take (g ++ f).length := by
    rw [List.take_length, hunread]
  by_cases hfound : g.length + 2 ≤ opts.max_msg_len
  · refine Or.inl ⟨by omega, ?_⟩
    have hrun := h.run_found hg le_rfl (by omega)
    rw [List.take_length, hlength, Nat.add_sub_cancel_left, List.take_length, h.run] at hrun
    rw [q.drain_pending, hpending, hopts, hunread, hrun]
    rfl
  · refine Or.inr ⟨by omega, ?_⟩
    rw [(h.drain_lost hg le_rfl (by omega) (by omega) hopts hpending hfull).1]
    simp

end Feeding

theorem InGrammar.parses {opts : StreamParserOptions} {f : Bytes} (hf : InGrammar opts f f.length)
    (hM : 1 ≤ opts.max_msg_len) (hlen : f.length < 2 ^ 64 - 1) : ∃ m, Parses opts f m := by
  obtain ⟨hlong, fr, rest, hsplit, hk, haccepted, hclean⟩ := hf
  have hnil : rest = [] := by
    have hlength := congrArg List.length hsplit
    rw [List.length_append] at hlength
    exact List.eq_nil_of_length_eq_zero (by omega)
  subst hnil
  rw [List.append_nil] at hsplit
  subst hsplit
  have hlimited : fr.bytes.length ≤ opts.max_msg_len := haccepted.2.resolve_left (by omega)
  have hkept : ∀ g ∈ keep_first header_seen (fr.fields.map RawField.field),
      clean g.value = true := by
    intro g hmem
    obtain ⟨raw, hraw, rfl⟩ := List.mem_map.mp (mem_of_mem_keep_first hmem)
    exact (clean_value_iff raw).mpr (hclean raw hraw)
  refine ⟨fr.message, ?_, rfl, hlong, ⟨hlen, Or.inr hlimited⟩, hlimited⟩
  have hscan := scan_frame_of_frame opts fr [] (by rwa [List.append_nil]) (by omega)
    haccepted hkept
  rwa [List.append_nil] at hscan

theorem InGrammar.limited {opts : StreamParserOptions} {f : Bytes} (hf : InGrammar opts f f.length)
    (hM : 1 ≤ opts.max_msg_len) : f.length ≤ opts.max_msg_len := by
  obtain ⟨-, fr, -, -, hk, haccepted, -⟩ := hf
  rw [hk]
  exact haccepted.2.resolve_left (by omega)

theorem in_grammar_of_scan_frame {opts : StreamParserOptions} {f : Bytes} {m : Message}
    (h : scan_frame opts f = .ok (m, f.length)) (hnul : (0 : UInt8) ∉ f) :
    InGrammar opts f f.length := by
  obtain ⟨hlong, fr, rest, hsplit, hk, haccepted, -⟩ := frame_of_scan_frame h
  refine ⟨hlong, fr, rest, hsplit, hk, haccepted, ?_⟩
  intro g hg hmem
  apply hnul
  rw [hsplit]
  exact List.mem_append_left _ (fr.nul_mem_bytes_iff.mpr ⟨g, hg, hmem⟩)

/-- What the length of the garbage must be for the frame to get through. The buffer drops all
but seven of its `buf_cap` bytes at a time, so the garbage counts modulo `buf_cap - 7`; what is
left of it must end in the first `max_msg_len` bytes. For a limit within 4096 of `SIZE_MAX` the
cap has wrapped: at 0 nothing is dropped before all has arrived, and otherwise the frame itself
must fit. -/
def GetsThrough (opts : StreamParserOptions) (g f : Bytes) : Prop :=
  if opts.buf_cap = 0 then g.length + 1 < opts.max_msg_len
  else f.length ≤ opts.buf_cap ∧ InWindow opts g.length

/-- **When a frame behind garbage is delivered.** -/
theorem behind_garbage_delivered_iff {opts : StreamParserOptions} (hM : 20 ≤ opts.max_msg_len)
    (hsize : opts.max_msg_len < 2 ^ 64) {g f : Bytes} (hg : ¬ascii "8=" <:+: g)
    (hf : InGrammar opts f f.length) (hlen : (g ++ f).length < 2 ^ 64) :
    ((StreamParser.create opts).feed (g ++ f)).pending.map Message.raw = [f] ↔
    GetsThrough opts g f := by
  have hlong : 20 ≤ f.length := hf.1
  have hlimited := hf.limited (by omega)
  have hlength : (g ++ f).length = g.length + f.length := List.length_append
  have hnone := find_frame_start_eq_none hg
  have hcap : opts.buf_cap = (opts.max_msg_len + 4096) % 2 ^ 64 := if_pos (by omega)
  have hne : g ++ f ≠ [] := by
    intro hnil
    rw [hnil, List.length_nil] at hlength
    omega
  -- a fresh parser has nothing to drain
  have hunread : (StreamParser.create opts).drain.unread = [] := rfl
  have hpending : (StreamParser.create opts).drain.pending = [] := rfl
  have hfeed : (StreamParser.create opts).feed (g ++ f) =
      StreamParser.feed_loop (2 * (g ++ f).length + 1) (g ++ f) (StreamParser.create opts) := by
    rw [StreamParser.feed, if_neg (by omega), if_neg Bool.noConfusion]
    rfl
  rw [hfeed]
  by_cases hzero : opts.buf_cap = 0
  · obtain ⟨m, hm⟩ := hf.parses (by omega) (by omega)
    have hloop := StreamParser.feed_loop_uncapped (p := StreamParser.create opts) hzero hne
      (by rw [hunread]; exact (Nat.zero_add _).trans_lt hlen) (2 * (g ++ f).length)
    rw [hloop, GetsThrough, if_pos hzero]
    apply Outcome.delivers_iff _ hm.raw
    exact hm.drain hnone rfl hpending rfl
  · rw [GetsThrough, if_neg hzero]
    by_cases hfit : f.length ≤ opts.buf_cap
    · obtain ⟨m, hm⟩ := hf.parses (by omega) (by omega)
      rw [and_iff_right hfit]
      exact (hm.feed_loop hfit hnone rfl hpending (by rw [hunread]; exact Nat.zero_le _)
        (by rw [hunread]; rfl) (by omega)).delivers_iff hm.raw
    · -- the frame does not fit into the buffer
      have hshort : StreamParser.Short opts.buf_cap (g ++ f).length
          (StreamParser.create opts).drain :=
        ⟨fun _ h => absurd h List.not_mem_nil, Nat.zero_le _, Or.inr ⟨hzero, le_rfl⟩⟩
      refine iff_of_false ?_ (fun h => hfit h.1)
      intro hmap
      have hmem : f ∈ (StreamParser.feed_loop (2 * (g ++ f).length + 1) (g ++ f)
          (StreamParser.create opts)).pending.map Message.raw := by
        rw [hmap]
        exact List.mem_singleton_self f
      obtain ⟨m', hm', rfl⟩ := List.mem_map.mp hmem
      exact hfit (hshort.feed_loop m' hm')

/-- A Heartbeat of 26 bytes. -/
def heartbeat_frame : Bytes :=
  ascii "8=FIX.4.2" ++ [SOH] ++ ascii "9=5" ++ [SOH] ++ ascii "35=0" ++ [SOH] ++
    ascii "10=161" ++ [SOH]

/-- A parser whose limit is the length of the Heartbeat. -/
def tight_opts : StreamParserOptions := { max_msg_len := 26 }

theorem in_grammar_heartbeat_frame :
    InGrammar tight_opts heartbeat_frame heartbeat_frame.length := by
  have hlength : (scan_frame tight_opts heartbeat_frame).toOption.map Prod.snd =
      some heartbeat_frame.length := by
    decide
  rcases hscan : scan_frame tight_opts heartbeat_frame with err | ⟨m, k⟩
  · rw [hscan] at hlength
    cases hlength
  · rw [hscan] at hlength
    obtain rfl : k = heartbeat_frame.length := Option.some.inj hlength
    exact in_grammar_of_scan_frame hscan (by decide)

theorem behind_garbage_delivered_short :
    GetsThrough tight_opts (ascii "xyz8") heartbeat_frame ∧
      ((StreamParser.create tight_opts).feed (ascii "xyz8" ++ heartbeat_frame)).pending.map
        Message.raw =
        [heartbeat_frame] :=
  have hthrough : GetsThrough tight_opts (ascii "xyz8") heartbeat_frame := by
    rw [GetsThrough, InWindow]
    decide
  ⟨hthrough, (behind_garbage_delivered_iff (by decide) (by decide)
    (by decide) in_grammar_heartbeat_frame
    (by decide)).mpr hthrough⟩

/-- Behind 25 bytes of garbage the Heartbeat starts at the end of the window. It is dropped
but for its last seven bytes. -/
theorem behind_garbage_lost :
    20 ≤ tight_opts.max_msg_len ∧ ¬ascii "8=" <:+: List.replicate 25 120 ∧
      InGrammar tight_opts heartbeat_frame heartbeat_frame.length ∧
      heartbeat_frame.length ≤ tight_opts.max_msg_len ∧
      ((StreamParser.create tight_opts).feed (List.replicate 25 120 ++ heartbeat_frame)).pending =
      [] ∧
      ((StreamParser.create tight_opts).feed (List.replicate 25 120 ++ heartbeat_frame)).unread =
        ascii "10=161" ++ [SOH] :=
  ⟨by decide, by decide, in_grammar_heartbeat_frame, by decide, by decide, by decide⟩

end FixEngine
