/-
`Backlog.lean` -- the parser's buffer never reaches its cap.

`feed` latches a fatal error when parsing leaves the backlog at `buf_cap_`. That
cannot happen: each way in which `try_parse_one` asks for more bytes bounds what is
buffered (an incomplete header, an oversized frame awaited up to the cap, a frame
awaited up to its end), and all these bounds are below the cap as soon as the
constructor could add `kBacklogSlack` without wrapping. The bound holds of `drain`
on any parser, so the loop of `feed` always finds room, and what it appends is all
of its argument.
-/
import FixEngine.ParseLoop

set_option autoImplicit false

namespace FixEngine

open FixEngine.Decimal FixEngine.Incremental FixEngine.Loop

/-! ## Waiting for more bytes -/

section Cap

variable {opts : StreamParserOptions}

/-- The limits for which the constructor's sum does not wrap: 1 up to
`SIZE_MAX - kBacklogSlack`. -/
structure Capped (opts : StreamParserOptions) : Prop where
  pos : 1 ≤ opts.max_msg_len
  le : opts.max_msg_len ≤ 2 ^ 64 - 1 - kBacklogSlack

theorem Capped.buf_cap_eq (h : Capped opts) : opts.buf_cap = opts.max_msg_len + kBacklogSlack := by
  have hpos := h.pos
  have hle := h.le
  rw [StreamParserOptions.buf_cap, if_pos (by omega)]
  apply Nat.mod_eq_of_lt
  unfold kBacklogSlack at *
  omega

theorem Awaited.lt_cap {n : ℕ} (h : Awaited opts n) (hc : Capped opts) : n < opts.buf_cap := by
  have hcap := hc.buf_cap_eq
  have hpos := hc.pos
  unfold Awaited kMaxHeaderScan at h
  unfold kBacklogSlack at hcap
  omega

theorem length_le_of_resync_len_eq_zero {x : Bytes} (h8 : x.take 2 ≠ ascii "8=")
    (h : resync_len opts x = 0) : x.length ≤ kKeepTail := by
  unfold resync_len at h
  dsimp only at h
  split at h
  · unfold kKeepTail
    omega
  · rcases hfind : find_frame_start
      (x.take (if opts.max_msg_len > 0 then min x.length opts.max_msg_len
        else x.length)) with _ | i
    · rw [hfind, Option.getD_none] at h
      omega
    · -- a frame start at the front would have been one of the buffer
      rw [hfind, Option.getD_some] at h
      subst h
      obtain ⟨hlen, hstart⟩ := find_frame_start_bounds hfind
      rw [List.drop_zero, List.take_take] at hstart
      rw [List.length_take] at hlen
      rw [Nat.min_eq_left (by omega)] at hstart
      exact absurd hstart h8

/-- **A buffer that `try_parse_one` leaves alone is below the cap.** -/
theorem length_lt_cap_of_parse_step_none (hc : Capped opts) {x : Bytes}
    (h : parse_step opts x = none) : x.length < opts.buf_cap := by
  unfold parse_step at h
  rcases hscan : scan_frame opts x with r | ⟨msg, n⟩
  · rw [hscan] at h
    rcases scan_frame_error hscan with ⟨err, rfl, hwait⟩ | ⟨-, h8, rfl⟩ | ⟨-, -, n, err, rfl, -⟩
    · exact hwait.lt_cap hc
    · have hzero : resync_len opts x = 0 := by
        dsimp only at h
        split at h
        · simp at h
        · omega
      have hshort := length_le_of_resync_len_eq_zero h8 hzero
      rw [hc.buf_cap_eq]
      unfold kKeepTail at hshort
      unfold kBacklogSlack
      omega
    · simp at h
  · rw [hscan] at h
    simp at h

end Cap

/-! ## The loop of `feed` -/

namespace StreamParser

variable {opts : StreamParserOptions}

/-- Bytes that have been taken in: parsed or dropped, or still buffered. -/
def accepted (p : StreamParser) : ℕ := p.consumed + p.buffered

theorem drain_keeps (p : StreamParser) :
    p.drain.opts = p.opts ∧ p.drain.healthy = p.healthy ∧ p.drain.accepted = p.accepted := by
  obtain ⟨hopts, hobs⟩ := drain_spec p
  have hconsumed : p.drain.consumed = p.consumed + (run (parse_step p.opts) p.unread).2 :=
    congrArg Obs.consumed hobs
  have hunread : p.drain.unread = rest (parse_step p.opts) p.unread := congrArg Obs.unread hobs
  refine ⟨hopts, congrArg Obs.healthy hobs, ?_⟩
  have hle := run_le (parse_step_progress p.opts) p.unread
  rw [accepted, accepted, buffered, buffered, hconsumed, hunread, rest, List.length_drop]
  omega

/-- **Whatever was buffered, `drain` leaves less than the cap.** -/
theorem drain_lt_cap {p : StreamParser} (hc : Capped p.opts) :
    p.drain.buffered < p.opts.buf_cap := by
  have hunread : p.drain.unread = (settle p.opts p.obs).unread :=
    congrArg Obs.unread (drain_spec p).2
  rw [buffered, hunread]
  exact length_lt_cap_of_parse_step_none hc (parse_step_settle p.opts p.obs)

theorem space_of_drain {p : StreamParser} (hlt : p.drain.buffered < p.opts.buf_cap) (len : ℕ) :
    p.drain.compact.space len = p.opts.buf_cap - p.drain.buffered ∧
      0 < p.opts.buf_cap - p.drain.buffered := by
  have hopts : p.drain.compact.opts = p.opts := (drain_keeps p).1
  have hwrite : p.drain.compact.write_pos = p.drain.buffered := Nat.zero_add _
  rw [space, hopts, hwrite, if_neg (by omega), if_pos hlt]
  exact ⟨rfl, by omega⟩

theorem enforce_cap_of_drain {p : StreamParser} (hc : Capped p.opts) :
    p.drain.compact.enforce_cap = p.drain.compact := by
  have hopts : p.drain.compact.opts = p.opts := (drain_keeps p).1
  have hwrite : p.drain.compact.write_pos = p.drain.buffered := Nat.zero_add _
  rw [enforce_cap, hopts, hwrite, if_pos (Or.inr (drain_lt_cap hc))]

/-- The number of bytes appended in a turn of the loop. -/
def taken (p : StreamParser) (data : Bytes) : ℕ :=
  min data.length (p.opts.buf_cap - p.drain.buffered)

/-- The parser after a turn of the loop. -/
def turned (p : StreamParser) (data : Bytes) : StreamParser :=
  { p.drain.compact with unread := p.drain.unread ++ data.take (p.taken data) }

theorem append_taken {p : StreamParser} (hlt : p.drain.buffered < p.opts.buf_cap) (data : Bytes) :
    append_bytes (data.take (p.taken data)) p.drain.compact = p.turned data := by
  have hwrite : p.drain.compact.write_pos = p.drain.buffered := Nat.zero_add _
  have htaken : (data.take (p.taken data)).length ≤ p.opts.buf_cap - p.drain.buffered := by
    rw [List.length_take, taken]
    omega
  have hcap : p.opts.buf_cap < 2 ^ 64 := by
    rw [StreamParserOptions.buf_cap]
    split
    · exact Nat.mod_lt _ (by decide)
    · decide
  rw [append_bytes]
  split
  · rename_i hnil
    rw [turned, List.length_eq_zero_iff.mp hnil, List.append_nil]
    rfl
  · -- the sum stays below the cap, so it does not wrap
    rw [if_neg]
    · rfl
    · rw [hwrite, Nat.mod_eq_of_lt (by omega)]
      omega

/-- **One turn of the loop**: there is room, and as much as there is room for is
appended. -/
theorem feed_loop_turn {p : StreamParser} (hlt : p.drain.buffered < p.opts.buf_cap) (fuel : ℕ)
    (c : UInt8) (cs : Bytes) :
    feed_loop (fuel + 1) (c :: cs) p =
      feed_loop fuel ((c :: cs).drop (p.taken (c :: cs))) (p.turned (c :: cs)) := by
  obtain ⟨hspace, hroom⟩ := space_of_drain hlt (c :: cs).length
  rw [feed_loop]
  dsimp only
  rw [hspace, if_neg (by omega), ← append_taken hlt]
  rfl

theorem feed_turn_eq {p : StreamParser} (hlt : p.drain.buffered < p.opts.buf_cap) (c : UInt8)
    (cs : Bytes) :
    feed_turn (c :: cs, p) = .next ((c :: cs).drop (p.taken (c :: cs)), p.turned (c :: cs)) := by
  obtain ⟨hspace, hroom⟩ := space_of_drain hlt (c :: cs).length
  rw [feed_turn]
  dsimp only
  rw [hspace, if_neg (by omega), ← append_taken hlt]
  rfl

theorem turned_keeps (p : StreamParser) (data : Bytes) :
    (p.turned data).opts = p.opts ∧ (p.turned data).healthy = p.healthy ∧
      (p.turned data).accepted + (data.drop (p.taken data)).length = p.accepted + data.length := by
  obtain ⟨hopts, hhealthy, haccepted⟩ := drain_keeps p
  refine ⟨hopts, hhealthy, ?_⟩
  have hle : p.taken data ≤ data.length := Nat.min_le_left _ _
  have hturned : (p.turned data).accepted = p.drain.accepted + p.taken data := by
    show p.drain.consumed + (p.drain.unread ++ data.take (p.taken data)).length = _
    rw [List.length_append, List.length_take, Nat.min_eq_left hle]
    exact (Nat.add_assoc _ _ _).symm
  rw [hturned, haccepted, List.length_drop]
  omega

/-- **No turn of the loop finds the backlog at the cap.** -/
theorem space_of_visits (hc : Capped opts) {s t : Bytes × StreamParser} (hs : s.2.opts = opts)
    (h : Visits feed_turn s t) : t.2.drain.compact.space t.1.length ≠ 0 := by
  have hopts : t.2.opts = opts := by
    refine h.invariant (fun s => s.2.opts = opts) ?_ hs
    rintro ⟨data, p⟩ t rfl hturn
    rcases data with _ | ⟨c, cs⟩
    · cases hturn
    · rw [feed_turn_eq (drain_lt_cap hc)] at hturn
      cases hturn
      exact (turned_keeps p (c :: cs)).1
  subst hopts
  obtain ⟨hspace, hroom⟩ := space_of_drain (drain_lt_cap hc) t.1.length
  rw [hspace]
  exact Nat.ne_of_gt hroom

/-- **The loop takes in every byte.** -/
theorem feed_loop_accepts (fuel : ℕ) (data : Bytes) (p : StreamParser) (hc : Capped p.opts)
    (hfuel : data.length < fuel) :
    (feed_loop fuel data p).opts = p.opts ∧ (feed_loop fuel data p).healthy = p.healthy ∧
      (feed_loop fuel data p).accepted = p.accepted + data.length := by
  induction fuel generalizing data p with
  | zero => omega
  | succ fuel ih =>
    rcases data with _ | ⟨c, cs⟩
    · rw [feed_loop]
      exact drain_keeps p
    · have hlt := drain_lt_cap hc
      obtain ⟨-, hroom⟩ := space_of_drain hlt (c :: cs).length
      obtain ⟨hopts, hhealthy, haccepted⟩ := turned_keeps p (c :: cs)
      have hshorter : ((c :: cs).drop (p.taken (c :: cs))).length < fuel := by
        rw [List.length_drop, taken]
        rw [List.length_cons] at hfuel ⊢
        omega
      obtain ⟨hopts', hhealthy', haccepted'⟩ := ih _ (p.turned (c :: cs)) (hopts.symm ▸ hc) hshorter
      rw [feed_loop_turn hlt]
      exact ⟨hopts'.trans hopts, hhealthy'.trans hhealthy, haccepted'.trans haccepted⟩

theorem feed_loop_uncapped {p : StreamParser} {data : Bytes} (hcap : p.opts.buf_cap = 0)
    (hne : data ≠ []) (hlen : p.drain.unread.length + data.length < 2 ^ 64) (fuel : ℕ) :
    feed_loop (fuel + 1) data p =
    drain { p.drain.compact with unread := p.drain.unread ++ data } := by
  obtain ⟨c, cs, rfl⟩ := List.exists_cons_of_ne_nil hne
  have hopts : p.drain.compact.opts = p.opts := (drain_keeps p).1
  have hwrite : p.drain.compact.write_pos = p.drain.unread.length := Nat.zero_add _
  have hspace : p.drain.compact.space (c :: cs).length = (c :: cs).length := by
    rw [space, hopts, if_pos hcap]
  have hpos : (c :: cs).length ≠ 0 := Nat.succ_ne_zero _
  rw [feed_loop]
  dsimp only
  rw [hspace, if_neg hpos, Nat.min_self, List.take_length, List.drop_length, append_bytes,
    if_neg hpos, hwrite, Nat.mod_eq_of_lt hlen, if_neg (by omega), feed_loop]
  rfl

theorem feed_accepts {p : StreamParser} (hc : Capped p.opts) (hh : p.healthy = true)
    (data : Bytes) :
    (p.feed data).opts = p.opts ∧ (p.feed data).healthy = true ∧
      (p.feed data).accepted = p.accepted + data.length := by
  rw [feed]
  split
  · rename_i hnil
    rw [hnil]
    exact ⟨rfl, hh, rfl⟩
  · rw [hh, if_neg Bool.noConfusion]
    obtain ⟨hopts, hhealthy, haccepted⟩ :=
      feed_loop_accepts (2 * data.length + p.unread.length + 1) data p hc (by omega)
    exact ⟨hopts, hhealthy.trans hh, haccepted⟩

end StreamParser

/-! ## Whole runs -/

/-- A call on a parser. -/
inductive ParserCall where
  | feed (data : Bytes)
  | next
  | reset
  deriving DecidableEq

namespace ParserCall

def run (p : StreamParser) : ParserCall → StreamParser
  | .feed data => p.feed data
  | .next => p.next.1
  | .reset => p.reset

/-- The number of bytes fed since the last reset. -/
def fed (n : ℕ) : ParserCall → ℕ
  | .feed data => n + data.length
  | .next => n
  | .reset => 0

end ParserCall

open StreamParser in
theorem ParserCall.run_accepts {opts : StreamParserOptions} (hc : Capped opts) {p : StreamParser}
    {n : ℕ} (h : p.opts = opts ∧ p.healthy = true ∧ p.accepted = n) (call : ParserCall) :
    (call.run p).opts = opts ∧ (call.run p).healthy = true ∧
    (call.run p).accepted = call.fed n := by
  obtain ⟨hopts, hhealthy, haccepted⟩ := h
  cases call with
  | feed data =>
    obtain ⟨hopts', hhealthy', haccepted'⟩ := feed_accepts (hopts.symm ▸ hc) hhealthy data
    exact ⟨hopts'.trans hopts, hhealthy', haccepted'.trans (by rw [haccepted, ParserCall.fed])⟩
  | next =>
    show p.next.1.opts = opts ∧ p.next.1.healthy = true ∧ p.next.1.accepted = n
    rw [StreamParser.next]
    split
    · exact ⟨hopts, hhealthy, haccepted⟩
    · exact ⟨hopts, hhealthy, haccepted⟩
  | reset => exact ⟨hopts, rfl, rfl⟩

/-- The parser after a sequence of calls. -/
def parser_after (opts : StreamParserOptions) (calls : List ParserCall) : StreamParser :=
  calls.foldl ParserCall.run (StreamParser.create opts)

/-- The bytes fed since the last reset in a sequence of calls. -/
def bytes_fed (calls : List ParserCall) : ℕ := calls.foldl ParserCall.fed 0

theorem parser_after_accepts {opts : StreamParserOptions} (hc : Capped opts)
    (calls : List ParserCall) :
    (parser_after opts calls).opts = opts ∧ (parser_after opts calls).healthy = true ∧
      (parser_after opts calls).accepted = bytes_fed calls := by
  -- the calls of a run are appended at its end, as the fold takes them
  induction calls using List.reverseRecOn with
  | nil => exact ⟨rfl, rfl, rfl⟩
  | append_singleton calls call ih =>
    rw [parser_after, bytes_fed, List.foldl_append, List.foldl_append]
    exact ParserCall.run_accepts hc ih call

/-- **The backlog is bounded and the fatal state is unreachable.** Whatever a parser with
these options has buffered, `drain` leaves less than `max_msg_len + 4096` bytes, and
`enforce_cap` has nothing to do behind it. In every run no turn of the loop of the next
`feed` finds the backlog at the cap, the parser is healthy, and every byte fed was taken
in. -/
theorem backlog_bounded {opts : StreamParserOptions} (hpos : 1 ≤ opts.max_msg_len)
    (hmax : opts.max_msg_len ≤ 2 ^ 64 - 1 - 4096) (calls : List ParserCall) :
    (∀ p : StreamParser, p.opts = opts → p.drain.buffered < opts.max_msg_len + 4096 ∧
      p.drain.compact.enforce_cap = p.drain.compact) ∧
    (∀ data left p, Visits StreamParser.feed_turn (data, parser_after opts calls) (left, p) →
      p.drain.compact.space left.length ≠ 0) ∧
    (parser_after opts calls).healthy = true ∧
    (parser_after opts calls).accepted = bytes_fed calls := by
  have hc : Capped opts := ⟨hpos, hmax⟩
  obtain ⟨hopts, hhealthy, haccepted⟩ := parser_after_accepts hc calls
  refine ⟨?_, ?_, hhealthy, haccepted⟩
  · rintro p rfl
    have hlt := StreamParser.drain_lt_cap hc
    rw [hc.buf_cap_eq] at hlt
    exact ⟨hlt, StreamParser.enforce_cap_of_drain hc⟩
  · intro data left p hvisits
    exact StreamParser.space_of_visits (t := (left, p)) hc hopts hvisits

/-- Garbage, a frame start and a reset, under the smallest limit. -/
theorem backlog_bounded_smallest :
    (parser_after { max_msg_len := 1 } [.feed (ascii "xy8"), .next, .reset,
      .feed (ascii "8=FIX.4.2"), .feed (ascii "garbage")]).healthy = true ∧
    (parser_after { max_msg_len := 1 } [.feed (ascii "xy8"), .next, .reset,
      .feed (ascii "8=FIX.4.2"), .feed (ascii "garbage")]).accepted =
      bytes_fed [.feed (ascii "xy8"), .next, .reset, .feed (ascii "8=FIX.4.2"),
        .feed (ascii "garbage")] :=
  (backlog_bounded (by decide) (by decide) _).2.2

end FixEngine
