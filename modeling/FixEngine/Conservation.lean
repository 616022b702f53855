/-
`Conservation.lean` -- no byte is lost, and none is delivered twice.

`Conserved` relates a parser to everything fed since it was made or reset: the
buffer is what the consumed count leaves of the stream, and the messages queued or
handed out are those of a consumer that decided on parts of the stream (`Consumes`),
none of them longer than the cap. Parsing, skipping, resynchronising and compacting all
keep it on one stream; only `append_bytes` makes the stream longer. `feed` appends every
byte it is given: a backlog below the cap has room (`feed_loop_turn`), and one without a
cap is filled at once (`feed_loop_uncapped`). Where the sum for the cap has wrapped, the
parser may also wait with a full buffer; then it is `Stuck`, for good.
-/
import FixEngine.Garbage

set_option autoImplicit false

namespace FixEngine

open FixEngine.Decimal FixEngine.Incremental

/-- A decision on what the buffer can hold. -/
def buffered_step (opts : StreamParserOptions) (x : Bytes) : Option (List Message × ℕ) :=
  if opts.buf_cap = 0 ∨ x.length ≤ opts.buf_cap then parse_step opts x else none

theorem parse_step_of_buffered {opts : StreamParserOptions} {x : Bytes} {r : List Message × ℕ}
    (h : buffered_step opts x = some r) :
    parse_step opts x = some r ∧ (opts.buf_cap = 0 ∨ x.length ≤ opts.buf_cap) := by
  rw [buffered_step] at h
  split at h
  · rename_i hroom
    exact ⟨h, hroom⟩
  · simp at h

theorem buffered_step_progress (opts : StreamParserOptions) : Progress (buffered_step opts) :=
  ⟨fun h => (parse_step_progress opts).pos (parse_step_of_buffered h).1,
    fun h => (parse_step_progress opts).le (parse_step_of_buffered h).1⟩

/-- A parser against the bytes fed since the last reset and the messages `next` has
returned. -/
structure Conserved (opts : StreamParserOptions) (fed : Bytes) (got : List Message)
    (p : StreamParser) : Prop where
  opts_eq : p.opts = opts
  healthy : p.healthy = true
  unread : p.unread = fed.drop p.consumed
  bounded : opts.buf_cap = 0 ∨ p.unread.length ≤ opts.buf_cap
  decisions : Consumes (buffered_step opts) fed p.consumed (got ++ p.pending)
  counted : p.msg_count = (got ++ p.pending).length

/-- Everything that can be parsed has been. -/
structure AtRest (opts : StreamParserOptions) (fed : Bytes) (got : List Message)
    (p : StreamParser) :
    Prop extends Conserved opts fed got p where
  waits : parse_step opts p.unread = none

/-- The buffer was full of bytes that the parser waited with. They were dropped, and nothing is
taken in any more. -/
structure Stuck (opts : StreamParserOptions) (fed : Bytes) (got : List Message) (p : StreamParser) :
    Prop where
  unhealthy : p.healthy = false
  waits : ∃ c x, Consumes (buffered_step opts) fed c (got ++ p.pending) ∧ x <+: fed.drop c ∧
    opts.buf_cap ≠ 0 ∧ opts.buf_cap ≤ x.length ∧ parse_step opts x = none

theorem Stuck.not_capped {opts : StreamParserOptions} {fed : Bytes} {got : List Message}
    {p : StreamParser} (h : Stuck opts fed got p) : ¬Capped opts := by
  obtain ⟨c, x, -, -, -, hfull, hwaits⟩ := h.waits
  intro hc
  exact absurd (length_lt_cap_of_parse_step_none hc hwaits) (Nat.not_lt.mpr hfull)

theorem wrapped_of_not_capped {opts : StreamParserOptions} (hcap : opts.buf_cap ≠ 0)
    (hc : ¬Capped opts) : opts.buf_cap < kBacklogSlack ∧ 2 ^ 33 ≤ opts.max_msg_len := by
  have hlt := opts.max_msg_len_lt
  rw [StreamParserOptions.buf_cap] at hcap ⊢
  split at hcap
  · rename_i hpos
    have hwraps : 2 ^ 64 - 1 - kBacklogSlack < opts.max_msg_len := by
      by_contra hle
      exact hc ⟨hpos, Nat.not_lt.mp hle⟩
    rw [if_pos hpos]
    unfold kBacklogSlack at *
    omega
  · exact absurd rfl hcap

/-- The loop of `feed` finds room for all of a stream of `n` bytes: there is a cap that did not
wrap, or none and the stream fits into one buffer. -/
def Roomy (opts : StreamParserOptions) (n : ℕ) : Prop :=
  Capped opts ∨ opts.buf_cap = 0 ∧ n < 2 ^ 64

theorem parse_step_cut {opts : StreamParserOptions} {x : Bytes} {o : List Message} {n : ℕ}
    (h : parse_step opts x = some (o, n)) : o = [] ∨ ∃ m, o = [m] ∧ m.raw = x.take n := by
  rw [parse_step] at h
  split at h
  · rename_i m k hscan
    obtain ⟨rfl, rfl⟩ := Prod.mk.inj (Option.some.inj h)
    obtain ⟨-, f, rest, rfl, rfl, -, -, rfl⟩ := frame_of_scan_frame hscan
    rw [List.take_left]
    exact .inr ⟨f.message, rfl, rfl⟩
  · simp at h
  · split at h
    · exact .inl (Prod.mk.inj (Option.some.inj h)).1.symm
    · simp at h
  · exact .inl (Prod.mk.inj (Option.some.inj h)).1.symm

namespace Conserved

variable {opts : StreamParserOptions} {fed : Bytes} {got : List Message} {p : StreamParser}

theorem create (opts : StreamParserOptions) : AtRest opts [] [] (StreamParser.create opts) :=
  ⟨⟨rfl, rfl, rfl, .inr (Nat.zero_le _), .start, rfl⟩, parse_step_nil opts⟩

theorem consumes (h : Conserved opts fed got p) :
    Consumes (parse_step opts) fed p.consumed (got ++ p.pending) :=
  h.decisions.mono fun hstep => (parse_step_of_buffered hstep).1

theorem consumed_le (h : Conserved opts fed got p) : p.consumed ≤ fed.length :=
  h.consumes.le (parse_step_progress opts)

theorem accepted (h : Conserved opts fed got p) : p.consumed + p.buffered = fed.length := by
  have hle := h.consumed_le
  rw [StreamParser.buffered, h.unread, List.length_drop]
  omega

theorem unread_le (h : Conserved opts fed got p) : p.unread.length ≤ fed.length :=
  h.accepted ▸ Nat.le_add_left _ _

theorem sliced (h : Conserved opts fed got p) :
    Sliced fed p.consumed ((got ++ p.pending).map Message.raw) :=
  h.consumes.sliced (parse_step_progress opts) parse_step_cut

theorem limited (h : Conserved opts fed got p) (hlimit : 0 < opts.max_msg_len) :
    ∀ m ∈ got ++ p.pending, m.raw.length ≤ opts.max_msg_len := by
  refine h.consumes.forall_mem fun hstep m hm => ?_
  obtain ⟨k, hscan⟩ := StreamParser.parse_step_output hstep hm
  obtain ⟨-, f, rest, -, -, haccepted, -, rfl⟩ := frame_of_scan_frame hscan
  exact haccepted.2.resolve_left (by omega)

/-! ## Parsing -/

/-- **One step of the parser** is one decision on what is buffered. -/
theorem try_parse_one (h : Conserved opts fed got p) :
    Conserved opts fed got p.try_parse_one.1 := by
  obtain ⟨hopts, hhealthy, hspec⟩ := p.try_parse_one_spec
  have hcount := p.try_parse_one_counts
  have hcounted := h.counted
  rw [List.length_append] at hcounted
  rw [h.opts_eq] at hopts hspec
  rcases hstep : parse_step opts p.unread with _ | ⟨o, n⟩
  · rw [hstep] at hspec
    obtain ⟨-, hunread, hconsumed, hpending⟩ := Obs.mk.inj hspec.2
    refine ⟨hopts, hhealthy.trans h.healthy, ?_, hunread ▸ h.bounded, ?_, ?_⟩
    · rw [hunread, hconsumed, h.unread]
    · rw [hconsumed, hpending]
      exact h.decisions
    · rw [List.length_append]
      omega
  · rw [hstep] at hspec
    obtain ⟨-, hunread, hconsumed, hpending⟩ := Obs.mk.inj hspec.2
    have hbuffered : buffered_step opts p.unread = some (o, n) := (if_pos h.bounded).trans hstep
    refine ⟨hopts, hhealthy.trans h.healthy, ?_, ?_, ?_, ?_⟩
    · rw [hunread, hconsumed, h.unread, List.drop_drop]
    · rw [hunread, List.length_drop]
      exact h.bounded.imp id (Nat.sub_le _ _).trans
    · rw [hconsumed, hpending, ← List.append_assoc]
      exact h.decisions.decided (h.unread ▸ List.prefix_rfl) hbuffered
    · rw [List.length_append]
      omega

theorem drain_loop (fuel : ℕ) (h : Conserved opts fed got p) :
    Conserved opts fed got (p.drain_loop fuel) := by
  induction fuel generalizing p with
  | zero => exact h
  | succ fuel ih =>
    have hstep := h.try_parse_one
    rw [StreamParser.drain_loop]
    split
    · rename_i q hq
      rw [hq] at hstep
      exact hstep
    · rename_i q status hq
      rw [hq] at hstep
      exact ih hstep

theorem drain (h : Conserved opts fed got p) : AtRest opts fed got p.drain := by
  refine ⟨h.drain_loop _, ?_⟩
  rw [p.drain_unread, h.opts_eq]
  exact step_rest (parse_step_progress opts) p.unread

theorem compact (h : Conserved opts fed got p) : Conserved opts fed got p.compact :=
  ⟨h.opts_eq, h.healthy, h.unread, h.bounded, h.decisions, h.counted⟩

/-! ## Feeding -/

theorem append (h : Conserved opts fed got p) {data : Bytes}
    (hroom : opts.buf_cap = 0 ∨ p.unread.length + data.length ≤ opts.buf_cap) :
    Conserved opts (fed ++ data) got { p with unread := p.unread ++ data } := by
  refine ⟨h.opts_eq, h.healthy, ?_, ?_,
    h.decisions.append_input (buffered_step_progress opts) data, h.counted⟩
  · show p.unread ++ data = (fed ++ data).drop p.consumed
    rw [List.drop_append_of_le_length h.consumed_le, h.unread]
  · show opts.buf_cap = 0 ∨ (p.unread ++ data).length ≤ opts.buf_cap
    rw [List.length_append]
    exact hroom

theorem turned (h : Conserved opts fed got p) (data : Bytes) :
    Conserved opts (fed ++ data.take (p.taken data)) got (p.turned data) := by
  have hdrained := h.drain.toConserved.compact
  refine hdrained.append ?_
  rcases hdrained.bounded with hzero | hle
  · exact .inl hzero
  · refine .inr ?_
    have hunread : p.drain.compact.unread.length = p.drain.buffered := rfl
    rw [hunread] at hle ⊢
    rw [List.length_take, StreamParser.taken, h.opts_eq]
    omega

theorem full (h : AtRest opts fed got p) (hcap : opts.buf_cap ≠ 0) (hc : ¬Capped opts)
    (hfull : opts.buf_cap ≤ p.write_pos) (hlen : p.write_pos = p.unread.length) (more : Bytes) :
    Stuck opts (fed ++ more) got p.enforce_cap := by
  have hle := h.bounded.resolve_left hcap
  obtain ⟨hsmall, hmax⟩ := wrapped_of_not_capped hcap hc
  have hslack : kBacklogSlack = 4096 := rfl
  obtain ⟨-, hobs⟩ := p.enforce_cap_fatal (h.opts_eq.symm ▸ ⟨by omega, .inr (by omega)⟩)
    (h.opts_eq.symm ▸ h.waits) (h.opts_eq.symm ▸ hcap) (h.opts_eq.symm ▸ hfull)
  have hpending : p.enforce_cap.pending = p.pending := congrArg Obs.pending hobs
  refine ⟨congrArg Obs.healthy hobs, p.consumed, p.unread, ?_, ?_, hcap, hlen ▸ hfull, h.waits⟩
  · rw [hpending]
    exact h.decisions.append_input (buffered_step_progress opts) more
  · rw [List.drop_append_of_le_length h.consumed_le, ← h.unread]
    exact List.prefix_append _ _

/-- **The loop under a cap** appends the data in pieces, unless it gets stuck. -/
theorem feed_loop_capped (fuel : ℕ) (data : Bytes) (hcap : opts.buf_cap ≠ 0)
    (hfuel : data.length < fuel) (h : Conserved opts fed got p) :
    AtRest opts (fed ++ data) got (p.feed_loop fuel data) ∨
      Stuck opts (fed ++ data) got (p.feed_loop fuel data) := by
  induction fuel generalizing data p fed with
  | zero => omega
  | succ fuel ih =>
    rcases data with _ | ⟨c, cs⟩
    · rw [List.append_nil]
      exact .inl h.drain
    · by_cases hlt : p.drain.buffered < p.opts.buf_cap
      · have hroom := (StreamParser.space_of_drain hlt (c :: cs).length).2
        have hshorter : ((c :: cs).drop (p.taken (c :: cs))).length < fuel := by
          rw [List.length_drop, StreamParser.taken]
          rw [List.length_cons] at hfuel ⊢
          omega
        have hrest := ih _ hshorter (h.turned (c :: cs))
        rw [List.append_assoc, List.take_append_drop] at hrest
        rw [StreamParser.feed_loop_turn hlt]
        exact hrest
      · have hfull : opts.buf_cap ≤ p.drain.compact.write_pos := by
          rw [← h.opts_eq]
          exact (Nat.not_lt.mp hlt).trans (Nat.zero_add _).ge
        have hc : ¬Capped opts := fun hc => hlt (StreamParser.drain_lt_cap (h.opts_eq.symm ▸ hc))
        have hrest : AtRest opts fed got p.drain.compact :=
          ⟨h.drain.toConserved.compact, h.drain.waits⟩
        have hstuck := full hrest hcap hc hfull (Nat.zero_add _) (c :: cs)
        have hspace : p.drain.compact.space (c :: cs).length = 0 := by
          rw [StreamParser.space, hrest.opts_eq, if_neg hcap, if_neg (Nat.not_lt.mpr hfull)]
        rw [StreamParser.feed_loop]
        dsimp only
        rw [if_pos hspace, if_pos hstuck.unhealthy]
        exact .inr hstuck

theorem feed_loop_uncapped (fuel : ℕ) {data : Bytes} (hcap : opts.buf_cap = 0) (hne : data ≠ [])
    (hsize : (fed ++ data).length < 2 ^ 64) (h : Conserved opts fed got p) :
    AtRest opts (fed ++ data) got (p.feed_loop (fuel + 1) data) := by
  have hlen : p.drain.unread.length + data.length < 2 ^ 64 := by
    have hle := h.drain.toConserved.unread_le
    rw [List.length_append] at hsize
    omega
  rw [StreamParser.feed_loop_uncapped (h.opts_eq.symm ▸ hcap) hne hlen]
  exact (h.drain.toConserved.compact.append (.inl hcap)).drain

end Conserved

/-- Where a parser is between calls. -/
def Standing (opts : StreamParserOptions) (fed : Bytes) (got : List Message)
    (p : StreamParser) : Prop :=
  AtRest opts fed got p ∨ Stuck opts fed got p

section Standing

variable {opts : StreamParserOptions} {fed : Bytes} {got : List Message} {p : StreamParser}

/-- **`feed` takes in all of its argument** and parses what it can, or gets stuck. -/
theorem AtRest.feed {data : Bytes} (h : AtRest opts fed got p)
    (hsize : opts.buf_cap = 0 → (fed ++ data).length < 2 ^ 64) :
    Standing opts (fed ++ data) got (p.feed data) := by
  rw [StreamParser.feed]
  by_cases hnil : data.length = 0
  · rw [if_pos hnil, List.length_eq_zero_iff.mp hnil, List.append_nil]
    exact .inl h
  rw [if_neg hnil, h.healthy, if_neg Bool.noConfusion]
  by_cases hcap : opts.buf_cap = 0
  · refine .inl (h.toConserved.feed_loop_uncapped _ hcap ?_ (hsize hcap))
    intro h0
    exact hnil (List.length_eq_zero_iff.mpr h0)
  · exact h.toConserved.feed_loop_capped _ data hcap (by omega)

theorem Stuck.feed {data : Bytes} (h : Stuck opts fed got p) :
    Stuck opts (fed ++ data) got (p.feed data) := by
  have hsame : p.feed data = p := by
    rw [StreamParser.feed, if_pos h.unhealthy]
    exact ite_self _
  rw [hsame]
  obtain ⟨c, x, hconsumes, hx, hrest⟩ := h.waits
  have hle := hconsumes.le (buffered_step_progress opts)
  refine ⟨h.unhealthy, c, x, hconsumes.append_input (buffered_step_progress opts) data, ?_, hrest⟩
  rw [List.drop_append_of_le_length hle]
  exact hx.trans (List.prefix_append _ _)

theorem next_moves (p : StreamParser) (got : List Message) :
    ∃ pending, (run_op (p, got) .next).1 = { p with pending := pending } ∧
      (run_op (p, got) .next).2 ++ pending = got ++ p.pending := by
  rcases hp : p.pending with _ | ⟨msg, pending⟩
  · refine ⟨[], ?_, ?_⟩
    · simp only [run_op, StreamParser.next, hp]
      rw [← hp]
    · simp only [run_op, StreamParser.next, hp]
  · refine ⟨pending, ?_, ?_⟩
    · simp only [run_op, StreamParser.next, hp]
    · simp only [run_op, StreamParser.next, hp]
      exact List.append_assoc got [msg] pending

theorem Standing.run_op (h : Standing opts fed got p) (op : ParserOp)
    (hsize : opts.buf_cap = 0 → (fed ++ op.bytes).length < 2 ^ 64) :
    Standing opts (fed ++ op.bytes) (run_op (p, got) op).2 (run_op (p, got) op).1 := by
  cases op with
  | feed data =>
    rcases h with hrest | hstuck
    · exact hrest.feed hsize
    · exact .inr hstuck.feed
  | next =>
    rw [ParserOp.bytes, List.append_nil]
    obtain ⟨pending, hp, hall⟩ := next_moves p got
    rw [hp]
    rcases h with ⟨⟨hopts, hhealthy, hunread, hbounded, hdecisions, hcounted⟩, hwaits⟩ |
      ⟨hhealthy, hwaits⟩
    · rw [← hall] at hdecisions hcounted
      exact .inl ⟨⟨hopts, hhealthy, hunread, hbounded, hdecisions, hcounted⟩, hwaits⟩
    · rw [← hall] at hwaits
      exact .inr ⟨hhealthy, hwaits⟩

end Standing

/-! ## Whole runs -/

/-- **Between calls a parser is at rest** on the stream it was fed, or stuck. -/
theorem standing_run {opts : StreamParserOptions} (ops : List ParserOp)
    (hsize : opts.buf_cap = 0 → (stream ops).length < 2 ^ 64) :
    Standing opts (stream ops) (ops.foldl run_op (StreamParser.create opts, [])).2
      (ops.foldl run_op (StreamParser.create opts, [])).1 := by
  induction ops using List.reverseRecOn with
  | nil => exact .inl (Conserved.create opts)
  | append_singleton ops op ih =>
    have hstream : stream (ops ++ [op]) = stream ops ++ op.bytes := by simp [stream]
    rw [hstream] at hsize ⊢
    rw [List.foldl_append]
    refine (ih fun hzero => ?_).run_op op hsize
    have hlt := hsize hzero
    rw [List.length_append] at hlt
    omega

theorem at_rest_run {opts : StreamParserOptions} (ops : List ParserOp)
    (hroom : Roomy opts (stream ops).length) :
    AtRest opts (stream ops) (ops.foldl run_op (StreamParser.create opts, [])).2
      (ops.foldl run_op (StreamParser.create opts, [])).1 := by
  rcases hroom with hc | ⟨hcap, hlt⟩
  · have hpos : opts.buf_cap ≠ 0 := by
      rw [hc.buf_cap_eq]
      exact Nat.ne_of_gt (Nat.add_pos_left hc.pos _)
    exact (standing_run ops fun hzero => absurd hzero hpos).resolve_right fun hstuck =>
      hstuck.not_capped hc
  · exact (standing_run ops fun _ => hlt).resolve_right fun hstuck => by
      obtain ⟨c, x, -, -, hne, -⟩ := hstuck.waits
      exact hne hcap

theorem parse_all_got (opts : StreamParserOptions) (ops : List ParserOp) :
    (parse_all opts ops).2 = (ops.foldl run_op (StreamParser.create opts, [])).2 ++
      (ops.foldl run_op (StreamParser.create opts, [])).1.pending :=
  (collect_spec _ _ _ (Nat.lt_succ_self _)).1

/-- **Byte conservation.** After any calls of `feed` and `next` on a parser just made or
reset, under a limit to which the constructor can add its slack: the bytes consumed and
those buffered are all the bytes fed, what is buffered is the end of the stream, the
messages `next` returned are slices of the consumed part at increasing offsets, and the
count is that of the messages parsed, returned or still queued. With the limit off the
whole stream may have to be buffered, and its length is one of a buffer. -/
theorem bytes_conserved {opts : StreamParserOptions} (hmax : opts.max_msg_len ≤ 2 ^ 64 - 1 - 4096)
    {start : StreamParser}
    (hstart : start = StreamParser.create opts ∨ ∃ q : StreamParser, q.opts = opts ∧
    start = q.reset)
    (ops : List ParserOp) (hsize : opts.max_msg_len = 0 → (stream ops).length < 2 ^ 64)
    {p : StreamParser} {got : List Message} (hrun : ops.foldl run_op (start, []) = (p, got)) :
    p.consumed + p.buffered = (stream ops).length ∧
      p.unread = (stream ops).drop ((stream ops).length - p.buffered) ∧
      Sliced (stream ops) p.consumed (got.map Message.raw) ∧
      p.msg_count = (got ++ p.pending).length := by
  have hfresh : start = StreamParser.create opts := by
    rcases hstart with rfl | ⟨q, rfl, rfl⟩
    · rfl
    · rfl
  have hroom : Roomy opts (stream ops).length := by
    by_cases hzero : opts.max_msg_len = 0
    · refine .inr ⟨?_, hsize hzero⟩
      rw [StreamParserOptions.buf_cap, hzero]
      rfl
    · exact .inl ⟨Nat.pos_of_ne_zero hzero, hmax⟩
  have h := (at_rest_run ops hroom).toConserved
  rw [← hfresh, hrun] at h
  have haccepted := h.accepted
  refine ⟨haccepted, ?_, ?_, h.counted⟩
  · rw [← haccepted, Nat.add_sub_cancel]
    exact h.unread
  · have hsliced := h.sliced
    rw [List.map_append] at hsliced
    exact hsliced.left

/-- A Heartbeat behind garbage, taken with `next`, and the start of another frame. -/
def heartbeat_run : List ParserOp :=
  [.feed (ascii "xy8"), .feed heartbeat_frame, .next, .feed (ascii "8=F"), .next]

theorem bytes_conserved_heartbeat :
    (heartbeat_run.foldl run_op (StreamParser.create {}, [])).2.map Message.raw =
    [heartbeat_frame] ∧
      (heartbeat_run.foldl run_op (StreamParser.create {}, [])).1.consumed +
        (heartbeat_run.foldl run_op (StreamParser.create {}, [])).1.buffered =
          (stream heartbeat_run).length :=
  ⟨by decide, (bytes_conserved (by decide) (Or.inl rfl) heartbeat_run
    (by decide) Prod.mk.eta.symm).1⟩

end FixEngine
