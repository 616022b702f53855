/-
The parser does not depend on how the stream is cut into `feed` calls.

What can be observed of a parser is its health, its backlog, the bytes consumed
and the messages queued; `push` is the effect of one more byte on these.
`feed_obs` shows that `feed` is `push` repeated, whatever the loop did with the
backlog cap in between. It rests on the decisions being stable
(`parse_step_stable`) and on the cap being final: after a `drain` there is nothing
left that `enforce_cap` could reclaim (`enforce_cap_fatal`). From there any two
ways to cut a stream agree.
-/
import FixEngine.Stability

set_option autoImplicit false

namespace FixEngine

open FixEngine.Decimal FixEngine.Incremental

/-! ## What `feed` does, byte by byte -/

/-- What can be observed of a parser. -/
structure Obs : Type where
  healthy : Bool
  unread : Bytes
  consumed : ℕ
  pending : List Message

namespace StreamParser

/-- The observable part of a parser. -/
def obs (p : StreamParser) : Obs := ⟨p.healthy, p.unread, p.consumed, p.pending⟩

end StreamParser

/-- The effect of parsing everything buffered. -/
def settle (opts : StreamParserOptions) (o : Obs) : Obs :=
  { o with
    unread := rest (parse_step opts) o.unread
    consumed := o.consumed + (run (parse_step opts) o.unread).2
    pending := o.pending ++ (run (parse_step opts) o.unread).1 }

/-- The effect of one more byte: a backlog at the cap is fatal. -/
def push (opts : StreamParserOptions) (o : Obs) (b : UInt8) : Obs :=
  if o.healthy = false then o
  else if opts.buf_cap ≠ 0 ∧ opts.buf_cap ≤ o.unread.length then
    { healthy := false, unread := [], consumed := o.consumed + o.unread.length,
      pending := o.pending }
  else settle opts { o with unread := o.unread ++ [b] }

theorem settle_of_none (opts : StreamParserOptions) (o : Obs)
    (h : parse_step opts o.unread = none) : settle opts o = o := by
  simp [settle, rest, run_of_none h]

theorem push_unhealthy {opts : StreamParserOptions} {o : Obs} (h : o.healthy = false)
    (data : Bytes) : data.foldl (push opts) o = o := by
  induction data with
  | nil => rfl
  | cons b data ih =>
    have hb : push opts o b = o := by
      unfold push
      rw [if_pos h]
    rw [List.foldl_cons, hb, ih]

theorem parse_step_settle (opts : StreamParserOptions) (o : Obs) :
    parse_step opts (settle opts o).unread = none :=
  step_rest (parse_step_progress opts) o.unread

theorem length_settle_le (opts : StreamParserOptions) (o : Obs) :
    (settle opts o).unread.length ≤ o.unread.length := by
  simp only [settle, rest, List.length_drop]
  omega

theorem settle_settle (opts : StreamParserOptions) (o : Obs) (e : Bytes)
    (hfit : Fits opts (o.unread ++ e).length) :
    settle opts { settle opts o with unread := (settle opts o).unread ++ e }
      = settle opts { o with unread := o.unread ++ e } := by
  have hrun := run_append (parse_step_progress opts) (fun m n => Fits.mono m n)
    (parse_step_stable opts) o.unread e hfit
  have hle := run_le (parse_step_progress opts) o.unread
  simp only [settle, rest] at hrun ⊢
  rw [hrun]
  simp only [join, List.append_assoc, Nat.add_assoc, ← List.drop_drop,
    List.drop_append_of_le_length hle]

theorem foldl_push_eq_settle (opts : StreamParserOptions) (data : Bytes) (o : Obs)
    (hh : o.healthy = true) (hnone : parse_step opts o.unread = none)
    (hfit : Fits opts (o.unread.length + data.length))
    (hcap : opts.buf_cap = 0 ∨ o.unread.length + data.length ≤ opts.buf_cap) :
    data.foldl (push opts) o = settle opts { o with unread := o.unread ++ data } := by
  induction data generalizing o with
  | nil =>
    rw [List.foldl_nil, List.append_nil]
    exact (settle_of_none opts o hnone).symm
  | cons b data ih =>
    rw [List.length_cons] at hfit hcap
    have hb : push opts o b = settle opts { o with unread := o.unread ++ [b] } := by
      unfold push
      rw [if_neg (by simp [hh]), if_neg (by omega)]
    have hlen := length_settle_le opts { o with unread := o.unread ++ [b] }
    simp only [List.length_append, List.length_cons, List.length_nil] at hlen
    rw [List.foldl_cons, hb, ih (settle opts { o with unread := o.unread ++ [b] }) hh
      (parse_step_settle opts { o with unread := o.unread ++ [b] })
      (Fits.mono _ _ (by omega) hfit) (by omega)]
    have := settle_settle opts { o with unread := o.unread ++ [b] } data (by
      simp only [List.length_append, List.length_cons, List.length_nil]
      exact Fits.mono _ _ (by omega) hfit)
    simp only [List.append_assoc, List.singleton_append] at this
    exact this

namespace StreamParser

theorem try_parse_one_spec (p : StreamParser) :
    p.try_parse_one.1.opts = p.opts ∧ p.try_parse_one.1.healthy = p.healthy ∧
      match parse_step p.opts p.unread with
      | none => p.try_parse_one.2 = .NeedMore ∧ p.try_parse_one.1.obs = p.obs
      | some (o, n) => p.try_parse_one.2 ≠ .NeedMore ∧
          p.try_parse_one.1.obs
            = ⟨p.healthy, p.unread.drop n, p.consumed + n, p.pending ++ o⟩ := by
  have hresync : ∀ (err : ErrorCode) (q : StreamParser),
      (resync_scan err q).opts = q.opts ∧
        (resync_scan err q).obs = ⟨q.healthy, q.unread.drop (resync_len q.opts q.unread),
          q.consumed + resync_len q.opts q.unread, q.pending⟩ := by
    intro err q
    unfold resync_scan
    simp only
    split
    · rename_i h0
      rw [h0]
      exact ⟨rfl, rfl⟩
    · exact ⟨rfl, rfl⟩
  have hhealth : ∀ (err : ErrorCode) (q : StreamParser),
      (resync_scan err q).healthy = q.healthy := fun err q => congrArg Obs.healthy (hresync err q).2
  unfold try_parse_one parse_step
  rcases scan_frame p.opts p.unread with ((_ | err) | _ | ⟨n, err⟩) | ⟨msg, n⟩
  · exact ⟨rfl, rfl, rfl, rfl⟩
  · exact ⟨rfl, rfl, rfl, rfl⟩
  · refine ⟨(hresync _ p).1, hhealth _ p, ?_⟩
    by_cases hpos : resync_len p.opts p.unread > 0
    · simp only [if_pos hpos]
      refine ⟨by simp, ?_⟩
      rw [(hresync _ p).2, List.append_nil]
    · simp only [if_neg hpos]
      have h0 : resync_len p.opts p.unread = 0 := by omega
      refine ⟨trivial, ?_⟩
      rw [(hresync _ p).2, h0]
      rfl
  · refine ⟨(hresync _ _).1, hhealth _ _, by simp, ?_⟩
    simp only [skip_frame]
    rw [(hresync _ _).2]
    simp only [advance, List.drop_drop, List.append_nil, Nat.add_assoc]
  · exact ⟨rfl, rfl, by simp, rfl⟩

theorem try_parse_one_counts (p : StreamParser) :
    p.try_parse_one.1.msg_count + p.pending.length
      = p.msg_count + p.try_parse_one.1.pending.length := by
  have hresync : ∀ (err : ErrorCode) (q : StreamParser),
      (resync_scan err q).msg_count = q.msg_count ∧ (resync_scan err q).pending = q.pending := by
    intro err q
    rw [resync_scan]
    dsimp only
    split
    · exact ⟨rfl, rfl⟩
    · exact ⟨rfl, rfl⟩
  rw [try_parse_one]
  rcases scan_frame p.opts p.unread with ((_ | err) | _ | ⟨n, err⟩) | ⟨msg, n⟩
  · rfl
  · rfl
  · rw [(hresync _ p).1, (hresync _ p).2]
  · dsimp only [skip_frame]
    rw [(hresync _ _).1, (hresync _ _).2]
    rfl
  · dsimp only [advance]
    rw [List.length_append, List.length_singleton]
    omega

theorem drain_loop_spec (fuel : ℕ) (p : StreamParser) (h : p.unread.length < fuel) :
    (drain_loop fuel p).opts = p.opts ∧ (drain_loop fuel p).obs = settle p.opts p.obs := by
  induction fuel generalizing p with
  | zero => omega
  | succ fuel ih =>
    obtain ⟨hopts, -, hspec⟩ := try_parse_one_spec p
    unfold drain_loop
    rcases hr : p.try_parse_one with ⟨q, st⟩
    rw [hr] at hopts hspec
    rcases hstep : parse_step p.opts p.unread with _ | ⟨o, n⟩
    · rw [hstep] at hspec
      obtain ⟨rfl, hobs⟩ := hspec
      refine ⟨hopts, hobs.trans ?_⟩
      exact (settle_of_none p.opts p.obs hstep).symm
    · rw [hstep] at hspec
      obtain ⟨hst, hobs⟩ := hspec
      have hs := parse_step_progress p.opts
      have hpos := hs.pos hstep
      have hle := hs.le hstep
      have hq : q.unread = p.unread.drop n := congrArg Obs.unread hobs
      have hlen : q.unread.length < fuel := by
        rw [hq, List.length_drop]
        omega
      obtain ⟨h1, h2⟩ := ih q hlen
      have hgoal : (drain_loop fuel q).opts = p.opts ∧
          (drain_loop fuel q).obs = settle p.opts p.obs := by
        refine ⟨h1.trans hopts, ?_⟩
        rw [h2, hobs, hopts]
        have hrun := run_of_some hs hstep
        simp only [settle, obs, rest, hrun, join, List.drop_drop, List.append_assoc,
          Nat.add_assoc]
      cases st with
      | NeedMore => exact absurd rfl hst
      | Message => exact hgoal
      | Error => exact hgoal

/-- **`drain` parses everything that is buffered.** -/
theorem drain_spec (p : StreamParser) :
    p.drain.opts = p.opts ∧ p.drain.obs = settle p.opts p.obs :=
  drain_loop_spec _ p (Nat.lt_succ_self _)

theorem enforce_cap_fatal (p : StreamParser) (hfit : Fits p.opts p.unread.length)
    (hnone : parse_step p.opts p.unread = none) (hcap : p.opts.buf_cap ≠ 0)
    (hfull : p.opts.buf_cap ≤ p.write_pos) :
    (enforce_cap p).opts = p.opts ∧
      (enforce_cap p).obs = ⟨false, [], p.consumed + p.unread.length, p.pending⟩ := by
  have hresync : resync_len p.opts p.unread = 0 := by
    by_contra hne
    have h2 : ¬ p.unread.length < 2 := by
      intro h2
      rw [resync_len_eq hfit, if_pos h2] at hne
      exact hne rfl
    have h8 : p.unread.take 2 ≠ ascii "8=" := by
      intro h8
      rw [resync_len_eq hfit, if_neg h2, find_frame_start_aligned h8] at hne
      exact hne rfl
    unfold parse_step at hnone
    rw [scan_frame_resync_iff.2 ⟨by omega, h8⟩] at hnone
    simp only [if_pos (by omega : resync_len p.opts p.unread > 0)] at hnone
    cases hnone
  have hscan : resync_scan .ParseError p = p := by
    unfold resync_scan
    simp only [hresync, if_true]
  obtain ⟨hopts, hobs⟩ := drain_spec p.compact
  have hsettled : p.compact.drain.obs = p.obs :=
    hobs.trans (settle_of_none p.opts p.obs hnone)
  have hunread : p.compact.drain.unread = p.unread := congrArg Obs.unread hsettled
  have hconsumed : p.compact.drain.consumed = p.consumed := congrArg Obs.consumed hsettled
  have hpending : p.compact.drain.pending = p.pending := congrArg Obs.pending hsettled
  unfold enforce_cap
  rw [if_neg (by omega)]
  simp only [hscan]
  have hbuf : p.compact.drain.compact.buffered ≥ p.buffered := by
    change p.compact.drain.unread.length ≥ p.unread.length
    rw [hunread]
  rw [if_pos hbuf]
  refine ⟨hopts, ?_⟩
  change Obs.mk false [] (p.compact.drain.consumed + p.compact.drain.unread.length)
    p.compact.drain.pending = _
  rw [hunread, hconsumed, hpending]

/-- **The `feed` loop.** Starting from a healthy parser whose backlog is within the
cap, it parses what is buffered and then pushes the new bytes one after the
other. -/
theorem feed_loop_obs (fuel : ℕ) (data : Bytes) (p : StreamParser) (hh : p.healthy = true)
    (hfit : Fits p.opts (p.unread.length + data.length))
    (hcap : p.opts.buf_cap = 0 ∨ p.unread.length ≤ p.opts.buf_cap)
    (hfuel : 2 * data.length + p.unread.length < fuel) :
    (feed_loop fuel data p).opts = p.opts ∧
      (feed_loop fuel data p).obs = data.foldl (push p.opts) (settle p.opts p.obs) := by
  induction fuel generalizing data p with
  | zero => omega
  | succ fuel ih =>
    rcases data with _ | ⟨c, cs⟩
    · unfold feed_loop
      exact drain_spec p
    obtain ⟨hopts, hobs⟩ := drain_spec p
    unfold feed_loop
    simp only
    set data := c :: cs with hdata
    set q := p.drain.compact with hq
    have hqo : q.opts = p.opts := hopts
    have hqobs : q.obs = settle p.opts p.obs := hobs
    have hqh : q.healthy = true := (congrArg Obs.healthy hqobs).trans hh
    have hqlen : q.unread.length ≤ p.unread.length := by
      have := length_settle_le p.opts p.obs
      rw [← hqobs] at this
      exact this
    have hqnone : parse_step q.opts q.unread = none := by
      have := parse_step_settle p.opts p.obs
      rw [← hqobs] at this
      rw [hqo]
      exact this
    have hqw : q.write_pos = q.unread.length := Nat.zero_add _
    have hdpos : 0 < data.length := by simp [hdata]
    by_cases hsp : q.space data.length = 0
    · -- the backlog is at the cap
      have hfull : q.opts.buf_cap ≠ 0 ∧ q.opts.buf_cap ≤ q.unread.length := by
        unfold space at hsp
        rw [hqw] at hsp
        split at hsp
        · omega
        · split at hsp <;> omega
      obtain ⟨heo, hef⟩ := enforce_cap_fatal q
        (by rw [hqo]; exact Fits.mono _ _ (by omega) hfit) hqnone hfull.1
          (by rw [hqw]; exact hfull.2)
      have heh : (enforce_cap q).healthy = false := congrArg Obs.healthy hef
      rw [if_pos hsp, if_pos heh]
      refine ⟨heo.trans hqo, ?_⟩
      have hpush : push p.opts (settle p.opts p.obs) c
          = ⟨false, [], q.consumed + q.unread.length, q.pending⟩ := by
        rw [← hqobs]
        unfold push
        rw [if_neg (by simp [obs, hqh]), if_pos (by rw [← hqo]; exact hfull)]
        rfl
      rw [hef, hdata, List.foldl_cons, hpush, push_unhealthy rfl]
    · rw [if_neg hsp]
      set n := min data.length (q.space data.length) with hn
      have hnpos : 0 < n := by omega
      have hnle : n ≤ data.length := Nat.min_le_left _ _
      have htake : (data.take n).length = n := by
        rw [List.length_take]
        omega
      have hroom : q.opts.buf_cap = 0 ∨ q.unread.length + n ≤ q.opts.buf_cap := by
        by_cases h0 : q.opts.buf_cap = 0
        · exact Or.inl h0
        · right
          have : q.space data.length ≤ q.opts.buf_cap - q.unread.length := by
            unfold space
            rw [if_neg h0, hqw]
            split <;> omega
          unfold space at hsp
          rw [if_neg h0, hqw] at hsp
          split at hsp
          · omega
          · omega
      have happ : append_bytes (data.take n) q
          = { q with unread := q.unread ++ data.take n } := by
        unfold append_bytes
        rw [if_neg (by omega), if_neg]
        rw [htake, hqw]
        unfold Fits at hfit
        omega
      rw [happ]
      have hlen2 : (q.unread ++ data.take n).length = q.unread.length + n := by
        rw [List.length_append, htake]
      have hdrop : (data.drop n).length = data.length - n := List.length_drop
      obtain ⟨h1, h2⟩ := ih (data.drop n) { q with unread := q.unread ++ data.take n } hqh
        (by rw [hqo]; exact Fits.mono _ _ (by simp only [hlen2, hdrop]; omega) hfit)
        (by simp only [hlen2]; exact hroom) (by simp only [hlen2, hdrop]; omega)
      refine ⟨h1.trans hqo, ?_⟩
      rw [h2]
      have hfold := foldl_push_eq_settle p.opts (data.take n) q.obs hqh
        (by rw [← hqo]; exact hqnone)
        (Fits.mono _ _ (by change q.unread.length + _ ≤ _; omega) hfit)
        (by rw [htake, ← hqo]; exact hroom)
      rw [← List.take_append_drop n data, List.foldl_append, List.take_append_drop, ← hqobs, hfold,
        hqo]
      rfl

end StreamParser

/-! ## Whole streams -/

/-- Between calls everything buffered has been parsed and the backlog is within the
cap. -/
def Obs.Settled (opts : StreamParserOptions) (o : Obs) : Prop :=
  parse_step opts o.unread = none ∧ (opts.buf_cap = 0 ∨ o.unread.length ≤ opts.buf_cap)

theorem parse_step_nil (opts : StreamParserOptions) : parse_step opts [] = none := rfl

theorem push_settled {opts : StreamParserOptions} {o : Obs} (h : o.Settled opts) (b : UInt8) :
    (push opts o b).Settled opts ∧ (push opts o b).unread.length ≤ o.unread.length + 1 := by
  unfold push
  split
  · exact ⟨h, Nat.le_succ _⟩
  · split
    · exact ⟨⟨parse_step_nil opts, Or.inr (Nat.zero_le _)⟩, Nat.zero_le _⟩
    · rename_i hnot
      have hlen := length_settle_le opts { o with unread := o.unread ++ [b] }
      simp only [List.length_append, List.length_cons, List.length_nil] at hlen
      exact ⟨⟨parse_step_settle opts _, by omega⟩, hlen⟩

theorem foldl_push_settled {opts : StreamParserOptions} (data : Bytes) {o : Obs}
    (h : o.Settled opts) :
    (data.foldl (push opts) o).Settled opts ∧
      (data.foldl (push opts) o).unread.length ≤ o.unread.length + data.length := by
  induction data generalizing o with
  | nil => exact ⟨h, le_refl _⟩
  | cons b data ih =>
    obtain ⟨h1, h2⟩ := push_settled h b
    obtain ⟨h3, h4⟩ := ih h1
    rw [List.foldl_cons, List.length_cons]
    exact ⟨h3, by omega⟩

theorem foldl_push_prepend (opts : StreamParserOptions) (data : Bytes) (o : Obs)
    (got : List Message) :
    data.foldl (push opts) { o with pending := got ++ o.pending }
      = { data.foldl (push opts) o with
          pending := got ++ (data.foldl (push opts) o).pending } := by
  induction data generalizing o with
  | nil => rfl
  | cons b data ih =>
    have hb : push opts { o with pending := got ++ o.pending } b
        = { push opts o b with pending := got ++ (push opts o b).pending } := by
      unfold push
      simp only
      split
      · rfl
      · split
        · rfl
        · simp only [settle, List.append_assoc]
    rw [List.foldl_cons, List.foldl_cons, hb, ih]

/-- **`feed` is `push` repeated.** -/
theorem feed_obs (p : StreamParser) (data : Bytes) (hset : p.obs.Settled p.opts)
    (hfit : Fits p.opts (p.unread.length + data.length)) :
    (p.feed data).opts = p.opts ∧ (p.feed data).obs = data.foldl (push p.opts) p.obs := by
  unfold StreamParser.feed
  rcases data with _ | ⟨c, cs⟩
  · exact ⟨rfl, rfl⟩
  rw [if_neg (by simp)]
  by_cases hh : p.healthy = false
  · rw [if_pos hh]
    exact ⟨rfl, (push_unhealthy hh _).symm⟩
  · rw [if_neg hh]
    obtain ⟨h1, h2⟩ := StreamParser.feed_loop_obs (2 * (c :: cs).length + p.unread.length + 1)
      (c :: cs) p (by simpa using hh) hfit hset.2 (Nat.lt_succ_self _)
    refine ⟨h1, ?_⟩
    rw [h2, settle_of_none p.opts p.obs hset.1]

/-- A call on a parser. -/
inductive ParserOp : Type where
  | feed (data : Bytes)
  | next

/-- The bytes a call feeds. -/
def ParserOp.bytes : ParserOp → Bytes
  | .feed data => data
  | .next => []

/-- One call, with the messages `next` has returned so far. -/
def run_op : StreamParser × List Message → ParserOp → StreamParser × List Message
  | (p, got), .feed data => (p.feed data, got)
  | (p, got), .next =>
    match p.next with
    | (p, some msg) => (p, got ++ [msg])
    | (p, none) => (p, got)

/-- `next` until it returns false, on fuel. -/
def collect : ℕ → StreamParser × List Message → StreamParser × List Message
  | 0, s => s
  | fuel + 1, (p, got) =>
    match p.next with
    | (p, some msg) => collect fuel (p, got ++ [msg])
    | (p, none) => (p, got)

/-- The stream a sequence of calls feeds. -/
def stream (ops : List ParserOp) : Bytes := ops.flatMap ParserOp.bytes

/-- A fresh parser, a sequence of calls, then `next` until it returns false. -/
def parse_all (opts : StreamParserOptions) (ops : List ParserOp) : StreamParser × List Message :=
  let s := ops.foldl run_op (StreamParser.create opts, [])
  collect (s.1.pending.length + 1) s

/-- What has been observed in total: the messages obtained come first. -/
def total (s : StreamParser × List Message) : Obs :=
  { s.1.obs with pending := s.2 ++ s.1.pending }

theorem total_next (p : StreamParser) (got : List Message) :
    (run_op (p, got) .next).1.opts = p.opts ∧ total (run_op (p, got) .next) = total (p, got) := by
  rcases hp : p.pending with _ | ⟨msg, rest⟩
  · simp only [run_op, StreamParser.next, hp]
    exact ⟨trivial, trivial⟩
  · simp only [run_op, StreamParser.next, hp]
    refine ⟨trivial, ?_⟩
    simp [total, StreamParser.obs, hp]

theorem collect_spec (fuel : ℕ) (p : StreamParser) (got : List Message)
    (h : p.pending.length < fuel) :
    (collect fuel (p, got)).2 = got ++ p.pending ∧
      (collect fuel (p, got)).1.consumed = p.consumed ∧
      (collect fuel (p, got)).1.unread = p.unread := by
  induction fuel generalizing p got with
  | zero => omega
  | succ fuel ih =>
    unfold collect StreamParser.next
    rcases hp : p.pending with _ | ⟨msg, rest⟩
    · exact ⟨by simp, rfl, rfl⟩
    · rw [hp, List.length_cons] at h
      obtain ⟨h1, h2, h3⟩ := ih { p with pending := rest } (got ++ [msg]) (by simpa using h)
      exact ⟨by simp [h1], h2, h3⟩

theorem run_ops_total (opts : StreamParserOptions) (ops : List ParserOp)
    (hfit : Fits opts (stream ops).length) :
    (ops.foldl run_op (StreamParser.create opts, [])).1.opts = opts ∧
      total (ops.foldl run_op (StreamParser.create opts, []))
        = (stream ops).foldl (push opts) (StreamParser.create opts).obs := by
  induction ops using List.reverseRecOn with
  | nil => exact ⟨rfl, rfl⟩
  | append_singleton ops op ih =>
    have hstream : stream (ops ++ [op]) = stream ops ++ op.bytes := by simp [stream]
    rw [hstream, List.length_append] at hfit
    obtain ⟨ih1, ih2⟩ := ih (Fits.mono _ _ (by omega) hfit)
    rw [hstream, List.foldl_append, List.foldl_append, ← ih2]
    rcases hfold : ops.foldl run_op (StreamParser.create opts, []) with ⟨p, got⟩
    rw [hfold] at ih1 ih2
    rw [List.foldl_cons, List.foldl_nil]
    change p.opts = opts at ih1
    rcases op with data | _
    · have hinit : (StreamParser.create opts).obs.Settled opts :=
        ⟨parse_step_nil opts, Or.inr (Nat.zero_le _)⟩
      obtain ⟨hset, hlen⟩ := foldl_push_settled (stream ops) hinit
      rw [← ih2] at hset hlen
      have hlen' : p.unread.length ≤ (stream ops).length := by
        simpa [total, StreamParser.obs, StreamParser.create] using hlen
      obtain ⟨h1, h2⟩ := feed_obs p data (by rw [ih1]; exact hset)
        (by rw [ih1]; exact Fits.mono _ _ (Nat.add_le_add_right hlen' _) hfit)
      refine ⟨h1.trans ih1, ?_⟩
      change { (p.feed data).obs with pending := got ++ (p.feed data).obs.pending }
        = data.foldl (push opts) { p.obs with pending := got ++ p.obs.pending }
      rw [foldl_push_prepend, h2, ih1]
    · obtain ⟨h1, h2⟩ := total_next p got
      exact ⟨h1.trans ih1, h2⟩

/-- **Parsing does not depend on the chunking.** Two sequences of `feed` and `next`
calls over the same stream obtain the same messages, consume the same number of
bytes and leave the same bytes unparsed. A byte stream that one `feed` may carry
has fewer than 2^63 bytes. -/
theorem parse_all_chunking (opts : StreamParserOptions) (ops₁ ops₂ : List ParserOp)
    (hsame : stream ops₁ = stream ops₂) (hsize : (stream ops₁).length < 2 ^ 63)
    (hmax : opts.max_msg_len = 0 ∨ (stream ops₁).length ≤ opts.max_msg_len) :
    (parse_all opts ops₁).2 = (parse_all opts ops₂).2 ∧
      (parse_all opts ops₁).1.consumed = (parse_all opts ops₂).1.consumed ∧
      (parse_all opts ops₁).1.unread = (parse_all opts ops₂).1.unread := by
  have hfit : Fits opts (stream ops₁).length := ⟨by omega, hmax⟩
  obtain ⟨-, ht₁⟩ := run_ops_total opts ops₁ hfit
  obtain ⟨-, ht₂⟩ := run_ops_total opts ops₂ (hsame ▸ hfit)
  have htotal := ht₁.trans ((congrArg _ hsame).trans ht₂.symm)
  unfold parse_all
  rcases hf₁ : ops₁.foldl run_op (StreamParser.create opts, []) with ⟨p₁, got₁⟩
  rcases hf₂ : ops₂.foldl run_op (StreamParser.create opts, []) with ⟨p₂, got₂⟩
  rw [hf₁, hf₂] at htotal
  simp only
  obtain ⟨hm₁, hc₁, hu₁⟩ := collect_spec (p₁.pending.length + 1) p₁ got₁ (Nat.lt_succ_self _)
  obtain ⟨hm₂, hc₂, hu₂⟩ := collect_spec (p₂.pending.length + 1) p₂ got₂ (Nat.lt_succ_self _)
  rw [hm₁, hc₁, hu₁, hm₂, hc₂, hu₂]
  exact ⟨congrArg Obs.pending htotal, congrArg Obs.consumed htotal, congrArg Obs.unread htotal⟩

/-- Garbage, a Heartbeat and the start of another frame. -/
def noisy_stream : Bytes := ascii "xy8=FIX.4.2\x019=5\x0135=0\x0110=161\x018=FI"

/-- The same in pieces, with calls of `next` in between. -/
def noisy_chunks : List ParserOp :=
  [.feed (ascii "xy8"), .next, .feed (ascii "=FIX.4.2\x019=5\x013"), .next,
    .feed (ascii "5=0\x0110=161\x018"), .next, .feed (ascii "=FI")]

/-- The Heartbeat is found either way. -/
theorem parse_all_chunking_noisy :
    stream noisy_chunks = stream [.feed noisy_stream] ∧
      (parse_all {} noisy_chunks).2 = (parse_all {} [.feed noisy_stream]).2 ∧
      (parse_all {} [.feed noisy_stream]).2.map Message.msg_type = [msg_types.Heartbeat] ∧
      (parse_all {} noisy_chunks).1.unread = (parse_all {} [.feed noisy_stream]).1.unread := by
  have hsame : stream noisy_chunks = stream [.feed noisy_stream] := by decide
  obtain ⟨hgot, -, hunread⟩ := parse_all_chunking {} noisy_chunks _ hsame (by decide) (by decide)
  exact ⟨hsame, hgot, by decide +kernel, hunread⟩

end FixEngine
