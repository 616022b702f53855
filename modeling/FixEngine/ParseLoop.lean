/-
The loops of the parser, without fuel.

`Parser.lean` runs three loops of `src/parser/parser.cpp` on fuel: the body loop of
`try_parse_one`, `drain` and the loop of `feed`. Here each is a turn of the source, and
what the model computes is shown to be what the loop returns; a loop that hangs, or
aborts, would return nothing of the kind.

## The table of header tags

`HeaderSeen` is the table as the source has it: as many slots as there are standard
header tags, a count, and an abort when a new tag finds no slot. `Parser.lean` has a
list in its place, without the abort. The taken slots hold pairwise distinct standard
header tags, so a tag that is new leaves fewer of them than there are slots
(`HeaderSeen.Distinct.room`): the abort is never reached, and the list is what is in the table.

## Progress

A turn that delivers or reports an error moves the read position, so `drain` returns.
A turn of `feed` either takes bytes from the input or has `enforce_cap` shrink the
backlog, so `feed` returns, whatever `max_msg_len` is.
-/
import FixEngine.Chunking
import FixEngine.Loop

set_option autoImplicit false

namespace FixEngine

open FixEngine.Loop

/-! ## `HeaderSeen` -/

/-- `kHeaderTagCount`. -/
abbrev kHeaderTagCount : ℕ := kStandardHeaderTags.length

/-- `struct HeaderSeen`. -/
structure HeaderSeen : Type where
  tags : Vector TagNum kHeaderTagCount := .replicate _ 0
  count : ℕ := 0

namespace HeaderSeen

/-- The slots that are taken. -/
def entries (seen : HeaderSeen) : List TagNum := seen.tags.toList.take seen.count

/-- `HeaderSeen::check_and_mark`; `none` is `std::abort()`. -/
def check_and_mark (seen : HeaderSeen) (tag : TagNum) : Option (Bool × HeaderSeen) :=
  if seen.entries.contains tag then some (true, seen)
  else if seen.count ≥ kHeaderTagCount then none
  else some (false, { tags := seen.tags.setIfInBounds seen.count tag, count := seen.count + 1 })

/-- The table before the body loop: BeginString and BodyLength are in. -/
def seeded : Option HeaderSeen := do
  let (_, seen) ← ({} : HeaderSeen).check_and_mark tags.BeginString
  let (_, seen) ← seen.check_and_mark tags.BodyLength
  return seen

/-- The taken slots hold distinct standard header tags. -/
structure Distinct (seen : HeaderSeen) : Prop where
  count_le : seen.count ≤ kHeaderTagCount
  nodup : seen.entries.Nodup
  standard : ∀ tag ∈ seen.entries, tag ∈ kStandardHeaderTags

theorem length_entries {seen : HeaderSeen} (h : seen.count ≤ kHeaderTagCount) :
    seen.entries.length = seen.count := by
  rw [entries, List.length_take, Vector.length_toList, Nat.min_eq_left h]

theorem entries_mark {seen : HeaderSeen} (h : seen.count < kHeaderTagCount) (tag : TagNum) :
    entries { tags := seen.tags.setIfInBounds seen.count tag, count := seen.count + 1 }
      = seen.entries ++ [tag] := by
  have hlength : seen.count < seen.tags.toList.length := by rwa [Vector.length_toList]
  rw [entries, entries, Vector.toList_setIfInBounds]
  dsimp only
  rw [List.take_add_one, List.take_set_of_le (Nat.le_refl _), List.getElem?_set_self hlength]
  rfl

/-- **A new tag finds a slot**: with it the tags in the table are still distinct, and
there are no more than `kHeaderTagCount` to choose from. -/
theorem Distinct.room {seen : HeaderSeen} (h : seen.Distinct) {tag : TagNum}
    (htag : is_standard_header_tag tag = true) (hnew : tag ∉ seen.entries) :
    seen.count < kHeaderTagCount := by
  have hdistinct : (tag :: seen.entries).Nodup := List.nodup_cons.mpr ⟨hnew, h.nodup⟩
  have hsubset : tag :: seen.entries ⊆ kStandardHeaderTags := by
    apply List.cons_subset.mpr
    exact ⟨List.contains_iff_mem.mp htag, h.standard⟩
  have hle := hdistinct.length_le_of_subset hsubset
  rw [List.length_cons, length_entries h.count_le] at hle
  exact hle

theorem Distinct.check_and_mark {seen : HeaderSeen} (h : seen.Distinct) {tag : TagNum}
    (htag : is_standard_header_tag tag = true) :
    ∃ seen' : HeaderSeen, seen.check_and_mark tag =
    some ((FixEngine.check_and_mark seen.entries tag).1, seen') ∧
      seen'.entries = (FixEngine.check_and_mark seen.entries tag).2 ∧ seen'.Distinct := by
  rw [HeaderSeen.check_and_mark, FixEngine.check_and_mark]
  by_cases hmem : seen.entries.contains tag = true
  · rw [if_pos hmem, if_pos hmem]
    exact ⟨seen, rfl, rfl, h⟩
  · rw [if_neg hmem, if_neg hmem]
    have hnew : tag ∉ seen.entries := fun hin => hmem (List.contains_iff_mem.mpr hin)
    have hroom := h.room htag hnew
    have hentries := entries_mark hroom tag
    rw [if_neg (Nat.not_le.mpr hroom)]
    refine ⟨_, rfl, hentries, hroom, ?_, ?_⟩
    · rw [hentries]
      exact List.nodup_append.mpr ⟨h.nodup, List.nodup_singleton tag, by
        intro a ha b hb hab
        rw [List.mem_singleton.mp hb] at hab
        exact hnew (hab ▸ ha)⟩
    · rw [hentries]
      intro a ha
      rcases List.mem_append.mp ha with ha | ha
      · exact h.standard a ha
      · rw [List.mem_singleton.mp ha]
        exact List.contains_iff_mem.mp htag

theorem Distinct.mark {seen : HeaderSeen} (h : seen.Distinct) (tag : TagNum) :
    ∃ seen' : HeaderSeen,
      (if is_standard_header_tag tag then seen.check_and_mark tag else some (false, seen))
        = some (is_standard_header_tag tag &&
          (FixEngine.check_and_mark seen.entries tag).1, seen') ∧
      seen'.entries = FixEngine.mark seen.entries tag ∧ seen'.Distinct := by
  rw [FixEngine.mark]
  by_cases htag : is_standard_header_tag tag = true
  · obtain ⟨seen', hcheck, hentries, hdistinct⟩ := h.check_and_mark htag
    rw [if_pos htag, if_pos htag, htag]
    exact ⟨seen', hcheck, hentries, hdistinct⟩
  · rw [if_neg htag, if_neg htag, Bool.not_eq_true _ |>.mp htag]
    exact ⟨seen, rfl, rfl, h⟩

theorem seeded_eq : ∃ seen, seeded = some seen ∧ seen.entries = header_seen ∧ seen.Distinct := by
  have hnone : ({} : HeaderSeen).Distinct :=
    ⟨Nat.zero_le _, List.nodup_nil, fun _ h => absurd h List.not_mem_nil⟩
  have hbegin : is_standard_header_tag tags.BeginString = true := by decide
  have hlength : is_standard_header_tag tags.BodyLength = true := by decide
  obtain ⟨one, hone, hentries, hdistinct⟩ := hnone.check_and_mark hbegin
  obtain ⟨two, htwo, hentries', hdistinct'⟩ := hdistinct.check_and_mark hlength
  refine ⟨two, ?_, ?_, hdistinct'⟩
  · simp [seeded, hone, htwo]
  · rw [hentries', hentries]
    rfl

end HeaderSeen

/-! ## The body loop -/

/-- The variables of the body loop: the bytes from `pos` up to `body_end`, and what has
been gathered. -/
structure BodyState : Type where
  rem : Bytes
  msg : Message
  seen : HeaderSeen
  duplicate_header : Bool

/-- One turn of `while (pos < body_end)`; the result `none` is `std::abort()`. -/
def body_turn (body_end : ℕ) (s : BodyState) :
    Turn BodyState (Option (Except Refusal (Message × Bool))) :=
  match s.rem with
  | [] => .leave (some (.ok (s.msg, s.duplicate_header)))
  | _ :: _ =>
    let pos := body_end - s.rem.length
    match parse_field s.rem with
    | .Incomplete => .leave (some (.error (.skip body_end .BadLength)))
    | .Invalid => .leave (some (.error (.skip pos .InvalidField)))
    | .Ok tag value field_len =>
      if tag = tags.CheckSum then .leave (some (.error (.skip pos .ParseError)))
      else
        match if is_standard_header_tag tag then s.seen.check_and_mark tag
          else some (false, s.seen) with
        | none => .leave none
        | some (true, seen) =>
          .next { s with rem := s.rem.drop field_len, seen := seen, duplicate_header := true }
        | some (false, seen) =>
          match s.msg.add tag value with
          | .error _ => .leave (some (.error (.skip pos .InvalidField)))
          | .ok msg => .next { s with rem := s.rem.drop field_len, msg := msg, seen := seen }

/-- `parse_body` on the variables of the loop. -/
def body_run (body_end fuel : ℕ) (s : BodyState) : Option (Except Refusal (Message × Bool)) :=
  some (parse_body fuel body_end s.rem s.msg s.seen.entries s.duplicate_header)

/-- What a turn comes to, for the table and for the model. -/
def BodyTurn.Agrees (body_end fuel : ℕ) (s : BodyState) :
    Turn BodyState (Option (Except Refusal (Message × Bool))) → Prop
  | .next s' => s'.seen.Distinct ∧ s'.rem.length < s.rem.length ∧
      body_run body_end (fuel + 1) s = body_run body_end fuel s'
  | .leave r => body_run body_end (fuel + 1) s = r

/-- **One turn** keeps the tags distinct, takes bytes and is the turn of `parse_body`. -/
theorem body_turn_agrees (body_end fuel : ℕ) {s : BodyState} (h : s.seen.Distinct) :
    BodyTurn.Agrees body_end fuel s (body_turn body_end s) := by
  obtain ⟨rem, msg, seen, dup⟩ := s
  rcases rem with _ | ⟨c, cs⟩
  · rfl
  rw [body_turn]
  dsimp only
  rcases hfield : parse_field (c :: cs) with ⟨tag, value, n⟩ | _ | _
  · have hshort : ((c :: cs).drop n).length < (c :: cs).length := by
      obtain ⟨f, rest, hdata, -, -, rfl⟩ := (parse_field_ok_iff _ _ _ _).mp hfield
      rw [hdata, List.drop_left, List.length_append, f.length_bytes]
      omega
    dsimp only
    by_cases h10 : tag = tags.CheckSum
    · rw [if_pos h10]
      show some (parse_body _ _ _ _ _ _) = _
      rw [parse_body, hfield]
      simp [h10]
    rw [if_neg h10]
    obtain ⟨seen', hmark, hentries, hdistinct⟩ := h.mark tag
    rw [hmark]
    by_cases hrepeat : is_standard_header_tag tag = true ∧
      (check_and_mark seen.entries tag).1 = true
    · -- a repetition: the table is as it was
      have hsame : seen'.entries = seen.entries := by
        rw [hentries, mark, if_pos hrepeat.1]
        have hmem := hrepeat.2
        rw [check_and_mark] at hmem ⊢
        split at hmem
        · rename_i hin
          rw [if_pos hin]
        · cases hmem
      rw [hrepeat.1, hrepeat.2]
      refine ⟨hdistinct, hshort, ?_⟩
      show some (parse_body _ _ _ _ _ _) = some (parse_body _ _ _ _ _ _)
      rw [parse_body, hfield, hsame]
      simp only [if_neg h10, if_pos hrepeat]
    · have hflag : (is_standard_header_tag tag && (check_and_mark seen.entries tag).1) = false := by
        rwa [← Bool.not_eq_true, Bool.and_eq_true]
      rw [hflag]
      dsimp only
      rcases hadd : msg.add tag value with e | msg'
      · show some (parse_body _ _ _ _ _ _) = _
        rw [parse_body, hfield]
        simp only [if_neg h10, if_neg hrepeat, hadd]
      · refine ⟨hdistinct, hshort, ?_⟩
        show some (parse_body _ _ _ _ _ _) = some (parse_body _ _ _ _ _ _)
        rw [parse_body, hfield, hentries]
        simp only [if_neg h10, if_neg hrepeat, hadd]
        rfl
  · show some (parse_body _ _ _ _ _ _) = _
    rw [parse_body, hfield]
  · show some (parse_body _ _ _ _ _ _) = _
    rw [parse_body, hfield]

/-- **The body loop returns what `parse_body` computes**, and does not abort. -/
theorem body_loop_returns (body_end : ℕ) {s : BodyState} (h : s.seen.Distinct) {fuel : ℕ}
    (hfuel : s.rem.length ≤ fuel) : Returns (body_turn body_end) s (body_run body_end fuel s) := by
  have hagrees : ∀ {s : BodyState} {t} (fuel : ℕ), s.seen.Distinct → body_turn body_end s = t →
      BodyTurn.Agrees body_end fuel s t :=
        fun fuel h hturn => hturn ▸ body_turn_agrees body_end fuel h
  apply Returns.of_fuel (fun s => s.seen.Distinct) (fun s => s.rem.length) (body_run body_end)
  · exact fun h hturn => (hagrees 0 h hturn).1
  · exact fun h hturn => (hagrees 0 h hturn).2.1
  · exact fun fuel h hturn => (hagrees fuel h hturn).2.2
  · intro s r fuel h hfuel hturn
    cases fuel with
    | succ fuel => exact hagrees fuel h hturn
    | zero =>
      -- no bytes are left, so the loop is over
      rcases s with ⟨_ | ⟨c, cs⟩, msg, seen, dup⟩
      · exact Turn.leave.inj hturn
      · exact absurd hfuel (Nat.not_succ_le_zero _)
  · exact h
  · exact hfuel

/-- **The table of header tags never overflows.** Before every turn of the body loop,
for any body, its taken slots hold distinct standard header tags, a new one still finds
a slot, and the turn does not abort; the loop ends, with what `parse_body` computes. -/
theorem header_seen_never_overflows (body_end : ℕ) (body : Bytes) (msg : Message) :
    ∃ seen, HeaderSeen.seeded = some seen ∧
      (∀ s, Visits (body_turn body_end) ⟨body, msg, seen, false⟩ s →
        (s.seen.count ≤ kHeaderTagCount ∧ s.seen.entries.length = s.seen.count ∧
        s.seen.entries.Nodup ∧
          ∀ tag ∈ s.seen.entries, tag ∈ kStandardHeaderTags) ∧
        (∀ tag, is_standard_header_tag tag = true → tag ∉ s.seen.entries →
        s.seen.count < kHeaderTagCount) ∧
        body_turn body_end s ≠ .leave none) ∧
      Returns (body_turn body_end) ⟨body, msg, seen, false⟩
        (some (parse_body body.length body_end body msg header_seen false)) := by
  obtain ⟨seen, hseeded, hentries, hdistinct⟩ := HeaderSeen.seeded_eq
  refine ⟨seen, hseeded, ?_, ?_⟩
  · intro s hvisits
    have hs : s.seen.Distinct := by
      refine hvisits.invariant (fun s => s.seen.Distinct) ?_ hdistinct
      intro s s' h hturn
      have hagrees := body_turn_agrees body_end 0 h
      rw [hturn] at hagrees
      exact hagrees.1
    refine ⟨⟨hs.count_le, HeaderSeen.length_entries hs.count_le, hs.nodup, hs.standard⟩, ?_, ?_⟩
    · exact fun tag htag hnew => hs.room htag hnew
    · intro habort
      have hagrees := body_turn_agrees body_end 0 hs
      rw [habort] at hagrees
      cases hagrees
  · rw [← hentries]
    exact body_loop_returns body_end hdistinct (Nat.le_refl _)

/-- A heartbeat that names its MsgType twice: at the head of the loop MsgType is new. -/
theorem header_seen_never_overflows_heartbeat :
    ∃ seen, (HeaderSeen.seeded = some seen ∧ is_standard_header_tag tags.MsgType = true ∧
        tags.MsgType ∉ seen.entries) ∧
      seen.count < kHeaderTagCount ∧
      Returns (body_turn 10) ⟨ascii "35=0\x0135=0\x01", {}, seen, false⟩
        (some (.ok ({ fields := [⟨tags.MsgType, ascii "0"⟩] }, true))) := by
  obtain ⟨seen, hseeded, hvisits, hreturns⟩ :=
    header_seen_never_overflows 10 (ascii "35=0\x0135=0\x01") {}
  have hnew : tags.MsgType ∉ seen.entries := by
    have hall : HeaderSeen.seeded.all (fun seen => !seen.entries.contains tags.MsgType) = true := by
      decide
    rw [hseeded] at hall
    simpa using hall
  refine ⟨seen, ⟨hseeded, by decide, hnew⟩, (hvisits _ .refl).2.1 _ (by decide) hnew, ?_⟩
  have hbody : parse_body (ascii "35=0\x0135=0\x01").length 10 (ascii "35=0\x0135=0\x01")
      {} header_seen false
      = .ok ({ fields := [⟨tags.MsgType, ascii "0"⟩] }, true) := by decide
  rwa [hbody] at hreturns

/-! ## `drain` -/

namespace StreamParser

theorem read_pos_try_parse_one (p : StreamParser) :
    p.try_parse_one.1.read_pos + p.consumed = p.read_pos + p.try_parse_one.1.consumed := by
  have hresync : ∀ (err : ErrorCode) (q : StreamParser),
      (resync_scan err q).read_pos + q.consumed = q.read_pos + (resync_scan err q).consumed := by
    intro err q
    rw [resync_scan]
    dsimp only
    split
    · rfl
    · dsimp only [advance]
      omega
  rw [try_parse_one]
  rcases scan_frame p.opts p.unread with ((_ | err) | _ | ⟨n, err⟩) | ⟨msg, n⟩
  · rfl
  · rfl
  · exact hresync _ p
  · -- the skip moves both, and so does the scan behind it
    have hscan :=
      hresync err { p.advance (min (max n 1) p.unread.length) with last_error := some err }
    dsimp only [skip_frame, advance] at hscan ⊢
    omega
  · dsimp only [advance]
    omega

theorem try_parse_one_needMore {p : StreamParser} (h : p.try_parse_one.2 = .NeedMore) :
    p.try_parse_one.1.read_pos = p.read_pos ∧ p.try_parse_one.1.obs = p.obs := by
  obtain ⟨-, -, hspec⟩ := p.try_parse_one_spec
  have hmoves := p.read_pos_try_parse_one
  rcases hstep : parse_step p.opts p.unread with _ | ⟨o, n⟩
  · rw [hstep] at hspec
    have hconsumed : p.try_parse_one.1.consumed = p.consumed := congrArg Obs.consumed hspec.2
    exact ⟨by omega, hspec.2⟩
  · rw [hstep] at hspec
    exact absurd h hspec.1

/-- **Progress**: every other turn moves the read position, within the buffer. -/
theorem try_parse_one_advances {p : StreamParser} (h : p.try_parse_one.2 ≠ .NeedMore) :
    p.read_pos < p.try_parse_one.1.read_pos ∧ p.try_parse_one.1.write_pos = p.write_pos := by
  obtain ⟨-, -, hspec⟩ := p.try_parse_one_spec
  have hmoves := p.read_pos_try_parse_one
  rcases hstep : parse_step p.opts p.unread with _ | ⟨o, n⟩
  · rw [hstep] at hspec
    exact absurd hspec.1 h
  · rw [hstep] at hspec
    have hpos := (parse_step_progress p.opts).pos hstep
    have hle := (parse_step_progress p.opts).le hstep
    have hconsumed : p.try_parse_one.1.consumed = p.consumed + n := congrArg Obs.consumed hspec.2
    have hunread : p.try_parse_one.1.unread = p.unread.drop n := congrArg Obs.unread hspec.2
    refine ⟨by omega, ?_⟩
    rw [write_pos, write_pos, hunread, List.length_drop]
    omega

/-- One turn of `drain`. -/
def drain_turn (p : StreamParser) : Turn StreamParser StreamParser :=
  match p.try_parse_one with
  | (p', .NeedMore) => .leave p'
  | (p', _) => .next p'

theorem drain_turn_eq (p : StreamParser) :
    p.drain_turn = if p.try_parse_one.2 = .NeedMore then .leave p.try_parse_one.1
    else .next p.try_parse_one.1 := by
  rw [drain_turn]
  rcases p.try_parse_one with ⟨q, _ | _ | _⟩ <;> rfl

theorem drain_loop_succ (fuel : ℕ) (p : StreamParser) :
    drain_loop (fuel + 1) p =
      if p.try_parse_one.2 = .NeedMore then p.try_parse_one.1
      else drain_loop fuel p.try_parse_one.1 := by
  rw [drain_loop]
  rcases p.try_parse_one with ⟨q, _ | _ | _⟩ <;> rfl

/-- **`drain` returns**, on every buffer. -/
theorem drain_returns (p : StreamParser) : Returns drain_turn p p.drain := by
  have hnext : ∀ {p q : StreamParser}, p.drain_turn = .next q →
      p.try_parse_one.2 ≠ .NeedMore ∧ q = p.try_parse_one.1 := by
    intro p q hturn
    rw [drain_turn_eq] at hturn
    split at hturn
    · cases hturn
    · rename_i hstatus
      exact ⟨hstatus, (Turn.next.inj hturn).symm⟩
  -- the bytes left go down, and the last turn still takes one unit of fuel
  apply Returns.of_fuel (fun _ => True) (fun p => p.unread.length + 1) drain_loop
  · exact fun _ _ => trivial
  · intro p q _ hturn
    obtain ⟨hstatus, rfl⟩ := hnext hturn
    obtain ⟨hread, hwrite⟩ := try_parse_one_advances hstatus
    rw [write_pos, write_pos] at hwrite
    omega
  · intro p q fuel _ hturn
    obtain ⟨hstatus, rfl⟩ := hnext hturn
    rw [drain_loop_succ, if_neg hstatus]
  · intro p r fuel _ hfuel hturn
    cases fuel with
    | zero => exact absurd hfuel (Nat.not_succ_le_zero _)
    | succ fuel =>
      rw [drain_turn_eq] at hturn
      split at hturn
      · rename_i hstatus
        rw [drain_loop_succ, if_pos hstatus]
        exact Turn.leave.inj hturn
      · cases hturn
  · trivial
  · exact Nat.le_refl _

/-! ## `feed` -/

/-- One turn of the loop of `feed`, on the input not yet taken; `drain` is behind it. -/
def feed_turn : Bytes × StreamParser → Turn (Bytes × StreamParser) StreamParser
  | ([], p) => .leave p.drain
  | (c :: cs, p) =>
    let data := c :: cs
    let p := p.drain.compact
    if p.space data.length = 0 then
      let before := p.buffered
      let p := p.enforce_cap
      if p.healthy = false then .leave p
      else if p.buffered ≥ before ∧ p.write_pos ≥ p.opts.buf_cap then
        .leave { p with healthy := false, last_error := p.default_error }
      else .next (data, p)
    else
      let n := min data.length (p.space data.length)
      .next (data.drop n, p.append_bytes (data.take n))

theorem length_drain_le (p : StreamParser) : p.drain.unread.length ≤ p.unread.length := by
  have hunread : p.drain.unread = (settle p.opts p.obs).unread := congrArg Obs.unread p.drain_spec.2
  rw [hunread]
  exact length_settle_le p.opts p.obs

theorem enforce_cap_shrinks {p : StreamParser} (hcap : p.opts.buf_cap ≠ 0)
    (hfull : p.opts.buf_cap ≤ p.write_pos) (hhealthy : p.enforce_cap.healthy ≠ false) :
    p.enforce_cap.buffered < p.buffered := by
  rw [enforce_cap, if_neg (by omega)] at hhealthy ⊢
  dsimp only at hhealthy ⊢
  split at hhealthy
  · exact absurd rfl hhealthy
  · rename_i hless
    rw [if_neg hless]
    omega

theorem space_eq_zero {p : StreamParser} {len : ℕ} (hlen : 0 < len) (h : p.space len = 0) :
    p.opts.buf_cap ≠ 0 ∧ p.opts.buf_cap ≤ p.write_pos := by
  rw [space] at h
  split at h
  · omega
  · split at h <;> omega

theorem length_append_bytes_le (data : Bytes) (p : StreamParser) :
    (p.append_bytes data).unread.length ≤ p.unread.length + data.length := by
  rw [append_bytes]
  split
  · omega
  · split
    · exact Nat.le_add_right _ _
    · exact Nat.le_of_eq List.length_append

theorem feed_turn_down {s s' : Bytes × StreamParser} (h : feed_turn s = .next s') :
    2 * s'.1.length + s'.2.unread.length < 2 * s.1.length + s.2.unread.length := by
  obtain ⟨data, p⟩ := s
  have hdrain := p.length_drain_le
  rcases data with _ | ⟨c, cs⟩
  · cases h
  have hpos : 0 < (c :: cs).length := Nat.succ_pos _
  rw [feed_turn] at h
  dsimp only at h
  split at h
  · rename_i hspace
    obtain ⟨hcap, hfull⟩ := space_eq_zero hpos hspace
    split at h
    · cases h
    · rename_i hhealthy
      have hshrinks := enforce_cap_shrinks hcap hfull hhealthy
      dsimp only [buffered, compact] at hshrinks
      split at h
      · cases h
      · cases h
        dsimp only [compact]
        omega
  · rename_i hspace
    cases h
    have happend := length_append_bytes_le
      ((c :: cs).take (min (c :: cs).length (p.drain.compact.space (c :: cs).length)))
        p.drain.compact
    have hkept : p.drain.compact.unread.length = p.drain.unread.length := rfl
    rw [List.length_take] at happend
    simp only [List.length_drop]
    omega

theorem feed_loop_succ (fuel : ℕ) (data : Bytes) (p : StreamParser) :
    feed_loop (fuel + 1) data p =
      match feed_turn (data, p) with
      | .next s => feed_loop fuel s.1 s.2
      | .leave q => q := by
  rcases data with _ | ⟨c, cs⟩
  · rw [feed_loop]
    rfl
  rw [feed_loop, feed_turn]
  dsimp only
  split
  · split
    · rfl
    · split <;> rfl
  · rfl

/-- What `feed` returns: nothing is done for no input and by a parser that has failed. -/
def FeedReturns (data : Bytes) (p q : StreamParser) : Prop :=
  if data.length = 0 ∨ p.healthy = false then q = p else Returns feed_turn (data, p) q

/-- **`feed` returns**, for every input. -/
theorem feed_returns (data : Bytes) (p : StreamParser) : FeedReturns data p (p.feed data) := by
  rw [FeedReturns, feed]
  by_cases hempty : data.length = 0
  · rw [if_pos (Or.inl hempty), if_pos hempty]
  by_cases hfailed : p.healthy = false
  · rw [if_pos (Or.inr hfailed), if_neg hempty, if_pos hfailed]
  rw [if_neg (by tauto), if_neg hempty, if_neg hfailed]
  refine Returns.of_fuel (fun _ => True)
    (fun s : Bytes × StreamParser => 2 * s.1.length + s.2.unread.length)
    (fun fuel s => feed_loop fuel s.1 s.2) ?_ ?_ ?_ ?_ trivial (Nat.le_succ _)
  · exact fun _ _ => trivial
  · exact fun _ hturn => feed_turn_down hturn
  · rintro ⟨data, p⟩ s' fuel - hturn
    dsimp only
    rw [feed_loop_succ, hturn]
  · rintro ⟨data, p⟩ q fuel - hfuel hturn
    cases fuel with
    | succ fuel =>
      dsimp only
      rw [feed_loop_succ, hturn]
    | zero =>
      rcases data with _ | ⟨c, cs⟩
      · exact Turn.leave.inj hturn
      · rw [List.length_cons] at hfuel
        omega

/-- **The parse loop always progresses, so it ends**, whatever is in the buffer and
whatever the options are. -/
theorem parse_loop_terminates (p : StreamParser) :
    (p.try_parse_one.2 = .Message ∨ p.try_parse_one.2 = .Error →
      p.read_pos < p.try_parse_one.1.read_pos ∧ p.try_parse_one.1.read_pos ≤ p.write_pos) ∧
      (p.try_parse_one.2 = .NeedMore →
        p.try_parse_one.1.read_pos = p.read_pos ∧ p.try_parse_one.1.consumed = p.consumed ∧
          p.try_parse_one.1.pending = p.pending) ∧
      Returns drain_turn p p.drain ∧
      ∀ data, FeedReturns data p (p.feed data) := by
  refine ⟨?_, ?_, p.drain_returns, fun data => feed_returns data p⟩
  · intro hstatus
    have hmoved : p.try_parse_one.2 ≠ .NeedMore := by
      rcases hstatus with hstatus | hstatus <;> rw [hstatus] <;> exact ParseStatus.noConfusion
    obtain ⟨hread, hwrite⟩ := try_parse_one_advances hmoved
    refine ⟨hread, ?_⟩
    rw [← hwrite]
    exact Nat.le_add_right _ _
  · intro hstatus
    obtain ⟨hread, hobs⟩ := try_parse_one_needMore hstatus
    exact ⟨hread, congrArg Obs.consumed hobs, congrArg Obs.pending hobs⟩

/-- A buffer that does not start with a frame, and one that starts with a part of one. -/
theorem parse_loop_terminates_garbage :
    ((try_parse_one { unread := ascii "garbage 8=" }).2 = .Error ∧
        (try_parse_one { unread := ascii "8=FIX" }).2 = .NeedMore) ∧
      0 < (try_parse_one { unread := ascii "garbage 8=" }).1.read_pos ∧
      (try_parse_one { unread := ascii "8=FIX" }).1.read_pos = 0 := by
  have hgarbage : (try_parse_one { unread := ascii "garbage 8=" }).2 = .Error := by decide
  have hpart : (try_parse_one { unread := ascii "8=FIX" }).2 = .NeedMore := by decide
  exact ⟨⟨hgarbage, hpart⟩,
    ((parse_loop_terminates { unread := ascii "garbage 8=" }).1 (Or.inr hgarbage)).1,
    ((parse_loop_terminates { unread := ascii "8=FIX" }).2.1 hpart).1⟩

end StreamParser

end FixEngine
