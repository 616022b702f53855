/-
`StreamParser`: from a byte stream to messages.

Translated from `include/fix/parser/parser.hpp` and `src/parser/parser.cpp`. The
parser's buffer is a vector with a read and a write position. Bytes below the
read position are never looked at again, so the state keeps the unread bytes
`unread` and the read position; `write_pos` is their sum, which makes
`read_pos ≤ write_pos` hold by construction. The `resize`/`reserve` calls of
`append_bytes` have no effect on either. In the same way `pending` is the part of
the vector `pending_` from `pending_pos_` on.

`scan_frame` is the decision part of `try_parse_one`: what the bytes at the read
position are, with the exit taken when they are not a frame. The effects of each
exit (advance, resync, count, set `last_error_`) are in `try_parse_one`. The
`while` loops run on fuel; `body_loop_returns`, `drain_returns` and `feed_returns`
show that the fuel given always suffices.

`consumed_`, `msg_count_` and `resync_count_` are 64-bit counters; they are `ℕ`
here, so a wrap-around after 2^64 bytes is not modelled.
-/
import FixEngine.Serializer

set_option autoImplicit false

namespace FixEngine

open FixEngine.Decimal

/-! ## Options and constants -/

/-- `struct StreamParserOptions`; `max_msg_len` is a `std::size_t`. -/
structure StreamParserOptions : Type where
  validate_checksum : Bool := true
  validate_body_len : Bool := true
  max_msg_len : ℕ := 2 ^ 20
  max_msg_len_lt : max_msg_len < 2 ^ 64 := by decide
  deriving DecidableEq

/-- `kMinMsgLen`: shortest viable FIX frame. -/
abbrev kMinMsgLen : ℕ := 20
/-- `kTrailerBytes`: `"10=NNN\x01"`. -/
abbrev kTrailerBytes : ℕ := 7
/-- `kKeepTail`: kept when a resync finds no `"8="`. -/
abbrev kKeepTail : ℕ := 7
/-- `kMaxHeaderScan`: bound on the tag-8 and tag-9 field scans. -/
abbrev kMaxHeaderScan : ℕ := 64
/-- `kBacklogSlack`. -/
abbrev kBacklogSlack : ℕ := 4096

/-- `buf_cap_` as the constructor computes it: `std::size_t` arithmetic, so the
sum wraps. -/
def StreamParserOptions.buf_cap (opts : StreamParserOptions) : ℕ :=
  if opts.max_msg_len > 0 then (opts.max_msg_len + kBacklogSlack) % 2 ^ 64 else 0

/-- `kStandardHeaderTags`. -/
def kStandardHeaderTags : List TagNum :=
  [tags.BeginString, tags.BodyLength, tags.MsgType, tags.SenderCompID, tags.SenderSubID,
    tags.SenderLocationID, tags.TargetCompID, tags.TargetSubID, tags.TargetLocationID,
    tags.OnBehalfOfCompID, 144, tags.DeliverToCompID, 145, tags.SecureDataLen, tags.SecureData,
    tags.MsgSeqNum, tags.PossDupFlag, tags.PossResend, tags.OrigSendingTime, tags.SendingTime,
    tags.XmlDataLen, tags.XmlData, tags.MessageEncoding, tags.LastMsgSeqNumProcessed,
    tags.NoHops, tags.ApplVerID, tags.CstmApplVerID]

/-- `is_standard_header_tag`. -/
def is_standard_header_tag (tag : TagNum) : Bool := kStandardHeaderTags.contains tag

/-- `HeaderSeen::check_and_mark`: was `tag` there already, and the set with it. The
array has room for the whole whitelist, so its overflow abort is unreachable
(`HeaderSeen.Distinct.room`). -/
def check_and_mark (seen : List TagNum) (tag : TagNum) : Bool × List TagNum :=
  if seen.contains tag then (true, seen) else (false, seen ++ [tag])

/-! ## One field -/

/-- `enum class FieldStatus` with the out-parameters of `parse_field`. -/
inductive FieldStatus : Type where
  | Ok (tag : TagNum) (value : Bytes) (consumed : ℕ)
  | Incomplete
  | Invalid
  deriving DecidableEq, Repr

/-- `StreamParser::parse_field` on `[data, data + len)`. -/
def parse_field (data : Bytes) : FieldStatus :=
  let before := data.takeWhile (fun c => c != EQ && c != SOH)
  match data.dropWhile (fun c => c != EQ && c != SOH) with
  | [] => .Incomplete
  | c :: rest =>
    if c = SOH then .Invalid
    else
      -- an empty tag is rejected by `from_chars` as well
      match parse_unsigned (2 ^ 32) before with
      | none => .Invalid
      | some t =>
        let value := rest.takeWhile (fun c => c != SOH)
        match rest.dropWhile (fun c => c != SOH) with
        | [] => .Incomplete
        | _ :: _ => .Ok (UInt32.ofNat t) value (before.length + 1 + value.length + 1)

/-- `StreamParser::parse_checksum`: exactly three digits, at most 255. -/
def parse_checksum (sv : Bytes) : Option ℕ :=
  if sv.length = 3 ∧ sv.all is_digit = true then
    match parse_unsigned (2 ^ 32) sv with
    | some out => if out > 255 then none else some out
    | none => none
  else none

/-! ## One frame -/

/-- Why `try_parse_one` did not deliver: it waits for more bytes (and may have
set an error), it resyncs, or it skips `n` bytes with an error. -/
inductive Refusal : Type where
  | need_more (err : Option ErrorCode)
  | resync
  | skip (n : ℕ) (err : ErrorCode)
  deriving DecidableEq, Repr

/-- Stages 2 and 3 of `try_parse_one`: the header field `expected` at `pos`. On an
error `on_error` bytes are skipped. -/
def header_field (base : Bytes) (pos : ℕ) (expected : TagNum) (on_error : ℕ)
    (mismatch : ErrorCode) : Except Refusal (Bytes × ℕ) :=
  match parse_field ((base.drop pos).take kMaxHeaderScan) with
  | .Incomplete =>
    if base.length - pos < kMaxHeaderScan then .error (.need_more none)
    else .error (.skip on_error .ParseError)
  | .Invalid => .error (.skip on_error mismatch)
  | .Ok tag value field_len =>
    if tag = expected then .ok (value, field_len) else .error (.skip on_error mismatch)

/-- Stage 2: BeginString. -/
def begin_string_field (base : Bytes) : Except Refusal (Bytes × ℕ) :=
  header_field base 0 tags.BeginString 1 .InvalidField

/-- Stage 3: BodyLength. -/
def body_length_field (base : Bytes) (pos : ℕ) : Except Refusal (Bytes × ℕ) :=
  header_field base pos tags.BodyLength pos .BadLength

/-- Stage 4: the end of the frame, or the way out when the claimed length is over
`max_msg_len` (or overflows `std::size_t`). -/
def frame_end_of (opts : StreamParserOptions) (avail body_start body_length : ℕ) :
    Except Refusal ℕ :=
  let frame_end_ok := body_length ≤ 2 ^ 64 - 1 - (body_start + 7)
  let frame_end := if frame_end_ok then body_start + body_length + 7 else 2 ^ 64 - 1
  let overhead := body_start + 7
  let oversized := ¬ frame_end_ok ∨
    (opts.max_msg_len > 0 ∧
      (overhead > opts.max_msg_len ∨ body_length > opts.max_msg_len - overhead))
  if oversized then
    if frame_end ≤ opts.buf_cap ∧ avail < frame_end then .error (.need_more (some .BadLength))
    else if avail ≥ frame_end ∧ frame_end ≥ body_start then
      .error (.skip frame_end .BadLength)
    else .error (.skip body_start .BadLength)
  else .ok frame_end

/-- Stage 6: the body loop, on the bytes `rem` left before `body_end`. The
`last_error_ = dup_err` of a duplicate is overwritten on every way out. -/
def parse_body : ℕ → ℕ → Bytes → Message → List TagNum → Bool → Except Refusal (Message × Bool)
  | _, _, [], msg, _, duplicate_header => .ok (msg, duplicate_header)
  | 0, _, _ :: _, _, _, _ => .error (.need_more none)
  | fuel + 1, body_end, c :: cs, msg, seen, duplicate_header =>
    let rem := c :: cs
    let pos := body_end - rem.length
    match parse_field rem with
    | .Incomplete => .error (.skip body_end .BadLength)
    | .Invalid => .error (.skip pos .InvalidField)
    | .Ok tag value field_len =>
      if tag = tags.CheckSum then .error (.skip pos .ParseError)
      else if is_standard_header_tag tag ∧ (check_and_mark seen tag).1 = true then
        parse_body fuel body_end (rem.drop field_len) msg seen true
      else
        match msg.add tag value with
        | .error _ => .error (.skip pos .InvalidField)
        | .ok msg =>
          let seen := if is_standard_header_tag tag then (check_and_mark seen tag).2 else seen
          parse_body fuel body_end (rem.drop field_len) msg seen duplicate_header

/-- Stage 7: the trailer right behind the body, as its stated checksum. -/
def parse_trailer (base : Bytes) (body_end : ℕ) : Except Refusal ℕ :=
  match parse_field ((base.drop body_end).take kTrailerBytes) with
  | .Ok tag value field_len =>
    if tag = tags.CheckSum then
      match parse_checksum value with
      | none => .error (.skip body_end .BadChecksum)
      | some provided =>
        if field_len = kTrailerBytes then .ok provided
        else .error (.skip body_end .ParseError)
    else .error (.skip body_end .ParseError)
  | _ => .error (.skip body_end .ParseError)

/-- Stages 5 to 8, once the header gave the bounds of the frame. -/
def parse_frame (opts : StreamParserOptions) (base begin_value : Bytes)
    (body_start body_length frame_end : ℕ) : Except Refusal (Message × ℕ) := do
  if base.length < frame_end then throw (.need_more none)
  let body_end := body_start + body_length
  match ({} : Message).add tags.BeginString begin_value with
  | .error _ => throw (.skip body_start .InvalidField)
  | .ok msg =>
    match msg.add tags.BodyLength (to_chars_int (to_i64 body_length)) with
    | .error _ => throw (.skip body_start .InvalidField)
    | .ok msg =>
      let (msg, duplicate_header) ← parse_body body_length body_end
        ((base.drop body_start).take body_length) msg [tags.BeginString, tags.BodyLength] false
      let provided ← parse_trailer base body_end
      let pos := body_end + kTrailerBytes
      if opts.validate_checksum = true ∧
          compute_checksum (base.take (pos - kTrailerBytes)) ≠ UInt8.ofNat provided then
        throw (.skip pos .BadChecksum)
      if opts.validate_body_len = true ∧ body_end - body_start ≠ body_length then
        throw (.skip pos .BadLength)
      pure ({ msg with raw := base.take pos, duplicate_header := duplicate_header }, pos)

/-- The decision `try_parse_one` takes on the unread bytes. -/
def scan_frame (opts : StreamParserOptions) (base : Bytes) : Except Refusal (Message × ℕ) := do
  if base.length < 2 then throw (.need_more none)
  if base.take 2 ≠ ascii "8=" then throw .resync
  if base.length < kMinMsgLen then throw (.need_more none)
  let (begin_value, pos) ← begin_string_field base
  let (value, field_len) ← body_length_field base pos
  let body_start := pos + field_len
  match parse_unsigned (2 ^ 64) value with
  | none => throw (.skip body_start .BadLength)
  | some body_length =>
    let frame_end ← frame_end_of opts base.length body_start body_length
    parse_frame opts base begin_value body_start body_length frame_end

/-! ## The parser object -/

/-- `class StreamParser`. -/
structure StreamParser : Type where
  opts : StreamParserOptions := {}
  unread : Bytes := []
  read_pos : ℕ := 0
  consumed : ℕ := 0
  msg_count : ℕ := 0
  resync_count : ℕ := 0
  last_error : Option ErrorCode := none
  healthy : Bool := true
  pending : List Message := []
  deriving DecidableEq

/-- `enum class ParseStatus`. -/
inductive ParseStatus : Type where
  | Message | Error | NeedMore
  deriving DecidableEq, Repr

/-- Offset of the first `"8="` in a window. -/
def find_frame_start : Bytes → Option ℕ
  | a :: b :: rest =>
    if a = 56 ∧ b = EQ then some 0 else (find_frame_start (b :: rest)).map (· + 1)
  | _ => none

/-- How many bytes `resync_scan` discards. -/
def resync_len (opts : StreamParserOptions) (base : Bytes) : ℕ :=
  let avail := base.length
  if avail < 2 then 0
  else
    let window := if opts.max_msg_len > 0 then min avail opts.max_msg_len else avail
    (find_frame_start (base.take window)).getD (avail - min avail kKeepTail)

namespace StreamParser

/-- `write_pos_`. -/
def write_pos (p : StreamParser) : ℕ := p.read_pos + p.unread.length

/-- `StreamParser::buffered`. -/
def buffered (p : StreamParser) : ℕ := p.unread.length

/-- `read_pos_ += n; consumed_ += n`. -/
def advance (n : ℕ) (p : StreamParser) : StreamParser :=
  { p with unread := p.unread.drop n, read_pos := p.read_pos + n, consumed := p.consumed + n }

/-- `StreamParser::resync_scan`; the number of bytes dropped is `resync_len`. -/
def resync_scan (err : ErrorCode) (p : StreamParser) : StreamParser :=
  let discard := resync_len p.opts p.unread
  if discard = 0 then p
  else { p.advance discard with resync_count := p.resync_count + 1, last_error := some err }

/-- `StreamParser::skip_frame`. -/
def skip_frame (n : ℕ) (err : ErrorCode) (p : StreamParser) : StreamParser :=
  resync_scan err { p.advance (min (max n 1) p.unread.length) with last_error := some err }

/-- `StreamParser::try_parse_one`. -/
def try_parse_one (p : StreamParser) : StreamParser × ParseStatus :=
  match scan_frame p.opts p.unread with
  | .ok (msg, n) =>
    ({ p.advance n with
        pending := p.pending ++ [msg]
        msg_count := p.msg_count + 1
        last_error := if msg.duplicate_header then some .DuplicateField else none }, .Message)
  | .error (.need_more none) => (p, .NeedMore)
  | .error (.need_more (some err)) => ({ p with last_error := some err }, .NeedMore)
  | .error .resync =>
    (resync_scan .ParseError p, if resync_len p.opts p.unread > 0 then .Error else .NeedMore)
  | .error (.skip n err) => (skip_frame n err p, .Error)

/-- The loop of `StreamParser::drain`, on fuel. -/
def drain_loop : ℕ → StreamParser → StreamParser
  | 0, p => p
  | fuel + 1, p =>
    match try_parse_one p with
    | (p', .NeedMore) => p'
    | (p', _) => drain_loop fuel p'

/-- `StreamParser::drain`; every turn that is not the last consumes a byte. -/
def drain (p : StreamParser) : StreamParser := drain_loop (p.unread.length + 1) p

/-- `StreamParser::compact`. -/
def compact (p : StreamParser) : StreamParser := { p with read_pos := 0 }

/-- `StreamParser::append_bytes`. -/
def append_bytes (data : Bytes) (p : StreamParser) : StreamParser :=
  if data.length = 0 then p
  else if (p.write_pos + data.length) % 2 ^ 64 < p.write_pos then
    { p with healthy := false, last_error := some .BadLength }
  else { p with unread := p.unread ++ data }

/-- `if (!last_error_) last_error_ = make_error_code(ErrorCode::ParseError)`. -/
def default_error (p : StreamParser) : Option ErrorCode := p.last_error.or (some .ParseError)

/-- `StreamParser::enforce_cap`. -/
def enforce_cap (p : StreamParser) : StreamParser :=
  if p.opts.buf_cap = 0 ∨ p.write_pos < p.opts.buf_cap then p
  else
    let before := p.buffered
    let p := (drain (compact (resync_scan .ParseError p))).compact
    if p.buffered ≥ before then
      { p with
        healthy := false
        last_error := p.default_error
        consumed := p.consumed + p.unread.length
        unread := []
        read_pos := 0 }
    else p

/-- Room left under the backlog cap for `len` bytes. -/
def space (p : StreamParser) (len : ℕ) : ℕ :=
  if p.opts.buf_cap = 0 then len
  else if p.write_pos < p.opts.buf_cap then p.opts.buf_cap - p.write_pos else 0

/-- The loop of `StreamParser::feed` with the `drain` behind it, on fuel. -/
def feed_loop : ℕ → Bytes → StreamParser → StreamParser
  | _, [], p => drain p
  | 0, _ :: _, p => p
  | fuel + 1, c :: cs, p =>
    let data := c :: cs
    let p := (drain p).compact
    if p.space data.length = 0 then
      let before := p.buffered
      let p := enforce_cap p
      if p.healthy = false then p
      else if p.buffered ≥ before ∧ p.write_pos ≥ p.opts.buf_cap then
        { p with healthy := false, last_error := p.default_error }
      else feed_loop fuel data p
    else
      let n := min data.length (p.space data.length)
      feed_loop fuel (data.drop n) (append_bytes (data.take n) p)

/-- `StreamParser::feed`. -/
def feed (data : Bytes) (p : StreamParser) : StreamParser :=
  if data.length = 0 then p
  else if p.healthy = false then p
  else feed_loop (2 * data.length + p.unread.length + 1) data p

/-- `StreamParser::next`: the oldest pending message, if any. -/
def next (p : StreamParser) : StreamParser × Option Message :=
  match p.pending with
  | [] => (p, none)
  | out :: pending => ({ p with pending := pending }, some out)

/-- `StreamParser::reset`. -/
def reset (p : StreamParser) : StreamParser := { opts := p.opts }

/-- `StreamParser(Options)`. -/
def create (opts : StreamParserOptions) : StreamParser := { opts := opts }

end StreamParser

end FixEngine
