/-
`Builder.lean` -- the message builder under any sequence of calls.

A value with a NUL or an SOH would break up a frame into other fields than those
the caller added. The builder refuses it and remembers the refusal: until the next
`begin()` every `add()` fails and `finish()` returns nothing. Here a caller is any
list of `begin()` and `add()` calls, and `asked` is what they ask for since the last
`begin()`. The builder holds exactly that, or an error; so a frame that leaves it,
cut at the SOH bytes, is what was asked for between the BeginString, the BodyLength
and the CheckSum, and the same is true of `try_serialize()`.
-/
import FixEngine.Readback

set_option autoImplicit false

namespace FixEngine

open Decimal

/-! ## Fields on the wire -/

/-- `tag=value`, without the delimiter. -/
def field_text (f : Field) : Bytes := to_chars f.tag.toNat ++ EQ :: f.value

theorem field_bytes_eq (f : Field) : field_bytes f = field_text f ++ [SOH] := by
  simp [field_bytes, field_text]

theorem soh_not_mem_to_chars (n : ℕ) : SOH ∉ to_chars n := fun h =>
  absurd (is_digit_of_mem_to_chars h) (by decide)

theorem soh_not_mem_field_text {f : Field} (h : clean f.value = true) : SOH ∉ field_text f := by
  simp only [field_text, List.mem_append, List.mem_cons, not_or]
  exact ⟨soh_not_mem_to_chars _, by decide, (clean_iff.mp h).2⟩

/-- **Clean fields are read back by cutting at the SOH bytes.** -/
theorem splitOn_encode_fields {fs : List Field} (h : ∀ f ∈ fs, clean f.value = true) :
    (encode_fields fs).splitOn SOH = fs.map field_text ++ [[]] := by
  induction fs with
  | nil => rfl
  | cons f fs ih =>
    have hcut : ∀ c ∈ field_text f, (c == SOH) = false := by
      intro c hc
      rw [beq_eq_false_iff_ne]
      rintro rfl
      exact soh_not_mem_field_text (h f List.mem_cons_self) hc
    rw [encode_fields_cons, field_bytes_eq, List.append_assoc, List.singleton_append, List.splitOn,
      List.splitOnP_append_cons_of_forall_mem hcut _ (beq_self_eq_true SOH), List.map_cons,
      List.cons_append]
    exact congrArg _ (ih fun g hg => h g (List.mem_cons_of_mem _ hg))

/-- The fields of the frame around `fs`. -/
def frame_fields (begin_string : Bytes) (fs : List Field) : List Field :=
  [⟨tags.BeginString, begin_string⟩, ⟨tags.BodyLength, to_chars (encode_fields fs).length⟩] ++ fs ++
    [⟨tags.CheckSum, zero_pad 3
      (compute_checksum (MessageBuilder.pre_cs begin_string (encode_fields fs))).toNat⟩]

theorem build_eq_encode_fields (begin_string : Bytes) (fs : List Field) :
    MessageBuilder.build begin_string (encode_fields fs) =
    encode_fields (frame_fields begin_string fs) := by
  have h8 : to_chars (tags.BeginString : TagNum).toNat ++ [EQ] = ascii "8=" := by decide
  have h9 : to_chars (tags.BodyLength : TagNum).toNat ++ [EQ] = ascii "9=" := by decide
  have h10 : to_chars (tags.CheckSum : TagNum).toNat ++ [EQ] = ascii "10=" := by decide
  have hfield : ∀ f : Field, field_bytes f = to_chars f.tag.toNat ++ [EQ] ++ f.value ++ [SOH] := by
    intro f
    simp [field_bytes]
  simp only [frame_fields, encode_fields_append, encode_fields_cons, encode_fields_nil, hfield,
    h8, h9, h10, MessageBuilder.build, MessageBuilder.pre_cs, List.append_assoc, List.append_nil]

theorem splitOn_build {begin_string : Bytes} {fs : List Field} (hbegin : clean begin_string = true)
    (hfs : ∀ f ∈ fs, clean f.value = true) :
    (MessageBuilder.build begin_string (encode_fields fs)).splitOn SOH =
      (frame_fields begin_string fs).map field_text ++ [[]] := by
  rw [build_eq_encode_fields]
  apply splitOn_encode_fields
  intro f hf
  simp only [frame_fields, List.mem_append, List.mem_cons, List.not_mem_nil, or_false] at hf
  rcases hf with ((rfl | rfl) | hf) | rfl
  · exact hbegin
  · exact clean_to_chars_int (.ofNat _)
  · exact hfs f hf
  · exact clean_zero_pad _ _

namespace MessageBuilder

/-! ## Calls -/

/-- A call of `begin()` or of `add()` with a string or an integer. -/
inductive BuilderCall where
  | begin_ (begin_string msg_type : Bytes)
  | add (tag : TagNum) (value : Bytes)
  | add_int (tag : TagNum) (value : ℤ)
  deriving DecidableEq

namespace BuilderCall

def prog : BuilderCall → Build Unit
  | .begin_ begin_string msg_type => MessageBuilder.begin_ begin_string msg_type
  | .add tag value => MessageBuilder.add tag value
  | .add_int tag value => MessageBuilder.add_int tag value

def is_add : BuilderCall → Bool
  | .begin_ _ _ => false
  | _ => true

/-- What the call returns. -/
def result (call : BuilderCall) (b : MessageBuilder) : Result Unit := (call.prog.run b).1

/-- The builder after the call, whether it succeeds or not. -/
def step (b : MessageBuilder) (call : BuilderCall) : MessageBuilder := (call.prog.run b).2

/-- The field that the call adds. -/
def field : BuilderCall → Field
  | .begin_ _ msg_type => ⟨tags.MsgType, msg_type⟩
  | .add tag value => ⟨tag, value⟩
  | .add_int tag value => ⟨tag, to_chars_int value⟩

theorem prog_of_is_add {call : BuilderCall} (h : call.is_add = true) :
    call.prog = MessageBuilder.add call.field.tag call.field.value := by
  cases call with
  | begin_ begin_string msg_type => exact absurd h Bool.false_ne_true
  | add tag value => rfl
  | add_int tag value => rfl

end BuilderCall

open BuilderCall

/-- The builder after the calls. -/
def run_calls (b : MessageBuilder) (calls : List BuilderCall) : MessageBuilder := calls.foldl step b

/-- The BeginString and the fields asked for since the last `begin()`. -/
def asked (calls : List BuilderCall) : Bytes × List Field :=
  calls.foldl (fun a call =>
    match call with
    | .begin_ begin_string msg_type => (begin_string, [⟨tags.MsgType, msg_type⟩])
    | call => (a.1, a.2 ++ [call.field])) ([], [])

/-! ## The latched error -/

theorem run_add_latched {call : BuilderCall} (hadd : call.is_add = true) {b : MessageBuilder}
    {e : ErrorCode} (h : b.last_error = some e) : call.prog.run b = (.error e, b) := by
  rw [prog_of_is_add hadd]
  unfold MessageBuilder.add append_field
  rw [run_bind]
  have hget : (get : Build MessageBuilder).run b = (.ok b, b) := rfl
  rw [hget]
  simp only [h]
  rfl

theorem run_calls_latched {later : List BuilderCall} (hadds : ∀ c ∈ later, c.is_add = true)
    {b : MessageBuilder} {e : ErrorCode} (h : b.last_error = some e) : run_calls b later = b := by
  induction later with
  | nil => rfl
  | cons call later ih =>
    have hstep : step b call = b :=
      congrArg Prod.snd (run_add_latched (hadds call List.mem_cons_self) h)
    rw [run_calls, List.foldl_cons, hstep]
    exact ih fun c hc => hadds c (List.mem_cons_of_mem _ hc)

theorem latched_of_rejected {call : BuilderCall} (hadd : call.is_add = true) {b : MessageBuilder}
    {e : ErrorCode} (h : call.result b = .error e) : (step b call).last_error = some e ∧
    (step b call).body = b.body := by
  rcases hb : b.last_error with _ | e'
  · have hrun := add_run call.field b hb
    rw [BuilderCall.result, prog_of_is_add hadd, hrun] at h
    rw [step, prog_of_is_add hadd, hrun]
    by_cases hclean : clean call.field.value = true
    · rw [if_pos hclean] at h
      simp at h
    · rw [if_neg hclean] at h ⊢
      injection h with h
      exact ⟨congrArg some h, rfl⟩
  · have hrun := run_add_latched hadd hb
    rw [BuilderCall.result, hrun] at h
    injection h with h
    rw [step, hrun, ← h]
    exact ⟨hb, rfl⟩

/-! ## What the builder holds -/

theorem begin_rejected {begin_string msg_type : Bytes}
    (h : ¬(clean begin_string && clean msg_type) = true) (b : MessageBuilder) :
    (begin_ begin_string msg_type).run b =
    (.error .InvalidField, { last_error := some .InvalidField }) := by
  have hinvalid :
      (has_invalid_wire_chars begin_string || has_invalid_wire_chars msg_type) = true := by
    rw [clean, clean, ← Bool.not_or, Bool.not_eq_true', Bool.not_eq_false] at h
    exact h
  unfold begin_
  simp only [hinvalid, if_true]
  rfl

/-- **The builder holds what was asked for, or an error.** -/
theorem run_calls_asked (calls : List BuilderCall) :
    if clean (asked calls).1 && (asked calls).2.all (fun f => clean f.value) then
      run_calls {} calls = ⟨(asked calls).1, encode_fields (asked calls).2, none⟩
    else (run_calls {} calls).last_error.isSome := by
  -- the last call decides, given what the ones before it left
  induction calls using List.reverseRecOn with
  | nil => rfl
  | append_singleton calls call ih =>
    have hrun : run_calls {} (calls ++ [call]) = step (run_calls {} calls) call := by
      rw [run_calls, List.foldl_append]
      rfl
    cases hcall : call.is_add with
    | false =>
      cases call with
      | add tag value => cases hcall
      | add_int tag value => cases hcall
      | begin_ begin_string msg_type =>
        have hasked : asked (calls ++ [.begin_ begin_string msg_type]) =
            (begin_string, [⟨tags.MsgType, msg_type⟩]) := by
          rw [asked, List.foldl_append]
          rfl
        have hbegin := begin_run begin_string msg_type (run_calls {} calls)
        rw [hasked, hrun]
        simp only [List.all_cons, List.all_nil, Bool.and_true]
        split_ifs with hclean
        · rw [if_pos hclean] at hbegin
          rw [step, prog, hbegin, encode_fields_cons, encode_fields_nil, List.append_nil]
        · rw [step, prog, begin_rejected hclean]
          rfl
    | true =>
      have hasked : asked (calls ++ [call]) =
          ((asked calls).1, (asked calls).2 ++ [call.field]) := by
        rw [asked, List.foldl_append]
        cases call with
        | begin_ begin_string msg_type => exact absurd hcall Bool.false_ne_true
        | add tag value => rfl
        | add_int tag value => rfl
      rw [hasked, hrun]
      simp only [List.all_append, List.all_cons, List.all_nil, Bool.and_true, ← Bool.and_assoc]
      by_cases hbefore :
        (clean (asked calls).1 && (asked calls).2.all fun f => clean f.value) = true
      · rw [if_pos hbefore] at ih
        rw [hbefore, Bool.true_and, step, prog_of_is_add hcall, ih, add_run call.field _ rfl]
        split_ifs with hclean
        · rw [encode_fields_append, encode_fields_cons, encode_fields_nil, List.append_nil]
        · rfl
      · rw [if_neg hbefore] at ih
        obtain ⟨e, he⟩ := Option.isSome_iff_exists.mp ih
        rw [if_neg (fun hall => hbefore (Bool.and_eq_true_iff.mp hall).1), step,
          run_add_latched hcall he]
        exact ih

theorem finish_run_calls (calls : List BuilderCall) :
    (run_calls {} calls).finish =
      if clean (asked calls).1 && (asked calls).2.all (fun f => clean f.value) then
        build (asked calls).1 (encode_fields (asked calls).2)
      else [] := by
  have hrun := run_calls_asked calls
  split_ifs at hrun ⊢ with hclean
  · rw [hrun]
    rfl
  · obtain ⟨e, he⟩ := Option.isSome_iff_exists.mp hrun
    rw [finish, he]

/-! ## No injection -/

/-- A value that would break up a frame. -/
def Breaks (value : Bytes) : Prop := 0 ∈ value ∨ SOH ∈ value

theorem not_clean_iff {value : Bytes} : ¬clean value = true ↔ Breaks value := by
  rw [clean_iff, Breaks]
  exact not_and_or.trans (or_congr not_not not_not)

/-- A value that `try_serialize()` puts on the wire is not fit for it. -/
def Unfit (msg : Message) (begin_string sender target sending_time : Bytes) : Prop :=
  Breaks begin_string ∨ Breaks msg.msg_type ∨ Breaks sender ∨ Breaks target ∨ Breaks sending_time ∨
    (∃ value, msg.get tags.PossDupFlag = some value ∧ Breaks value) ∨
    (∃ value, msg.get tags.OrigSendingTime = some value ∧ Breaks value) ∨
    ∃ f ∈ msg.fields, skipped f.tag = false ∧ Breaks f.value

theorem all_toList_iff (o : Option Bytes) (tag : TagNum) :
    ((o.map (Field.mk tag)).toList.all fun f => clean f.value) = true ↔
    ¬∃ value, o = some value ∧ Breaks value := by
  rcases o with _ | value
  · simp
  · simp only [Option.map_some, Option.toList_some, List.all_cons, List.all_nil, Bool.and_true,
      Option.some.injEq, exists_eq_left', ← not_clean_iff, not_not]

theorem all_clean_iff_not_unfit (msg : Message) (begin_string : Bytes) (seq_num : ℕ)
    (sender target sending_time : Bytes) :
    (clean begin_string &&
    (emitted_fields msg seq_num sender target sending_time).all fun f => clean f.value) = true ↔
      ¬Unfit msg begin_string sender target sending_time := by
  have hbody : ((msg.fields.filter fun f => !skipped f.tag).all fun f => clean f.value) = true ↔
      ¬∃ f ∈ msg.fields, skipped f.tag = false ∧ Breaks f.value := by
    simp only [List.all_eq_true, List.mem_filter, Bool.not_eq_true', ← not_clean_iff, not_exists,
      not_and, not_not, and_imp]
  simp only [emitted_fields, List.all_append, Bool.and_eq_true, all_toList_iff, hbody,
    List.all_cons, List.all_nil, clean_to_chars_int, and_true, Unfit, not_or,
    ← not_clean_iff, not_not]
  tauto

/-- **No field injection through the builder.** -/
theorem no_field_injection :
    (∀ (b : MessageBuilder) (msg : Message) (begin_string : Bytes) (seq_num : ℕ)
      (sender target sending_time : Bytes),
      (((try_serialize msg begin_string seq_num sender target sending_time).run b).1 =
      .error .InvalidField ↔
        Unfit msg begin_string sender target sending_time) ∧
      (¬Unfit msg begin_string sender target sending_time →
        ∃ frame,
        ((try_serialize msg begin_string seq_num sender target sending_time).run b).1 = .ok frame ∧
          frame.splitOn SOH = (frame_fields begin_string
            (emitted_fields msg seq_num sender target sending_time)).map field_text ++ [[]])) ∧
    (∀ (before : List BuilderCall) (call : BuilderCall) (later : List BuilderCall)
      (next : BuilderCall) (e : ErrorCode),
      call.is_add = true → call.result (run_calls {} before) = .error e →
      (∀ c ∈ later, c.is_add = true) →
      next.is_add = true →
        next.result (run_calls {} (before ++ call :: later)) = .error e ∧
        (step (run_calls {} (before ++ call :: later)) next).body = (run_calls {} before).body ∧
        (run_calls {} (before ++ call :: later)).finish = []) ∧
    ∀ calls : List BuilderCall, (run_calls {} calls).finish ≠ [] →
      (run_calls {} calls).finish.splitOn SOH =
        (frame_fields (asked calls).1 (asked calls).2).map field_text ++ [[]] := by
  refine ⟨?_, ?_, ?_⟩
  · intro b msg begin_string seq_num sender target sending_time
    have hrun := try_serialize_run msg begin_string seq_num sender target sending_time b
    have hfit := all_clean_iff_not_unfit msg begin_string seq_num sender target sending_time
    by_cases hclean : (clean begin_string &&
        (emitted_fields msg seq_num sender target sending_time).all fun f => clean f.value) = true
    · rw [if_pos hclean] at hrun
      rw [hrun]
      refine ⟨iff_of_false (by simp) (hfit.mp hclean), fun _ => ⟨_, rfl, ?_⟩⟩
      obtain ⟨hbegin, hall⟩ := Bool.and_eq_true_iff.mp hclean
      exact splitOn_build hbegin (List.all_eq_true.mp hall)
    · rw [if_neg hclean] at hrun
      have hunfit : Unfit msg begin_string sender target sending_time :=
        not_not.mp fun hno => hclean (hfit.mpr hno)
      rw [hrun]
      exact ⟨iff_of_true rfl hunfit, fun hno => absurd hunfit hno⟩
  · intro before call later next e hadd hrejected hadds hnext
    obtain ⟨hlatched, hbody⟩ := latched_of_rejected hadd hrejected
    have hstay : run_calls {} (before ++ call :: later) = step (run_calls {} before) call := by
      rw [run_calls, List.foldl_append, List.foldl_cons]
      exact run_calls_latched hadds hlatched
    rw [hstay]
    have hrun := run_add_latched hnext hlatched
    refine ⟨congrArg Prod.fst hrun, ?_, ?_⟩
    · exact (congrArg (fun r => r.2.body) hrun).trans hbody
    · rw [finish, hlatched]
  · intro calls hframe
    have hfinish := finish_run_calls calls
    split_ifs at hfinish with hclean
    · rw [hfinish]
      obtain ⟨hbegin, hall⟩ := Bool.and_eq_true_iff.mp hclean
      exact splitOn_build hbegin (List.all_eq_true.mp hall)
    · exact absurd hfinish hframe

/-- An order with an injected field: the add is refused, and so is the next one. -/
theorem no_field_injection_order :
    (BuilderCall.add 58 (ascii "a\x01b")).result
    (run_calls {} [.begin_ (ascii "FIX.4.2") (ascii "D")]) =
        .error .InvalidField ∧
      (BuilderCall.add_int 38 100).result (run_calls {} [.begin_ (ascii "FIX.4.2") (ascii "D"),
        .add 58 (ascii "a\x01b")]) = .error .InvalidField ∧
      (run_calls {} [.begin_ (ascii "FIX.4.2") (ascii "D"), .add 58 (ascii "a\x01b")]).finish =
      [] := by
  have hrejected : (BuilderCall.add 58 (ascii "a\x01b")).result
      (run_calls {} [.begin_ (ascii "FIX.4.2") (ascii "D")]) = .error .InvalidField := by decide
  obtain ⟨-, hlatch, -⟩ := no_field_injection
  obtain ⟨hnext, -, hfinish⟩ :=
    hlatch [.begin_ (ascii "FIX.4.2") (ascii "D")] (.add 58 (ascii "a\x01b")) []
    (.add_int 38 100) .InvalidField rfl hrejected (by simp) rfl
  exact ⟨hrejected, hnext, hfinish⟩

end MessageBuilder

end FixEngine
