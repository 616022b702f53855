/-
`Accounting.lean` -- every number below NextTarget is accounted for.

A message raises NextTarget by one when it is in sequence, and a SequenceReset raises
it to its NewSeqNo. There are two exceptions. A GapFill compares and sets its NewSeqNo
as a `SeqNum`, so a negative one takes NextTarget close to 2^64. And messages that come
before the handshake is complete are not judged: one of them takes NextTarget to behind
itself, whatever lies between. Over a run without either, a number below NextTarget
was there at the start, was received, or was covered by a SequenceReset.
-/
import FixEngine.SessionSeq

set_option autoImplicit false

namespace FixEngine

open IMessageStore

namespace Session

variable {σ : Type} [IMessageStore σ]

/-! ## What a message accounts for -/

theorem baseline_of_judged {msg : Message} {s : Session σ}
    (h : ¬(msg.has tags.MsgType = true ∧ msg.msg_type ≠ msg_types.SequenceReset ∧
      s.state.unnumbered = true)) : s.baseline msg = s.next_target := by
  by_cases hlogon : msg.msg_type = msg_types.Logon
  · have hhas : msg.has tags.MsgType = true := by
      by_contra hnot
      rw [msg_type_of_not_has (by simpa using hnot)] at hlogon
      exact absurd hlogon (by decide)
    have hnumbered : ¬(s.state = .WaitingLogon ∨ s.state = .LogonSent) := by
      intro hwait
      refine h ⟨hhas, by rw [hlogon]; decide, ?_⟩
      rcases hwait with hw | hw
      · rw [hw]; rfl
      · rw [hw]; rfl
    rw [baseline, rebaseline_of_numbered msg hnumbered]
    split
    · rfl
    · exact ite_self _
  · exact baseline_of_not_logon s (.inr hlogon)

/-- How a message may raise NextTarget from the baseline to `e'`: by one, in sequence, or to the
NewSeqNo of a SequenceReset. -/
def Advances (msg : Message) (s : Session σ) (e' : ℕ) : Prop :=
  (msg.msg_type ≠ msg_types.SequenceReset ∧ msg.seq_num = s.baseline msg ∧
    e' = s.baseline msg + 1) ∨
  (msg.msg_type = msg_types.SequenceReset ∧ ∃ v, msg.get_int tags.NewSeqNo = some v ∧ (e' : ℤ) = v)

/-- A SequenceReset to a negative number, or a message that is out of sequence while numbers are
not judged. -/
def Slips (msg : Message) (s : Session σ) : Prop :=
  (msg.msg_type = msg_types.SequenceReset ∧ ∃ v, msg.get_int tags.NewSeqNo = some v ∧ v < 0) ∨
  (s.state.unnumbered = true ∧ msg.msg_type ≠ msg_types.SequenceReset ∧
    msg.seq_num ≠ s.baseline msg)

/-- What the code does: to the NewSeqNo as a `SeqNum`, or, where numbers are not judged, to behind
the message. -/
def Raises (msg : Message) (s : Session σ) (e' : ℕ) : Prop :=
  (msg.msg_type ≠ msg_types.SequenceReset ∧ msg.seq_num = s.baseline msg ∧
    e' = s.baseline msg + 1) ∨
  (msg.msg_type = msg_types.SequenceReset ∧ ∃ v, msg.get_int tags.NewSeqNo = some v ∧
  e' = to_u64 v) ∨
  (s.state.unnumbered = true ∧ msg.msg_type ≠ msg_types.SequenceReset ∧ e' = msg.seq_num + 1)

theorem seq_succ_eq {n k : ℕ} (hn : n < 2 ^ 64) (h : k < seq_succ n) : seq_succ n = n + 1 := by
  apply seq_succ_of_lt
  by_contra hlast
  have hwrap : seq_succ n = 0 := by
    have hn' : n = 2 ^ 64 - 1 := by omega
    rw [hn']
    rfl
  omega

/-- The number `k` was received, or covered by a SequenceReset. -/
def Accounts (msg : Message) (s : Session σ) (k : ℕ) : Prop :=
  (msg.msg_type ≠ msg_types.SequenceReset ∧ msg.seq_num = k) ∨
  (msg.msg_type = msg_types.SequenceReset ∧ ∃ v, msg.get_int tags.NewSeqNo = some v ∧
    s.next_target ≤ k ∧ (k : ℤ) < v)

theorem Advances.accounts {msg : Message} {s : Session σ} {e' k : ℕ} (h : Advances msg s e')
    (hbase : s.baseline msg ≤ s.next_target) (hk : s.next_target ≤ k) (hlt : k < e') :
    Accounts msg s k := by
  rcases h with ⟨htype, hseq, hnext⟩ | ⟨htype, v, hnew, hset⟩
  · exact .inl ⟨htype, by omega⟩
  · exact .inr ⟨htype, v, hnew, hk, by omega⟩

/-- Since the last time that the number `k` was not below NextTarget, a message has accounted
for it. -/
def AccountedFor (s : Session σ) (calls : List Call) (k : ℕ) : Prop :=
  (∀ before, before <+: calls → k < (s.run before).next_target) ∨
  ∃ before msg after, calls = before ++ .message msg :: after ∧
    (s.run before).identity_error msg = none ∧ Accounts msg (s.run before) k ∧
    ∀ more, more <+: after → k < (s.run (before ++ .message msg :: more)).next_target

theorem AccountedFor.concat {s : Session σ} {calls : List Call} {k : ℕ} (h : AccountedFor s calls k)
    (c : Call) (hlt : k < (s.run (calls ++ [c])).next_target) :
    AccountedFor s (calls ++ [c]) k := by
  rcases h with hall | ⟨before, msg, after, rfl, hidentity, haccounts, hsince⟩
  · refine .inl fun before hbefore => ?_
    rcases List.prefix_concat_iff.mp hbefore with rfl | hold
    · exact hlt
    · exact hall before hold
  · refine .inr ⟨before, msg, after ++ [c], by simp, hidentity, haccounts, ?_⟩
    intro more hmore
    rcases List.prefix_concat_iff.mp hmore with rfl | hold
    · simpa using hlt
    · exact hsince more hold

/-- No message of the run slips. -/
def Slipless : Session σ → List Call → Prop
  | _, [] => True
  | s, c :: calls => (∀ msg, c = .message msg → ¬Slips msg s) ∧ Slipless (s.call c) calls

theorem slipless_concat (s : Session σ) (calls : List Call) (c : Call) :
    Slipless s (calls ++ [c]) ↔
      Slipless s calls ∧ ∀ msg, c = .message msg → ¬Slips msg (s.run calls) := by
  induction calls generalizing s with
  | nil => exact (and_iff_left trivial).trans (and_iff_right trivial).symm
  | cons c' calls ih =>
    rw [List.cons_append, Slipless, Slipless, ih, and_assoc]
    rfl

section Target

theorem get_int_lt {msg : Message} {tag : TagNum} {v : ℤ} (h : msg.get_int tag = some v) :
    v < 2 ^ 63 := by
  have hchecked : ∀ {w : ℤ} {rest rest' : Bytes},
      (if w < -(2 ^ 63) ∨ 2 ^ 63 ≤ w then Decimal.FromChars.result_out_of_range else .ok w rest') =
        .ok v rest → v < 2 ^ 63 := by
    intro w rest rest' hv
    split at hv
    · simp at hv
    · rename_i hrange
      injection hv with hv _
      rw [← hv]
      exact not_le.mp fun hle => hrange (.inr hle)
  have hread : ∀ {sv : Bytes} {rest : Bytes}, Decimal.from_chars_int64 sv = .ok v rest →
      v < 2 ^ 63 := by
    intro sv rest hv
    cases sv with
    | nil => cases hv
    | cons c cs =>
      rw [Decimal.from_chars_int64] at hv
      dsimp only at hv
      generalize (if (c == 45) = true then cs else c :: cs) = body at hv
      by_cases hempty : (body.takeWhile Decimal.is_digit).isEmpty
      · rw [if_pos hempty] at hv
        simp at hv
      · rw [if_neg hempty] at hv
        exact hchecked hv
  rw [Message.get_int] at h
  split at h
  · simp at h
  split at h
  · rename_i hv
    rw [Option.some.inj h] at hv
    exact hread hv
  · simp at h

variable [StoreContract σ]

theorem baseline_cases (msg : Message) (s : Session σ) :
    s.baseline msg = s.next_target ∨ s.baseline msg = 1 := by
  rw [baseline]
  split
  · exact .inl rfl
  split
  · rw [rebaseline]
    split
    · exact (target_set_target 1 _ s).symm
    · exact .inl rfl
  · exact .inl rfl

variable [ResetContract σ]

theorem target_of_resets_cases {reset : Prop} {st st' : σ} (h : Resets reset st st') :
    next_target_seq_num st' = next_target_seq_num st ∨ next_target_seq_num st' = 1 := by
  induction h with
  | refl => exact .inl rfl
  | @tail st₁ _ _ hstep ih =>
    cases hstep with
    | sender h => exact h.target ▸ ih
    | baseline h => exact h.elim
    | reset h =>
      rcases ResetContract.reset_target st₁ with hone | hsame
      · exact .inr hone
      · exact hsame ▸ ih

theorem raises_unjudged {msg : Message} {s : Session σ} (hpos : 1 ≤ s.next_target)
    (hstate : s.state.unnumbered = true) (htype : msg.msg_type ≠ msg_types.SequenceReset)
    {st st' : σ} {reset : Prop} (hbase : next_target_seq_num st = s.baseline msg)
    (hrun : Resets reset st st') {e' : ℕ} (h : e' = next_target_seq_num st' ∨
      (msg.poss_dup = false ∧ e' = max (next_target_seq_num st') (seq_succ msg.seq_num)))
    (hraised : s.baseline msg < e') : Raises msg s e' := by
  -- the handshake itself does not raise NextTarget above the baseline
  have hle : next_target_seq_num st' ≤ s.baseline msg := by
    have hone : 1 ≤ s.baseline msg := by
      rcases baseline_cases msg s with hb | hb
      · exact hb ▸ hpos
      · exact hb.ge
    rcases target_of_resets_cases hrun with hsame | hreset
    · exact (hsame.trans hbase).le
    · exact hreset ▸ hone
  rcases h with hsame | ⟨hdup, hmax⟩
  · omega
  · have hnext : e' = seq_succ msg.seq_num := by
      rcases le_total (next_target_seq_num st') (seq_succ msg.seq_num) with hlow | hhigh
      · rw [hmax, max_eq_right hlow]
      · rw [max_eq_left hhigh] at hmax
        omega
    refine .inr (.inr ⟨hstate, htype, ?_⟩)
    rw [hnext]
    exact seq_succ_eq msg.seq_num_lt (hnext ▸ hraised)

/-- **How an inbound message raises NextTarget.** -/
theorem message_raises {msg : Message} {s : Session σ} (hpos : 1 ≤ s.next_target)
    (hidentity : s.identity_error msg = none)
    (hraised : s.baseline msg < (s.call (.message msg)).next_target) :
    Raises msg s (s.call (.message msg)).next_target := by
  by_cases hloose : msg.has tags.MsgType = true ∧ msg.msg_type ≠ msg_types.SequenceReset ∧
      s.state.unnumbered = true
  · obtain ⟨hhas, htype, hstate⟩ := hloose
    have hup : s.state ≠ .Disconnected := by
      intro hdown
      rw [hdown] at hstate
      exact absurd hstate (by decide)
    have hcall : s.call (.message msg) = s.process_message msg := if_neg hup
    rw [hcall] at hraised ⊢
    obtain ⟨st, st', hbase, hrun, h⟩ := target_unnumbered hidentity hhas htype hstate
    exact raises_unjudged hpos hstate htype hbase hrun h hraised
  · have hbase := baseline_of_judged hloose
    have hmove := target_move s (.message msg)
    generalize s.call (.message msg) = s' at hmove hraised ⊢
    cases hmove with
    | kept hsame => omega
    | set v htype hnew _ hset => exact .inr (.inl ⟨htype, v, hnew, hset⟩)
    | taken htype hseq hmax =>
      have hnext : s'.next_target = seq_succ msg.seq_num := by
        rcases le_total s.next_target (seq_succ msg.seq_num) with hlow | hhigh
        · rw [hmax, max_eq_right hlow]
        · rw [max_eq_left hhigh] at hmax
          omega
      refine .inl ⟨htype, by rw [hbase]; exact hseq, ?_⟩
      rw [hnext, hbase, ← hseq]
      exact seq_succ_eq msg.seq_num_lt (hnext ▸ hraised)
    | unjudged hstate htype hb hrun h => exact raises_unjudged hpos hstate htype hb hrun h hraised
    | restarted hrun =>
      have hnone : ¬((.message msg : Call) = .reset ∨ s.cfg.reset_on_logon = true ∧
          ((.message msg : Call) = .logon ∨ (.message msg : Call) = .transport_connected)) := by
        rintro (h | ⟨-, h | h⟩)
        · simp at h
        · simp at h
        · simp at h
      have hsame : s'.next_target = s.next_target := target_of_resets hnone hrun
      omega

omit [StoreContract σ] [ResetContract σ] in
theorem Raises.advances_iff {msg : Message} {s : Session σ} {e' : ℕ} (h : Raises msg s e') :
    Advances msg s e' ↔ ¬Slips msg s := by
  rcases h with ⟨htype, hseq, hnext⟩ | ⟨htype, v, hnew, hset⟩ | ⟨hstate, htype, hnext⟩
  · refine iff_of_true (.inl ⟨htype, hseq, hnext⟩) ?_
    rintro (⟨hreset, -⟩ | ⟨-, -, hother⟩)
    · exact htype hreset
    · exact hother hseq
  · -- the cast leaves a number of at least zero
    have hv := get_int_lt hnew
    constructor
    · rintro (⟨hother, -⟩ | ⟨-, w, hw, hset'⟩)
      · exact absurd htype hother
      · obtain rfl : v = w := Option.some.inj (hnew.symm.trans hw)
        rintro (⟨-, w, hw, hneg⟩ | ⟨-, hother, -⟩)
        · obtain rfl : v = w := Option.some.inj (hnew.symm.trans hw)
          omega
        · exact hother htype
    · intro hslips
      have hpos : 0 ≤ v := by
        by_contra hneg
        exact hslips (.inl ⟨htype, v, hnew, by omega⟩)
      refine .inr ⟨htype, v, hnew, ?_⟩
      rw [hset, to_u64_of_nonneg hpos (by omega)]
      exact Int.toNat_of_nonneg hpos
  · constructor
    · rintro (⟨-, hseq, -⟩ | ⟨hreset, -⟩)
      · rintro (⟨hreset, -⟩ | ⟨-, -, hother⟩)
        · exact htype hreset
        · exact hother hseq
      · exact absurd hreset htype
    · intro hslips
      have hseq : msg.seq_num = s.baseline msg := by
        by_contra hother
        exact hslips (.inr ⟨hstate, htype, hother⟩)
      exact .inl ⟨htype, hseq, by omega⟩

theorem target_pos_call {s : Session σ} (hpos : 1 ≤ s.next_target) (c : Call) :
    1 ≤ (s.call c).next_target := by
  have hmove := target_move s c
  generalize s.call c = s' at hmove
  cases hmove with
  | kept hsame => exact hsame ▸ hpos
  | set v htype hnew hmode hset =>
    rcases hmode with ⟨-, hlt⟩ | ⟨-, hv⟩
    · omega
    · have hv' := get_int_lt hnew
      rw [hset, to_u64_of_nonneg hv.le (by omega)]
      omega
  | taken htype hseq hmax => omega
  | @unjudged msg _ st st' hstate htype hbase hrun h =>
    have hbefore := baseline_cases msg s
    have hafter := target_of_resets_cases hrun
    omega
  | restarted hrun =>
    have hafter : s'.next_target = s.next_target ∨ s'.next_target = 1 := target_of_resets_cases hrun
    omega

theorem target_pos_run {s : Session σ} (hpos : 1 ≤ s.next_target) (calls : List Call) :
    1 ≤ (s.run calls).next_target := by
  induction calls generalizing s with
  | nil => exact hpos
  | cons c calls ih => exact ih (target_pos_call hpos c)

theorem raised_by_message {s : Session σ} (hpos : 1 ≤ s.next_target) {c : Call}
    (h : s.next_target < (s.call c).next_target) :
    ∃ msg, c = .message msg ∧ s.identity_error msg = none := by
  have hmove := target_move s c
  generalize hs' : s.call c = s' at hmove h
  -- a message that moves NextTarget passed the identity check
  have hidentity : ∀ msg, c = .message msg → s.identity_error msg = none := by
    rintro msg rfl
    by_contra hforeign
    have hsame : s'.next_target = s.next_target := by
      rw [← hs', call]
      split
      · rfl
      · exact ((process_message_outcome msg s).2 hforeign).target
    omega
  cases hmove with
  | kept hsame => omega
  | @set msg _ _ _ _ _ _ => exact ⟨msg, rfl, hidentity msg rfl⟩
  | @taken msg _ _ _ _ => exact ⟨msg, rfl, hidentity msg rfl⟩
  | @unjudged msg _ _ _ _ _ _ _ _ => exact ⟨msg, rfl, hidentity msg rfl⟩
  | restarted hrun =>
    have hafter : s'.next_target = s.next_target ∨ s'.next_target = 1 := target_of_resets_cases hrun
    omega

/-- **A run without slips accounts for every number below NextTarget.** -/
theorem accounted_for {s : Session σ} (hpos : 1 ≤ s.next_target) (calls : List Call)
    (hslips : Slipless s calls) {k : ℕ} (hk : k < (s.run calls).next_target) :
    AccountedFor s calls k := by
  induction calls using List.reverseRecOn with
  | nil =>
    refine .inl fun before hbefore => ?_
    rw [List.prefix_nil.mp hbefore]
    exact hk
  | append_singleton calls c ih =>
    obtain ⟨hbefore, hlast⟩ := (slipless_concat s calls c).mp hslips
    by_cases hold : k < (s.run calls).next_target
    · exact (ih hbefore hold).concat c hk
    -- this step has raised NextTarget above the number
    have hpos' := target_pos_run hpos calls
    have hraised : (s.run calls).next_target < ((s.run calls).call c).next_target := by
      rw [run_concat] at hk
      omega
    obtain ⟨msg, rfl, hidentity⟩ := raised_by_message hpos' hraised
    have hbase : (s.run calls).baseline msg ≤ (s.run calls).next_target := by
      rcases baseline_cases msg (s.run calls) with hb | hb
      · exact hb.le
      · exact hb ▸ hpos'
    have hadvances := (message_raises hpos' hidentity (hbase.trans_lt hraised)).advances_iff.mpr
      (hlast msg rfl)
    rw [run_concat] at hk
    refine .inr ⟨calls, msg, [], rfl, hidentity, ?_, ?_⟩
    · exact hadvances.accounts hbase (by omega) hk
    · intro more hmore
      rw [List.prefix_nil.mp hmore, run_concat]
      exact hk

/-- **No inbound number is skipped silently, unless a message slips.** In every state of every
run, a message that raises NextTarget from the baseline does so as `Advances` says exactly if it
does not slip, and in a run without slips every number below NextTarget is accounted for. -/
theorem no_number_skipped (s : Session σ) (hstart : 1 ≤ s.next_target) (calls : List Call) :
    (∀ msg, (s.run calls).identity_error msg = none →
      (s.run calls).baseline msg < ((s.run calls).call (.message msg)).next_target →
      (Advances msg (s.run calls) ((s.run calls).call (.message msg)).next_target ↔
        ¬Slips msg (s.run calls))) ∧
    (Slipless s calls → ∀ k, k < (s.run calls).next_target → AccountedFor s calls k) := by
  refine ⟨?_, fun hslips _ hk => accounted_for hstart calls hslips hk⟩
  intro msg hidentity hraised
  exact (message_raises (target_pos_run hstart calls) hidentity hraised).advances_iff

end Target

end Session

/-- A GapFill to the number `v`. -/
def gap_fill (v : String) : Message :=
  broker_message msg_types.SequenceReset 2 [⟨tags.PossDupFlag, ascii "Y"⟩,
    ⟨tags.GapFillFlag, ascii "Y"⟩, ⟨tags.NewSeqNo, ascii v⟩]

/-- The Logon advances by one; a GapFill from 2 to 5 accounts for the number 3. -/
theorem no_number_skipped_fill :
    1 ≤ quiet_session.next_target ∧
    Session.Advances broker_logon (quiet_session.run [.logon])
      ((quiet_session.run [.logon]).call (.message broker_logon)).next_target ∧
    quiet_session.AccountedFor [.logon, .message broker_logon, .message (gap_fill "5")] 3 := by
  have hlogon : ¬Session.Slips broker_logon (quiet_session.run [.logon]) := by
    rintro (⟨htype, -⟩ | ⟨-, -, hseq⟩)
    · exact absurd htype (by decide)
    · exact hseq (by decide)
  have hfill : ¬Session.Slips (gap_fill "5")
      (quiet_session.run [.logon, .message broker_logon]) := by
    rintro (⟨-, v, hv, hneg⟩ | ⟨-, htype, -⟩)
    · have hfive : (gap_fill "5").get_int tags.NewSeqNo = some 5 := by decide
      rw [hfive] at hv
      have hv := Option.some.inj hv
      omega
    · exact htype (by decide)
  have hslipless : quiet_session.Slipless [.logon, .message broker_logon,
      .message (gap_fill "5")] := by
    refine ⟨fun msg h => absurd h (by simp), ?_, ?_, trivial⟩
    · intro msg h
      obtain rfl : broker_logon = msg := by injection h
      exact hlogon
    · intro msg h
      obtain rfl : gap_fill "5" = msg := by injection h
      exact hfill
  refine ⟨by decide, ?_, ?_⟩
  · exact ((Session.no_number_skipped quiet_session (by decide) [.logon]).1 broker_logon (by decide)
      (by decide)).mpr hlogon
  · exact (Session.no_number_skipped quiet_session (by decide)
      [.logon, .message broker_logon, .message (gap_fill "5")]).2 hslipless 3 (by decide)

/-- A GapFill to a negative number. -/
def negative_fill : Message := gap_fill "-1"

/-- **Numbers that are skipped.** A GapFill with NewSeqNo -1 takes NextTarget from 2 to 2^64 - 1. -/
theorem negative_fill_skips_numbers :
    (quiet_session.run [.logon, .message broker_logon]).identity_error negative_fill = none ∧
      (quiet_session.run [.logon, .message broker_logon]).baseline negative_fill = 2 ∧
      negative_fill.msg_type = msg_types.SequenceReset ∧
      negative_fill.get_int tags.NewSeqNo = some (-1) ∧
      ((quiet_session.run [.logon, .message broker_logon]).call
        (.message negative_fill)).next_target =
        2 ^ 64 - 1 ∧
      ¬Session.Advances negative_fill (quiet_session.run [.logon, .message broker_logon])
        (2 ^ 64 - 1) := by
  have hnew : negative_fill.get_int tags.NewSeqNo = some (-1) := by decide
  refine ⟨by decide, by decide, by decide, hnew, by decide, ?_⟩
  rintro (⟨htype, -⟩ | ⟨-, v, hv, hset⟩)
  · exact htype (by decide)
  · rw [hnew] at hv
    have hv := Option.some.inj hv
    omega

/-- The Logon of a broker whose numbering is ahead. -/
def late_logon : Message := broker_message msg_types.Logon 5 [⟨tags.HeartBtInt, ascii "30"⟩]

/-- Before the handshake is complete numbers are not judged: a Logon passes over 1 to 4, and no
ResendRequest asks for them. -/
example : ((quiet_session.run [.logon]).call (.message late_logon)).next_target = 6 ∧
    types_sent (quiet_session.run [.logon]) (.message late_logon) = [] := by
  decide

end FixEngine
