/-
`Deferred.lean` -- reports to a handler that may re-enter, deferred while a lock is held.

A component reports failures to a handler. A report made inside a locked scope is
buffered, since the handler may call the component again and the lock is not
recursive; every locked scope is followed by a drain, which hands the buffer to the
handler in rounds, behind a gate that turns a nested drain away. What an operation of
the component does to its sink is a **script** of reports, locked scopes and drains.
Which reports it makes is left open, and so is what the handler calls on each
invocation: both are arbitrary scripts.

The machine below runs a script one step at a time, with the calls of the handler
pushed in front of what is left to do. Nothing here depends on what is reported.
-/
import Mathlib.Data.List.Nodup
import Mathlib.Data.List.Range
import Mathlib.Logic.Function.Iterate

set_option autoImplicit false

namespace FixEngine.Deferred

variable {τ : Type}

/-! ## Scripts and the machine -/

/-- A reported text, with the number of the report. -/
structure Report (τ : Type) where
  ticket : ℕ
  what : τ
  deriving DecidableEq

/-- A piece of an operation, as the sink sees it. -/
inductive Segment (τ : Type) where
  /-- A report outside of the lock. -/
  | report (what : τ)
  /-- A locked scope with the reports made in it, and the drain behind it. -/
  | locked (whats : List τ)
  | drain
  deriving DecidableEq

def Segment.is_locked : Segment τ → Bool
  | .locked _ => true
  | _ => false

/-- The steps of the machine. -/
inductive Instr (τ : Type) where
  | report (what : τ)
  | lock
  | unlock
  | drain
  /-- The head of the loop of a drain, in its round `k`. -/
  | round (k : ℕ)
  /-- The hook that a drain runs when the buffer is empty. -/
  | hook (k : ℕ)
  /-- The test behind the hook: is the buffer still empty? -/
  | test (k : ℕ)
  | invoke (r : Report τ)
  | clear_gate

def Segment.code : Segment τ → List (Instr τ)
  | .report what => [.report what]
  | .locked whats => .lock :: (whats.map .report ++ [.unlock, .drain])
  | .drain => [.drain]

/-- What a script does. -/
def code (script : List (Segment τ)) : List (Instr τ) := script.flatMap Segment.code

@[simp] theorem code_nil : code ([] : List (Segment τ)) = [] := rfl

@[simp] theorem code_cons (seg : Segment τ) (script : List (Segment τ)) :
    code (seg :: script) = seg.code ++ code script := rfl

/-- What the user's code calls: the handler in its `n`-th invocation and the hook in
its `n`-th call. -/
structure Callbacks (τ : Type) where
  handler : ℕ → List (Segment τ)
  hook : ℕ → List (Segment τ)

/-- The callbacks call nothing but operations that report inside their locked scopes
only. -/
def Callbacks.LockedOnly (cb : Callbacks τ) : Prop :=
  (∀ n, ∀ seg ∈ cb.handler n, seg.is_locked = true) ∧
    ∀ n, ∀ seg ∈ cb.hook n, seg.is_locked = true

/-- The sink, with the history of what was reported and delivered. -/
structure Sink (τ : Type) where
  /-- The lock is held. -/
  held : Bool
  /-- The gate of the drain is closed. -/
  draining : Bool
  errors : ℕ
  pending : List (Report τ)
  /-- Every report, and whether it found the buffer full. -/
  reported : List (Report τ × Bool)
  /-- Every invocation of the handler, and whether the lock was held. -/
  delivered : List (Report τ × Bool)
  /-- How often the hook ran. -/
  hooks : ℕ
  /-- The lock was taken while it was held. -/
  relocked : Bool
  deriving DecidableEq

/-- The sink before the first operation. -/
def Sink.fresh : Sink τ := ⟨false, false, 0, [], [], [], 0, false⟩

/-- A report is counted at once. -/
def Sink.count (what : τ) (full : Bool) (s : Sink τ) : Sink τ :=
  { s with errors := s.errors + 1, reported := s.reported ++ [(⟨s.errors, what⟩, full)] }

/-- One step, with a buffer of `cap` entries and as many rounds. A lock that is held is
never granted: the machine stays where it is. -/
def step (cap : ℕ) (cb : Callbacks τ) : List (Instr τ) × Sink τ → List (Instr τ) × Sink τ
  | ([], s) => ([], s)
  | (.report what :: todo, s) =>
    if s.held then
      if s.pending.length < cap then
        (todo, { s.count what false with pending := s.pending ++ [⟨s.errors, what⟩] })
      else (todo, s.count what true)
    else (.invoke ⟨s.errors, what⟩ :: todo, s.count what false)
  | (.lock :: todo, s) =>
    if s.held then (.lock :: todo, { s with relocked := true }) else (todo, { s with held := true })
  | (.unlock :: todo, s) => (todo, { s with held := false })
  | (.drain :: todo, s) =>
    if s.draining then (todo, s) else (.round 0 :: todo, { s with draining := true })
  | (.round k :: todo, s) =>
    if k < cap then
      if s.pending = [] then (.hook k :: todo, s)
      else (s.pending.map .invoke ++ .round (k + 1) :: todo, { s with pending := [] })
    else (.clear_gate :: todo, s)
  | (.hook k :: todo, s) =>
    (code (cb.hook s.hooks) ++ .test k :: todo, { s with hooks := s.hooks + 1 })
  | (.test k :: todo, s) =>
    if s.pending = [] then (.clear_gate :: todo, s) else (.round (k + 1) :: todo, s)
  | (.invoke r :: todo, s) =>
    (code (cb.handler s.delivered.length) ++ todo,
      { s with delivered := s.delivered ++ [(r, s.held)] })
  | (.clear_gate :: todo, s) => (todo, { s with draining := false })

/-- The machine after `n` steps. -/
def run (cap : ℕ) (cb : Callbacks τ) (n : ℕ) (m : List (Instr τ) × Sink τ) :
    List (Instr τ) × Sink τ := (step cap cb)^[n] m

theorem run_succ (cap : ℕ) (cb : Callbacks τ) (n : ℕ) (m : List (Instr τ) × Sink τ) :
    run cap cb (n + 1) m = step cap cb (run cap cb n m) := Function.iterate_succ_apply' _ _ _

theorem run_nil (cap : ℕ) (cb : Callbacks τ) (n : ℕ) (s : Sink τ) :
    run cap cb n ([], s) = ([], s) := by
  induction n with
  | zero => rfl
  | succ n ih => rw [run_succ, ih]; rfl

theorem run_add (cap : ℕ) (cb : Callbacks τ) (k n : ℕ) (m : List (Instr τ) × Sink τ) :
    run cap cb (k + n) m = run cap cb k (run cap cb n m) := Function.iterate_add_apply _ _ _ _

/-! ## What every run keeps -/

/-- In a locked scope there is nothing but reports and its end, and every scope is
entered and left. -/
def Scoped : Bool → List (Instr τ) → Prop
  | held, [] => held = false
  | held, .report _ :: todo => Scoped held todo
  | held, .lock :: todo => held = false ∧ Scoped true todo
  | held, .unlock :: todo => held = true ∧ Scoped false todo
  | held, _ :: todo => held = false ∧ Scoped false todo

theorem Scoped.reports (whats : List τ) (todo : List (Instr τ)) :
    Scoped true (whats.map .report ++ todo) ↔ Scoped true todo := by
  induction whats with
  | nil => simp
  | cons what whats ih => simpa [Scoped] using ih

theorem Scoped.code_append (script : List (Segment τ)) {todo : List (Instr τ)}
    (h : Scoped false todo) : Scoped false (code script ++ todo) := by
  induction script with
  | nil => simpa using h
  | cons seg script ih =>
    cases seg with
    | report what => simpa [Segment.code, Scoped] using ih
    | locked whats =>
      -- the scope closes itself, and the drain behind it is outside
      have hinner : Scoped true
          (whats.map .report ++ (.unlock :: .drain :: (code script ++ todo))) := by
        rw [Scoped.reports]
        simpa [Scoped] using ih
      simpa [Segment.code, Scoped] using hinner
    | drain => simpa [Segment.code, Scoped] using ih

theorem Scoped.invokes (batch : List (Report τ)) {todo : List (Instr τ)} (h : Scoped false todo) :
    Scoped false (batch.map .invoke ++ todo) := by
  induction batch with
  | nil => simpa using h
  | cons r batch ih => simpa [Scoped] using ih

/-- The texts that were taken from the buffer and are about to be delivered. -/
def inflight : List (Instr τ) → List (Report τ)
  | [] => []
  | .invoke r :: todo => r :: inflight todo
  | _ :: todo => inflight todo

theorem inflight_append (todo more : List (Instr τ)) :
    inflight (todo ++ more) = inflight todo ++ inflight more := by
  fun_induction inflight todo with
  | case1 => rfl
  | case2 r todo ih => rw [List.cons_append, inflight, ih, List.cons_append]
  | case3 i todo hi ih => rw [List.cons_append, inflight, ih]; exact hi

theorem inflight_invokes (batch : List (Report τ)) : inflight (batch.map Instr.invoke) = batch := by
  induction batch with
  | nil => rfl
  | cons r batch ih => rw [List.map_cons, inflight, ih]

theorem inflight_code (script : List (Segment τ)) : inflight (code script) = [] := by
  have hreports : ∀ whats : List τ, inflight (whats.map Instr.report) = [] := by
    intro whats
    induction whats with
    | nil => rfl
    | cons what whats ih => exact ih
  induction script with
  | nil => rfl
  | cons seg script ih =>
    rw [code_cons, inflight_append, ih, List.append_nil]
    cases seg with
    | report what => rfl
    | locked whats =>
      show inflight (whats.map Instr.report ++ [.unlock, .drain]) = []
      rw [inflight_append, hreports]
      rfl
    | drain => rfl

/-- The reports that did not find the buffer full. -/
def Sink.kept (s : Sink τ) : List (Report τ) := (s.reported.filter fun r => !r.2).map Prod.fst

theorem Scoped.step {cap : ℕ} {cb : Callbacks τ} {m : List (Instr τ) × Sink τ}
    (h : Scoped m.2.held m.1) : Scoped (step cap cb m).2.held (step cap cb m).1 := by
  fun_cases Deferred.step cap cb m with
  | case11 k todo s _ _ =>
    -- a batch in front of the next round
    obtain ⟨hheld, hrest⟩ := h
    dsimp only at hheld ⊢
    rw [hheld]
    exact Scoped.invokes _ ⟨rfl, hrest⟩
  | case13 k todo s =>
    obtain ⟨hheld, hrest⟩ := h
    dsimp only at hheld ⊢
    rw [hheld]
    exact Scoped.code_append _ ⟨rfl, hrest⟩
  | case16 r todo s =>
    obtain ⟨hheld, hrest⟩ := h
    dsimp only at hheld ⊢
    rw [hheld]
    exact Scoped.code_append _ hrest
  | _ => simp_all [Scoped, Sink.count]

/-! ## The accounts of the reports -/

/-- The reports are numbered as they are counted. -/
def Numbered (s : Sink τ) : Prop := s.reported.map (fun r => r.1.ticket) = List.range s.errors

theorem Numbered.step {cap : ℕ} {cb : Callbacks τ} {m : List (Instr τ) × Sink τ}
    (h : Numbered m.2) : Numbered (step cap cb m).2 := by
  have hcount : ∀ (s : Sink τ) (what : τ) (full : Bool), Numbered s →
      Numbered (s.count what full) := by
    intro s what full hs
    simp only [Numbered, Sink.count, List.map_append, List.range_succ]
    rw [hs]
    rfl
  fun_cases Deferred.step cap cb m with
  | case2 what todo s _ _ => exact hcount s what false h
  | case3 what todo s _ _ => exact hcount s what true h
  | case4 what todo s _ => exact hcount s what false h
  | _ => exact h

theorem Numbered.errors_eq {s : Sink τ} (h : Numbered s) : s.errors = s.reported.length := by
  have hlength := congrArg List.length h
  rw [List.length_map, List.length_range] at hlength
  exact hlength.symm

theorem Numbered.nodup_kept {s : Sink τ} (h : Numbered s) : s.kept.Nodup := by
  have htickets : (s.reported.map fun r => r.1.ticket).Nodup := by
    rw [h]
    exact List.nodup_range
  have hall : (s.reported.map Prod.fst).Nodup := by
    apply List.Nodup.of_map Report.ticket
    rwa [List.map_map]
  exact hall.sublist (List.filter_sublist.map _)

section Accounts

variable [DecidableEq τ]

/-- A report that was kept is delivered, in the buffer or on its way, once. -/
def Balanced (todo : List (Instr τ)) (s : Sink τ) : Prop :=
  ∀ r, (s.delivered.map Prod.fst).count r + s.pending.count r + (inflight todo).count r
    = s.kept.count r

omit [DecidableEq τ] in
theorem kept_count (s : Sink τ) (what : τ) :
    (s.count what false).kept = s.kept ++ [⟨s.errors, what⟩] := by
  simp [Sink.kept, Sink.count]

/-- **A step keeps the balance**: a report moves from the buffer to a batch and from there to
the handler. -/
theorem Balanced.step {cap : ℕ} {cb : Callbacks τ} {m : List (Instr τ) × Sink τ}
    (h : Balanced m.1 m.2) : Balanced (step cap cb m).1 (step cap cb m).2 := by
  intro q
  have hq := h q
  fun_cases Deferred.step cap cb m with
  | case2 what todo s _ _ =>
    -- one more in the buffer
    show _ + _ + _ = (s.count what false).kept.count q
    rw [kept_count]
    simp only [Sink.count, inflight, List.count_append] at hq ⊢
    omega
  | case3 what todo s _ _ => simpa [Sink.kept, Sink.count, inflight] using hq
  | case4 what todo s _ =>
    -- one more on its way
    rw [kept_count]
    simp only [Sink.count, inflight, List.count_append, List.count_cons, List.count_nil] at hq ⊢
    omega
  | case11 k todo s _ _ =>
    -- the batch leaves the buffer for the invocations in front of the next round
    simp only [Sink.kept, inflight, inflight_append, inflight_invokes, List.count_append,
      List.count_nil] at hq ⊢
    omega
  | case13 k todo s =>
    simp only [Sink.kept, inflight, inflight_append, inflight_code, List.nil_append] at hq ⊢
    exact hq
  | case16 r todo s =>
    simp only [Sink.kept, inflight, inflight_append, inflight_code, List.nil_append,
      List.count_cons, List.map_append, List.count_append, List.map_cons, List.map_nil,
      List.count_nil] at hq ⊢
    omega
  | _ => simpa [inflight, Sink.kept] using hq

/-- What holds between any two steps. -/
structure Inv (todo : List (Instr τ)) (s : Sink τ) : Prop where
  scopes : Scoped s.held todo
  /-- The handler ran outside of the lock. -/
  unlocked : ∀ d ∈ s.delivered, d.2 = false
  /-- The lock was granted whenever it was asked for. -/
  granted : s.relocked = false
  numbered : Numbered s
  balanced : Balanced todo s

theorem Inv.fresh (script : List (Segment τ)) : Inv (code script) (Sink.fresh : Sink τ) where
  scopes := by
    have h : Scoped false (code script ++ ([] : List (Instr τ))) := Scoped.code_append script rfl
    rwa [List.append_nil] at h
  unlocked := by simp [Sink.fresh]
  granted := rfl
  numbered := by simp [Numbered, Sink.fresh]
  balanced r := by simp [Sink.fresh, Sink.kept, inflight_code]

/-- **One step keeps the invariant.** -/
theorem Inv.step {cap : ℕ} {cb : Callbacks τ} {m : List (Instr τ) × Sink τ} (h : Inv m.1 m.2) :
    Inv (step cap cb m).1 (step cap cb m).2 := by
  refine ⟨h.scopes.step, ?_, ?_, h.numbered.step, h.balanced.step⟩
  · -- an invocation is recorded with the lock as it finds it
    have hscopes := h.scopes
    have hunlocked := h.unlocked
    fun_cases Deferred.step cap cb m with
    | case16 r todo s =>
      intro d hd
      rcases List.mem_append.mp hd with hd | hd
      · exact hunlocked d hd
      · rw [List.mem_singleton.mp hd]
        exact hscopes.1
    | _ => exact hunlocked
  · have hscopes := h.scopes
    have hgranted := h.granted
    fun_cases Deferred.step cap cb m with
    | case5 todo s hheld =>
      have hfree : s.held = false := hscopes.1
      rw [hfree] at hheld
      exact absurd hheld Bool.false_ne_true
    | _ => exact hgranted

/-- **Every run keeps the invariant.** -/
theorem Inv.run {cap : ℕ} {cb : Callbacks τ} {m : List (Instr τ) × Sink τ} (h : Inv m.1 m.2)
    (n : ℕ) : Inv (run cap cb n m).1 (run cap cb n m).2 := by
  induction n with
  | zero => exact h
  | succ n ih =>
    rw [run_succ]
    exact ih.step

theorem Inv.nodup_delivered {todo : List (Instr τ)} {s : Sink τ} (h : Inv todo s) :
    (s.delivered.map Prod.fst).Nodup := by
  rw [List.nodup_iff_count_le_one]
  intro r
  have hbalance := h.balanced r
  have hkept := List.nodup_iff_count_le_one.mp h.numbered.nodup_kept r
  omega

theorem Inv.delivered_or_pending {todo : List (Instr τ)} {s : Sink τ} (h : Inv todo s)
    (hidle : inflight todo = []) {r : Report τ} (hr : (r, false) ∈ s.reported) :
    r ∈ s.delivered.map Prod.fst ∨ r ∈ s.pending := by
  have hkept : r ∈ s.kept := List.mem_map.mpr ⟨(r, false), List.mem_filter.mpr ⟨hr, rfl⟩, rfl⟩
  have hbalance := h.balanced r
  rw [hidle, List.count_nil, Nat.add_zero] at hbalance
  have hone : 0 < s.kept.count r := List.count_pos_iff.mpr hkept
  by_cases hdelivered : r ∈ s.delivered.map Prod.fst
  · exact Or.inl hdelivered
  · refine Or.inr (List.count_pos_iff.mp ?_)
    rw [List.count_eq_zero.mpr hdelivered] at hbalance
    omega

end Accounts

/-! ## A drain ends

With callbacks that report inside locked scopes only, nothing that they call invokes the
handler while the gate is closed: each of their calls runs straight through. A drain is
then at most `cap` rounds, and outside of a drain an invocation of the handler is as
long as what it calls. -/

/-- The machine gets from the one configuration to the other. -/
def Reaches (cap : ℕ) (cb : Callbacks τ) (m m' : List (Instr τ) × Sink τ) : Prop :=
  ∃ n, run cap cb n m = m'

theorem Reaches.refl (cap : ℕ) (cb : Callbacks τ) (m : List (Instr τ) × Sink τ) :
    Reaches cap cb m m := ⟨0, rfl⟩

theorem Reaches.trans {cap : ℕ} {cb : Callbacks τ} {m m' m'' : List (Instr τ) × Sink τ}
    (h : Reaches cap cb m m') (h' : Reaches cap cb m' m'') : Reaches cap cb m m'' := by
  obtain ⟨n, rfl⟩ := h
  obtain ⟨k, rfl⟩ := h'
  exact ⟨k + n, run_add cap cb k n m⟩

theorem Reaches.head {cap : ℕ} {cb : Callbacks τ} {m m' : List (Instr τ) × Sink τ}
    (h : Reaches cap cb (step cap cb m) m') : Reaches cap cb m m' :=
  Reaches.trans ⟨1, rfl⟩ h

/-- The code in front of `todo` runs to its end, and leaves the lock free and the gate
as it was. -/
def RunsOff (cap : ℕ) (cb : Callbacks τ) (front : List (Instr τ)) (s : Sink τ) : Prop :=
  ∀ todo, ∃ s', Reaches cap cb (front ++ todo, s) (todo, s') ∧ s'.held = false ∧
    s'.draining = s.draining

section Termination

variable {cap : ℕ} {cb : Callbacks τ}

theorem RunsOff.append {front more : List (Instr τ)} {s : Sink τ} (h : RunsOff cap cb front s)
    (hmore : ∀ s' : Sink τ, s'.held = false → s'.draining = s.draining → RunsOff cap cb more s') :
    RunsOff cap cb (front ++ more) s := by
  intro todo
  obtain ⟨s₁, hreach, hheld, hgate⟩ := h (more ++ todo)
  obtain ⟨s₂, hreach', hheld', hgate'⟩ := hmore s₁ hheld hgate todo
  refine ⟨s₂, ?_, hheld', hgate'.trans hgate⟩
  rw [List.append_assoc]
  exact hreach.trans hreach'

theorem reports_reach (cap : ℕ) (cb : Callbacks τ) (whats : List τ) (todo : List (Instr τ))
    (s : Sink τ) (hheld : s.held = true) :
    ∃ s', Reaches cap cb (whats.map .report ++ todo, s) (todo, s') ∧ s'.held = true ∧
      s'.draining = s.draining := by
  induction whats generalizing s with
  | nil => exact ⟨s, .refl cap cb _, hheld, rfl⟩
  | cons what whats ih =>
    have hstep : ∃ s₁, step cap cb ((what :: whats).map .report ++ todo, s)
        = (whats.map .report ++ todo, s₁) ∧ s₁.held = true ∧ s₁.draining = s.draining := by
      by_cases hroom : s.pending.length < cap
      · exact ⟨{ s.count what false with pending := s.pending ++ [⟨s.errors, what⟩] },
          by simp only [List.map_cons, List.cons_append, step, hheld, hroom, if_true], hheld, rfl⟩
      · exact ⟨s.count what true,
          by simp only [List.map_cons, List.cons_append, step, hheld, hroom, if_true, if_false],
          hheld, rfl⟩
    obtain ⟨s₁, hs₁, hheld₁, hgate₁⟩ := hstep
    obtain ⟨s', hreach, hheld', hgate'⟩ := ih s₁ hheld₁
    refine ⟨s', Reaches.head ?_, hheld', hgate'.trans hgate₁⟩
    rw [hs₁]
    exact hreach

theorem runs_off_locked (whats : List τ) {s : Sink τ} (hheld : s.held = false)
    (hdrain : ∀ s' : Sink τ, s'.held = false → s'.draining = s.draining →
      RunsOff cap cb [.drain] s') : RunsOff cap cb (Segment.locked whats).code s := by
  intro todo
  obtain ⟨s₁, hreach, hheld₁, hgate₁⟩ :=
    reports_reach cap cb whats (.unlock :: .drain :: todo) { s with held := true } rfl
  obtain ⟨s₂, hreach', hheld₂, hgate₂⟩ := hdrain { s₁ with held := false } rfl hgate₁ todo
  refine ⟨s₂, Reaches.head ?_, hheld₂, hgate₂.trans hgate₁⟩
  have hlock : step cap cb ((Segment.locked whats).code ++ todo, s)
      = (whats.map .report ++ (.unlock :: .drain :: todo), { s with held := true }) := by
    simp [Segment.code, step, hheld]
  rw [hlock]
  exact hreach.trans (Reaches.head hreach')

theorem runs_off_script {script : List (Segment τ)} (hlocked : ∀ seg ∈ script, seg.is_locked = true)
    {gate : Bool} (hdrain : ∀ s' : Sink τ, s'.held = false → s'.draining = gate →
      RunsOff cap cb [.drain] s')
    {s : Sink τ} (hheld : s.held = false) (hgate : s.draining = gate) :
    RunsOff cap cb (code script) s := by
  induction script generalizing s with
  | nil => exact fun todo => ⟨s, .refl cap cb _, hheld, rfl⟩
  | cons seg script ih =>
    rw [code_cons]
    cases seg with
    | locked whats =>
      refine RunsOff.append (runs_off_locked whats hheld fun s' hheld' hgate' =>
        hdrain s' hheld' (hgate'.trans hgate)) fun s' hheld' hgate' => ?_
      exact ih (fun seg hseg => hlocked seg (List.mem_cons_of_mem _ hseg)) hheld'
        (hgate'.trans hgate)
    | report what => exact absurd (hlocked _ List.mem_cons_self) Bool.false_ne_true
    | drain => exact absurd (hlocked _ List.mem_cons_self) Bool.false_ne_true

theorem runs_off_nested_drain {s : Sink τ} (hheld : s.held = false) (hgate : s.draining = true) :
    RunsOff cap cb [.drain] s := by
  intro todo
  refine ⟨s, Reaches.head ?_, hheld, rfl⟩
  simp only [List.cons_append, List.nil_append, step, hgate, if_true]
  exact .refl cap cb _

theorem runs_off_invoke (hcb : cb.LockedOnly) (r : Report τ) {gate : Bool}
    (hdrain : ∀ s' : Sink τ, s'.held = false → s'.draining = gate → RunsOff cap cb [.drain] s')
    {s : Sink τ} (hheld : s.held = false) (hgate : s.draining = gate) :
    RunsOff cap cb [.invoke r] s := by
  intro todo
  obtain ⟨s', hreach, hheld', hgate'⟩ := runs_off_script (hcb.1 s.delivered.length) hdrain
    (s := { s with delivered := s.delivered ++ [(r, s.held)] }) hheld hgate todo
  exact ⟨s', Reaches.head hreach, hheld', hgate'⟩

theorem runs_off_batch (cap : ℕ) (hcb : cb.LockedOnly) (batch : List (Report τ)) {s : Sink τ}
    (hheld : s.held = false) (hgate : s.draining = true) :
    RunsOff cap cb (batch.map .invoke) s := by
  induction batch generalizing s with
  | nil => exact fun todo => ⟨s, .refl cap cb _, hheld, rfl⟩
  | cons r batch ih =>
    show RunsOff cap cb ([.invoke r] ++ batch.map .invoke) s
    refine RunsOff.append ?_ fun s' hheld' hgate' => ih hheld' (hgate'.trans hgate)
    exact runs_off_invoke hcb r (fun _ => runs_off_nested_drain) hheld hgate

theorem rounds_end (cap : ℕ) (hcb : cb.LockedOnly) (k : ℕ) (todo : List (Instr τ)) {s : Sink τ}
    (hheld : s.held = false) (hgate : s.draining = true) :
    ∃ s', Reaches cap cb (.round k :: todo, s) (.clear_gate :: todo, s') ∧ s'.held = false := by
  induction hleft : cap - k generalizing k s with
  | zero =>
    refine ⟨s, Reaches.head ?_, hheld⟩
    have hover : ¬k < cap := by omega
    simp only [step, hover, if_false]
    exact .refl cap cb _
  | succ left ih =>
    have hround : k < cap := by omega
    by_cases hempty : s.pending = []
    · -- the hook runs, and the round after it only if it has left something behind
      obtain ⟨s₁, hreach, hheld₁, hgate₁⟩ := runs_off_script (hcb.2 s.hooks)
        (fun _ => runs_off_nested_drain) (s := { s with hooks := s.hooks + 1 }) hheld hgate
        (.test k :: todo)
      have hhook : Reaches cap cb (.round k :: todo, s) (.test k :: todo, s₁) := by
        apply Reaches.head
        simp only [step, hround, hempty, if_true]
        exact Reaches.head hreach
      by_cases hempty₁ : s₁.pending = []
      · refine ⟨s₁, hhook.trans (Reaches.head ?_), hheld₁⟩
        simp only [step, hempty₁, if_true]
        exact .refl cap cb _
      · obtain ⟨s', hreach', hheld'⟩ := ih (k + 1) hheld₁ (hgate₁.trans hgate) (by omega)
        refine ⟨s', hhook.trans (Reaches.head ?_), hheld'⟩
        simp only [step, hempty₁, if_false]
        exact hreach'
    · obtain ⟨s₁, hreach, hheld₁, hgate₁⟩ := runs_off_batch cap hcb s.pending
        (s := { s with pending := [] }) hheld hgate (.round (k + 1) :: todo)
      obtain ⟨s', hreach', hheld'⟩ := ih (k + 1) hheld₁ (hgate₁.trans hgate) (by omega)
      refine ⟨s', Reaches.head ?_, hheld'⟩
      simp only [step, hround, hempty, if_true, if_false]
      exact hreach.trans hreach'

/-- **A drain ends**, and with it the gate is open again. -/
theorem runs_off_drain (hcb : cb.LockedOnly) {s : Sink τ} (hheld : s.held = false)
    (hgate : s.draining = false) : RunsOff cap cb [.drain] s := by
  intro todo
  obtain ⟨s', hreach, hheld'⟩ := rounds_end cap hcb 0 todo
    (s := { s with draining := true }) hheld rfl
  refine ⟨{ s' with draining := false }, Reaches.head ?_, hheld', hgate.symm⟩
  simp only [List.cons_append, List.nil_append, step, hgate, Bool.false_eq_true, if_false]
  exact hreach.trans (Reaches.head (.refl cap cb _))

/-- **Every operation returns.** -/
theorem runs_off_operation (cap : ℕ) (hcb : cb.LockedOnly) (script : List (Segment τ)) {s : Sink τ}
    (hheld : s.held = false) (hgate : s.draining = false) : RunsOff cap cb (code script) s := by
  have hdrain : ∀ s' : Sink τ, s'.held = false → s'.draining = false → RunsOff cap cb [.drain] s' :=
    fun _ => runs_off_drain hcb
  induction script generalizing s with
  | nil => exact fun todo => ⟨s, .refl cap cb _, hheld, rfl⟩
  | cons seg script ih =>
    rw [code_cons]
    refine RunsOff.append ?_ fun s' hheld' hgate' => ih hheld' (hgate'.trans hgate)
    cases seg with
    | locked whats =>
      exact runs_off_locked whats hheld fun s' hheld' hgate' => hdrain s' hheld'
        (hgate'.trans hgate)
    | drain => exact hdrain s hheld hgate
    | report what =>
      intro todo
      obtain ⟨s', hreach, hheld', hgate'⟩ := runs_off_invoke hcb ⟨s.errors, what⟩ hdrain
        (s := s.count what false) hheld hgate todo
      refine ⟨s', Reaches.head ?_, hheld', hgate'⟩
      simp only [Segment.code, List.cons_append, List.nil_append, step, hheld, Bool.false_eq_true,
        if_false]
      exact hreach

end Termination

/-! ## Callbacks that call nothing

What a script then shows is a plain function of it, in one pass: this is how a model
without re-entrance describes the sink. -/

/-- What can be seen of the sink. -/
structure Board (τ : Type) where
  errors : ℕ
  pending : List τ
  /-- What the handler was shown, and whether the lock was held. -/
  shown : List (τ × Bool)
  /-- The lock was taken while it was held. -/
  relocked : Bool
  deriving DecidableEq

def Sink.board (s : Sink τ) : Board τ :=
  ⟨s.errors, s.pending.map Report.what, s.delivered.map fun d => (d.1.what, d.2), s.relocked⟩

namespace Board

/-- A report in a locked scope. -/
def buffer (cap : ℕ) (b : Board τ) (what : τ) : Board τ :=
  { b with
    errors := b.errors + 1
    pending := if b.pending.length < cap then b.pending ++ [what] else b.pending }

/-- A drain, with the lock free. -/
def flush (b : Board τ) : Board τ :=
  { b with pending := [], shown := b.shown ++ b.pending.map fun what => (what, false) }

/-- One piece of a script. -/
def play (cap : ℕ) (b : Board τ) : Segment τ → Board τ
  | .report what => { b with errors := b.errors + 1, shown := b.shown ++ [(what, false)] }
  | .locked whats => (whats.foldl (buffer cap) b).flush
  | .drain => b.flush

/-- From `b` to `b'` the handler was invoked with the lock free only, and the lock was
granted whenever it was taken. -/
def Unlocked (b b' : Board τ) : Prop :=
  b'.relocked = b.relocked ∧ ∃ more, b'.shown = b.shown ++ more ∧ ∀ d ∈ more, d.2 = false

theorem Unlocked.trans {b₁ b₂ b₃ : Board τ} (h : Unlocked b₁ b₂) (h' : Unlocked b₂ b₃) :
    Unlocked b₁ b₃ := by
  obtain ⟨hgranted, more, hmore, hfree⟩ := h
  obtain ⟨hgranted', more', hmore', hfree'⟩ := h'
  refine ⟨hgranted'.trans hgranted, more ++ more', ?_, ?_⟩
  · rw [hmore', hmore, List.append_assoc]
  · intro d hd
    exact (List.mem_append.mp hd).elim (hfree d) (hfree' d)

theorem unlocked_flush (b : Board τ) : Unlocked b b.flush := by
  refine ⟨rfl, b.pending.map fun what => (what, false), rfl, ?_⟩
  intro d hd
  obtain ⟨what, _, rfl⟩ := List.mem_map.mp hd
  rfl

theorem unlocked_buffer (cap : ℕ) (whats : List τ) (b : Board τ) :
    Unlocked b (whats.foldl (buffer cap) b) := by
  induction whats generalizing b with
  | nil => exact ⟨rfl, [], (List.append_nil _).symm, by simp⟩
  | cons what whats ih =>
    have hone : Unlocked b (b.buffer cap what) := ⟨rfl, [], (List.append_nil _).symm, by simp⟩
    exact hone.trans (ih _)

/-- **A script invokes the handler with the lock free only**, and takes the lock only when it
is free. -/
theorem unlocked_play (cap : ℕ) (script : List (Segment τ)) (b : Board τ) :
    Unlocked b (script.foldl (play cap) b) := by
  induction script generalizing b with
  | nil => exact ⟨rfl, [], (List.append_nil _).symm, by simp⟩
  | cons seg script ih =>
    have hseg : Unlocked b (b.play cap seg) := by
      cases seg with
      | report what => exact ⟨rfl, [(what, false)], rfl, by simp⟩
      | locked whats => exact (unlocked_buffer cap whats b).trans (unlocked_flush _)
      | drain => exact unlocked_flush b
    exact hseg.trans (ih _)

end Board

def Callbacks.passive : Callbacks τ := ⟨fun _ => [], fun _ => []⟩

section Passive

variable {cap : ℕ}

/-- The machine runs the code in front of `todo` off, and the board becomes `b`. -/
def Shows (cap : ℕ) (front : List (Instr τ)) (s : Sink τ) (b : Board τ) : Prop :=
  ∀ todo, ∃ s', Reaches cap .passive (front ++ todo, s) (todo, s') ∧ s'.held = false ∧
    s'.draining = s.draining ∧ s'.board = b

theorem passive_reports (cap : ℕ) (whats : List τ) (todo : List (Instr τ)) (s : Sink τ)
    (hheld : s.held = true) :
    ∃ s', Reaches cap .passive (whats.map .report ++ todo, s) (todo, s') ∧
      s'.draining = s.draining ∧ s'.board = whats.foldl (Board.buffer cap) s.board := by
  induction whats generalizing s with
  | nil => exact ⟨s, .refl cap _ _, rfl, rfl⟩
  | cons what whats ih =>
    have hstep : ∃ s₁, step cap .passive ((what :: whats).map .report ++ todo, s)
        = (whats.map .report ++ todo, s₁) ∧ s₁.held = true ∧ s₁.draining = s.draining ∧
          s₁.board = s.board.buffer cap what := by
      by_cases hroom : s.pending.length < cap
      · refine ⟨{ s.count what false with pending := s.pending ++ [⟨s.errors, what⟩] }, ?_,
          hheld, rfl, ?_⟩
        · simp only [List.map_cons, List.cons_append, step, hheld, hroom, if_true]
        · simp [Sink.board, Sink.count, Board.buffer, hroom]
      · refine ⟨s.count what true, ?_, hheld, rfl, ?_⟩
        · simp only [List.map_cons, List.cons_append, step, hheld, hroom, if_true, if_false]
        · simp [Sink.board, Sink.count, Board.buffer, hroom]
    obtain ⟨s₁, hs₁, hheld₁, hgate₁, hboard₁⟩ := hstep
    obtain ⟨s', hreach, hgate', hboard'⟩ := ih s₁ hheld₁
    refine ⟨s', Reaches.head ?_, hgate'.trans hgate₁, ?_⟩
    · rw [hs₁]
      exact hreach
    · rw [hboard', hboard₁, List.foldl_cons]

theorem passive_batch (batch : List (Report τ)) (todo : List (Instr τ)) (s : Sink τ) :
    Reaches cap .passive (batch.map .invoke ++ todo, s)
      (todo, { s with delivered := s.delivered ++ batch.map fun r => (r, s.held) }) := by
  induction batch generalizing s with
  | nil => simpa using Reaches.refl cap _ _
  | cons r batch ih =>
    apply Reaches.head
    have hrest := ih { s with delivered := s.delivered ++ [(r, s.held)] }
    simpa [step, Callbacks.passive] using hrest

theorem passive_round (cap k : ℕ) (todo : List (Instr τ)) {s : Sink τ} (hempty : s.pending = []) :
    ∃ s', Reaches cap .passive (.round k :: todo, s) (todo, s') ∧ s'.held = s.held ∧
      s'.draining = false ∧ s'.board = s.board := by
  by_cases hround : k < cap
  · refine ⟨{ s with hooks := s.hooks + 1, draining := false }, ⟨4, ?_⟩, rfl, rfl, rfl⟩
    simp [run, step, hround, hempty, Callbacks.passive]
  · refine ⟨{ s with draining := false }, ⟨2, ?_⟩, rfl, rfl, rfl⟩
    simp [run, step, hround]

theorem passive_drain (hcap : 0 < cap) {s : Sink τ} (hheld : s.held = false)
    (hgate : s.draining = false) : Shows cap [.drain] s s.board.flush := by
  intro todo
  have hopen : step cap .passive ([.drain] ++ todo, s) =
      (.round 0 :: todo, { s with draining := true }) := by
    simp [step, hgate]
  by_cases hempty : s.pending = []
  · obtain ⟨s', hreach, hheld', hgate', hboard⟩ :=
      passive_round cap 0 todo (s := { s with draining := true }) hempty
    refine ⟨s', Reaches.head (hopen ▸ hreach), hheld'.trans hheld, hgate'.trans hgate.symm, ?_⟩
    rw [hboard]
    simp [Sink.board, Board.flush, hempty]
  · -- one round for the batch, and the next one finds nothing
    obtain ⟨s', hreach, hheld', hgate', hboard⟩ := passive_round cap 1 todo (s := { s with
      draining := true
      pending := []
      delivered := s.delivered ++ s.pending.map fun r => (r, s.held) }) rfl
    refine ⟨s', Reaches.head ?_, hheld'.trans hheld, hgate'.trans hgate.symm, ?_⟩
    · rw [hopen]
      apply Reaches.head
      simp only [step, hcap, hempty, if_true, if_false]
      exact (passive_batch s.pending (.round 1 :: todo)
        { s with draining := true, pending := [] }).trans
        hreach
    · rw [hboard]
      simp [Sink.board, Board.flush, hheld, Function.comp_def]

/-- **A script with callbacks that call nothing** shows what `play` says. -/
theorem passive_script (hcap : 0 < cap) (script : List (Segment τ)) {s : Sink τ}
    (hheld : s.held = false) (hgate : s.draining = false) :
    Shows cap (code script) s (script.foldl (Board.play cap) s.board) := by
  induction script generalizing s with
  | nil => exact fun todo => ⟨s, .refl cap _ _, hheld, rfl, rfl⟩
  | cons seg script ih =>
    have hseg : Shows cap seg.code s (s.board.play cap seg) := by
      cases seg with
      | report what =>
        intro todo
        refine ⟨{ s.count what false with
          delivered := s.delivered ++ [(⟨s.errors, what⟩, s.held)] }, ⟨2, ?_⟩, hheld, rfl, ?_⟩
        · simp [run, step, Segment.code, hheld, Callbacks.passive, Sink.count]
        · simp [Sink.board, Sink.count, Board.play, hheld]
      | drain => exact passive_drain hcap hheld hgate
      | locked whats =>
        intro todo
        obtain ⟨s₁, hreach, hgate₁, hboard₁⟩ :=
          passive_reports cap whats (.unlock :: .drain :: todo) { s with held := true } rfl
        obtain ⟨s₂, hreach₂, hheld₂, hgate₂, hboard₂⟩ :=
          passive_drain hcap (s := { s₁ with held := false }) rfl (hgate₁.trans hgate) todo
        refine ⟨s₂, Reaches.head ?_, hheld₂, hgate₂.trans hgate₁, ?_⟩
        · have hlock : step cap .passive ((Segment.locked whats).code ++ todo, s)
              = (whats.map .report ++ (.unlock :: .drain :: todo), { s with held := true }) := by
            simp [Segment.code, step, hheld]
          rw [hlock]
          exact hreach.trans (Reaches.head hreach₂)
        · rw [hboard₂]
          exact congrArg Board.flush hboard₁
    intro todo
    obtain ⟨s₁, hreach, hheld₁, hgate₁, hboard₁⟩ := hseg (code script ++ todo)
    obtain ⟨s₂, hreach₂, hheld₂, hgate₂, hboard₂⟩ := ih hheld₁ (hgate₁.trans hgate) todo
    refine ⟨s₂, ?_, hheld₂, hgate₂.trans hgate₁, ?_⟩
    · rw [code_cons, List.append_assoc]
      exact hreach.trans hreach₂
    · rw [hboard₂, hboard₁, List.foldl_cons]

end Passive

end FixEngine.Deferred
