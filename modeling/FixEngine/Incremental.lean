/-
Incremental consumers of a stream.

A consumer looks at the bytes (of any type) buffered so far and either takes some
of them off the front, producing outputs, or waits. `run step` repeats that until
it waits. When a decision, once taken, survives the arrival of further input
(`Stable`), it does not matter when the consumer is run: `run_append` says that
running it on a part and then on what is left with the rest is the same as
running it on the whole.

A consumer need not see the stream in one piece. `Consumes` is how far it can have
got when each decision was taken on some part of what lay ahead: it says which
outputs are possible whatever the chunks were. Where each output is the text that
was used up for it, they are disjoint slices of the stream (`Consumes.sliced`), and
where the stream goes with a plan that every decision keeps to, the outputs are
those of the plan (`Consumes.follows`).
-/
import Mathlib

set_option autoImplicit false

namespace FixEngine.Incremental

variable {α β : Type}

/-- One decision of a consumer: the outputs and how much input they used, or
`none` to wait. -/
abbrev Step (α β : Type) : Type := List α → Option (List β × ℕ)

/-- Every decision uses input, and no more than there is. -/
structure Progress (step : Step α β) : Prop where
  pos : ∀ {x : List α} {o : List β} {n : ℕ}, step x = some (o, n) → 0 < n
  le : ∀ {x : List α} {o : List β} {n : ℕ}, step x = some (o, n) → n ≤ x.length

/-- Outputs and consumption, one run after another. -/
def join (a b : List β × ℕ) : List β × ℕ := (a.1 ++ b.1, a.2 + b.2)

theorem join_assoc (a b c : List β × ℕ) : join (join a b) c = join a (join b c) := by
  simp [join, Nat.add_assoc]

@[simp] theorem join_nil (a : List β × ℕ) : join ([], 0) a = a := by simp [join]

/-- Repeat `step`, at most `fuel` times. -/
def run_loop (step : Step α β) : ℕ → List α → List β × ℕ
  | 0, _ => ([], 0)
  | fuel + 1, x =>
    match step x with
    | none => ([], 0)
    | some (o, n) => join (o, n) (run_loop step fuel (x.drop n))

/-- Repeat `step` until it waits. -/
def run (step : Step α β) (x : List α) : List β × ℕ := run_loop step (x.length + 1) x

/-- What a run leaves in the buffer. -/
def rest (step : Step α β) (x : List α) : List α := x.drop (run step x).2

variable {step : Step α β} {x : List α}

/-- What a step leaves is shorter. -/
theorem Progress.length_drop_lt (hs : Progress step) {o : List β}
    {n : ℕ} (h : step x = some (o, n)) : (x.drop n).length < x.length := by
  have hpos := hs.pos h
  have hle := hs.le h
  rw [List.length_drop]
  omega

theorem run_loop_eq (hs : Progress step) {fuel : ℕ}
    (h : x.length < fuel) : run_loop step fuel x = run step x := by
  induction fuel using Nat.strong_induction_on generalizing x with
  | _ fuel ih =>
    obtain ⟨k, rfl⟩ : ∃ k, fuel = k + 1 := ⟨fuel - 1, by omega⟩
    unfold run run_loop
    rcases hx : step x with _ | ⟨o, n⟩
    · rfl
    · have hshort := hs.length_drop_lt hx
      have h1 := ih k (by omega) (x := x.drop n) (by omega)
      have h2 := ih x.length (by omega) (x := x.drop n) (by omega)
      simp only [h1, h2]

theorem run_of_none (h : step x = none) :
    run step x = ([], 0) := by
  unfold run run_loop
  rw [h]

theorem run_of_some (hs : Progress step) {o : List β} {n : ℕ}
    (h : step x = some (o, n)) : run step x = join (o, n) (run step (x.drop n)) := by
  rw [← run_loop_eq hs (hs.length_drop_lt h)]
  conv_lhs => unfold run run_loop
  rw [h]

theorem run_le (hs : Progress step) (x : List α) :
    (run step x).2 ≤ x.length := by
  induction hlen : x.length using Nat.strong_induction_on generalizing x with
  | _ len ih =>
    rcases hx : step x with _ | ⟨o, n⟩
    · rw [run_of_none hx]
      exact Nat.zero_le _
    · have hpos := hs.pos hx
      have hle := hs.le hx
      have hd : (x.drop n).length = x.length - n := List.length_drop
      have := ih _ (by omega) (x.drop n) rfl
      rw [run_of_some hs hx]
      simp only [join]
      omega

theorem step_rest (hs : Progress step) (x : List α) :
    step (rest step x) = none := by
  induction hlen : x.length using Nat.strong_induction_on generalizing x with
  | _ len ih =>
    rcases hx : step x with _ | ⟨o, n⟩
    · rw [rest, run_of_none hx, List.drop_zero]
      exact hx
    · have := ih _ (hlen ▸ hs.length_drop_lt hx) (x.drop n) rfl
      rw [rest, run_of_some hs hx]
      rw [rest, List.drop_drop] at this
      exact this

/-- A decision survives the arrival of more input: on buffers of an admitted
length, running on `x ++ e` starts with what was decided on `x`. -/
def Stable (step : Step α β) (admitted : ℕ → Prop) : Prop :=
  ∀ (x e : List α) (o : List β) (n : ℕ), admitted (x ++ e).length → step x = some (o, n) →
    run step (x ++ e) = join (o, n) (run step (x.drop n ++ e))

/-- **Runs compose.** -/
theorem run_append (hs : Progress step) {admitted : ℕ → Prop}
    (hmono : ∀ m n, m ≤ n → admitted n → admitted m) (hst : Stable step admitted)
    (x e : List α) (ha : admitted (x ++ e).length) :
    run step (x ++ e) = join (run step x) (run step (rest step x ++ e)) := by
  induction hlen : x.length using Nat.strong_induction_on generalizing x with
  | _ len ih =>
    rcases hx : step x with _ | ⟨o, n⟩
    · rw [rest, run_of_none hx, join_nil, List.drop_zero]
    · have hshort := hs.length_drop_lt hx
      have hadm : admitted (x.drop n ++ e).length := by
        refine hmono _ _ ?_ ha
        rw [List.length_append, List.length_append]
        omega
      rw [hst x e o n ha hx, ih _ (by omega) (x.drop n) hadm rfl, rest, rest, run_of_some hs hx,
        join_assoc, List.drop_drop]
      rfl

/-! ## Slices of a stream -/

section Sliced

variable {s : List α} {hi : ℕ} {pieces : List (List α)}

/-- A slice of a stream: where it starts, and its text. -/
structure Slice (s : List α) (hi : ℕ) (c : ℕ × List α) : Prop where
  nonempty : c.2 ≠ []
  le : c.1 + c.2.length ≤ hi
  text : (s.drop c.1).take c.2.length = c.2

/-- The pieces are slices of the stream at increasing offsets, disjoint, none of them
going past `hi`. -/
def Sliced (s : List α) (hi : ℕ) (pieces : List (List α)) : Prop :=
  ∃ cuts : List (ℕ × List α), cuts.map Prod.snd = pieces ∧ (∀ c ∈ cuts, Slice s hi c) ∧
    cuts.Pairwise fun a b => a.1 + a.2.length ≤ b.1

theorem sliced_nil : Sliced s hi [] :=
  ⟨[], rfl, by simp, List.Pairwise.nil⟩

theorem Sliced.mono (h : Sliced s hi pieces) {hi' : ℕ} (hle : hi ≤ hi') : Sliced s hi' pieces := by
  obtain ⟨cuts, hmap, hcut, hapart⟩ := h
  refine ⟨cuts, hmap, fun c hc => ?_, hapart⟩
  obtain ⟨hne, hend, htext⟩ := hcut c hc
  exact ⟨hne, hend.trans hle, htext⟩

theorem Sliced.snoc (h : Sliced s hi pieces) {hi' : ℕ} {piece : List α}
    (hnew : Slice s hi' (hi, piece)) : Sliced s hi' (pieces ++ [piece]) := by
  obtain ⟨cuts, rfl, hcut, hapart⟩ := h
  have hle : hi ≤ hi' := (Nat.le_add_right _ _).trans hnew.le
  refine ⟨cuts ++ [(hi, piece)], by rw [List.map_append]; rfl, fun c hc => ?_, ?_⟩
  · rcases List.mem_append.mp hc with hc | hc
    · obtain ⟨hne, hend, htext⟩ := hcut c hc
      exact ⟨hne, hend.trans hle, htext⟩
    · rw [List.mem_singleton.mp hc]
      exact hnew
  · rw [List.pairwise_append]
    refine ⟨hapart, List.pairwise_singleton _ _, fun a ha b hb => ?_⟩
    rw [List.mem_singleton.mp hb]
    exact (hcut a ha).le

theorem Sliced.left {more : List (List α)} (h : Sliced s hi (pieces ++ more)) :
    Sliced s hi pieces := by
  obtain ⟨cuts, hmap, hcut, hapart⟩ := h
  have htake : (cuts.take pieces.length).map Prod.snd = pieces := by
    rw [List.map_take, hmap, List.take_left']
    rfl
  exact ⟨cuts.take pieces.length, htake, fun c hc => hcut c (List.mem_of_mem_take hc),
    hapart.sublist (List.take_sublist _ _)⟩

end Sliced

/-! ## A stream seen in parts -/

/-- How far a consumer can have got on a stream of which it sees more and more: every
decision was taken on some part of what was not yet used. -/
inductive Consumes (step : Step α β) (s : List α) : ℕ → List β → Prop where
  | start : Consumes step s 0 []
  | decided {c n : ℕ} {out o : List β} {x : List α} (h : Consumes step s c out)
      (hx : x <+: s.drop c) (hstep : step x = some (o, n)) : Consumes step s (c + n) (out ++ o)

namespace Consumes

variable {step : Step α β} {s : List α} {c : ℕ} {out : List β}

theorem le (hs : Progress step) (h : Consumes step s c out) : c ≤ s.length := by
  induction h with
  | start => exact Nat.zero_le _
  | decided h hx hstep ih =>
    have hn := hs.le hstep
    have hlen := hx.length_le
    rw [List.length_drop] at hlen
    omega

theorem append_input (hs : Progress step) (h : Consumes step s c out) (e : List α) :
    Consumes step (s ++ e) c out := by
  induction h with
  | start => exact .start
  | decided h hx hstep ih =>
    refine .decided ih ?_ hstep
    rw [List.drop_append_of_le_length (h.le hs)]
    exact hx.trans (List.prefix_append _ _)

theorem mono {step' : Step α β} (hstep : ∀ {x r}, step x = some r → step' x = some r)
    (h : Consumes step s c out) : Consumes step' s c out := by
  induction h with
  | start => exact .start
  | decided _ hx hdecided ih => exact .decided ih hx (hstep hdecided)

theorem forall_mem {P : β → Prop} (hstep : ∀ {x o n}, step x = some (o, n) → ∀ b ∈ o, P b)
    (h : Consumes step s c out) : ∀ b ∈ out, P b := by
  induction h with
  | start => simp
  | decided h hx hdecided ih =>
    intro b hb
    rcases List.mem_append.mp hb with hb | hb
    · exact ih b hb
    · exact hstep hdecided b hb

/-- **Outputs that are what was used up for them are disjoint slices.** -/
theorem sliced (hs : Progress step) {text : β → List α}
    (hcut : ∀ {x o n}, step x = some (o, n) → o = [] ∨ ∃ b, o = [b] ∧ text b = x.take n)
    (h : Consumes step s c out) : Sliced s c (out.map text) := by
  induction h with
  | start => exact sliced_nil
  | @decided c n out o x h hx hstep ih =>
    have hpos := hs.pos hstep
    have hn := hs.le hstep
    rcases hcut hstep with rfl | ⟨b, rfl, htext⟩
    · rw [List.append_nil]
      exact ih.mono (Nat.le_add_right _ _)
    · have hlength : (text b).length = n := by
        rw [htext, List.length_take, Nat.min_eq_left hn]
      rw [List.map_append]
      refine ih.snoc ⟨?_, ?_, ?_⟩
      · intro (hnil : text b = [])
        rw [hnil, List.length_nil] at hlength
        omega
      · rw [hlength]
      · -- the output was cut off the front of the part that was seen
        rw [hlength, htext]
        obtain ⟨more, hmore⟩ := hx
        rw [← hmore, List.take_append_of_le_length hn]

end Consumes

/-- A consumer keeps to a plan for what lies ahead of it, which says which outputs are due on
which stream: any decision on a part of the stream produces the next of them. -/
def Follows (step : Step α β) (plan : List α → List β → Prop) : Prop :=
  ∀ {s x : List α} {due o : List β} {n : ℕ}, plan s due → x <+: s → step x = some (o, n) →
    ∃ later, due = o ++ later ∧ plan (s.drop n) later

/-- **What has been produced is what was due, up to what is still due.** -/
theorem Consumes.follows {plan : List α → List β → Prop} (hf : Follows step plan)
    {s : List α} {c : ℕ} {out due : List β} (h : Consumes step s c out) (hplan : plan s due) :
    ∃ later, due = out ++ later ∧ plan (s.drop c) later := by
  induction h with
  | start => exact ⟨due, rfl, hplan⟩
  | decided h hx hstep ih =>
    obtain ⟨later, rfl, hlater⟩ := ih
    obtain ⟨later', rfl, hrest⟩ := hf hlater hx hstep
    rw [List.drop_drop] at hrest
    exact ⟨later', (List.append_assoc _ _ _).symm, hrest⟩

end FixEngine.Incremental
