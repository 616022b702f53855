/-
Loops without fuel, and interleavings.

A turn of a `while` loop either goes on with a new state or leaves with a result.
`Visits` is the states that the loop comes through, and `Returns` says that the loop
ends, and with what: a loop that spins forever returns nothing. A definition by
recursion on fuel returns a value in any case, so that alone says nothing about the
loop. `Returns.of_fuel` is the link: where an invariant holds and a measure goes down
at every turn, the recursion on that much fuel computes what the loop returns.

An interleaving of threads is a list of steps, each of them possible where it comes.
`run_invariant` is the rule for what every step keeps.
-/
import Mathlib.Data.Nat.Notation
import Mathlib.Logic.Relation

set_option autoImplicit false

namespace FixEngine.Loop

variable {σ ρ : Type}

/-- What one turn comes to. -/
inductive Turn (σ ρ : Type) : Type where
  | next (s : σ)
  | leave (r : ρ)

/-- The states at the head of the loop, from a given one on. -/
def Visits (turn : σ → Turn σ ρ) : σ → σ → Prop :=
  Relation.ReflTransGen fun s s' => turn s = .next s'

/-- The loop ends with a result. -/
inductive Returns (turn : σ → Turn σ ρ) : σ → ρ → Prop where
  | leave {s : σ} {r : ρ} (h : turn s = .leave r) : Returns turn s r
  | next {s s' : σ} {r : ρ} (h : turn s = .next s') (hr : Returns turn s' r) : Returns turn s r

variable {turn : σ → Turn σ ρ}

theorem Visits.invariant (inv : σ → Prop) (hstep : ∀ {s s'}, inv s → turn s = .next s' → inv s')
    {s t : σ} (h : Visits turn s t) (hs : inv s) : inv t := by
  induction h with
  | refl => exact hs
  | tail _ hturn ih => exact hstep ih hturn

/-- **Enough fuel.** A recursion that takes one unit of fuel for a turn computes what
the loop returns, when there is as much fuel as the measure says. -/
theorem Returns.of_fuel (inv : σ → Prop) (measure : σ → ℕ) (run : ℕ → σ → ρ)
    (hstep : ∀ {s s'}, inv s → turn s = .next s' → inv s')
    (hdown : ∀ {s s'}, inv s → turn s = .next s' → measure s' < measure s)
    (hrun : ∀ {s s'} (fuel : ℕ), inv s → turn s = .next s' → run (fuel + 1) s = run fuel s')
    (hleave : ∀ {s r} (fuel : ℕ), inv s → measure s ≤ fuel → turn s = .leave r → run fuel s = r)
    {fuel : ℕ} {s : σ} (hs : inv s) (hfuel : measure s ≤ fuel) : Returns turn s (run fuel s) := by
  induction fuel generalizing s with
  | zero =>
    rcases hturn : turn s with s' | r
    · have hless := hdown hs hturn
      omega
    · rw [hleave 0 hs hfuel hturn]
      exact .leave hturn
  | succ fuel ih =>
    rcases hturn : turn s with s' | r
    · rw [hrun fuel hs hturn]
      have hless := hdown hs hturn
      exact .next hturn (ih (hstep hs hturn) (by omega))
    · rw [hleave (fuel + 1) hs hfuel hturn]
      exact .leave hturn

/-! ## Interleavings -/

variable {ε : Type}

/-- The state after a sequence of steps, each of them possible where it comes. -/
def run (step : σ → ε → Option σ) (s : σ) (steps : List ε) : Option σ := steps.foldlM step s

/-- **What every step keeps, every interleaving keeps.** -/
theorem run_invariant {step : σ → ε → Option σ} {inv : σ → Prop}
    (hstep : ∀ {s e s'}, inv s → step s e = some s' → inv s') {s s' : σ} {steps : List ε}
    (hs : inv s) (h : run step s steps = some s') : inv s' := by
  induction steps generalizing s with
  | nil =>
    obtain rfl := Option.some.inj h
    exact hs
  | cons e steps ih =>
    rw [run, List.foldlM_cons] at h
    obtain ⟨mid, hmid, hrest⟩ := Option.bind_eq_some_iff.mp h
    exact ih (hstep hs hmid) hrest

end FixEngine.Loop
