/-
Custody of items that are handed from place to place.

A state says which items are at which place. `Only` says that an item is once at one place
and nowhere else. A step that takes some items from one place to another keeps that for
every item (`Transfer.only`), and so does one that brings in a new item (`only_new`). Where
the items are numbered in the order in which they come in, `Goes` is the steps that there are,
and `Goes.numbered` the rule: a component that moves its resources about shows for each of its
steps that it is one of these; that nothing is lost and nothing is held twice then needs
no further argument.
-/
import Mathlib.Data.List.Count

set_option autoImplicit false

namespace FixEngine.Custody

variable {P R : Type} [DecidableEq R] {before after : P → List R} {p q o : P} {xs : List R} {r : R}

/-- The item is at this place, once, and at no other. -/
def Only (contents : P → List R) (r : R) (p : P) : Prop :=
  (contents p).count r = 1 ∧ ∀ q, q ≠ p → (contents q).count r = 0

/-- The items `xs` go from `p` to `q`. -/
structure Transfer (before after : P → List R) (p q : P) (xs : List R) : Prop where
  differ : p ≠ q
  taken : ∀ r, (before p).count r = xs.count r + (after p).count r
  given : ∀ r, (after q).count r = (before q).count r + xs.count r
  rest : ∀ o, o ≠ p → o ≠ q → after o = before o

theorem Only.congr (h : Only before r p) (heq : ∀ q, (after q).count r = (before q).count r) :
    Only after r p :=
  ⟨(heq p).trans h.1, fun q hq => (heq q).trans (h.2 q hq)⟩

theorem Transfer.only_given (h : Transfer before after p q xs) (ho : Only before r o)
    (hr : r ∈ xs) :
    Only after r q := by
  have hpos : 0 < xs.count r := List.count_pos_iff.mpr hr
  have htaken := h.taken r
  have hgiven := h.given r
  -- it was at `p`, since something was taken from there
  have hplace : o = p := by
    by_contra hne
    have hzero := ho.2 p (Ne.symm hne)
    omega
  subst hplace
  have hone := ho.1
  have hq := ho.2 q (Ne.symm h.differ)
  refine ⟨by omega, fun u hu => ?_⟩
  by_cases hup : u = o
  · subst hup
    omega
  · rw [h.rest u hup hu]
    exact ho.2 u hup

theorem Transfer.only_kept (h : Transfer before after p q xs) (ho : Only before r o) (hr : r ∉ xs) :
    Only after r o := by
  have hzero : xs.count r = 0 := List.count_eq_zero.mpr hr
  apply ho.congr
  intro u
  have htaken := h.taken r
  have hgiven := h.given r
  by_cases hup : u = p
  · subst hup
    omega
  · by_cases huq : u = q
    · subst huq
      omega
    · rw [h.rest u hup huq]

/-- **A transfer loses nothing and doubles nothing.** -/
theorem Transfer.only (h : Transfer before after p q xs) (ho : ∃ o, Only before r o) :
    ∃ o, Only after r o := by
  obtain ⟨o, ho⟩ := ho
  by_cases hr : r ∈ xs
  · exact ⟨q, h.only_given ho hr⟩
  · exact ⟨o, h.only_kept ho hr⟩

theorem only_new (hnew : ∀ u, (before u).count r = 0)
    (hq : (after q).count r = (before q).count r + 1)
    (hrest : ∀ o, o ≠ q → (after o).count r = (before o).count r) : Only after r q :=
  ⟨by rw [hq, hnew q], fun o ho => (hrest o ho).trans (hnew o)⟩

/-! ## Numbered items -/

section Numbered

variable {here there : P → List ℕ} {n n' c : ℕ}

/-- There are `n` items, each in one place. -/
structure Numbered (contents : P → List ℕ) (n : ℕ) : Prop where
  only : ∀ c < n, ∃ p, Only contents c p
  fresh : ∀ c, n ≤ c → ∀ p, (contents p).count c = 0

theorem Numbered.lt (h : Numbered here n) (hc : c ∈ here p) : c < n := by
  by_contra hge
  exact absurd (h.fresh c (by omega) p) (Nat.ne_of_gt (List.count_pos_iff.mpr hc))

theorem Numbered.apart (h : Numbered here n) (hp : c ∈ here p) (hq : c ∈ here q) : p = q := by
  obtain ⟨o, ho⟩ := h.only c (h.lt hp)
  have hplace : ∀ u, c ∈ here u → u = o := by
    intro u hu
    by_contra hne
    exact absurd (ho.2 u hne) (Nat.ne_of_gt (List.count_pos_iff.mpr hu))
  rw [hplace p hp, hplace q hq]

variable [DecidableEq P]

/-- What a step can do, from `here` with `n` items. -/
inductive Goes (here : P → List ℕ) (n : ℕ) (there : P → List ℕ) : ℕ → Prop where
  | stays (h : ∀ p c, (there p).count c = (here p).count c) : Goes here n there n
  | moves {p q : P} {l : List ℕ} (h : Transfer here there p q l) : Goes here n there n
  | new (q : P) (h : ∀ p c, (there p).count c = (here p).count c + if p = q ∧ c = n then 1 else 0) :
    Goes here n there (n + 1)

theorem Goes.le (h : Goes here n there n') : n ≤ n' := by
  cases h <;> omega

theorem Goes.only (h : Goes here n there n') (hn : Numbered here n) (hc : c < n') :
    ∃ p, Only there c p := by
  cases h with
  | stays h =>
    obtain ⟨p, hp⟩ := hn.only c hc
    exact ⟨p, hp.congr fun q => h q c⟩
  | moves h => exact h.only (hn.only c hc)
  | new q h =>
    by_cases hnew : c = n
    · refine ⟨q, only_new (hn.fresh c (by omega)) ?_ fun o ho => ?_⟩
      · rw [h, if_pos ⟨rfl, hnew⟩]
      · rw [h, if_neg (fun both => ho both.1), Nat.add_zero]
    · obtain ⟨p, hp⟩ := hn.only c (by omega)
      refine ⟨p, hp.congr fun o => ?_⟩
      rw [h, if_neg (fun both => hnew both.2), Nat.add_zero]

theorem Goes.fresh (h : Goes here n there n') (hn : Numbered here n) (hc : n' ≤ c) (u : P) :
    (there u).count c = 0 := by
  have hzero := hn.fresh c (Nat.le_trans h.le hc)
  cases h with
  | stays h => rw [h, hzero u]
  | @moves p q l h =>
    have htaken := h.taken c
    have hgiven := h.given c
    have hfrom := hzero p
    have hto := hzero q
    by_cases hup : u = p
    · subst hup
      omega
    · by_cases huq : u = q
      · subst huq
        omega
      · rw [h.rest u hup huq, hzero u]
  | new q h => rw [h, hzero u, if_neg (by omega)]

/-- **Every step keeps every item in one place.** -/
theorem Goes.numbered (h : Goes here n there n') (hn : Numbered here n) : Numbered there n' :=
  ⟨fun _ hc => h.only hn hc, fun _ hc => h.fresh hn hc⟩

end Numbered

end FixEngine.Custody
