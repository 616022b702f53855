/-
Scanning a list up to the first element that stops the scan.

`takeWhile p l` and `dropWhile p l` are the two halves of such a scan. The lemmas
say where it stops when the stop is known (`takeWhile_append_cons`,
`dropWhile_append_cons`), what the list looked like when it did stop
(`eq_append_of_dropWhile`), and that a scan that has stopped does not see what is
appended behind it (`takeWhile_append_of_stop`, `dropWhile_append_of_stop`). A
reader of delimited input is a composition of these.
-/
import Mathlib

set_option autoImplicit false

namespace FixEngine.Scan

variable {α : Type} {p : α → Bool}

theorem takeWhile_append_cons {a b : List α} {x : α} (ha : ∀ c ∈ a, p c = true)
    (hx : p x = false) : (a ++ x :: b).takeWhile p = a := by
  rw [List.takeWhile_append_of_pos ha, List.takeWhile_cons_of_neg (by simp [hx]), List.append_nil]

theorem dropWhile_append_cons {a b : List α} {x : α} (ha : ∀ c ∈ a, p c = true)
    (hx : p x = false) : (a ++ x :: b).dropWhile p = x :: b := by
  rw [List.dropWhile_append_of_pos ha, List.dropWhile_cons_of_neg (by simp [hx])]

theorem takeWhile_append_barrier (l b : List α) {x : α} (hx : p x = false) :
    (l ++ x :: b).takeWhile p = l.takeWhile p := by
  rw [List.takeWhile_append, List.takeWhile_cons_of_neg (by simp [hx]), List.append_nil]
  split
  · rename_i hall
    exact ((List.takeWhile_prefix p).eq_of_length hall).symm
  · rfl

theorem eq_append_of_dropWhile {l b : List α} {x : α} (h : l.dropWhile p = x :: b) :
    l = l.takeWhile p ++ x :: b ∧ p x = false := by
  refine ⟨by rw [← h, List.takeWhile_append_dropWhile], ?_⟩
  have hne := List.head?_dropWhile_not p l
  rw [h] at hne
  simpa using hne

theorem all_of_dropWhile_nil {l : List α} (h : l.dropWhile p = []) : ∀ c ∈ l, p c = true :=
  List.dropWhile_eq_nil_iff.1 h

theorem takeWhile_append_of_stop {l b : List α} {x : α} (e : List α)
    (h : l.dropWhile p = x :: b) : (l ++ e).takeWhile p = l.takeWhile p := by
  obtain ⟨hl, hx⟩ := eq_append_of_dropWhile h
  nth_rewrite 1 [hl]
  rw [List.append_assoc, List.cons_append]
  exact takeWhile_append_cons (fun c hc => List.mem_takeWhile_imp hc) hx

theorem dropWhile_append_of_stop {l b : List α} {x : α} (e : List α)
    (h : l.dropWhile p = x :: b) : (l ++ e).dropWhile p = x :: (b ++ e) := by
  obtain ⟨hl, hx⟩ := eq_append_of_dropWhile h
  rw [hl, List.append_assoc, List.cons_append]
  exact dropWhile_append_cons (fun c hc => List.mem_takeWhile_imp hc) hx

theorem append_cons_inj {a a' b b' : List α} {x : α} (ha : x ∉ a) (ha' : x ∉ a')
    (h : a ++ x :: b = a' ++ x :: b') : a = a' ∧ b = b' := by
  induction a generalizing a' with
  | nil =>
    cases a' with
    | nil => exact ⟨rfl, (List.cons.inj h).2⟩
    | cons c a' =>
      obtain ⟨hc, -⟩ := List.cons.inj h
      exact absurd (hc ▸ List.mem_cons_self) ha'
  | cons c a ih =>
    cases a' with
    | nil =>
      obtain ⟨hc, -⟩ := List.cons.inj h
      exact absurd (hc ▸ List.mem_cons_self) ha
    | cons c' a' =>
      obtain ⟨hc, hr⟩ := List.cons.inj h
      obtain ⟨h1, h2⟩ := ih (fun hm => ha (List.mem_cons_of_mem _ hm))
        (fun hm => ha' (List.mem_cons_of_mem _ hm)) hr
      exact ⟨by rw [hc, h1], h2⟩

end FixEngine.Scan
