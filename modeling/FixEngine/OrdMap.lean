/-
`OrdMap.lean` -- an ordered map as a strictly ascending list of entries.

The list carries the proof that its keys ascend, so the order of a walk never
has to be re-established by a client: insertion is the only way to grow a map,
and `insert` keeps the field. The two views a client needs are membership of an
entry (`mem_insert`) and the walk of a closed range of keys (`range`), which is
computed as iterators compute it, a lower bound followed by a bounded advance,
and is proved to be the filter of the entries (`range_eq_filter`). `Related` is
the pointwise relation of two maps with the same keys; it is what a refinement
between two representations of the values carries along.
-/
import Mathlib

set_option autoImplicit false

namespace FixEngine

universe u v w

/-- A finite map whose entries are listed in strictly ascending key order. -/
structure OrdMap (κ : Type u) (α : Type v) [LinearOrder κ] where
  entries : List (κ × α)
  ascending : entries.Pairwise (fun a b => a.1 < b.1)

namespace OrdMap

variable {κ : Type u} {α : Type v} {β : Type w} [LinearOrder κ]

@[ext] theorem ext_entries {m₁ m₂ : OrdMap κ α} (h : m₁.entries = m₂.entries) : m₁ = m₂ := by
  cases m₁
  cases m₂
  congr

instance [DecidableEq κ] [DecidableEq α] : DecidableEq (OrdMap κ α) := fun m₁ m₂ =>
  decidable_of_iff (m₁.entries = m₂.entries) ⟨ext_entries, fun h => h ▸ rfl⟩

/-! ## Insertion -/

/-- Put `v` at `k` in an ascending list, replacing an entry of the same key. -/
def insert_entry (k : κ) (v : α) : List (κ × α) → List (κ × α)
  | [] => [(k, v)]
  | e :: es =>
    if k < e.1 then (k, v) :: e :: es
    else if k = e.1 then (k, v) :: es
    else e :: insert_entry k v es

variable {es : List (κ × α)} {k : κ}

theorem key_of_mem_insert_entry {v : α} {e : κ × α}
    (h : e ∈ insert_entry k v es) : e = (k, v) ∨ e ∈ es := by
  induction es with
  | nil => exact .inl (List.mem_singleton.mp h)
  | cons a es ih =>
    rw [insert_entry] at h
    split at h
    · exact (List.mem_cons.mp h).imp_right id
    · split at h
      · exact (List.mem_cons.mp h).imp_right (List.mem_cons_of_mem a)
      · rcases List.mem_cons.mp h with rfl | h
        · exact .inr List.mem_cons_self
        · exact (ih h).imp_right (List.mem_cons_of_mem a)

theorem insert_entry_ascending (k : κ) (v : α)
    (h : es.Pairwise (fun a b => a.1 < b.1)) :
    (insert_entry k v es).Pairwise (fun a b => a.1 < b.1) := by
  induction es with
  | nil => exact List.pairwise_singleton _ _
  | cons a es ih =>
    have ⟨hhead, htail⟩ := List.pairwise_cons.mp h
    rw [insert_entry]
    split
    · rename_i hlt
      apply List.pairwise_cons.mpr
      refine ⟨?_, h⟩
      intro b hb
      rcases List.mem_cons.mp hb with rfl | hb
      · exact hlt
      · exact lt_trans hlt (hhead b hb)
    · split
      · rename_i heq
        subst heq
        exact List.pairwise_cons.mpr ⟨hhead, htail⟩
      · rename_i hge hne
        apply List.pairwise_cons.mpr
        refine ⟨?_, ih htail⟩
        intro b hb
        rcases key_of_mem_insert_entry hb with rfl | hb
        · exact lt_of_le_of_ne (not_lt.mp hge) (Ne.symm hne)
        · exact hhead b hb

/-- The map without entries. -/
def empty : OrdMap κ α := ⟨[], List.Pairwise.nil⟩

/-- The map with `v` at `k` and every other entry as before. -/
def insert (k : κ) (v : α) (m : OrdMap κ α) : OrdMap κ α :=
  ⟨insert_entry k v m.entries, insert_entry_ascending k v m.ascending⟩

@[simp] theorem entries_empty : (empty : OrdMap κ α).entries = [] := rfl

@[simp] theorem entries_insert (k : κ) (v : α) (m : OrdMap κ α) :
    (m.insert k v).entries = insert_entry k v m.entries := rfl

theorem mem_insert_entry {v : α}
    (h : es.Pairwise (fun a b => a.1 < b.1)) (e : κ × α) :
    e ∈ insert_entry k v es ↔ e = (k, v) ∨ (e.1 ≠ k ∧ e ∈ es) := by
  induction es with
  | nil => simp [insert_entry]
  | cons a es ih =>
    have ⟨hhead, htail⟩ := List.pairwise_cons.mp h
    -- Beyond an entry above `k` no entry has the key `k`.
    have hne : ∀ b ∈ es, k ≤ a.1 → b.1 ≠ k :=
      fun b hb hle => ne_of_gt (lt_of_le_of_lt hle (hhead b hb))
    rw [insert_entry]
    split
    · rename_i hlt
      have hall : ∀ b ∈ a :: es, b.1 ≠ k := by
        intro b hb
        rcases List.mem_cons.mp hb with rfl | hb
        · exact ne_of_gt hlt
        · exact hne b hb hlt.le
      rw [List.mem_cons]
      exact or_congr_right ⟨fun he => ⟨hall e he, he⟩, And.right⟩
    · split
      · rename_i heq
        rw [List.mem_cons]
        apply or_congr_right
        refine ⟨fun he => ⟨hne e he heq.le, List.mem_cons_of_mem a he⟩, ?_⟩
        rintro ⟨hk, he⟩
        exact (List.mem_cons.mp he).resolve_left fun h => hk (h ▸ heq.symm)
      · rename_i hge hak
        have ha : a.1 ≠ k := fun h => hak h.symm
        rw [List.mem_cons, ih htail, List.mem_cons]
        refine ⟨?_, ?_⟩
        · rintro (rfl | h | ⟨h₁, h₂⟩)
          · exact .inr ⟨ha, .inl rfl⟩
          · exact .inl h
          · exact .inr ⟨h₁, .inr h₂⟩
        · rintro (h | ⟨h₁, rfl | h₂⟩)
          · exact .inr (.inl h)
          · exact .inl rfl
          · exact .inr (.inr ⟨h₁, h₂⟩)

theorem mem_insert (k : κ) (v : α) (m : OrdMap κ α) (e : κ × α) :
    e ∈ (m.insert k v).entries ↔ e = (k, v) ∨ (e.1 ≠ k ∧ e ∈ m.entries) :=
  mem_insert_entry m.ascending e

/-! ## The walk of a range -/

/-- The entries from the first key that is not below `k`. -/
def lower_bound (k : κ) (m : OrdMap κ α) : List (κ × α) :=
  m.entries.dropWhile (fun e => e.1 < k)

/-- The greatest key. -/
def last_key (m : OrdMap κ α) : Option κ := m.entries.getLast?.map Prod.fst

/-- The walk from the lower bound of `first` up to and including `last`. -/
def range (first last : κ) (m : OrdMap κ α) : List (κ × α) :=
  (m.lower_bound first).takeWhile (fun e => e.1 ≤ last)

theorem takeWhile_le_eq_filter (h : es.Pairwise (fun a b => a.1 < b.1))
    (k : κ) : es.takeWhile (fun e => e.1 ≤ k) = es.filter (fun e => e.1 ≤ k) := by
  induction es with
  | nil => rfl
  | cons a es ih =>
    have ⟨hhead, htail⟩ := List.pairwise_cons.mp h
    rw [List.takeWhile_cons, List.filter_cons]
    split
    · rw [ih htail]
    · rename_i ha
      have hlt : k < a.1 := by simpa using ha
      have hnone : ∀ b ∈ es, ¬ (decide (b.1 ≤ k) = true) := by
        intro b hb
        simpa using lt_trans hlt (hhead b hb)
      exact (List.filter_eq_nil_iff.mpr hnone).symm

theorem dropWhile_lt_eq_filter (h : es.Pairwise (fun a b => a.1 < b.1))
    (k : κ) : es.dropWhile (fun e => e.1 < k) = es.filter (fun e => k ≤ e.1) := by
  induction es with
  | nil => rfl
  | cons a es ih =>
    have ⟨hhead, htail⟩ := List.pairwise_cons.mp h
    rw [List.dropWhile_cons, List.filter_cons]
    by_cases ha : a.1 < k
    · simp only [ha, decide_true, if_true, not_le.mpr ha, decide_false, Bool.false_eq_true,
        if_false, ih htail]
    · have hle : k ≤ a.1 := not_lt.mp ha
      have hall : ∀ b ∈ es, decide (k ≤ b.1) = true := by
        intro b hb
        simpa using le_trans hle (hhead b hb).le
      simp only [ha, hle, decide_false, decide_true, Bool.false_eq_true, if_false, if_true,
        List.filter_eq_self.mpr hall]

/-- **The iterator walk is the restriction of the map to the range.** -/
theorem range_eq_filter (first last : κ) (m : OrdMap κ α) :
    m.range first last = m.entries.filter (fun e => first ≤ e.1 ∧ e.1 ≤ last) := by
  rw [range, lower_bound, dropWhile_lt_eq_filter m.ascending,
    takeWhile_le_eq_filter (m.ascending.filter _), List.filter_filter]
  congr 1
  funext e
  rw [Bool.and_comm, Bool.decide_and]

theorem mem_range {first last : κ} {m : OrdMap κ α} {e : κ × α} :
    e ∈ m.range first last ↔ e ∈ m.entries ∧ first ≤ e.1 ∧ e.1 ≤ last := by
  rw [range_eq_filter, List.mem_filter, decide_eq_true_iff]

theorem range_ascending (first last : κ) (m : OrdMap κ α) :
    (m.range first last).Pairwise (fun a b => a.1 < b.1) := by
  rw [range_eq_filter]
  exact m.ascending.filter _

theorem le_last_key {m : OrdMap κ α} {e : κ × α} (h : e ∈ m.entries) :
    ∃ k, m.last_key = some k ∧ e.1 ≤ k := by
  have hne := List.ne_nil_of_mem h
  refine ⟨(m.entries.getLast hne).1, by rw [last_key, List.getLast?_eq_some_getLast hne]; rfl, ?_⟩
  -- the last entry is at the end of an ascending list
  have hsplit := List.dropLast_append_getLast hne
  rw [← hsplit, List.mem_append] at h
  have hascending := m.ascending
  rw [← hsplit, List.pairwise_append] at hascending
  rcases h with hinit | hlast
  · exact (hascending.2.2 e hinit _ List.mem_cons_self).le
  · exact (congrArg Prod.fst (List.mem_singleton.mp hlast)).le

theorem range_insert_head {k last : κ} (hlast : k ≤ last) (v : α) (m : OrdMap κ α) :
    ∃ more, (m.insert k v).range k last = (k, v) :: more := by
  have hmem : (k, v) ∈ (m.insert k v).range k last :=
    mem_range.mpr ⟨(mem_insert k v m _).mpr (.inl rfl), le_refl k, hlast⟩
  have hascending := range_ascending k last (m.insert k v)
  have hlow : ∀ e ∈ (m.insert k v).range k last, k ≤ e.1 := fun e he => (mem_range.mp he).2.1
  generalize (m.insert k v).range k last = walk at hmem hascending hlow ⊢
  rcases hmem with _ | ⟨e, hmore⟩
  · exact ⟨_, rfl⟩
  · -- a key before it would be below the start of the walk
    exact absurd (List.rel_of_pairwise_cons hascending hmore)
      (not_lt.mpr (hlow e List.mem_cons_self))

theorem range_insert_self (k : κ) (v : α) (m : OrdMap κ α) :
    (m.insert k v).range k k = [(k, v)] := by
  have hmem : ∀ e, e ∈ (m.insert k v).range k k ↔ e = (k, v) := by
    intro e
    rw [mem_range, mem_insert]
    refine ⟨?_, ?_⟩
    · rintro ⟨rfl | ⟨hne, _⟩, hlo, hhi⟩
      · rfl
      · exact absurd (le_antisymm hhi hlo) hne
    · rintro rfl
      exact ⟨.inl rfl, le_refl k, le_refl k⟩
  have hnodup : ((m.insert k v).range k k).Nodup :=
    (range_ascending k k _).imp fun hlt heq => absurd (heq ▸ hlt) (lt_irrefl _)
  exact List.perm_singleton.mp
    ((List.perm_ext_iff_of_nodup hnodup (List.pairwise_singleton _ _)).mpr
    fun e => (hmem e).trans List.mem_singleton.symm)

/-! ## Maps with the same keys -/

/-- The two maps have the same keys, and `R` relates the values at each of them. -/
def Related (R : κ → α → β → Prop) (m₁ : OrdMap κ α) (m₂ : OrdMap κ β) : Prop :=
  List.Forall₂ (fun a b => a.1 = b.1 ∧ R a.1 a.2 b.2) m₁.entries m₂.entries

theorem related_empty (R : κ → α → β → Prop) : Related R (empty : OrdMap κ α) empty :=
  List.Forall₂.nil

variable {m₁ : OrdMap κ α} {m₂ : OrdMap κ β}

theorem Related.imp {R S : κ → α → β → Prop}
    (h : Related R m₁ m₂) (hRS : ∀ k a b, R k a b → S k a b) : Related S m₁ m₂ :=
  List.Forall₂.imp (fun _ _ hab => ⟨hab.1, hRS _ _ _ hab.2⟩) h

variable {R : κ → α → β → Prop}

theorem forall₂_insert_entry {es₁ : List (κ × α)} {es₂ : List (κ × β)}
    {a : α} {b : β}
    (h : List.Forall₂ (fun a b => a.1 = b.1 ∧ R a.1 a.2 b.2) es₁ es₂) (hab : R k a b) :
    List.Forall₂ (fun a b => a.1 = b.1 ∧ R a.1 a.2 b.2) (insert_entry k a es₁)
      (insert_entry k b es₂) := by
  -- The two lists agree on keys, so both insertions take the same branch.
  induction h with
  | nil => exact .cons ⟨rfl, hab⟩ .nil
  | @cons e₁ e₂ es₁ es₂ he hes ih =>
    rw [insert_entry, insert_entry, ← he.1]
    split
    · exact .cons ⟨rfl, hab⟩ (.cons he hes)
    · split
      · exact .cons ⟨rfl, hab⟩ hes
      · exact .cons he ih

theorem Related.insert
    {a : α} {b : β} (h : Related R m₁ m₂) (hab : R k a b) :
    Related R (m₁.insert k a) (m₂.insert k b) :=
  forall₂_insert_entry h hab

theorem Related.last_key
    (h : Related R m₁ m₂) : m₁.last_key = m₂.last_key := by
  have hkeys : m₁.entries.map Prod.fst = m₂.entries.map Prod.fst := by
    rw [← List.forall₂_eq_eq_eq, List.forall₂_map_left_iff, List.forall₂_map_right_iff]
    exact List.Forall₂.imp (fun _ _ hab => hab.1) h
  rw [OrdMap.last_key, OrdMap.last_key, ← List.getLast?_map, ← List.getLast?_map, hkeys]

omit [LinearOrder κ] in
theorem forall₂_filter_keys {es₁ : List (κ × α)} {es₂ : List (κ × β)}
    (h : List.Forall₂ (fun a b => a.1 = b.1 ∧ R a.1 a.2 b.2) es₁ es₂) (p : κ → Bool) :
    List.Forall₂ (fun a b => a.1 = b.1 ∧ R a.1 a.2 b.2) (es₁.filter (fun e => p e.1))
      (es₂.filter (fun e => p e.1)) := by
  induction h with
  | nil => exact .nil
  | @cons e₁ e₂ es₁ es₂ he hes ih =>
    rw [List.filter_cons, List.filter_cons, ← he.1]
    split
    · exact .cons he ih
    · exact ih

theorem Related.range
    (h : Related R m₁ m₂) (first last : κ) :
    List.Forall₂ (fun a b => a.1 = b.1 ∧ R a.1 a.2 b.2) (m₁.range first last)
      (m₂.range first last) := by
  rw [range_eq_filter, range_eq_filter]
  exact forall₂_filter_keys h fun k => decide (first ≤ k ∧ k ≤ last)

end OrdMap

end FixEngine
