/-
`FileNames.lean` -- what a file name of the store says about its session.

A file name is a list of pieces joined by tildes, and no piece has a tilde in it, so
the pieces can be read back. A component of at most 32 bytes is one piece. A longer
one is two: its first 32 bytes, and a fingerprint of eight digits that is a piece like
any other. So two SessionIDs have one file name exactly when their pieces agree, and
with a component over 32 bytes that does not say that the components do. `Collide`
says in terms of the components how they can differ: the next component of one of the
two spells the fingerprint of a long component of the other, or two long components
have the same first 32 bytes and one fingerprint. A component by itself has no slash
and no dot in it, and up to the cap it is decoded to what it was.
-/
import FixEngine.SessionManager

set_option autoImplicit false

namespace FixEngine

/-! ## Pieces -/

/-- The pieces that a component is written as. -/
def component_pieces (raw : Bytes) : List Bytes :=
  if raw.length ≤ kComponentCap then [raw] else [raw.take kComponentCap, fingerprint (fnv1a raw)]

/-- The components of a file name; an empty qualifier is left out. -/
def components (sid : SessionID) : List Bytes :=
  sid.senderCompID :: sid.targetCompID :: if sid.qualifier.isEmpty then [] else [sid.qualifier]

/-- The pieces of a file name. -/
def pieces (sid : SessionID) : List Bytes := (components sid).flatMap component_pieces

theorem pieces_eq (sid : SessionID) :
    pieces sid = component_pieces sid.senderCompID ++ (component_pieces sid.targetCompID ++
      if sid.qualifier.isEmpty then [] else component_pieces sid.qualifier) := by
  rw [pieces, components, List.flatMap_cons, List.flatMap_cons]
  split
  · rfl
  · rw [List.flatMap_singleton]

/-- How a piece is written. -/
def piece_text (piece : Bytes) : Bytes :=
  if piece.isEmpty then ascii "%0" else piece.flatMap escape_byte

theorem piece_text_injective : Function.Injective piece_text := by
  intro x y h
  -- a piece is a component under any cap that it keeps to
  have hx := sanitize_component_short (le_max_left x.length y.length)
  have hy := sanitize_component_short (le_max_right x.length y.length)
  apply sanitize_component_inj (le_max_left _ _) (le_max_right _ _)
  exact hx.trans (h.trans hy.symm)

theorem tilde_not_mem_piece_text (piece : Bytes) : TILDE ∉ piece_text piece := by
  rw [piece_text]
  split
  · decide
  · exact tilde_not_mem_escape piece

theorem piece_text_fingerprint (h : UInt64) : piece_text (fingerprint h) = fingerprint h := by
  have hdigit : ∀ n : Fin 16, escape_byte (hex_digit n) = [hex_digit n] := by decide
  have hmod : ∀ n : ℕ, escape_byte (hex_digit (n % 16)) = [hex_digit (n % 16)] := fun n =>
    hdigit ⟨n % 16, Nat.mod_lt n (by decide)⟩
  rw [piece_text, if_neg (by simp [fingerprint]), fingerprint]
  simp only [List.map_cons, List.map_nil, List.flatMap_cons, List.flatMap_nil, hmod]
  rfl

theorem sanitize_component_eq (raw : Bytes) :
    sanitize_component raw kComponentCap =
    [TILDE].intercalate ((component_pieces raw).map piece_text) := by
  rw [component_pieces]
  split
  · rename_i hshort
    rw [sanitize_component_short hshort]
    simp [piece_text, List.intercalate]
  · rename_i hlong
    have hraw : raw.isEmpty = false := by
      rw [List.isEmpty_eq_false_iff]
      rintro rfl
      exact hlong (Nat.zero_le _)
    have htake : (raw.take kComponentCap).isEmpty = false := by
      rw [List.isEmpty_eq_false_iff]
      intro hnil
      have hlength := congrArg List.length hnil
      rw [List.length_take, Nat.min_eq_left (by omega)] at hlength
      exact absurd hlength (by decide)
    rw [sanitize_component, hraw, if_neg Bool.noConfusion]
    dsimp only
    rw [if_pos (by omega), List.map_cons, List.map_cons, piece_text_fingerprint, piece_text, htake,
      if_neg Bool.noConfusion]
    simp [List.intercalate, TILDE]

theorem component_pieces_ne_nil (raw : Bytes) : component_pieces raw ≠ [] := by
  rw [component_pieces]
  split
  · exact List.cons_ne_nil _ _
  · exact List.cons_ne_nil _ _

theorem intercalate_append {x y : List Bytes} (hx : x ≠ []) (hy : y ≠ []) (sep : Bytes) :
    sep.intercalate (x ++ y) = sep.intercalate x ++ sep ++ sep.intercalate y := by
  induction x with
  | nil => exact absurd rfl hx
  | cons a x ih =>
    rcases x with _ | ⟨b, x⟩
    · obtain ⟨c, y, rfl⟩ := List.exists_cons_of_ne_nil hy
      simp [List.intercalate]
    · have hrest := ih (List.cons_ne_nil _ _)
      simp only [List.intercalate, List.cons_append, List.intersperse_cons_cons,
        List.flatten_cons] at hrest ⊢
      rw [hrest]
      simp

/-- **A file name is its pieces.** -/
theorem make_prefix_eq (sid : SessionID) :
    make_prefix sid = [TILDE].intercalate ((pieces sid).map piece_text) := by
  have hmap : ∀ raw, (component_pieces raw).map piece_text ≠ [] := fun raw h =>
    component_pieces_ne_nil raw (List.map_eq_nil_iff.mp h)
  rw [pieces_eq, List.map_append, List.map_append, make_prefix]
  split
  · rw [List.map_nil, List.append_nil, intercalate_append (hmap _) (hmap _),
      ← sanitize_component_eq, ← sanitize_component_eq, List.append_assoc]
    rfl
  · rw [intercalate_append (hmap _) (fun h => hmap _ (List.append_eq_nil_iff.mp h).1),
      intercalate_append (hmap _) (hmap _), ← sanitize_component_eq, ← sanitize_component_eq,
      ← sanitize_component_eq]
    simp [TILDE]

/-- **The pieces are read back.** -/
theorem make_prefix_eq_iff (a b : SessionID) :
    make_prefix a = make_prefix b ↔ pieces a = pieces b := by
  have hread : ∀ sid, (List.splitOn TILDE <| make_prefix sid) = (pieces sid).map piece_text := by
    intro sid
    rw [make_prefix_eq]
    apply List.splitOn_intercalate
    · intro text htext
      obtain ⟨piece, -, rfl⟩ := List.mem_map.mp htext
      exact tilde_not_mem_piece_text piece
    · intro hnil
      rw [List.map_eq_nil_iff, pieces_eq] at hnil
      exact component_pieces_ne_nil _ (List.append_eq_nil_iff.mp hnil).1
  constructor
  · intro h
    have hsplit := congrArg (List.splitOn TILDE) h
    rw [hread, hread] at hsplit
    exact List.map_injective_iff.mpr piece_text_injective hsplit
  · intro h
    rw [make_prefix_eq, make_prefix_eq, h]

/-! ## One component -/

/-- What a component may be written with: `[A-Za-z0-9_%~-]`, so no slash and no dot. -/
def path_safe (c : UInt8) : Bool := is_safe c || c == 37 || c == TILDE

theorem path_safe_hex_digit (n : ℕ) : path_safe (hex_digit (n % 16)) = true := by
  have hdigit : ∀ n : Fin 16, path_safe (hex_digit n) = true := by decide
  exact hdigit ⟨n % 16, Nat.mod_lt n (by decide)⟩

theorem path_safe_escape_byte (u : UInt8) : ∀ c ∈ escape_byte u, path_safe c = true := by
  intro c hc
  rw [escape_byte] at hc
  split at hc
  · rename_i hsafe
    rw [List.mem_singleton.mp hc, path_safe, hsafe]
    rfl
  · have hhigh : u.toNat / 16 % 16 = u.toNat / 16 := Nat.mod_eq_of_lt (by have := u.toNat_lt; omega)
    rw [← hhigh] at hc
    simp only [List.mem_cons, List.not_mem_nil, or_false] at hc
    rcases hc with rfl | rfl | rfl
    · decide
    · exact path_safe_hex_digit _
    · exact path_safe_hex_digit _

theorem path_safe_fingerprint (h : UInt64) : ∀ c ∈ fingerprint h, path_safe c = true := by
  intro c hc
  obtain ⟨shift, -, rfl⟩ := List.mem_map.mp hc
  exact path_safe_hex_digit _

theorem path_safe_escape (raw : Bytes) : ∀ c ∈ raw.flatMap escape_byte, path_safe c = true := by
  intro c hc
  obtain ⟨u, -, hu⟩ := List.mem_flatMap.mp hc
  exact path_safe_escape_byte u c hu

/-- **Every component is path safe**, whatever its bytes and the cap. -/
theorem path_safe_component (raw : Bytes) (cap : ℕ) :
    ∀ c ∈ sanitize_component raw cap, path_safe c = true := by
  fun_cases sanitize_component raw cap
  · decide +kernel
  · -- over the cap: the first bytes, the tilde and the fingerprint
    intro c hc
    rcases List.mem_append.mp hc with hc | hc
    · exact path_safe_escape _ c hc
    · rcases List.mem_cons.mp hc with rfl | hc
      · decide
      · exact path_safe_fingerprint _ c hc
  · exact path_safe_escape _

theorem tilde_mem_component_iff (raw : Bytes) (cap : ℕ) :
    TILDE ∈ sanitize_component raw cap ↔ cap < raw.length := by
  constructor
  · intro htilde
    by_contra hshort
    exact tilde_not_mem_component (Nat.not_lt.mp hshort) htilde
  · intro hlong
    have hraw : raw.isEmpty = false := by
      rw [List.isEmpty_eq_false_iff]
      rintro rfl
      exact absurd hlong (Nat.not_lt_zero _)
    rw [sanitize_component, hraw]
    simp [hlong, TILDE]

theorem sanitize_component_ne_nil (raw : Bytes) (cap : ℕ) : sanitize_component raw cap ≠ [] := by
  by_cases hlong : cap < raw.length
  · exact List.ne_nil_of_mem ((tilde_mem_component_iff raw cap).mpr hlong)
  · -- the empty component is the one that decodes to nothing, and it is written `%0`
    intro hnil
    have hraw : [] = raw := by
      rw [← decode_sanitize_component (Nat.not_lt.mp hlong), hnil]
      rfl
    rw [← hraw] at hnil
    exact absurd (show ascii "%0" = [] from hnil) (by decide)

/-- **A component is path safe and is read back** when it keeps to the cap; then no other
component, shorter or longer, is written as it is. -/
theorem sanitize_component_decodable (raw : Bytes) (cap : ℕ) :
    sanitize_component raw cap ≠ [] ∧
      (∀ c ∈ sanitize_component raw cap, path_safe c = true) ∧
      (raw.length ≤ cap →
        TILDE ∉ sanitize_component raw cap ∧
          decode_component (sanitize_component raw cap) = raw ∧
          (∀ other : Bytes, other.length ≤ cap →
            sanitize_component raw cap = sanitize_component other cap → raw = other) ∧
          ∀ longer : Bytes, cap < longer.length →
            sanitize_component raw cap ≠ sanitize_component longer cap) := by
  refine ⟨sanitize_component_ne_nil raw cap, path_safe_component raw cap, fun hshort => ?_⟩
  refine ⟨tilde_not_mem_component hshort, decode_sanitize_component hshort, ?_, ?_⟩
  · intro other hother heq
    exact sanitize_component_inj hshort hother heq
  · intro longer hlonger heq
    apply tilde_not_mem_component hshort
    rw [heq]
    exact (tilde_mem_component_iff longer cap).mpr hlonger

/-- A path that climbs out of its directory, as a component at the cap, and a longer one. -/
theorem sanitize_component_decodable_dots :
    ((ascii "../x").length ≤ 4 ∧ 4 < (ascii "../xy").length) ∧
      sanitize_component (ascii "../x") 4 = ascii "%2E%2E%2Fx" ∧
      decode_component (sanitize_component (ascii "../x") 4) = ascii "../x" ∧
      sanitize_component (ascii "../x") 4 ≠ sanitize_component (ascii "../xy") 4 := by
  have hshort : (ascii "../x").length ≤ 4 := by decide
  have hlonger : 4 < (ascii "../xy").length := by decide
  obtain ⟨-, -, hread⟩ := sanitize_component_decodable (ascii "../x") 4
  exact ⟨⟨hshort, hlonger⟩, by decide, (hread hshort).2.1, (hread hshort).2.2.2 _ hlonger⟩

/-! ## Sessions of one name -/

/-- The same sender, target and qualifier. -/
def SameComponents (a b : SessionID) : Prop :=
  a.senderCompID = b.senderCompID ∧ a.targetCompID = b.targetCompID ∧ a.qualifier = b.qualifier

theorem same_components_iff (a b : SessionID) :
    SameComponents a b ↔ components a = components b := by
  rw [SameComponents, components, components]
  rcases a.qualifier with _ | ⟨u, us⟩ <;> rcases b.qualifier with _ | ⟨v, vs⟩ <;> simp

/-- Over the cap, so that a fingerprint of the whole stands for what is cut off. -/
def Long (raw : Bytes) : Prop := kComponentCap < raw.length

/-- The low 32 bits of the hash of a component. -/
def hash32 (raw : Bytes) : ℕ := (fnv1a raw).toNat % 2 ^ 32

/-- Components that are written alike, one after the other: a component against itself,
two long ones with the same first bytes and hash bits, or a long one against two, its
first bytes and the digits of its hash. -/
inductive SpelledAlike : List Bytes → List Bytes → Prop
  | nil : SpelledAlike [] []
  | same (c : Bytes) {as bs : List Bytes} :
      SpelledAlike as bs → SpelledAlike (c :: as) (c :: bs)
  | hash {c d : Bytes} {as bs : List Bytes} :
      Long c → Long d → c.take kComponentCap = d.take kComponentCap → hash32 c = hash32 d →
      SpelledAlike as bs → SpelledAlike (c :: as) (d :: bs)
  | spelled {c : Bytes} {as bs : List Bytes} : Long c → SpelledAlike as bs →
      SpelledAlike (c :: as) (c.take kComponentCap :: fingerprint (fnv1a c) :: bs)
  | spells {c : Bytes} {as bs : List Bytes} : Long c → SpelledAlike as bs →
      SpelledAlike (c.take kComponentCap :: fingerprint (fnv1a c) :: as) (c :: bs)

/-- Behind some components that are the same, a pair that is written alike and differs: two
long components with the same first 32 bytes and the same low 32 bits of the hash, or a
component over 32 bytes whose eight hexadecimal digits the other side spells as the next
component. -/
inductive Collide : List Bytes → List Bytes → Prop
  | hash {c d : Bytes} {as bs : List Bytes} : c ≠ d →
      Long c → Long d → c.take kComponentCap = d.take kComponentCap → hash32 c = hash32 d →
      SpelledAlike as bs → Collide (c :: as) (d :: bs)
  | spelled {c : Bytes} {as bs : List Bytes} : Long c → SpelledAlike as bs →
      Collide (c :: as) (c.take kComponentCap :: fingerprint (fnv1a c) :: bs)
  | spells {c : Bytes} {as bs : List Bytes} : Long c → SpelledAlike as bs →
      Collide (c.take kComponentCap :: fingerprint (fnv1a c) :: as) (c :: bs)
  | behind (c : Bytes) {as bs : List Bytes} : Collide as bs → Collide (c :: as) (c :: bs)

/-! ### The fingerprint -/

theorem hex_digit_inj {m n : ℕ} (hm : m < 16) (hn : n < 16) (h : hex_digit m = hex_digit n) :
    m = n := by
  have hall : ∀ m n : Fin 16, hex_digit m = hex_digit n → m = n := by decide
  exact congrArg Fin.val (hall ⟨m, hm⟩ ⟨n, hn⟩ h)

theorem fingerprint_eq_iff (c d : Bytes) :
    fingerprint (fnv1a c) = fingerprint (fnv1a d) ↔ hash32 c = hash32 d := by
  rw [hash32, hash32]
  generalize fnv1a c = g
  generalize fnv1a d = h
  have hdigit : ∀ k, hex_digit (g.toNat / 2 ^ k % 16) = hex_digit (h.toNat / 2 ^ k % 16) ↔
      g.toNat / 2 ^ k % 16 = h.toNat / 2 ^ k % 16 := fun k =>
    ⟨hex_digit_inj (Nat.mod_lt _ (by decide)) (Nat.mod_lt _ (by decide)), congrArg hex_digit⟩
  simp only [fingerprint, List.map_cons, List.map_nil, List.cons.injEq, hdigit, and_true]
  omega

theorem fingerprint_length (h : UInt64) : (fingerprint h).length = 8 := rfl

/-! ### Pieces of lists of components -/

theorem component_pieces_eq (raw : Bytes) :
    component_pieces raw = raw.take kComponentCap ::
      if raw.length ≤ kComponentCap then [] else [fingerprint (fnv1a raw)] := by
  rw [component_pieces]
  split
  · rename_i hshort
    rw [List.take_of_length_le hshort]
  · rfl

theorem component_pieces_short {raw : Bytes} (h : ¬Long raw) : component_pieces raw = [raw] :=
  if_pos (Nat.not_lt.mp h)

theorem component_pieces_long {raw : Bytes} (h : Long raw) :
    component_pieces raw = [raw.take kComponentCap, fingerprint (fnv1a raw)] :=
  if_neg (Nat.not_le.mpr h)

theorem not_long_take (raw : Bytes) : ¬Long (raw.take kComponentCap) :=
  Nat.not_lt.mpr (List.length_take_le _ _)

theorem not_long_fingerprint (h : UInt64) : ¬Long (fingerprint h) := by
  rw [Long, fingerprint_length]
  decide

theorem components_of_fingerprint {h : UInt64} {ps : List Bytes} {cs : List Bytes}
    (heq : fingerprint h :: ps = cs.flatMap component_pieces) :
    ∃ rest, cs = fingerprint h :: rest ∧ ps = rest.flatMap component_pieces := by
  rcases cs with _ | ⟨e, rest⟩
  · exact absurd heq (List.cons_ne_nil _ _)
  · rw [List.flatMap_cons, component_pieces_eq, List.cons_append] at heq
    obtain ⟨hhead, htail⟩ := List.cons.inj heq
    -- eight bytes: nothing was cut off
    have hlength := congrArg List.length hhead
    rw [fingerprint_length, List.length_take] at hlength
    have hshort : e.length ≤ kComponentCap := by
      by_contra hlong
      rw [Nat.min_eq_left (Nat.le_of_lt (Nat.not_le.mp hlong))] at hlength
      exact absurd hlength (by decide)
    rw [if_pos hshort, List.nil_append] at htail
    rw [List.take_of_length_le hshort] at hhead
    exact ⟨rest, by rw [hhead], htail⟩

/-- **Which components have the same pieces.** -/
theorem pieces_eq_iff (as bs : List Bytes) :
    as.flatMap component_pieces = bs.flatMap component_pieces ↔ SpelledAlike as bs := by
  constructor
  · -- on the number of components: a fingerprint takes two of them from one side
    induction hn : as.length using Nat.strong_induction_on generalizing as bs with
    | _ n ih =>
      intro h
      rcases as with _ | ⟨c, as⟩ <;> rcases bs with _ | ⟨d, bs⟩
      · exact .nil
      · rw [List.flatMap_cons, component_pieces_eq] at h
        simp at h
      · rw [List.flatMap_cons, component_pieces_eq] at h
        simp at h
      subst hn
      have hless : as.length < (c :: as).length := Nat.lt_succ_self _
      rw [List.flatMap_cons, List.flatMap_cons] at h
      by_cases hc : Long c <;> by_cases hd : Long d
      · rw [component_pieces_long hc, component_pieces_long hd] at h
        obtain ⟨hhead, htail⟩ := List.cons.inj h
        obtain ⟨hprint, hrest⟩ := List.cons.inj htail
        exact .hash hc hd hhead ((fingerprint_eq_iff c d).mp hprint) (ih _ hless as bs rfl hrest)
      · rw [component_pieces_long hc, component_pieces_short hd] at h
        obtain ⟨hhead, htail⟩ := List.cons.inj h
        obtain ⟨rest, rfl, hrest⟩ := components_of_fingerprint htail
        rw [← hhead]
        exact .spelled hc (ih _ hless as rest rfl hrest)
      · rw [component_pieces_short hc, component_pieces_long hd] at h
        obtain ⟨hhead, htail⟩ := List.cons.inj h
        obtain ⟨rest, rfl, hrest⟩ := components_of_fingerprint htail.symm
        rw [hhead]
        exact .spells hd (ih _ (Nat.lt_trans (Nat.lt_succ_self _) hless) rest bs rfl hrest.symm)
      · rw [component_pieces_short hc, component_pieces_short hd] at h
        obtain ⟨rfl, hrest⟩ := List.cons.inj h
        exact .same c (ih _ hless as bs rfl hrest)
  · intro h
    induction h with
    | nil => rfl
    | same c _ ih => rw [List.flatMap_cons, List.flatMap_cons, ih]
    | hash hc hd htake hbits _ ih =>
      rw [List.flatMap_cons, List.flatMap_cons, component_pieces_long hc, component_pieces_long hd,
        htake, (fingerprint_eq_iff _ _).mpr hbits, ih]
    | spelled hc _ ih =>
      rw [List.flatMap_cons, List.flatMap_cons, List.flatMap_cons, component_pieces_long hc,
        component_pieces_short (not_long_take _),
        component_pieces_short (not_long_fingerprint _), ih]
      rfl
    | spells hc _ ih =>
      rw [List.flatMap_cons, List.flatMap_cons, List.flatMap_cons, component_pieces_long hc,
        component_pieces_short (not_long_take _),
        component_pieces_short (not_long_fingerprint _), ih]
      rfl

theorem SpelledAlike.cases {as bs : List Bytes} (h : SpelledAlike as bs) :
    as = bs ∨ Collide as bs := by
  induction h with
  | nil => exact .inl rfl
  | same c _ ih =>
    rcases ih with rfl | hrest
    · exact .inl rfl
    · exact .inr (.behind c hrest)
  | @hash c d _ _ hc hd htake hbits hrest ih =>
    by_cases hcd : c = d
    · subst hcd
      rcases ih with rfl | hlater
      · exact .inl rfl
      · exact .inr (.behind c hlater)
    · exact .inr (.hash hcd hc hd htake hbits hrest)
  | spelled hc hrest _ => exact .inr (.spelled hc hrest)
  | spells hc hrest _ => exact .inr (.spells hc hrest)

theorem Collide.alike {as bs : List Bytes} (h : Collide as bs) : SpelledAlike as bs := by
  induction h with
  | hash _ hc hd htake hbits hrest => exact .hash hc hd htake hbits hrest
  | spelled hc hrest => exact .spelled hc hrest
  | spells hc hrest => exact .spells hc hrest
  | behind c _ ih => exact .same c ih

theorem ne_take_of_long {c : Bytes} (h : Long c) : c ≠ c.take kComponentCap := by
  intro heq
  exact not_long_take c (heq ▸ h)

theorem Collide.ne {as bs : List Bytes} (h : Collide as bs) : as ≠ bs := by
  induction h with
  | hash hcd _ _ _ _ _ => exact fun heq => hcd (List.cons.inj heq).1
  | spelled hc _ => exact fun heq => ne_take_of_long hc (List.cons.inj heq).1
  | spells hc _ => exact fun heq => ne_take_of_long hc (List.cons.inj heq).1.symm
  | behind c _ ih => exact fun heq => ih (List.cons.inj heq).2

/-- **File names are injective** except on identifiers whose components collide. -/
theorem make_prefix_injective_iff (a b : SessionID) :
    (a.version = b.version → make_prefix a = make_prefix b → SameComponents a b) ↔
      ¬(a.version = b.version ∧ Collide (components a) (components b)) := by
  constructor
  · rintro hinj ⟨hversion, hcollide⟩
    have hname := (make_prefix_eq_iff a b).mpr ((pieces_eq_iff _ _).mpr hcollide.alike)
    exact hcollide.ne ((same_components_iff a b).mp (hinj hversion hname))
  · intro hclear hversion hname
    have halike := (pieces_eq_iff _ _).mp ((make_prefix_eq_iff a b).mp hname)
    rcases halike.cases with hsame | hcollide
    · exact (same_components_iff a b).mpr hsame
    · exact absurd ⟨hversion, hcollide⟩ hclear

/-- A target of 33 bytes. -/
def long_target : SessionID :=
  { version := .FIX_4_4, senderCompID := ascii "S", targetCompID := List.replicate 33 84,
    qualifier := [] }

/-- Another one. -/
def other_long_target : SessionID := { long_target with targetCompID := List.replicate 33 85 }

/-- The first 32 bytes tell the two apart. -/
theorem make_prefix_injective_long :
    ¬(long_target.version = other_long_target.version ∧
      Collide (components long_target) (components other_long_target)) ∧
      (long_target.version = other_long_target.version →
        make_prefix long_target = make_prefix other_long_target →
        SameComponents long_target other_long_target) := by
  have hclear : ¬(long_target.version = other_long_target.version ∧
      Collide (components long_target) (components other_long_target)) := by
    rintro ⟨-, hcollide⟩
    exact absurd ((pieces_eq_iff _ _).mpr hcollide.alike) (by decide)
  exact ⟨hclear, (make_prefix_injective_iff _ _).mpr hclear⟩

/-- A target of 32 bytes and the fingerprint of the other one as qualifier. -/
def fingerprint_qualifier : SessionID :=
  { version := .FIX_4_4, senderCompID := ascii "S", targetCompID := List.replicate 32 84
    qualifier := ascii "92652203" }

/-- The two have one file name. -/
theorem fingerprint_read_as_qualifier :
    long_target.version = fingerprint_qualifier.version ∧
      make_prefix long_target = make_prefix fingerprint_qualifier ∧
      long_target.targetCompID ≠ fingerprint_qualifier.targetCompID := by
  decide +kernel

end FixEngine
