/-
`SessionManager.lean` -- the registry of `src/session/session_manager.cpp`, and the two
texts a SessionID is turned into.

The registry keys its sessions by `make_key`, which joins the four components by
colons; the file store names its files by `make_prefix`, which escapes the
components and joins them by tildes. Each text is studied for what it can be read
back to. The key is read back where no CompID has a colon in it, and nowhere
else in general; the file names are read back to CompIDs and qualifier, for
components of at most 32 bytes, but the version is not in them.

What the registry is for is a map from SessionIDs to sessions. It is one on every
set of SessionIDs on which the key is injective, and on no other.
-/
import FixEngine.FileStore
import FixEngine.Scan

set_option autoImplicit false

namespace FixEngine

/-! ## The registry -/

def COLON : UInt8 := 58

/-- `SessionManager::make_key`. -/
def make_key (sid : SessionID) : Bytes :=
  sid.senderCompID ++ COLON :: (sid.targetCompID ++ COLON ::
    (sid.version.to_string ++ COLON :: sid.qualifier))

/-- `SessionManager` over handles of sessions: the `unordered_map` by key. -/
structure SessionManager (α : Type) where
  sessions : Bytes → Option α

namespace SessionManager

variable {α : Type}

def create : SessionManager α := ⟨fun _ => none⟩

/-- `SessionManager::create_session`: a live session is never replaced. -/
def create_session (sid : SessionID) (sess : α) (m : SessionManager α) :
    Option α × SessionManager α :=
  match m.sessions (make_key sid) with
  | some _ => (none, m)
  | none => (some sess, ⟨Function.update m.sessions (make_key sid) (some sess)⟩)

/-- `SessionManager::find` and `find_shared`. -/
def find (sid : SessionID) (m : SessionManager α) : Option α := m.sessions (make_key sid)

/-- `SessionManager::remove`. -/
def remove (sid : SessionID) (m : SessionManager α) : Bool × SessionManager α :=
  ((m.find sid).isSome, ⟨Function.update m.sessions (make_key sid) none⟩)

end SessionManager

/-- A call that changes the registry. -/
inductive RegistryCall (α : Type) where
  | create_session (sid : SessionID) (sess : α)
  | remove (sid : SessionID)

namespace RegistryCall

variable {α : Type}

/-- The SessionID that the call is about. -/
def id : RegistryCall α → SessionID
  | .create_session sid _ => sid
  | .remove sid => sid

/-- What the call does to the registry. -/
def run (m : SessionManager α) : RegistryCall α → SessionManager α
  | .create_session sid sess => (m.create_session sid sess).2
  | .remove sid => (m.remove sid).2

/-- What the call is for: a map from SessionIDs to the live sessions. -/
def apply (live : SessionID → Option α) : RegistryCall α → SessionID → Option α
  | .create_session sid sess =>
    if (live sid).isSome then live else Function.update live sid (some sess)
  | .remove sid => Function.update live sid none

end RegistryCall

/-- The registry after a sequence of calls. -/
def registry {α : Type} (calls : List (RegistryCall α)) : SessionManager α :=
  calls.foldl RegistryCall.run .create

/-- The sessions that were created under their SessionID and not removed since. -/
def live_sessions {α : Type} (calls : List (RegistryCall α)) : SessionID → Option α :=
  calls.foldl RegistryCall.apply fun _ => none

/-- After the calls the registry answers as the map does, about each SessionID of `U`: the
lookup finds exactly the live session, a creation is refused exactly when there is
one, and a removal leaves the others alone. -/
def AnswersAsMap {α : Type} (U : Set SessionID) (calls : List (RegistryCall α)) : Prop :=
  ∀ sid ∈ U,
    (registry calls).find sid = live_sessions calls sid ∧
    (∀ sess, ((registry calls).create_session sid sess).1 = none ↔
      (live_sessions calls sid).isSome) ∧
    ∀ other ∈ U, other ≠ sid →
    ((registry calls).remove sid).2.find other = (registry calls).find other

section Refinement

variable {α : Type} {U : Set SessionID}

/-- The lookup agrees with the map on `U`. -/
def Agrees (U : Set SessionID) (m : SessionManager α) (live : SessionID → Option α) : Prop :=
  ∀ sid ∈ U, m.find sid = live sid

theorem Agrees.update (hinj : Set.InjOn make_key U) {m : SessionManager α}
    {live : SessionID → Option α} (h : Agrees U m live) {sid : SessionID} (hsid : sid ∈ U)
    (a : Option α) :
    Agrees U ⟨Function.update m.sessions (make_key sid) a⟩ (Function.update live sid a) := by
  intro other hother
  by_cases heq : other = sid
  · rw [heq, Function.update_self]
    exact Function.update_self _ _ _
  · have hkey : make_key other ≠ make_key sid := fun hk => heq (hinj hother hsid hk)
    rw [Function.update_of_ne heq]
    exact (Function.update_of_ne hkey _ _).trans (h other hother)

/-- **One call keeps the agreement.** -/
theorem Agrees.run (hinj : Set.InjOn make_key U) {m : SessionManager α}
    {live : SessionID → Option α} (h : Agrees U m live) {call : RegistryCall α}
    (hcall : call.id ∈ U) : Agrees U (call.run m) (call.apply live) := by
  cases call with
  | create_session sid sess =>
    have hfind : m.sessions (make_key sid) = live sid := h sid hcall
    rw [RegistryCall.run, RegistryCall.apply, SessionManager.create_session, hfind]
    rcases hlive : live sid with _ | other
    · exact h.update hinj hcall (some sess)
    · exact h
  | remove sid => exact h.update hinj hcall none

/-- **A sequence of calls keeps the agreement.** -/
theorem Agrees.calls (hinj : Set.InjOn make_key U) {m : SessionManager α}
    {live : SessionID → Option α} (h : Agrees U m live) (calls : List (RegistryCall α))
    (hcalls : ∀ call ∈ calls, call.id ∈ U) :
    Agrees U (calls.foldl RegistryCall.run m) (calls.foldl RegistryCall.apply live) := by
  induction calls generalizing m live with
  | nil => exact h
  | cons call calls ih =>
    apply ih (h.run hinj (hcalls call List.mem_cons_self))
    intro c hc
    exact hcalls c (List.mem_cons_of_mem _ hc)

/-- **The registry is a map on exactly the sets on which the key is injective.** -/
theorem registry_is_map_iff [Inhabited α] (U : Set SessionID) :
    (∀ calls : List (RegistryCall α), (∀ call ∈ calls, call.id ∈ U) → AnswersAsMap U calls) ↔
      Set.InjOn make_key U := by
  constructor
  · -- two SessionIDs of one key: the second is found when only the first was created
    intro hmap a ha b hb hkey
    by_contra hne
    have hanswers := hmap [.create_session a default] (by simpa [RegistryCall.id] using ha) b hb
    have hfound : (registry [.create_session a (default : α)]).find b = some default := by
      show Function.update _ (make_key a) _ (make_key b) = _
      rw [hkey, Function.update_self]
    have hlive : live_sessions [.create_session a (default : α)] b = none := by
      simp [live_sessions, RegistryCall.apply, Function.update_of_ne (Ne.symm hne)]
    rw [hanswers.1, hlive] at hfound
    simp at hfound
  · intro hinj calls hcalls sid hsid
    have hagrees : Agrees U (registry calls) (live_sessions calls) :=
      Agrees.calls hinj (fun _ _ => rfl) calls hcalls
    refine ⟨hagrees sid hsid, ?_, ?_⟩
    · intro sess
      rw [← hagrees sid hsid, SessionManager.create_session, SessionManager.find]
      rcases (registry calls).sessions (make_key sid) with _ | other
      · exact ⟨by simp, by simp⟩
      · exact ⟨fun _ => rfl, fun _ => rfl⟩
    · intro other hother hne
      have hkey : make_key other ≠ make_key sid := fun hk => hne (hinj hother hsid hk)
      exact Function.update_of_ne hkey _ _

end Refinement

/-! ## Reading the key back -/

theorem colon_not_mem_version (v : FixVersion) : COLON ∉ v.to_string := by
  cases v <;> decide

theorem make_key_injOn : Set.InjOn make_key {sid : SessionID |
    COLON ∉ sid.senderCompID ∧ COLON ∉ sid.targetCompID} := by
  rintro ⟨v, s, t, q⟩ ⟨hs, ht⟩ ⟨v', s', t', q'⟩ ⟨hs', ht'⟩ hkey
  obtain ⟨rfl, hkey⟩ := Scan.append_cons_inj hs hs' hkey
  obtain ⟨rfl, hkey⟩ := Scan.append_cons_inj ht ht' hkey
  obtain ⟨hversion, rfl⟩ :=
    Scan.append_cons_inj (colon_not_mem_version v) (colon_not_mem_version v') hkey
  have hv := congrArg parse_version hversion
  rw [parse_version_to_string, parse_version_to_string] at hv
  rw [hv]

/-- Two SessionIDs that differ in where a colon stands. -/
def colon_in_sender : SessionID :=
  { version := .FIX_4_2, senderCompID := ascii "A:B", targetCompID := ascii "C", qualifier := [] }

def colon_in_target : SessionID :=
  { version := .FIX_4_2, senderCompID := ascii "A", targetCompID := ascii "B:C", qualifier := [] }

/-- The registry takes the one for the other. -/
theorem colon_session_found :
    colon_in_target ≠ colon_in_sender ∧
      (registry [.create_session colon_in_sender ()]).find colon_in_target = some () := by
  decide

/-! ## Reading the file names back -/

def TILDE : UInt8 := 126

/-- The byte that a code stands for. -/
def unescape_byte (code : Bytes) : UInt8 :=
  match code with
  | [_, hi, lo] => UInt8.ofNat (kHex.idxOf hi * 16 + kHex.idxOf lo)
  | c :: _ => c
  | [] => 0

theorem idxOf_hex_digit {n : ℕ} (h : n < 16) : kHex.idxOf (hex_digit n) = n := by
  have hall : ∀ n : Fin 16, kHex.idxOf (hex_digit n) = n := by decide
  exact hall ⟨n, h⟩

theorem unescape_escape_byte (u : UInt8) : unescape_byte (escape_byte u) = u := by
  have hu := u.toNat_lt
  rw [escape_byte]
  split
  · rfl
  · rw [unescape_byte, idxOf_hex_digit (by omega), idxOf_hex_digit (Nat.mod_lt _ (by decide)),
      Nat.div_add_mod', UInt8.ofNat_toNat]

theorem escape_byte_shape (u : UInt8) :
    ∃ c rest, escape_byte u = c :: rest ∧ rest.length = (if c = 37 then 2 else 0) ∧
      TILDE ∉ escape_byte u := by
  rw [escape_byte]
  split
  · rename_i hsafe
    have hne : u ≠ 37 := by
      rintro rfl
      exact absurd hsafe (by decide)
    have htilde : TILDE ≠ u := by
      rintro rfl
      exact absurd hsafe (by decide)
    exact ⟨u, [], rfl, by rw [if_neg hne]; rfl, by simpa using htilde⟩
  · refine ⟨37, _, rfl, rfl, ?_⟩
    have hhex : ∀ n, hex_digit n ≠ TILDE := by
      intro n
      rw [hex_digit, List.getD_eq_getElem?_getD]
      rcases hget : kHex[n]? with _ | c
      · decide
      · have hmem := List.mem_of_getElem? hget
        have hno : TILDE ∉ kHex := by decide
        rintro rfl
        exact hno hmem
    have h37 : TILDE ≠ 37 := by decide
    simp [h37, (hhex _).symm]

/-- The codes of a text, read one after the other. -/
def unescape : Bytes → Bytes
  | [] => []
  | c :: rest =>
    if c = 37 then
      match rest with
      | hi :: lo :: rest => unescape_byte [37, hi, lo] :: unescape rest
      | _ => []
    else c :: unescape rest

theorem unescape_escape_byte_append (u : UInt8) (rest : Bytes) :
    unescape (escape_byte u ++ rest) = u :: unescape rest := by
  have hcode := unescape_escape_byte u
  obtain ⟨c, cs, hu, hlen, -⟩ := escape_byte_shape u
  rw [hu] at hcode ⊢
  by_cases hc : c = 37
  · subst hc
    rw [if_pos rfl] at hlen
    obtain ⟨hi, lo, rfl⟩ := List.length_eq_two.mp hlen
    show unescape_byte [37, hi, lo] :: unescape rest = _
    rw [hcode]
  · rw [if_neg hc] at hlen
    obtain rfl := List.length_eq_zero_iff.mp hlen
    rw [List.singleton_append, unescape.eq_def]
    exact (if_neg hc).trans (congrArg (· :: unescape rest) hcode)

/-- **An escaped text is read back.** -/
theorem unescape_escape (raw : Bytes) : unescape (raw.flatMap escape_byte) = raw := by
  induction raw with
  | nil => rfl
  | cons u raw ih => rw [List.flatMap_cons, unescape_escape_byte_append, ih]

theorem tilde_not_mem_escape (raw : Bytes) : TILDE ∉ raw.flatMap escape_byte := by
  intro hmem
  obtain ⟨u, -, hu⟩ := List.mem_flatMap.mp hmem
  obtain ⟨c, cs, -, -, hno⟩ := escape_byte_shape u
  exact hno hu

theorem escape_ne_empty_text {raw : Bytes} : raw.flatMap escape_byte ≠ ascii "%0" := by
  intro h
  rcases raw with _ | ⟨u, raw⟩
  · exact absurd h (by decide)
  · obtain ⟨c, cs, hu, hlen, -⟩ := escape_byte_shape u
    have htext : ascii "%0" = [37, 48] := by decide
    rw [List.flatMap_cons, hu, htext, List.cons_append] at h
    obtain ⟨rfl, hrest⟩ := List.cons.inj h
    have hlength := congrArg List.length hrest
    rw [List.length_append, hlen] at hlength
    simp at hlength
    omega

section Component

variable {raw raw' : Bytes} {cap : ℕ}

theorem sanitize_component_short (h : raw.length ≤ cap) :
    sanitize_component raw cap = if raw.isEmpty then ascii "%0" else raw.flatMap escape_byte := by
  rw [sanitize_component, List.take_of_length_le h]
  simp [Nat.not_lt.mpr h]

theorem tilde_not_mem_component (h : raw.length ≤ cap) : TILDE ∉ sanitize_component raw cap := by
  rw [sanitize_component_short h]
  split
  · decide
  · exact tilde_not_mem_escape raw

/-- The component that a text stands for. -/
def decode_component (text : Bytes) : Bytes := if text = ascii "%0" then [] else unescape text

/-- **A component within the cap is read back.** -/
theorem decode_sanitize_component (h : raw.length ≤ cap) :
    decode_component (sanitize_component raw cap) = raw := by
  rw [sanitize_component_short h, decode_component]
  by_cases hempty : raw.isEmpty = true
  · rw [if_pos hempty, if_pos rfl, List.isEmpty_iff.mp hempty]
  · rw [if_neg hempty, if_neg escape_ne_empty_text, unescape_escape]

theorem sanitize_component_inj (h : raw.length ≤ cap) (h' : raw'.length ≤ cap)
    (heq : sanitize_component raw cap = sanitize_component raw' cap) : raw = raw' := by
  rw [← decode_sanitize_component h, heq, decode_sanitize_component h']

end Component

/-- The components of a SessionID that have the length of a plain file name. -/
def ShortComponents (sid : SessionID) : Prop :=
  sid.senderCompID.length ≤ 32 ∧ sid.targetCompID.length ≤ 32 ∧ sid.qualifier.length ≤ 32

theorem prefix_tail_inj {t t' q q' : Bytes} (ht : TILDE ∉ t) (ht' : TILDE ∉ t')
    (h : (if q.isEmpty then t else t ++ TILDE :: sanitize_component q kComponentCap) =
      if q'.isEmpty then t' else t' ++ TILDE :: sanitize_component q' kComponentCap)
    (hq : q.length ≤ 32) (hq' : q'.length ≤ 32) : t = t' ∧ q = q' := by
  split at h
  · rename_i hempty
    split at h
    · rename_i hempty'
      rw [List.isEmpty_iff.mp hempty, List.isEmpty_iff.mp hempty']
      exact ⟨h, rfl⟩
    · exact absurd (h ▸ by simp) ht
  · split at h
    · exact absurd (h ▸ by simp) ht'
    · obtain ⟨rfl, hcomponent⟩ := Scan.append_cons_inj ht ht' h
      exact ⟨rfl, sanitize_component_inj hq hq' hcomponent⟩

/-- **The file names are read back to CompIDs and qualifier.** -/
theorem make_prefix_inj {a b : SessionID} (ha : ShortComponents a) (hb : ShortComponents b)
    (h : make_prefix a = make_prefix b) :
    a.senderCompID = b.senderCompID ∧ a.targetCompID = b.targetCompID ∧
      a.qualifier = b.qualifier := by
  have hsplit : ∀ sid : SessionID, make_prefix sid =
      sanitize_component sid.senderCompID kComponentCap ++ TILDE ::
        (if sid.qualifier.isEmpty then sanitize_component sid.targetCompID kComponentCap
        else sanitize_component sid.targetCompID kComponentCap ++ TILDE ::
          sanitize_component sid.qualifier kComponentCap) := by
    intro sid
    unfold make_prefix
    split
    · rfl
    · rw [List.append_assoc]
      rfl
  rw [hsplit a, hsplit b] at h
  obtain ⟨hsender, htail⟩ := Scan.append_cons_inj (tilde_not_mem_component ha.1)
    (tilde_not_mem_component hb.1) h
  obtain ⟨htarget, hqualifier⟩ := prefix_tail_inj (tilde_not_mem_component ha.2.1)
    (tilde_not_mem_component hb.2.1) htail ha.2.2 hb.2.2
  exact ⟨sanitize_component_inj ha.1 hb.1 hsender,
    sanitize_component_inj ha.2.1 hb.2.1 htarget, hqualifier⟩

theorem make_key_ne_of_version {a b : SessionID} (hs : a.senderCompID = b.senderCompID)
    (ht : a.targetCompID = b.targetCompID) (hv : a.version ≠ b.version) :
    make_key a ≠ make_key b := by
  intro hkey
  rw [make_key, make_key, hs, ht] at hkey
  have htail := (List.cons.inj (List.append_cancel_left hkey)).2
  have hversion := (List.cons.inj (List.append_cancel_left htail)).2
  obtain ⟨htext, -⟩ :=
    Scan.append_cons_inj (colon_not_mem_version a.version)
      (colon_not_mem_version b.version) hversion
  have hparsed := congrArg parse_version htext
  rw [parse_version_to_string, parse_version_to_string] at hparsed
  exact hv hparsed

/-- **File names separate what the registry separates** unless only the version
differs. -/
theorem prefix_separates_iff (a b : SessionID) (ha : ShortComponents a) (hb : ShortComponents b) :
    (make_key a ≠ make_key b → make_prefix a ≠ make_prefix b) ↔
      ¬(a.senderCompID = b.senderCompID ∧ a.targetCompID = b.targetCompID ∧
        a.qualifier = b.qualifier ∧ a.version ≠ b.version) := by
  constructor
  · rintro hseparates ⟨hs, ht, hq, hv⟩
    apply hseparates (make_key_ne_of_version hs ht hv)
    unfold make_prefix
    rw [hs, ht, hq]
  · intro hdiffer hkey hname
    obtain ⟨hs, ht, hq⟩ := make_prefix_inj ha hb hname
    apply hdiffer
    refine ⟨hs, ht, hq, ?_⟩
    intro hv
    apply hkey
    rw [make_key, make_key, hs, ht, hv, hq]

/-- One pair of CompIDs under two versions. -/
def under_version (v : FixVersion) : SessionID :=
  { version := v, senderCompID := ascii "CLIENT", targetCompID := ascii "BROKER", qualifier := [] }

/-- Two sessions that the engine keeps apart and that share their files. -/
theorem two_versions_one_file :
    make_key (under_version .FIX_4_2) ≠ make_key (under_version .FIX_4_4) ∧
      make_prefix (under_version .FIX_4_2) = make_prefix (under_version .FIX_4_4) := by
  decide

/-- The equivalence for sessions with different targets. -/
theorem prefix_separates_targets :
    (make_key colon_in_sender ≠ make_key (under_version .FIX_4_2) →
      make_prefix colon_in_sender ≠ make_prefix (under_version .FIX_4_2)) ↔
      ¬(colon_in_sender.senderCompID = (under_version .FIX_4_2).senderCompID ∧
        colon_in_sender.targetCompID = (under_version .FIX_4_2).targetCompID ∧
        colon_in_sender.qualifier = (under_version .FIX_4_2).qualifier ∧
        colon_in_sender.version ≠ (under_version .FIX_4_2).version) := by
  have hshort : ShortComponents colon_in_sender := ⟨by decide, by decide, by decide⟩
  have hshort' : ShortComponents (under_version .FIX_4_2) := ⟨by decide, by decide, by decide⟩
  exact prefix_separates_iff _ _ hshort hshort'

end FixEngine
