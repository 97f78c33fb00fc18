import DeviceGateway.Authority.Registry

/-!
# Whom a registry lets in

A registry looks credentials up by canonical id. The thumbprints under an id are those of all
entries with that id, and different identities share an id only if the device id of one is that of
the other with a slash and more.
-/

namespace DeviceGateway

/-! ### Canonical ids -/

/-- A name that is another name, a slash and more. -/
def ExtendsBySlash (longer shorter : String) : Prop := ∃ rest, longer = shorter ++ "/" ++ rest

namespace ClientIdentity

/-- What follows the device in a canonical id. -/
def idSuffix : Option String → List Char
  | none => []
  | some m => '/' :: m.toList

theorem joinedId_toList (d : String) (m : Option String) :
    (joinedId d m).toList = d.toList ++ idSuffix m := by
  cases m with
  | none => simp [joinedId, idSuffix]
  | some m => simp [joinedId, idSuffix, String.toList_append]

theorem idSuffix_injective {m n : Option String} (h : idSuffix m = idSuffix n) : m = n := by
  cases m with
  | none =>
    cases n with
    | none => rfl
    | some n => cases h
  | some m =>
    cases n with
    | none => cases h
    | some n =>
      simp only [idSuffix, List.cons.injEq, true_and] at h
      rw [String.toList_inj.mp h]

/-- If a suffix starts with what a device id has more than another, that is a slash and more. -/
theorem extends_of_idSuffix {d e : String} {m n : Option String} {cs : List Char}
    (hd : d.toList = e.toList ++ cs) (hs : idSuffix n = cs ++ idSuffix m) (hcs : cs ≠ []) :
    ExtendsBySlash d e := by
  cases n with
  | none =>
    have hnil := (List.append_eq_nil_iff.mp hs.symm).1
    exact (hcs hnil).elim
  | some n =>
    obtain ⟨c, rest, rfl⟩ := List.exists_cons_of_ne_nil hcs
    simp only [idSuffix, List.cons_append, List.cons.injEq] at hs
    obtain ⟨rfl, -⟩ := hs
    refine ⟨String.ofList rest, String.toList_inj.mp ?_⟩
    rw [hd]
    simp [String.toList_append]

/-- Two identities with one id are the same, or the device id of one extends that of the other. -/
theorem eq_or_extends_of_joinedId {d e : String} {m n : Option String}
    (h : joinedId d m = joinedId e n) :
    (d = e ∧ m = n) ∨ ExtendsBySlash d e ∨ ExtendsBySlash e d := by
  have hlists := congrArg String.toList h
  rw [joinedId_toList, joinedId_toList, List.append_eq_append_iff] at hlists
  rcases hlists with ⟨cs, he, hm⟩ | ⟨cs, hd, hn⟩
  · by_cases hcs : cs = []
    · rw [hcs, List.append_nil] at he
      rw [hcs, List.nil_append] at hm
      exact .inl ⟨(String.toList_inj.mp he).symm, idSuffix_injective hm⟩
    · exact .inr (.inr (extends_of_idSuffix he hm hcs))
  · by_cases hcs : cs = []
    · rw [hcs, List.append_nil] at hd
      rw [hcs, List.nil_append] at hn
      exact .inl ⟨String.toList_inj.mp hd, (idSuffix_injective hn).symm⟩
    · exact .inr (.inl (extends_of_idSuffix hd hn hcs))

end ClientIdentity

namespace Registry

/-! ### Collected thumbprints -/

def collected (key : String) (entries : List RegisteredIdentity) : List String :=
  (entries.filter (·.key == key)).flatMap fun e => e.thumbprints.map Text.upperAscii

theorem lookup_extend (key k : String) (prints : List String)
    (slots : List (String × List String)) :
    (extend key prints slots).lookup k =
      if k = key then some ((slots.lookup k).getD [] ++ prints) else slots.lookup k := by
  induction slots with
  | nil =>
    by_cases hk : k = key
    · simp [extend, hk]
    · have hb : (k == key) = false := by simpa using hk
      simp [extend, List.lookup_cons, hk, hb]
  | cons slot rest ih =>
    obtain ⟨k', ps⟩ := slot
    by_cases hk' : k' = key
    · by_cases hk : k = key
      · simp [extend, hk', hk]
      · have hb : (k == key) = false := by simpa using hk
        simp [extend, List.lookup_cons, hk', hk, hb]
    · by_cases hk : k = k'
      · simp [extend, hk', hk]
      · have hb : (k == k') = false := by simpa using hk
        simp only [extend, if_neg hk', List.lookup_cons, hb, ih]

theorem lookup_collect (entries : List RegisteredIdentity) (slots : List (String × List String))
    (k : String) :
    (entries.foldl (fun slots e => extend e.key (e.thumbprints.map Text.upperAscii) slots)
        slots).lookup k =
      if ∃ e ∈ entries, e.key = k then some ((slots.lookup k).getD [] ++ collected k entries)
      else slots.lookup k := by
  induction entries generalizing slots with
  | nil => simp
  | cons e entries ih =>
    rw [List.foldl_cons, ih, lookup_extend]
    by_cases he : e.key = k
    · by_cases hrest : ∃ x ∈ entries, x.key = k
      · simp [collected, he, hrest, List.append_assoc]
      · have hnone : entries.filter (·.key == k) = [] := by
          simpa using hrest
        simp [collected, he, hrest, hnone]
    · have hne : k ≠ e.key := fun h => he h.symm
      simp [collected, he, hne]

theorem lookup_ofEntries (entries : List RegisteredIdentity) (k : String) :
    (ofEntries entries).slots.lookup k =
      if ∃ e ∈ entries, e.key = k then some (collected k entries) else none := by
  unfold ofEntries
  rw [lookup_collect]
  simp

/-- A registry accepts a credential whose id is registered, if no entry with that id has a
thumbprint or one of them has the credential's. -/
theorem accepts_iff_collected (entries : List RegisteredIdentity) (c : Credential) :
    (ofEntries entries).accepts c = true ↔
      (∃ e ∈ entries, e.key = c.identity.id) ∧
        (collected c.identity.id entries = [] ∨
          c.thumbprint ∈ collected c.identity.id entries) := by
  unfold accepts
  rw [lookup_ofEntries]
  by_cases h : ∃ e ∈ entries, e.key = c.identity.id
  · simp [h]
  · simp [h]

/-! ### Devices and modules -/

/-- A registered device whose id extends that of another lets in a module of the other. -/
theorem accepts_hosted_of_extends {d e : String} (h : ExtendsBySlash d e) :
    ∃ m, ∀ c : Credential, c.identity = .hosted e m →
      (ofEntries [⟨d, none, []⟩]).accepts c = true := by
  obtain ⟨rest, rfl⟩ := h
  refine ⟨rest, ?_⟩
  intro c hc
  rw [accepts_iff_collected, hc]
  exact ⟨⟨_, List.mem_singleton_self _, rfl⟩, .inl (by simp [collected])⟩

/-- A registry accepts a credential only by an entry with its id: one of the very same device and
module, unless one of the two device ids extends the other. If none does, the very device and module
are registered; and wherever a device id extends that of the credential, a registry of that one
device lets in some module of the credential's. -/
theorem accepts_same_unless_extends (entries : List RegisteredIdentity) (c : Credential) :
    ((ofEntries entries).accepts c = true →
      ∃ e ∈ entries, e.key = c.identity.id ∧
        ((e.deviceId = c.identity.deviceId ∧ e.moduleId = c.identity.moduleId) ∨
          ExtendsBySlash e.deviceId c.identity.deviceId ∨
          ExtendsBySlash c.identity.deviceId e.deviceId)) ∧
    ((∀ e ∈ entries, ¬ ExtendsBySlash e.deviceId c.identity.deviceId ∧
        ¬ ExtendsBySlash c.identity.deviceId e.deviceId) →
      (ofEntries entries).accepts c = true →
      ∃ e ∈ entries, e.deviceId = c.identity.deviceId ∧ e.moduleId = c.identity.moduleId) ∧
    (∀ d, ExtendsBySlash d c.identity.deviceId → ∃ m, ∀ x : Credential,
      x.identity = .hosted c.identity.deviceId m →
        (ofEntries [⟨d, none, []⟩]).accepts x = true) := by
  have hentry : (ofEntries entries).accepts c = true →
      ∃ e ∈ entries, e.key = c.identity.id ∧
        ((e.deviceId = c.identity.deviceId ∧ e.moduleId = c.identity.moduleId) ∨
          ExtendsBySlash e.deviceId c.identity.deviceId ∨
          ExtendsBySlash c.identity.deviceId e.deviceId) := by
    intro h
    obtain ⟨⟨e, he, hkey⟩, -⟩ := (accepts_iff_collected entries c).mp h
    exact ⟨e, he, hkey, ClientIdentity.eq_or_extends_of_joinedId hkey⟩
  refine ⟨hentry, ?_, fun d h => accepts_hosted_of_extends h⟩
  intro hapart h
  obtain ⟨e, he, -, hsame | hlonger | hshorter⟩ := hentry h
  · exact ⟨e, he, hsame⟩
  · exact ((hapart e he).1 hlonger).elim
  · exact ((hapart e he).2 hshorter).elim

/-- A registered device whose name has a slash lets a module of another device in. -/
theorem accepts_module_of_unregistered_device :
    ¬ ∀ (entries : List RegisteredIdentity) (hub : String) (request : CredentialRequest)
      (c : Credential), x509Factory hub request = .ok c → (ofEntries entries).accepts c = true →
      ∃ e ∈ entries, e.deviceId = c.identity.deviceId ∧ e.moduleId = c.identity.moduleId := by
  intro h
  obtain ⟨e, he, hd, -⟩ := h [⟨"dev1/mod1", none, []⟩] "hub-a"
    ⟨"dev1", some "mod1", "", [0x6c], [[0x6c]]⟩ _ rfl (by decide)
  cases List.mem_singleton.mp he
  exact absurd hd (by decide)

end Registry
end DeviceGateway
