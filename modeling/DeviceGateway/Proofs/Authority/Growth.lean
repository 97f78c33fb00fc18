import DeviceGateway.Proofs.Authority.Verdict

/-!
# Registries that grow

A registry with one more entry still accepts whom it accepted before, with one exception: the first
thumbprints that are named for an identity shut out every certificate that they do not name, though
an entry without thumbprints is there to admit any.
-/

namespace DeviceGateway

/-- Whether an entry is the first of a credential's id to name thumbprints, the credential's not
among them. -/
structure RegisteredIdentity.ShutsOut (e : RegisteredIdentity) (entries : List RegisteredIdentity)
    (c : Credential) : Prop where
  key_eq : e.key = c.identity.id
  first : ∀ x ∈ entries, x.key = c.identity.id → x.thumbprints = []
  named : e.thumbprints ≠ []
  others : ∀ p ∈ e.thumbprints, Text.sameIgnoringCase p (thumbprint c.certificate) = false

namespace Registry

/-- Whether an entry of an id names the thumbprint of a certificate, in any letter case. -/
def Names (entries : List RegisteredIdentity) (id : String) (certificate : Bytes) : Prop :=
  ∃ e ∈ entries, e.key = id ∧ ∃ p ∈ e.thumbprints,
    Text.sameIgnoringCase p (thumbprint certificate) = true

theorem Names.mono {entries others : List RegisteredIdentity} (hsubset : entries ⊆ others)
    {id : String} {certificate : Bytes} (h : Names entries id certificate) :
    Names others id certificate := by
  obtain ⟨e, he, hnamed⟩ := h
  exact ⟨e, hsubset he, hnamed⟩

/-- Of a credential that fewer entries accept, more entries accept it exactly if they name no
thumbprint for its id either, or name its own. -/
theorem accepts_more_iff {entries others : List RegisteredIdentity} (hsubset : entries ⊆ others)
    {c : Credential} (h : (ofEntries entries).accepts c = true) :
    (ofEntries others).accepts c = true ↔
      (∀ x ∈ others, x.key = c.identity.id → x.thumbprints = []) ∨
        Names others c.identity.id c.certificate := by
  obtain ⟨⟨e, he, hkey⟩, -⟩ := (accepts_iff_entries entries c).mp h
  rw [accepts_iff_entries]
  exact and_iff_right ⟨e, hsubset he, hkey⟩

theorem mem_insert_iff {before after : List RegisteredIdentity} {e x : RegisteredIdentity} :
    x ∈ before ++ e :: after ↔ x = e ∨ x ∈ before ++ after :=
  List.perm_middle.mem_iff.trans List.mem_cons

theorem subset_insert (before after : List RegisteredIdentity) (e : RegisteredIdentity) :
    before ++ after ⊆ before ++ e :: after :=
  fun _ hx => mem_insert_iff.mpr (.inr hx)

variable {before after : List RegisteredIdentity} {e : RegisteredIdentity} {c : Credential}

/-- An entry that shuts a credential out is the only one of its id with thumbprints. -/
theorem not_accepts_of_shutsOut (h : e.ShutsOut (before ++ after) c) :
    (ofEntries (before ++ e :: after)).accepts c ≠ true := by
  intro hc
  rcases ((accepts_iff_entries _ c).mp hc).2 with hopen | ⟨x, hx, hkey, p, hp, hsame⟩
  · exact h.named (hopen e (mem_insert_iff.mpr (.inl rfl)) h.key_eq)
  · rcases mem_insert_iff.mp hx with rfl | hx
    · rw [h.others p hp] at hsame
      cases hsame
    · rw [h.first x hx hkey] at hp
      cases hp

theorem shutsOut_of_not_accepts (hshort : (ofEntries (before ++ after)).accepts c = true)
    (hlong : (ofEntries (before ++ e :: after)).accepts c ≠ true) :
    e.ShutsOut (before ++ after) c := by
  rw [Ne, accepts_more_iff (subset_insert before after e) hshort, not_or] at hlong
  obtain ⟨hsome, hunnamed⟩ := hlong
  have hfirst : ∀ x ∈ before ++ after, x.key = c.identity.id → x.thumbprints = [] := by
    rcases ((accepts_iff_entries _ c).mp hshort).2 with hopen | hnamed
    · exact hopen
    · exact (hunnamed (Names.mono (subset_insert before after e) hnamed)).elim
  -- all other entries of the id are open, so that it is the new one that is not
  have hnew : e.key = c.identity.id ∧ e.thumbprints ≠ [] := by
    by_contra hno
    refine hsome fun x hx hkey => ?_
    rcases mem_insert_iff.mp hx with rfl | hx
    · by_contra hne
      exact hno ⟨hkey, hne⟩
    · exact hfirst x hx hkey
  refine ⟨hnew.1, hfirst, hnew.2, ?_⟩
  intro p hp
  rw [← Bool.not_eq_true]
  intro hsame
  exact hunnamed ⟨e, mem_insert_iff.mpr (.inl rfl), hnew.1, p, hp, hsame⟩

/-- Wherever an entry is inserted, a credential that was accepted is accepted still, unless the
entry is the first of the credential's id to name thumbprints and does not name the credential's.
With an entry of its id without thumbprints a credential is accepted exactly if no other entry of
the id names thumbprints either, or one of them names the credential's. -/
theorem growth_keeps_unless_shut_out (before after : List RegisteredIdentity)
    (e : RegisteredIdentity) (c : Credential) :
    ((ofEntries (before ++ after)).accepts c = true →
      ((ofEntries (before ++ e :: after)).accepts c = true ↔ ¬ e.ShutsOut (before ++ after) c)) ∧
    (e.key = c.identity.id → e.thumbprints = [] →
      ((ofEntries (before ++ e :: after)).accepts c = true ↔
        (∀ x ∈ before ++ after, x.key = c.identity.id → x.thumbprints = []) ∨
          Names (before ++ after) c.identity.id c.certificate)) := by
  constructor
  · intro hshort
    constructor
    · intro hlong hshut
      exact not_accepts_of_shutsOut hshut hlong
    · intro hkept
      by_contra hlong
      exact hkept (shutsOut_of_not_accepts hshort hlong)
  · intro hkey hopen
    have hregistered : ∃ x ∈ before ++ e :: after, x.key = c.identity.id :=
      ⟨e, mem_insert_iff.mpr (.inl rfl), hkey⟩
    rw [accepts_iff_entries, and_iff_right hregistered]
    simp only [mem_insert_iff, or_imp, forall_and, forall_eq, hopen, implies_true, true_and,
      Names, or_and_right, exists_or, exists_eq_left, List.not_mem_nil, false_and, exists_false,
      and_false, false_or]

/-- A device that is registered for any certificate is shut out by a second entry that names the
thumbprint of another certificate. -/
theorem growth_shuts_out_open_device :
    ¬ ∀ (before after : List RegisteredIdentity) (e : RegisteredIdentity) (hub : String)
      (request : CredentialRequest) (c : Credential), x509Factory hub request = .ok c →
      (ofEntries (before ++ after)).accepts c = true →
        (ofEntries (before ++ e :: after)).accepts c = true := by
  intro h
  have hkept := h [⟨"dev1", none, []⟩] [] ⟨"dev1", none, ["aa"]⟩ "hub-a"
    ⟨"dev1", none, "", [0x6c], [[0x6c]]⟩ _ rfl (by decide)
  refine not_accepts_of_shutsOut ⟨rfl, ?_, by decide, by decide +kernel⟩ hkept
  intro x hx _
  rw [List.append_nil, List.mem_singleton] at hx
  rw [hx]

end Registry
end DeviceGateway
