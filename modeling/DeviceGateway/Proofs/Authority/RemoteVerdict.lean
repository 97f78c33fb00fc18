import DeviceGateway.Authority.Remote
import DeviceGateway.Proofs.Json.RecordText

/-!
# The verdict of a remote authority

A full answer admits or denies by its flag, which stands in an object with any other members, or
alone in an array. Three statuses deny, and everything else is a fault of the authority.
-/

namespace DeviceGateway

open Json (IsObject IsArray flagWord)

namespace AuthenticationResponse

/-- Whether the flag of an object, given once among any other members, is a truth value. -/
def IsFlagged (body : Bytes) (b : Bool) : Prop :=
  ∃ members, IsObject body members ∧
    members.filter (·.1 == "authenticated") = [("authenticated", flagWord b)]

theorem takenFrom_iff {members : List (String × Bytes)} {b : Bool} :
    Json.Field.TakenFrom ⟨"authenticated", .flag⟩ members (.bool b) ↔
      members.filter (·.1 == "authenticated") = [("authenticated", flagWord b)] := by
  constructor
  · rintro (⟨t, hone, hshows⟩ | ⟨-, habsent⟩)
    · cases hshows
      exact hone
    · cases habsent
  · intro hone
    exact .inl ⟨flagWord b, hone, .flag b⟩

theorem parse_eq_ok_iff {body : Bytes} {r : AuthenticationResponse} :
    parse body = .ok r ↔
      IsFlagged body r.authenticated ∨ IsArray body [flagWord r.authenticated] := by
  have hnames : (shape.fields.map (·.name)).Nodup := by simp [shape]
  have hvalues : parse body = .ok r ↔ shape.parse body = .ok [.bool r.authenticated] := by
    unfold parse
    constructor
    · intro h
      split at h
      · cases h
      · next b hb =>
        cases h
        exact hb
      · cases h
    · intro h
      rw [h]
  rw [hvalues, Json.RecordShape.parse_eq_ok_iff hnames]
  constructor
  · rintro (⟨members, hobject, htaken⟩ | ⟨pairs, harray, hshows, hbool⟩)
    · obtain ⟨hflag, -⟩ := List.forall₂_cons.mp htaken
      exact .inl ⟨members, hobject, takenFrom_iff.mp hflag⟩
    · obtain ⟨p, rest, hflag, hrest, rfl⟩ := List.forall₂_cons_left_iff.mp hshows
      cases hrest
      obtain ⟨t, v⟩ := p
      cases hbool
      cases hflag
      exact .inr harray
  · rintro (⟨members, hobject, hone⟩ | harray)
    · exact .inl ⟨members, hobject, .cons (takenFrom_iff.mpr hone) .nil⟩
    · exact .inr ⟨[(flagWord r.authenticated, .bool r.authenticated)], harray,
        .cons (.flag _) .nil, rfl⟩

end AuthenticationResponse

namespace RemoteAuthority

open AuthenticationResponse (IsFlagged)

/-- The results that admit or deny. -/
inductive Decides : Http.Result → Bool → Prop where
  | flagged {body : Bytes} {b : Bool} (h : IsFlagged body b) : Decides (.answered 200 (.ok body)) b
  | alone {body : Bytes} {b : Bool} (h : IsArray body [flagWord b]) :
      Decides (.answered 200 (.ok body)) b
  | denied {status : Nat} {body : Except String Bytes}
      (h : status = 401 ∨ status = 403 ∨ status = 404) : Decides (.answered status body) false

theorem denies_iff {status : Nat} :
    denies status = true ↔ status = 401 ∨ status = 403 ∨ status = 404 := by
  simp only [denies, Bool.or_eq_true, beq_iff_eq, or_assoc]

theorem verdict_full {body : Bytes} {b : Bool} :
    verdict (.answered 200 (.ok body)) = .ok b ↔ AuthenticationResponse.parse body = .ok ⟨b⟩ := by
  simp only [verdict, if_true]
  cases AuthenticationResponse.parse body with
  | error text => simp
  | ok r =>
    obtain ⟨authenticated⟩ := r
    simp

/-- A verdict is what the result decides, and every other result is a fault of the authority. -/
theorem verdict_by_result (result : Http.Result) :
    (∀ b, verdict result = .ok b ↔ Decides result b) ∧
      ∀ e, verdict result = .error e → e.isAuthenticationFault = true := by
  constructor
  · intro b
    constructor
    · intro h
      cases result with
      | failed text => cases h
      | answered status body =>
        by_cases hfull : status = 200
        · subst hfull
          cases body with
          | error text => cases h
          | ok body =>
            rcases AuthenticationResponse.parse_eq_ok_iff.mp (verdict_full.mp h) with hflag | harray
            · exact .flagged hflag
            · exact .alone harray
        · simp only [verdict, if_neg hfull] at h
          split at h
          · next hdenies =>
            cases h
            exact .denied (denies_iff.mp hdenies)
          · cases h
    · intro h
      cases h with
      | flagged h => exact verdict_full.mpr (AuthenticationResponse.parse_eq_ok_iff.mpr (.inl h))
      | alone h => exact verdict_full.mpr (AuthenticationResponse.parse_eq_ok_iff.mpr (.inr h))
      | @denied status body h =>
        have hfull : status ≠ 200 := by omega
        simp only [verdict, if_neg hfull, denies_iff.mpr h, if_true]
  · intro e h
    unfold verdict at h
    split at h
    · cases h
      rfl
    · split at h
      · split at h
        · cases h
          rfl
        · split at h
          · cases h
          · cases h
            rfl
      · split at h
        · cases h
        · cases h
          rfl

/-- An array of the flag alone admits, though it is not an object. -/
theorem array_admits :
    ¬ ∀ (body : Bytes) (b : Bool),
      verdict (.answered 200 (.ok body)) = .ok b → IsFlagged body b := by
  intro hclaim
  have hread : verdict (.answered 200 (.ok [0x5B, 0x74, 0x72, 0x75, 0x65, 0x5D])) = .ok true := rfl
  obtain ⟨members, hobject, -⟩ := hclaim _ _ hread
  generalize hbody : ([0x5B, 0x74, 0x72, 0x75, 0x65, 0x5D] : Bytes) = body at hobject
  obtain ⟨hbefore, -, -⟩ := hobject
  next before t after =>
  cases before with
  | nil => cases hbody
  | cons b before =>
    have hb := hbefore b (List.mem_cons_self ..)
    obtain rfl : 0x5B = b := (List.cons.inj hbody).1
    cases hb

end RemoteAuthority
end DeviceGateway
