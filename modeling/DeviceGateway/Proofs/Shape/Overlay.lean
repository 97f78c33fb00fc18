import Mathlib.Data.String.Basic
import DeviceGateway.Config.Layered

/-!
# Overlaid trees

What stands at a path of a tree that another one is laid over. Where the upper tree has something,
it counts; a path that it spares leads to what the lower tree has there.
-/

namespace DeviceGateway

namespace Shape.DataTree

variable {τ : Type}

/-- What keys lead to, through maps. -/
def at? : DataTree τ → List String → Option (DataTree τ)
  | t, [] => some t
  | .map _ members, key :: path => (members.lookup key).bind fun t => t.at? path
  | _, _ :: _ => none

/-- Whether nothing stands at a path, nor on the way to it but maps. -/
def Spares : DataTree τ → List String → Prop
  | .map _ members, key :: path => ∀ t, members.lookup key = some t → t.Spares path
  | _, _ => False

/-- Whether the members of a tree, and of the maps it leads to, are in the order of their keys. -/
inductive Ordered : DataTree τ → Prop
  | leaf {s : τ} {v : Scalar} : Ordered (.leaf s v)
  | seq {s : τ} {items : List (DataTree τ)} : Ordered (.seq s items)
  | map {s : τ} {members : List (String × DataTree τ)}
      (hkeys : members.Pairwise fun m n => m.1 < n.1) (hmembers : ∀ m ∈ members, Ordered m.2) :
      Ordered (.map s members)

@[simp] theorem at?_nil (t : DataTree τ) : t.at? [] = some t := by
  cases t <;> rfl

@[simp] theorem at?_map_cons (s : τ) (members : List (String × DataTree τ)) (key : String)
    (path : List String) : (DataTree.map s members).at? (key :: path) =
      (members.lookup key).bind fun t => t.at? path := rfl

theorem at?_append (t : DataTree τ) (path rest : List String) :
    t.at? (path ++ rest) = (t.at? path).bind fun u => u.at? rest := by
  induction path generalizing t with
  | nil => rw [at?_nil]; rfl
  | cons key path ih =>
    cases t with
    | leaf s v => rfl
    | seq s items => rfl
    | map s members =>
      rw [List.cons_append, at?_map_cons, at?_map_cons, Option.bind_assoc]
      simp only [ih]

@[simp] theorem not_spares_nil (t : DataTree τ) : ¬ t.Spares [] := by
  intro h
  cases t <;> exact h

theorem Spares.at?_eq_none {t : DataTree τ} {path : List String} (h : t.Spares path) :
    t.at? path = none := by
  induction path generalizing t with
  | nil => exact absurd h (not_spares_nil t)
  | cons key path ih =>
    cases t with
    | leaf s v => exact h.elim
    | seq s items => exact h.elim
    | map s members =>
      rw [at?_map_cons]
      cases hkey : members.lookup key with
      | none => rfl
      | some u => exact ih (h u hkey)

end Shape.DataTree

open Shape Shape.DataTree

variable {τ : Type}

/-! ### Members -/

namespace Yaml

theorem lookup_insertTree_self (key : String) (t : DataTree τ)
    (members : List (String × DataTree τ)) : (insertTree key t members).lookup key = some t := by
  induction members with
  | nil => simp [insertTree]
  | cons m rest ih =>
    obtain ⟨k, u⟩ := m
    unfold insertTree
    by_cases heq : key = k
    · simp [heq]
    · rw [if_neg heq]
      split
      · simp
      · rw [List.lookup_cons, beq_false_of_ne heq]
        exact ih

theorem lookup_insertTree_of_ne {key other : String} (hne : other ≠ key) (t : DataTree τ)
    (members : List (String × DataTree τ)) :
    (insertTree key t members).lookup other = members.lookup other := by
  induction members with
  | nil => simp [insertTree, List.lookup_cons, beq_false_of_ne hne]
  | cons m rest ih =>
    obtain ⟨k, u⟩ := m
    unfold insertTree
    by_cases heq : key = k
    · subst heq
      simp [List.lookup_cons, beq_false_of_ne hne]
    · rw [if_neg heq]
      split
      · simp [List.lookup_cons, beq_false_of_ne hne]
      · rw [List.lookup_cons, List.lookup_cons, ih]

theorem mem_insertTree {key : String} {t : DataTree τ} {members : List (String × DataTree τ)}
    {m : String × DataTree τ} (h : m ∈ insertTree key t members) : m = (key, t) ∨ m ∈ members := by
  induction members with
  | nil => exact .inl (List.mem_singleton.mp h)
  | cons n rest ih =>
    obtain ⟨k, u⟩ := n
    unfold insertTree at h
    split at h
    · next heq =>
      rw [heq]
      rcases List.mem_cons.mp h with rfl | hrest
      · exact .inl rfl
      · exact .inr (List.mem_cons_of_mem _ hrest)
    · split at h
      · exact List.mem_cons.mp h
      · rcases List.mem_cons.mp h with rfl | hrest
        · exact .inr (List.mem_cons_self ..)
        · exact (ih hrest).imp id (List.mem_cons_of_mem _)

theorem sorted_insertTree {members : List (String × DataTree τ)}
    (hkeys : members.Pairwise fun m n => m.1 < n.1) (key : String) (t : DataTree τ) :
    (insertTree key t members).Pairwise fun m n => m.1 < n.1 := by
  induction members with
  | nil => exact List.pairwise_singleton ..
  | cons n rest ih =>
    obtain ⟨k, u⟩ := n
    obtain ⟨hfirst, hrest⟩ := List.pairwise_cons.mp hkeys
    unfold insertTree
    split
    · exact List.pairwise_cons.mpr ⟨hfirst, hrest⟩
    · next hne =>
      split
      · next hlt =>
        refine List.pairwise_cons.mpr ⟨?_, hkeys⟩
        intro m hm
        rcases List.mem_cons.mp hm with rfl | hm
        · exact hlt
        · exact lt_trans hlt (hfirst m hm)
      · next hge =>
        refine List.pairwise_cons.mpr ⟨?_, ih hrest⟩
        intro m hm
        rcases mem_insertTree hm with rfl | hm
        · exact lt_of_le_of_ne (not_lt.mp hge) (Ne.symm hne)
        · exact hfirst m hm

theorem ordered_insertTree {s : τ} {members : List (String × DataTree τ)}
    (hmembers : Ordered (.map s members)) (key : String) {t : DataTree τ} (ht : t.Ordered) :
    Ordered (.map s (insertTree key t members)) := by
  obtain - | - | ⟨hkeys, hordered⟩ := hmembers
  refine .map (sorted_insertTree hkeys key t) ?_
  intro m hm
  rcases mem_insertTree hm with rfl | hm
  · exact ht
  · exact hordered m hm

end Yaml

theorem lookup_eq_none_of_not_mem {α : Type} {members : List (String × α)} {key : String}
    (h : key ∉ members.map (·.1)) : members.lookup key = none := by
  rw [List.lookup_eq_none_iff]
  intro m hm
  rw [bne_iff_ne]
  rintro rfl
  exact h (List.mem_map.mpr ⟨m, hm, rfl⟩)

theorem nodup_of_sorted {members : List (String × DataTree τ)}
    (hkeys : members.Pairwise fun m n => m.1 < n.1) : (members.map (·.1)).Nodup :=
  (List.pairwise_map.mpr hkeys).imp fun h => ne_of_lt h

theorem Shape.DataTree.Ordered.of_lookup {s : τ} {members : List (String × DataTree τ)}
    (h : Ordered (.map s members)) {key : String} {t : DataTree τ}
    (ht : members.lookup key = some t) : t.Ordered := by
  obtain - | - | ⟨-, hmembers⟩ := h
  obtain ⟨before, after, hsplit, -⟩ := List.lookup_eq_some_iff.mp ht
  refine hmembers (key, t) ?_
  rw [hsplit]
  exact List.mem_append_right before (List.mem_cons_self ..)

/-! ### Laying one tree over another -/

/-- What an upper tree makes of what is below it, if anything is. -/
def overlayOn (lower : Option (DataTree τ)) (upper : DataTree τ) : DataTree τ :=
  match lower with
  | some below => overlay below upper
  | none => upper

theorem overlay_map (s s' : τ) (lower upper : List (String × DataTree τ)) :
    overlay (.map s lower) (.map s' upper) = .map s' (overlayMembers lower upper) := rfl

theorem overlayMembers_cons (lower rest : List (String × DataTree τ)) (key : String)
    (t : DataTree τ) : overlayMembers lower ((key, t) :: rest) =
      overlayMembers (Yaml.insertTree key (overlayOn (lower.lookup key) t) lower) rest := rfl

theorem overlay_leaf (lower : DataTree τ) (s : τ) (v : Scalar) :
    overlay lower (.leaf s v) = .leaf s v := by
  cases lower <;> rfl

theorem overlay_seq (lower : DataTree τ) (s : τ) (items : List (DataTree τ)) :
    overlay lower (.seq s items) = .seq s items := by
  cases lower <;> rfl

/-- What is no map is replaced, and it led nowhere. -/
theorem map_or_overlay_eq (lower upper : DataTree τ) : (∃ s members, lower = .map s members) ∨
    (overlay lower upper = upper ∧ ∀ key path, lower.at? (key :: path) = none) := by
  cases lower with
  | map s members => exact .inl ⟨s, members, rfl⟩
  | leaf s v => exact .inr ⟨by cases upper <;> rfl, fun _ _ => rfl⟩
  | seq s items => exact .inr ⟨by cases upper <;> rfl, fun _ _ => rfl⟩

theorem overlayOn_map (lower : Option (DataTree τ)) (s : τ) (upper : List (String × DataTree τ)) :
    ∃ s' members, overlayOn lower (.map s upper) = .map s' members := by
  cases lower with
  | none => exact ⟨_, _, rfl⟩
  | some below =>
    obtain ⟨s', members, rfl⟩ | ⟨heq, -⟩ := map_or_overlay_eq below (.map s upper)
    · exact ⟨s, overlayMembers members upper, rfl⟩
    · exact ⟨s, upper, heq⟩

theorem lookup_overlayMembers {upper : List (String × DataTree τ)}
    (hupper : (upper.map (·.1)).Nodup) (lower : List (String × DataTree τ)) (key : String) :
    (overlayMembers lower upper).lookup key =
      match upper.lookup key with
      | some t => some (overlayOn (lower.lookup key) t)
      | none => lower.lookup key := by
  induction upper generalizing lower with
  | nil => rfl
  | cons m rest ih =>
    obtain ⟨k, t⟩ := m
    rw [List.map_cons, List.nodup_cons] at hupper
    rw [overlayMembers_cons, ih hupper.2]
    by_cases heq : key = k
    · subst heq
      rw [lookup_eq_none_of_not_mem hupper.1, List.lookup_cons_self, Yaml.lookup_insertTree_self]
    · rw [Yaml.lookup_insertTree_of_ne heq, List.lookup_cons, beq_false_of_ne heq]

theorem ordered_overlayMembers {s : τ} {lower upper : List (String × DataTree τ)}
    (hlower : Ordered (.map s lower)) (hupper : ∀ m ∈ upper, m.2.Ordered)
    (hoverlay : ∀ m ∈ upper, ∀ below, below.Ordered → (overlay below m.2).Ordered) :
    Ordered (.map s (overlayMembers lower upper)) := by
  induction upper generalizing lower with
  | nil => exact hlower
  | cons m rest ih =>
    obtain ⟨key, t⟩ := m
    have hmember : (overlayOn (lower.lookup key) t).Ordered := by
      cases hkey : lower.lookup key with
      | none => exact hupper (key, t) (List.mem_cons_self ..)
      | some below => exact hoverlay (key, t) (List.mem_cons_self ..) below (hlower.of_lookup hkey)
    rw [overlayMembers_cons]
    exact ih (Yaml.ordered_insertTree hlower key hmember)
      (fun n hn => hupper n (List.mem_cons_of_mem _ hn))
      (fun n hn => hoverlay n (List.mem_cons_of_mem _ hn))

theorem ordered_overlay {lower upper : DataTree τ} (hlower : lower.Ordered)
    (hupper : upper.Ordered) : (overlay lower upper).Ordered := by
  induction hupper generalizing lower with
  | leaf =>
    rw [overlay_leaf]
    exact .leaf
  | seq =>
    rw [overlay_seq]
    exact .seq
  | @map s' upper hkeys hmembers ih =>
    obtain ⟨s, lower, rfl⟩ | ⟨heq, -⟩ := map_or_overlay_eq lower (.map s' upper)
    · have hstart : Ordered (.map s' lower) := by
        obtain - | - | ⟨hk, hm⟩ := hlower
        exact .map hk hm
      rw [overlay_map]
      exact ordered_overlayMembers hstart hmembers fun m hm below => ih m hm
    · rw [heq]
      exact .map hkeys hmembers

/-! ### Paths through an overlay -/

theorem Shape.DataTree.Ordered.lookup_overlayMembers {s : τ}
    {upper : List (String × DataTree τ)} (hupper : Ordered (.map s upper))
    (lower : List (String × DataTree τ)) (key : String) :
    (overlayMembers lower upper).lookup key =
      match upper.lookup key with
      | some t => some (overlayOn (lower.lookup key) t)
      | none => lower.lookup key := by
  obtain - | - | ⟨hkeys, -⟩ := hupper
  exact DeviceGateway.lookup_overlayMembers (nodup_of_sorted hkeys) lower key

/-- What the upper tree has at a path lies over what the lower one has there. -/
theorem at?_overlay {lower upper : DataTree τ} (hupper : upper.Ordered) {path : List String}
    {v : DataTree τ} (hv : upper.at? path = some v) :
    (overlay lower upper).at? path = some (overlayOn (lower.at? path) v) := by
  -- both trees are walked at once; a lower tree that is no map is replaced, and leads nowhere
  induction path generalizing lower upper with
  | nil =>
    rw [at?_nil] at hv ⊢
    cases hv
    rw [at?_nil]
    rfl
  | cons key path ih =>
    obtain ⟨s, lower, rfl⟩ | ⟨heq, hnone⟩ := map_or_overlay_eq lower upper
    · cases upper with
      | leaf s w => cases hv
      | seq s items => cases hv
      | map s' upper =>
        obtain ⟨t, ht, hpath⟩ := Option.bind_eq_some_iff.mp hv
        rw [overlay_map, at?_map_cons, at?_map_cons, hupper.lookup_overlayMembers, ht]
        cases lower.lookup key with
        | none => exact hpath
        | some below => exact ih (hupper.of_lookup ht) hpath
    · rw [heq, hnone]
      exact hv

namespace Shape.DataTree

theorem Spares.at?_overlay {lower upper : DataTree τ} (hupper : upper.Ordered)
    {path : List String} (h : upper.Spares path) :
    (overlay lower upper).at? path = lower.at? path := by
  induction path generalizing lower upper with
  | nil => exact absurd h (not_spares_nil upper)
  | cons key path ih =>
    obtain ⟨s, lower, rfl⟩ | ⟨heq, hnone⟩ := map_or_overlay_eq lower upper
    · cases upper with
      | leaf s w => exact h.elim
      | seq s items => exact h.elim
      | map s' upper =>
        rw [overlay_map, at?_map_cons, at?_map_cons, hupper.lookup_overlayMembers]
        cases ht : upper.lookup key with
        | none => rfl
        | some t =>
          cases lower.lookup key with
          | none => exact (h t ht).at?_eq_none
          | some below => exact ih (hupper.of_lookup ht) (h t ht)
    · rw [heq, hnone]
      exact h.at?_eq_none

theorem Spares.overlay {lower upper : DataTree τ} (hupper : upper.Ordered) {path : List String}
    (hl : lower.Spares path) (hu : upper.Spares path) : (overlay lower upper).Spares path := by
  induction path generalizing lower upper with
  | nil => exact absurd hl (not_spares_nil lower)
  | cons key path ih =>
    cases lower with
    | leaf s w => exact hl.elim
    | seq s items => exact hl.elim
    | map s lower =>
      cases upper with
      | leaf s w => exact hu.elim
      | seq s items => exact hu.elim
      | map s' upper =>
        rw [overlay_map]
        intro t ht
        rw [hupper.lookup_overlayMembers] at ht
        cases hkey : upper.lookup key with
        | none =>
          rw [hkey] at ht
          exact hl t ht
        | some u =>
          rw [hkey] at ht
          obtain rfl := Option.some.inj ht
          cases hbelow : lower.lookup key with
          | none => exact hu u hkey
          | some below => exact ih (hupper.of_lookup hkey) (hl below hbelow) (hu u hkey)

end Shape.DataTree
end DeviceGateway
