import DeviceGateway.Proofs.Shape.Overlay

/-!
# The layers of a configuration

The trees of a file and of the environment hold their members in order. What the environment lays
over a file is, at the path of each variable, what the last variable of that path stands for; it
spares every path that none leads to.
-/

namespace DeviceGateway

open Shape Shape.DataTree

/-! ### Trees of a file -/

namespace Yaml

variable {τ : Type}

theorem ordered_tagged (s : τ) (p : Properties) {t : DataTree τ} (ht : t.Ordered) :
    (tagged s p t).Ordered := by
  unfold tagged
  split
  · refine .map (List.pairwise_singleton ..) ?_
    intro m hm
    rw [List.mem_singleton.mp hm]
    exact ht
  · exact ht

mutual

theorem Node.ordered_tree? {s : τ} {depth : Nat} {n : Node} {t : DataTree τ}
    (h : n.tree? s depth = some t) : t.Ordered := by
  cases n with
  | scalar p plain cs =>
    unfold Node.tree? at h
    dsimp only at h
    split at h
    · cases h
      refine .map (List.pairwise_singleton ..) ?_
      intro m hm
      rw [List.mem_singleton.mp hm]
      exact .leaf
    · obtain ⟨v, -, rfl⟩ := Option.map_eq_some_iff.mp h
      exact .leaf
  | seq p items =>
    unfold Node.tree? at h
    split at h
    · cases h
    · obtain ⟨ts, -, rfl⟩ := Option.map_eq_some_iff.mp h
      exact ordered_tagged s p .seq
  | map p members =>
    unfold Node.tree? at h
    split at h
    · cases h
    · obtain ⟨ms, hms, rfl⟩ := Option.map_eq_some_iff.mp h
      exact ordered_tagged s p (ordered_memberTrees? hms (.map .nil nofun))
  | ref name => cases h

theorem ordered_memberTrees? {s : τ} {depth : Nat} {members : List (Node × Node)}
    {done ms : List (String × DataTree τ)} (h : memberTrees? s depth done members = some ms)
    (hdone : Ordered (.map s done)) : Ordered (.map s ms) := by
  cases members with
  | nil =>
    unfold memberTrees? at h
    cases h
    exact hdone
  | cons m rest =>
    obtain ⟨k, v⟩ := m
    unfold memberTrees? at h
    obtain ⟨key, -, h⟩ := Option.bind_eq_some_iff.mp h
    obtain ⟨t, ht, h⟩ := Option.bind_eq_some_iff.mp h
    exact ordered_memberTrees? h (ordered_insertTree hdone key (Node.ordered_tree? ht))

end

theorem ordered_members? {s : τ} {text : String} {ms : List (String × DataTree τ)}
    (h : members? s text = some ms) : Ordered (.map s ms) := by
  unfold members? at h
  obtain ⟨document, -, h⟩ := Option.bind_eq_some_iff.mp h
  split at h
  · cases h
    exact .map .nil nofun
  · exact ordered_memberTrees? h (.map .nil nofun)
  · split at h
    · cases h
      exact .map .nil nofun
    · cases h
  · cases h

end Yaml

theorem fileLayer_eq_ok {files : FileTree} {path : Option String} {y : DataTree SettingSource}
    (h : fileLayer files path = .ok y) : y.Ordered ∧ ∃ s ms, y = .map s ms := by
  unfold fileLayer at h
  split at h
  · cases h
    exact ⟨.map .nil nofun, _, _, rfl⟩
  · split at h
    · cases h
    · cases h
      exact ⟨.map .nil nofun, _, _, rfl⟩
    · dsimp only at h
      split at h
      · next hmembers =>
        cases h
        obtain ⟨text, -, hread⟩ := Option.bind_eq_some_iff.mp hmembers
        exact ⟨Yaml.ordered_members? hread, _, _, rfl⟩
      · cases h

/-! ### Values of variables -/

namespace Environment

theorem ordered_foldl_insertTree {s : SettingSource}
    {members done : List (String × DataTree SettingSource)}
    (hmembers : ∀ m ∈ members, m.2.Ordered) (hdone : Ordered (.map s done)) :
    Ordered (.map s (members.foldl (fun done m => Yaml.insertTree m.1 m.2 done) done)) := by
  induction members generalizing done with
  | nil => exact hdone
  | cons m rest ih =>
    exact ih (fun n hn => hmembers n (List.mem_cons_of_mem _ hn))
      (Yaml.ordered_insertTree hdone m.1 (hmembers m (List.mem_cons_self ..)))

/-- One induction on the fuel carries both the values and the members of a map, whose readers call
each other. -/
theorem ordered_of_read (fuel : Nat) (cs : List Char) :
    (∀ t rest, readValue fuel cs = some (t, rest) → t.Ordered) ∧
      ∀ ms rest, readMembers fuel cs = some (ms, rest) → ∀ m ∈ ms, m.2.Ordered := by
  induction fuel generalizing cs with
  | zero => exact ⟨nofun, nofun⟩
  | succ fuel ih =>
    refine ⟨?_, ?_⟩
    · intro t rest h
      unfold readValue at h
      split at h
      · obtain ⟨r, -, h⟩ := Option.bind_eq_some_iff.mp h
        cases h
        exact .seq
      · obtain ⟨⟨members, after⟩, hmembers, h⟩ := Option.bind_eq_some_iff.mp h
        cases h
        exact ordered_foldl_insertTree ((ih _).2 members after hmembers) (.map .nil nofun)
      · obtain ⟨r, -, h⟩ := Option.bind_eq_some_iff.mp h
        cases h
        exact .leaf
    · intro ms rest h
      unfold readMembers at h
      split at h
      · cases h
        exact nofun
      · dsimp only at h
        split at h
        · cases h
        · split at h
          · next value _ =>
            have hvalue := (ih value).1
            split at h
            · next t rest' ht =>
              obtain ⟨⟨others, after⟩, hothers, h⟩ := Option.map_eq_some_iff.mp h
              cases h
              intro m hm
              rcases List.mem_cons.mp hm with rfl | hm
              · exact hvalue t _ ht
              · exact (ih rest').2 others after hothers m hm
            · next t rest' ht =>
              cases h
              intro m hm
              rw [List.mem_singleton.mp hm]
              exact hvalue t _ ht
            · cases h
          · cases h

theorem ordered_value (text : String) : (value text).Ordered := by
  unfold value
  split
  · next t h => exact (ordered_of_read _ _).1 t [] h
  · exact .leaf

/-! ### The layer of the environment -/

/-- Whether neither of two paths leads through the end of the other. -/
def Apart (path other : List String) : Prop := ¬ path <+: other ∧ ¬ other <+: path

theorem ordered_nested {t : DataTree SettingSource} (ht : t.Ordered) (path : List String) :
    (nested t path).Ordered := by
  induction path with
  | nil => exact ht
  | cons key path ih =>
    refine .map (List.pairwise_singleton ..) ?_
    intro m hm
    rw [List.mem_singleton.mp hm]
    exact ih

theorem at?_nested (t : DataTree SettingSource) (path rest : List String) :
    (nested t (path ++ rest)).at? path = some (nested t rest) := by
  induction path with
  | nil => exact at?_nil _
  | cons key path ih => rw [List.cons_append, nested, at?_map_cons, List.lookup_cons_self]; exact ih

theorem spares_nested (t : DataTree SettingSource) {path other : List String}
    (h : Apart path other) : (nested t path).Spares other := by
  induction path generalizing other with
  | nil => exact absurd (List.nil_prefix ..) h.1
  | cons key path ih =>
    cases other with
    | nil => exact absurd (List.nil_prefix ..) h.2
    | cons k other =>
      intro u hu
      by_cases hkey : k = key
      · subst hkey
        rw [List.lookup_cons_self] at hu
        cases hu
        refine ih ⟨fun hp => h.1 ?_, fun hp => h.2 ?_⟩
        · exact List.cons_prefix_cons.mpr ⟨rfl, hp⟩
        · exact List.cons_prefix_cons.mpr ⟨rfl, hp⟩
      · rw [List.lookup_cons, beq_false_of_ne hkey] at hu
        cases hu

/-- What one variable lays over the ones before it. -/
def layVariable (t : DataTree SettingSource) (v : String × String) : DataTree SettingSource :=
  match pathOf v.1 with
  | some path => overlay t (nested (value v.2) path)
  | none => t

theorem layer_eq_foldl (environment : List (String × String)) :
    layer environment = environment.foldl layVariable (.map .environment []) := by
  unfold layer
  refine congrArg (fun step => environment.foldl step (map SettingSource.environment [])) ?_
  funext t v
  unfold layVariable
  cases pathOf v.1 <;> rfl

/-- What holds of the empty map, and still holds after each variable, holds of the layer. -/
theorem layer_induction {P : DataTree SettingSource → Prop} {environment : List (String × String)}
    (hempty : P (.map .environment []))
    (hstep : ∀ t, P t → ∀ v ∈ environment, ∀ path, pathOf v.1 = some path →
      P (overlay t (nested (value v.2) path))) : P (layer environment) := by
  rw [layer_eq_foldl]
  refine List.foldlRecOn environment layVariable hempty ?_
  intro t ht v hv
  unfold layVariable
  cases hpath : pathOf v.1 with
  | none => exact ht
  | some path => exact hstep t ht v hv path hpath

theorem ordered_nested_value (text : String) (path : List String) :
    (nested (value text) path).Ordered := ordered_nested (ordered_value text) path

theorem ordered_layer (environment : List (String × String)) : (layer environment).Ordered :=
  layer_induction (.map .nil nofun) fun _ ht v _ path _ =>
    ordered_overlay ht (ordered_nested_value v.2 path)

theorem layer_spares {environment : List (String × String)} {path : List String} (hne : path ≠ [])
    (h : ∀ v ∈ environment, ∀ other, pathOf v.1 = some other → Apart other path) :
    (layer environment).Spares path := by
  refine layer_induction (P := fun t => t.Spares path) ?_ ?_
  · cases path with
    | nil => exact absurd rfl hne
    | cons key path => exact nofun
  · intro t ht v hv other hother
    exact ht.overlay (ordered_nested_value v.2 other) (spares_nested _ (h v hv other hother))

/-- Where variables lead only past a path or apart from it, there is a map or nothing. -/
theorem layer_spares_or_map {environment : List (String × String)} {path : List String}
    (h : ∀ v ∈ environment, ∀ other, pathOf v.1 = some other →
      Apart other path ∨ (path <+: other ∧ path ≠ other)) :
    (layer environment).Spares path ∨
      ∃ s members, (layer environment).at? path = some (.map s members) := by
  refine layer_induction (P := fun t => t.Spares path ∨ ∃ s members, t.at? path =
    some (.map s members)) ?_ ?_
  · cases path with
    | nil => exact .inr ⟨_, _, rfl⟩
    | cons key path => exact .inl nofun
  · intro t ht v hv other hother
    have hordered := ordered_nested_value v.2 other
    rcases h v hv other hother with hapart | ⟨⟨rest, rfl⟩, hne⟩
    · have hspares := spares_nested (value v.2) hapart
      refine ht.imp (fun hlower => hlower.overlay hordered hspares) ?_
      rintro ⟨s, members, hmap⟩
      exact ⟨s, members, by rw [hspares.at?_overlay hordered, hmap]⟩
    · right
      cases rest with
      | nil => exact absurd (List.append_nil path).symm hne
      | cons key rest =>
        have hnested := at?_nested (value v.2) path (key :: rest)
        obtain ⟨s, members, hmap⟩ := overlayOn_map (t.at? path) .environment
          [(key, nested (value v.2) rest)]
        exact ⟨s, members, (at?_overlay hordered hnested).trans (congrArg some hmap)⟩

/-- The last variable that leads to a path counts there. -/
theorem layer_at?_of_last {before after : List (String × String)} {v : String × String}
    {path : List String} (hv : pathOf v.1 = some path)
    (hafter : ∀ w ∈ after, ∀ other, pathOf w.1 = some other → Apart other path) :
    ∃ lower, (layer (before ++ v :: after)).at? path = some (overlayOn lower (value v.2)) := by
  have hlast : layVariable (layer before) v = overlay (layer before) (nested (value v.2) path) := by
    unfold layVariable
    rw [hv]
  have hnested := at?_nested (value v.2) path []
  rw [List.append_nil, nested] at hnested
  rw [layer_eq_foldl, List.foldl_append, List.foldl_cons, ← layer_eq_foldl, hlast]
  refine ⟨(layer before).at? path, ?_⟩
  -- the variables after it leave the path as it is
  refine List.foldlRecOn (motive := fun t => t.at? path = _) after layVariable
    (at?_overlay (ordered_nested_value v.2 path) hnested) ?_
  intro t ht w hw
  unfold layVariable
  cases hother : pathOf w.1 with
  | none => exact ht
  | some other =>
    have hspares := spares_nested (value w.2) (hafter w hw other hother)
    dsimp only
    rw [hspares.at?_overlay (ordered_nested_value w.2 other), ht]

end Environment
end DeviceGateway
