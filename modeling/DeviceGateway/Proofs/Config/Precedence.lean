import Mathlib.Data.List.Infix
import DeviceGateway.Program.Serving
import DeviceGateway.Proofs.Config.Layers
import DeviceGateway.Proofs.Config.Settings
import DeviceGateway.Proofs.Config.VariableNames
import DeviceGateway.Proofs.Transport.Startup

/-!
# Which source of a setting counts

A variable of the environment sets the setting it is named for and no other, and what the command
line says counts before both. Only a section that the file writes as a sequence is lost as a whole
when a variable sets one of its settings.
-/

namespace DeviceGateway

open Shape Shape.DataTree

/-! ### Settings under two layers -/

section Overlaid

variable {y e : DataTree SettingSource}

theorem namesTo_overlay (he : e.Ordered) {path : List String}
    (h : ∀ before, before <+: path → before ≠ path →
      (e.Spares before ∧ (y.at? before).map found ≠ some .sequence) ∨
        ∃ s members, e.at? before = some (.map s members)) :
    (overlay y e).NamesTo path := by
  intro before hbefore hne
  rcases h before hbefore hne with ⟨hspares, hy⟩ | ⟨s, members, hmap⟩
  · rw [hspares.at?_overlay he]
    exact hy
  · obtain ⟨s', members', hover⟩ := overlayOn_map (y.at? before) s members
    rw [at?_overlay he hmap, hover]
    exact nofun

theorem Setting.Gives.unique {x : Setting} {t : Option (DataTree SettingSource)} {v w : x.Value}
    (hv : x.Gives t v) (hw : x.Gives t w) : v = w := by
  cases t with
  | none => exact Option.some.inj (hv.symm.trans hw)
  | some u => exact Except.ok.inj (hv.symm.trans hw)

theorem Setting.Agree.within {outer : Setting} {c d : Config} (h : outer.Agree c d) {key : String}
    {β : Type} {read : Reader SettingSource β} {get : outer.Value → Option β} :
    (outer.within key read get).Agree c d := by
  intro v w hv hw
  obtain ⟨a, ha, hgetv⟩ := Option.bind_eq_some_iff.mp hv
  obtain ⟨b, hb, hgetw⟩ := Option.bind_eq_some_iff.mp hw
  have hab := h a b ha hb
  rw [hab] at hgetv
  exact Option.some.inj (hgetv.symm.trans hgetw)

/-- A setting is the same with and without an upper layer that spares it or a section around it, if
the sections that the upper layer does not spare are no sequences below. -/
theorem Setting.IsPart.agree_overlay {x : Setting} (hx : x.IsPart) (hy : y.Ordered)
    (he : e.Ordered) {base loaded : Config} (hbase : Config.read .settings y = .ok base)
    (hloaded : Config.read .settings (overlay y e) = .ok loaded)
    (hspared : ∃ part, part <+: x.path ∧ e.Spares part)
    (hsections : ∀ before, before <+: x.path → before ≠ x.path → e.Spares before ∨
      ((∃ s members, e.at? before = some (.map s members)) ∧
        (y.at? before).map found ≠ some .sequence)) :
    x.Agree base loaded := by
  induction hx with
  | root =>
    obtain ⟨part, hpart, hspares⟩ := hspared
    rw [List.prefix_nil.mp hpart] at hspares
    exact absurd hspares (not_spares_nil e)
  | @within outer key β read get houter hpart ih =>
    have houterpath : ∀ before, before <+: outer.path →
        before <+: outer.path ++ [key] ∧ before ≠ outer.path ++ [key] := by
      intro before hbefore
      refine ⟨hbefore.trans (List.prefix_append ..), ?_⟩
      rintro rfl
      have hlength := hbefore.length_le
      simp at hlength
    by_cases hwhole : ∃ part, part <+: outer.path ∧ e.Spares part
    · -- the section around it is the same with both layers, and so is each of its parts
      refine (ih hwhole ?_).within
      intro before hbefore _
      exact hsections before (houterpath before hbefore).1 (houterpath before hbefore).2
    · -- only the setting itself is spared, so it is given by name in both trees
      have hspares : e.Spares (outer.path ++ [key]) := by
        obtain ⟨part, hpartpath, hspares⟩ := hspared
        rcases List.prefix_concat_iff.mp hpartpath with rfl | hpartpath
        · exact hspares
        · exact absurd ⟨part, hpartpath, hspares⟩ hwhole
      have hgiven : ∀ before, before <+: outer.path ++ [key] → before ≠ outer.path ++ [key] →
          (∃ s members, e.at? before = some (.map s members)) ∧
            (y.at? before).map found ≠ some .sequence := by
        intro before hbefore hne
        refine (hsections before hbefore hne).resolve_left ?_
        intro hsparesbefore
        exact hwhole ⟨before, (List.prefix_concat_iff.mp hbefore).resolve_left hne, hsparesbefore⟩
      have hpartx := IsPart.within houter hpart
      have hlower := hpartx.shows hy hbase fun before hb hne => (hgiven before hb hne).2
      have hupper := hpartx.shows (ordered_overlay hy he) hloaded
        (namesTo_overlay he fun before hb hne => .inr (hgiven before hb hne).1)
      intro v w hv hw
      have hgivesw := hupper w hw
      rw [show (overlay y e).at? (outer.within key read get).path =
        y.at? (outer.within key read get).path from hspares.at?_overlay he] at hgivesw
      exact (hlower v hv).unique hgivesw

theorem read_of_overlayOn {α : Type} {read : Reader SettingSource α}
    (hread : ∀ s members a, read (.map s members) ≠ .ok a) {lower : Option (DataTree SettingSource)}
    {a : α} (h : read (overlayOn lower y) = .ok a) : read y = .ok a := by
  have heq : overlayOn lower y = y := by
    cases y with
    | leaf s v =>
      cases lower with
      | none => rfl
      | some below => exact overlay_leaf below s v
    | seq s items =>
      cases lower with
      | none => rfl
      | some below => exact overlay_seq below s items
    | map s members =>
      obtain ⟨s', members', hmap⟩ := overlayOn_map lower s members
      rw [hmap] at h
      exact absurd h (hread s' members' a)
  rwa [heq] at h

end Overlaid

/-! ### Variables and settings -/

namespace Setting

def variableName (x : Setting) : String :=
  Environment.namePrefix ++ String.intercalate "__" (x.path.map Text.upperAscii)

theorem toList_variableName (x : Setting) : x.variableName.toList =
    Environment.namePrefix.toList ++
      List.intercalate "__".toList (x.path.map fun key => key.toList.map Char.toUpper) := by
  rw [variableName, String.toList_append, String.toList_intercalate, List.map_map]
  congr 3
  funext key
  exact String.toList_ofList

theorem pathOf_variableName :
    ∀ x ∈ scalars, Environment.pathOf x.variableName = some x.path := by
  simp only [Environment.pathOf, toList_variableName]
  decide +kernel

theorem path_ne_nil : ∀ x ∈ all, x.path ≠ [] := by
  simp [all, scalars, kind, host, port, hubName, within]

theorem path_eq_or_apart :
    ∀ x ∈ scalars, ∀ z ∈ all, x.path = z.path ∨ Environment.Apart x.path z.path := by
  unfold Environment.Apart
  decide +kernel

end Setting

namespace Environment

open Setting (scalars all)

/-- Whether each variable with the prefix sets a single value, or concerns no setting of a
configuration at all. -/
def SetsScalars (environment : List (String × String)) : Prop :=
  ∀ v ∈ environment, ∀ path, pathOf v.1 = some path →
    (∃ x ∈ scalars, x.path = path) ∨ ∀ x ∈ all, path.head? ≠ x.path.head?

/-- Whether a variable leads to a path or past it. -/
def Reaches (environment : List (String × String)) (path : List String) : Prop :=
  ∃ v ∈ environment, ∃ other, pathOf v.1 = some other ∧ path <+: other

theorem pathOf_ne_nil {name : String} {path : List String} (h : pathOf name = some path) :
    path ≠ [] := by
  unfold pathOf at h
  dsimp only at h
  split at h
  · split at h
    · cases h
    · obtain rfl := Option.some.inj h
      rw [Ne, List.map_eq_nil_iff]
      exact Text.splitOn_ne_nil '.' _
  · cases h

variable {environment : List (String × String)}

theorem SetsScalars.eq_or_apart (h : SetsScalars environment) {x : Setting} (hx : x ∈ all)
    {v : String × String} (hv : v ∈ environment) {path : List String}
    (hpath : pathOf v.1 = some path) : path = x.path ∨ Apart path x.path := by
  rcases h v hv path hpath with ⟨z, hz, rfl⟩ | hhead
  · exact Setting.path_eq_or_apart z hz x hx
  · right
    have hne := pathOf_ne_nil hpath
    have hnex := Setting.path_ne_nil x hx
    have hdiffer := hhead x hx
    obtain ⟨k, rest, rfl⟩ := List.exists_cons_of_ne_nil hne
    obtain ⟨k', rest', hcons⟩ := List.exists_cons_of_ne_nil hnex
    rw [hcons] at hdiffer ⊢
    have hkeys : k ≠ k' := fun heq => hdiffer (congrArg some heq)
    exact ⟨fun hp => hkeys (List.cons_prefix_cons.mp hp).1,
      fun hp => hkeys (List.cons_prefix_cons.mp hp).1.symm⟩

theorem SetsScalars.apart_or_before (h : SetsScalars environment) {x : Setting} (hx : x ∈ all)
    {before : List String} (hbefore : before <+: x.path) (hne : before ≠ x.path)
    {v : String × String} (hv : v ∈ environment) {path : List String}
    (hpath : pathOf v.1 = some path) :
    Apart path before ∨ (before <+: path ∧ before ≠ path) := by
  have hshort : ¬ path <+: before := by
    intro hpb
    rcases h.eq_or_apart hx hv hpath with rfl | hapart
    · exact hne (hbefore.eq_of_length_le hpb.length_le)
    · exact hapart.1 (hpb.trans hbefore)
  by_cases hlong : before <+: path
  · refine .inr ⟨hlong, ?_⟩
    rintro rfl
    exact hshort (List.prefix_refl _)
  · exact .inl ⟨hshort, hlong⟩

theorem SetsScalars.layer_spares (h : SetsScalars environment) {x : Setting} (hx : x ∈ all)
    (hunnamed : ∀ v ∈ environment, pathOf v.1 ≠ some x.path) :
    (layer environment).Spares x.path := by
  refine Environment.layer_spares (Setting.path_ne_nil x hx) ?_
  intro v hv path hpath
  refine (h.eq_or_apart hx hv hpath).resolve_left ?_
  rintro rfl
  exact hunnamed v hv hpath

/-- A section of which a variable sets something is a map in the layer of the environment. -/
theorem SetsScalars.layer_section (h : SetsScalars environment) {x : Setting} (hx : x ∈ all)
    {before : List String} (hbefore : before <+: x.path) (hne : before ≠ x.path) :
    (layer environment).Spares before ∨
      ∃ s members, (layer environment).at? before = some (.map s members) :=
  layer_spares_or_map fun _ hv _ hpath => h.apart_or_before hx hbefore hne hv hpath

theorem SetsScalars.layer_spares_of_not_reaches (h : SetsScalars environment) {x : Setting}
    (hx : x ∈ all) {before : List String} (hbefore : before <+: x.path) (hne : before ≠ x.path)
    (hnil : before ≠ []) (hreaches : ¬ Reaches environment before) :
    (layer environment).Spares before := by
  refine Environment.layer_spares hnil ?_
  intro v hv path hpath
  refine (h.apart_or_before hx hbefore hne hv hpath).resolve_right ?_
  rintro ⟨hlong, -⟩
  exact hreaches ⟨v, hv, path, hpath, hlong⟩

/-- What the variable of a single value stands for is in the layer of the environment. -/
theorem SetsScalars.layer_at? (h : SetsScalars environment)
    (hdistinct : (environment.filterMap fun v => pathOf v.1).Nodup) {x : Setting} (hx : x ∈ all)
    {v : String × String} (hv : v ∈ environment) (hpath : pathOf v.1 = some x.path) :
    ∃ lower, (layer environment).at? x.path = some (overlayOn lower (value v.2)) := by
  obtain ⟨before, after, rfl⟩ := List.append_of_mem hv
  refine layer_at?_of_last hpath ?_
  intro w hw path hother
  have hw' : w ∈ before ++ v :: after :=
    List.mem_append_right before (List.mem_cons_of_mem v hw)
  refine (h.eq_or_apart hx hw' hother).resolve_left ?_
  rintro rfl
  -- the path would be there twice
  have hcons : (v :: after).filterMap (fun v => pathOf v.1) =
      x.path :: after.filterMap fun v => pathOf v.1 := List.filterMap_cons_some hpath
  rw [List.filterMap_append, hcons] at hdistinct
  have htail := (List.nodup_append.mp hdistinct).2.1
  exact (List.nodup_cons.mp htail).1 (List.mem_filterMap.mpr ⟨w, hw, hother⟩)

/-- Whether no variable is named for a setting, and no section around it that a variable sets
something of is a sequence. -/
def LeavesAlone (environment : List (String × String)) (y : DataTree SettingSource)
    (x : Setting) : Prop :=
  (∀ v ∈ environment, pathOf v.1 ≠ some x.path) ∧
    ∀ before, before <+: x.path → before ≠ x.path → Reaches environment before →
      (y.at? before).map found ≠ some .sequence

end Environment

/-! ### Loaded configurations -/

theorem Config.load_eq_ok {files : FileTree} {path : Option String}
    {environment : List (String × String)} {c : Config} {y : DataTree SettingSource}
    (hfile : fileLayer files path = .ok y) (h : Config.load files path environment = .ok c) :
    Config.read .settings (overlay y (Environment.layer environment)) = .ok c := by
  unfold Config.load at h
  rw [hfile, ok_bind] at h
  dsimp only at h
  split at h
  · next hread =>
    cases h
    exact hread
  · cases h

theorem Config.read_overlay_no_variables {s : SettingSource}
    {members : List (String × DataTree SettingSource)} :
    Config.read .settings (overlay (.map s members) (Environment.layer [])) =
      Config.read .settings (.map s members) := by
  rw [Environment.layer_eq_foldl, List.foldl_nil, overlay_map, overlayMembers]
  rfl

section Loaded

open Environment (SetsScalars LeavesAlone layer pathOf value ordered_layer)

variable {files : FileTree} {path : Option String} {environment : List (String × String)}
  {y : DataTree SettingSource} {base loaded : Config}

theorem Config.named_setting (hfile : fileLayer files path = .ok y)
    (hloaded : Config.load files path environment = .ok loaded)
    (hscalars : SetsScalars environment)
    (hdistinct : (environment.filterMap fun v => pathOf v.1).Nodup) {x : Setting}
    (hx : x ∈ Setting.scalars) {v : String × String} (hv : v ∈ environment)
    (hpath : pathOf v.1 = some x.path) {a : x.Value} (ha : x.value? loaded = some a) :
    x.read (value v.2) = .ok a := by
  have hall : x ∈ Setting.all := List.mem_cons_of_mem _ hx
  have hread := Config.load_eq_ok hfile hloaded
  have hy := (fileLayer_eq_ok hfile).1
  have he := ordered_layer environment
  obtain ⟨lower, hat⟩ := hscalars.layer_at? hdistinct hall hv hpath
  have hnames : (overlay y (layer environment)).NamesTo x.path := by
    refine namesTo_overlay he ?_
    intro before hbefore hne
    refine .inr ((hscalars.layer_section hall hbefore hne).resolve_left ?_)
    intro hspares
    obtain ⟨rest, hrest⟩ := hbefore
    rw [← hrest, at?_append, hspares.at?_eq_none] at hat
    cases hat
  have hgives := (Setting.isPart_of_mem x hall).shows (ordered_overlay hy he) hread hnames a ha
  rw [at?_overlay he hat] at hgives
  have hrejects := Setting.read_map_ne_ok x hx
  exact read_of_overlayOn hrejects (read_of_overlayOn hrejects hgives)

theorem Config.spared_setting (hfile : fileLayer files path = .ok y)
    (hbase : Config.load files path [] = .ok base)
    (hloaded : Config.load files path environment = .ok loaded)
    (hscalars : SetsScalars environment) {x : Setting} (hx : x ∈ Setting.all)
    (halone : LeavesAlone environment y x) :
    x.Agree base loaded ∧ (y.NamesTo x.path → x.Shows y loaded) := by
  have hread := Config.load_eq_ok hfile hloaded
  have hlower := Config.load_eq_ok hfile hbase
  obtain ⟨hy, s, members, rfl⟩ := fileLayer_eq_ok hfile
  rw [Config.read_overlay_no_variables] at hlower
  have he := ordered_layer environment
  have hpart := Setting.isPart_of_mem x hx
  have hspares := hscalars.layer_spares hx halone.1
  refine ⟨?_, ?_⟩
  · refine hpart.agree_overlay hy he hlower hread ⟨x.path, List.prefix_refl _, hspares⟩ ?_
    intro before hbefore hne
    refine (hscalars.layer_section hx hbefore hne).imp_right fun hmap => ⟨hmap, ?_⟩
    by_cases hreaches : Environment.Reaches environment before
    · exact halone.2 before hbefore hne hreaches
    · by_cases hnil : before = []
      · rw [hnil, at?_nil]
        exact nofun
      · have hnone := (hscalars.layer_spares_of_not_reaches hx hbefore hne hnil
          hreaches).at?_eq_none
        obtain ⟨s', members', hat⟩ := hmap
        rw [hnone] at hat
        cases hat
  · intro hnames v hv
    have hupper : (overlay (.map s members) (layer environment)).NamesTo x.path := by
      refine namesTo_overlay he ?_
      intro before hbefore hne
      exact (hscalars.layer_section hx hbefore hne).imp_left fun h => ⟨h, hnames before hbefore hne⟩
    have hgives := hpart.shows (ordered_overlay hy he) hread hupper v hv
    rwa [hspares.at?_overlay he] at hgives

theorem Config.present_settings (hkind : Setting.kind.Agree base loaded) :
    ∀ x ∈ Setting.all, (x.value? base).isSome = (x.value? loaded).isSome :=
  Setting.isSome_value?_of_kind (congrArg some (hkind _ _ rfl rfl))

end Loaded

/-! ### What the command line says -/

theorem Invocation.override_settings (i : Invocation) (c : Config) :
    ∀ x ∈ Setting.all, x.path ∉ [Setting.port.path, Setting.host.path, Setting.hubName.path] →
      x.value? (i.override c) = x.value? c := by
  simp only [Setting.all, Setting.scalars, List.forall_mem_cons, List.not_mem_nil, false_implies,
    implies_true, and_true]
  refine ⟨fun _ => rfl, fun _ => rfl, fun h => absurd ?_ h, fun h => absurd ?_ h, fun _ => rfl,
    fun _ => rfl, fun _ => rfl, fun _ => rfl, fun _ => rfl, fun _ => rfl, fun h => absurd ?_ h,
    fun _ => rfl, fun _ => rfl, fun _ => rfl, fun _ => rfl, fun _ => rfl⟩
  · exact List.mem_cons_of_mem _ (List.mem_cons_self ..)
  · exact List.mem_cons_self ..
  · exact List.mem_cons_of_mem _ (List.mem_cons_of_mem _ (List.mem_cons_self ..))

namespace Serving

theorem run_of_load {s : Surroundings} {i : Invocation} {c : Config}
    (h : Config.load s.files (i.config.map Utf8.repair) s.environment = .ok c) :
    run s i = runConfig s (i.override c) := by
  simp only [run, configOf, h, Except.map]

theorem runConfig_of_invalid {s : Surroundings} {c : Config} {e : GatewayError}
    (h : c.validate = .error e) :
    runConfig s c = ([startEvent c, failure "Failed to create gateway" e.message], .failed) := by
  have hmade : Gateway.ofConfig s.files c = .error (.refused e) := by
    simp only [Gateway.ofConfig, h, Except.mapError, Bind.bind, Except.bind]
  have hlog : Gateway.configLog s.files c = [] := by
    simp only [Gateway.configLog, h]
  simp only [runConfig, hmade, hlog, List.cons_append, List.nil_append]

theorem valid_of_made {files : FileTree} {c : Config} {g : Gateway}
    (h : Gateway.ofConfig files c = .ok g) : c.validate = .ok () := by
  obtain ⟨u, hvalidated, -⟩ := bind_eq_ok h
  cases hvalid : c.validate with
  | ok u => rfl
  | error e =>
    rw [hvalid] at hvalidated
    cases hvalidated

open Environment (SetsScalars LeavesAlone pathOf value)

/-- Let the variables of the environment be named for single values, no two for the same one, and
let the file give a configuration both alone and with them. A setting that a variable is named for,
in letters of any case, has the value that the text of the variable stands for. A setting that is
left alone is what it is without the variables: what the file says, or the default. The gateway is
made of the loaded configuration with the port, the host and the hub name of the command line, and
a fault of that configuration refuses it. -/
theorem settings_precedence (s : Surroundings) (i : Invocation) (y : DataTree SettingSource)
    (base loaded : Config) (hfile : fileLayer s.files (i.config.map Utf8.repair) = .ok y)
    (hbase : Config.load s.files (i.config.map Utf8.repair) [] = .ok base)
    (hloaded : Config.load s.files (i.config.map Utf8.repair) s.environment = .ok loaded)
    (hscalars : SetsScalars s.environment)
    (hdistinct : (s.environment.filterMap fun v => pathOf v.1).Nodup) :
    (∀ x ∈ Setting.scalars,
      (∀ name, Text.sameIgnoringCase name x.variableName = true → pathOf name = some x.path) ∧
      ∀ v ∈ s.environment, pathOf v.1 = some x.path → ∀ a, x.value? loaded = some a →
        x.read (value v.2) = .ok a) ∧
    (∀ x ∈ Setting.all, LeavesAlone s.environment y x →
      x.Agree base loaded ∧ (y.NamesTo x.path → x.Shows y loaded)) ∧
    (LeavesAlone s.environment y Setting.kind →
      ∀ x ∈ Setting.all, (x.value? base).isSome = (x.value? loaded).isSome) ∧
    let c := i.override loaded
    run s i = runConfig s c ∧
      (c.listener.port = i.port.getD loaded.listener.port ∧
        c.listener.host = i.host.getD loaded.listener.host ∧
        c.auth.hubName = i.hubName.getD loaded.auth.hubName) ∧
      (∀ x ∈ Setting.all,
        x.path ∉ [Setting.port.path, Setting.host.path, Setting.hubName.path] →
        x.value? c = x.value? loaded) ∧
      (∀ e, c.validate = .error e → run s i =
        ([startEvent c, failure "Failed to create gateway" e.message], .failed)) ∧
      ∀ g, Gateway.ofConfig s.files c = .ok g → c.validate = .ok () := by
  have hspared := fun x hx => Config.spared_setting (x := x) hfile hbase hloaded hscalars hx
  refine ⟨?_, hspared, ?_, run_of_load hloaded, ⟨rfl, rfl, rfl⟩, i.override_settings loaded, ?_,
    fun g => valid_of_made⟩
  · intro x hx
    refine ⟨?_, ?_⟩
    · intro name hname
      rw [Environment.pathOf_eq_of_sameIgnoringCase hname]
      exact Setting.pathOf_variableName x hx
    · intro v hv hpath a ha
      exact Config.named_setting hfile hloaded hscalars hdistinct hx hv hpath ha
  · intro halone
    have hkind : Setting.kind ∈ Setting.all := by
      simp [Setting.all, Setting.scalars]
    exact Config.present_settings (hspared Setting.kind hkind halone).1
  · intro e he
    rw [run_of_load hloaded]
    exact runConfig_of_invalid he

/-! ### A port from the environment -/

def sampleEnvironment : List (String × String) := [
  ("PATH", "/bin"), ("Edge_Gateway_Listener__Port", "2"), ("EDGE_GATEWAY_CONFIG", "other.yaml")]

def sampleSurroundings (text : String) : Surroundings where
  environment := sampleEnvironment
  files := ⟨[(["gateway.yaml"], .file (Utf8.encodeText text))]⟩
  network := .loopback false

def sampleInvocation : Invocation where
  config := some (Utf8.encodeText "gateway.yaml")
  port := none
  host := some "127.0.0.1"
  hubName := none
  logLevel := "info"
  logFormat := none
  command := none

theorem sample_pathOf : pathOf "PATH" = none ∧
    pathOf "Edge_Gateway_Listener__Port" = some Setting.port.path ∧
    pathOf "EDGE_GATEWAY_CONFIG" = some ["config"] := by
  decide +kernel

theorem sample_paths {v : String × String} {path : List String} (hv : v ∈ sampleEnvironment)
    (hpath : pathOf v.1 = some path) : path = Setting.port.path ∨ path = ["config"] := by
  obtain ⟨hnone, hport, hother⟩ := sample_pathOf
  simp only [sampleEnvironment, List.mem_cons, List.not_mem_nil, or_false] at hv
  rcases hv with rfl | rfl | rfl
  · rw [hnone] at hpath
    cases hpath
  · rw [hport] at hpath
    exact .inl (Option.some.inj hpath).symm
  · rw [hother] at hpath
    exact .inr (Option.some.inj hpath).symm

theorem sample_setsScalars : SetsScalars sampleEnvironment := by
  intro v hv path hpath
  rcases sample_paths hv hpath with rfl | rfl
  · exact .inl ⟨Setting.port, by simp [Setting.scalars], rfl⟩
  · right
    simp [Setting.all, Setting.scalars, Setting.kind, Setting.host, Setting.port, Setting.hubName,
      Setting.authenticator, Setting.listener, Setting.tls, Setting.auth, Setting.root,
      Setting.within]

theorem sample_distinct : (sampleEnvironment.filterMap fun v => pathOf v.1).Nodup := by
  obtain ⟨hnone, hport, hother⟩ := sample_pathOf
  simp [sampleEnvironment, hnone, hport, hother, Setting.port, Setting.listener, Setting.within,
    Setting.root]

theorem sample_unnamed {path : List String} (hport : path ≠ Setting.port.path)
    (hconfig : path ≠ ["config"]) : ∀ v ∈ sampleEnvironment, pathOf v.1 ≠ some path := by
  intro v hv hpath
  rcases sample_paths hv hpath with rfl | rfl
  · exact hport rfl
  · exact hconfig rfl

/-- A listener with a host, and client authentication given by position. -/
def sampleText : String := "listener:\n  host: h\n  port: 1\nauth: [hub-a, 7s]\n"

def sampleLoaded (port : UInt16) : Config where
  listener := { ListenerConfig.default with host := "h", port }
  tls := .default
  auth := { AuthConfig.default with hubName := "hub-a", timeout := .ofSeconds 7 }

theorem sample_loads :
    Config.load (sampleSurroundings sampleText).files (sampleInvocation.config.map Utf8.repair) []
      = .ok (sampleLoaded 1) ∧
    Config.load (sampleSurroundings sampleText).files (sampleInvocation.config.map Utf8.repair)
      sampleEnvironment = .ok (sampleLoaded 2) :=
  ⟨eq_ok_of_toOption (by decide +kernel), eq_ok_of_toOption (by decide +kernel)⟩

theorem sample_leavesAlone {y : DataTree SettingSource}
    (hfile : fileLayer (sampleSurroundings sampleText).files
      (sampleInvocation.config.map Utf8.repair) = .ok y) {key : String} {x : Setting}
    (hx : x.path = ["listener", key]) (hkey : key ≠ "port") :
    LeavesAlone sampleEnvironment y x := by
  have hsection : ((fileLayer (sampleSurroundings sampleText).files
      (sampleInvocation.config.map Utf8.repair)).toOption.bind fun y =>
        (y.at? ["listener"]).map found) = some .map := by
    decide +kernel
  obtain ⟨-, s, members, rfl⟩ := fileLayer_eq_ok hfile
  rw [hfile] at hsection
  refine ⟨sample_unnamed ?_ ?_, ?_⟩
  · rw [hx]
    intro heq
    exact hkey (List.cons.inj (List.cons.inj heq).2).1
  · rw [hx]
    intro heq
    cases (List.cons.inj heq).2
  · intro before hbefore hne _
    rw [hx] at hbefore hne
    have hmem : before ∈ [[], ["listener"], ["listener", key]] :=
      (List.mem_inits before _).mpr hbefore
    simp only [List.mem_cons, List.not_mem_nil, or_false] at hmem
    rcases hmem with rfl | rfl | rfl
    · exact nofun
    · intro hseq
      cases hseq.symm.trans hsection
    · exact absurd rfl hne

/-- The port of a variable counts before that of the file, and the host of the command line before
that of the file, which the variable leaves as it was. -/
theorem settings_precedence_of_port :
    (∀ a, Setting.port.value? (sampleLoaded 2) = some a →
      Setting.port.read (value "2") = .ok a) ∧
      Setting.host.Agree (sampleLoaded 1) (sampleLoaded 2) ∧
      run (sampleSurroundings sampleText) sampleInvocation =
        runConfig (sampleSurroundings sampleText)
          { sampleLoaded 2 with
            listener := { (sampleLoaded 2).listener with host := "127.0.0.1" } } := by
  obtain ⟨y, hfile⟩ : ∃ y, fileLayer (sampleSurroundings sampleText).files
      (sampleInvocation.config.map Utf8.repair) = .ok y := by
    have hload := sample_loads.1
    unfold Config.load at hload
    obtain ⟨y, hfile, -⟩ := bind_eq_ok hload
    exact ⟨y, hfile⟩
  obtain ⟨hnamed, halone, -, hrun, -⟩ := settings_precedence (sampleSurroundings sampleText)
    sampleInvocation y _ _ hfile sample_loads.1 sample_loads.2 sample_setsScalars sample_distinct
  refine ⟨?_, ?_, hrun⟩
  · have hport : Setting.port ∈ Setting.scalars := by simp [Setting.scalars]
    exact (hnamed Setting.port hport).2 ("Edge_Gateway_Listener__Port", "2")
      (by simp [sampleSurroundings, sampleEnvironment]) sample_pathOf.2.1
  · have hhost : Setting.host ∈ Setting.all := by simp [Setting.all, Setting.scalars]
    exact (halone Setting.host hhost (sample_leavesAlone hfile rfl (by decide))).1

/-- A section that the file writes as a sequence is replaced as a whole. -/
theorem sequence_section_replaced :
    ¬ ∀ (s : Surroundings) (path : Option String) (base loaded : Config),
      Config.load s.files path [] = .ok base → Config.load s.files path s.environment = .ok loaded →
      SetsScalars s.environment → (s.environment.filterMap fun v => pathOf v.1).Nodup →
      ∀ x ∈ Setting.all, (∀ v ∈ s.environment, pathOf v.1 ≠ some x.path) → x.Agree base loaded := by
  intro hclaim
  have hbase : Config.load (sampleSurroundings "listener: [amqps, h, 1, 5s]").files
      (some "gateway.yaml") [] = .ok { Config.default with
        listener := ⟨"amqps", "h", 1, .ofSeconds 5⟩ } :=
    eq_ok_of_toOption (by decide +kernel)
  have hloaded : Config.load (sampleSurroundings "listener: [amqps, h, 1, 5s]").files
      (some "gateway.yaml") sampleEnvironment =
        .ok { Config.default with listener := { ListenerConfig.default with port := 2 } } :=
    eq_ok_of_toOption (by decide +kernel)
  have hhost : Setting.host ∈ Setting.all := by simp [Setting.all, Setting.scalars]
  have hsame := hclaim _ _ _ _ hbase hloaded sample_setsScalars sample_distinct
    Setting.host hhost (sample_unnamed (by decide) (by decide)) "h" "0.0.0.0" rfl rfl
  exact absurd (show "h" = "0.0.0.0" from hsame) (by decide)

end Serving
end DeviceGateway
