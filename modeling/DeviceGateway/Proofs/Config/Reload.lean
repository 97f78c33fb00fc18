import DeviceGateway.Config.Document
import DeviceGateway.Proofs.Config.DurationText
import DeviceGateway.Proofs.Results

/-!
# Loaded configurations read back

What is written of a configuration gives every setting by name, so reading it does not depend on
any default. The only settings that may not survive are durations finer than their text, and no
reader returns one.
-/

namespace DeviceGateway

namespace Shape

variable {τ α : Type}

/-! ### What a record's readers keep -/

theorem under_eq_ok {key : String} {x : Except (Located τ) α} {a : α}
    (h : under key x = .ok a) : x = .ok a := by
  cases x with
  | ok b => exact h
  | error e => cases h

theorem mem_of_lookup {key : String} {set : α → Reader τ α} {fields : List (RecordField τ α)}
    (h : fields.lookup key = some set) : (key, set) ∈ fields := by
  obtain ⟨before, after, hfields, -⟩ := List.lookup_eq_some_iff.mp h
  rw [hfields]
  exact List.mem_append_right before (List.mem_cons_self ..)

def FieldsKeep (P : α → Prop) (fields : List (RecordField τ α)) : Prop :=
  ∀ f ∈ fields, ∀ a t b, P a → f.2 a t = .ok b → P b

theorem FieldsKeep.readMembers {P : α → Prop} {fields : List (RecordField τ α)}
    (hkeep : FieldsKeep P fields) {members : List (String × DataTree τ)} {a b : α} (ha : P a)
    (h : Shape.readMembers fields a members = .ok b) : P b := by
  induction members generalizing a with
  | nil =>
    cases h
    exact ha
  | cons m rest ih =>
    obtain ⟨key, t⟩ := m
    simp only [Shape.readMembers] at h
    split at h
    · exact ih ha h
    · next set hset =>
      cases hfield : under key (set a t) with
      | error e =>
        rw [hfield] at h
        cases h
      | ok a' =>
        rw [hfield] at h
        have ha' := hkeep _ (mem_of_lookup hset) a t a' ha (under_eq_ok hfield)
        exact ih ha' h

theorem FieldsKeep.readFieldItems {P : α → Prop} {fields : List (RecordField τ α)}
    (hkeep : FieldsKeep P fields) {i : Nat} {items : List (DataTree τ)} {a : α} (ha : P a)
    {r : α × List (DataTree τ)} (h : Shape.readFieldItems fields i a items = .ok r) : P r.1 := by
  induction items generalizing fields i a with
  | nil =>
    cases fields <;> (cases h; exact ha)
  | cons t ts ih =>
    cases fields with
    | nil =>
      cases h
      exact ha
    | cons f fs =>
      simp only [Shape.readFieldItems] at h
      cases hfield : under (Text.natText i) (f.2 a t) with
      | error e =>
        rw [hfield] at h
        cases h
      | ok a' =>
        rw [hfield] at h
        have ha' := hkeep f (List.mem_cons_self ..) a t a' ha (under_eq_ok hfield)
        exact ih (fun g hg => hkeep g (List.mem_cons_of_mem f hg)) ha' h

theorem FieldsKeep.readRecord {P : α → Prop} {fields : List (RecordField τ α)}
    (hkeep : FieldsKeep P fields) {mode : Mode} {name : String} {default a : α} {t : DataTree τ}
    (hdefault : P default) (h : Shape.readRecord mode name fields default t = .ok a) : P a := by
  cases t with
  | leaf s v => cases h
  | map s members => exact hkeep.readMembers hdefault h
  | seq s items =>
    simp only [Shape.readRecord] at h
    cases hitems : Shape.readFieldItems fields 0 default items with
    | error e =>
      rw [hitems] at h
      cases h
    | ok r =>
      have hr := hkeep.readFieldItems hdefault hitems
      rw [hitems] at h
      cases hsurplus : checkSurplus mode (.seq s items) items.length r.2.length with
      | error e =>
        simp only [Bind.bind, Except.bind, hsurplus] at h
        cases h
      | ok u =>
        simp only [Bind.bind, Except.bind, hsurplus] at h
        cases h
        exact hr

/-! ### Lists that were written -/

theorem ofJsonItems_eq_map (s : τ) (vs : List Json.Value) :
    DataTree.ofJsonItems s vs = vs.map (DataTree.ofJson s) := by
  induction vs with
  | nil => rfl
  | cons v vs ih => simp only [DataTree.ofJsonItems, List.map_cons, ih]

theorem readItems_map {read : Reader τ α} {write : α → DataTree τ} (as : List α)
    (hread : ∀ a, read (write a) = .ok a) (i : Nat) :
    readItems read i (as.map write) = .ok as := by
  induction as generalizing i with
  | nil => rfl
  | cons a as ih =>
    simp only [List.map_cons, readItems, hread a, under, ih (i + 1)]
    rfl

theorem readSeq_arr {read : Reader τ α} {write : α → Json.Value} {s : τ} (as : List α)
    (hread : ∀ a, read (.ofJson s (write a)) = .ok a) :
    readSeq read (.ofJson s (.arr (as.map write))) = .ok as := by
  simp only [DataTree.ofJson, readSeq, ofJsonItems_eq_map, List.map_map]
  exact readItems_map as hread 0

end Shape

open Shape

section Written

variable {τ : Type} {mode : Mode} {s : τ}

/-! ### Settings that were written -/

@[simp] theorem under_ok {α : Type} (key : String) (a : α) :
    under key (.ok a : Except (Located τ) α) = .ok a := rfl

@[simp] theorem under_map_ok {α β : Type} (key : String) (f : α → β) (a : α) :
    under key (f <$> (.ok a : Except (Located τ) α)) = .ok (f a) := rfl

@[simp] theorem readText_str (text : String) :
    readText mode (.ofJson s (.str text)) = .ok text := rfl

@[simp] theorem readBool_bool (b : Bool) : readBool (.ofJson s (.bool b)) = .ok b := rfl

@[simp] theorem readOptional_optionalText (text : Option String) :
    readOptional (readText mode) (.ofJson s (optionalText text)) = .ok text := by
  cases text <;> rfl

@[simp] theorem readTexts_map (texts : List String) :
    readSeq (readText mode) (.ofJson s (.arr (texts.map .str))) = .ok texts :=
  readSeq_arr texts readText_str

theorem readBelow_int {n limit : Nat} (h : n < limit) (name : String) :
    readBelow limit name (.ofJson s (.int n)) = .ok n := by
  have hsign : ¬ (n : Int) < 0 := by omega
  simp only [DataTree.ofJson, if_neg hsign, readBelow, Int.toNat_natCast, if_pos h]

@[simp] theorem readBelow_port (n : UInt16) :
    readBelow 65536 "u16" (.ofJson s (.int n.toNat)) = .ok n.toNat :=
  readBelow_int n.toNat_lt _

@[simp] theorem readBelow_count (n : UInt64) :
    readBelow 18446744073709551616 "usize" (.ofJson s (.int n.toNat)) = .ok n.toNat :=
  readBelow_int n.toNat_lt _

theorem readDuration_text {d : Duration} (h : d.IsReadable) :
    readDuration mode (.ofJson s (.str d.text)) = .ok d := by
  simp only [readDuration, readText_str, Bind.bind, Except.bind, Duration.read_text h]

/-! ### Records that were written -/

theorem readRecord_obj {α : Type} {name : String} {fields : List (RecordField τ α)} {default : α}
    (members : List (String × Json.Value)) :
    readRecord mode name fields default (.ofJson s (.obj members)) =
      readMembers fields default (DataTree.ofJsonMembers s members) := rfl

theorem RegisteredIdentity.read_toJson (e : RegisteredIdentity) :
    RegisteredIdentity.read .buffered (.ofJson s e.toJson) = .ok e := by
  simp [read, toJson, fields, readRecord_obj, DataTree.ofJsonMembers, readMembers,
    List.lookup_cons]

theorem ListenerConfig.read_toJson (c : ListenerConfig) (h : c.handshakeTimeout.IsReadable) :
    readRecord mode "ListenerConfig" (ListenerConfig.fields mode) .default (.ofJson s c.toJson) =
      .ok c := by
  simp [toJson, fields, readRecord_obj, DataTree.ofJsonMembers, readMembers, List.lookup_cons,
    readDuration_text h]

theorem TlsConfig.read_toJson (c : TlsConfig) :
    readRecord mode "TlsConfig" (TlsConfig.fields mode) .default (.ofJson s c.toJson) = .ok c := by
  simp [toJson, fields, readRecord_obj, DataTree.ofJsonMembers, readMembers,
    List.lookup_cons]

theorem readIdentities_map (es : List RegisteredIdentity) :
    readIdentities (.ofJson s (.arr (es.map RegisteredIdentity.toJson))) = .ok es :=
  readSeq_arr es RegisteredIdentity.read_toJson

theorem AuthorityConfig.read_toJson (c : AuthorityConfig) :
    AuthorityConfig.read mode (.ofJson s c.toJson) = .ok c := by
  cases c with
  | registry es =>
    have hes := readIdentities_map (s := s) es
    change atNode _ ((readIdentities _).map AuthorityConfig.registry) = _
    rw [hes]
    rfl
  | remote url => rfl

theorem AuthConfig.read_toJson (c : AuthConfig) (h : c.timeout.IsReadable) :
    readRecord mode "AuthConfig" (AuthConfig.fields mode) .default (.ofJson s c.toJson) =
      .ok c := by
  simp [toJson, fields, readRecord_obj, DataTree.ofJsonMembers, readMembers, List.lookup_cons,
    readDuration_text h, AuthorityConfig.read_toJson]

structure Config.IsReadable (c : Config) : Prop where
  handshake : c.listener.handshakeTimeout.IsReadable
  calls : c.auth.timeout.IsReadable

theorem Config.read_toJson {c : Config} (h : c.IsReadable) :
    Config.read mode (.ofJson s c.toJson) = .ok c := by
  simp [Config.read, toJson, fields, readRecord_obj, DataTree.ofJsonMembers, readMembers,
    List.lookup_cons, ListenerConfig.read_toJson _ h.handshake, TlsConfig.read_toJson,
    AuthConfig.read_toJson _ h.calls]

end Written

/-! ### Configurations that were read -/

section Loaded

variable {τ : Type} {mode : Mode}

theorem isReadable_of_readDuration {t : DataTree τ} {d : Duration}
    (h : readDuration mode t = .ok d) : d.IsReadable := by
  unfold readDuration at h
  cases ht : readText mode t with
  | error e =>
    rw [ht] at h
    cases h
  | ok text =>
    rw [ht, ok_bind] at h
    split at h
    · next hd =>
      cases h
      exact Duration.isReadable_of_read hd
    · cases h

theorem Duration.isReadable_ofSeconds (n : Nat) : (Duration.ofSeconds n).IsReadable := by
  unfold Duration.ofSeconds
  cases h : Duration.ofSeconds? n with
  | none => exact ⟨rfl, .inl rfl⟩
  | some d => exact isReadable_of_ofSeconds? h

theorem ListenerConfig.fields_keep :
    FieldsKeep (fun c : ListenerConfig => c.handshakeTimeout.IsReadable)
      (ListenerConfig.fields (τ := τ) mode) := by
  intro f hf c t c' hc h
  simp only [fields, List.mem_cons, List.not_mem_nil, or_false] at hf
  rcases hf with rfl | rfl | rfl | rfl <;> obtain ⟨x, hx, rfl⟩ := map_eq_ok h
  · exact hc
  · exact hc
  · exact hc
  · exact isReadable_of_readDuration hx

theorem AuthConfig.fields_keep :
    FieldsKeep (fun c : AuthConfig => c.timeout.IsReadable)
      (AuthConfig.fields (τ := τ) mode) := by
  intro f hf c t c' hc h
  simp only [fields, List.mem_cons, List.not_mem_nil, or_false] at hf
  rcases hf with rfl | rfl | rfl | rfl | rfl <;> obtain ⟨x, hx, rfl⟩ := map_eq_ok h
  · exact hc
  · exact isReadable_of_readDuration hx
  · exact hc
  · exact hc
  · exact hc

theorem Config.fields_keep :
    FieldsKeep Config.IsReadable (Config.fields (τ := τ) mode) := by
  intro f hf c t c' hc h
  simp only [fields, List.mem_cons, List.not_mem_nil, or_false] at hf
  rcases hf with rfl | rfl | rfl <;> obtain ⟨x, hx, rfl⟩ := map_eq_ok h
  · exact ⟨ListenerConfig.fields_keep.readRecord (Duration.isReadable_ofSeconds 30) hx, hc.calls⟩
  · exact ⟨hc.handshake, hc.calls⟩
  · exact ⟨hc.handshake, AuthConfig.fields_keep.readRecord (Duration.isReadable_ofSeconds 10) hx⟩

/-- Whatever layer a configuration is read from, its durations read back. -/
theorem Config.isReadable_of_read {t : DataTree τ} {c : Config}
    (h : Config.read mode t = .ok c) : c.IsReadable :=
  Config.fields_keep.readRecord
    ⟨Duration.isReadable_ofSeconds 30, Duration.isReadable_ofSeconds 10⟩ h

end Loaded

/-- A configuration read from JSON is written and read again as it was, and so is validated
alike. -/
theorem Config.ofJson_toJson {v : Json.Value} {c : Config} (h : Config.ofJson v = .ok c) :
    Config.ofJson c.toJson = .ok c ∧
      (Config.ofJson c.toJson).map Config.validate = .ok c.validate := by
  have hreadable : c.IsReadable := by
    unfold Config.ofJson at h
    split at h
    · next hread =>
      cases h
      exact isReadable_of_read hread
    · cases h
  have hagain : Config.ofJson c.toJson = .ok c := by
    simp only [Config.ofJson, Config.read_toJson hreadable]
  exact ⟨hagain, by rw [hagain]; rfl⟩

/-- A document that leaves settings out, gives a null and takes durations in minutes and
milliseconds. -/
def Config.sparseDocument : Json.Value := .obj [
  ("auth", .obj [
    ("authenticator", .obj [
      ("identities", .arr [
        .obj [("device_id", .str "dev1"), ("thumbprints", .arr [.str "AB", .str "CD"])],
        .obj [("device_id", .str "dev1"), ("module_id", .str "mod1")]]),
      ("kind", .str "registry")]),
    ("hub_name", .str "hub-a"), ("timeout", .str " 1500ms ")]),
  ("listener", .obj [("handshake_timeout", .str "2m"), ("port", .int 8883)]),
  ("tls", .obj [("ca_cert", .null), ("client_cert_auth", .bool false)])]

def Config.ofSparseDocument : Config where
  listener := { ListenerConfig.default with port := 8883, handshakeTimeout := .ofSeconds 120 }
  tls := { TlsConfig.default with clientCertAuth := false }
  auth := { AuthConfig.default with
    hubName := "hub-a"
    timeout := .ofMillis 1500
    authority := .registry [
      { deviceId := "dev1", moduleId := none, thumbprints := ["AB", "CD"] },
      { deviceId := "dev1", moduleId := some "mod1", thumbprints := [] }] }

theorem Config.ofJson_toJson_ofSparseDocument :
    Config.ofJson sparseDocument = .ok ofSparseDocument ∧
      Config.ofJson ofSparseDocument.toJson = .ok ofSparseDocument ∧
      (Config.ofJson ofSparseDocument.toJson).map Config.validate =
        .ok ofSparseDocument.validate := by
  have hread : Config.ofJson sparseDocument = .ok ofSparseDocument := rfl
  exact ⟨hread, Config.ofJson_toJson hread⟩

end DeviceGateway
