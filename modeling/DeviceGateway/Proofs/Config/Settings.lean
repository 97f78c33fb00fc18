import DeviceGateway.Proofs.Config.Reload
import DeviceGateway.Proofs.Shape.Overlay

/-!
# The settings of a configuration

A setting stands at a path of the trees that a configuration is read from. The configuration holds
what is read there, and the default of the setting where nothing is; a section that is written as a
sequence gives its settings by position instead.
-/

namespace DeviceGateway

open Shape Shape.DataTree

/-! ### Fields of records -/

section Fields

variable {τ α β : Type}

/-- Whether a record takes a field by a key with a reader, and no other key changes the field. -/
structure ReadsField (fields : List (RecordField τ α)) (key : String) (read : Reader τ β)
    (get : α → β) : Prop where
  own : ∃ set, fields.lookup key = some set ∧ ∀ a t b, set a t = .ok b → read t = .ok (get b)
  others : ∀ f ∈ fields, ∀ a t b, f.2 a t = .ok b → f.1 ≠ key → get b = get a

theorem ReadsField.of_put {fields : List (RecordField τ α)} {key : String} {read : Reader τ β}
    {get : α → β} (put : α → β → α) (hlookup : fields.lookup key = some fun a t => put a <$> read t)
    (hget : ∀ a x, get (put a x) = x)
    (hothers : ∀ f ∈ fields, ∀ a t b, f.2 a t = .ok b → f.1 ≠ key → get b = get a) :
    ReadsField fields key read get where
  own := by
    refine ⟨_, hlookup, ?_⟩
    intro a t b h
    obtain ⟨x, hx, rfl⟩ := map_eq_ok h
    rw [hget, hx]
  others := hothers

/-- A record that is read from members holds what is read of the member with the key, or what it
held before. -/
theorem ReadsField.readMembers {fields : List (RecordField τ α)} {key : String}
    {read : Reader τ β} {get : α → β} (hfield : ReadsField fields key read get)
    {members : List (String × DataTree τ)} (hkeys : (members.map (·.1)).Nodup) {a b : α}
    (h : Shape.readMembers fields a members = .ok b) :
    match members.lookup key with
    | some t => read t = .ok (get b)
    | none => get b = get a := by
  obtain ⟨set, hset, hown⟩ := hfield.own
  induction members generalizing a with
  | nil =>
    cases h
    rfl
  | cons m rest ih =>
    obtain ⟨k, t⟩ := m
    rw [List.map_cons, List.nodup_cons] at hkeys
    simp only [Shape.readMembers] at h
    split at h
    · next hnone =>
      have hne : key ≠ k := by
        rintro rfl
        rw [hset] at hnone
        cases hnone
      rw [List.lookup_cons, beq_false_of_ne hne]
      exact ih hkeys.2 h
    · next set' hset' =>
      cases hone : under k (set' a t) with
      | error e =>
        rw [hone] at h
        cases h
      | ok a' =>
        rw [hone] at h
        have hrest := ih hkeys.2 h
        by_cases heq : key = k
        · subst heq
          obtain rfl := Option.some.inj (hset.symm.trans hset')
          rw [lookup_eq_none_of_not_mem hkeys.1] at hrest
          rw [List.lookup_cons_self, hrest]
          exact hown a t a' (under_eq_ok hone)
        · have hsame := hfield.others _ (mem_of_lookup hset') a t a' (under_eq_ok hone)
            (Ne.symm heq)
          rw [List.lookup_cons, beq_false_of_ne heq, ← hsame]
          exact hrest

end Fields

/-! ### Settings -/

/-- A part of a configuration: the path to it, how it is read there, and its value in a
configuration that has it. -/
structure Setting where
  path : List String
  {Value : Type}
  read : Reader SettingSource Value
  value? : Config → Option Value

namespace Setting

def root : Setting := ⟨[], Config.read .settings, some⟩

def within (outer : Setting) (key : String) {β : Type} (read : Reader SettingSource β)
    (get : outer.Value → Option β) : Setting :=
  ⟨outer.path ++ [key], read, fun c => (outer.value? c).bind get⟩

/-- Whether a value is what is read of a tree, or the default if there is none. -/
def Gives (x : Setting) (t : Option (DataTree SettingSource)) (v : x.Value) : Prop :=
  match t with
  | some u => x.read u = .ok v
  | none => x.value? .default = some v

/-- Whether a configuration that has a setting holds what a tree gives at its path. -/
def Shows (x : Setting) (t : DataTree SettingSource) (c : Config) : Prop :=
  ∀ v, x.value? c = some v → x.Gives (t.at? x.path) v

/-- Whether two configurations that have a setting agree on it. -/
def Agree (x : Setting) (c d : Config) : Prop :=
  ∀ v w, x.value? c = some v → x.value? d = some w → v = w

end Setting

/-- Whether no sequence stands on the way to a path. -/
def Shape.DataTree.NamesTo {τ : Type} (t : DataTree τ) (path : List String) : Prop :=
  ∀ before, before <+: path → before ≠ path → (t.at? before).map found ≠ some .sequence

theorem Shape.DataTree.Ordered.of_at? {τ : Type} {t u : DataTree τ} (ht : t.Ordered)
    {path : List String} (h : t.at? path = some u) : u.Ordered := by
  induction path generalizing t with
  | nil =>
    rw [at?_nil] at h
    cases h
    exact ht
  | cons key path ih =>
    cases t with
    | leaf s v => cases h
    | seq s items => cases h
    | map s members =>
      obtain ⟨below, hbelow, hpath⟩ := Option.bind_eq_some_iff.mp h
      exact ih (ht.of_lookup hbelow) hpath

namespace Setting

/-- Whether a part of a setting is given by a key where the setting is a map, and has its default
where the key is not given. A setting with parts is no leaf. -/
structure HasPart (outer : Setting) (key : String) {β : Type} (read : Reader SettingSource β)
    (get : outer.Value → Option β) : Prop where
  no_leaf : ∀ s w a, outer.read (.leaf s w) ≠ .ok a
  of_map : ∀ s members a v, Ordered (.map s members) → outer.read (.map s members) = .ok a →
    get a = some v → (outer.within key read get).Gives (members.lookup key) v

/-- The parts of the configuration, and their parts. -/
inductive IsPart : Setting → Prop
  | root : IsPart root
  | within {outer : Setting} {key : String} {β : Type} {read : Reader SettingSource β}
      {get : outer.Value → Option β} (houter : IsPart outer) (hpart : outer.HasPart key read get) :
      IsPart (outer.within key read get)

/-- A configuration holds what it was read from, where it is given by name. -/
theorem IsPart.shows {x : Setting} (hx : x.IsPart) {t : DataTree SettingSource} (ht : t.Ordered)
    {c : Config} (hread : Config.read .settings t = .ok c) (hnames : t.NamesTo x.path) :
    x.Shows t c := by
  -- from the whole to its parts: where a section is absent its parts have their defaults, and where
  -- it is a map its members give them
  induction hx with
  | root =>
    intro v hv
    cases hv
    change Setting.root.Gives (t.at? []) c
    rw [at?_nil]
    exact hread
  | @within outer key β read get houter hpart ih =>
    intro v hv
    obtain ⟨a, ha, hget⟩ := Option.bind_eq_some_iff.mp hv
    have hbefore : outer.path <+: outer.path ++ [key] := List.prefix_append ..
    have hne : outer.path ≠ outer.path ++ [key] := by simp
    have houternames : t.NamesTo outer.path := by
      intro before hb _
      refine hnames before (hb.trans hbefore) ?_
      rintro rfl
      exact hne (hbefore.eq_of_length_le hb.length_le)
    have hgives := ih houternames a ha
    change (outer.within key read get).Gives (t.at? (outer.path ++ [key])) v
    rw [at?_append]
    cases hat : t.at? outer.path with
    | none =>
      rw [hat] at hgives
      exact Option.bind_eq_some_iff.mpr ⟨a, hgives, hget⟩
    | some u =>
      rw [hat] at hgives
      cases u with
      | leaf s w => exact absurd hgives (hpart.no_leaf s w a)
      | seq s items => exact absurd (by rw [hat]; rfl) (hnames outer.path hbefore hne)
      | map s members =>
        have hmember := hpart.of_map s members a v (ht.of_at? hat) hgives hget
        have hbelow : (members.lookup key).bind (fun u => u.at? []) = members.lookup key := by
          cases members.lookup key <;> simp
        rw [Option.bind_some, at?_map_cons, hbelow]
        exact hmember

/-! ### The sections and their settings -/

/-- A record that is a part of the configuration has its fields as parts. -/
theorem HasPart.of_reads {outer : Setting} {mode : Mode} {name : String}
    {fields : List (RecordField SettingSource outer.Value)} {default : outer.Value}
    (hread : outer.read = readRecord mode name fields default)
    (hdefault : outer.value? .default = some default) {key : String} {β : Type}
    {read : Reader SettingSource β} {get : outer.Value → β}
    (hfield : ReadsField fields key read get) :
    outer.HasPart key read fun a => some (get a) where
  no_leaf := by
    intro s w a h
    rw [hread] at h
    cases h
  of_map := by
    intro s members a v hordered h hget
    obtain rfl := Option.some.inj hget
    rw [hread] at h
    obtain - | - | ⟨hkeys, -⟩ := hordered
    have hmember := hfield.readMembers (nodup_of_sorted hkeys) h
    cases hkey : members.lookup key with
    | none =>
      rw [hkey] at hmember
      change (outer.value? .default).bind (fun a => some (get a)) = some (get a)
      rw [hdefault, Option.bind_some, hmember]
    | some u =>
      rw [hkey] at hmember
      exact hmember

def listener : Setting :=
  root.within "listener" (readRecord .settings "ListenerConfig" (ListenerConfig.fields .settings)
    .default) fun c => some c.listener

def tls : Setting :=
  root.within "tls" (readRecord .settings "TlsConfig" (TlsConfig.fields .settings) .default)
    fun c => some c.tls

def auth : Setting :=
  root.within "auth" (readRecord .settings "AuthConfig" (AuthConfig.fields .settings) .default)
    fun c => some c.auth

def authenticator : Setting :=
  auth.within "authenticator" (AuthorityConfig.read .settings) fun c => some c.authority

def kindOf : AuthorityConfig → Nat
  | .registry _ => 0
  | .remote _ => 1

def identitiesOf : AuthorityConfig → Option (List RegisteredIdentity)
  | .registry identities => some identities
  | .remote _ => none

def urlOf : AuthorityConfig → Option String
  | .registry _ => none
  | .remote url => some url

def port : Setting :=
  listener.within "port" (fun t => UInt16.ofNat <$> readBelow 65536 "u16" t) fun c => some c.port

def host : Setting := listener.within "host" (readText .settings) fun c => some c.host

def hubName : Setting := auth.within "hub_name" (readText .settings) fun c => some c.hubName

def kind : Setting :=
  authenticator.within "kind" (readVariant .settings AuthorityConfig.kinds) fun a => some (kindOf a)

def scalars : List Setting := [
  listener.within "scheme" (readText .settings) fun c => some c.scheme, host, port,
  listener.within "handshake_timeout" (readDuration .settings) fun c => some c.handshakeTimeout,
  tls.within "server_cert" (readText .settings) fun c => some c.serverCert,
  tls.within "server_key" (readText .settings) fun c => some c.serverKey,
  tls.within "ca_cert" (readOptional (readText .settings)) fun c => some c.caCert,
  tls.within "crl_path" (readOptional (readText .settings)) fun c => some c.crlPath,
  tls.within "client_cert_auth" readBool fun c => some c.clientCertAuth,
  hubName,
  auth.within "timeout" (readDuration .settings) fun c => some c.timeout,
  auth.within "max_inflight" (fun t => UInt64.ofNat <$> readBelow 18446744073709551616 "usize" t)
    fun c => some c.maxInflight,
  auth.within "worker_threads" (fun t => UInt64.ofNat <$> readBelow 18446744073709551616 "usize" t)
    fun c => some c.workerThreads,
  kind, authenticator.within "url" (readText .buffered) urlOf]

/-- All settings; only the identities of a registry are no single value. -/
def all : List Setting := authenticator.within "identities" readIdentities identitiesOf :: scalars

end Setting

/-! ### Which fields change what -/

section Frames

variable {τ : Type} {mode : Mode} {t : DataTree τ}

theorem ListenerConfig.fields_frame {f : RecordField τ ListenerConfig}
    (hf : f ∈ ListenerConfig.fields mode) {a b : ListenerConfig} (h : f.2 a t = .ok b) :
    (f.1 ≠ "scheme" → b.scheme = a.scheme) ∧ (f.1 ≠ "host" → b.host = a.host) ∧
      (f.1 ≠ "port" → b.port = a.port) ∧
      (f.1 ≠ "handshake_timeout" → b.handshakeTimeout = a.handshakeTimeout) := by
  simp only [fields, List.mem_cons, List.not_mem_nil, or_false] at hf
  rcases hf with rfl | rfl | rfl | rfl <;> obtain ⟨x, -, rfl⟩ := map_eq_ok h <;> simp

theorem TlsConfig.fields_frame {f : RecordField τ TlsConfig} (hf : f ∈ TlsConfig.fields mode)
    {a b : TlsConfig} (h : f.2 a t = .ok b) :
    (f.1 ≠ "server_cert" → b.serverCert = a.serverCert) ∧
      (f.1 ≠ "server_key" → b.serverKey = a.serverKey) ∧
      (f.1 ≠ "ca_cert" → b.caCert = a.caCert) ∧ (f.1 ≠ "crl_path" → b.crlPath = a.crlPath) ∧
      (f.1 ≠ "client_cert_auth" → b.clientCertAuth = a.clientCertAuth) := by
  simp only [fields, List.mem_cons, List.not_mem_nil, or_false] at hf
  rcases hf with rfl | rfl | rfl | rfl | rfl <;> obtain ⟨x, -, rfl⟩ := map_eq_ok h <;> simp

theorem AuthConfig.fields_frame {f : RecordField τ AuthConfig} (hf : f ∈ AuthConfig.fields mode)
    {a b : AuthConfig} (h : f.2 a t = .ok b) :
    (f.1 ≠ "hub_name" → b.hubName = a.hubName) ∧ (f.1 ≠ "timeout" → b.timeout = a.timeout) ∧
      (f.1 ≠ "max_inflight" → b.maxInflight = a.maxInflight) ∧
      (f.1 ≠ "worker_threads" → b.workerThreads = a.workerThreads) ∧
      (f.1 ≠ "authenticator" → b.authority = a.authority) := by
  simp only [fields, List.mem_cons, List.not_mem_nil, or_false] at hf
  rcases hf with rfl | rfl | rfl | rfl | rfl <;> obtain ⟨x, -, rfl⟩ := map_eq_ok h <;> simp

theorem Config.fields_frame {f : RecordField τ Config} (hf : f ∈ Config.fields mode)
    {a b : Config} (h : f.2 a t = .ok b) :
    (f.1 ≠ "listener" → b.listener = a.listener) ∧ (f.1 ≠ "tls" → b.tls = a.tls) ∧
      (f.1 ≠ "auth" → b.auth = a.auth) := by
  simp only [fields, List.mem_cons, List.not_mem_nil, or_false] at hf
  rcases hf with rfl | rfl | rfl <;> obtain ⟨x, -, rfl⟩ := map_eq_ok h <;> simp

theorem ListenerConfig.lookup_port :
    (ListenerConfig.fields (τ := τ) mode).lookup "port" = some fun c t =>
      (fun x => { c with port := x }) <$> UInt16.ofNat <$> readBelow 65536 "u16" t := by
  simp only [Functor.map_map]
  rfl

theorem AuthConfig.lookup_maxInflight :
    (AuthConfig.fields (τ := τ) mode).lookup "max_inflight" = some fun c t =>
      (fun x => { c with maxInflight := x }) <$> UInt64.ofNat <$>
        readBelow 18446744073709551616 "usize" t := by
  simp only [Functor.map_map]
  rfl

theorem AuthConfig.lookup_workerThreads :
    (AuthConfig.fields (τ := τ) mode).lookup "worker_threads" = some fun c t =>
      (fun x => { c with workerThreads := x }) <$> UInt64.ofNat <$>
        readBelow 18446744073709551616 "usize" t := by
  simp only [Functor.map_map]
  rfl

end Frames

/-! ### What an authority is read from -/

theorem readVariant_lt {mode : Mode} {names : List String} {τ : Type} {t : DataTree τ} {n : Nat}
    (h : readVariant mode names t = .ok n) : n < names.length := by
  have hname : ∀ s i, names.findIdx? (· == s) = some i → i < names.length :=
    fun _ _ hi => (List.findIdx?_eq_some_iff_getElem.mp hi).1
  unfold readVariant at h
  dsimp only at h
  split at h
  · next s =>
    split at h
    · next i hi =>
      cases h
      exact hname s _ hi
    · cases h
  · next c =>
    split at h
    · next i hi =>
      cases h
      exact hname _ _ hi
    · cases h
  · split at h
    · split at h
      · next hlt =>
        cases h
        exact hlt
      · cases h
    · cases h
  · cases h

theorem atNode_eq_ok {τ α : Type} {t : DataTree τ} {x : Except (Located τ) α} {a : α}
    (h : atNode t x = .ok a) : x = .ok a := by
  cases x with
  | ok b => exact h
  | error e => cases h

section Authority

open AuthorityConfig

variable {s : SettingSource} {members : List (String × DataTree SettingSource)}
  {a : AuthorityConfig}

theorem AuthorityConfig.ofMembers_eq_ok {t : DataTree SettingSource} {n : Nat}
    (hn : n < kinds.length) (h : ofMembers t n members = .ok a) :
    (n = 0 ∧ ∃ identities, a = .registry identities ∧
      match members.lookup "identities" with
      | some v => readIdentities v = .ok identities
      | none => identities = []) ∨
    (n = 1 ∧ ∃ url v, a = .remote url ∧ members.lookup "url" = some v ∧
      readText .buffered v = .ok url) := by
  obtain rfl | rfl : n = 0 ∨ n = 1 := by
    change n < 2 at hn
    omega
  · refine .inl ⟨rfl, ?_⟩
    simp only [ofMembers] at h
    split at h
    · next hnone =>
      cases h
      exact ⟨[], rfl, by rw [hnone]⟩
    · next v hv =>
      obtain ⟨identities, hread, rfl⟩ := map_eq_ok h
      exact ⟨identities, rfl, by rw [hv]; exact hread⟩
  · refine .inr ⟨rfl, ?_⟩
    simp only [ofMembers] at h
    split at h
    · cases h
    · next v hv =>
      obtain ⟨url, hread, rfl⟩ := map_eq_ok h
      exact ⟨url, v, rfl, hv, hread⟩

theorem AuthorityConfig.read_map_eq_ok
    (h : AuthorityConfig.read .settings (.map s members) = .ok a) :
    (∃ k, members.lookup "kind" = some k ∧ readVariant .settings kinds k = .ok (Setting.kindOf a)) ∧
    (∀ identities, Setting.identitiesOf a = some identities →
      match members.lookup "identities" with
      | some v => readIdentities v = .ok identities
      | none => identities = []) ∧
    ∀ url, Setting.urlOf a = some url →
      ∃ v, members.lookup "url" = some v ∧ readText .buffered v = .ok url := by
  simp only [AuthorityConfig.read] at h
  split at h
  · cases h
  · next k hk =>
    obtain ⟨n, hn, h⟩ := bind_eq_ok h
    have hvariant := under_eq_ok hn
    rcases ofMembers_eq_ok (readVariant_lt hvariant) (atNode_eq_ok h) with
      ⟨rfl, identities, rfl, hread⟩ | ⟨rfl, url, v, rfl, hv, hread⟩
    · refine ⟨⟨k, hk, hvariant⟩, ?_, nofun⟩
      intro _ heq
      cases heq
      exact hread
    · refine ⟨⟨k, hk, hvariant⟩, nofun, ?_⟩
      intro _ heq
      cases heq
      exact ⟨v, hv, hread⟩

end Authority

namespace Setting

/-- A field of a record that is a part of the configuration is a part of it. -/
theorem IsPart.field {outer : Setting} (houter : outer.IsPart) {mode : Mode} {name : String}
    {fields : List (RecordField SettingSource outer.Value)} {default : outer.Value}
    (hread : outer.read = readRecord mode name fields default)
    (hdefault : outer.value? .default = some default) {key : String} {β : Type}
    {read : Reader SettingSource β} {get : outer.Value → β} (put : outer.Value → β → outer.Value)
    (hlookup : fields.lookup key = some fun a t => put a <$> read t)
    (hget : ∀ a x, get (put a x) = x)
    (hothers : ∀ f ∈ fields, ∀ a t b, f.2 a t = .ok b → f.1 ≠ key → get b = get a) :
    (outer.within key read fun a => some (get a)).IsPart :=
  .within houter (.of_reads hread hdefault (.of_put put hlookup hget hothers))

theorem isPart_listener : listener.IsPart :=
  IsPart.root.field rfl rfl (fun c x => { c with listener := x }) rfl (fun _ _ => rfl)
    fun _ hf _ _ _ h => (Config.fields_frame hf h).1

theorem isPart_tls : tls.IsPart :=
  IsPart.root.field rfl rfl (fun c x => { c with tls := x }) rfl (fun _ _ => rfl)
    fun _ hf _ _ _ h => (Config.fields_frame hf h).2.1

theorem isPart_auth : auth.IsPart :=
  IsPart.root.field rfl rfl (fun c x => { c with auth := x }) rfl (fun _ _ => rfl)
    fun _ hf _ _ _ h => (Config.fields_frame hf h).2.2

theorem isPart_authenticator : authenticator.IsPart :=
  isPart_auth.field rfl rfl (fun c x => { c with authority := x }) rfl (fun _ _ => rfl)
    fun _ hf _ _ _ h => (AuthConfig.fields_frame hf h).2.2.2.2

theorem authenticator_no_leaf (s : SettingSource) (w : Scalar) (a : AuthorityConfig) :
    authenticator.read (.leaf s w) ≠ .ok a := nofun

theorem isPart_kind : kind.IsPart := by
  refine .within isPart_authenticator ⟨authenticator_no_leaf, ?_⟩
  intro s members a v _ h hv
  obtain ⟨⟨k, hk, hread⟩, -, -⟩ := AuthorityConfig.read_map_eq_ok h
  cases hv
  rw [hk]
  exact hread

theorem isPart_identities :
    (authenticator.within "identities" readIdentities identitiesOf).IsPart := by
  refine .within isPart_authenticator ⟨authenticator_no_leaf, ?_⟩
  intro s members a v _ h hv
  have hread := (AuthorityConfig.read_map_eq_ok h).2.1 v hv
  cases hkey : members.lookup "identities" with
  | some u =>
    rw [hkey] at hread
    exact hread
  | none =>
    rw [hkey] at hread
    rw [hread]
    rfl

theorem isPart_url : (authenticator.within "url" (readText .buffered) urlOf).IsPart := by
  refine .within isPart_authenticator ⟨authenticator_no_leaf, ?_⟩
  intro s members a v _ h hv
  obtain ⟨u, hu, hread⟩ := (AuthorityConfig.read_map_eq_ok h).2.2 v hv
  rw [hu]
  exact hread

/-- Every setting is a part of the configuration. -/
theorem isPart_of_mem : ∀ x ∈ all, x.IsPart := by
  simp only [all, scalars, List.forall_mem_cons, List.not_mem_nil, false_implies, implies_true,
    and_true]
  refine ⟨isPart_identities, ?_, ?_, ?_, ?_, ?_, ?_, ?_, ?_, ?_, ?_, ?_, ?_, ?_, isPart_kind,
    isPart_url⟩
  · exact isPart_listener.field rfl rfl (fun c x => { c with scheme := x }) rfl (fun _ _ => rfl)
      fun _ hf _ _ _ h => (ListenerConfig.fields_frame hf h).1
  · exact isPart_listener.field rfl rfl (fun c x => { c with host := x }) rfl (fun _ _ => rfl)
      fun _ hf _ _ _ h => (ListenerConfig.fields_frame hf h).2.1
  · exact isPart_listener.field rfl rfl (fun c x => { c with port := x })
      ListenerConfig.lookup_port (fun _ _ => rfl)
      fun _ hf _ _ _ h => (ListenerConfig.fields_frame hf h).2.2.1
  · exact isPart_listener.field rfl rfl (fun c x => { c with handshakeTimeout := x }) rfl
      (fun _ _ => rfl) fun _ hf _ _ _ h => (ListenerConfig.fields_frame hf h).2.2.2
  · exact isPart_tls.field rfl rfl (fun c x => { c with serverCert := x }) rfl (fun _ _ => rfl)
      fun _ hf _ _ _ h => (TlsConfig.fields_frame hf h).1
  · exact isPart_tls.field rfl rfl (fun c x => { c with serverKey := x }) rfl (fun _ _ => rfl)
      fun _ hf _ _ _ h => (TlsConfig.fields_frame hf h).2.1
  · exact isPart_tls.field rfl rfl (fun c x => { c with caCert := x }) rfl (fun _ _ => rfl)
      fun _ hf _ _ _ h => (TlsConfig.fields_frame hf h).2.2.1
  · exact isPart_tls.field rfl rfl (fun c x => { c with crlPath := x }) rfl (fun _ _ => rfl)
      fun _ hf _ _ _ h => (TlsConfig.fields_frame hf h).2.2.2.1
  · exact isPart_tls.field rfl rfl (fun c x => { c with clientCertAuth := x }) rfl (fun _ _ => rfl)
      fun _ hf _ _ _ h => (TlsConfig.fields_frame hf h).2.2.2.2
  · exact isPart_auth.field rfl rfl (fun c x => { c with hubName := x }) rfl (fun _ _ => rfl)
      fun _ hf _ _ _ h => (AuthConfig.fields_frame hf h).1
  · exact isPart_auth.field rfl rfl (fun c x => { c with timeout := x }) rfl (fun _ _ => rfl)
      fun _ hf _ _ _ h => (AuthConfig.fields_frame hf h).2.1
  · exact isPart_auth.field rfl rfl (fun c x => { c with maxInflight := x })
      AuthConfig.lookup_maxInflight (fun _ _ => rfl)
      fun _ hf _ _ _ h => (AuthConfig.fields_frame hf h).2.2.1
  · exact isPart_auth.field rfl rfl (fun c x => { c with workerThreads := x })
      AuthConfig.lookup_workerThreads (fun _ _ => rfl)
      fun _ hf _ _ _ h => (AuthConfig.fields_frame hf h).2.2.2.1

/-! ### What the settings determine -/

theorem read_map_ne_ok : ∀ x ∈ scalars, ∀ s members v, x.read (.map s members) ≠ .ok v := by
  simp only [scalars, List.forall_mem_cons, List.not_mem_nil, false_implies, implies_true, and_true]
  exact ⟨nofun, nofun, nofun, nofun, nofun, nofun, nofun, nofun, nofun, nofun, nofun, nofun, nofun,
    nofun, nofun⟩

theorem eq_of_all {c d : Config} (h : ∀ x ∈ all, x.value? c = x.value? d) : c = d := by
  simp only [all, scalars, List.forall_mem_cons] at h
  obtain ⟨hidentities, hscheme, hhost, hport, hhandshake, hcert, hkey, hca, hcrl, hclient, hhub,
    htimeout, hinflight, hworkers, -, hurl, -⟩ := h
  have hlistener : c.listener = d.listener := by
    obtain ⟨⟨_, _, _, _⟩, _, _⟩ := c
    obtain ⟨⟨_, _, _, _⟩, _, _⟩ := d
    exact ListenerConfig.mk.injEq .. ▸ ⟨Option.some.inj hscheme, Option.some.inj hhost,
      Option.some.inj hport, Option.some.inj hhandshake⟩
  have htls : c.tls = d.tls := by
    obtain ⟨_, ⟨_, _, _, _, _⟩, _⟩ := c
    obtain ⟨_, ⟨_, _, _, _, _⟩, _⟩ := d
    exact TlsConfig.mk.injEq .. ▸ ⟨Option.some.inj hcert, Option.some.inj hkey,
      Option.some.inj hca, Option.some.inj hcrl, Option.some.inj hclient⟩
  have hidentities : identitiesOf c.auth.authority = identitiesOf d.auth.authority := hidentities
  have hurl : urlOf c.auth.authority = urlOf d.auth.authority := hurl
  have hauthority : c.auth.authority = d.auth.authority := by
    cases hc : c.auth.authority <;> cases hd : d.auth.authority <;> rw [hc, hd] at hidentities hurl
    · cases hidentities
      rfl
    · cases hidentities
    · cases hidentities
    · cases hurl
      rfl
  have hauth : c.auth = d.auth := by
    obtain ⟨_, _, ⟨_, _, _, _, _⟩⟩ := c
    obtain ⟨_, _, ⟨_, _, _, _, _⟩⟩ := d
    exact AuthConfig.mk.injEq .. ▸ ⟨Option.some.inj hhub, Option.some.inj htimeout,
      Option.some.inj hinflight, Option.some.inj hworkers, hauthority⟩
  obtain ⟨_, _, _⟩ := c
  obtain ⟨_, _, _⟩ := d
  exact Config.mk.injEq .. ▸ ⟨hlistener, htls, hauth⟩

/-- Which settings a configuration has depends on the kind of its authority only. -/
theorem isSome_value?_of_kind {c d : Config} (h : kind.value? c = kind.value? d) :
    ∀ x ∈ all, (x.value? c).isSome = (x.value? d).isSome := by
  have hkind : kindOf c.auth.authority = kindOf d.auth.authority := Option.some.inj h
  have hparts : (identitiesOf c.auth.authority).isSome = (identitiesOf d.auth.authority).isSome ∧
      (urlOf c.auth.authority).isSome = (urlOf d.auth.authority).isSome := by
    cases hc : c.auth.authority <;> cases hd : d.auth.authority <;> rw [hc, hd] at hkind <;>
      first | exact ⟨rfl, rfl⟩ | cases hkind
  simp only [all, scalars, List.forall_mem_cons, List.not_mem_nil, false_implies, implies_true,
    and_true]
  exact ⟨hparts.1, rfl, rfl, rfl, rfl, rfl, rfl, rfl, rfl, rfl, rfl, rfl, rfl, rfl, rfl, hparts.2⟩

end Setting
end DeviceGateway
