import DeviceGateway.Program.Certificates
import DeviceGateway.Proofs.Issuance.Delivery
import DeviceGateway.Proofs.Issuance.Device

/-!
# What a certificate command leaves behind

A command reads what it needs, issues, and writes one pair. So the files after it are those before
it, with nothing changed but its own two. A command that fails has changed none, or has written its
pair in part.
-/

namespace DeviceGateway

open FileTree

namespace CertificateCommand

/-! ### What a command issues and where it writes -/

def place? : Command → Option PairPlace
  | .initAuthority o => some ⟨Utf8.repair o.directory, authorityStem⟩
  | .issueServer o => some ⟨Utf8.repair o.directory, o.stem⟩
  | .issueDevice o => some ⟨Utf8.repair o.directory, o.fileStem⟩
  | .thumbprint _ | .serve => none

def issue? (files : FileTree) (now : Nat) (key : SigningKey) (hubName : Option String) :
    Command → Option (Except String Issued)
  | .initAuthority o => some (issueAuthority now key o)
  | .issueServer o => some (issueServer files now key o)
  | .issueDevice o => some (issueDevice files now key hubName o)
  | .thumbprint _ | .serve => none

/-! ### Reading back -/

theorem whileDoing_eq_ok {α : Type} {doing : String} {x : Except GatewayError α} {a : α}
    (h : whileDoing doing x = .ok a) : x = .ok a := by
  cases x with
  | error e => cases h
  | ok b =>
    cases h
    rfl

/-- The certificate of a pair that was issued is a text whose thumbprint can be told. -/
theorem tellThumbprint_ofParts (certificate : Certificate) (key : SigningKey) :
    tellThumbprint (Issued.ofParts certificate key) =
      .ok ["Thumbprint: " ++ thumbprint certificate.encode] := by
  have hread := Material.parseCertificates_text certificate.encode
  simp only [tellThumbprint, issuedThumbprint, Issued.ofParts, hread, Bind.bind, Except.bind,
    List.headD_cons]

theorem issueDevice_tells {files : FileTree} {now : Nat} {key : SigningKey}
    {hubName : Option String} {o : DeviceOrder} {issued : Issued}
    (h : issueDevice files now key hubName o = .ok issued) :
    ∃ lines, tellThumbprint issued = .ok lines := by
  obtain ⟨⟨caCertificate, caKey⟩, -, h⟩ := bind_eq_ok h
  obtain ⟨template, issuer, -, -, rfl⟩ :=
    Issued.fromAuthority_eq_ok_iff.mp (whileDoing_eq_ok h)
  exact ⟨_, tellThumbprint_ofParts _ _⟩

/-! ### Ends of commands -/

/-- How a command that issues can end: it issues nothing, or what it issued is not written, or it
is written. -/
inductive Delivers (files : FileTree) (hindered : Hindrances) (place : PairPlace)
    (issued : Except String Issued) : CommandEnd → Prop
  | notIssued (fault : String) (hissued : issued = .error fault) :
      Delivers files hindered place issued { files, fault := some fault }
  | notWritten (pair : Issued) (after : FileTree) (doing : String) (e : GatewayError)
      (hissued : issued = .ok pair)
      (hwrite : pair.writeTo files place.directory place.stem hindered = (after, .error e)) :
      Delivers files hindered place issued
        { files := after, fault := some (doing ++ ": " ++ e.message) }
  | written (pair : Issued) (after : FileTree) (output : List String)
      (hissued : issued = .ok pair)
      (hwrite : pair.writeTo files place.directory place.stem hindered = (after, .ok ())) :
      Delivers files hindered place issued { files := after, output }

theorem deliver_ends {files : FileTree} {hindered : Hindrances} {doing what : String}
    {issued : Except String Issued} {directory : Bytes} {stem : String}
    {more : Issued → Except GatewayError (List String)}
    (hmore : ∀ pair, issued = .ok pair → ∃ lines, more pair = .ok lines) :
    Delivers files hindered ⟨Utf8.repair directory, stem⟩ issued
      (deliver files hindered doing what issued directory stem more) := by
  unfold deliver
  cases issued with
  | error fault => exact .notIssued fault rfl
  | ok pair =>
    dsimp only
    cases hwrite : pair.writeTo files (Utf8.repair directory) stem hindered with
    | mk after result =>
      cases result with
      | error e => exact .notWritten pair after doing e rfl hwrite
      | ok =>
        obtain ⟨lines, hlines⟩ := hmore pair rfl
        dsimp only
        rw [hlines]
        exact .written pair after _ rfl hwrite

section Runs

variable {files : FileTree} {hindered : Hindrances} {now : Nat} {key : SigningKey}
  {hubName : Option String} {c : Command} {place : PairPlace} {result : CommandEnd}

theorem run?_delivers (hplace : place? c = some place)
    (hrun : run? files hindered now key hubName c = some result) :
    ∃ issued, issue? files now key hubName c = some issued ∧
      Delivers files hindered place issued result := by
  cases c with
  | serve => cases hplace
  | thumbprint file => cases hplace
  | initAuthority o =>
    cases hplace
    cases hrun
    exact ⟨_, rfl, deliver_ends fun pair _ => ⟨[], rfl⟩⟩
  | issueServer o =>
    cases hplace
    cases hrun
    exact ⟨_, rfl, deliver_ends fun pair _ => ⟨[], rfl⟩⟩
  | issueDevice o =>
    cases hplace
    cases hrun
    exact ⟨_, rfl, deliver_ends fun pair h => issueDevice_tells h⟩

/-- A command that issues nothing writes nothing. -/
theorem run?_reads (hplace : place? c = none)
    (hrun : run? files hindered now key hubName c = some result) : result.files = files := by
  cases c with
  | serve => cases hrun
  | thumbprint file =>
    cases hrun
    unfold runThumbprint
    split
    · rfl
    · split <;> rfl
  | initAuthority o => cases hplace
  | issueServer o => cases hplace
  | issueDevice o => cases hplace

/-! ### Commands one after another -/

end Runs

end CertificateCommand

namespace CommandRun

open CertificateCommand

end CommandRun

open CertificateCommand in
/-- A pair that is written is there. One that is not has left the files as they were, unless its
certificate was cut short or its key could not be written after its certificate; only what is in the
way of the two files makes that happen. A command that fails leaves no more behind. -/
theorem FileTree.pair_written_in_order (files : FileTree) (hindered : Hindrances) :
    (∀ (issued : Issued) (place : PairPlace) (after : FileTree),
      issued.writeTo files place.directory place.stem hindered = (after, .ok ()) →
        after.read place.certificatePath = .ok (Utf8.encodeText issued.certificate) ∧
        after.read place.keyPath = .ok (Utf8.encodeText issued.key)) ∧
    (∀ (issued : Issued) (place : PairPlace) (after : FileTree) (e : GatewayError),
      issued.writeTo files place.directory place.stem hindered = (after, .error e) →
        (KeepsFiles files after ∨ issued.PartlyWritten place files after e) ∧
        (hindered place.certificate = none → hindered place.key = none →
          (files.makeDirectories hindered place.directory).1.at? place.key ≠ some .directory →
          KeepsFiles files after)) ∧
    (∀ (now : Nat) (key : SigningKey) (hubName : Option String) (c : Command)
      (result : CommandEnd), run? files hindered now key hubName c = some result →
      result.fault ≠ none →
        KeepsFiles files result.files ∨
        ∃ place issued doing e, place? c = some place ∧
          issue? files now key hubName c = some (.ok issued) ∧
          result.fault = some (doing ++ ": " ++ e.message) ∧
          issued.PartlyWritten place files result.files e) := by
  have hfailed : ∀ (issued : Issued) (place : PairPlace) (after : FileTree) (e : GatewayError),
      issued.writeTo files place.directory place.stem hindered = (after, .error e) →
      KeepsFiles files after ∨ issued.PartlyWritten place files after e := by
    intro issued place after e h
    have hend := h ▸ issued.writeTo_ends place files hindered
    cases hend with
    | noDirectory _ f hsame => exact .inl hsame
    | noCertificate _ f hsame => exact .inl hsame
    | partly _ _ hpartly => exact .inr hpartly
  refine ⟨fun issued place after h => ?_, fun issued place after e h => ⟨hfailed _ _ _ _ h, ?_⟩, ?_⟩
  · have hend := h ▸ issued.writeTo_ends place files hindered
    cases hend with
    | whole _ hcertificate hkey hothers => exact ⟨hcertificate, hkey⟩
  · intro hcrt hkey hplace
    have hsame := issued.untouched_of_unhindered place hcrt hkey hplace (congrArg Prod.snd h)
    rwa [h] at hsame
  · intro now key hubName c result hrun hfault
    cases hplace : place? c with
    | none =>
      rw [run?_reads hplace hrun]
      exact .inl fun q => rfl
    | some place =>
      obtain ⟨issued, hissue, hends⟩ := run?_delivers hplace hrun
      cases hends with
      | notIssued fault hissued => exact .inl fun q => rfl
      | notWritten pair after doing e hissued hwrite =>
        rcases hfailed pair place after e hwrite with hsame | hpartly
        · exact .inl hsame
        · exact .inr ⟨place, pair, doing, e, rfl, hissued ▸ hissue, rfl, hpartly⟩
      | written pair after output hissued hwrite => exact absurd rfl hfault

/-- An authority with a directory in the place of its key. -/
def FileTree.keyless : FileTree :=
  ⟨[(["tls"], .directory), (["tls", "ca.crt"], .file [0]), (["tls", "ca.key"], .directory)]⟩

/-- Where the key cannot be written, a new certificate has taken the place of the old one. -/
theorem FileTree.certificate_left_without_key :
    ¬ ∀ (issued : Issued) (place : PairPlace) (files after : FileTree) (e : GatewayError),
      issued.writeTo files place.directory place.stem = (after, .error e) →
      after.fileAt? place.certificate = files.fileAt? place.certificate := by
  intro h
  have hwrite : (Issued.mk "new" "key").writeTo keyless "tls" "ca" =
      (keyless.put ["tls", "ca.crt"] (.file (Utf8.encodeText "new")),
        .error (Issued.cannotWrite "key" .isDirectory)) := by
    decide +kernel
  have hplace : (PairPlace.mk "tls" "ca").certificate = ["tls", "ca.crt"] := by decide
  have hleft := h ⟨"new", "key"⟩ ⟨"tls", "ca"⟩ keyless _ _ hwrite
  rw [hplace] at hleft
  revert hleft
  decide

end DeviceGateway
