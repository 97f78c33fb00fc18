import DeviceGateway.Issuance.Issued
import DeviceGateway.Proofs.Files.Storing

/-!
# What is left of a pair that was not written

A certificate and its key are written one after the other, and the first fault ends it. If both are
written, both are read back. If not, a fault that comes before anything is stored changes no file; a
fault of the certificate's content leaves a part of it, and a fault of the key leaves the new
certificate beside what the key's file was, or beside a part of the new key.
-/

namespace DeviceGateway

open FileTree

/-- The directory of a pair and the name of both its files. -/
structure PairPlace where
  directory : String
  stem : String
  deriving DecidableEq, Repr

namespace PairPlace

/-! ### The two places -/

def certificatePath (place : PairPlace) : String := join place.directory (place.stem ++ ".crt")

def keyPath (place : PairPlace) : String := join place.directory (place.stem ++ ".key")

def certificate (place : PairPlace) : FilePath := partsOf place.certificatePath

def key (place : PairPlace) : FilePath := partsOf place.keyPath

theorem isExtension_crt : IsExtension ".crt" := ⟨⟨by decide, by decide⟩, by decide⟩

theorem isExtension_key : IsExtension ".key" := ⟨⟨by decide, by decide⟩, by decide⟩

theorem exists_path (place : PairPlace) :
    ∃ base, place.certificatePath = base ++ ".crt" ∧ place.keyPath = base ++ ".key" := by
  obtain ⟨base, hjoin⟩ := exists_join place.directory place.stem
  exact ⟨base, hjoin _ isExtension_crt, hjoin _ isExtension_key⟩

theorem exists_name (place : PairPlace) : ∃ (above : FilePath) (name : String),
    place.certificate = above ++ [name ++ ".crt"] ∧ place.key = above ++ [name ++ ".key"] := by
  obtain ⟨base, hcrt, hkey⟩ := place.exists_path
  obtain ⟨before, name, hbase⟩ := exists_base base
  refine ⟨before.foldl enter (startOf base), name, ?_, ?_⟩
  · rw [certificate, hcrt, (hbase _ isExtension_crt).2]
  · rw [key, hkey, (hbase _ isExtension_key).2]

theorem crt_ne_key (name name' : String) : name ++ ".crt" ≠ name' ++ ".key" := by
  intro h
  have hlist := congrArg (fun s => s.toList.getLast?) h
  simp only [String.toList_append] at hlist
  have hcrt : (".crt" : String).toList.getLast? = some 't' := by decide
  have hkey : (".key" : String).toList.getLast? = some 'y' := by decide
  rw [List.getLast?_append, List.getLast?_append, hcrt, hkey, Option.some_or, Option.some_or,
    Option.some_inj] at hlist
  exact absurd hlist (by decide)

/-- No certificate is written where a key is, whatever the directories and stems. -/
theorem certificate_ne_key (place other : PairPlace) : place.certificate ≠ other.key := by
  obtain ⟨above, name, hcrt, -⟩ := place.exists_name
  obtain ⟨above', name', -, hkey⟩ := other.exists_name
  rw [hcrt, hkey]
  intro h
  exact crt_ne_key name name' (List.cons.inj (List.append_inj' h rfl).2).1

end PairPlace

namespace Issued

/-! ### Ends of writing -/

def cannotMake (directory : String) (fault : FileFault) : GatewayError :=
  .certificate ("Cannot create dir '" ++ directory ++ "': " ++ fault.message)

def cannotWrite (what : String) (fault : FileFault) : GatewayError :=
  .certificate ("Cannot write " ++ what ++ ": " ++ fault.message)

theorem writePart_eq (t : FileTree) (hindered : Hindrances) (what path text : String) :
    writePart t hindered what path text =
      ((t.write hindered path (Utf8.encodeText text)).1,
        (t.write hindered path (Utf8.encodeText text)).2.mapError (cannotWrite what)) := by
  unfold writePart
  cases t.write hindered path (Utf8.encodeText text) with
  | mk after result => cases result <;> rfl

section Ends

variable (issued : Issued) (place : PairPlace)

/-- Some of a pair was written and the rest was not, and no other file was touched. -/
inductive PartlyWritten (before after : FileTree) : GatewayError → Prop
  | certificate (fault : FileFault) (stored : Nat)
      (hcut : stored < (Utf8.encodeText issued.certificate).length)
      (hcertificate : after.fileAt? place.certificate =
        some ((Utf8.encodeText issued.certificate).take stored))
      (hothers : ∀ q, q ≠ place.certificate → after.fileAt? q = before.fileAt? q) :
      PartlyWritten before after (cannotWrite "cert" fault)
  | noKey (fault : FileFault)
      (hcertificate : after.fileAt? place.certificate = some (Utf8.encodeText issued.certificate))
      (hothers : ∀ q, q ≠ place.certificate → after.fileAt? q = before.fileAt? q) :
      PartlyWritten before after (cannotWrite "key" fault)
  | key (fault : FileFault) (stored : Nat)
      (hcut : stored < (Utf8.encodeText issued.key).length)
      (hcertificate : after.fileAt? place.certificate = some (Utf8.encodeText issued.certificate))
      (hkey : after.fileAt? place.key = some ((Utf8.encodeText issued.key).take stored))
      (hothers : ∀ q, q ≠ place.certificate → q ≠ place.key →
        after.fileAt? q = before.fileAt? q) :
      PartlyWritten before after (cannotWrite "key" fault)

/-- How writing a pair can end. -/
inductive WritesPair (before : FileTree) : FileTree × Except GatewayError Unit → Prop
  | noDirectory (after : FileTree) (fault : FileFault) (hsame : KeepsFiles before after) :
      WritesPair before (after, .error (cannotMake place.directory fault))
  | noCertificate (after : FileTree) (fault : FileFault) (hsame : KeepsFiles before after) :
      WritesPair before (after, .error (cannotWrite "cert" fault))
  | partly (after : FileTree) (e : GatewayError)
      (hpartly : PartlyWritten issued place before after e) :
      WritesPair before (after, .error e)
  | whole (after : FileTree)
      (hcertificate : after.read place.certificatePath = .ok (Utf8.encodeText issued.certificate))
      (hkey : after.read place.keyPath = .ok (Utf8.encodeText issued.key))
      (hothers : ∀ q, q ≠ place.certificate → q ≠ place.key →
        after.fileAt? q = before.fileAt? q) :
      WritesPair before (after, .ok ())

theorem writeKey_ends {before t : FileTree} {hindered : Hindrances}
    (hcertificate : t.read place.certificatePath = .ok (Utf8.encodeText issued.certificate))
    (hothers : ∀ q, q ≠ place.certificate → t.fileAt? q = before.fileAt? q) :
    WritesPair issued place before (writePart t hindered "key" place.keyPath issued.key) := by
  have hne : place.certificate ≠ place.key := place.certificate_ne_key place
  obtain ⟨q, hresolve, hfile⟩ := read_eq_ok_iff.mp hcertificate
  have hplace : t.fileAt? place.certificate = some (Utf8.encodeText issued.certificate) := by
    rw [PairPlace.certificate, resolve_eq_partsOf hresolve]
    exact hfile
  have hend := write_stores t hindered place.keyPath (Utf8.encodeText issued.key)
  rw [writePart_eq]
  generalize t.write hindered place.keyPath (Utf8.encodeText issued.key) = r at hend
  cases hend with
  | refused f => exact .partly _ _ (.noKey f hplace hothers)
  | cut stored f hfile hhindered hcut =>
    refine .partly _ _ (.key f stored hcut ?_ (fileAt?_put_self _ hfile) fun q hcrt hkey => ?_)
    · exact (fileAt?_put_of_ne _ hne).trans hplace
    · exact (fileAt?_put_of_ne _ hkey).trans (hothers q hcrt)
  | whole hresolve hfile =>
    refine .whole _ ?_ (read_put hresolve hfile _) fun q hcrt hkey => ?_
    · exact read_kept (put_keeps _ hfile) (fileAt?_put_of_ne _ hne) hcertificate
    · exact (fileAt?_put_of_ne _ hkey).trans (hothers q hcrt)

/-- The directory is made first, then the certificate is written, then the key. -/
inductive Steps (before : FileTree) (hindered : Hindrances) :
    FileTree × Except GatewayError Unit → Prop
  | directory (after : FileTree) (fault : FileFault)
      (hmake : before.makeDirectories hindered place.directory = (after, .error fault)) :
      Steps before hindered (after, .error (cannotMake place.directory fault))
  | certificate (made after : FileTree) (fault : FileFault)
      (hmake : before.makeDirectories hindered place.directory = (made, .ok ()))
      (hcertificate : Stores made hindered place.certificatePath
        (Utf8.encodeText issued.certificate) (after, .error fault)) :
      Steps before hindered (after, .error (cannotWrite "cert" fault))
  | key (made written : FileTree)
      (hmake : before.makeDirectories hindered place.directory = (made, .ok ()))
      (hcertificate : Stores made hindered place.certificatePath
        (Utf8.encodeText issued.certificate) (written, .ok ())) :
      Steps before hindered (writePart written hindered "key" place.keyPath issued.key)

theorem writeTo_steps (files : FileTree) (hindered : Hindrances) :
    Steps issued place files hindered
      (issued.writeTo files place.directory place.stem hindered) := by
  unfold writeTo
  cases hmake : files.makeDirectories hindered place.directory with
  | mk made result =>
    cases result with
    | error f => exact .directory _ f hmake
    | ok =>
      have hend := write_stores made hindered place.certificatePath
        (Utf8.encodeText issued.certificate)
      dsimp only
      rw [← PairPlace.certificatePath, ← PairPlace.keyPath, writePart_eq]
      cases hwrite : made.write hindered place.certificatePath
        (Utf8.encodeText issued.certificate) with
      | mk after result =>
        rw [hwrite] at hend
        cases result with
        | error f => exact .certificate made after f hmake hend
        | ok => exact .key made after hmake hend

theorem writeTo_ends (files : FileTree) (hindered : Hindrances) :
    WritesPair issued place files (issued.writeTo files place.directory place.stem hindered) := by
  -- The tree with the directory has the files of the tree before, so all ends compare with that.
  obtain ⟨hfiles, -⟩ := makeDirectories_files files hindered place.directory
  have hsteps := writeTo_steps issued place files hindered
  generalize issued.writeTo files place.directory place.stem hindered = r at hsteps
  cases hsteps with
  | directory after f hmake =>
    rw [hmake] at hfiles
    exact .noDirectory _ f hfiles
  | certificate made after f hmake hcertificate =>
    rw [hmake] at hfiles
    cases hcertificate with
    | refused => exact .noCertificate _ f hfiles
    | cut stored _ hfile hhindered hcut =>
      refine .partly _ _ (.certificate f stored hcut (fileAt?_put_self _ hfile) fun q hq => ?_)
      exact (fileAt?_put_of_ne _ hq).trans (hfiles q)
  | key made written hmake hcertificate =>
    rw [hmake] at hfiles
    cases hcertificate with
    | whole hresolve hfile =>
      exact writeKey_ends issued place (read_put hresolve hfile _) fun q hq =>
        (fileAt?_put_of_ne _ hq).trans (hfiles q)

/-- Whatever the end, no third file is touched. -/
theorem WritesPair.others {issued : Issued} {place : PairPlace} {before : FileTree}
    {r : FileTree × Except GatewayError Unit} (h : WritesPair issued place before r)
    {q : FilePath} (hcrt : q ≠ place.certificate) (hkey : q ≠ place.key) :
    r.1.fileAt? q = before.fileAt? q := by
  cases h with
  | noDirectory after f hsame => exact hsame q
  | noCertificate after f hsame => exact hsame q
  | partly after e hpartly =>
    cases hpartly with
    | certificate f stored hcut hcertificate hothers => exact hothers q hcrt
    | noKey f hcertificate hothers => exact hothers q hcrt
    | key f stored hcut hcertificate hkeyPart hothers => exact hothers q hcrt hkey
  | whole after hcertificate hkeyWhole hothers => exact hothers q hcrt hkey

/-- Where nothing is in the way of either file and no directory is where the key is to be, a fault
comes before anything is stored. -/
theorem untouched_of_unhindered {files : FileTree} {hindered : Hindrances} {e : GatewayError}
    (hcrt : hindered place.certificate = none) (hkey : hindered place.key = none)
    (hplace : (files.makeDirectories hindered place.directory).1.at? place.key ≠ some .directory)
    (h : (issued.writeTo files place.directory place.stem hindered).2 = .error e) :
    KeepsFiles files (issued.writeTo files place.directory place.stem hindered).1 := by
  obtain ⟨hfiles, -⟩ := makeDirectories_files files hindered place.directory
  have hsteps := writeTo_steps issued place files hindered
  generalize issued.writeTo files place.directory place.stem hindered = r at hsteps h
  cases hsteps with
  | directory after f hmake =>
    rw [hmake] at hfiles
    exact hfiles
  | certificate made after f hmake hcertificate =>
    rw [hmake] at hfiles
    cases hcertificate with
    | refused => exact hfiles
    | cut stored _ hfile hhindered hcut =>
      rw [PairPlace.certificate, hhindered] at hcrt
      cases hcrt
  | key made written hmake hcertificate =>
    -- The certificate was written, so the path of the key leads to a place as well.
    rw [hmake] at hplace
    obtain ⟨base, hcrtPath, hkeyPath⟩ := place.exists_path
    have hkeeps := hcertificate.keeps
    cases hcertificate with
    | whole hresolve hfile =>
      have hresolve' : made.resolve place.keyPath = .ok place.key := by
        rw [hcrtPath] at hresolve
        rw [PairPlace.key, hkeyPath]
        exact resolve_extension PairPlace.isExtension_crt PairPlace.isExtension_key hresolve
      have hne := place.certificate_ne_key place
      have hentry := fun hdirectory =>
        hplace ((at?_put_of_ne (.file (Utf8.encodeText issued.certificate)) hne.symm).symm.trans
          hdirectory)
      rw [writePart_eq, write_unhindered (resolve_kept hkeeps hresolve') hentry hkey] at h
      cases h

end Ends

end Issued
end DeviceGateway
