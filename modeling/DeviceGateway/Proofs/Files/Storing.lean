import DeviceGateway.Proofs.Files.Places

/-!
# What writing changes

Writing a file changes the file at one place and no directory, whatever keeps it from being complete;
making directories changes no file. So a path that leads somewhere keeps leading there.
-/

namespace DeviceGateway
namespace FileTree

/-! ### Files by place -/

def fileAt? (t : FileTree) (place : FilePath) : Option Bytes :=
  match t.at? place with
  | some (.file content) => some content
  | _ => none

def KeepsDirectories (before after : FileTree) : Prop :=
  ∀ place, before.at? place = some .directory → after.at? place = some .directory

/-- All files are as before, and no other files are there. -/
def KeepsFiles (before after : FileTree) : Prop :=
  ∀ place, after.fileAt? place = before.fileAt? place

theorem KeepsDirectories.refl (t : FileTree) : KeepsDirectories t t := fun _ h => h

theorem KeepsDirectories.trans {t u v : FileTree} (htu : KeepsDirectories t u)
    (huv : KeepsDirectories u v) : KeepsDirectories t v := fun place h =>
  huv place (htu place h)

theorem lookup_filter_ne {entries : List (FilePath × FileEntry)} {place other : FilePath}
    (h : other ≠ place) : (entries.filter (·.1 != place)).lookup other = entries.lookup other := by
  induction entries with
  | nil => rfl
  | cons e rest ih =>
    obtain ⟨key, entry⟩ := e
    by_cases hkey : key = place
    · have hbeq : (other == key) = false := beq_eq_false_iff_ne.mpr (hkey ▸ h)
      simp [hkey, List.lookup_cons, hkey ▸ hbeq, ih]
    · by_cases hother : other = key
      · simp [hkey, hother]
      · have hbeq : (other == key) = false := beq_eq_false_iff_ne.mpr hother
        simp [hkey, List.lookup_cons, hbeq, ih]

theorem at?_put_of_ne {t : FileTree} {place other : FilePath} (e : FileEntry)
    (h : other ≠ place) : (t.put place e).at? other = t.at? other := by
  have hbeq : (other == place) = false := beq_eq_false_iff_ne.mpr h
  simp only [at?, put, List.lookup_cons, hbeq, lookup_filter_ne h]

theorem isAlwaysThere_eq_false {t : FileTree} {place : FilePath}
    (h : t.at? place ≠ some .directory) : isAlwaysThere place = false := by
  cases hthere : isAlwaysThere place with
  | false => rfl
  | true =>
    rw [at?, if_pos hthere] at h
    exact absurd rfl h

theorem at?_put_self {t : FileTree} {place : FilePath} (e : FileEntry)
    (h : t.at? place ≠ some .directory) : (t.put place e).at? place = some e := by
  simp only [at?, isAlwaysThere_eq_false h, Bool.false_eq_true, if_false, put,
    List.lookup_cons_self]

theorem put_keeps {t : FileTree} {place : FilePath} (e : FileEntry)
    (h : t.at? place ≠ some .directory) : KeepsDirectories t (t.put place e) := by
  intro other hother
  have hne : other ≠ place := fun heq => h (heq ▸ hother)
  rw [at?_put_of_ne e hne]
  exact hother

theorem fileAt?_put_of_ne {t : FileTree} {place other : FilePath} (e : FileEntry)
    (h : other ≠ place) : (t.put place e).fileAt? other = t.fileAt? other := by
  rw [fileAt?, at?_put_of_ne e h, fileAt?]

theorem fileAt?_put_self {t : FileTree} {place : FilePath} (content : Bytes)
    (h : t.at? place ≠ some .directory) :
    (t.put place (.file content)).fileAt? place = some content := by
  rw [fileAt?, at?_put_self _ h]

/-- A new directory is no file, and where it is made there was none. -/
theorem fileAt?_put_directory {t : FileTree} {place : FilePath} (h : t.at? place = none)
    (other : FilePath) : (t.put place .directory).fileAt? other = t.fileAt? other := by
  by_cases hother : other = place
  · have hne : t.at? place ≠ some .directory := by
      rw [h]
      exact fun h' => by cases h'
    rw [hother, fileAt?, at?_put_self _ hne, fileAt?, h]
  · exact fileAt?_put_of_ne _ hother

/-! ### Paths that lead somewhere -/

theorem follow_eq_foldl {t : FileTree} {place q : FilePath} {parts : List (List Char)}
    (h : t.follow place parts = .ok q) : parts.foldl enter place = q := by
  induction parts generalizing place with
  | nil =>
    cases h
    rfl
  | cons part rest ih =>
    simp only [follow] at h
    split at h
    · exact ih h
    · cases h
    · cases h

theorem follow_kept {t u : FileTree} (hkeeps : KeepsDirectories t u) {place q : FilePath}
    {parts : List (List Char)} (h : t.follow place parts = .ok q) :
    u.follow place parts = .ok q := by
  induction parts generalizing place with
  | nil => exact h
  | cons part rest ih =>
    simp only [follow] at h ⊢
    split at h
    · next hplace =>
      rw [hkeeps place hplace]
      exact ih h
    · cases h
    · cases h

/-- The last part does not count for whether a path leads somewhere. -/
theorem follow_last {t : FileTree} {place : FilePath} {parts : List (List Char)}
    {last last' : List Char} {q : FilePath} (h : t.follow place (parts ++ [last]) = .ok q) :
    t.follow place (parts ++ [last']) = .ok (enter (parts.foldl enter place) last') := by
  induction parts generalizing place with
  | nil =>
    simp only [List.nil_append, follow] at h ⊢
    split at h
    · rfl
    · cases h
    · cases h
  | cons part rest ih =>
    simp only [List.cons_append, follow] at h ⊢
    split at h
    · exact ih h
    · cases h
    · cases h

/-- A text that can be a path. -/
def IsPathText (path : String) : Prop := '\x00' ∉ path.toList ∧ path.isEmpty = false

theorem resolve_eq_ok_iff {t : FileTree} {path : String} {q : FilePath} :
    t.resolve path = .ok q ↔ IsPathText path ∧
      t.follow (startOf path) (Text.splitOn '/' path.toList) = .ok q := by
  unfold resolve IsPathText
  by_cases hnull : '\x00' ∈ path.toList
  · simp [hnull]
  · cases hempty : path.isEmpty <;> simp [hnull]

theorem resolve_eq_partsOf {t : FileTree} {path : String} {q : FilePath}
    (h : t.resolve path = .ok q) : partsOf path = q :=
  follow_eq_foldl (resolve_eq_ok_iff.mp h).2

theorem resolve_kept {t u : FileTree} (hkeeps : KeepsDirectories t u) {path : String}
    {q : FilePath} (h : t.resolve path = .ok q) : u.resolve path = .ok q := by
  obtain ⟨hpath, hfollow⟩ := resolve_eq_ok_iff.mp h
  exact resolve_eq_ok_iff.mpr ⟨hpath, follow_kept hkeeps hfollow⟩

/-- A path leads somewhere with every extension or with none. -/
theorem resolve_extension {t : FileTree} {base extension other : String} {q : FilePath}
    (hextension : IsExtension extension) (hother : IsExtension other)
    (h : t.resolve (base ++ extension) = .ok q) :
    t.resolve (base ++ other) = .ok (partsOf (base ++ other)) := by
  obtain ⟨⟨hnull, -⟩, hfollow⟩ := resolve_eq_ok_iff.mp h
  obtain ⟨before, stem, hbase⟩ := exists_base base
  obtain ⟨hsplit, -⟩ := hbase extension hextension
  obtain ⟨hsplit', hparts⟩ := hbase other hother
  have hnull' : '\x00' ∉ (base ++ other).toList := by
    rw [String.toList_append, List.mem_append, not_or] at hnull ⊢
    exact ⟨hnull.1, hother.no_null⟩
  have hnonempty : (base ++ other).isEmpty = false := by
    cases hempty : (base ++ other).isEmpty with
    | false => rfl
    | true =>
      have hlong := hother.long
      have hnil := congrArg String.toList (String.isEmpty_iff.mp hempty)
      rw [String.toList_append] at hnil
      rw [(List.append_eq_nil_iff.mp hnil).2] at hlong
      cases hlong
  have hlong : 2 < (stem ++ other).toList.length := by
    have hlong := hother.long
    rw [String.toList_append, List.length_append]
    omega
  refine resolve_eq_ok_iff.mpr ⟨⟨hnull', hnonempty⟩, ?_⟩
  rw [hsplit, startOf_append hextension.head?_ne] at hfollow
  rw [hsplit', startOf_append hother.head?_ne, follow_last hfollow, hparts, enter_name _ hlong,
    String.ofList_toList]

theorem read_eq_ok_iff {t : FileTree} {path : String} {content : Bytes} :
    t.read path = .ok content ↔
      ∃ q, t.resolve path = .ok q ∧ t.fileAt? q = some content := by
  unfold read find fileAt?
  cases hresolve : t.resolve path with
  | error f => simp
  | ok q =>
    cases hentry : t.at? q with
    | none => simp [hentry]
    | some e => cases e <;> simp [hentry]

/-- A file that is left alone reads as before. -/
theorem read_kept {t u : FileTree} (hkeeps : KeepsDirectories t u) {path : String}
    {content : Bytes} (hsame : u.fileAt? (partsOf path) = t.fileAt? (partsOf path))
    (h : t.read path = .ok content) : u.read path = .ok content := by
  obtain ⟨q, hresolve, hfile⟩ := read_eq_ok_iff.mp h
  rw [resolve_eq_partsOf hresolve] at hsame
  exact read_eq_ok_iff.mpr ⟨q, resolve_kept hkeeps hresolve, hsame.trans hfile⟩

/-! ### Writing -/

/-- How an attempt to write a file can end. -/
inductive Stores (t : FileTree) (hindered : Hindrances) (path : String) (content : Bytes) :
    FileTree × Except FileFault Unit → Prop
  | refused (fault : FileFault) : Stores t hindered path content (t, .error fault)
  | cut (stored : Nat) (fault : FileFault) (hfile : t.at? (partsOf path) ≠ some .directory)
      (hhindered : hindered (partsOf path) = some (.cut stored fault))
      (hcut : stored < content.length) :
      Stores t hindered path content
        (t.put (partsOf path) (.file (content.take stored)), .error fault)
  | whole (hresolve : t.resolve path = .ok (partsOf path))
      (hfile : t.at? (partsOf path) ≠ some .directory) :
      Stores t hindered path content (t.put (partsOf path) (.file content), .ok ())

theorem write_stores (t : FileTree) (hindered : Hindrances) (path : String) (content : Bytes) :
    Stores t hindered path content (t.write hindered path content) := by
  unfold write
  cases hresolve : t.resolve path with
  | error f => exact .refused f
  | ok q =>
    obtain rfl := resolve_eq_partsOf hresolve
    have hstore : t.at? (partsOf path) ≠ some .directory →
        Stores t hindered path content
          (t.store (partsOf path) content (hindered (partsOf path))) := by
      intro hfile
      unfold store
      cases hhindered : hindered (partsOf path) with
      | none => exact .whole hresolve hfile
      | some h =>
        cases h with
        | refused f => exact .refused f
        | cut stored f =>
          dsimp only
          split
          · exact .whole hresolve hfile
          · next hcut => exact .cut stored f hfile hhindered (Nat.lt_of_not_le hcut)
    dsimp only
    split
    · exact .refused _
    · next hentry => exact hstore hentry

theorem Stores.keeps {t : FileTree} {hindered : Hindrances} {path : String} {content : Bytes}
    {r : FileTree × Except FileFault Unit} (h : Stores t hindered path content r) :
    KeepsDirectories t r.1 := by
  cases h with
  | refused f => exact .refl t
  | cut stored f hfile hhindered hcut => exact put_keeps _ hfile
  | whole hresolve hfile => exact put_keeps _ hfile

theorem read_put {t : FileTree} {path : String} (hresolve : t.resolve path = .ok (partsOf path))
    (hfile : t.at? (partsOf path) ≠ some .directory) (content : Bytes) :
    (t.put (partsOf path) (.file content)).read path = .ok content :=
  read_eq_ok_iff.mpr ⟨partsOf path, resolve_kept (put_keeps _ hfile) hresolve,
    fileAt?_put_self content hfile⟩

/-- Where nothing is in the way, a path that leads to no directory is written. -/
theorem write_unhindered {t : FileTree} {hindered : Hindrances} {path : String} {q : FilePath}
    (hresolve : t.resolve path = .ok q) (hfile : t.at? q ≠ some .directory)
    (hfree : hindered q = none) (content : Bytes) :
    t.write hindered path content = (t.put q (.file content), .ok ()) := by
  unfold write
  rw [hresolve]
  dsimp only
  split
  · next hentry => exact absurd hentry hfile
  · rw [hfree]
    rfl

/-! ### Making directories -/

/-- Making directories makes no file and takes none away. -/
theorem makeAlong_files (t : FileTree) (hindered : Hindrances) (place : FilePath)
    (parts : List (List Char)) :
    KeepsFiles t (t.makeAlong hindered place parts).1 ∧
      KeepsDirectories t (t.makeAlong hindered place parts).1 := by
  induction parts generalizing t place with
  | nil => exact ⟨fun _ => rfl, .refl t⟩
  | cons part rest ih =>
    simp only [makeAlong]
    cases hnext : t.at? (enter place part) with
    | none =>
      cases hindered (enter place part) with
      | some h => exact ⟨fun _ => rfl, .refl t⟩
      | none =>
        obtain ⟨hfiles, hkeeps⟩ := ih (t.put (enter place part) .directory) (enter place part)
        have hput : KeepsDirectories t (t.put (enter place part) .directory) :=
          put_keeps _ (by rw [hnext]; exact fun h => by cases h)
        exact ⟨fun q => (hfiles q).trans (fileAt?_put_directory hnext q), hput.trans hkeeps⟩
    | some e =>
      cases e with
      | directory => exact ih t (enter place part)
      | file content => exact ⟨fun _ => rfl, .refl t⟩

theorem makeDirectories_files (t : FileTree) (hindered : Hindrances) (path : String) :
    KeepsFiles t (t.makeDirectories hindered path).1 ∧
      KeepsDirectories t (t.makeDirectories hindered path).1 := by
  unfold makeDirectories
  split
  · exact ⟨fun _ => rfl, .refl t⟩
  · exact t.makeAlong_files hindered _ _

end FileTree
end DeviceGateway
