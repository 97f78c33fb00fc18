import DeviceGateway.Files

/-!
# Places of files

Where a path leads that ends in an extension: into a directory that does not depend on the
extension, under a name that ends in it. A name without a slash that is joined to a directory is put
below that directory.
-/

namespace DeviceGateway

namespace Text

/-! ### Splitting what was put together -/

theorem splitOn_of_not_mem {separator : Char} {cs : List Char} (h : separator ∉ cs) :
    splitOn separator cs = [cs] := by
  induction cs with
  | nil => rfl
  | cons c cs ih =>
    simp only [List.mem_cons, not_or] at h
    simp only [splitOn, if_neg (Ne.symm h.1), ih h.2]

/-- What follows the last separator takes what is appended. -/
theorem exists_last_part (separator : Char) (cs : List Char) :
    ∃ before last, ∀ ds, separator ∉ ds →
      splitOn separator (cs ++ ds) = before ++ [last ++ ds] := by
  induction cs with
  | nil => exact ⟨[], [], fun ds hds => splitOn_of_not_mem hds⟩
  | cons c cs ih =>
    obtain ⟨before, last, hlast⟩ := ih
    by_cases h : c = separator
    · refine ⟨[] :: before, last, fun ds hds => ?_⟩
      simp only [List.cons_append, splitOn, if_pos h, hlast ds hds]
    · cases before with
      | nil =>
        refine ⟨[], c :: last, fun ds hds => ?_⟩
        simp only [List.cons_append, splitOn, if_neg h, hlast ds hds, List.nil_append]
      | cons part parts =>
        refine ⟨(c :: part) :: parts, last, fun ds hds => ?_⟩
        simp only [List.cons_append, splitOn, if_neg h, hlast ds hds]

end Text

namespace FileTree

/-! ### Names -/

theorem enter_name (place : FilePath) {name : List Char} (h : 2 < name.length) :
    enter place name = place ++ [String.ofList name] := by
  have hnil : name ≠ [] := fun hname => by simp [hname] at h
  have hdot : name ≠ ['.'] := fun hname => by simp [hname] at h
  have hdots : name ≠ ['.', '.'] := fun hname => by simp [hname] at h
  simp only [enter, hnil, hdot, hdots, or_self, if_false]

theorem startOf_append {base rest : String} (h : rest.toList.head? ≠ some '/') :
    startOf (base ++ rest) = startOf base := by
  simp only [startOf, String.toList_append, List.head?_append]
  cases hbase : base.toList with
  | nil => simp [h]
  | cons c cs => simp

/-- A name in a directory: longer than the dots that stand for directories. -/
structure IsName (name : String) : Prop where
  no_slash : '/' ∉ name.toList
  long : 2 < name.toList.length

theorem IsName.head?_ne {name : String} (h : IsName name) : name.toList.head? ≠ some '/' :=
  fun hhead => h.no_slash (List.mem_of_head? hhead)

/-- What can end the name of a file. -/
structure IsExtension (extension : String) : Prop extends IsName extension where
  no_null : '\x00' ∉ extension.toList

/-- Extensions change the name of a file and not its directory. -/
theorem exists_base (base : String) :
    ∃ (before : List (List Char)) (stem : String), ∀ extension, IsExtension extension →
      Text.splitOn '/' (base ++ extension).toList = before ++ [(stem ++ extension).toList] ∧
      partsOf (base ++ extension) = before.foldl enter (startOf base) ++ [stem ++ extension] := by
  obtain ⟨before, last, hlast⟩ := Text.exists_last_part '/' base.toList
  refine ⟨before, String.ofList last, fun extension h => ?_⟩
  have hsplit : Text.splitOn '/' (base ++ extension).toList =
      before ++ [(String.ofList last ++ extension).toList] := by
    rw [String.toList_append, hlast _ h.no_slash, String.toList_append, String.toList_ofList]
  have hlong : 2 < (String.ofList last ++ extension).toList.length := by
    have hextension := h.long
    rw [String.toList_append, List.length_append]
    omega
  refine ⟨hsplit, ?_⟩
  rw [partsOf, hsplit, startOf_append h.head?_ne, List.foldl_append, List.foldl_cons, List.foldl_nil,
    enter_name _ hlong, String.ofList_toList]

/-- The extension of a stem is the extension of its path. -/
theorem exists_join (directory stem : String) :
    ∃ base, ∀ extension, IsExtension extension →
      join directory (stem ++ extension) = base ++ extension := by
  have hhead : ∀ extension, IsExtension extension →
      ((stem ++ extension).toList.head? = some '/' ↔ stem.toList.head? = some '/') := by
    intro extension h
    rw [String.toList_append, List.head?_append]
    cases hstem : stem.toList with
    | nil => simp [h.head?_ne]
    | cons c cs => simp
  by_cases hstem : stem.toList.head? = some '/'
  · refine ⟨stem, fun extension h => ?_⟩
    simp only [join, if_pos ((hhead extension h).mpr hstem)]
  · have hnot : ∀ extension, IsExtension extension →
        (stem ++ extension).toList.head? ≠ some '/' := fun extension h =>
      fun h' => hstem ((hhead extension h).mp h')
    by_cases hempty : directory.isEmpty = true
    · refine ⟨stem, fun extension h => ?_⟩
      simp only [join, if_neg (hnot extension h), if_pos hempty]
    · by_cases hslash : directory.toList.getLast? = some '/'
      · refine ⟨directory ++ stem, fun extension h => ?_⟩
        simp only [join, if_neg (hnot extension h), if_neg hempty, if_pos hslash,
          String.append_assoc]
      · refine ⟨directory ++ "/" ++ stem, fun extension h => ?_⟩
        simp only [join, if_neg (hnot extension h), if_neg hempty, if_neg hslash,
          String.append_assoc]

end FileTree
end DeviceGateway
