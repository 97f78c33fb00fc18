import DeviceGateway.Material.Load
import DeviceGateway.Proofs.Material.Body
import DeviceGateway.Proofs.Results

/-!
# Sections in a file

A section stands between the lines of its markers, and text may stand between sections. The reading
of such a file takes its sections one by one: what precedes a section counts for nothing, and what
follows it is read as if it stood alone.
-/

namespace DeviceGateway

namespace Pem

/-! ### Lines -/

/-- A text of whole lines. -/
def IsWhole (text : Bytes) : Prop := ∀ b ∈ text.getLast?, isBreak b = true

instance (text : Bytes) : Decidable (IsWhole text) :=
  inferInstanceAs (Decidable (∀ b ∈ text.getLast?, isBreak b = true))

theorem flatten_lines (text : Bytes) : (lines text).flatten = text := by
  fun_induction lines text with
  | case1 => rfl
  | case2 b rest hb ih => simp [ih]
  | case3 b rest hb hnil ih =>
    rw [hnil] at ih
    simp [← ih]
  | case4 b rest hb line more hlines ih =>
    rw [hlines] at ih
    simp [← ih]

theorem IsWhole.of_cons {b : UInt8} {text : Bytes} (h : IsWhole (b :: text)) : IsWhole text := by
  cases text with
  | nil => simp [IsWhole]
  | cons c text => simpa [IsWhole] using h

theorem isWhole_singleton {b : UInt8} (hb : isBreak b = true) : IsWhole [b] := by
  simpa [IsWhole] using hb

theorem IsWhole.append {text rest : Bytes} (h : IsWhole text) (hrest : IsWhole rest) :
    IsWhole (text ++ rest) := by
  cases rest with
  | nil => simpa using h
  | cons b rest => simpa [IsWhole, List.getLast?_append] using hrest

theorem lines_append {text : Bytes} (h : IsWhole text) (rest : Bytes) :
    lines (text ++ rest) = lines text ++ lines rest := by
  fun_induction lines text with
  | case1 => rfl
  | case2 b text hb ih => simp [lines, hb, ih h.of_cons]
  | case3 b text hb hnil ih =>
    -- nothing ends the line of `b`
    have htext : text = [] := by
      rw [← flatten_lines text, hnil]
      rfl
    subst htext
    exact absurd (h b rfl) hb
  | case4 b text hb line more hlines ih =>
    have hsplit := ih h.of_cons
    rw [hlines] at hsplit
    simp [lines, hb, hsplit]

/-- A line without breaks and its end, apart from what follows. -/
theorem lines_append_line {line : Bytes} (h : ∀ b ∈ line, isBreak b = false) {b : UInt8}
    (hb : isBreak b = true) (rest : Bytes) :
    lines (line ++ b :: rest) = (line ++ [b]) :: lines rest := by
  induction line with
  | nil => simp [lines, hb]
  | cons c line ih =>
    have hc := h c (List.mem_cons_self ..)
    have hline := ih fun d hd => h d (List.mem_cons_of_mem c hd)
    simp only [List.cons_append, lines, hc, Bool.false_eq_true, if_false, hline]

theorem lines_unbroken {line : Bytes} (h : ∀ b ∈ line, isBreak b = false) (hne : line ≠ []) :
    lines line = [line] := by
  induction line with
  | nil => exact absurd rfl hne
  | cons c line ih =>
    have hc := h c (List.mem_cons_self ..)
    cases line with
    | nil => simp [lines, hc]
    | cons d line =>
      have hline := ih (fun d hd => h d (List.mem_cons_of_mem c hd)) (List.cons_ne_nil d line)
      rw [lines, if_neg (by simp [hc]), hline]

/-! ### Markers -/

/-- A label that stands on one line and ends in neither a dash nor a space, which the trailer of a
marker would take. -/
structure IsLabel (label : Bytes) : Prop where
  unbroken : ∀ b ∈ label, isBreak b = false
  ending : ∀ b ∈ label.getLast?, b ≠ 0x2D ∧ b ≠ 0x20

theorem isLabel_iff (label : Bytes) : IsLabel label ↔ label.all (!isBreak ·) = true ∧
    label.getLast?.all (fun b => b != 0x2D && b != 0x20) = true := by
  simp only [List.all_eq_true, Bool.not_eq_true', Option.all_eq_true, Bool.and_eq_true, bne_iff_ne]
  exact ⟨fun h => ⟨h.unbroken, h.ending⟩, fun h => ⟨h.1, h.2⟩⟩

instance (label : Bytes) : Decidable (IsLabel label) :=
  decidable_of_iff' _ (isLabel_iff label)

theorem Kind.isLabel (kind : Kind) : IsLabel (Utf8.encodeText kind.label) := by
  cases kind <;> decide +kernel

/-- The marker of a label, without the end of its line. -/
def marker (mark label : Bytes) : Bytes := mark ++ label ++ dashes

theorem marker_unbroken {mark label : Bytes} (hmark : ∀ b ∈ mark, isBreak b = false)
    (h : IsLabel label) : ∀ b ∈ marker mark label, isBreak b = false := by
  have hdashes : ∀ b ∈ dashes, isBreak b = false := by decide +kernel
  intro b hb
  rcases List.mem_append.mp hb with hb | hb
  · rcases List.mem_append.mp hb with hb | hb
    · exact hmark b hb
    · exact h.unbroken b hb
  · exact hdashes b hb

theorem startOf_eq_none_iff {line : Bytes} : startOf line = .none ↔ ¬ startMark <+: line := by
  unfold startOf
  rw [List.prefix_iff_eq_take, eq_comm (a := startMark)]
  split
  · simp only
    split <;> simp_all
  · simp_all

theorem not_marker_of_not_mem {line : Bytes} (h : 0x2D ∉ line) (label : Bytes) :
    ¬ startMark <+: line ∧ ¬ marker endMark label <+: line := by
  have hstart : 0x2D ∈ startMark := by decide +kernel
  have hend : 0x2D ∈ marker endMark label := by
    have hdashes : 0x2D ∈ dashes := by decide +kernel
    exact List.mem_append_right _ hdashes
  exact ⟨fun hmark => h (hmark.subset hstart), fun hmark => h (hmark.subset hend)⟩

theorem dropTrailer_marker {b : UInt8} (hb : isBreak b = true) {front : Bytes}
    (hstop : dropTrailer 5 front = (5, front)) :
    dropTrailer 0 ([b] ++ (dashes.reverse ++ front)) = (5, front) := by
  have hdash : b ≠ 0x2D := by
    rintro rfl
    cases hb
  have hdashes : dropTrailer 0 (dashes.reverse ++ front) = dropTrailer 5 front := by
    have hreverse : dashes.reverse = [0x2D, 0x2D, 0x2D, 0x2D, 0x2D] := by decide +kernel
    rw [hreverse]
    rfl
  rw [List.singleton_append, dropTrailer, if_neg hdash, if_pos (.inl hb), hdashes, hstop]
  rfl

theorem IsLabel.dropTrailer_eq {label : Bytes} (h : IsLabel label) :
    dropTrailer 5 (label.reverse ++ startMark.reverse) =
      (5, label.reverse ++ startMark.reverse) := by
  rcases List.eq_nil_or_concat label with rfl | ⟨front, b, rfl⟩
  -- the space at the end of the mark is not taken, for no dash is left before it
  · decide +kernel
  · have hbreak := h.unbroken b (by simp)
    obtain ⟨hdash, hspace⟩ := h.ending b (by simp)
    simp [dropTrailer, hdash, hbreak, hspace]

theorem startOf_start {label : Bytes} (h : IsLabel label) {b : UInt8} (hb : isBreak b = true) :
    startOf (marker startMark label ++ [b]) = .label label := by
  have htake : (marker startMark label ++ [b]).take startMark.length = startMark := by
    rw [marker, List.append_assoc, List.append_assoc, List.take_left]
  have hreverse : (marker startMark label ++ [b]).reverse =
      [b] ++ (dashes.reverse ++ (label.reverse ++ startMark.reverse)) := by
    simp [marker]
  have hbefore : (label.reverse ++ startMark.reverse).reverse = startMark ++ label := by simp
  unfold startOf
  rw [if_pos htake, hreverse, dropTrailer_marker hb h.dropTrailer_eq]
  simp only [if_true, hbefore, List.drop_left]

theorem startOf_end (label rest : Bytes) : startOf (marker endMark label ++ rest) = .none := by
  have hstart : startMark = [0x2D, 0x2D, 0x2D, 0x2D, 0x2D, 0x42, 0x45, 0x47, 0x49, 0x4E, 0x20] := by
    decide +kernel
  have hend : endMark = [0x2D, 0x2D, 0x2D, 0x2D, 0x2D, 0x45, 0x4E, 0x44, 0x20] := by
    decide +kernel
  rw [startOf_eq_none_iff, marker, hstart, hend]
  simp [List.cons_prefix_cons]

theorem kindOf?_label (kind : Kind) : kindOf? (Utf8.encodeText kind.label) = some kind := by
  cases kind <;> decide +kernel

theorem kindOf?_eq_some_iff {label : Bytes} {kind : Kind} :
    kindOf? label = some kind ↔ label = Utf8.encodeText kind.label := by
  constructor
  · intro h
    have hfound := List.find?_some h
    exact (beq_iff_eq.mp hfound).symm
  · rintro rfl
    exact kindOf?_label kind

/-! ### Runs of lines -/

/-- A text in which no line starts a section. -/
def IsUnmarked (text : Bytes) : Prop := ∀ line ∈ lines text, ¬ startMark <+: line

instance (text : Bytes) : Decidable (IsUnmarked text) :=
  inferInstanceAs (Decidable (∀ line ∈ lines text, ¬ startMark <+: line))

theorem IsUnmarked.append {text rest : Bytes} (hwhole : IsWhole text) (h : IsUnmarked text)
    (hrest : IsUnmarked rest) : IsUnmarked (text ++ rest) := by
  unfold IsUnmarked
  rw [lines_append hwhole, List.forall_mem_append]
  exact ⟨h, hrest⟩

theorem readLines_outside {ls : List Bytes} (h : ∀ line ∈ ls, ¬ startMark <+: line)
    (rest : List Bytes) : readLines none [] (ls ++ rest) = readLines none [] rest := by
  induction ls with
  | nil => rfl
  | cons line ls ih =>
    have hline := startOf_eq_none_iff.mpr (h line (List.mem_cons_self ..))
    have hls := ih fun l hl => h l (List.mem_cons_of_mem line hl)
    rw [List.cons_append, readLines, hline]
    exact hls

theorem readLines_inside {label : Bytes} {ls : List Bytes}
    (h : ∀ line ∈ ls, ¬ startMark <+: line ∧ ¬ marker endMark label <+: line) (body : Bytes)
    (rest : List Bytes) :
    readLines (some label) body (ls ++ rest) =
      readLines (some label) (body ++ ls.flatten) rest := by
  induction ls generalizing body with
  | nil => simp
  | cons line ls ih =>
    obtain ⟨hstart, hend⟩ := h line (List.mem_cons_self ..)
    have hnot : isEnd label line = false := by
      rw [isEnd, ← Bool.not_eq_true, List.isPrefixOf_iff_prefix]
      exact hend
    have hls := ih (fun l hl => h l (List.mem_cons_of_mem line hl)) (body ++ line)
    rw [List.cons_append, readLines, startOf_eq_none_iff.mpr hstart]
    simp only [hnot, Bool.false_eq_true, if_false]
    rw [hls, List.flatten_cons, List.append_assoc]

/-- What a section with a label and a body comes to, with what follows it. -/
def conclude (label body : Bytes) (later : List Section × Option Fault) :
    List Section × Option Fault :=
  match kindOf? label with
  | none => later
  | some kind =>
    match decodeBody body with
    | .error f => ([], some (.body f))
    | .ok der => (⟨kind, der⟩ :: later.1, later.2)

theorem readLines_end (label body rest : Bytes) (ls : List Bytes) :
    readLines (some label) body ((marker endMark label ++ rest) :: ls) =
      conclude label body (readLines none [] ls) := by
  have hend : isEnd label (marker endMark label ++ rest) = true :=
    List.isPrefixOf_iff_prefix.mpr (List.prefix_append ..)
  rw [readLines, startOf_end]
  simp only [hend, if_true]
  rfl

/-! ### Sections and text -/

/-- A section as it stands in a file: whole lines, none of them a marker. -/
structure Enclosure where
  label : Bytes
  body : Bytes
  isLabel : IsLabel label
  isWhole : IsWhole body
  isInside : ∀ line ∈ lines body, ¬ startMark <+: line ∧ ¬ marker endMark label <+: line

/-- The lines of a section, the first of which ends in a break; the last one has no end yet. -/
def Enclosure.text (e : Enclosure) (lineBreak : UInt8) : Bytes :=
  marker startMark e.label ++ lineBreak :: (e.body ++ marker endMark e.label)

/-- A text that ends the line before it, if it is not empty. -/
def EndsLine (rest : Bytes) : Prop := ∀ b ∈ rest.head?, isBreak b = true

/-- The content of a file: sections in their order, each on lines of its own, and text between
them. -/
inductive IsFile : Bytes → List Enclosure → Prop where
  | text {text : Bytes} (hunmarked : IsUnmarked text) : IsFile text []
  | enclosed {text rest : Bytes} {lineBreak : UInt8} {es : List Enclosure} (e : Enclosure)
      (hwhole : IsWhole text) (hunmarked : IsUnmarked text) (hbreak : isBreak lineBreak = true)
      (hends : EndsLine rest) (hrest : IsFile rest es) :
      IsFile (text ++ (e.text lineBreak ++ rest)) (e :: es)

theorem read_unmarked {text : Bytes} (h : IsUnmarked text) : read text = ([], none) := by
  have hlines := readLines_outside h []
  rw [List.append_nil] at hlines
  exact hlines

theorem read_append {text : Bytes} (hwhole : IsWhole text) (h : IsUnmarked text) (rest : Bytes) :
    read (text ++ rest) = read rest := by
  unfold read
  rw [lines_append hwhole, readLines_outside h]

theorem isUnmarked_singleton {b : UInt8} (hb : isBreak b = true) : IsUnmarked [b] := by
  have hdash : 0x2D ∉ [b] := by
    rw [List.mem_singleton]
    rintro rfl
    cases hb
  simpa [IsUnmarked, lines, hb] using (not_marker_of_not_mem hdash []).1

theorem read_break {b : UInt8} (hb : isBreak b = true) (rest : Bytes) :
    read (b :: rest) = read rest :=
  read_append (isWhole_singleton hb) (isUnmarked_singleton hb) rest

/-- A section adds to what is read of the text that follows it. -/
theorem read_enclosure (e : Enclosure) {lineBreak : UInt8} (hbreak : isBreak lineBreak = true)
    {rest : Bytes} (hends : EndsLine rest) :
    read (e.text lineBreak ++ rest) = conclude e.label e.body (read rest) := by
  have hstart : ∀ b ∈ startMark, isBreak b = false := by decide +kernel
  have hend : ∀ b ∈ endMark, isBreak b = false := by decide +kernel
  have hunbroken := marker_unbroken hend e.isLabel
  have hlast : readLines (some e.label) e.body (lines (marker endMark e.label ++ rest)) =
      conclude e.label e.body (read rest) := by
    -- the last marker ends the file, or what follows it ends its line
    cases rest with
    | nil =>
      have hne : marker endMark e.label ≠ [] := by
        have hmark : endMark ≠ [] := by decide +kernel
        simp [marker, hmark]
      rw [List.append_nil, lines_unbroken hunbroken hne]
      have hclosed := readLines_end e.label e.body [] []
      rw [List.append_nil] at hclosed
      exact hclosed
    | cons b rest =>
      have hb := hends b rfl
      rw [lines_append_line hunbroken hb, readLines_end, read_break hb]
      rfl
  rw [read, Enclosure.text, List.append_assoc, List.cons_append, List.append_assoc,
    lines_append_line (marker_unbroken hstart e.isLabel) hbreak, readLines,
    startOf_start e.isLabel hbreak]
  simp only
  rw [lines_append e.isWhole, readLines_inside e.isInside, flatten_lines, List.nil_append, hlast]

/-- A file is read section by section. -/
theorem read_of_isFile {content : Bytes} {es : List Enclosure} (h : IsFile content es) :
    read content = es.foldr (fun e later => conclude e.label e.body later) ([], none) := by
  induction h with
  | text hunmarked => exact read_unmarked hunmarked
  | enclosed e hwhole hunmarked hbreak hends hrest ih =>
    rw [read_append hwhole hunmarked, read_enclosure e hbreak hends, ih]
    rfl

/-! ### Sections that hold octets -/

/-- A section with octets in its body. -/
structure Entry where
  label : Bytes
  body : Bytes
  der : Bytes
  isLabel : IsLabel label
  isWhole : IsWhole body
  laidOut : LaysOut body der

def Entry.enclosure (e : Entry) : Enclosure where
  label := e.label
  body := e.body
  isLabel := e.isLabel
  isWhole := e.isWhole
  isInside line hline := by
    apply not_marker_of_not_mem
    intro hdash
    apply e.laidOut.not_mem_dash
    rw [← flatten_lines e.body]
    exact List.mem_flatten_of_mem hline hdash

theorem isWhole_wrap (fuel : Nat) (cs : List Char) : IsWhole (Utf8.encode (wrap fuel cs)) := by
  induction fuel generalizing cs with
  | zero => simp [wrap, Utf8.encode, IsWhole]
  | succ fuel ih =>
    unfold wrap
    split
    · simp [Utf8.encode, IsWhole]
    · have hbreak : Utf8.encodeChar '\n' = [10] := by decide
      have hrest := ih (cs.drop 64)
      rw [Utf8.encode_append, Utf8.encode_cons, hbreak]
      cases hlater : Utf8.encode (wrap fuel (cs.drop 64)) with
      | nil => simp [IsWhole, isBreak]
      | cons b later =>
        rw [hlater] at hrest
        simpa [IsWhole, List.getLast?_append, List.getLast?_cons_cons] using hrest

/-- Octets under a label, in lines of 64 characters. -/
def Entry.ofOctets (label der : Bytes) (isLabel : IsLabel label) : Entry where
  label := label
  body := Utf8.encode (wrap (Base64.encode der).length (Base64.encode der))
  der := der
  isLabel := isLabel
  isWhole := isWhole_wrap _ _
  laidOut := laysOut_wrap der

/-- What a section comes to; a section of an unknown label comes to nothing. -/
def Entry.section? (e : Entry) : Option Section := (kindOf? e.label).map (Section.mk · e.der)

theorem conclude_entry (e : Entry) (later : List Section × Option Fault) :
    conclude e.enclosure.label e.enclosure.body later =
      (e.section?.toList ++ later.1, later.2) := by
  have hbody : decodeBody e.enclosure.body = .ok e.der := decodeBody_of_laysOut e.laidOut
  have hlabel : e.enclosure.label = e.label := rfl
  rw [conclude, hlabel, hbody, Entry.section?]
  cases kindOf? e.label <;> rfl

/-- A file of such sections is read without a fault. -/
theorem read_of_entries {content : Bytes} {entries : List Entry}
    (h : IsFile content (entries.map Entry.enclosure)) :
    read content = (entries.filterMap Entry.section?, none) := by
  rw [read_of_isFile h]
  clear h
  induction entries with
  | nil => rfl
  | cons e entries ih =>
    rw [List.map_cons, List.foldr_cons, ih, conclude_entry, List.filterMap_cons]
    cases e.section? <;> rfl

/-! ### Sections that were written -/

def Section.entry (s : Section) : Entry :=
  .ofOctets (Utf8.encodeText s.kind.label) s.der s.kind.isLabel

theorem Section.section?_entry (s : Section) : s.entry.section? = some s := by
  have hkind : kindOf? s.entry.label = some s.kind := kindOf?_label s.kind
  rw [Entry.section?, hkind]
  rfl

theorem encodeText_section (s : Section) :
    Utf8.encodeText s.text = s.entry.enclosure.text 10 ++ [10] := by
  have hdashes : Utf8.encodeText "-----\n" = dashes ++ [10] := by decide +kernel
  -- with names for the pieces no literal is compared with a concatenation
  have hpieces : ∀ a b c e f g : String, ∀ body : List Char,
      Utf8.encodeText (a ++ b ++ c ++ String.ofList body ++ e ++ f ++ g) =
        Utf8.encodeText a ++ (Utf8.encodeText b ++ (Utf8.encodeText c ++ (Utf8.encode body ++
          (Utf8.encodeText e ++ (Utf8.encodeText f ++ Utf8.encodeText g))))) := by
    intro a b c e f g body
    simp only [Utf8.encodeText_append, Utf8.encodeText_ofList, List.append_assoc]
  refine (hpieces _ _ _ _ _ _ _).trans ?_
  rw [hdashes]
  simp only [Enclosure.text, marker, List.append_assoc, List.cons_append, List.nil_append]
  rfl

/-- A section that was written is read, and what follows it is read as if it stood alone. -/
theorem read_text_append (s : Section) (rest : Bytes) :
    read (Utf8.encodeText s.text ++ rest) = (s :: (read rest).1, (read rest).2) := by
  have hbreak : isBreak 10 = true := rfl
  have hends : EndsLine (10 :: rest) := by simp [EndsLine, hbreak]
  rw [encodeText_section, List.append_assoc, List.singleton_append,
    read_enclosure s.entry.enclosure hbreak hends, read_break hbreak, conclude_entry,
    Section.section?_entry]
  rfl

theorem read_text (s : Section) : read (Utf8.encodeText s.text) = ([s], none) := by
  have h := read_text_append s []
  rw [List.append_nil] at h
  exact h

theorem readKind_eq_ok_iff {kind : Kind} {content : Bytes} {ders : List Bytes} :
    readKind kind content = .ok ders ↔ ∃ sections, read content = (sections, none) ∧
      ders = (sections.filter (·.kind == kind)).map (·.der) := by
  unfold readKind
  cases read content with
  | mk sections fault => cases fault <;> simp [eq_comm]

end Pem

/-! ### Material that was written -/

namespace Material

variable {files : FileTree} {path : String} {der : Bytes}

theorem parseCertificates_text (der : Bytes) :
    parseCertificates (Utf8.encodeText (Pem.Section.mk .certificate der).text) = .ok [der] := by
  simp only [parseCertificates, Pem.readKind, Pem.read_text]
  rfl

theorem loadCertificates_of_text
    (h : files.read path = .ok (Utf8.encodeText (Pem.Section.mk .certificate der).text)) :
    loadCertificates files path = .ok [der] := by
  simp only [loadCertificates, readFile, h, mapError_ok, Bind.bind, Except.bind,
    parseCertificates_text]

theorem parsePrivateKey_text (form : KeyForm) (der : Bytes) :
    parsePrivateKey (Utf8.encodeText (Pem.Section.mk form.kind der).text) = .ok ⟨form, der⟩ := by
  simp only [parsePrivateKey, Pem.readPrivateKey, Pem.read_text]
  cases form <;> rfl

theorem loadPrivateKey_of_text {form : KeyForm}
    (h : files.read path = .ok (Utf8.encodeText (Pem.Section.mk form.kind der).text)) :
    loadPrivateKey files path = .ok ⟨form, der⟩ := by
  simp only [loadPrivateKey, readFile, h, mapError_ok, Bind.bind, Except.bind,
    parsePrivateKey_text]

end Material
end DeviceGateway
