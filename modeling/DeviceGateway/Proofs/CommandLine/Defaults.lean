import DeviceGateway.CommandLine.Basic
import DeviceGateway.Proofs.Certificate.Claimed
import DeviceGateway.Proofs.Results

/-!
# Options that are not given

An option that has no short form, no variable and no place among the operands can be given in one
way only, by an argument that begins with its long form. Where no argument does, every level ends
with the default that it has for the option, or with nothing.
-/

namespace DeviceGateway.CommandLine

/-- An option that can be given in its long form only. -/
def IsLongOnly (name : String) : Prop :=
  ∀ (l : Level), ∀ p ∈ l.parameters, p.name = name →
    p.letter = none ∧ p.isOperand = false ∧ p.variableName = none

/-- No argument begins with the long form of an option. -/
def LacksOption (name : String) (args : List Bytes) : Prop :=
  ∀ arg ∈ args, ¬ Utf8.encodeText ("--" ++ name) <+: arg

def Level.defaultFor? (l : Level) (name : String) : Option Value :=
  l.parameters.findSome? fun p => if p.name = name then p.default else none

namespace Reading

/-! ### Giving values to other parameters -/

theorem given?_add_of_ne {r : Reading} {name other : String} (h : other ≠ name)
    (source : ValueSource) (v : Value) : (r.add name source v).given? other = r.given? other := by
  have hbeq : (name == other) = false := beq_eq_false_iff_ne.mpr h.symm
  unfold add
  cases hgiven : r.given? name with
  | none => simp only [given?, List.find?_cons, hbeq]
  | some g =>
    have hname := List.find?_some hgiven
    simp only [beq_iff_eq] at hname
    have hpred : ∀ x : Given,
        decide ((x.name != name) = true ∧ (x.name == other) = true) = (x.name == other) := by
      intro x
      by_cases hx : x.name = other
      · have hne : (x.name != name) = true := bne_iff_ne.mpr (hx ▸ h)
        simp only [hne, true_and, Bool.decide_eq_true]
      · simp only [beq_eq_false_iff_ne.mpr hx, Bool.false_eq_true, and_false, decide_false]
    simp only [given?, List.find?_cons, hname, hbeq, List.find?_filter, hpred]

theorem given?_add_self {r : Reading} {name : String} (h : r.given? name = none)
    (source : ValueSource) (v : Value) :
    (r.add name source v).given? name = some ⟨name, source, [v]⟩ := by
  unfold add
  rw [h]
  simp only [given?, List.find?_cons, beq_self_eq_true]

theorem level_add (r : Reading) (name : String) (source : ValueSource) (v : Value) :
    (r.add name source v).level = r.level := by
  unfold add
  split <;> rfl

theorem pending_add (r : Reading) (name : String) (source : ValueSource) (v : Value) :
    (r.add name source v).pending = r.pending := by
  unfold add
  split <;> rfl

theorem give_eq_ok {r r' : Reading} {source : ValueSource} {p : Parameter} {octets : Bytes}
    (h : r.give source p octets = .ok r') : ∃ v, r' = r.add p.name source v := by
  unfold give at h
  split at h
  · cases h
  · split at h
    · next v hv =>
      cases h
      exact ⟨v, rfl⟩
    · cases h

/-! ### Arguments that do not give an option -/

/-- A level at which an option was not given and is not waiting. -/
structure Untouched (name : String) (l : Level) (r : Reading) : Prop where
  level : r.level = l
  given : r.given? name = none
  pending : ∀ w, r.pending = some w → w.parameter.name ≠ name

theorem Untouched.fresh (name : String) (l : Level) : Untouched name l { level := l } :=
  ⟨rfl, rfl, fun w hw => by cases hw⟩

section Untouched

variable {name : String} {l : Level} {r r' : Reading}

theorem Untouched.give (h : Untouched name l r) {source : ValueSource} {p : Parameter}
    (hp : p.name ≠ name) {octets : Bytes} (hgive : r.give source p octets = .ok r') :
    Untouched name l r' := by
  obtain ⟨v, rfl⟩ := give_eq_ok hgive
  refine ⟨(level_add ..).trans h.level, ?_, fun w hw => h.pending w ?_⟩
  · exact (given?_add_of_ne hp.symm source v).trans h.given
  · rwa [pending_add] at hw

theorem Untouched.settle (h : Untouched name l r) (hsettle : r.settle = .ok r') :
    Untouched name l r' := by
  unfold Reading.settle at hsettle
  split at hsettle
  · cases hsettle
    exact h
  · cases hsettle
  · next p octets hpending =>
    have hcleared : Untouched name l { r with pending := none } :=
      ⟨h.level, h.given, fun w hw => by cases hw⟩
    exact hcleared.give (h.pending _ hpending) hsettle

theorem Untouched.start (h : Untouched name l r) {p : Parameter} (hp : p.name ≠ name)
    {octets : Option Bytes} (hstart : r.start p octets = .ok r') : Untouched name l r' := by
  obtain ⟨r₁, hsettle, hstart⟩ := bind_eq_ok hstart
  cases hstart
  have hsettled := h.settle hsettle
  exact ⟨hsettled.level, hsettled.given, fun w hw => by cases hw; exact hp⟩

/-- An argument that does not begin with the long form of an option names another one. -/
theorem option?_name_ne {body : Bytes} {text : String} {p : Parameter}
    (hlacks : ¬ Utf8.encodeText ("--" ++ name) <+: 0x2D :: 0x2D :: body)
    (htext : Utf8.decodeText? (body.takeWhile (· ≠ equalsSign)) = some text)
    (hoption : l.option? text = some p) : p.name ≠ name := by
  rintro rfl
  have hname : p.name = text := by
    have hfound := List.find?_some hoption
    simp only [Bool.and_eq_true, beq_iff_eq] at hfound
    exact hfound.2
  apply hlacks
  rw [Utf8.encodeText_append, hname, (Utf8.decodeText?_eq_some_iff _ _).mp htext]
  exact List.cons_prefix_cons.mpr ⟨rfl, List.cons_prefix_cons.mpr ⟨rfl, List.takeWhile_prefix _⟩⟩

theorem Untouched.readLong (h : Untouched name l r) {body : Bytes}
    (hlacks : ¬ Utf8.encodeText ("--" ++ name) <+: 0x2D :: 0x2D :: body)
    (hread : r.readLong body = .ok r') : Untouched name l r' := by
  unfold Reading.readLong at hread
  dsimp only at hread
  split at hread
  · cases hread
  · next text htext =>
    split at hread
    · cases hread
    · split at hread <;> cases hread
    · next p value _ hoption _ =>
      obtain ⟨r₁, hsettle, hgive⟩ := bind_eq_ok (mapError_eq_ok hread)
      exact (h.settle hsettle).give (option?_name_ne hlacks htext hoption) hgive
    · next p _ hoption _ =>
      exact h.start (option?_name_ne hlacks htext hoption) (mapError_eq_ok hread)
    · cases hread

theorem Untouched.readShort (hlong : IsLongOnly name) (h : Untouched name l r) {body : Bytes}
    (hread : r.readShort body = .ok r') : Untouched name l r' := by
  unfold Reading.readShort at hread
  split at hread
  · cases hread
  · next letter width _ =>
    split at hread
    · split at hread <;> cases hread
    · next p _ hoption =>
      have hp : p.name ≠ name := by
        intro hname
        have hletter := List.find?_some hoption
        simp only [beq_iff_eq] at hletter
        rw [(hlong _ p (List.mem_of_find?_eq_some hoption) hname).1] at hletter
        cases hletter
      split at hread
      · exact h.start hp (mapError_eq_ok hread)
      · obtain ⟨r₁, hsettle, hgive⟩ := bind_eq_ok (mapError_eq_ok hread)
        exact (h.settle hsettle).give hp hgive
    · cases hread

theorem Untouched.readOperand (hlong : IsLongOnly name) (h : Untouched name l r) {arg : Bytes}
    (hread : r.readOperand arg = .ok r') : Untouched name l r' := by
  unfold Reading.readOperand at hread
  split at hread
  · next p hoperand _ =>
    have hp : p.name ≠ name := by
      intro hname
      have hisOperand := List.find?_some hoperand
      rw [(hlong _ p (List.mem_of_find?_eq_some hoperand) hname).2.1] at hisOperand
      cases hisOperand
    obtain ⟨r₁, hstart, hread⟩ := bind_eq_ok (mapError_eq_ok hread)
    cases hread
    have hstarted := h.start hp hstart
    exact ⟨hstarted.level, hstarted.given, hstarted.pending⟩
  · cases hread

theorem Untouched.readValue (hlong : IsLongOnly name) (h : Untouched name l r) {arg : Bytes}
    (hread : r.readValue arg = .ok r') : Untouched name l r' := by
  unfold Reading.readValue at hread
  split at hread
  · next p hpending =>
    cases hread
    have hp := h.pending _ hpending
    exact ⟨h.level, h.given, fun w hw => by cases hw; exact hp⟩
  · exact h.readOperand hlong hread

theorem Untouched.readArgument (hlong : IsLongOnly name) (h : Untouched name l r) {arg : Bytes}
    (hlacks : ¬ Utf8.encodeText ("--" ++ name) <+: arg) (hread : r.readArgument arg = .ok r') :
    Untouched name l r' := by
  unfold Reading.readArgument at hread
  split at hread
  · exact h.readOperand hlong hread
  · split at hread
    · cases hread
      exact ⟨h.level, h.given, h.pending⟩
    · exact h.readLong hlacks hread
    · exact h.readValue hlong hread
    · exact h.readShort hlong hread
    · exact h.readValue hlong hread

/-! ### The end of a level -/

theorem Untouched.giveFromEnvironment (hlong : IsLongOnly name) (h : Untouched name l r)
    {environment : List (String × String)} {l' : Level} {p : Parameter} (hp : p ∈ l'.parameters)
    (hgive : r.giveFromEnvironment environment p = .ok r') : Untouched name l r' := by
  unfold Reading.giveFromEnvironment at hgive
  split at hgive
  · next value _ hvalue =>
    refine h.give (fun hname => ?_) hgive
    rw [(hlong _ p hp hname).2.2] at hvalue
    cases hvalue
  · cases hgive
    exact h

theorem given?_giveDefault (r : Reading) (p : Parameter) (name : String) :
    (giveDefault r p).given? name = (r.given? name).or
      ((if p.name = name then p.default else none).map fun v => ⟨name, .default, [v]⟩) := by
  unfold giveDefault
  by_cases hname : p.name = name
  · subst hname
    rw [if_pos rfl]
    cases hgiven : r.given? p.name with
    | some g => rw [Option.some_or]; exact hgiven
    | none =>
      cases hdefault : p.default with
      | none => exact hgiven
      | some v => exact given?_add_self hgiven .default v
  · rw [if_neg hname, Option.map_none, Option.or_none]
    split
    · exact given?_add_of_ne (Ne.symm hname) _ _
    · rfl

theorem given?_foldl_giveDefault (r : Reading) (ps : List Parameter) (name : String) :
    (ps.foldl giveDefault r).given? name = (r.given? name).or
      ((ps.findSome? fun p => if p.name = name then p.default else none).map
        fun v => ⟨name, .default, [v]⟩) := by
  -- What is given is not given again, so the first default is the one that stays.
  induction ps generalizing r with
  | nil => rw [List.foldl_nil, List.findSome?_nil, Option.map_none, Option.or_none]
  | cons p ps ih =>
    rw [List.foldl_cons, ih, given?_giveDefault, List.findSome?_cons, Option.or_assoc]
    cases (if p.name = name then p.default else none) with
    | none => rw [Option.map_none, Option.none_or]
    | some v => rw [Option.map_some, Option.some_or]

theorem level_foldl_giveDefault (r : Reading) (ps : List Parameter) :
    (ps.foldl giveDefault r).level = r.level := by
  induction ps generalizing r with
  | nil => rfl
  | cons p ps ih =>
    rw [List.foldl_cons, ih]
    unfold giveDefault
    split
    · exact level_add ..
    · rfl

theorem Untouched.foldlM_giveFromEnvironment (hlong : IsLongOnly name)
    {environment : List (String × String)} {l' : Level} {ps : List Parameter}
    (hps : ∀ p ∈ ps, p ∈ l'.parameters) (h : Untouched name l r)
    (hgive : ps.foldlM (Reading.giveFromEnvironment environment) r = .ok r') :
    Untouched name l r' := by
  induction ps generalizing r with
  | nil =>
    cases hgive
    exact h
  | cons p ps ih =>
    obtain ⟨r₁, hfirst, hrest⟩ := bind_eq_ok hgive
    have hgiven := h.giveFromEnvironment hlong (hps p List.mem_cons_self) hfirst
    exact ih (fun q hq => hps q (List.mem_cons_of_mem p hq)) hgiven hrest

theorem Untouched.finish (hlong : IsLongOnly name) (h : Untouched name l r)
    {environment : List (String × String)} {hasChild : Bool}
    (hfinish : r.finish environment hasChild = .ok r') :
    r'.level = l ∧ r'.given? name = (l.defaultFor? name).map fun v => ⟨name, .default, [v]⟩ := by
  obtain ⟨r₁, hsettle, hfinish⟩ := bind_eq_ok hfinish
  obtain ⟨r₂, hgive, hfinish⟩ := bind_eq_ok hfinish
  have hsettled := h.settle hsettle
  have hgiven := hsettled.foldlM_giveFromEnvironment hlong (fun p hp => hp) hgive
  dsimp only at hfinish
  split at hfinish
  · cases hfinish
  · cases hfinish
    refine ⟨(level_foldl_giveDefault ..).trans hgiven.level, ?_⟩
    rw [given?_foldl_giveDefault, hgiven.given, Option.none_or, hgiven.level, Level.defaultFor?]

end Untouched

end Reading

/-! ### All levels -/

/-- How far a command line has been read that does not give an option. -/
def Progress.IsUntouched (name : String) : Progress → Prop
  | .helping _ => True
  | .reading r above => r.Untouched name r.level ∧
      ∀ a ∈ above, a.Untouched name a.level ∧ a.level.children ≠ []

section Levels

variable {name : String} {environment : List (String × String)}

theorem Progress.IsUntouched.step (hlong : IsLongOnly name) {p p' : Progress} {arg : Bytes}
    (h : p.IsUntouched name) (hlacks : ¬ Utf8.encodeText ("--" ++ name) <+: arg)
    (hstep : p.step arg = .ok p') : p'.IsUntouched name := by
  cases p with
  | helping l =>
    simp only [Progress.step] at hstep
    split at hstep
    · cases hstep
      trivial
    · cases hstep
  | reading r above =>
    obtain ⟨hr, habove⟩ := h
    simp only [Progress.step] at hstep
    split at hstep
    · cases hstep
      trivial
    · next child _ hentered =>
      cases hstep
      have hchildren : r.level.children ≠ [] := by
        intro hnil
        unfold Reading.entered? at hentered
        split at hentered
        · cases hentered
        · rw [Level.child?, hnil] at hentered
          cases hentered
      refine ⟨.fresh name child, fun a ha => ?_⟩
      rcases List.mem_cons.mp ha with rfl | ha
      · exact ⟨hr, hchildren⟩
      · exact habove a ha
    · obtain ⟨r', hread, hstep⟩ := bind_eq_ok hstep
      cases hstep
      have hr' := hr.readArgument hlong hlacks hread
      exact ⟨hr'.level ▸ hr', habove⟩

theorem Progress.IsUntouched.foldlM (hlong : IsLongOnly name) {p p' : Progress}
    {args : List Bytes} (h : p.IsUntouched name) (hlacks : LacksOption name args)
    (hsteps : args.foldlM Progress.step p = .ok p') : p'.IsUntouched name := by
  induction args generalizing p with
  | nil =>
    cases hsteps
    exact h
  | cons arg args ih =>
    obtain ⟨p₁, hstep, hrest⟩ := bind_eq_ok hsteps
    have hlacksRest : LacksOption name args := fun a ha => hlacks a (List.mem_cons_of_mem arg ha)
    exact ih (h.step hlong (hlacks arg List.mem_cons_self) hstep) hlacksRest hrest

end Levels

end DeviceGateway.CommandLine
