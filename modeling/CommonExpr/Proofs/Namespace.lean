import CommonExpr.Namespace
import Mathlib.Data.List.Infix

/-!
Names within a container.

Main statements: the candidates for a name with a field behind it are those for the name, each with
the field; and a name that no alias and no leading dot decides on has one candidate within every
run of first segments of the container, the longest run first.
-/

namespace CommonExpr.Namespace

variable (ns : Namespace)

/-! Aliases of the first segment -/

theorem takeWhile_before_dot (front tail : List Char) :
    (front ++ '.' :: tail).takeWhile (· != '.') = front.takeWhile (· != '.') := by
  induction front with
  | nil => simp
  | cons c front ih =>
      by_cases hc : c = '.'
      · simp [hc]
      · simpa [hc] using ih

theorem dropWhile_before_dot (front tail : List Char) :
    (front ++ '.' :: tail).dropWhile (· != '.') = front.dropWhile (· != '.') ++ '.' :: tail := by
  induction front with
  | nil => simp
  | cons c front ih =>
      by_cases hc : c = '.'
      · simp [hc]
      · simpa [hc] using ih

theorem toList_field (name field : String) :
    (name ++ "." ++ field).toList = name.toList ++ '.' :: field.toList := by
  simp

/-- A field does not change the first segment, and stays behind what follows it. -/
theorem firstSegment_field (name field : String) :
    firstSegment (name ++ "." ++ field) =
      ((firstSegment name).1, (firstSegment name).2 ++ "." ++ field) := by
  rw [firstSegment, toList_field, takeWhile_before_dot, dropWhile_before_dot]
  refine Prod.ext rfl (String.toList_inj.mp ?_)
  simp [firstSegment]

theorem expand?_field (name field : String) :
    ns.expand? (name ++ "." ++ field) = (ns.expand? name).map (· ++ "." ++ field) := by
  simp only [expand?, firstSegment_field]
  cases ns.aliases.lookup (firstSegment name).1 with
  | none => rfl
  | some known => simp [String.append_assoc]

/-! Candidates -/

theorem candidates_absolute {name : String} {rest : List Char} (hname : name.toList = '.' :: rest) :
    ns.candidates name = [(ns.expand? (String.ofList rest)).getD (String.ofList rest)] := by
  unfold candidates
  split
  · next rest' hrest' =>
      obtain ⟨-, rfl⟩ := List.cons.inj (hname.symm.trans hrest')
      rfl
  · next hother => exact absurd hname (hother rest)

theorem candidates_relative {name : String} (hname : name.toList.head? ≠ some '.') :
    ns.candidates name =
      match ns.expand? name with
      | some expanded => [expanded]
      | none =>
          if ns.name = "" then [name]
          else (containers ns.name).map (· ++ "." ++ name) ++ [name] := by
  unfold candidates
  split
  · next rest hrest => simp [hrest] at hname
  · rfl

/-- The empty name is left out, as a dot in front of the field makes it absolute. -/
theorem candidates_field {name : String} (hname : name ≠ "") (field : String) :
    ns.candidates (name ++ "." ++ field) = (ns.candidates name).map (· ++ "." ++ field) := by
  obtain ⟨c, rest, hchars⟩ : ∃ c rest, name.toList = c :: rest :=
    List.exists_cons_of_ne_nil (by simpa using hname)
  have hfield : (name ++ "." ++ field).toList = c :: (rest ++ '.' :: field.toList) := by
    rw [toList_field, hchars, List.cons_append]
  by_cases hdot : c = '.'
  · subst hdot
    have hrest : String.ofList (rest ++ '.' :: field.toList) =
        String.ofList rest ++ "." ++ field := by
      apply String.toList_inj.mp
      simp
    rw [ns.candidates_absolute hchars, ns.candidates_absolute hfield, hrest, expand?_field]
    cases ns.expand? (String.ofList rest) <;> rfl
  · have hhead {chars : List Char} : (c :: chars).head? ≠ some '.' :=
      fun hsome => hdot (Option.some.inj hsome)
    rw [ns.candidates_relative (by rw [hfield]; exact hhead),
      ns.candidates_relative (by rw [hchars]; exact hhead), expand?_field]
    cases ns.expand? name with
    | some expanded => rfl
    | none =>
        by_cases hroot : ns.name = ""
        · simp [hroot]
        · simp [hroot, Function.comp_def, String.append_assoc]

/-! Containers -/

/-- The segments of a dotted name.  The empty name has none. -/
def segments (name : String) : List String :=
  if name = "" then [] else (name.toList.splitOn '.').map String.ofList

/-- A name behind the first segments of a container. -/
def within (outer : List String) (name : String) : String := ".".intercalate (outer ++ [name])

theorem intercalate_cons_first (c : Char) (first : List Char) (outer : List (List Char)) :
    List.intercalate ['.'] ((c :: first) :: outer) =
      c :: List.intercalate ['.'] (first :: outer) := by
  cases outer <;> simp

/-- The containers, shortest first, are the runs of first segments. -/
theorem intercalate_inits_splitOn (container : List Char) :
    (container.splitOn '.').inits.tail.map (List.intercalate ['.']) =
      outerContainers container ++ [container] := by
  induction container with
  | nil => simp [outerContainers]
  | cons c rest ih =>
      obtain ⟨first, others, hsplit⟩ : ∃ first others, rest.splitOn '.' = first :: others :=
        List.exists_cons_of_ne_nil (List.splitOn_ne_nil '.' rest)
      have hlonger : others.inits.map (fun outer => c :: List.intercalate ['.'] (first :: outer)) =
          (outerContainers rest).map (c :: ·) ++ [c :: rest] := by
        rw [hsplit] at ih
        simpa [Function.comp_def] using congrArg (List.map (c :: ·)) ih
      rw [List.splitOn] at hsplit
      rw [List.splitOn, List.splitOnP_cons_eq_if_modifyHead, hsplit, outerContainers]
      by_cases hc : c = '.'
      · subst hc
        simpa [Function.comp_def] using hlonger
      · simpa [hc, Function.comp_def, intercalate_cons_first] using hlonger

theorem intercalate_ofList (outer : List (List Char)) :
    ".".intercalate (outer.map String.ofList) =
      String.ofList (List.intercalate ['.'] outer) := by
  apply String.toList_inj.mp
  simp [Function.comp_def]

theorem containers_eq {container : String} (hcontainer : container ≠ "") :
    containers container = ((segments container).inits.tail.map ".".intercalate).reverse := by
  have hruns := congrArg (List.map String.ofList) (intercalate_inits_splitOn container.toList)
  have hstrings : ".".intercalate ∘ List.map String.ofList =
      String.ofList ∘ List.intercalate ['.'] := funext intercalate_ofList
  rw [List.map_map, ← hstrings, ← List.map_map, List.map_tail, ← List.map_inits] at hruns
  rw [segments, if_neg hcontainer, hruns, containers]
  simp

/-- A name that is looked up in the container has a candidate within each run of its first
segments. -/
theorem candidates_of_unaliased {name : String} (hname : name.toList.head? ≠ some '.')
    (hunaliased : ns.expand? name = none) :
    ns.candidates name = (segments ns.name).inits.reverse.map (within · name) := by
  rw [ns.candidates_relative hname, hunaliased]
  by_cases hroot : ns.name = ""
  · simp [hroot, segments, within]
  · have hsegments : segments ns.name ≠ [] := by
      simp [segments, hroot]
    obtain ⟨first, others, hfirst⟩ := List.exists_cons_of_ne_nil hsegments
    have hwithin (outer : List String) : within (first :: outer) name =
        ".".intercalate (first :: outer) ++ "." ++ name := by
      rw [within, String.intercalate_append_of_ne_nil (List.cons_ne_nil _ _)
        (List.cons_ne_nil _ _), String.intercalate_singleton]
    have hbare : within [] name = name := String.intercalate_singleton
    simp only [if_neg hroot]
    rw [containers_eq hroot, hfirst]
    simp [Function.comp_def, hwithin, hbare]

theorem length_candidates_of_unaliased {name : String} (hname : name.toList.head? ≠ some '.')
    (hunaliased : ns.expand? name = none) :
    (ns.candidates name).length = (segments ns.name).length + 1 := by
  rw [ns.candidates_of_unaliased hname hunaliased, List.length_map, List.length_reverse,
    List.length_inits]

end CommonExpr.Namespace
