import CommonExpr.Library.Strings
import CommonExpr.Proofs.Func

/-!
The strings extension keeps every invariant of values.

Its functions make strings, positions and lists of strings, and look at nothing
but texts and the elements of lists.  Main statement: run on values with the
property, each function of the extension yields it.
-/

namespace CommonExpr.Library

open Outcome Overload

variable {V : Value → Prop} (hV : Value.Invariant V)

theorem position_failsAt (id : Int) (s : String) (i : Int64) : FailsAt id (position id s i) := by
  unfold position
  split
  · exact FailsAt.ok
  · exact yields_fail

/-- Joining ends at the first element that is no string or cannot be read. -/
theorem joinStrings_failsAt {id : Int} {elements : List (Outcome Value)}
    (helements : ∀ o ∈ elements, FailsAt id o) : FailsAt id (joinStrings id elements) := by
  fun_induction joinStrings id elements with
  | case1 => exact FailsAt.ok
  | case2 f rest => exact (helements _ List.mem_cons_self).error rfl
  | case3 s rest f hf ih =>
      exact (ih fun o ho => helements o (List.mem_cons_of_mem _ ho)).error hf
  | case4 => exact FailsAt.ok
  | case5 => exact yields_fail

include hV

theorem indexFrom_keeps (s sub : String) (start : Nat) : V (indexFrom s sub start) := by
  unfold indexFrom positionValue
  split <;> exact hV.scalar _

theorem lastIndexUpTo_keeps (s sub : String) (last : Nat) : V (lastIndexUpTo s sub last) := by
  unfold lastIndexUpTo positionValue
  split <;> exact hV.scalar _

theorem substring_yields (id : Int) (s : String) (start stop : Int64) :
    Yields id V (substring id s start stop) := by
  unfold substring
  split
  · next f hf => exact meets_error.mpr ((position_failsAt id s start).fault hf)
  · split
    · next f hf => exact meets_error.mpr ((position_failsAt id s stop).fault hf)
    · split
      · exact meets_ok.mpr (hV.scalar _)
      · exact yields_fail

theorem joinList_yields (id : Int) (sep : String) (v : Value) :
    Yields id V (joinList id sep v) := by
  unfold joinList
  split
  · split
    · next f hf =>
        exact meets_error.mpr ((joinStrings_failsAt fun _ ho => Items.read_failsAt ho).fault hf)
    · exact meets_ok.mpr (hV.scalar _)
  · exact yields_noOverload

theorem stringFunc_keeps (name overload : String) (f : String → String) :
    (stringFunc name overload f).Keeps V := by
  refine Func.keeps_single (keeps_ofValues fun node args hargs => ?_)
  split
  · exact offers_some (meets_ok.mpr (hV.scalar _))
  · exact offers_none

theorem charAt_keeps : charAt.Keeps V := by
  refine Func.keeps_single (keeps_ofValues fun node args hargs => ?_)
  split
  · refine offers_some ?_
    split
    · next f hf => exact meets_error.mpr ((position_failsAt node _ _).fault hf)
    · exact meets_ok.mpr (hV.scalar _)
  · exact offers_none

theorem indexOf_keeps : indexOf.Keeps V := by
  refine Func.keeps_cons (keeps_ofValues fun node args hargs => ?_)
    (Func.keeps_single (keeps_ofValues fun node args hargs => ?_))
  · split
    · exact offers_some (meets_ok.mpr (indexFrom_keeps hV _ _ _))
    · exact offers_none
  · split
    · exact offers_some
        (Meets.map (position_failsAt node _ _) fun n _ => indexFrom_keeps hV _ _ n)
    · exact offers_none

theorem lastIndexOf_keeps : lastIndexOf.Keeps V := by
  refine Func.keeps_cons (keeps_ofValues fun node args hargs => ?_)
    (Func.keeps_single (keeps_ofValues fun node args hargs => ?_))
  · split
    · exact offers_some (meets_ok.mpr (lastIndexUpTo_keeps hV _ _ _))
    · exact offers_none
  · split
    · exact offers_some
        (Meets.map (position_failsAt node _ _) fun n _ => lastIndexUpTo_keeps hV _ _ n)
    · exact offers_none

theorem replace_keeps : replace.Keeps V := by
  refine Func.keeps_cons (keeps_ofValues fun node args hargs => ?_)
    (Func.keeps_single (keeps_ofValues fun node args hargs => ?_))
  · split
    · exact offers_some (meets_ok.mpr (hV.scalar _))
    · exact offers_none
  · split
    · exact offers_some (meets_ok.mpr (hV.scalar _))
    · exact offers_none

theorem ofStrings_keeps (pieces : List String) : V (.ofList (pieces.map Value.string)) := by
  refine hV.dynList _ fun v hv => ?_
  obtain ⟨s, -, rfl⟩ := List.mem_map.mp hv
  exact hV.scalar _

theorem split_keeps : split.Keeps V := by
  refine Func.keeps_cons (keeps_ofValues fun node args hargs => ?_)
    (Func.keeps_single (keeps_ofValues fun node args hargs => ?_))
  · split
    · exact offers_some (meets_ok.mpr (ofStrings_keeps hV _))
    · exact offers_none
  · split
    · exact offers_some (meets_ok.mpr (ofStrings_keeps hV _))
    · exact offers_none

theorem substringFunc_keeps : substringFunc.Keeps V := by
  refine Func.keeps_cons (keeps_ofValues fun node args hargs => ?_)
    (Func.keeps_single (keeps_ofValues fun node args hargs => ?_))
  · split
    · exact offers_some (substring_yields hV node _ _ _)
    · exact offers_none
  · split
    · exact offers_some (substring_yields hV node _ _ _)
    · exact offers_none

theorem formatFunc_keeps : formatFunc.Keeps V := by
  refine Func.keeps_single (keeps_ofValues fun node args hargs => ?_)
  split
  · refine offers_some ?_
    unfold formatList
    split
    · next f hf => exact meets_error.mpr ((Items.collect_failsAt _ node).fault hf)
    · split
      · exact meets_ok.mpr (hV.scalar _)
      · exact yields_fail
  · exact offers_none

theorem join_keeps : join.Keeps V := by
  refine Func.keeps_cons (keeps_ofValues fun node args hargs => ?_)
    (Func.keeps_single (keeps_ofValues fun node args hargs => ?_))
  · split
    · exact offers_some (joinList_yields hV node _ _)
    · exact offers_none
  · split
    · exact offers_some (joinList_yields hV node _ _)
    · exact offers_none

/-- Run on values with an invariant, the strings extension yields it. -/
theorem strings_keeps : strings.Keeps V := by
  refine Registry.keeps_ofFunctions ?_
  simp only [stringFunctions, List.forall_mem_cons, List.not_mem_nil, false_implies, implies_true,
    and_true]
  exact ⟨charAt_keeps hV, indexOf_keeps hV, lastIndexOf_keeps hV, stringFunc_keeps hV _ _ _,
    stringFunc_keeps hV _ _ _, replace_keeps hV, split_keeps hV, substringFunc_keeps hV,
    stringFunc_keeps hV _ _ _, stringFunc_keeps hV _ _ _, formatFunc_keeps hV, join_keeps hV,
    stringFunc_keeps hV _ _ _⟩

end CommonExpr.Library
