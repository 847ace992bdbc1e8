import CommonExpr.Library.Standard
import CommonExpr.Proofs.Func

/-!
The standard library keeps every invariant of values.

Most overloads make scalars and times of the scalars and times in their arguments;
a few give back an argument or the elements of arguments.  Main statement: run on
values with the property, each function of the library yields it.
-/

namespace CommonExpr.Library

open Outcome Overload

variable {V : Value → Prop} (hV : Value.Invariant V)

include hV

/-! Comparisons -/

theorem negation_keeps : negation.Keeps V := by
  refine Func.keeps_single (keeps_ofValues fun node args hargs => ?_)
  split
  · exact offers_some (meets_ok.mpr (hV.scalar _))
  · exact offers_none

theorem notStrictlyFalse_keeps : notStrictlyFalse.Keeps V := by
  refine Func.keeps_single fun node args => ?_
  dsimp only
  split
  · exact meets_ok.mpr (hV.scalar _)
  · exact meets_ok.mpr (hV.scalar _)

omit hV in
theorem onPairs_keeps {function id : String} {run : (id : Int) → Value → Value → Outcome Value}
    (hrun : ∀ node a b, Yields node V (run node a b)) : (onPairs function id run).Keeps V := by
  refine keeps_ofValues fun node args hargs => ?_
  split
  · exact offers_some (hrun node _ _)
  · exact offers_none

theorem equality_keeps : equality.Keeps V :=
  Func.keeps_single (onPairs_keeps fun _ _ _ => meets_ok.mpr (hV.scalar _))

theorem inequality_keeps : inequality.Keeps V :=
  Func.keeps_single (onPairs_keeps fun _ _ _ => meets_ok.mpr (hV.scalar _))

theorem ordering_keeps (name overload : String) (holds : Ordering → Bool) :
    (ordering name overload holds).Keeps V := by
  refine Func.keeps_single (onPairs_keeps fun node a b => ?_)
  split
  · exact meets_ok.mpr (hV.scalar _)
  · exact yields_noOverload

omit hV in
/-- A search ends with a verdict or at the first element that cannot be read. -/
theorem isAmong_failsAt {id : Int} (x : Value) {elements : List (Outcome Value)}
    (helements : ∀ o ∈ elements, FailsAt id o) : FailsAt id (isAmong x elements) := by
  induction elements with
  | nil => exact FailsAt.ok
  | cons head rest ih =>
      cases head with
      | error f => exact (helements _ List.mem_cons_self).error rfl
      | ok v =>
          rw [isAmong]
          split
          · exact FailsAt.ok
          · exact ih fun o ho => helements o (List.mem_cons_of_mem _ ho)

theorem membership_keeps : membership.Keeps V := by
  refine Func.keeps_cons (keeps_ofValues fun node args hargs => ?_)
    (Func.keeps_single (keeps_ofValues fun node args hargs => ?_))
  · split
    · refine offers_some ?_
      exact Meets.map (isAmong_failsAt _ fun _ ho => Items.read_failsAt ho)
        fun b _ => hV.scalar (.bool b)
    · exact offers_none
  · split
    · exact offers_some (meets_ok.mpr (hV.scalar _))
    · exact offers_none

theorem comparisons_keep : ∀ f ∈ comparisons, f.Keeps V := by
  simp only [comparisons, List.forall_mem_cons, List.not_mem_nil, false_implies, implies_true,
    and_true]
  exact ⟨negation_keeps hV, notStrictlyFalse_keeps hV, equality_keeps hV, inequality_keeps hV,
    ordering_keeps hV _ _ _, ordering_keeps hV _ _ _, ordering_keeps hV _ _ _,
    ordering_keeps hV _ _ _, membership_keeps hV⟩

/-! Contents -/

theorem sizeOverload_keeps (id : String) (param : Ty) : (sizeOverload id param).Keeps V := by
  refine keeps_ofValues fun node args hargs => ?_
  split
  · next x =>
      cases measure? x with
      | none => exact offers_none
      | some n =>
          exact offers_some (Meets.map (FailsAt.orFail node _ _) fun i _ => hV.scalar (.int i))
  · exact offers_none

theorem size_keeps : size.Keeps V :=
  Func.keeps_cons (sizeOverload_keeps hV _ _) (Func.keeps_cons (sizeOverload_keeps hV _ _)
    (Func.keeps_cons (sizeOverload_keeps hV _ _) (Func.keeps_single (sizeOverload_keeps hV _ _))))

theorem stringTest_keeps (name overload : String) (test : String → String → Except String Bool) :
    (stringTest name overload test).Keeps V := by
  refine Func.keeps_single (keeps_ofValues fun node args hargs => ?_)
  split
  · refine offers_some ?_
    split
    · exact meets_ok.mpr (hV.scalar _)
    · exact yields_fail
  · exact offers_none

theorem contents_keep : ∀ f ∈ contents, f.Keeps V := by
  simp only [contents, List.forall_mem_cons, List.not_mem_nil, false_implies, implies_true,
    and_true]
  exact ⟨size_keeps hV, stringTest_keeps hV _ _ _, stringTest_keeps hV _ _ _,
    stringTest_keeps hV _ _ _, stringTest_keeps hV _ _ _⟩

/-! Arithmetic -/

theorem checkedInt_yields (id : Int) (operation : String) (i : Int) :
    Yields id V (checkedInt id operation i) := by
  unfold checkedInt
  split
  · exact meets_ok.mpr (hV.scalar _)
  · exact yields_fail

theorem checkedUInt_yields (id : Int) (operation : String) (i : Int) :
    Yields id V (checkedUInt id operation i) := by
  unfold checkedUInt
  split
  · exact meets_ok.mpr (hV.scalar _)
  · exact yields_fail

theorem onInts_keeps (function id operation : String) (op : Int → Int → Int) :
    (onInts function id operation op).Keeps V := by
  refine keeps_ofValues fun node args hargs => ?_
  split
  · exact offers_some (checkedInt_yields hV node operation _)
  · exact offers_none

theorem onUInts_keeps (function id operation : String) (op : Int → Int → Int) :
    (onUInts function id operation op).Keeps V := by
  refine keeps_ofValues fun node args hargs => ?_
  split
  · exact offers_some (checkedUInt_yields hV node operation _)
  · exact offers_none

theorem onDoubles_keeps (function id : String) (op : Double → Double → Double) :
    (onDoubles function id op).Keeps V := by
  refine keeps_ofValues fun node args hargs => ?_
  split
  · exact offers_some (meets_ok.mpr (hV.scalar _))
  · exact offers_none

/-- A time that is computed is in range, or else the call fails. -/
theorem timestamp_yields {id : Int} {result : Except TimeFault Timestamp}
    (hrange : ∀ t, result = .ok t → t.InRange) :
    Yields id V (Value.timestamp <$> timed id result) :=
  (yields_timed hrange).map fun t ht => hV.timestamp t ht

theorem duration_yields {id : Int} {result : Except TimeFault Duration}
    (hrange : ∀ d, result = .ok d → d.InRange) :
    Yields id V (Value.duration <$> timed id result) :=
  (yields_timed hrange).map fun d hd => hV.duration d hd

theorem addition_keeps : addition.Keeps V := by
  refine Func.keeps_cons (onInts_keeps hV _ _ _ _) (Func.keeps_cons (onUInts_keeps hV _ _ _ _)
    (Func.keeps_cons (onDoubles_keeps hV _ _ _) (Func.keeps_cons ?strings (Func.keeps_cons ?bytes
      (Func.keeps_cons ?lists (Func.keeps_cons ?later (Func.keeps_cons ?after
        (Func.keeps_single ?longer))))))))
  case strings =>
    refine keeps_ofValues fun node args hargs => ?_
    split
    · exact offers_some (meets_ok.mpr (hV.scalar _))
    · exact offers_none
  case bytes =>
    refine keeps_ofValues fun node args hargs => ?_
    split
    · exact offers_some (meets_ok.mpr (hV.scalar _))
    · exact offers_none
  case lists =>
    refine keeps_ofValues fun node args hargs => ?_
    split
    · exact offers_some (hV.concat_yields (hargs _ (by simp)) (hargs _ (by simp)) node)
    · exact offers_none
  case later =>
    refine keeps_ofValues fun node args hargs => ?_
    split
    · exact offers_some (timestamp_yields hV fun _ => Timestamp.inRange_of_shift)
    · exact offers_none
  case after =>
    refine keeps_ofValues fun node args hargs => ?_
    split
    · exact offers_some (timestamp_yields hV fun _ => Timestamp.inRange_of_shift)
    · exact offers_none
  case longer =>
    refine keeps_ofValues fun node args hargs => ?_
    split
    · exact offers_some (duration_yields hV fun _ => Duration.inRange_of_combine)
    · exact offers_none

theorem subtraction_keeps : subtraction.Keeps V := by
  refine Func.keeps_cons (onInts_keeps hV _ _ _ _) (Func.keeps_cons (onUInts_keeps hV _ _ _ _)
    (Func.keeps_cons (onDoubles_keeps hV _ _ _) (Func.keeps_cons ?between (Func.keeps_cons ?earlier
      (Func.keeps_single ?shorter)))))
  case between =>
    refine keeps_ofValues fun node args hargs => ?_
    split
    · exact offers_some (duration_yields hV fun _ => Timestamp.inRange_of_since)
    · exact offers_none
  case earlier =>
    refine keeps_ofValues fun node args hargs => ?_
    split
    · exact offers_some (timestamp_yields hV fun _ => Timestamp.inRange_of_shift)
    · exact offers_none
  case shorter =>
    refine keeps_ofValues fun node args hargs => ?_
    split
    · exact offers_some (duration_yields hV fun _ => Duration.inRange_of_combine)
    · exact offers_none

theorem multiplication_keeps : multiplication.Keeps V :=
  Func.keeps_cons (onInts_keeps hV _ _ _ _) (Func.keeps_cons (onUInts_keeps hV _ _ _ _)
    (Func.keeps_single (onDoubles_keeps hV _ _ _)))

theorem division_keeps : division.Keeps V := by
  refine Func.keeps_cons (keeps_ofValues fun node args hargs => ?_)
    (Func.keeps_cons (keeps_ofValues fun node args hargs => ?_)
      (Func.keeps_single (onDoubles_keeps hV _ _ _)))
  · split
    · refine offers_some ?_
      split
      · exact yields_fail
      · exact checkedInt_yields hV node _ _
    · exact offers_none
  · split
    · refine offers_some ?_
      split
      · exact yields_fail
      · exact meets_ok.mpr (hV.scalar _)
    · exact offers_none

theorem remainderInt_yields (id : Int) (x y : Int64) : Yields id V (remainderInt id x y) := by
  unfold remainderInt
  split
  · exact yields_fail
  · split
    · exact checkedInt_yields hV id _ _
    · exact yields_fail

theorem remainder_keeps : remainder.Keeps V := by
  refine Func.keeps_cons (keeps_ofValues fun node args hargs => ?_)
    (Func.keeps_single (keeps_ofValues fun node args hargs => ?_))
  · split
    · exact offers_some (remainderInt_yields hV node _ _)
    · exact offers_none
  · split
    · refine offers_some ?_
      split
      · exact yields_fail
      · exact meets_ok.mpr (hV.scalar _)
    · exact offers_none

theorem opposite_keeps : opposite.Keeps V := by
  refine Func.keeps_cons (keeps_ofValues fun node args hargs => ?_)
    (Func.keeps_cons (keeps_ofValues fun node args hargs => ?_)
      (Func.keeps_single (keeps_ofValues fun node args hargs => ?_)))
  · split
    · exact offers_some (checkedInt_yields hV node _ _)
    · exact offers_none
  · split
    · exact offers_some (meets_ok.mpr (hV.scalar _))
    · exact offers_none
  · split
    · exact offers_some (duration_yields hV fun _ => Duration.inRange_of_combine)
    · exact offers_none

theorem arithmetic_keep : ∀ f ∈ arithmetic, f.Keeps V := by
  simp only [arithmetic, List.forall_mem_cons, List.not_mem_nil, false_implies, implies_true,
    and_true]
  exact ⟨addition_keeps hV, subtraction_keeps hV, multiplication_keeps hV, division_keeps hV,
    remainder_keeps hV, opposite_keeps hV⟩

/-! Conversions -/

omit hV in
theorem conversion_keeps {name : String} {sources : List (String × Ty)}
    {convert : (id : Int) → Value → Option (Outcome Value)}
    (hconvert : ∀ node x, V x → Offers node V (convert node x)) :
    (conversion name sources convert).Keeps V := by
  intro o ho
  obtain ⟨source, -, rfl⟩ := List.mem_map.mp ho
  refine keeps_ofValues fun node args hargs => ?_
  split
  · exact hconvert node _ (hargs _ (by simp))
  · exact offers_none

theorem intOf_yields (id : Int) (word : Option Int64) : Yields id V (intOf id word) := by
  unfold intOf
  split
  · exact meets_ok.mpr (hV.scalar _)
  · exact yields_fail

theorem uintOf_yields (id : Int) (word : Option UInt64) : Yields id V (uintOf id word) := by
  unfold uintOf
  split
  · exact meets_ok.mpr (hV.scalar _)
  · exact yields_fail

theorem toInt_offers (id : Int) (x : Value) : Offers id V (toInt id x) := by
  unfold toInt
  split
  · exact offers_some (meets_ok.mpr (hV.scalar _))
  · exact offers_some (intOf_yields hV id _)
  · exact offers_some (intOf_yields hV id _)
  · refine offers_some ?_
    split
    · exact meets_ok.mpr (hV.scalar _)
    · exact yields_fail
  · exact offers_some (meets_ok.mpr (hV.scalar _))
  · exact offers_none

theorem toUInt_offers (id : Int) (x : Value) : Offers id V (toUInt id x) := by
  unfold toUInt
  split
  · exact offers_some (meets_ok.mpr (hV.scalar _))
  · exact offers_some (uintOf_yields hV id _)
  · exact offers_some (uintOf_yields hV id _)
  · refine offers_some ?_
    split
    · exact meets_ok.mpr (hV.scalar _)
    · exact yields_fail
  · exact offers_none

theorem toDouble_offers (id : Int) (x : Value) : Offers id V (toDouble id x) := by
  unfold toDouble
  split
  · exact offers_some (meets_ok.mpr (hV.scalar _))
  · exact offers_some (meets_ok.mpr (hV.scalar _))
  · exact offers_some (meets_ok.mpr (hV.scalar _))
  · refine offers_some ?_
    split
    · exact meets_ok.mpr (hV.scalar _)
    · exact yields_fail
  · exact offers_none

theorem toBool_offers (id : Int) (x : Value) : Offers id V (toBool id x) := by
  unfold toBool
  split
  · exact offers_some (meets_ok.mpr (hV.scalar _))
  · refine offers_some ?_
    split
    · exact meets_ok.mpr (hV.scalar _)
    · exact yields_fail
  · exact offers_none

theorem toText_offers (id : Int) (x : Value) : Offers id V (toText id x) := by
  unfold toText
  split
  case h_6 =>
    refine offers_some ?_
    split
    · exact meets_ok.mpr (hV.scalar _)
    · exact yields_fail
  case h_9 => exact offers_none
  all_goals exact offers_some (meets_ok.mpr (hV.scalar _))

theorem toBytes_offers (id : Int) (x : Value) : Offers id V (toBytes id x) := by
  unfold toBytes
  split
  · exact offers_some (meets_ok.mpr (hV.scalar _))
  · exact offers_some (meets_ok.mpr (hV.scalar _))
  · exact offers_none

theorem toTimestamp_offers (id : Int) (x : Value) (hx : V x) : Offers id V (toTimestamp id x) := by
  unfold toTimestamp
  split
  · exact offers_some (meets_ok.mpr hx)
  · exact offers_some (timestamp_yields hV fun _ => Timestamp.inRange_of_read)
  · exact offers_some (timestamp_yields hV fun _ => Timestamp.inRange_of_normalize)
  · exact offers_none

theorem toDuration_offers (id : Int) (x : Value) (hx : V x) : Offers id V (toDuration id x) := by
  unfold toDuration
  split
  · exact offers_some (meets_ok.mpr hx)
  · exact offers_some (duration_yields hV fun _ => Duration.inRange_of_read)
  · exact offers_some (duration_yields hV fun _ => Duration.inRange_of_normalize)
  · exact offers_none

theorem conversions_keep : ∀ f ∈ conversions, f.Keeps V := by
  simp only [conversions, List.forall_mem_cons, List.not_mem_nil, false_implies, implies_true,
    and_true]
  refine ⟨conversion_keeps fun node x _ => toInt_offers hV node x,
    conversion_keeps fun node x _ => toUInt_offers hV node x,
    conversion_keeps fun node x _ => toDouble_offers hV node x,
    conversion_keeps fun node x _ => toBool_offers hV node x,
    conversion_keeps fun node x _ => toText_offers hV node x,
    conversion_keeps fun node x _ => toBytes_offers hV node x,
    conversion_keeps (toTimestamp_offers hV), conversion_keeps (toDuration_offers hV), ?_, ?_⟩
  · exact conversion_keeps fun _ _ _ => offers_some (meets_ok.mpr (hV.type _))
  · exact conversion_keeps fun _ _ hx => offers_some (meets_ok.mpr hx)

/-! Parts of times -/

theorem partOf_yields (id : Int) (part : CalendarPart) (m : Option Moment) :
    Yields id V (partOf id part m) := by
  unfold partOf
  split
  · exact meets_ok.mpr (hV.scalar _)
  · exact yields_fail

variable (named? : String → Option ZoneRule)

theorem timestampOverloads_keep (name label : String) (part : CalendarPart) :
    Func.Keeps V ⟨name, timestampOverloads named? name label part⟩ := by
  refine Func.keeps_cons (keeps_ofValues fun node args hargs => ?_)
    (Func.keeps_single (keeps_ofValues fun node args hargs => ?_))
  · split
    · exact offers_some (partOf_yields hV node part _)
    · exact offers_none
  · split
    · refine offers_some ?_
      unfold partIn
      split
      · next f hf => exact meets_error.mpr ((FailsAt.timed node _).fault hf)
      · exact partOf_yields hV node part _
    · exact offers_none

theorem durationOverload_keeps (name label : String) (part : Duration → Int) :
    (durationOverload name label part).Keeps V := by
  refine keeps_ofValues fun node args hargs => ?_
  split
  · exact offers_some (meets_ok.mpr (hV.scalar _))
  · exact offers_none

theorem calendarFunc_keeps (name label : String) (part : CalendarPart) :
    (calendarFunc named? name label part).Keeps V :=
  timestampOverloads_keep hV named? name label part

theorem clockFunc_keeps (name label : String) (part : CalendarPart) (span : Duration → Int) :
    (clockFunc named? name label part span).Keeps V :=
  Func.keeps_append (timestampOverloads_keep hV named? name label part)
    (Func.keeps_single (durationOverload_keeps hV name label span))

theorem timeParts_keep : ∀ f ∈ timeParts named?, f.Keeps V := by
  simp only [timeParts, List.forall_mem_cons, List.not_mem_nil, false_implies, implies_true,
    and_true]
  have hcalendar := calendarFunc_keeps hV named?
  have hclock := clockFunc_keeps hV named?
  exact ⟨hcalendar _ _ _, hcalendar _ _ _, hcalendar _ _ _, hcalendar _ _ _, hcalendar _ _ _,
    hcalendar _ _ _, hclock _ _ _ _, hclock _ _ _ _, hclock _ _ _ _, hclock _ _ _ _⟩

/-- Run on values with an invariant, the standard library yields it. -/
theorem standard_keeps : (standard named?).Keeps V := by
  refine Registry.keeps_ofFunctions ?_
  simp only [standardFunctions, List.forall_mem_append]
  exact ⟨⟨⟨⟨comparisons_keep hV, contents_keep hV⟩, arithmetic_keep hV⟩, conversions_keep hV⟩,
    timeParts_keep hV named?⟩

end CommonExpr.Library
