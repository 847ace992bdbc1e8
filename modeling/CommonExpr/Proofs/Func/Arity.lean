import CommonExpr.Proofs.Func.Selection

/-!
Overloads of another arity.

On values an overload that takes another number of arguments never applies.  On faults it
may answer all the same: a strict overload asks for the values of all arguments before
their number is looked at.  Main statement: without the overloads of other arities a call
yields what it did, unless a strict one of them comes before a lenient one that takes the
arguments, and hides it.
-/

namespace CommonExpr

namespace Func

/-- The function without the overloads that take another number of arguments. -/
def ofArity (arity : Nat) (f : Func) : Func :=
  { f with overloads := f.overloads.filter fun o => o.params.length = arity }

theorem flatMap_ofArity (arity : Nat) (candidates : List Func) :
    (candidates.map (ofArity arity)).flatMap Func.overloads =
      (candidates.flatMap Func.overloads).filter fun o => o.params.length = arity := by
  induction candidates with
  | nil => rfl
  | cons f rest ih => simp [ofArity, ih]

end Func

namespace Overload

/-- Whether an overload answers a call with faults among its arguments: a strict one passes
the faults on, a lenient one has to take as many arguments. -/
def Answers (arity : Nat) (o : Overload) : Prop := o.isStrict = true ∨ o.params.length = arity

instance (arity : Nat) (o : Overload) : Decidable (o.Answers arity) :=
  inferInstanceAs (Decidable (_ ∨ _))

/-- What an overload answers on arguments whose faults merge to `f`. -/
def answer (id : Int) (args : List (Outcome Value)) (f : Fault) (o : Overload) : Outcome Value :=
  match o.body with
  | .strict _ => .error f
  | .lenient run => run id args

theorem answer_of_strict {o : Overload} (hstrict : o.isStrict = true) (id : Int)
    (args : List (Outcome Value)) (f : Fault) : o.answer id args f = .error f := by
  unfold answer
  cases hbody : o.body with
  | strict run => rfl
  | lenient run => simp [isStrict, hbody] at hstrict

/-- A lenient overload is the first one that takes `arity` arguments, but a strict overload
comes before it. -/
def Hides (overloads : List Overload) (arity : Nat) (o : Overload) : Prop :=
  ∃ before after, overloads = before ++ o :: after ∧ o.isStrict = false ∧
    o.params.length = arity ∧ (∀ p ∈ before, p.params.length ≠ arity) ∧
    ∃ p ∈ before, p.isStrict = true

theorem Hides.exists_body {overloads : List Overload} {arity : Nat} {o : Overload}
    (hhides : Hides overloads arity o) : ∃ run, o.body = .lenient run := by
  obtain ⟨-, -, -, hlenient, -⟩ := hhides
  cases hbody : o.body with
  | strict run => simp [isStrict, hbody] at hlenient
  | lenient run => exact ⟨run, rfl⟩

theorem Hides.find? {overloads : List Overload} {arity : Nat} {o : Overload}
    (hhides : Hides overloads arity o) :
    (overloads.find? fun o => o.params.length = arity) = some o := by
  obtain ⟨before, after, rfl, -, harity, hbefore, -⟩ := hhides
  rw [List.find?_eq_some_iff_append]
  refine ⟨by simpa using harity, before, after, rfl, ?_⟩
  intro p hp
  simpa using hbefore p hp

end Overload

namespace Func

section Faults

variable {id : Int} {args : List (Outcome Value)} {f : Fault}

/-- What the first of several overloads answers that does, and the merged fault if none does. -/
def answerAmong (id : Int) (args : List (Outcome Value)) (f : Fault) (overloads : List Overload) :
    Outcome Value :=
  ((overloads.find? fun o => o.Answers args.length).map (Overload.answer id args f)).getD (.error f)

/-- Step: on faults an overload answers, or is passed over. -/
theorem dispatchAmong_faults (hargs : collect args = .error f) (overloads : List Overload) :
    dispatchAmong id args overloads =
      (overloads.find? fun o => o.Answers args.length).map (Overload.answer id args f) := by
  induction overloads with
  | nil => rfl
  | cons o rest ih =>
      rw [dispatchAmong, List.find?_cons]
      cases hbody : o.body with
      | strict run => simp [hargs, hbody, Overload.Answers, Overload.isStrict, Overload.answer]
      | lenient run =>
          by_cases harity : o.params.length = args.length
          · simp [hbody, harity, Overload.Answers, Overload.answer]
          · simp [hbody, harity, ih, Overload.Answers, Overload.isStrict]

/-- Run: functions that are tried in order answer as one with all their overloads. -/
theorem dispatchFirst_faults (hargs : collect args = .error f) (name : String)
    (candidates : List Func) :
    dispatchFirst id name args candidates =
      answerAmong id args f (candidates.flatMap Func.overloads) := by
  unfold answerAmong
  induction candidates with
  | nil => simp [dispatchFirst, hargs]
  | cons g rest ih =>
      rw [dispatchFirst, dispatch, dispatchAmong_faults hargs, ih, List.flatMap_cons,
        List.find?_append]
      cases g.overloads.find? fun o => o.Answers args.length with
      | none => rfl
      | some o => rfl

/-- Among overloads of one arity the first one answers. -/
theorem answerAmong_filter (overloads : List Overload) :
    answerAmong id args f (overloads.filter fun o => o.params.length = args.length) =
      ((overloads.find? fun o => o.params.length = args.length).map
        (Overload.answer id args f)).getD (.error f) := by
  rw [answerAmong, List.find?_filter]
  congr 3
  funext o
  by_cases harity : o.params.length = args.length <;> simp [harity, Overload.Answers]

/-- A hidden overload is not run: the strict one before it passes the faults on. -/
theorem answerAmong_of_hides {overloads : List Overload} {o : Overload}
    (hhides : Overload.Hides overloads args.length o) :
    answerAmong id args f overloads = .error f := by
  obtain ⟨before, after, rfl, -, -, hbefore, p, hp, hstrict⟩ := hhides
  unfold answerAmong
  rw [List.find?_append]
  cases hfirst : before.find? fun o => o.Answers args.length with
  | none =>
      have hnone := List.find?_eq_none.mp hfirst p hp
      exact absurd (decide_eq_true (Or.inl hstrict : p.Answers args.length)) hnone
  | some q =>
      have hanswers : q.Answers args.length := by simpa using List.find?_some hfirst
      have hq := hbefore q (List.mem_of_find?_eq_some hfirst)
      rw [Option.some_or, Option.map_some, Option.getD_some]
      exact Overload.answer_of_strict (hanswers.resolve_right hq) id args f

/-- If no overload is hidden, those of other arities may be left out. -/
theorem answerAmong_filter_of_not_hides {overloads : List Overload}
    (hfree : ∀ o, ¬ Overload.Hides overloads args.length o) :
    answerAmong id args f (overloads.filter fun o => o.params.length = args.length) =
      answerAmong id args f overloads := by
  rw [answerAmong_filter, answerAmong]
  cases hfirst : overloads.find? fun o => o.params.length = args.length with
  | none =>
      have hother : ∀ p ∈ overloads, p.params.length ≠ args.length := by
        simpa using List.find?_eq_none.mp hfirst
      cases hanswer : overloads.find? fun o => o.Answers args.length with
      | none => rfl
      | some q =>
          have hanswers : q.Answers args.length := by simpa using List.find?_some hanswer
          have hq := hother q (List.mem_of_find?_eq_some hanswer)
          exact (Overload.answer_of_strict (hanswers.resolve_right hq) id args f).symm
  | some o =>
      obtain ⟨harity, before, after, rfl, hbefore⟩ := List.find?_eq_some_iff_append.mp hfirst
      have harity : o.params.length = args.length := by simpa using harity
      have hbefore : ∀ p ∈ before, p.params.length ≠ args.length := by simpa using hbefore
      rw [List.find?_append]
      cases hearlier : before.find? fun o => o.Answers args.length with
      | none => simp [Overload.Answers, harity]
      | some q =>
          have hanswers : q.Answers args.length := by simpa using List.find?_some hearlier
          have hq := List.mem_of_find?_eq_some hearlier
          have hstrict := hanswers.resolve_right (hbefore q hq)
          -- the strict `q` would hide `o` if `o` were lenient
          have ho : o.isStrict = true := by
            by_contra hlenient
            exact hfree o ⟨before, after, rfl, by simpa using hlenient, harity, hbefore, q, hq,
              hstrict⟩
          simp [Overload.answer_of_strict ho, Overload.answer_of_strict hstrict]

end Faults

/-- On values the overloads of other arities do not matter. -/
theorem dispatchFirst_ofArity_values (id : Int) (name : String) (values : List Value)
    (candidates : List Func) :
    dispatchFirst id name (values.map .ok) (candidates.map (ofArity values.length)) =
      dispatchFirst id name (values.map .ok) candidates := by
  have hfirst : Overload.first? ((candidates.flatMap Func.overloads).filter
      fun o => o.params.length = values.length) values =
      Overload.first? (candidates.flatMap Func.overloads) values := by
    unfold Overload.first?
    rw [List.find?_filter]
    congr 1
    funext o
    by_cases happlies : o.Applies (values.map Value.unwrap)
    · have harity : o.params.length = values.length := by simpa using happlies.1
      simp [happlies, harity]
    · simp [happlies]
  rw [dispatchFirst_values, dispatchFirst_values, flatMap_ofArity, hfirst]

/-- Without the overloads that take another number of arguments a call yields what it did,
unless faults are among the arguments and a lenient overload that takes them is hidden: then
the call yields their merged fault, and not what this overload makes of them. -/
theorem dispatchFirst_ofArity_iff (id : Int) (name : String) (args : List (Outcome Value))
    (candidates : List Func) :
    (dispatchFirst id name args (candidates.map (ofArity args.length)) =
        dispatchFirst id name args candidates ↔
      ∀ f o run, collect args = .error f →
        Overload.Hides (candidates.flatMap Func.overloads) args.length o → o.body = .lenient run →
          run id args = .error f) ∧
    ∀ f o run, collect args = .error f →
      Overload.Hides (candidates.flatMap Func.overloads) args.length o → o.body = .lenient run →
        dispatchFirst id name args candidates = .error f ∧
        dispatchFirst id name args (candidates.map (ofArity args.length)) = run id args := by
  have hidden : ∀ f o run, collect args = .error f →
      Overload.Hides (candidates.flatMap Func.overloads) args.length o → o.body = .lenient run →
        dispatchFirst id name args candidates = .error f ∧
        dispatchFirst id name args (candidates.map (ofArity args.length)) = run id args := by
    intro f o run hargs hhides hbody
    rw [dispatchFirst_faults hargs, dispatchFirst_faults hargs, flatMap_ofArity,
      answerAmong_of_hides hhides, answerAmong_filter, hhides.find?]
    simp [Overload.answer, hbody]
  refine ⟨⟨?_, ?_⟩, hidden⟩
  · intro hsame f o run hargs hhides hbody
    obtain ⟨hfault, hrun⟩ := hidden f o run hargs hhides hbody
    rw [← hrun, hsame, hfault]
  · intro hrun
    cases hargs : collect args with
    | ok values =>
        obtain rfl := (collect_eq_ok_iff args values).mp hargs
        rw [List.length_map]
        exact dispatchFirst_ofArity_values id name values candidates
    | error f =>
        by_cases hfree : ∀ o, ¬ Overload.Hides (candidates.flatMap Func.overloads) args.length o
        · rw [dispatchFirst_faults hargs, dispatchFirst_faults hargs, flatMap_ofArity]
          exact answerAmong_filter_of_not_hides hfree
        · obtain ⟨o, hhides⟩ := not_forall_not.mp hfree
          obtain ⟨run, hbody⟩ := hhides.exists_body
          obtain ⟨hfault, hyields⟩ := hidden f o run hargs hhides hbody
          rw [hfault, hyields, hrun f o run hargs hhides hbody]

end Func

namespace ArityWitness

def single : Overload := ⟨"single", [.int], .strict fun _ args => .ok (.ofList args)⟩

/-- Tells how many arguments it was given, whatever they are. -/
def pair : Overload := .ofOutcomes "pair" 2 fun _ args => .ok (.int (Int64.ofNat args.length))

/-- A strict overload of one argument, and then a lenient one of two. -/
def mixed : Func := ⟨"f", [single, pair]⟩

def unknown : Fault := .unknown (.ofList [4])

def args : List (Outcome Value) := [.ok (.int 1), .error unknown]

theorem pair_hidden : Overload.Hides ([mixed].flatMap Func.overloads) args.length pair :=
  ⟨[single], [], rfl, rfl, rfl, by decide, single, List.mem_cons_self, rfl⟩

theorem unknown_passed_on :
    collect args = .error unknown ∧
      Overload.Hides ([mixed].flatMap Func.overloads) args.length pair ∧
      Func.dispatchFirst 8 "f" args [mixed] = .error unknown ∧
      Func.dispatchFirst 8 "f" args ([mixed].map (Func.ofArity args.length)) = .ok (.int 2) ∧
      Func.dispatchFirst 8 "f" [.ok .null, .ok .null] ([mixed].map (Func.ofArity 2)) =
        Func.dispatchFirst 8 "f" [.ok .null, .ok .null] [mixed] := by
  have hcollect : collect args = .error unknown := rfl
  obtain ⟨hfault, hrun⟩ :=
    (Func.dispatchFirst_ofArity_iff 8 "f" args [mixed]).2 unknown pair _ hcollect pair_hidden rfl
  refine ⟨hcollect, pair_hidden, hfault, hrun, ?_⟩
  apply (Func.dispatchFirst_ofArity_iff 8 "f" [.ok .null, .ok .null] [mixed]).1.mpr
  intro f o run hfault
  cases hfault

/-- An overload of one argument decides a call with two. -/
theorem lenient_overload_hidden :
    Func.dispatchFirst 8 "f" args [mixed] = .error unknown ∧
      Func.dispatchFirst 8 "f" args ([mixed].map (Func.ofArity args.length)) = .ok (.int 2) ∧
      Func.dispatchFirst 8 "f" args [mixed] ≠
        Func.dispatchFirst 8 "f" args ([mixed].map (Func.ofArity args.length)) := by
  refine ⟨rfl, rfl, ?_⟩
  intro hsame
  cases hsame

end ArityWitness

end CommonExpr
