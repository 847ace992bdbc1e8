import CommonExpr.Proofs.Fault
import Mathlib.Data.List.Sort

/-!
Merging of faults.

Merging is associative, so that it does not matter how operands are grouped.  Main
statement: outcomes that are not all values are collected as the union of all unknowns,
or else as the first error, with each further one beside it in order.
-/

namespace CommonExpr

namespace IdSet

/-- Sets with the same ids are the same. -/
theorem ext_of_mem {a b : IdSet} (hmem : ∀ x, x ∈ a.ids ↔ x ∈ b.ids) : a = b := by
  have hids : a.ids = b.ids := a.ascending.eq_of_mem_iff b.ascending fun {x} => hmem x
  cases a
  cases b
  cases hids
  rfl

theorem union_assoc (a b c : IdSet) : (a.union b).union c = a.union (b.union c) :=
  ext_of_mem fun x => by simp only [mem_union, or_assoc]

end IdSet

/-- An error and what it carries, as they are listed beside another one. -/
def Error.listed (e : Error) : List Error := e.bare :: e.additional

theorem Error.add_assoc (a b c : Error) : (a.add b).add c = a.add (b.add c) := by
  simp [add, bare]

namespace Fault

theorem merge_assoc (f g h : Fault) : (f.merge g).merge h = f.merge (g.merge h) := by
  cases f with
  | unknown a =>
      cases g with
      | unknown b =>
          cases h with
          | unknown c => exact congrArg unknown (a.union_assoc b c)
          | error e => rfl
      | error e => cases h <;> rfl
  | error e =>
      cases g with
      | unknown b => cases h <;> rfl
      | error e' =>
          cases h with
          | unknown c => rfl
          | error e'' => exact congrArg error (e.add_assoc e' e'')

/-- Whether no error that is carried carries others. -/
def Flat : Fault → Prop
  | .unknown _ => True
  | .error e => ∀ x ∈ e.additional, x.additional = []

theorem Flat.merge {f g : Fault} (hf : f.Flat) (hg : g.Flat) : (f.merge g).Flat := by
  cases f with
  | unknown a => cases g <;> trivial
  | error e =>
      cases g with
      | unknown b => trivial
      | error e' =>
          refine List.forall_mem_append.mpr ⟨hf, List.forall_mem_cons.mpr ⟨rfl, hg⟩⟩

/-- What faults come to: exactly the ids that are not known, if there are any; or else the
first error, with all others beside it. -/
inductive Sum : List Fault → Fault → Prop
  | unknown {fs : List Fault} {ids : IdSet} (hsome : ∃ s, .unknown s ∈ fs)
      (hids : ∀ x, x ∈ ids.ids ↔ ∃ s, .unknown s ∈ fs ∧ x ∈ s.ids) : Sum fs (.unknown ids)
  | error (e : Error) (es : List Error) : Sum ((e :: es).map .error)
      (.error { e with additional := e.additional ++ es.flatMap Error.listed })

theorem sum_singleton (f : Fault) : Sum [f] f := by
  cases f with
  | unknown s => exact .unknown ⟨s, List.mem_singleton.mpr rfl⟩ fun x => by simp
  | error e =>
      obtain ⟨id, cause, additional⟩ := e
      simpa using Sum.error ⟨id, cause, additional⟩ []

/-- One more fault is merged into the sum. -/
theorem Sum.merge_last {fs : List Fault} {f : Fault} (hf : Sum fs f) (g : Fault) :
    Sum (fs ++ [g]) (f.merge g) := by
  cases hf with
  | @unknown _ ids hsome hids =>
      have hsome' : ∃ s, .unknown s ∈ fs ++ [g] :=
        hsome.imp fun s hs => List.mem_append_left _ hs
      cases g with
      | error e => exact .unknown hsome' fun x => by simp [hids]
      | unknown b =>
          refine .unknown hsome' fun x => ?_
          simp [hids, or_and_right, exists_or]
  | error e es =>
      cases g with
      | unknown b => exact .unknown ⟨b, by simp⟩ fun x => by simp
      | error e' =>
          have hsum := Sum.error e (es ++ [e'])
          simpa [Fault.merge, Error.add, Error.listed] using hsum

/-- Faults that are merged one by one come to their sum. -/
theorem Sum.foldl_merge {gs : List Fault} {g : Fault} (hg : Sum gs g) (fs : List Fault) :
    Sum (gs ++ fs) (fs.foldl Fault.merge g) := by
  induction fs generalizing gs g with
  | nil => simpa using hg
  | cons f fs ih => simpa using ih (hg.merge_last f)

end Fault

/-- The faults of outcomes in order. -/
def faults {α : Type} (outcomes : List (Outcome α)) : List Fault :=
  outcomes.filterMap fun
    | .ok _ => none
    | .error f => some f

/-- A fault that has been met stays, whatever follows. -/
theorem collectFrom_some {α : Type} (values : List α) (g : Fault) (outcomes : List (Outcome α)) :
    collectFrom values (some g) outcomes = .error ((faults outcomes).foldl Fault.merge g) := by
  induction outcomes generalizing values g with
  | nil => rfl
  | cons o rest ih =>
      cases o with
      | ok v => exact ih _ _
      | error f => exact ih _ _

/-- Collecting merges all faults, from the first to the last. -/
theorem collectFrom_none {α : Type} {values : List α} {outcomes : List (Outcome α)} {f : Fault}
    {rest : List Fault} (hfaults : faults outcomes = f :: rest) :
    collectFrom values none outcomes = .error (rest.foldl Fault.merge f) := by
  induction outcomes generalizing values with
  | nil => cases hfaults
  | cons o outcomes ih =>
      cases o with
      | ok v => exact ih hfaults
      | error g =>
          obtain ⟨rfl, rfl⟩ := List.cons.inj hfaults
          exact collectFrom_some values g outcomes

theorem mem_faults {α : Type} {outcomes : List (Outcome α)} {f : Fault} :
    f ∈ faults outcomes ↔ .error f ∈ outcomes := by
  rw [faults, List.mem_filterMap]
  constructor
  · rintro ⟨_ | g, hg, heq⟩
    · cases heq
      exact hg
    · cases heq
  · exact fun hf => ⟨_, hf, rfl⟩

/-- Outcomes with a fault among them are collected as the sum of their faults. -/
theorem collect_sum {α : Type} {outcomes : List (Outcome α)}
    (hfault : ∃ f, .error f ∈ outcomes) :
    ∃ f, collect outcomes = .error f ∧ Fault.Sum (faults outcomes) f := by
  obtain ⟨g, hg⟩ := hfault
  obtain ⟨f, rest, hfaults⟩ := List.exists_cons_of_ne_nil (List.ne_nil_of_mem (mem_faults.mpr hg))
  refine ⟨_, collectFrom_none hfaults, ?_⟩
  rw [hfaults]
  exact (Fault.sum_singleton f).foldl_merge rest

/-- With unknowns among them, outcomes are collected as the union of these. -/
theorem collect_unknown {α : Type} {outcomes : List (Outcome α)}
    (hunknown : ∃ s, .error (.unknown s) ∈ outcomes) :
    ∃ ids : IdSet, collect outcomes = .error (.unknown ids) ∧
      ∀ x, x ∈ ids.ids ↔ ∃ s, .error (.unknown s) ∈ outcomes ∧ x ∈ s.ids := by
  obtain ⟨s, hs⟩ := hunknown
  obtain ⟨f, hcollect, hsum⟩ := collect_sum ⟨_, hs⟩
  have hmem := mem_faults.mpr hs
  generalize hfaults : faults outcomes = fs at hsum hmem
  cases hsum with
  | @unknown _ ids _ hids =>
      refine ⟨ids, hcollect, fun x => (hids x).trans ?_⟩
      simp only [← hfaults, mem_faults]
  | error => simp at hmem

/-- With errors only among them, outcomes are collected as the first one with the others. -/
theorem collect_errors {α : Type} {outcomes : List (Outcome α)} {e : Error} {es : List Error}
    (hfaults : faults outcomes = (e :: es).map .error) :
    collect outcomes = .error (.error
      { e with additional := e.additional ++ es.flatMap fun x => x.bare :: x.additional }) := by
  have hfault : ∃ f, .error f ∈ outcomes :=
    ⟨.error e, mem_faults.mp (hfaults ▸ List.mem_cons_self)⟩
  obtain ⟨f, hcollect, hsum⟩ := collect_sum hfault
  rw [hcollect]
  generalize hfs : faults outcomes = fs at hsum hfaults
  cases hsum with
  | unknown hsome =>
      obtain ⟨s, hs⟩ := hsome
      simp [hfaults] at hs
  | error e' es' =>
      obtain ⟨rfl, rfl⟩ : e' = e ∧ es' = es := by
        simpa using List.map_injective_iff.mpr (fun _ _ => Fault.error.inj) hfaults
      rfl

end CommonExpr
