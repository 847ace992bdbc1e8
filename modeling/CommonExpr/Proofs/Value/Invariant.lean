import CommonExpr.Plan.Evaluation
import CommonExpr.Proofs.Time
import CommonExpr.Proofs.Value.Reading

/-!
Properties of values that evaluation keeps.

Evaluation makes values in few ways: scalars, times in range, types, lists and
maps of values that it has, and what it reads out of values that it has.  An
invariant is a property that all of these keep.  Main statement: what an access
yields and what a literal yields has every invariant that the operands have.
-/

namespace CommonExpr

open Outcome

/-- A property that values made by evaluation have if the values that they are
made of have it. -/
structure Value.Invariant (V : Value → Prop) : Prop where
  null : V .null
  scalar : ∀ s, V (.scalar s)
  wrapped : ∀ s, V (.wrapped s)
  type : ∀ t, V (.type t)
  timestamp : ∀ t : Timestamp, t.InRange → V (.timestamp t)
  duration : ∀ d : Duration, d.InRange → V (.duration d)
  list : ∀ vs, (∀ v ∈ vs, V v) → V (.list (.list (commonType vs)) (.values vs))
  dynList : ∀ vs, (∀ v ∈ vs, V v) → V (.ofList vs)
  map : ∀ id es v, (∀ e ∈ es, V e.1 ∧ V e.2) →
    Value.newMap id (.map (commonType (es.map (·.1))) (commonType (es.map (·.2))))
      (.values es) = .ok v → V v
  emptyMap : V (.map .dynMap (.values []))
  concat : ∀ id ty xs ty' ys v, V (.list ty xs) → V (.list ty' ys) →
    concat id ty xs ty' ys = .ok v → V v
  field : ∀ v id name part, V v → v.field id name = .ok part → V part
  index : ∀ v id key part, V v → v.index id key = .ok part → V part

/-- Without any property, evaluation keeps it. -/
theorem Value.Invariant.trivial : Value.Invariant fun _ => True := by
  constructor <;> intros <;> exact True.intro

namespace Value.Invariant

variable {V : Value → Prop} (hV : Value.Invariant V)

include hV

theorem ofLiteral (l : Literal) : V (.ofLiteral l) := by
  cases l with
  | null => exact hV.null
  | scalar s => exact hV.scalar s

theorem unwrap {v : Value} (hv : V v) : V v.unwrap := by
  unfold Value.unwrap
  split
  · exact hV.scalar _
  · exact hv

theorem map_unwrap {vs : List Value} (hvs : ∀ v ∈ vs, V v) : ∀ v ∈ vs.map Value.unwrap, V v := by
  intro v hv
  obtain ⟨w, hw, rfl⟩ := List.mem_map.mp hv
  exact hV.unwrap (hvs w hw)

theorem field_yields {v : Value} (hv : V v) (id : Int) (name : String) :
    Yields id V (v.field id name) :=
  (v.field_failsAt id name).yields fun part hpart => hV.field v id name part hv hpart

theorem index_yields {v : Value} (hv : V v) (id : Int) (key : Value) :
    Yields id V (v.index id key) :=
  (v.index_failsAt id key).yields fun part hpart => hV.index v id key part hv hpart

theorem concat_yields {ty ty' : Ty} {xs ys : Items} (hxs : V (.list ty xs))
    (hys : V (.list ty' ys)) (id : Int) : Yields id V (CommonExpr.concat id ty xs ty' ys) :=
  (concat_failsAt id ty xs ty' ys).yields fun v hv => hV.concat id ty xs ty' ys v hxs hys hv

/-- The list of values that are there, or the fault of those that are not. -/
theorem listValue_meets {F : Fault → Prop} (hF : Fault.Merges F) {elements : List (Outcome Value)}
    (helements : ∀ o ∈ elements, Meets V F o) : Meets V F (listValue elements) := by
  have hcollect := meets_collect hF helements
  unfold listValue
  split
  · next f hf => exact meets_error.mpr (hcollect.fault hf)
  · next vs hvs => exact meets_ok.mpr (hV.list vs (hcollect.value hvs))

omit hV in
theorem mem_pairUp {vs : List Value} (hvs : ∀ v ∈ vs, V v) : ∀ e ∈ pairUp vs, V e.1 ∧ V e.2 := by
  fun_induction pairUp vs with
  | case1 k v rest ih =>
      intro e he
      rcases List.mem_cons.mp he with rfl | he
      · exact ⟨hvs _ (by simp), hvs _ (by simp)⟩
      · exact ih (fun w hw => hvs w (by simp [hw])) e he
  | case2 vs => exact fun e he => absurd he List.not_mem_nil

theorem mapValue_meets {F : Fault → Prop} (hF : Fault.Merges F) {id : Int}
    (hid : ∀ f, f.At id → F f) {parts : List (Outcome Value)}
    (hparts : ∀ o ∈ parts, Meets V F o) : Meets V F (mapValue id parts) := by
  have hcollect := meets_collect hF hparts
  unfold mapValue
  split
  · next f hf => exact meets_error.mpr (hcollect.fault hf)
  · next vs hvs =>
      have hentries := mem_pairUp (hcollect.value hvs)
      have hyields := (newMap_failsAt id _ (.values (pairUp vs))).yields
        fun v hv => hV.map id (pairUp vs) v hentries hv
      exact hyields.mono (fun _ h => h) hid

end Value.Invariant

end CommonExpr
