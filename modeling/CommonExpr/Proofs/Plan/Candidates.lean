import CommonExpr.Proofs.Namespace
import CommonExpr.Proofs.Plan.Qualified

/-!
Candidates of dotted names.

A name with fields may be written as one identifier or as selections on a shorter one.  Main
statement: both ways have the same candidates in the same order, and those of a name behind a field
come from those of the name.
-/

namespace CommonExpr

/-- Selections on an expression, the innermost first. -/
def selects (e : Expr) (fields : List (Int × String)) : Expr :=
  fields.foldl (fun e field => .select field.1 e field.2) e

theorem Namespace.candidates_dotted (ns : Namespace) {name : String} (hname : name ≠ "")
    (fields : List (Int × String)) :
    ns.candidates (dotted name fields) = (ns.candidates name).map (dotted · fields) := by
  induction fields generalizing name with
  | nil => exact (List.map_id _).symm
  | cons field rest ih =>
      have hlonger : name ++ "." ++ field.2 ≠ "" := by simp
      have hdotted : dotted name (field :: rest) = dotted (name ++ "." ++ field.2) rest := rfl
      rw [hdotted, ih hlonger, ns.candidates_field hname, List.map_map]
      rfl

/-- The first reading takes all fields as part of the name. -/
theorem Reading.exists_spread (candidates : List String) (fields : List (Int × String)) :
    ∃ others, spread candidates fields [] =
      .mk (candidates.map (dotted · fields)) [] :: others := by
  rw [spread, List.range_succ, List.reverse_concat, List.map_cons, List.take_length,
    List.drop_length]
  exact ⟨_, rfl⟩

namespace Planner

variable (p : Planner)

theorem plan_selects {e : Expr} {a : Attribute} (he : p.plan e = .ok (.attribute a))
    (fields : List (Int × String)) :
    p.plan (selects e fields) =
      .ok (.attribute ((fieldAccesses fields).foldl (fun a access => a.add access) a)) := by
  induction fields generalizing e a with
  | nil => exact he
  | cons field rest ih => exact ih (plan_select_iff.mpr ⟨_, he, rfl⟩)

/-- Selections on an identifier are read as one name first. -/
theorem plan_selects_ident {name : String} (hname : name ≠ "") (id : Int)
    (fields : List (Int × String)) :
    ∃ others, p.plan (selects (.ident id name) fields) = .ok (.attribute
      (.named id (bareName name) p.scope.name p.provider
        (.mk (p.scope.candidates (dotted name fields)) [] :: others))) := by
  have hsingle : [Reading.mk (p.scope.candidates name) []] =
      Reading.spread (p.scope.candidates name) [] [] := by
    simp [Reading.spread, dotted, fieldAccesses]
  have hreadings : (fieldAccesses fields).foldl (fun rs access => Reading.addAll access rs)
      [.mk (p.scope.candidates name) []] =
        Reading.spread (p.scope.candidates name) fields [] := by
    rw [hsingle, Reading.foldl_addAll_fields _ (p.scope.candidates_ne_nil name), List.nil_append]
  obtain ⟨others, hothers⟩ := Reading.exists_spread (p.scope.candidates name) fields
  refine ⟨others, ?_⟩
  rw [p.plan_selects rfl, identifier, Attribute.foldl_add_named, hreadings, hothers,
    p.scope.candidates_dotted hname]

end Planner

/-- How the candidates for `name` go on with fields, and where they come from. -/
structure Namespace.Qualifies (ns : Namespace) (name : String) : Prop where
  field : ∀ field, ns.candidates (name ++ "." ++ field) =
    (ns.candidates name).map (· ++ "." ++ field)
  containers : name.toList.head? ≠ some '.' → ns.expand? name = none →
    ns.candidates name = (segments ns.name).inits.reverse.map (within · name) ∧
      (ns.candidates name).length = (segments ns.name).length + 1
  /-- The first reading of selections is the only reading of the whole name. -/
  spelled : ∀ p : Planner, p.scope = ns → ∀ id fields, ∃ reading others,
    p.plan (selects (.ident id name) fields) = .ok (.attribute
      (.named id (Planner.bareName name) ns.name p.provider (reading :: others))) ∧
    ∀ id', p.plan (.ident id' (dotted name fields)) = .ok (.attribute
      (.named id' (Planner.bareName (dotted name fields)) ns.name p.provider [reading]))

/-- Candidates commute with fields, for any container, aliases and name but the empty one. -/
theorem candidates_qualify (ns : Namespace) (name : String) (hname : name ≠ "") :
    ns.Qualifies name where
  field := ns.candidates_field hname
  containers hrelative hunaliased :=
    ⟨ns.candidates_of_unaliased hrelative hunaliased,
      ns.length_candidates_of_unaliased hrelative hunaliased⟩
  spelled p hscope id fields := by
    subst hscope
    obtain ⟨others, hplan⟩ := p.plan_selects_ident hname id fields
    exact ⟨_, others, hplan, fun _ => rfl⟩

namespace CandidateWitness

def nested : Namespace := { name := "a.b.c", aliases := [("M", "pkg.v1.Msg")] }

theorem nested_candidates :
    "x" ≠ "" ∧
      nested.candidates ("x" ++ "." ++ "y") = ["a.b.c.x.y", "a.b.x.y", "a.x.y", "x.y"] ∧
      (nested.candidates "x").length = 3 + 1 ∧
      nested.candidates (".M" ++ "." ++ "y") = ["pkg.v1.Msg.y"] := by
  have hx := candidates_qualify nested "x" (by decide)
  have hM := candidates_qualify nested ".M" (by decide)
  refine ⟨by decide, (hx.field "y").trans (by decide), ?_, (hM.field "y").trans (by decide)⟩
  exact (hx.containers (by decide) (by decide)).2.trans (by decide)

end CandidateWitness

end CommonExpr
