import CommonExpr.Proofs.Plan.Chain

/-!
Resolution of qualified names.

A chain `n.f.g` on an identifier may be the variable `n.f.g`, the field `g` of the
variable `n.f`, or the field `g` of the field `f` of `n`, each in any container
around it.  Planning never lists these possibilities: readings grow while
accesses are added.  Main statement: what is evaluated is a search for the longest
name that is known, and of equally long names for the one in the innermost
container.
-/

namespace CommonExpr

/-- A name with fields appended. -/
def dotted (name : String) (fields : List (Int × String)) : String :=
  fields.foldl (fun name field => name ++ "." ++ field.2) name

theorem dotted_concat (name : String) (fields : List (Int × String)) (field : Int × String) :
    dotted name (fields ++ [field]) = dotted name fields ++ "." ++ field.2 :=
  List.foldl_append

/-- Fields as accesses, under the ids of their selections. -/
def fieldAccesses (fields : List (Int × String)) : List Access :=
  fields.map fun field => .field field.1 field.2

namespace Reading

/-- The readings of fields on candidate names: from all fields in the name to
none, the others as accesses in front of the rest. -/
def spread (candidates : List String) (fields : List (Int × String)) (rest : List Access) :
    List Reading :=
  (List.range (fields.length + 1)).reverse.map fun taken =>
    .mk (candidates.map (dotted · (fields.take taken))) (fieldAccesses (fields.drop taken) ++ rest)

variable (candidates : List String)

theorem map_add_spread (fields : List (Int × String)) (rest : List Access) (access : Access) :
    (spread candidates fields rest).map (add access) =
      spread candidates fields (rest ++ [access]) := by
  simp only [spread, List.map_map]
  congr
  funext taken
  simp only [Function.comp_apply, add, List.append_assoc]

/-- One more field can belong to the name only if all fields before it do. -/
theorem spread_concat (fields : List (Int × String)) (field : Int × String) :
    spread candidates (fields ++ [field]) [] =
      .mk (candidates.map (dotted · (fields ++ [field]))) [] ::
        spread candidates fields [.field field.1 field.2] := by
  have hlength : (fields ++ [field]).length = fields.length + 1 := List.length_append
  rw [spread, hlength, List.range_succ, List.reverse_concat, List.map_cons, spread]
  congr 1
  · rw [List.take_of_length_le (Nat.le_of_eq hlength),
      List.drop_of_length_le (Nat.le_of_eq hlength)]
    rfl
  · apply List.map_congr_left
    intro taken htaken
    have hle : taken ≤ fields.length := by
      rw [List.mem_reverse, List.mem_range] at htaken
      omega
    rw [List.take_append_of_le_length hle, List.drop_append_of_le_length hle]
    simp [fieldAccesses]

/-- The names that a further field may complete: those with all fields so far. -/
theorem qualified_spread (fields : List (Int × String)) (name : String) :
    qualified name (spread candidates fields []) =
      candidates.map fun c => dotted c fields ++ "." ++ name := by
  have hshorter : ((List.range fields.length).reverse.map fun taken =>
      Reading.mk (candidates.map (dotted · (fields.take taken)))
        (fieldAccesses (fields.drop taken) ++ [])).filter (·.accesses.isEmpty) = [] := by
    rw [List.filter_eq_nil_iff]
    intro r hr
    simp only [List.mem_map, List.mem_reverse, List.mem_range] at hr
    obtain ⟨taken, htaken, rfl⟩ := hr
    simp only [Reading.accesses, fieldAccesses, List.append_nil, List.isEmpty_iff,
      List.map_eq_nil_iff, List.drop_eq_nil_iff]
    omega
  rw [qualified, spread, List.range_succ, List.reverse_concat, List.map_cons,
    List.filter_cons_of_pos (by simp [Reading.accesses, fieldAccesses]), hshorter]
  simp [Reading.names, List.take_of_length_le, List.map_map, Function.comp_def]

/-- Step: a field right behind the fields may belong to the name, too. -/
theorem addAll_spread_field (hcandidates : candidates ≠ []) (fields : List (Int × String))
    (field : Int × String) :
    addAll (.field field.1 field.2) (spread candidates fields []) =
      spread candidates (fields ++ [field]) [] := by
  rw [addAll, map_add_spread, qualified_spread, spread_concat]
  cases candidates with
  | nil => exact absurd rfl hcandidates
  | cons c rest => simp only [List.map_cons, dotted_concat, List.nil_append]

/-- Step: every other access is one more access in all readings. -/
theorem addAll_spread_rest (fields : List (Int × String)) (rest : List Access)
    (access : Access) (hrest : rest ≠ [] ∨ ∀ id name, access ≠ .field id name) :
    addAll access (spread candidates fields rest) =
      spread candidates fields (rest ++ [access]) := by
  cases access with
  | index id key => exact map_add_spread candidates fields rest _
  | computed id key => exact map_add_spread candidates fields rest _
  | field id name =>
      have hne : rest ≠ [] := hrest.resolve_right fun hother => hother id name rfl
      have hnone : qualified name (spread candidates fields rest) = [] := by
        rw [qualified, List.flatMap_eq_nil_iff]
        intro r hr
        simp only [spread, List.mem_filter, List.mem_map, List.isEmpty_iff] at hr
        obtain ⟨⟨taken, -, rfl⟩, hempty⟩ := hr
        exact absurd (List.append_eq_nil_iff.mp hempty).2 hne
      rw [addAll, map_add_spread, hnone]

/-- Run: fields in a row, added one after the other. -/
theorem foldl_addAll_fields (hcandidates : candidates ≠ [])
    (first second : List (Int × String)) :
    (fieldAccesses second).foldl (fun rs access => addAll access rs)
        (spread candidates first []) =
      spread candidates (first ++ second) [] := by
  induction second generalizing first with
  | nil => rw [List.append_nil]; rfl
  | cons field tail ih =>
      rw [fieldAccesses, List.map_cons, List.foldl_cons,
        addAll_spread_field candidates hcandidates]
      rw [← fieldAccesses, ih, List.append_assoc, List.singleton_append]

/-- Run: accesses of any kind behind the fields, the first of which is no field. -/
theorem foldl_addAll_rest (fields : List (Int × String)) (first second : List Access)
    (hrest : first ≠ [] ∨ ∀ id name tail, second ≠ .field id name :: tail) :
    second.foldl (fun rs access => addAll access rs) (spread candidates fields first) =
      spread candidates fields (first ++ second) := by
  induction second generalizing first with
  | nil => rw [List.append_nil]; rfl
  | cons access tail ih =>
      have hstep : first ≠ [] ∨ ∀ id name, access ≠ .field id name := by
        rcases hrest with hne | hother
        · exact Or.inl hne
        · refine Or.inr fun id name haccess => hother id name tail ?_
          rw [haccess]
      rw [List.foldl_cons, addAll_spread_rest candidates fields first access hstep,
        ih (first ++ [access]) (Or.inl (by simp)), List.append_assoc, List.singleton_append]

end Reading

/-- Accesses added to an identifier are added to its readings. -/
theorem Attribute.foldl_add_named (id : Int) (name container : String) (provider : Provider)
    (readings : List Reading) (accesses : List Access) :
    accesses.foldl (fun a access => a.add access)
        (Attribute.named id name container provider readings) =
      .named id name container provider
        (accesses.foldl (fun rs access => Reading.addAll access rs) readings) := by
  induction accesses generalizing readings with
  | nil => rfl
  | cons access tail ih => exact ih (Reading.addAll access readings)

theorem Namespace.candidates_ne_nil (ns : Namespace) (name : String) :
    ns.candidates name ≠ [] := by
  unfold Namespace.candidates
  split
  · simp
  · split
    · simp
    · split <;> simp

namespace Planner

variable (p : Planner) (vars : Activation) (id : Int)

/-- What a candidate stands for when the first fields are taken as part of the
name: a variable, followed by the other fields and the rest, or, when no access
is left, a name that the provider knows. -/
def hit? (fields : List (Int × String)) (rest : List Access) (taken : Nat)
    (candidate : String) : Option (Outcome Value) :=
  match vars.resolve (dotted candidate (fields.take taken)) with
  | some bound => some (bound >>= fun v =>
      (fieldAccesses (fields.drop taken) ++ rest).foldlM (Access.apply vars) v)
  | none =>
      if fields.length ≤ taken ∧ rest.isEmpty then
        p.provider.findIdent id (dotted candidate (fields.take taken))
      else none

/-- The first hit, from all fields in the name down to none, and among the
candidates of the name in their order. -/
def firstHit? (name : String) (fields : List (Int × String)) (rest : List Access) :
    Option (Outcome Value) :=
  (List.range (fields.length + 1)).reverse.findSome? fun taken =>
    (p.scope.candidates name).findSome? (p.hit? vars id fields rest taken)

/-- A reading gives the first hit among its candidates. -/
theorem lookupName_dotted (candidates : List String) (fields : List (Int × String))
    (rest : List Access) (taken : Nat) :
    (lookupName vars p.provider id (fieldAccesses (fields.drop taken) ++ rest).isEmpty
        (candidates.map (dotted · (fields.take taken)))).map
          (· >>= Access.applyAll vars (fieldAccesses (fields.drop taken) ++ rest)) =
      candidates.findSome? (p.hit? vars id fields rest taken) := by
  rw [lookupName_eq_findSome?, List.findSome?_map, List.map_findSome?]
  congr
  funext c
  have hbare : (fieldAccesses (fields.drop taken) ++ rest).isEmpty = true ↔
      fields.length ≤ taken ∧ rest.isEmpty := by
    simp [fieldAccesses]
  rw [hit?, Function.comp_apply, Function.comp_apply]
  cases vars.resolve (dotted c (fields.take taken)) with
  | some bound =>
      rw [Option.some_or, Option.map_some]
      congr
      funext v
      exact Access.applyAll_eq_foldlM vars _ v
  | none =>
      rw [Option.none_or]
      by_cases hempty : fields.length ≤ taken ∧ rest.isEmpty
      · have hnil := List.isEmpty_iff.mp (hbare.mpr hempty)
        rw [if_pos (hbare.mpr hempty), if_pos hempty, hnil]
        have hpure : (fun o : Outcome Value => o >>= Access.applyAll vars []) = fun o => o := by
          funext o
          exact bind_pure o
        rw [hpure]
        exact Option.map_id'
      · rw [if_neg (fun hnil => hempty (hbare.mp hnil)), if_neg hempty]
        rfl

theorem search_spread (name : String) (fields : List (Int × String)) (rest : List Access) :
    Reading.search vars p.provider id
        (Reading.spread (p.scope.candidates name) fields rest) =
      p.firstHit? vars id name fields rest := by
  rw [Reading.search_eq_findSome?, Reading.spread, List.findSome?_map, firstHit?]
  congr
  funext taken
  exact lookupName_dotted p vars id _ fields rest taken

/-- A chain on an identifier has the outcome of its first hit, and is undeclared
without one. -/
theorem eval_chain_ident (name : String) (fields : List (Int × String)) (rest : List Access)
    (hrest : ∀ id field tail, rest ≠ .field id field :: tail) (e : Expr)
    (hchain : p.Chain (.ident id name) e (fieldAccesses fields ++ rest)) :
    ∃ o, p.plan e = .ok o ∧ ∀ vars, o.eval vars =
      (p.firstHit? vars id name fields rest).getD
        (fail id (.undeclaredReference (bareName name) p.scope.name)) := by
  obtain ⟨o, ho, hadded⟩ := hchain.exists_plan rfl
  refine ⟨o, ho, fun vars => ?_⟩
  have hreadings : (fieldAccesses fields ++ rest).foldl
      (fun rs access => Reading.addAll access rs) [.mk (p.scope.candidates name) []] =
        Reading.spread (p.scope.candidates name) fields rest := by
    have hsingle : [Reading.mk (p.scope.candidates name) []] =
        Reading.spread (p.scope.candidates name) [] [] := by
      simp [Reading.spread, dotted, fieldAccesses]
    rw [List.foldl_append, hsingle,
      Reading.foldl_addAll_fields _ (p.scope.candidates_ne_nil name), List.nil_append,
      Reading.foldl_addAll_rest _ fields [] rest (Or.inr hrest), List.nil_append]
  rw [← Plan.eval_toAttribute, hadded, Plan.toAttribute, identifier,
    Attribute.foldl_add_named, hreadings, Attribute.eval, search_spread]
  cases p.firstHit? vars id name fields rest <;> rfl

end Planner

namespace QualifiedWitness

def planner : Planner where
  dispatcher := ⟨[]⟩
  provider := .empty
  scope := { name := "a.b" }

/-- `x.f[0]` -/
def chain : Expr :=
  .call 4 "_[_]" [.select 2 (.ident 1 "x") "f", .literal 3 (.scalar (.int 0))]

/-- Binds names of different length in different containers. -/
def host : Activation :=
  .ofBindings ⟨[("a.b.x", .ok .null), ("x.f", .ok .null),
    ("a.x.f", .ok (.ofList [.int 7]))]⟩

theorem chain_accesses :
    planner.Chain (.ident 1 "x") chain (fieldAccesses [(2, "f")] ++ [.index 4 (.int 0)]) := by
  have hselect : planner.Chain (.ident 1 "x") (.select 2 (.ident 1 "x") "f") [.field 2 "f"] :=
    .select 2 "f" .nil
  have hkey : planner.plan (.literal 3 (.scalar (.int 0))) = .ok (.value 3 (.int 0)) := rfl
  exact .index hselect (.call rfl) hkey

theorem chain_eval :
    planner.firstHit? host 1 "x" [(2, "f")] [.index 4 (.int 0)] = some (.ok (.int 7)) ∧
      ∃ o, planner.plan chain = .ok o ∧ ∀ vars, o.eval vars =
        (planner.firstHit? vars 1 "x" [(2, "f")] [.index 4 (.int 0)]).getD
          (fail 1 (.undeclaredReference (Planner.bareName "x") planner.scope.name)) :=
  ⟨rfl, planner.eval_chain_ident 1 "x" [(2, "f")] [.index 4 (.int 0)]
    (fun _ _ _ h => by cases h) chain chain_accesses⟩

end QualifiedWitness

end CommonExpr
