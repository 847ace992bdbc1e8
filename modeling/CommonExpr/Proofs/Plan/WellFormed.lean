import CommonExpr.Proofs.Plan.Provenance
import CommonExpr.Proofs.Protobuf.Writing
import CommonExpr.Proofs.Value.Stored

/-!
Evaluation keeps values well-formed.

Values are made by literals, by functions, by a provider, and by reading out of other
values.  Main statement: whatever is planned under the standard libraries and evaluated
over well-formed values gives a fault or a well-formed value.
-/

namespace CommonExpr

open Outcome

namespace Value

/-- Being well-formed is kept by all that evaluation does. -/
theorem wellFormed_invariant : Value.Invariant WellFormed where
  null := wellFormed_leaf trivial fun _ hpart => nomatch hpart
  scalar _ := wellFormed_leaf trivial fun _ hpart => nomatch hpart
  wrapped _ := wellFormed_leaf trivial fun _ hpart => nomatch hpart
  type _ := wellFormed_leaf trivial fun _ hpart => nomatch hpart
  timestamp _ hrange := wellFormed_leaf hrange fun _ hpart => nomatch hpart
  duration _ hrange := wellFormed_leaf hrange fun _ hpart => nomatch hpart
  list vs hvs := by
    refine wellFormed_list (commonType_proper hvs) hvs ?_
    rintro _ ⟨⟩ v hv
    exact commonType_admits hv
  dynList vs hvs := by
    refine wellFormed_list trivial hvs ?_
    rintro _ ⟨⟩ v hv
    exact Ty.dyn_admits v
  map id es v hes hmap := by
    refine wellFormed_map (commonType_proper ?_) (commonType_proper ?_) hes (fun e he => ?_) hmap
    · intro k hk
      obtain ⟨e, he, rfl⟩ := List.mem_map.mp hk
      exact (hes e he).1
    · intro w hw
      obtain ⟨e, he, rfl⟩ := List.mem_map.mp hw
      exact (hes e he).2
    · exact ⟨commonType_admits (List.mem_map_of_mem he), commonType_admits (List.mem_map_of_mem he)⟩
  emptyMap := by
    have hmap : Value.newMap 0 .dynMap (.values []) = .ok (.map .dynMap (.values [])) := rfl
    refine wellFormed_map ?_ ?_ (fun _ he => ?_) (fun _ he => ?_) hmap
    · trivial
    · trivial
    · cases he
    · cases he
  concat _ _ _ _ _ _ hxs hys hconcat := wellFormed_concat hxs hys hconcat
  field _ _ _ _ hv hpart := hv.field hpart
  index _ _ _ _ hv hpart := hv.index hpart

end Value

/-- Messages and packed messages of a sound schema are well-formed. -/
theorem Provider.ofSchema_keeps_wellFormed {schema : Protobuf.Schema} (hs : schema.Sound) :
    (Provider.ofSchema schema).Keeps Value.WellFormed := by
  refine Provider.ofSchema_keeps Value.wellFormed_invariant ?_ ?_
  · intro id type t fields m v hfields ht hmade hread
    have hm := Protobuf.messageOfFields_valid hs ht hfields hmade
    exact ((Protobuf.Message.reads_of_read hread).stored hs hm).1.wellFormed
  · intro id url payload v hread
    obtain ⟨type, inner, htype, hdecode, hreads⟩ := Protobuf.reads_of_unpackAny hread
    have hinner := (Protobuf.valid_of_decode? hs htype hdecode).1
    exact (hreads.stored hs hinner).1.wellFormed

/-- Whether functions come from the libraries, with zones from a lookup, and types from a
sound schema, if from anywhere. -/
structure Planner.IsSound (p : Planner) (named? : String → Option ZoneRule) : Prop where
  registries : ∀ r ∈ p.dispatcher.registries, r = Library.standard named? ∨ r = Library.strings
  provider : p.provider = .empty ∨
    ∃ schema : Protobuf.Schema, schema.Sound ∧ p.provider = .ofSchema schema

variable {p : Planner} {named? : String → Option ZoneRule}

theorem Planner.IsSound.isStandard (hp : p.IsSound named?) : p.IsStandard named? where
  registries := hp.registries
  provider := hp.provider.imp_right fun ⟨schema, _, hschema⟩ => ⟨schema, hschema⟩

theorem Planner.IsSound.keeps_wellFormed (hp : p.IsSound named?) :
    p.Keeps Value.WellFormed where
  values := Value.wellFormed_invariant
  dispatcher := hp.isStandard.dispatcher_keeps Value.wellFormed_invariant
  provider := by
    rcases hp.provider with hempty | ⟨schema, hs, hschema⟩
    · rw [hempty]
      exact Provider.empty_keeps Value.wellFormed_invariant
    · rw [hschema]
      exact Provider.ofSchema_keeps_wellFormed hs

theorem Activation.supports_wellFormed {vars : Activation}
    (hvars : ∀ name v, vars.resolve name = some (.ok v) → v.WellFormed) :
    vars.Supports Value.WellFormed (fun _ => True) fun _ => True where
  values := Value.wellFormed_invariant
  merges _ _ _ _ := trivial
  nodes _ _ _ _ := trivial
  bound name _ hbound := ensures_of fun v hv => hvars name v (hv ▸ hbound)

/-- Over well-formed values, evaluation gives a fault or a well-formed value. -/
theorem Planner.eval_wellFormed (hp : p.IsSound named?) {e : Expr} {plan : Plan}
    (hplan : p.plan e = .ok plan) {vars : Activation}
    (hvars : ∀ name v, vars.resolve name = some (.ok v) → v.WellFormed) :
    (∃ f, plan.eval vars = .error f) ∨ ∃ v, plan.eval vars = .ok v ∧ v.WellFormed := by
  have hkeeps := Planner.plan_keeps hp.keeps_wellFormed (S := fun _ => True) e
    (fun _ _ => trivial) hplan
  have hmeets := Plan.eval_meets (Activation.supports_wellFormed hvars) plan hkeeps
  cases heval : plan.eval vars with
  | error f => exact Or.inl ⟨f, rfl⟩
  | ok v => exact Or.inr ⟨v, rfl, hmeets.value heval⟩

namespace WellFormedWitness

/-- A box has counts, times and a box in it. -/
def boxType : Protobuf.MessageType :=
  ⟨"box.Box",
    [.mapOf 1 "counts" .string .int64,
      .many 2 "times" (.message Protobuf.WellKnown.timestamp),
      .one 3 "inner" (.message "box.Box")]⟩

def file : Protobuf.File :=
  { name := "box.proto", messages := [Protobuf.WellKnown.timestampType, boxType] }

def schema : Protobuf.Schema := ⟨[file]⟩

def planner : Planner := ⟨⟨[Library.standard namedZone?, Library.strings]⟩, .ofSchema schema, {}⟩

/-- A box that counts one `a`. -/
def box : Protobuf.Message := .mk schema boxType [(1, .map [(.string "a", .int64 1)])] []

def bindings : Bindings := ⟨[("x", .ok (.object schema box))]⟩

def host : Activation := .ofBindings bindings

/-- `[x.counts, x.inner.counts]` -/
def both : Expr :=
  .list 6 [.select 2 (.ident 1 "x") "counts",
    .select 5 (.select 4 (.ident 3 "x") "inner") "counts"]

def planned : Plan :=
  .list 6 [.attribute ((planner.identifier 1 "x").add (.field 2 "counts")),
    .attribute (((planner.identifier 3 "x").add (.field 4 "inner")).add (.field 5 "counts"))]

/-- What is counted in the box, and in the one that it would hold. -/
def counted : Value :=
  .list (.list (.map .string .int))
    (.values [.map (.map .string .int) (.protobuf schema [(.string "a", .int64 1)]),
      .map (.map .string .int) (.protobuf schema [])])

theorem schema_sound : schema.Sound := by decide

theorem planner_isSound : planner.IsSound namedZone? where
  registries := by simp [planner]
  provider := Or.inr ⟨schema, schema_sound, rfl⟩

theorem box_valid : box.Valid := by
  refine .mk schema_sound rfl (List.forall_mem_singleton.mpr ?_)
  have hfield : boxType.fieldAt? 1 = some (.mapOf 1 "counts" .string .int64) := rfl
  refine .map hfield rfl (List.forall_mem_singleton.mpr ⟨_, rfl, rfl⟩) ?_
  exact List.forall_mem_singleton.mpr (.scalar ⟨_, rfl, rfl⟩)

theorem host_wellFormed (name : String) (v : Value) (hv : host.resolve name = some (.ok v)) :
    v.WellFormed := by
  obtain ⟨before, after, hentries, -⟩ := List.lookup_eq_some_iff.mp hv
  have hmem : (name, .ok v) ∈ bindings.entries := by simp [hentries]
  cases List.mem_singleton.mp hmem
  exact Value.wellFormed_leaf ⟨schema_sound, box_valid⟩ fun _ hpart => nomatch hpart

theorem planned_of_both : planner.plan both = .ok planned := rfl

theorem counted_wellFormed :
    planner.plan both = .ok planned ∧ planned.eval host = .ok counted ∧ counted.WellFormed := by
  have heval : planned.eval host = .ok counted := rfl
  refine ⟨planned_of_both, heval, ?_⟩
  rcases Planner.eval_wellFormed planner_isSound planned_of_both host_wellFormed with
    ⟨f, hf⟩ | ⟨v, hv, hwell⟩
  · cases heval.symm.trans hf
  · cases heval.symm.trans hv
    exact hwell

end WellFormedWitness

end CommonExpr
