import CommonExpr.Library.Strings
import CommonExpr.Proofs.Library.Wrapping

/-!
The functions on strings and wrappers around their arguments.

Formatting takes elements out of their wrappers, but to `join` a wrapped element is no string.
Main statement: calls whose arguments differ only in wrappers agree, joins if both lists are
of bare strings or neither is.
-/

namespace CommonExpr

/-- Values that are not different from each other, faults being no values. -/
def SameIfValues (o o' : Outcome Value) : Prop := ∀ v w, o = .ok v → o' = .ok w → v = w

theorem sameIfValues_lax : Lax SameIfValues where
  refl o := by
    rintro v w rfl heq
    exact Except.ok.inj heq
  faults _ _ := nofun

variable {x : Option Protobuf.Schema} {p : Protobuf.Schema} {shared : Prop}

namespace Library

open Overload

/-! Strings -/

/-- A clause writes its argument without the wrapper. -/
theorem write_congr (count : Nat) (clauses : List Clause) {vs ws : List Value}
    (hunwrap : vs.map Value.unwrap = ws.map Value.unwrap) :
    Format.write count clauses vs = Format.write count clauses ws := by
  induction clauses generalizing vs ws with
  | nil => rfl
  | cons clause rest ih =>
      cases clause with
      | literal text => rw [Format.write, Format.write, ih hunwrap]
      | verb v precision =>
          cases vs with
          | nil =>
              obtain rfl : ws = [] := by simpa using hunwrap.symm
              rfl
          | cons a vs =>
              cases ws with
              | nil => cases hunwrap
              | cons b ws =>
                  obtain ⟨hhead, htail⟩ := List.cons.inj hunwrap
                  rw [Format.write, Format.write, hhead, ih htail]

theorem formatList_agrees {xs ys : Items} (hbare : xs.SameBare ys) (id : Int) (pattern : String) :
    Agrees x p (formatList id pattern xs) (formatList id pattern ys) := by
  unfold formatList
  rcases collect_cases hbare id with ⟨vs, ws, hvs, hws, hunwrap⟩ | ⟨f, g, hf, hg⟩
  · have hlength : vs.length = ws.length := by simpa using congrArg List.length hunwrap
    have hformat : CommonExpr.format pattern vs = CommonExpr.format pattern ws := by
      simp only [CommonExpr.format, hlength, fun clauses => write_congr ws.length clauses hunwrap]
    simp only [hvs, hws, hformat]
    exact agrees_lax.refl _
  · simp only [hf, hg]
    exact .faults _ _

theorem formatFunc_respects : formatFunc.Respects x p (Agrees x p) := by
  refine List.forall_mem_singleton.mpr (respects_pair agrees_lax fun node a b a' b' halike => ?_)
  obtain ⟨ha, hb⟩ := halike.pair
  cases ha with
  | list hty hty' hitems => exact .none
  | same =>
      rcases hb.lists_or_same with ⟨ty, ty', xs, ys, rfl, rfl, hbare⟩ | ⟨rfl, -⟩
      · cases a with
        | scalar a =>
            cases a with
            | string pattern => exact .some (formatList_agrees hbare node pattern)
            | _ => exact .none
        | _ => exact .none
      · exact agrees_lax.rel_refl _

/-! Joining -/

theorem string_or_not (v : Value) : (∃ s, v = .string s) ∨ ∀ s, v ≠ .string s := by
  cases v with
  | scalar v =>
      cases v with
      | string s => exact Or.inl ⟨s, rfl⟩
      | _ => exact Or.inr nofun
  | _ => exact Or.inr nofun

/-- Joining succeeds on bare strings only. -/
theorem joinStrings_eq_ok_iff {id : Int} {os : List (Outcome Value)} {pieces : List (List Char)} :
    joinStrings id os = .ok pieces ↔
      ∃ texts : List String, os = texts.map (fun s => .ok (.string s)) ∧
        pieces = texts.map String.toList := by
  induction os generalizing pieces with
  | nil =>
      constructor
      · rintro ⟨⟩
        exact ⟨[], rfl, rfl⟩
      · rintro ⟨texts, htexts, rfl⟩
        obtain rfl : texts = [] := by simpa using htexts.symm
        rfl
  | cons o os ih =>
      constructor
      · intro hjoin
        cases o with
        | error f => cases hjoin
        | ok v =>
            rcases string_or_not v with ⟨s, rfl⟩ | hne
            · rw [joinStrings] at hjoin
              cases hrest : joinStrings id os with
              | error f => simp only [hrest, reduceCtorEq] at hjoin
              | ok rest =>
                  obtain ⟨texts, rfl, rfl⟩ := ih.mp hrest
                  simp only [hrest] at hjoin
                  cases hjoin
                  exact ⟨s :: texts, rfl, rfl⟩
            · rw [joinStrings.eq_4 _ _ _ hne] at hjoin
              cases hjoin
      · rintro ⟨texts, htexts, rfl⟩
        cases texts with
        | nil => cases htexts
        | cons s texts =>
            obtain ⟨rfl, htail⟩ := List.cons.inj htexts
            rw [joinStrings, ih.mpr ⟨texts, htail, rfl⟩]
            rfl

/-- Whether a list is read as bare strings. -/
def Strings (id : Int) (items : Items) (texts : List String) : Prop :=
  items.read id = texts.map fun s => .ok (.string s)

theorem joinList_eq_ok_iff {id : Int} {sep : String} {ty : Ty} {items : Items} {v : Value} :
    joinList id sep (.list ty items) = .ok v ↔
      ∃ texts, Strings id items texts ∧
        v = .string (String.ofList (Text.join sep.toList (texts.map String.toList))) := by
  rw [joinList]
  cases hjoin : joinStrings id (items.read id) with
  | error f =>
      simp only [reduceCtorEq, false_iff]
      rintro ⟨texts, htexts, -⟩
      cases hjoin.symm.trans (joinStrings_eq_ok_iff.mpr ⟨texts, htexts, rfl⟩)
  | ok pieces =>
      obtain ⟨texts, htexts, rfl⟩ := joinStrings_eq_ok_iff.mp hjoin
      constructor
      · rintro ⟨⟩
        exact ⟨texts, htexts, rfl⟩
      · rintro ⟨texts', htexts', rfl⟩
        have hpieces := hjoin.symm.trans (joinStrings_eq_ok_iff.mpr ⟨texts', htexts', rfl⟩)
        rw [Except.ok.inj hpieces]

/-- Lists of bare strings that differ in wrappers are the same strings. -/
theorem Strings.unique {id : Int} {xs ys : Items} {texts texts' : List String}
    (hxs : Strings id xs texts) (hys : Strings id ys texts') (hbare : xs.SameBare ys) :
    texts = texts' := by
  have hread := hbare id
  rw [hxs, hys, List.map_map, List.map_map] at hread
  exact List.map_injective_iff.mpr (fun s s' heq => by cases heq; rfl) hread

theorem joinList_same {id : Int} {sep : String} {v w : Value} (halike : v.Alike x p shared w) :
    SameIfValues (joinList id sep v) (joinList id sep w) := by
  rcases halike.lists_or_same with ⟨ty, ty', xs, ys, rfl, rfl, hbare⟩ | ⟨rfl, -⟩
  · intro r r' hr hr'
    obtain ⟨texts, htexts, rfl⟩ := joinList_eq_ok_iff.mp hr
    obtain ⟨texts', htexts', rfl⟩ := joinList_eq_ok_iff.mp hr'
    rw [htexts.unique htexts' hbare]
  · exact sameIfValues_lax.refl _

theorem join_respects : join.Respects x p SameIfValues := by
  refine List.forall_mem_cons.mpr ⟨?_, List.forall_mem_singleton.mpr ?_⟩
  · refine respects_single sameIfValues_lax fun node v w halike => ?_
    exact .some (joinList_same halike.single)
  · refine respects_pair sameIfValues_lax fun node a b a' b' halike => ?_
    obtain ⟨ha, hb⟩ := halike.pair
    cases hb with
    | list hty hty' hitems => exact .none
    | same =>
        cases b with
        | scalar b =>
            cases b with
            | string sep => exact .some (joinList_same ha)
            | _ => exact .none
        | _ => exact .none

/-- Whether arguments are a list of bare strings, and a separator if there are two. -/
def Joinable (id : Int) (args : List Value) : Prop :=
  ∃ ty items texts, ty.name = "list" ∧ Strings id items texts ∧
    (args = [.list ty items] ∨ ∃ sep s, sep.unwrap = .string s ∧ args = [.list ty items, sep])

/-- What a list parameter takes and a join succeeds on is a list of bare strings. -/
theorem eq_list_of_takes {a : Value} (htakes : Ty.dynList.Takes a.unwrap) {id : Int} {sep : String}
    {v : Value} (hjoin : joinList id sep a.unwrap = .ok v) :
    ∃ ty items texts, ty.name = "list" ∧ Strings id items texts ∧ a = .list ty items := by
  cases a with
  | list ty items =>
      obtain ⟨texts, htexts, -⟩ := joinList_eq_ok_iff.mp hjoin
      rcases htakes with hdyn | hname
      · exact absurd hdyn (by decide)
      · exact ⟨ty, items, texts, hname.symm, htexts, rfl⟩
  | _ => cases hjoin

theorem join_call_list {ty : Ty} (hty : ty.name = "list") (items : Items) (id : Int) :
    join.call id [.list ty items] = joinList id "" (.list ty items) := by
  refine Eq.trans (Func.call_of_applies ?_ id) rfl
  exact ⟨rfl, fun _ => .cons (Or.inr hty.symm) .nil⟩

theorem join_call_separated {ty : Ty} (hty : ty.name = "list") (items : Items) {sep : Value}
    {s : String} (hsep : sep.unwrap = .string s) (id : Int) :
    join.call id [.list ty items, sep] = joinList id s (.list ty items) := by
  have hstring : Ty.string.Takes sep.unwrap := by
    rw [hsep]
    exact Or.inr rfl
  refine Eq.trans (Func.call_of_length (by simp [ofValues]) id) ?_
  refine Eq.trans (Func.call_of_applies ?_ id) ?_
  · exact ⟨rfl, fun _ => .cons (Or.inr hty.symm) (.cons hstring .nil)⟩
  · simp only [Overload.run, ofValues, List.map_cons, List.map_nil, hsep]
    rfl

theorem joinable_of_call {id : Int} {args : List Value} {v : Value}
    (hcall : join.call id args = .ok v) : Joinable id args := by
  obtain ⟨o, ho, happlies, hrun⟩ := Func.exists_run_of_call hcall
  have hstrict := happlies.2
  rcases List.mem_pair.mp ho with rfl | rfl
  · obtain ⟨a, ha, htakes⟩ := exists_single (hstrict rfl)
    obtain ⟨b, rfl, rfl⟩ := List.map_eq_singleton_iff.mp ha
    obtain ⟨ty, items, texts, hty, htexts, rfl⟩ := eq_list_of_takes htakes hrun
    exact ⟨ty, items, texts, hty, htexts, Or.inl rfl⟩
  · obtain ⟨a, a', ha, htakes, -⟩ := exists_pair (hstrict rfl)
    obtain ⟨b, rest, rfl, rfl, hrest⟩ := List.map_eq_cons_iff.mp ha
    obtain ⟨sep, rfl, rfl⟩ := List.map_eq_singleton_iff.mp hrest
    simp only [Overload.run, ofValues, List.map_cons, List.map_nil] at hrun
    rcases string_or_not sep.unwrap with ⟨s, hsep⟩ | hne
    · rw [hsep] at hrun
      obtain ⟨ty, items, texts, hty, htexts, rfl⟩ := eq_list_of_takes htakes hrun
      exact ⟨ty, items, texts, hty, htexts, Or.inr ⟨sep, s, hsep, rfl⟩⟩
    · -- A declared string may still be an unset field, which is no text to join by.
      generalize sep.unwrap = u at hrun hne
      split at hrun
      · next heq =>
          cases heq
          exact absurd rfl (hne _)
      · cases hrun

/-- A join succeeds on a list of bare strings and a separator, and on nothing else. -/
theorem join_call_ok_iff {id : Int} {args : List Value} :
    (∃ v, join.call id args = .ok v) ↔ Joinable id args := by
  constructor
  · rintro ⟨v, hcall⟩
    exact joinable_of_call hcall
  · rintro ⟨ty, items, texts, hty, htexts, rfl | ⟨sep, s, hsep, rfl⟩⟩
    · rw [join_call_list hty]
      exact ⟨_, joinList_eq_ok_iff.mpr ⟨texts, htexts, rfl⟩⟩
    · rw [join_call_separated hty items hsep]
      exact ⟨_, joinList_eq_ok_iff.mpr ⟨texts, htexts, rfl⟩⟩

/-! Whole libraries -/

theorem stringFunctions_respect :
    ∀ f ∈ stringFunctions, f.name ≠ join.name → f.Respects x p (Agrees x p) := by
  intro f hf hname
  have hrest : stringFunctions.filter (fun f => !f.isBare) = [formatFunc, join] := rfl
  rcases Func.respects_or_mem agrees_lax hrest hf with hrespects | hmem
  · exact hrespects
  · rcases List.mem_pair.mp hmem with rfl | rfl
    · exact formatFunc_respects
    · exact absurd rfl hname

/-- Joins agree if both succeed or neither does. -/
theorem join_agrees_iff {args args' : List Value} (hargs : Rewrapped x p args args') (id : Int) :
    Agrees x p (join.call id args) (join.call id args') ↔
      (Joinable id args ↔ Joinable id args') := by
  rw [← join_call_ok_iff, ← join_call_ok_iff]
  have hsame := Func.call_respects sameIfValues_lax join_respects hargs id
  cases hcall : join.call id args with
  | ok v =>
      cases hcall' : join.call id args' with
      | ok w =>
          obtain rfl := hsame v w hcall hcall'
          exact iff_of_true (agrees_lax.refl _) (iff_of_true ⟨v, rfl⟩ ⟨v, rfl⟩)
      | error g =>
          refine iff_of_false nofun fun hiff => ?_
          obtain ⟨w, hw⟩ := hiff.mp ⟨v, rfl⟩
          cases hw
  | error f =>
      cases hcall' : join.call id args' with
      | ok w =>
          refine iff_of_false nofun fun hiff => ?_
          obtain ⟨v, hv⟩ := hiff.mpr ⟨w, rfl⟩
          cases hv
      | error g => exact iff_of_true (.faults f g) (iff_of_false nofun nofun)

/-- Calls whose arguments differ in wrappers agree.  Joins do unless a list is of bare strings
in one call and has a wrapped one in the other. -/
theorem calls_see_through_wrappers (named? : String → Option ZoneRule) {args args' : List Value}
    (hargs : Rewrapped x p args args') (id : Int) :
    (∀ f ∈ standardFunctions named? ++ stringFunctions, f.name ≠ join.name →
      Agrees x p (f.call id args) (f.call id args')) ∧
    (Agrees x p (join.call id args) (join.call id args') ↔
      (Joinable id args ↔ Joinable id args')) := by
  refine ⟨fun f hf hname => ?_, join_agrees_iff hargs id⟩
  refine Func.call_respects agrees_lax ?_ hargs id
  rcases List.mem_append.mp hf with hstandard | hstrings
  · exact standardFunctions_respect named? f hstandard
  · exact stringFunctions_respect f hstrings hname

namespace WrappingWitness

/-- A letter and a list of it. -/
def letters : List Value := [.string "a", .list .dynList (.values [.string "a"])]

/-- The same with both strings wrapped. -/
def wrapped : List Value :=
  [.wrapped (.string "a"), .list .dynList (.values [.wrapped (.string "a")])]

theorem letters_rewrapped : Rewrapped none ⟨[]⟩ letters wrapped :=
  .of_rewraps (.cons (.scalar rfl) (.cons (.elements rfl rfl) .nil))

theorem joins_rewrapped : Rewrapped none ⟨[]⟩ letters.tail wrapped.tail :=
  .of_rewraps (.cons (.elements rfl rfl) .nil)

theorem wrapped_letter_found :
    Rewrapped none ⟨[]⟩ letters wrapped ∧ membership.call 1 letters = .ok (.bool true) ∧
      Agrees none ⟨[]⟩ (membership.call 1 letters) (membership.call 1 wrapped) := by
  have hmember : membership ∈ standardFunctions namedZone? ++ stringFunctions := by
    simp [standardFunctions, comparisons]
  refine ⟨letters_rewrapped, rfl, ?_⟩
  exact (calls_see_through_wrappers namedZone? letters_rewrapped 1).1 membership hmember (by decide)

theorem wrapped_letter_not_joined :
    Rewrapped none ⟨[]⟩ letters.tail wrapped.tail ∧
      join ∈ standardFunctions namedZone? ++ stringFunctions ∧
      join.call 1 letters.tail = .ok (.string "a") ∧
      join.call 1 wrapped.tail =
        fail 1 (.invalidArgument "join" "list element is wrapper(string), not string") ∧
      ¬ Agrees none ⟨[]⟩ (join.call 1 letters.tail) (join.call 1 wrapped.tail) := by
  refine ⟨joins_rewrapped, ?_, rfl, rfl, nofun⟩
  exact List.mem_append_right _ (by simp [stringFunctions])

end WrappingWitness

end Library

end CommonExpr
