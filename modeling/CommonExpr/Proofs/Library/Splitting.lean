import CommonExpr.Proofs.Library.Joining
import CommonExpr.Proofs.Text.Splitting

/-!
Splitting, joining and replacing.

Main statement: the pieces of a text joined by the separator are the text, and replacing is
splitting and joining by the other text.  Each limit of replacements is one less than that of
pieces.
-/

namespace CommonExpr.Library

/-- The functions that take `s` apart at `sep` and put `new` between the parts. -/
structure SplitsAndJoins (s sep new : String) : Prop where
  /-- The pieces of a limit other than zero are the parts of the text; they are as many as the
  limit at most, and without a limit no separator is left in them. -/
  pieces : ∀ id (limit : Int64), limit ≠ 0 → ∃ texts : List String,
    split.call id [.string s, .string sep, .int limit] = .ok (.ofList (texts.map Value.string)) ∧
      (∀ id', join.call id' [.ofList (texts.map Value.string), .string sep] = .ok (.string s)) ∧
      (0 < limit.toInt → texts.length ≤ limit.toInt) ∧
      (limit.toInt < 0 → sep ≠ "" → ∀ text ∈ texts, ∀ i,
        ¬ Text.OccursAt sep.toList text.toList i)
  limited : ∀ id (n : Int64), 0 ≤ n.toInt → n.toInt < 2 ^ 63 - 1 →
    replace.call id [.string s, .string sep, .string new, .int n] = do
      let parts ← split.call id [.string s, .string sep, .int (n + 1)]
      join.call id [parts, .string new]
  unlimited : ∀ id (n : Int64), n.toInt < 0 →
    replace.call id [.string s, .string sep, .string new, .int n] = do
      let parts ← split.call id [.string s, .string sep, .int (-1)]
      join.call id [parts, .string new]
  every : ∀ id, replace.call id [.string s, .string sep, .string new] = do
    let parts ← split.call id [.string s, .string sep, .int (-1)]
    join.call id [parts, .string new]

variable {s sep new : String} {id : Int} {limit : Int}

theorem join_call_texts (texts : List String) (sep : String) :
    join.call id [.ofList (texts.map Value.string), .string sep] =
      .ok (.string (String.ofList (Text.join sep.toList (texts.map String.toList)))) := by
  rw [Value.ofList, join_call_separated rfl _ rfl]
  refine joinList_eq_ok_iff.mpr ⟨texts, ?_, rfl⟩
  rw [Strings, Items.read, List.map_map]
  rfl

/-- How often a text is cut for a limit of pieces. -/
def cutsFor (s : String) (limit : Int) : Nat :=
  if limit < 0 then Text.allCuts s.toList else limit.toNat - 1

theorem splitText_eq (hlimit : limit ≠ 0) :
    splitText s sep limit =
      (Text.split s.toList sep.toList (cutsFor s limit)).map String.ofList := by
  rw [splitText, if_neg hlimit]
  rfl

theorem toList_splitText (hlimit : limit ≠ 0) :
    (splitText s sep limit).map String.toList =
      Text.split s.toList sep.toList (cutsFor s limit) := by
  have hid : String.toList ∘ String.ofList = id := funext fun _ => String.toList_ofList
  rw [splitText_eq hlimit, List.map_map, hid, List.map_id]

/-- Pieces joined by a text are the text with it put for the separator. -/
theorem join_splitText (hlimit : limit ≠ 0) :
    join.call id [.ofList ((splitText s sep limit).map Value.string), .string new] =
      .ok (.string (String.ofList
        (Text.replace s.toList sep.toList new.toList (cutsFor s limit)))) := by
  rw [join_call_texts, toList_splitText hlimit, Text.join_split]

theorem length_splitText_le (hlimit : 0 < limit) : (splitText s sep limit).length ≤ limit := by
  have hlength := Text.length_split_le s.toList sep.toList (cutsFor s limit)
  rw [splitText_eq hlimit.ne', List.length_map]
  rw [cutsFor, if_neg hlimit.le.not_gt] at hlength ⊢
  omega

theorem not_occursAt_of_mem_splitText (hlimit : limit < 0) (hsep : sep ≠ "") {text : String}
    (htext : text ∈ splitText s sep limit) (i : Nat) :
    ¬ Text.OccursAt sep.toList text.toList i := by
  have hlist : sep.toList ≠ [] := by simpa using hsep
  have hpiece : text.toList ∈ Text.split s.toList sep.toList (cutsFor s limit) := by
    rw [← toList_splitText hlimit.ne]
    exact List.mem_map_of_mem htext
  rw [Text.split, if_neg (by simpa using hlist), cutsFor, if_pos hlimit] at hpiece
  exact Text.not_occursAt_of_mem_splitBy hlist (by simp [Text.allCuts]) hpiece i

/-- A limit of replacements cuts as often as one of pieces that is one more. -/
theorem replaceText_eq_join {n : Int} (hlimit : limit ≠ 0)
    (hcuts : cutsFor s limit = if n < 0 then Text.allCuts s.toList else n.toNat) :
    .ok (.string (replaceText s sep new n)) = join.call id
      [.ofList ((splitText s sep limit).map Value.string), .string new] := by
  rw [join_splitText hlimit, hcuts]
  rfl

/-- Splitting, joining and replacing fit together, also at the empty separator. -/
theorem split_join_replace (s sep new : String) : SplitsAndJoins s sep new where
  pieces id limit hlimit := by
    have hne : limit.toInt ≠ 0 := fun hzero => hlimit (Int64.toInt_inj.mp hzero)
    refine ⟨splitText s sep limit.toInt, rfl, fun id' => ?_, length_splitText_le,
      fun hneg hsep text htext => not_occursAt_of_mem_splitText hneg hsep htext⟩
    rw [join_splitText hne, Text.replace_self, String.ofList_toList]
  limited id n hn hmax := by
    have hnext : (n + 1).toInt = n.toInt + 1 := by
      rw [Int64.toInt_add, Int64.toInt_one, Int.bmod_eq_of_le (by omega) (by omega)]
    have hne : (n + 1).toInt ≠ 0 := by omega
    refine replaceText_eq_join hne ?_
    rw [cutsFor, hnext, if_neg (by omega), if_neg (by omega)]
    omega
  unlimited id n hn := by
    have hne : (-1 : Int64).toInt ≠ 0 := by decide
    refine replaceText_eq_join hne ?_
    rw [cutsFor, if_pos hn, if_pos (by decide)]
  every id := by
    have hne : (-1 : Int64).toInt ≠ 0 := by decide
    exact replaceText_eq_join hne rfl

example : split.call 1 [.string "aXXbX", .string "X", .int 3] =
    .ok (.ofList [.string "a", .string "", .string "bX"]) := rfl

end CommonExpr.Library
