import CommonExpr.Library.Format
import CommonExpr.Proofs.Outcome
import CommonExpr.Proofs.Sequence
import CommonExpr.Proofs.Time.RoundTrip
import Mathlib.Data.List.Chain

/-!
Format strings and what they are filled with.

Main statement: clauses are read back from their written form, and formatting succeeds exactly
if the format string can be read and there is an argument for each verb that it can write; the
text is then that of the clauses in their order.
-/

namespace CommonExpr

open Outcome

namespace Clause

def isLiteral : Clause → Bool
  | .literal _ => true
  | .verb _ _ => false

/-- The verb of a clause with its precision. -/
def verb? : Clause → Option (Verb × Option Nat)
  | .literal _ => none
  | .verb v precision => some (v, precision)

/-- A clause as it is written; each percent sign of a literal stands twice. -/
def written : Clause → List Char
  | .literal text => text.toList.flatMap fun c => if c = '%' then ['%', '%'] else [c]
  | .verb v none => ['%', v.letter]
  | .verb v (some precision) => '%' :: '.' :: (Nat.toDigits 10 precision ++ [v.letter])

end Clause

namespace Format

/-- The format string of clauses. -/
def render (clauses : List Clause) : String := String.ofList (clauses.flatMap Clause.written)

/-- Whether a format string can tell the clauses apart. -/
structure Printable (clauses : List Clause) : Prop where
  literal_ne : ∀ text, .literal text ∈ clauses → text ≠ ""
  separated : clauses.IsChain fun a b => ¬ (a.isLiteral = true ∧ b.isLiteral = true)
  precision_word : ∀ v precision, .verb v (some precision) ∈ clauses → precision < 2 ^ 64

/-- The verbs of clauses, each of which takes an argument. -/
def verbs (clauses : List Clause) : List (Verb × Option Nat) := clauses.filterMap Clause.verb?

/-- What a verb writes for its argument. -/
def Writes (e : (Verb × Option Nat) × Value) (text : String) : Prop :=
  argument e.2.unwrap e.1.2 e.1.1 = .ok text

/-- The literals in their places, with a text for each verb between them. -/
def fill : List Clause → (texts : List String) → String
  | [], _ => ""
  | .literal s :: rest, texts => s ++ fill rest texts
  | .verb _ _ :: _, [] => ""
  | .verb _ _ :: rest, text :: texts => text ++ fill rest texts

/-! Reading what is written -/

theorem readFrom_literal (text held rest : List Char) :
    readFrom (.literal held) (text.flatMap (fun c => if c = '%' then ['%', '%'] else [c]) ++ rest) =
      readFrom (.literal (text.reverse ++ held)) rest := by
  induction text generalizing held with
  | nil => rfl
  | cons c text ih =>
      rw [List.flatMap_cons, List.reverse_cons, List.append_assoc, List.append_assoc,
        List.singleton_append, ← ih]
      by_cases hc : c = '%'
      · subst hc
        rfl
      · rw [if_neg hc, List.singleton_append, readFrom, if_neg hc]

theorem letter_ne (v : Verb) : v.letter ≠ '%' ∧ v.letter ≠ '.' ∧ isDigit v.letter = false := by
  cases v <;> decide

theorem readFrom_verb (v : Verb) (held rest : List Char) :
    readFrom (.literal held) ('%' :: v.letter :: rest) = do
      let clauses ← readFrom (.literal []) rest
      return literalClause held ++ .verb v none :: clauses := by
  obtain ⟨hpercent, hpoint, -⟩ := letter_ne v
  rw [readFrom, if_pos rfl, readFrom, if_neg hpercent, if_neg hpoint, readVerb,
    Verb.ofLetter?_letter]
  rfl

theorem readFrom_digits {digits : List Char} (hdigits : ∀ c ∈ digits, isDigit c = true)
    (held rest : List Char) :
    readFrom (.precision held) (digits ++ rest) =
      readFrom (.precision (digits.reverse ++ held)) rest := by
  induction digits generalizing held with
  | nil => rfl
  | cons c digits ih =>
      obtain ⟨hc, hrest⟩ := List.forall_mem_cons.mp hdigits
      rw [List.cons_append, readFrom, if_pos hc, ih hrest, List.reverse_cons, List.append_assoc]
      rfl

theorem readPrecision_toDigits {precision : Nat} (hword : precision < 2 ^ 64) :
    readPrecision (Nat.toDigits 10 precision).reverse = .ok precision := by
  have hnot : ¬ ((Nat.toDigits 10 precision).reverse.isEmpty ∨
      18446744073709551616 ≤ digitsValue (Nat.toDigits 10 precision)) := by
    rw [digitsValue_toDigits, List.isEmpty_iff, List.reverse_eq_nil_iff]
    rintro (hnil | hlarge)
    · exact Nat.toDigits_ne_nil hnil
    · omega
  rw [readPrecision, List.reverse_reverse, if_neg hnot, digitsValue_toDigits]

theorem readFrom_verb_precision (v : Verb) {precision : Nat} (hword : precision < 2 ^ 64)
    (held rest : List Char) :
    readFrom (.literal held) ('%' :: '.' :: (Nat.toDigits 10 precision ++ [v.letter]) ++ rest) = do
      let clauses ← readFrom (.literal []) rest
      return literalClause held ++ .verb v (some precision) :: clauses := by
  obtain ⟨-, -, hletter⟩ := letter_ne v
  have hdigits : ∀ c ∈ Nat.toDigits 10 precision, isDigit c = true :=
    fun _ => isDigit_of_mem_toDigits
  have hread : readFrom (.precision []) (Nat.toDigits 10 precision ++ v.letter :: rest) = do
      let clauses ← readFrom (.literal []) rest
      return .verb v (some precision) :: clauses := by
    rw [readFrom_digits hdigits, List.append_nil, readFrom, if_neg (by simp [hletter]),
      readPrecision_toDigits hword, readVerb, Verb.ofLetter?_letter]
    rfl
  rw [List.cons_append, List.cons_append, List.append_assoc, List.singleton_append, readFrom,
    if_pos rfl, readFrom, if_neg (by decide), if_pos rfl, hread]
  cases readFrom (.literal []) rest <;> rfl

theorem Printable.tail {clause : Clause} {rest : List Clause} (h : Printable (clause :: rest)) :
    Printable rest where
  literal_ne text htext := h.literal_ne text (List.mem_cons_of_mem clause htext)
  separated := (List.isChain_cons.mp h.separated).2
  precision_word v precision hmem :=
    h.precision_word v precision (List.mem_cons_of_mem clause hmem)

/-- Clauses are read back behind a literal that is still held. -/
theorem readFrom_written {clauses : List Clause} (hclauses : Printable clauses) (held : List Char)
    (hheld : held ≠ [] → ∀ clause ∈ clauses.head?, clause.isLiteral = false) :
    readFrom (.literal held) (clauses.flatMap Clause.written) =
      .ok (literalClause held ++ clauses) := by
  induction clauses generalizing held with
  | nil => rw [List.flatMap_nil, readFrom, List.append_nil]
  | cons clause rest ih =>
      rw [List.flatMap_cons]
      cases clause with
      | literal text =>
          have hnone : held = [] := by
            by_contra hne
            exact Bool.noConfusion (hheld hne _ rfl)
          have hnext : ∀ clause ∈ rest.head?, clause.isLiteral = false := by
            intro clause hclause
            have hpair := List.isChain_cons.mp hclauses.separated |>.1 clause hclause
            simpa [Clause.isLiteral] using hpair
          have htext : text ≠ "" := hclauses.literal_ne text List.mem_cons_self
          subst hnone
          rw [Clause.written, readFrom_literal, List.append_nil,
            ih hclauses.tail _ fun _ => hnext]
          simp [literalClause, htext]
      | verb v precision =>
          have hrest := ih hclauses.tail [] (fun h => absurd rfl h)
          cases precision with
          | none =>
              rw [Clause.written, List.cons_append, List.singleton_append, readFrom_verb, hrest]
              rfl
          | some precision =>
              have hword := hclauses.precision_word v precision List.mem_cons_self
              rw [Clause.written, readFrom_verb_precision v hword, hrest]
              rfl

theorem read_render {clauses : List Clause} (hclauses : Printable clauses) :
    read (render clauses) = .ok clauses := by
  rw [read, render, String.toList_ofList, readFrom_written hclauses [] fun h => absurd rfl h]
  rfl

/-! Writing what was read -/

theorem write_eq_ok_iff {count : Nat} {clauses : List Clause} {args : List Value} {out : String} :
    write count clauses args = .ok out ↔
      (verbs clauses).length ≤ args.length ∧
        ∃ texts, List.Forall₂ Writes ((verbs clauses).zip args) texts ∧
          out = fill clauses texts := by
  induction clauses generalizing args out with
  | nil => simp [write, verbs, fill, eq_comm]
  | cons clause rest ih =>
      cases clause with
      | literal s =>
          rw [write, bind_eq_ok_iff]
          constructor
          · rintro ⟨tail, htail, hout⟩
            obtain ⟨hcount, texts, htexts, rfl⟩ := ih.mp htail
            exact ⟨hcount, texts, htexts, (Except.ok.inj hout).symm⟩
          · rintro ⟨hcount, texts, htexts, rfl⟩
            exact ⟨fill rest texts, ih.mpr ⟨hcount, texts, htexts, rfl⟩, rfl⟩
      | verb v precision =>
          cases args with
          | nil => simp [write, verbs, Clause.verb?]
          | cons arg args =>
              have hverbs : verbs (.verb v precision :: rest) = (v, precision) :: verbs rest := rfl
              rw [write, bind_eq_ok_iff, hverbs, List.zip_cons_cons, List.length_cons,
                List.length_cons, Nat.add_le_add_iff_right]
              constructor
              · rintro ⟨head, hhead, hwrite⟩
                obtain ⟨tail, htail, hout⟩ := bind_eq_ok_iff.mp hwrite
                obtain ⟨hcount, texts, htexts, rfl⟩ := ih.mp htail
                exact ⟨hcount, head :: texts, .cons hhead htexts, (Except.ok.inj hout).symm⟩
              · rintro ⟨hcount, texts, htexts, rfl⟩
                obtain ⟨head, tail, hhead, htail, rfl⟩ := List.forall₂_cons_left_iff.mp htexts
                exact ⟨head, hhead,
                  bind_eq_ok_iff.mpr ⟨fill rest tail, ih.mpr ⟨hcount, tail, htail, rfl⟩, rfl⟩⟩

theorem format_eq_ok_iff {pattern : String} {args : List Value} {out : String} :
    format pattern args = .ok out ↔
      ∃ clauses, read pattern = .ok clauses ∧ (verbs clauses).length ≤ args.length ∧
        ∃ texts, List.Forall₂ Writes ((verbs clauses).zip args) texts ∧
          out = fill clauses texts := by
  simp only [format, bind_eq_ok_iff, write_eq_ok_iff]

/-- Clauses are read back from their format string.  Formatting succeeds just if the format
string is one, there is an argument for each verb, and each verb can write its own; the texts
then stand between the literals. -/
theorem clauses_read_back_and_filled :
    (∀ clauses, Printable clauses → read (render clauses) = .ok clauses) ∧
      ∀ pattern args,
        ((∃ out, format pattern args = .ok out) ↔
          ∃ clauses, read pattern = .ok clauses ∧ (verbs clauses).length ≤ args.length ∧
            ∀ e ∈ (verbs clauses).zip args, ∃ text, Writes e text) ∧
        ∀ out clauses, format pattern args = .ok out → read pattern = .ok clauses →
          ∃ texts, List.Forall₂ Writes ((verbs clauses).zip args) texts ∧
            out = fill clauses texts := by
  refine ⟨fun _ => read_render, fun pattern args => ⟨⟨?_, ?_⟩, ?_⟩⟩
  · rintro ⟨out, hout⟩
    obtain ⟨clauses, hread, hcount, texts, htexts, -⟩ := format_eq_ok_iff.mp hout
    refine ⟨clauses, hread, hcount, fun e he => ?_⟩
    obtain ⟨text, -, htext⟩ := exists_of_mem_left htexts e he
    exact ⟨text, htext⟩
  · rintro ⟨clauses, hread, hcount, hwrites⟩
    obtain ⟨texts, -, htexts⟩ := exists_mapM_forall₂ (R := Writes) fun e he =>
      (hwrites e he).imp fun _ htext => ⟨htext, htext⟩
    exact ⟨fill clauses texts, format_eq_ok_iff.mpr ⟨clauses, hread, hcount, texts, htexts, rfl⟩⟩
  · intro out clauses hout hread
    obtain ⟨clauses', hread', -, htexts⟩ := format_eq_ok_iff.mp hout
    cases hread.symm.trans hread'
    exact htexts

/-- A doubled percent sign ahead of a verb, and a point and a digit behind one. -/
def sample : List Clause :=
  [.literal "50%", .verb .decimal (some 2), .literal ".5é", .verb .text none]

theorem sample_printable : Printable sample where
  literal_ne := by simp [sample]
  separated := by simp [sample, Clause.isLiteral]
  precision_word := by simp [sample]

theorem sample_read_back_and_filled :
    read (render sample) = .ok sample ∧
      (∃ out, format (render sample) [.int 7, .string "x", .null] = .ok out) ∧
        ∃ texts, List.Forall₂ Writes ((verbs sample).zip [.int 7, .string "x", .null]) texts ∧
          "50%7.5éx" = fill sample texts := by
  have hread := clauses_read_back_and_filled.1 sample sample_printable
  have hfilled := clauses_read_back_and_filled.2 (render sample) [.int 7, .string "x", .null]
  have hargs : ∀ e ∈ (verbs sample).zip [Value.int 7, .string "x", .null],
      ∃ text, Writes e text := by
    simp only [verbs, sample, List.filterMap_cons, Clause.verb?, List.filterMap_nil,
      List.zip_cons_cons, List.zip_nil_left, List.forall_mem_cons]
    exact ⟨⟨"7", rfl⟩, ⟨"x", rfl⟩, fun _ h => absurd h List.not_mem_nil⟩
  exact ⟨hread, hfilled.1.mpr ⟨sample, hread, by decide, hargs⟩, hfilled.2 _ sample rfl hread⟩

end Format

end CommonExpr
