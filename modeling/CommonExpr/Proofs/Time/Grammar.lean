import CommonExpr.Proofs.Time.Reading
import Mathlib.Data.List.TakeWhile

/-!
Which texts stand for spans.

A text is taken apart into a sign, whole parts, and what is left when no further part follows.
Main statement: a text is read if it is a sign and parts that sum up within the range, or a sign
and a bare zero; of any other text the parts in front decide whether it is out of range or
malformed.
-/

namespace CommonExpr

/-! Pieces of a text -/

namespace DurationPart

variable (cs : List Char)

theorem take_append : (take cs).number ++ ((take cs).unit ++ (take cs).rest) = cs := by
  rw [take, List.takeWhile_append_dropWhile, List.takeWhile_append_dropWhile]

theorem isNumberChar_rest : ∀ c ∈ (take cs).rest.head?, isNumberChar c = true := by
  intro c hc
  have hhead := List.head?_dropWhile_not (fun c => !isNumberChar c) (cs.dropWhile isNumberChar)
  rw [take] at hc
  rw [Option.mem_def.mp hc] at hhead
  simpa using hhead

/-- Each piece takes a character at least. -/
theorem length_rest_lt {cs : List Char} (hcs : cs ≠ []) : (take cs).rest.length < cs.length := by
  obtain ⟨c, rest, rfl⟩ := List.exists_cons_of_ne_nil hcs
  have hpieces := congrArg List.length (take_append (c :: rest))
  have hfirst : (take (c :: rest)).number ≠ [] ∨ (take (c :: rest)).unit ≠ [] := by
    cases hc : isNumberChar c <;> simp [take, hc]
  rw [← List.length_pos_iff, ← List.length_pos_iff] at hfirst
  simp only [List.length_append] at hpieces
  omega

/-- A piece that is not malformed is a part of a span. -/
theorem malformed_or_part :
    (∃ issue, (take cs).nanos = .error (.durationText issue)) ∨
      ∃ p : SpanPart, cs = p.text ++ (take cs).rest := by
  have hnumber : ∀ c ∈ (take cs).number, isNumberChar c = true :=
    fun c hc => List.mem_takeWhile_imp hc
  have hpieces := take_append cs
  generalize take cs = piece at hnumber hpieces ⊢
  obtain ⟨number, unit, rest⟩ := piece
  rw [nanos]
  simp only [splitPoint] at hnumber hpieces ⊢
  split
  · exact Or.inl ⟨_, rfl⟩
  · next hshape =>
      simp only [Bool.or_eq_true, Bool.and_eq_true, List.isEmpty_iff, not_or, not_and_or,
        List.contains_iff_mem] at hshape
      obtain ⟨hsome, hpoint⟩ := hshape
      have hdigit (c : Char) (hc : c ∈ number) (hne : c ≠ '.') : isDigit c = true := by
        simpa [isNumberChar, hne] using hnumber c hc
      have hwhole : ∀ c ∈ number.takeWhile (· != '.'), isDigit c = true := by
        intro c hc
        have hne : (c != '.') = true := List.mem_takeWhile_imp (p := (· != '.')) hc
        exact hdigit c ((List.takeWhile_sublist _).subset hc) (bne_iff_ne.mp hne)
      split
      · split
        · exact Or.inl ⟨_, rfl⟩
        · exact Or.inl ⟨_, rfl⟩
      · next scale hunit =>
          refine Or.inr ?_
          have hsplit : number.takeWhile (· != '.') ++ number.dropWhile (· != '.') = number :=
            List.takeWhile_append_dropWhile
          cases hdrop : number.dropWhile (· != '.') with
          | nil =>
              rw [hdrop, List.append_nil] at hsplit
              rw [hdrop] at hsome
              refine ⟨⟨_, none, _, scale, hwhole, by simp, by simpa using hsome, hunit⟩, ?_⟩
              simp [SpanPart.text, SpanPart.number, hsplit, ← hpieces]
          | cons c places =>
              rw [hdrop] at hsome hpoint hsplit
              obtain rfl : c = '.' := by
                have hhead := List.head?_dropWhile_not (· != '.') number
                simpa [hdrop] using hhead
              have hplaces : ∀ c ∈ places, isDigit c = true := by
                intro c hc
                refine hdigit c ?_ ?_
                · rw [← hsplit]
                  exact List.mem_append_right _ (List.mem_cons_of_mem _ hc)
                · rintro rfl
                  exact hpoint hc
              refine ⟨⟨_, some places, _, scale, hwhole, hplaces, hsome, hunit⟩, ?_⟩
              simp [SpanPart.text, SpanPart.number, hsplit, ← hpieces]

end DurationPart

/-- The number of characters is enough of a bound for the number of parts. -/
theorem sumParts_fuel {fuel sum : Nat} {cs : List Char} (hfuel : cs.length ≤ fuel) :
    sumParts fuel sum cs = sumParts cs.length sum cs := by
  induction fuel using Nat.strong_induction_on generalizing sum cs with
  | _ fuel ih =>
      cases cs with
      | nil => cases fuel <;> rfl
      | cons c cs =>
          obtain ⟨fuel, rfl⟩ : ∃ n, fuel = n + 1 := ⟨fuel - 1, by simp at hfuel; omega⟩
          have hcons := List.cons_ne_nil c cs
          have hlength := DurationPart.length_rest_lt hcons
          rw [List.length_cons] at hfuel hlength ⊢
          rw [sumParts.eq_3 _ _ _ hcons, sumParts.eq_3 _ _ _ hcons]
          split
          · rfl
          · split
            · rw [ih fuel (by omega) (by omega), ih cs.length (by omega) (by omega)]
            · rfl

/-! Texts taken apart -/

/-- Whether no whole part starts a text: one that does goes on with its unit. -/
def StartsNoPart (cs : List Char) : Prop :=
  ∀ (p : SpanPart) (tail : List Char), cs = p.text ++ tail →
    ∃ c ∈ tail.head?, isNumberChar c = false

def Unsigned (cs : List Char) : Prop := ∀ c ∈ cs.head?, c ≠ '-' ∧ c ≠ '+'

/-- A text taken apart: the sign if it starts with one, whole parts, and the rest. -/
structure TakenApart (s : String) where
  sign : SpanSign
  parts : List SpanPart
  rest : List Char
  text_eq : s.toList = sign.text ++ (parts.flatMap SpanPart.text ++ rest)
  unsigned : sign = .none → Unsigned (parts.flatMap SpanPart.text ++ rest)
  /-- The last part ends where its unit does. -/
  rest_head : parts ≠ [] → ∀ c ∈ rest.head?, isNumberChar c = true
  rest_start : StartsNoPart rest

/-- Texts that are spans: parts or a bare zero, behind a sign if any. -/
def IsSpanText (s : String) : Prop :=
  (∃ sign : SpanSign, s = String.ofList (sign.text ++ ['0'])) ∨ ∃ x : WrittenSpan, s = x.text

theorem exists_sign (cs : List Char) :
    ∃ (sign : SpanSign) (body : List Char), cs = sign.text ++ body ∧
      (sign = .none → Unsigned body) := by
  cases cs with
  | nil => exact ⟨.none, [], rfl, fun _ c hc => by cases hc⟩
  | cons c rest =>
      by_cases hminus : c = '-'
      · subst hminus
        exact ⟨.minus, rest, rfl, nofun⟩
      · by_cases hplus : c = '+'
        · subst hplus
          exact ⟨.plus, rest, rfl, nofun⟩
        · refine ⟨.none, c :: rest, rfl, ?_⟩
          rintro - d ⟨⟩
          exact ⟨hminus, hplus⟩

theorem exists_parts (cs : List Char) :
    ∃ (parts : List SpanPart) (rest : List Char), cs = parts.flatMap SpanPart.text ++ rest ∧
      (parts ≠ [] → ∀ c ∈ rest.head?, isNumberChar c = true) ∧ StartsNoPart rest := by
  induction hlength : cs.length using Nat.strong_induction_on generalizing cs with
  | _ n ih =>
      by_cases hstart : StartsNoPart cs
      · exact ⟨[], cs, rfl, fun hne => absurd rfl hne, hstart⟩
      · simp only [StartsNoPart, not_forall, not_exists, not_and, Bool.not_eq_false] at hstart
        obtain ⟨p, tail, rfl, htail⟩ := hstart
        have hpos := List.length_pos_iff.mpr p.number_ne_nil
        have hshorter : tail.length < n := by
          simp only [SpanPart.text, List.length_append] at hlength
          omega
        obtain ⟨parts, rest, rfl, hhead, hrest⟩ := ih _ hshorter tail rfl
        refine ⟨p :: parts, rest, by simp, fun _ => ?_, hrest⟩
        cases parts with
        | nil => exact htail
        | cons q parts => exact hhead (List.cons_ne_nil q parts)

theorem nonempty_takenApart (s : String) : Nonempty (TakenApart s) := by
  obtain ⟨sign, body, htext, hsign⟩ := exists_sign s.toList
  obtain ⟨parts, rest, rfl, hhead, hstart⟩ := exists_parts body
  exact ⟨⟨sign, parts, rest, htext, hsign, hhead, hstart⟩⟩

/-! What parts come to -/

namespace SpanPart

def nanos? (p : SpanPart) : Option Nat := decimalNanos p.whole p.fraction p.scale

/-- The sum of parts, if all of them come to something and the sum fits a signed 64-bit word. -/
def sum? (parts : List SpanPart) : Option Nat :=
  ((parts.mapM nanos?).map List.sum).filter (· < 9223372036854775808)

theorem nanos?_eq (p : SpanPart) : p.nanos? = fits128 p.counted :=
  decimalNanos_eq (scale_pos p.unit_nanos) p.whole p.fraction

theorem mapM_nanos? (parts : List SpanPart) :
    parts.mapM nanos? = some (parts.map counted) ∨
      parts.mapM nanos? = none ∧ 9223372036854775808 ≤ (parts.map counted).sum := by
  induction parts with
  | nil => exact Or.inl rfl
  | cons p parts ih =>
      rw [List.mapM_cons, nanos?_eq, List.map_cons, List.sum_cons]
      cases hfits : fits128 p.counted with
      | none =>
          have hlarge := fits128_eq_none.mp hfits
          exact Or.inr ⟨rfl, by omega⟩
      | some n =>
          obtain rfl := eq_of_fits128 hfits
          rcases ih with hrest | ⟨hrest, hlarge⟩
          · exact Or.inl (by rw [hrest]; rfl)
          · exact Or.inr ⟨by rw [hrest]; rfl, by omega⟩

theorem sum?_eq (parts : List SpanPart) :
    sum? parts =
      if (parts.map counted).sum < 9223372036854775808 then some (parts.map counted).sum
      else none := by
  rw [sum?]
  rcases mapM_nanos? parts with hparts | ⟨hparts, hlarge⟩
  · rw [hparts, Option.map_some, Option.filter_some]
    simp only [decide_eq_true_eq]
  · rw [hparts, if_neg (by omega)]
    rfl

end SpanPart

/-! Reading by grammar -/

/-- The outcome of a text that is a span, by the sum of its parts. -/
def spanOutcome (sign : SpanSign) : Option Nat → Except TimeFault Duration
  | some n => .ok (.ofNanos (sign.factor * n))
  | none => .error .durationRange

theorem Duration.read_written (x : WrittenSpan) :
    read x.text = spanOutcome x.sign (SpanPart.sum? x.parts) := by
  rw [x.read_text, WrittenSpan.sum, SpanPart.sum?_eq]
  split <;> rfl

theorem Duration.read_zero (sign : SpanSign) :
    read (String.ofList (sign.text ++ ['0'])) = .ok .zero := by
  have hunsigned : Unsigned ['0'] := by
    rintro c ⟨⟩
    decide
  rw [read_eq String.toList_ofList fun _ => hunsigned]
  rfl

namespace TakenApart

variable {s : String} (t : TakenApart s)

theorem isSpanText_of_rest (hparts : t.parts ≠ []) (hrest : t.rest = []) : IsSpanText s := by
  refine Or.inr ⟨⟨t.sign, t.parts, hparts⟩, ?_⟩
  rw [WrittenSpan.text, ← String.toList_inj, t.text_eq, hrest, List.append_nil,
    String.toList_ofList]

theorem isSpanText_of_zero (hbody : t.parts.flatMap SpanPart.text ++ t.rest = ['0']) :
    IsSpanText s := by
  refine Or.inl ⟨t.sign, ?_⟩
  rw [← String.toList_inj, t.text_eq, hbody, String.toList_ofList]

/-- What no part starts is malformed, whatever was summed up before. -/
theorem malformed_rest {cs : List Char} (hstart : StartsNoPart cs) (hcs : cs ≠ []) {fuel : Nat}
    (hfuel : 0 < fuel) (sum : Nat) :
    ∃ issue, sumParts fuel sum cs = .error (.durationText issue) := by
  obtain ⟨fuel, rfl⟩ : ∃ n, fuel = n + 1 := ⟨fuel - 1, by omega⟩
  rw [sumParts.eq_3 _ _ _ hcs]
  rcases DurationPart.malformed_or_part cs with ⟨issue, hissue⟩ | ⟨p, htext⟩
  · exact ⟨issue, by rw [hissue]⟩
  · obtain ⟨c, hc, hunit⟩ := hstart p _ htext
    cases (DurationPart.isNumberChar_rest cs c hc).symm.trans hunit

theorem read_eq_error (hspan : ¬ IsSpanText s) :
    (SpanPart.sum? t.parts ≠ none → ∃ issue, Duration.read s = .error (.durationText issue)) ∧
      (SpanPart.sum? t.parts = none → Duration.read s = .error .durationRange) := by
  have hzero : t.parts.flatMap SpanPart.text ++ t.rest ≠ ['0'] :=
    fun hbody => hspan (t.isSpanText_of_zero hbody)
  have hsum : SpanPart.sum? t.parts = none ↔
      ¬ (t.parts.map SpanPart.counted).sum < 9223372036854775808 := by
    rw [SpanPart.sum?_eq]
    split <;> simp [*]
  rw [Duration.read_eq t.text_eq t.unsigned, if_neg hzero, Ne, hsum, not_not]
  by_cases hparts : t.parts = []
  · -- Nothing is summed up before the rest.
    rw [hparts]
    simp only [List.flatMap_nil, List.nil_append, List.map_nil, List.sum_nil]
    refine ⟨fun _ => ?_, fun h => absurd (by decide) h⟩
    split
    · exact ⟨_, rfl⟩
    · next hrest =>
        obtain ⟨issue, hissue⟩ :=
          malformed_rest t.rest_start hrest (List.length_pos_iff.mpr hrest) 0
        exact ⟨issue, by rw [hissue]; rfl⟩
  · have hrest : t.rest ≠ [] := fun hrest => hspan (t.isSpanText_of_rest hparts hrest)
    have hlength := WrittenSpan.length_le_flatMap_text t.parts
    have hpos := List.length_pos_iff.mpr hrest
    rw [if_neg (by simp [hrest]), List.length_append,
      sumParts_append (by omega) t.rest_head (by decide), Nat.zero_add]
    constructor
    · intro hfits
      have hleft : 0 < (t.parts.flatMap SpanPart.text).length + t.rest.length - t.parts.length := by
        omega
      obtain ⟨issue, hissue⟩ := malformed_rest t.rest_start hrest hleft
        (t.parts.map SpanPart.counted).sum
      exact ⟨issue, by rw [if_pos hfits, hissue]; rfl⟩
    · intro hlarge
      rw [if_neg hlarge]
      rfl

end TakenApart

/-- How a text is read, by what it is made of. -/
structure ReadByGrammar (s : String) : Prop where
  zero : ∀ sign : SpanSign, s = String.ofList (sign.text ++ ['0']) → Duration.read s = .ok .zero
  written : ∀ x : WrittenSpan, s = x.text →
    Duration.read s = spanOutcome x.sign (SpanPart.sum? x.parts)
  apart : Nonempty (TakenApart s)
  malformed : ¬ IsSpanText s → ∀ t : TakenApart s, SpanPart.sum? t.parts ≠ none →
    ∃ issue, Duration.read s = .error (.durationText issue)
  range : ¬ IsSpanText s → ∀ t : TakenApart s, SpanPart.sum? t.parts = none →
    Duration.read s = .error .durationRange

theorem readByGrammar (s : String) : ReadByGrammar s where
  zero := by
    rintro sign rfl
    exact Duration.read_zero sign
  written := by
    rintro x rfl
    exact Duration.read_written x
  apart := nonempty_takenApart s
  malformed hspan t := (t.read_eq_error hspan).1
  range hspan t := (t.read_eq_error hspan).2

/-- A text without a sign is read behind a minus sign just if it is read, as the span turned
round. -/
structure ReadTurned (b : String) : Prop where
  ok_iff : (∃ d, Duration.read ("-" ++ b) = .ok d) ↔ ∃ d, Duration.read b = .ok d
  total : ∀ d e, Duration.read b = .ok d → Duration.read ("-" ++ b) = .ok e → e.total = -d.total

theorem readTurned {b : String} (hb : Unsigned b.toList) : ReadTurned b := by
  have hplain :=
    Duration.read_eq (show b.toList = SpanSign.none.text ++ b.toList from rfl) fun _ => hb
  have hminus := Duration.read_eq
    (show ("-" ++ b).toList = SpanSign.minus.text ++ b.toList by simp [SpanSign.text])
    fun hnone => by cases hnone
  by_cases hempty : b.toList = []
  · rw [if_pos hempty] at hplain hminus
    exact ⟨by simp [hplain, hminus], by simp [hplain]⟩
  rw [if_neg hempty] at hplain hminus
  by_cases hzero : b.toList = ['0']
  · rw [if_pos hzero] at hplain hminus
    exact ⟨by simp [hplain, hminus], by simp [hplain, hminus, Duration.zero, Duration.total]⟩
  rw [if_neg hzero] at hplain hminus
  cases hsum : sumParts b.toList.length 0 b.toList with
  | error f =>
      rw [hsum] at hplain hminus
      exact ⟨by simp [hplain, hminus, Except.map], by simp [hplain, Except.map]⟩
  | ok sum =>
      rw [hsum] at hplain hminus
      refine ⟨iff_of_true ⟨_, hminus⟩ ⟨_, hplain⟩, fun d e hd he => ?_⟩
      obtain rfl := Except.ok.inj (hplain.symm.trans hd)
      obtain rfl := Except.ok.inj (hminus.symm.trans he)
      rw [Duration.total_ofNanos, Duration.total_ofNanos, SpanSign.factor, SpanSign.factor]
      omega

theorem exists_unitNanos?_iff (unit : String) :
    (∃ scale, unitNanos? unit = some scale) ↔ unit ∈ ["h", "m", "s", "ms", "us", "µs", "ns"] := by
  constructor
  · rintro ⟨scale, hunit⟩
    rcases unitNanos?_cases hunit with ⟨rfl, -⟩ | ⟨rfl, -⟩ | ⟨rfl, -⟩ | ⟨rfl, -⟩ | ⟨rfl, -⟩ |
      ⟨rfl, -⟩ | ⟨rfl, -⟩ <;> decide
  · intro hmem
    simp only [List.mem_cons, List.not_mem_nil, or_false] at hmem
    rcases hmem with rfl | rfl | rfl | rfl | rfl | rfl | rfl <;> exact ⟨_, rfl⟩

/-- A text is read just if it is a span by grammar and its parts sum up within the range.  The
reader takes the text apart piece by piece, each a character at least, and a minus sign in front
turns the span round. -/
theorem spans_read_by_grammar (s : String) {b : String} (hb : Unsigned b.toList) :
    ReadByGrammar s ∧ ReadTurned b ∧
      (∀ cs, cs ≠ [] → (DurationPart.take cs).rest.length < cs.length) ∧
      (∀ fuel sum cs, cs.length ≤ fuel → sumParts fuel sum cs = sumParts cs.length sum cs) ∧
      ∀ unit, (∃ scale, unitNanos? unit = some scale) ↔
        unit ∈ ["h", "m", "s", "ms", "us", "µs", "ns"] :=
  ⟨readByGrammar s, readTurned hb, fun _ => DurationPart.length_rest_lt,
    fun _ _ _ => sumParts_fuel, exists_unitNanos?_iff⟩

namespace SpanWitness

/-- A second number without a unit spoils the text; an hour and a half is turned round. -/
theorem unit_left_out :
    ¬ IsSpanText "1h1" ∧ (∃ issue, Duration.read "1h1" = .error (.durationText issue)) ∧
      Unsigned "1h.5h".toList ∧ Duration.read "1h.5h" = .ok ⟨5400, 0⟩ ∧
      ∃ d, Duration.read "-1h.5h" = .ok d ∧ d.total = -5400000000000 := by
  have hread : Duration.read "1h1" = .error (.durationText (.missingUnit "1")) := by decide
  have hspan : ¬ IsSpanText "1h1" := by
    rintro (⟨sign, hs⟩ | ⟨x, hx⟩)
    · rw [hs, Duration.read_zero] at hread
      cases hread
    · rw [hx, Duration.read_written] at hread
      cases hsum : SpanPart.sum? x.parts <;> rw [hsum] at hread <;> cases hread
  have hunsigned : Unsigned "1h.5h".toList := by
    rintro c ⟨⟩
    decide
  have hplain : Duration.read "1h.5h" = .ok ⟨5400, 0⟩ := by decide
  obtain ⟨hgrammar, hturned, -, -, -⟩ := spans_read_by_grammar "1h1" hunsigned
  obtain ⟨t⟩ := hgrammar.apart
  have hsum : SpanPart.sum? t.parts ≠ none := by
    intro hnone
    cases (hgrammar.range hspan t hnone).symm.trans hread
  obtain ⟨d, hd⟩ := hturned.ok_iff.mpr ⟨_, hplain⟩
  exact ⟨hspan, hgrammar.malformed hspan t hsum, hunsigned, hplain, d, hd,
    hturned.total _ _ hplain hd⟩

end SpanWitness

end CommonExpr
