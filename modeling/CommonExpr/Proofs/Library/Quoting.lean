import CommonExpr.Library.Standard
import CommonExpr.Library.Strings
import Mathlib.Algebra.Ring.Parity
import Mathlib.Data.List.DropRight

/-!
Strings in quotes.

Main statement: of what is written for a string every quote but the outer two stands behind an
odd number of backslashes, no line is broken in it, and it is read back from left to right as the
string.  So no two strings are written alike.
-/

namespace CommonExpr.Library

/-- The character that one behind a backslash stands for. -/
def escaped? : Char → Option Char
  | 'a' => some '\x07'
  | 'b' => some '\x08'
  | 'f' => some '\x0c'
  | 'n' => some '\n'
  | 'r' => some '\r'
  | 't' => some '\t'
  | 'v' => some '\x0b'
  | '\\' => some '\\'
  | '"' => some '"'
  | _ => none

/-- Puts characters for what stands for them, from left to right.  A backslash before any other
character is one. -/
def unescape : List Char → List Char
  | [] => []
  | '\\' :: c :: rest =>
      match escaped? c with
      | some meant => meant :: unescape rest
      | none => '\\' :: c :: unescape rest
  | c :: rest => c :: unescape rest

/-- The text between the outer quotes, read back. -/
def unquote (written : String) : String :=
  String.ofList (unescape written.toList.tail.dropLast)

/-- How many backslashes a text ends in. -/
def backslashes (text : List Char) : Nat := (text.rtakeWhile (· == '\\')).length

/-- The characters that are never written as they are, quotes and backslashes apart. -/
def breaking : List Char := ['\n', '\r', '\t', '\x07', '\x08', '\x0c', '\x0b']

/-- What is written for a string in quotes. -/
structure Quotes (s written : String) : Prop where
  ends : ∃ inside, written.toList = '"' :: (inside ++ ['"'])
  inner_quotes : ∀ before after, before ≠ [] → after ≠ [] →
    written.toList = before ++ '"' :: after → Odd (backslashes before)
  unbroken : ∀ c ∈ breaking, c ∉ written.toList
  read_back : unquote written = s

variable {c meant : Char} {s before after rest : List Char}

theorem unescape_escaped (hc : escaped? c = some meant) (rest : List Char) :
    unescape ('\\' :: c :: rest) = meant :: unescape rest := by
  rw [unescape, hc]

theorem unescape_bare (hc : c ≠ '\\') (rest : List Char) :
    unescape (c :: rest) = c :: unescape rest := by
  rw [unescape]
  intro _ _ hslash
  exact absurd hslash hc

/-- A character is written as it is, or as a backslash and the character that stands for it. -/
theorem quotedChar_cases (c : Char) :
    (quotedChar c = [c] ∧ c ≠ '\\' ∧ c ≠ '"' ∧ c ∉ breaking) ∨
      ∃ x, quotedChar c = ['\\', x] ∧ escaped? x = some c := by
  unfold quotedChar
  split
  case h_10 =>
    refine Or.inl ⟨rfl, by assumption, by assumption, ?_⟩
    simp only [breaking, List.mem_cons, List.not_mem_nil, or_false, not_or]
    exact ⟨by assumption, by assumption, by assumption, by assumption, by assumption,
      by assumption, by assumption⟩
  all_goals exact Or.inr ⟨_, rfl, rfl⟩

/-- What stands for a character behind a backslash does not break a line. -/
theorem notMem_breaking_of_escaped? (hc : escaped? c = some meant) : c ∉ breaking := by
  unfold escaped? at hc
  split at hc
  case h_10 => cases hc
  all_goals decide

/-! Reading back -/

theorem unescape_quoted (s : List Char) : unescape (s.flatMap quotedChar) = s := by
  induction s with
  | nil => rfl
  | cons c s ih =>
      rw [List.flatMap_cons]
      rcases quotedChar_cases c with ⟨hbare, hslash, -, -⟩ | ⟨x, hescape, hx⟩
      · rw [hbare, List.singleton_append, unescape_bare hslash, ih]
      · rw [hescape, List.cons_append, List.singleton_append, unescape_escaped hx, ih]

theorem toList_quote (s : String) :
    (quote s).toList = '"' :: (s.toList.flatMap quotedChar ++ ['"']) := by
  simp [quote]

theorem unquote_quote (s : String) : unquote (quote s) = s := by
  rw [unquote, toList_quote, List.tail_cons, List.dropLast_concat, unescape_quoted,
    String.ofList_toList]

/-! Quotes inside -/

theorem backslashes_concat_slash (text : List Char) :
    backslashes (text ++ ['\\']) = backslashes text + 1 := by
  rw [backslashes, List.rtakeWhile_concat_pos _ _ _ (by decide), List.length_append]
  rfl

theorem backslashes_concat_other (text : List Char) (hc : c ≠ '\\') :
    backslashes (text ++ [c]) = 0 := by
  rw [backslashes, List.rtakeWhile_concat_neg _ _ _ (by simpa using hc)]
  rfl

/-- Whole characters end in an even number of backslashes, if what stands before them does. -/
theorem even_backslashes_quotedChar {text : List Char} (htext : Even (backslashes text))
    (c : Char) : Even (backslashes (text ++ quotedChar c)) := by
  rcases quotedChar_cases c with ⟨hbare, hslash, -, -⟩ | ⟨x, hescape, -⟩
  · rw [hbare, backslashes_concat_other text hslash]
    exact Even.zero
  · have happend : text ++ ['\\', x] = text ++ ['\\'] ++ [x] := by simp
    rw [hescape, happend]
    by_cases hx : x = '\\'
    · rw [hx, backslashes_concat_slash, backslashes_concat_slash]
      exact htext.add_one.add_one
    · rw [backslashes_concat_other _ hx]
      exact Even.zero

/-- A quote within one written character is its second part. -/
theorem before_eq_of_quotedChar (hc : quotedChar c = before ++ '"' :: after) :
    before = ['\\'] ∧ after = [] := by
  rcases quotedChar_cases c with ⟨hbare, -, hquote, -⟩ | ⟨x, hescape, -⟩
  · cases before with
    | nil =>
        rw [hbare] at hc
        exact absurd (List.cons.inj hc).1 hquote
    | cons b before => simp [hbare] at hc
  · rw [hescape] at hc
    cases before with
    | nil => simp at hc
    | cons b before =>
        cases before with
        | nil =>
            obtain ⟨hslash, -, hafter⟩ : b = '\\' ∧ x = '"' ∧ after = [] := by
              simpa [eq_comm] using hc
            exact ⟨by rw [hslash], hafter⟩
        | cons b' before => simp at hc

/-- The induction is over the characters from the left; what was written for those before is
whole, so it ends in an even number of backslashes. -/
theorem odd_backslashes {text : List Char} (htext : Even (backslashes text))
    (hs : s.flatMap quotedChar = before ++ '"' :: after) :
    Odd (backslashes (text ++ before)) := by
  induction s generalizing text before with
  | nil => simp at hs
  | cons c s ih =>
      rw [List.flatMap_cons, List.append_eq_append_iff] at hs
      rcases hs with ⟨behind, hbefore, hrest⟩ | ⟨within, hchar, hafter⟩
      · rw [hbefore, ← List.append_assoc]
        exact ih (even_backslashes_quotedChar htext c) hrest
      · cases within with
        | nil =>
            -- The quote is the first of what follows, before which nothing is left.
            rw [List.append_nil] at hchar
            rw [List.nil_append] at hafter
            have hrest : Odd (backslashes (text ++ quotedChar c ++ [])) :=
              ih (even_backslashes_quotedChar htext c) hafter.symm
            rwa [List.append_nil, hchar] at hrest
        | cons x within =>
            obtain ⟨rfl, -⟩ := List.cons.inj hafter
            obtain ⟨rfl, -⟩ := before_eq_of_quotedChar hchar
            rw [backslashes_concat_slash]
            exact htext.add_one

theorem inner_quotes_quote (s : String) (hbefore : before ≠ []) (hafter : after ≠ [])
    (hwritten : (quote s).toList = before ++ '"' :: after) : Odd (backslashes before) := by
  obtain ⟨b, before, rfl⟩ := List.exists_cons_of_ne_nil hbefore
  obtain ⟨after, a, rfl⟩ := (List.eq_nil_or_concat' after).resolve_left hafter
  rw [toList_quote, List.cons_append] at hwritten
  obtain ⟨rfl, hinside⟩ := List.cons.inj hwritten
  rw [← List.cons_append, ← List.append_assoc] at hinside
  obtain ⟨hinside, -⟩ := List.append_inj' hinside rfl
  have hfirst : Even (backslashes ['"']) := Even.zero
  exact odd_backslashes hfirst hinside

/-! Characters that are not written -/

theorem notMem_quotedChar {x : Char} (hx : x ∈ breaking) (c : Char) : x ∉ quotedChar c := by
  intro hmem
  rcases quotedChar_cases c with ⟨hbare, -, -, hc⟩ | ⟨y, hescape, hy⟩
  · rw [hbare, List.mem_singleton] at hmem
    exact hc (hmem ▸ hx)
  · rw [hescape] at hmem
    rcases List.mem_cons.mp hmem with rfl | hlast
    · exact absurd hx (by decide)
    · obtain rfl := List.mem_singleton.mp hlast
      exact notMem_breaking_of_escaped? hy hx

theorem notMem_quote {x : Char} (hx : x ∈ breaking) (s : String) : x ∉ (quote s).toList := by
  have hquote : x ≠ '"' := by
    rintro rfl
    exact absurd hx (by decide)
  rw [toList_quote]
  simp only [List.mem_cons, List.mem_append, List.mem_flatMap, List.not_mem_nil, or_false, not_or]
  refine ⟨hquote, ?_, hquote⟩
  rintro ⟨c, -, hmem⟩
  exact notMem_quotedChar hx c hmem

/-! Quoting -/

theorem quote_quotes (s : String) : Quotes s (quote s) where
  ends := ⟨_, toList_quote s⟩
  inner_quotes _ _ hbefore hafter := inner_quotes_quote s hbefore hafter
  unbroken _ hx := notMem_quote hx s
  read_back := unquote_quote s

/-- What a call writes for a string stands in quotes and is that of no other string. -/
theorem quoting_unambiguous :
    (∀ s, Quotes s (quote s)) ∧ Function.Injective quote ∧
      ∀ (named? : String → Option ZoneRule) id s,
        (Dispatcher.mk [standard named?, strings]).dispatch id "strings.quote" [.ok (.string s)] =
          .ok (.string (quote s)) := by
  refine ⟨quote_quotes, ?_, fun _ _ _ => rfl⟩
  intro s t hst
  rw [← unquote_quote s, ← unquote_quote t, hst]

example : quote "\\\"\n" = "\"\\\\\\\"\\n\"" := by decide

end CommonExpr.Library
