import CommonExpr.Proofs.Ty

/-!
Types read off their names.

The name of a type is a word with the names of its parameters in brackets behind it.  Main
statement: it is read in one way only, so types are identical just if they are equal, where the
names of messages have no marks in them and are no names of other types.
-/

namespace CommonExpr.Ty

/-- The types without parameters, but for those of messages. -/
def plain : List Ty :=
  [.dyn, .null, .bool, .int, .uint, .double, .string, .bytes, .timestamp, .duration, .type]

/-- Whether a character stands between the names of types. -/
def isMark (c : Char) : Bool := c = '(' || c = ',' || c = ')'

/-- Whether no name of a message in a type can be taken for anything else.  A name of letters,
digits, underscores and dots has no marks.  The words before parameters need no exception, as a
bracket follows them there. -/
def Legible : Ty → Prop
  | .message name => (∀ c ∈ name.toList, isMark c = false) ∧ name ∉ plain.map Ty.name
  | .wrapper inner => inner.Legible
  | .list elem => elem.Legible
  | .map key value => key.Legible ∧ value.Legible
  | .typeOf inner => inner.Legible
  | _ => True

/-! Words and parameters -/

/-- What is written of a type before its parameters. -/
def word (t : Ty) : List Char := (t.head?.getD t.name).toList

/-- What is written of the parameters of a type. -/
def params : Ty → List Char
  | .wrapper inner => '(' :: (inner.fullName.toList ++ [')'])
  | .list elem => '(' :: (elem.fullName.toList ++ [')'])
  | .map key value =>
      '(' :: (key.fullName.toList ++ ", ".toList ++ value.fullName.toList ++ [')'])
  | .typeOf inner => '(' :: (inner.fullName.toList ++ [')'])
  | _ => []

variable {a b t : Ty} {r s : List Char}

theorem toList_fullName (t : Ty) : t.fullName.toList = t.word ++ t.params := by
  cases t with
  | wrapper inner => exact toList_wrapper inner
  | list elem => exact toList_list elem
  | map key value => exact toList_map key value
  | typeOf inner => exact toList_typeOf inner
  | _ => exact (List.append_nil _).symm

theorem params_eq_nil (ht : t.head? = none) : t.params = [] := by
  cases t <;> first | rfl | cases ht

theorem exists_params_of_head? {h : String} (ht : t.head? = some h) :
    ∃ rest, t.params = '(' :: rest := by
  cases t <;> first | exact ⟨_, rfl⟩ | cases ht

theorem isMark_of_any {text : List Char} (htext : text.any isMark = false) :
    ∀ c ∈ text, isMark c = false := by
  simpa using htext

theorem Legible.isMark_word (ht : t.Legible) : ∀ c ∈ t.word, isMark c = false := by
  cases t with
  | message name => exact ht.1
  | wrapper inner => exact isMark_of_any (show "wrapper".toList.any isMark = false by decide)
  | list elem => exact isMark_of_any (show "list".toList.any isMark = false by decide)
  | map key value => exact isMark_of_any (show "map".toList.any isMark = false by decide)
  | typeOf inner => exact isMark_of_any (show "type".toList.any isMark = false by decide)
  | _ => exact isMark_of_any (by decide)

/-- Whether a text is over or goes on behind a type that is a parameter. -/
def Closed (rest : List Char) : Prop := ∀ c ∈ rest.head?, c = ',' ∨ c = ')'

theorem closed_nil : Closed [] := fun _ hc => nomatch hc

theorem closed_comma (rest : List Char) : Closed (',' :: rest) :=
  fun _ hc => Or.inl (Option.some.inj hc).symm

theorem closed_bracket (rest : List Char) : Closed (')' :: rest) :=
  fun _ hc => Or.inr (Option.some.inj hc).symm

theorem Closed.ne_open {rest : List Char} (hr : Closed r) : r ≠ '(' :: rest := by
  rintro rfl
  exact absurd (hr '(' rfl) (by decide)

theorem Closed.isMark_params (hr : Closed r) (t : Ty) :
    ∀ c ∈ (t.params ++ r).head?, isMark c = true := by
  cases ht : t.head? with
  | none =>
      rw [params_eq_nil ht, List.nil_append]
      intro c hc
      rcases hr c hc with rfl | rfl <;> rfl
  | some h =>
      obtain ⟨rest, hrest⟩ := exists_params_of_head? ht
      rw [hrest]
      intro c hc
      cases hc
      rfl

/-- A word ends where the next mark stands. -/
theorem append_inj_of_marks {u v x y : List Char} (hu : ∀ c ∈ u, isMark c = false)
    (hv : ∀ c ∈ v, isMark c = false) (hx : ∀ c ∈ x.head?, isMark c = true)
    (hy : ∀ c ∈ y.head?, isMark c = true) (happend : u ++ x = v ++ y) : u = v ∧ x = y := by
  induction u generalizing v with
  | nil =>
      cases v with
      | nil => exact ⟨rfl, happend⟩
      | cons c v =>
          have hmark := hx c (by rw [← List.nil_append x, happend]; rfl)
          rw [hv c List.mem_cons_self] at hmark
          cases hmark
  | cons c u ih =>
      cases v with
      | nil =>
          have hmark := hy c (by rw [← List.nil_append y, ← happend]; rfl)
          rw [hu c List.mem_cons_self] at hmark
          cases hmark
      | cons d v =>
          obtain ⟨rfl, hrest⟩ := List.cons.inj happend
          obtain ⟨rfl, hxy⟩ := ih (fun e he => hu e (List.mem_cons_of_mem c he))
            (fun e he => hv e (List.mem_cons_of_mem c he)) hrest
          exact ⟨rfl, hxy⟩

/-- What is written alike has the same word with the same parameters, or none, behind it. -/
theorem alike_of_append (ha : a.Legible) (hb : b.Legible) (hr : Closed r) (hs : Closed s)
    (happend : a.fullName.toList ++ r = b.fullName.toList ++ s) :
    a.head? = b.head? ∧ a.word = b.word ∧ a.params ++ r = b.params ++ s := by
  rw [toList_fullName, toList_fullName, List.append_assoc, List.append_assoc] at happend
  obtain ⟨hword, hparams⟩ := append_inj_of_marks ha.isMark_word hb.isMark_word
    (hr.isMark_params a) (hs.isMark_params b) happend
  refine ⟨?_, hword, hparams⟩
  cases hheada : a.head? with
  | none =>
      cases hheadb : b.head? with
      | none => rfl
      | some h =>
          obtain ⟨rest, hrest⟩ := exists_params_of_head? hheadb
          rw [params_eq_nil hheada, hrest] at hparams
          exact absurd hparams hr.ne_open
  | some h =>
      cases hheadb : b.head? with
      | none =>
          obtain ⟨rest, hrest⟩ := exists_params_of_head? hheada
          rw [params_eq_nil hheadb, hrest] at hparams
          exact absurd hparams.symm hs.ne_open
      | some h' =>
          rw [word, word, hheada, hheadb] at hword
          exact congrArg some (String.toList_inj.mp hword)

/-! Types without parameters -/

theorem Legible.find?_plain (ht : t.Legible) (hhead : t.head? = none) :
    (plain.find? (·.name = t.name)).getD (.message t.name) = t := by
  cases t with
  | message name =>
      have hnone : plain.find? (·.name = name) = none := by
        rw [List.find?_eq_none]
        intro u hu hname
        exact ht.2 (List.mem_map.mpr ⟨u, hu, of_decide_eq_true hname⟩)
      exact congrArg (Option.getD · (.message name)) hnone
  | wrapper inner => cases hhead
  | list elem => cases hhead
  | map key value => cases hhead
  | typeOf inner => cases hhead
  | _ => rfl

theorem eq_of_word_eq (ha : a.Legible) (hb : b.Legible) (hheada : a.head? = none)
    (hheadb : b.head? = none) (hword : a.word = b.word) : a = b := by
  rw [word, word, hheada, hheadb] at hword
  have hname : a.name = b.name := String.toList_inj.mp hword
  rw [← ha.find?_plain hheada, ← hb.find?_plain hheadb, hname]

/-! Types with parameters -/

/-- The induction is on one of two types that are written alike, with anything behind them that
may stand behind a parameter. -/
theorem fullName_append_inj (ha : a.Legible) (hb : b.Legible) (hr : Closed r) (hs : Closed s)
    (happend : a.fullName.toList ++ r = b.fullName.toList ++ s) : a = b ∧ r = s := by
  induction a generalizing b r s with
  | wrapper inner ih =>
      obtain ⟨hheads, -, hparams⟩ := alike_of_append ha hb hr hs happend
      cases b with
      | wrapper inner' =>
          obtain ⟨rfl, hend⟩ := ih (b := inner') ha hb (closed_bracket r) (closed_bracket s)
            (by simpa [params] using hparams)
          exact ⟨rfl, (List.cons.inj hend).2⟩
      | _ => simp [head?] at hheads
  | list elem ih =>
      obtain ⟨hheads, -, hparams⟩ := alike_of_append ha hb hr hs happend
      cases b with
      | list elem' =>
          obtain ⟨rfl, hend⟩ := ih (b := elem') ha hb (closed_bracket r) (closed_bracket s)
            (by simpa [params] using hparams)
          exact ⟨rfl, (List.cons.inj hend).2⟩
      | _ => simp [head?] at hheads
  | map key value ihkey ihvalue =>
      obtain ⟨hheads, -, hparams⟩ := alike_of_append ha hb hr hs happend
      cases b with
      | map key' value' =>
          obtain ⟨rfl, hbehind⟩ := ihkey (b := key') ha.1 hb.1
            (closed_comma (' ' :: (value.fullName.toList ++ ')' :: r)))
            (closed_comma (' ' :: (value'.fullName.toList ++ ')' :: s)))
            (by simpa [params] using hparams)
          obtain ⟨rfl, hend⟩ := ihvalue (b := value') ha.2 hb.2 (closed_bracket r)
            (closed_bracket s) (by simpa using hbehind)
          exact ⟨rfl, (List.cons.inj hend).2⟩
      | _ => simp [head?] at hheads
  | typeOf inner ih =>
      obtain ⟨hheads, -, hparams⟩ := alike_of_append ha hb hr hs happend
      cases b with
      | typeOf inner' =>
          obtain ⟨rfl, hend⟩ := ih (b := inner') ha hb (closed_bracket r) (closed_bracket s)
            (by simpa [params] using hparams)
          exact ⟨rfl, (List.cons.inj hend).2⟩
      | _ => simp [head?] at hheads
  | _ =>
      obtain ⟨hheads, hword, hparams⟩ := alike_of_append ha hb hr hs happend
      rw [params_eq_nil rfl, params_eq_nil hheads.symm] at hparams
      exact ⟨eq_of_word_eq ha hb rfl hheads.symm hword, hparams⟩

theorem fullName_inj (ha : a.Legible) (hb : b.Legible) (hfull : a.fullName = b.fullName) :
    a = b :=
  (fullName_append_inj ha hb closed_nil closed_nil (by rw [hfull])).1

/-- Types are identical just if they are equal, and their full names tell. -/
theorem identical_iff_eq (ha : a.Legible) (hb : b.Legible) :
    (a.identical b = true ↔ a = b) ∧ (a.fullName = b.fullName ↔ a = b) := by
  refine ⟨⟨fun hsame => fullName_inj ha hb (identical_iff.mp hsame).2, ?_⟩,
    fun hfull => fullName_inj ha hb hfull, congrArg fullName⟩
  rintro rfl
  exact identical_refl a

namespace IdentityWitness

/-- `map(string, list(acme.Box_1))` -/
def boxes : Ty := .map .string (.list (.message "acme.Box_1"))

/-- A message may be named as what stands before parameters. -/
def wrappers : Ty := .map .string (.list (.message "wrapper"))

theorem boxes_not_wrappers :
    boxes.Legible ∧ wrappers.Legible ∧ boxes.identical wrappers = false := by
  have hboxes : boxes.Legible := ⟨trivial, isMark_of_any (by decide), by decide⟩
  have hwrappers : wrappers.Legible := ⟨trivial, isMark_of_any (by decide), by decide⟩
  refine ⟨hboxes, hwrappers, ?_⟩
  rw [← Bool.not_eq_true, (identical_iff_eq hboxes hwrappers).1]
  decide

end IdentityWitness

end CommonExpr.Ty
