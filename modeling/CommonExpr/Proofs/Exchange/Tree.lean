import CommonExpr.Exchange.Tree
import CommonExpr.Proofs.Expr

/-!
Expressions in exchange form and back.

A tree in exchange form can say more than an expression, and an expression can have
entries that no tree can say.  Main statement: an expression is read back from its tree as
it was if its entries fit, and the fault names one that does not fit otherwise; a tree that
can be read is the tree of what is read, but for what expressions do not keep.
-/

namespace CommonExpr

/-- Whether the entries of all literals in an expression fit: fields in messages, pairs in
maps. -/
def Expr.WellKeyed (e : Expr) : Prop :=
  ∀ id message entries, (Expr.struct id message entries).Occurs e →
    ∀ entry ∈ entries, entry.Fits message

theorem Expr.wellKeyed_of_operands {e : Expr} (hoperands : ∀ part ∈ e.operands, part.WellKeyed)
    (hentries : ∀ id message entries, e = .struct id message entries →
      ∀ entry ∈ entries, entry.Fits message) : e.WellKeyed := by
  intro id message entries hoccurs
  cases hoccurs with
  | whole => exact hentries id message entries rfl
  | operand hoperand hpart => exact hoperands _ hoperand id message entries hpart

namespace Exchange

/-! From an expression to its tree and back -/

/-- Whether a fault names an entry of a literal in the expression that does not fit, and the
key that it should have had. -/
def Blames (e : Expr) (fault : TreeFault) : Prop :=
  ∃ id message entries entry, (Expr.struct id message entries).Occurs e ∧ entry ∈ entries ∧
    ¬ entry.Fits message ∧
    fault = .missingField entry.id (if message = "" then "map_key" else "field_key")

theorem Blames.operand {e part : Expr} {fault : TreeFault} (hpart : part ∈ e.operands)
    (hblames : Blames part fault) : Blames e fault := by
  obtain ⟨id, message, entries, entry, hoccurs, hmisfit⟩ := hblames
  exact ⟨id, message, entries, entry, .operand hpart hoccurs, hmisfit⟩

/-- An expression is read back from its tree, or the fault names an entry. -/
def ReadsBack (e : Expr) : Prop :=
  e.WellKeyed ∧ (Tree.ofExpr e).toExpr = .ok e ∨
    ∃ fault, Blames e fault ∧ (Tree.ofExpr e).toExpr = .error fault

theorem toExprs_ofExprs {es : List Expr} (hes : ∀ e ∈ es, ReadsBack e) :
    (∀ e ∈ es, e.WellKeyed) ∧ Tree.toExprs (Tree.ofExprs es) = .ok es ∨
      ∃ fault, (∃ e ∈ es, Blames e fault) ∧ Tree.toExprs (Tree.ofExprs es) = .error fault := by
  induction es with
  | nil => exact Or.inl ⟨nofun, rfl⟩
  | cons e rest ih =>
      obtain ⟨he, hrest⟩ := List.forall_mem_cons.mp hes
      rw [Tree.ofExprs, Tree.toExprs]
      rcases he with ⟨hkeyed, hread⟩ | ⟨fault, hblames, hread⟩
      · rcases ih hrest with ⟨hall, hreads⟩ | ⟨fault, ⟨part, hpart, hblames⟩, hreads⟩
        · left
          rw [hread, hreads]
          exact ⟨List.forall_mem_cons.mpr ⟨hkeyed, hall⟩, rfl⟩
        · right
          rw [hread, hreads]
          exact ⟨fault, ⟨part, List.mem_cons_of_mem e hpart, hblames⟩, rfl⟩
      · right
        rw [hread]
        exact ⟨fault, ⟨e, List.mem_cons_self, hblames⟩, rfl⟩

/-- An entry that does not fit ends the reading. -/
theorem toEntries_of_misfit {message : String} {entry : Entry} (hmisfit : ¬ entry.Fits message)
    (rest : List Entry) :
    TreeEntry.toEntries (message == "") (TreeEntry.ofEntries (entry :: rest)) =
      .error (.missingField entry.id (if message = "" then "map_key" else "field_key")) := by
  cases entry with
  | field id name value =>
      have hmap : message = "" := Decidable.not_not.mp hmisfit
      simp [TreeEntry.ofEntries, TreeEntry.toEntries, TreeEntry.toEntry, hmap, Entry.id]
  | pair id key value =>
      have hmessage : message ≠ "" := hmisfit
      simp [TreeEntry.ofEntries, TreeEntry.toEntries, TreeEntry.toEntry, hmessage, Entry.id]

/-- Step: an entry that fits is read back, key before value, and the others after it. -/
theorem toEntries_of_fits {message : String} {entry : Entry} (hfits : entry.Fits message)
    (hparts : ∀ part ∈ entry.operands, ReadsBack part) (rest : List Entry) :
    (∀ part ∈ entry.operands, part.WellKeyed) ∧
        TreeEntry.toEntries (message == "") (TreeEntry.ofEntries (entry :: rest)) =
          (entry :: ·) <$> TreeEntry.toEntries (message == "") (TreeEntry.ofEntries rest) ∨
      ∃ fault, (∃ part ∈ entry.operands, Blames part fault) ∧
        TreeEntry.toEntries (message == "") (TreeEntry.ofEntries (entry :: rest)) =
          .error fault := by
  cases entry with
  | field id name value =>
      have hmessage : (message == "") = false := beq_eq_false_iff_ne.mpr hfits
      rw [hmessage, TreeEntry.ofEntries, TreeEntry.toEntries, TreeEntry.toEntry, if_neg nofun,
        TreeEntry.toValue]
      rcases hparts value List.mem_cons_self with ⟨hkeyed, hread⟩ | ⟨fault, hblames, hread⟩
      · left
        rw [hread]
        refine ⟨List.forall_mem_singleton.mpr hkeyed, ?_⟩
        cases TreeEntry.toEntries false (TreeEntry.ofEntries rest) <;> rfl
      · right
        rw [hread]
        exact ⟨fault, ⟨value, List.mem_cons_self, hblames⟩, rfl⟩
  | pair id key value =>
      have hmap : (message == "") = true := beq_iff_eq.mpr hfits
      obtain ⟨hkey, hvalue⟩ := List.forall_mem_cons.mp hparts
      rw [hmap, TreeEntry.ofEntries, TreeEntry.toEntries, TreeEntry.toEntry, if_pos rfl,
        TreeEntry.toValue]
      rcases hkey with ⟨hkeyed, hread⟩ | ⟨fault, hblames, hread⟩
      · rcases hvalue value List.mem_cons_self with ⟨hkeyed', hread'⟩ | ⟨fault, hblames, hread'⟩
        · left
          rw [hread, hread']
          refine ⟨List.forall_mem_cons.mpr ⟨hkeyed, List.forall_mem_singleton.mpr hkeyed'⟩, ?_⟩
          cases TreeEntry.toEntries true (TreeEntry.ofEntries rest) <;> rfl
        · right
          rw [hread, hread']
          exact ⟨fault, ⟨value, List.mem_cons_of_mem key List.mem_cons_self, hblames⟩, rfl⟩
      · right
        rw [hread]
        exact ⟨fault, ⟨key, List.mem_cons_self, hblames⟩, rfl⟩

/-- Run: all entries are read back, or the first fault names one that does not fit, here or in
an operand. -/
theorem toEntries_ofEntries {message : String} {entries : List Entry}
    (hparts : ∀ part ∈ entries.flatMap Entry.operands, ReadsBack part) :
    ((∀ entry ∈ entries, entry.Fits message) ∧
        (∀ part ∈ entries.flatMap Entry.operands, part.WellKeyed) ∧
        TreeEntry.toEntries (message == "") (TreeEntry.ofEntries entries) = .ok entries) ∨
      ∃ fault, ((∃ part ∈ entries.flatMap Entry.operands, Blames part fault) ∨
          ∃ entry ∈ entries, ¬ entry.Fits message ∧
            fault = .missingField entry.id (if message = "" then "map_key" else "field_key")) ∧
        TreeEntry.toEntries (message == "") (TreeEntry.ofEntries entries) = .error fault := by
  induction entries with
  | nil => exact Or.inl ⟨nofun, nofun, rfl⟩
  | cons entry rest ih =>
      rw [List.flatMap_cons] at hparts ⊢
      obtain ⟨hentry, hrest⟩ := List.forall_mem_append.mp hparts
      by_cases hfits : entry.Fits message
      · rcases toEntries_of_fits hfits hentry rest with
          ⟨hkeyed, hread⟩ | ⟨fault, ⟨part, hpart, hblames⟩, hread⟩
        · rw [hread]
          rcases ih hrest with ⟨hall, hall', hreads⟩ | ⟨fault, hcause, hreads⟩
          · left
            rw [hreads]
            exact ⟨List.forall_mem_cons.mpr ⟨hfits, hall⟩,
              List.forall_mem_append.mpr ⟨hkeyed, hall'⟩, rfl⟩
          · right
            rw [hreads]
            refine ⟨fault, hcause.imp ?_ ?_, rfl⟩
            · rintro ⟨part, hpart, hblames⟩
              exact ⟨part, List.mem_append_right _ hpart, hblames⟩
            · rintro ⟨other, hother, hmisfit⟩
              exact ⟨other, List.mem_cons_of_mem entry hother, hmisfit⟩
        · exact Or.inr ⟨fault, Or.inl ⟨part, List.mem_append_left _ hpart, hblames⟩, hread⟩
      · exact Or.inr ⟨_, Or.inr ⟨entry, List.mem_cons_self, hfits, rfl⟩,
          toEntries_of_misfit hfits rest⟩

/-- A node without entries is read back as its operands are. -/
theorem toExpr_of_operands (e : Expr)
    (hnode : ∀ id message entries, e ≠ .struct id message entries) :
    (Tree.toExprs (Tree.ofExprs e.operands) = .ok e.operands → (Tree.ofExpr e).toExpr = .ok e) ∧
      ∀ fault, Tree.toExprs (Tree.ofExprs e.operands) = .error fault →
        (Tree.ofExpr e).toExpr = .error fault := by
  cases e with
  | literal id value => exact ⟨fun _ => by cases value <;> rfl, nofun⟩
  | ident id name => exact ⟨fun _ => rfl, nofun⟩
  | select id operand field =>
      simp only [Expr.operands, Tree.ofExprs, Tree.toExprs, Tree.ofExpr, Tree.toExpr]
      cases (Tree.ofExpr operand).toExpr <;> simp
  | has id operand field =>
      simp only [Expr.operands, Tree.ofExprs, Tree.toExprs, Tree.ofExpr, Tree.toExpr]
      cases (Tree.ofExpr operand).toExpr <;> simp
  | call id function args =>
      simp only [Expr.operands, Tree.ofExpr, Tree.toExpr]
      cases Tree.toExprs (Tree.ofExprs args) <;> simp
  | memberCall id target function args =>
      simp only [Expr.operands, Tree.ofExprs, Tree.toExprs, Tree.ofExpr, Tree.toExpr]
      cases (Tree.ofExpr target).toExpr with
      | error fault => simp
      | ok receiver => cases Tree.toExprs (Tree.ofExprs args) <;> simp
  | list id elements =>
      simp only [Expr.operands, Tree.ofExpr, Tree.toExpr]
      cases Tree.toExprs (Tree.ofExprs elements) <;> simp
  | struct id message entries => exact absurd rfl (hnode id message entries)

/-- Every expression is read back, or the fault names an entry: by induction on operands, with
entries as the one case in which a fault arises. -/
theorem readsBack (e : Expr) : ReadsBack e := by
  induction e using Expr.induction_on_operands with
  | step e ih =>
      by_cases hstruct : ∃ id message entries, e = .struct id message entries
      · obtain ⟨id, message, entries, rfl⟩ := hstruct
        rw [ReadsBack, Tree.ofExpr, Tree.toExpr]
        rcases toEntries_ofEntries ih with ⟨hfits, hkeyed, hreads⟩ | ⟨fault, hcause, hreads⟩
        · left
          rw [hreads]
          refine ⟨Expr.wellKeyed_of_operands hkeyed ?_, rfl⟩
          intro _ _ _ heq
          cases heq
          exact hfits
        · right
          rw [hreads]
          refine ⟨fault, ?_, rfl⟩
          rcases hcause with ⟨part, hpart, hblames⟩ | ⟨entry, hentry, hmisfit⟩
          · exact hblames.operand hpart
          · exact ⟨id, message, entries, entry, .whole, hentry, hmisfit⟩
      · have hnode : ∀ id message entries, e ≠ .struct id message entries :=
          fun id message entries heq => hstruct ⟨id, message, entries, heq⟩
        obtain ⟨hok, herror⟩ := toExpr_of_operands e hnode
        rcases toExprs_ofExprs ih with ⟨hkeyed, hreads⟩ | ⟨fault, ⟨part, hpart, hblames⟩, hreads⟩
        · left
          refine ⟨Expr.wellKeyed_of_operands hkeyed ?_, hok hreads⟩
          intro id message entries heq
          exact absurd heq (hnode id message entries)
        · exact Or.inr ⟨fault, hblames.operand hpart, herror fault hreads⟩

theorem Blames.not_wellKeyed {e : Expr} {fault : TreeFault} (hblames : Blames e fault) :
    ¬ e.WellKeyed := by
  obtain ⟨id, message, entries, entry, hoccurs, hentry, hmisfit, -⟩ := hblames
  exact fun hkeyed => hmisfit (hkeyed id message entries hoccurs entry hentry)

/-! From a tree to the expression and back -/

/-- The constant without the number that stands for null. -/
def Constant.forget : Constant → Constant
  | .null _ => .null 0
  | c => c

mutual

/-- The tree without what expressions do not keep: which elements and entries are optional,
and the number that stands for null. -/
def Tree.forget : Tree → Tree
  | .mk id kind => .mk id kind.forget

def TreeKind.forget : TreeKind → TreeKind
  | .unset => .unset
  | .constant c => .constant c.forget
  | .ident name => .ident name
  | .select operand field testOnly => .select (Tree.forgetIn operand) field testOnly
  | .call target function args => .call (Tree.forgetIn target) function (Tree.forgetAll args)
  | .list elements _ => .list (Tree.forgetAll elements) []
  | .struct message entries => .struct message (TreeEntry.forgetAll entries)
  | .comprehension => .comprehension

def Tree.forgetIn : Option Tree → Option Tree
  | none => none
  | some t => some t.forget

def Tree.forgetAll : List Tree → List Tree
  | [] => []
  | t :: rest => t.forget :: Tree.forgetAll rest

def TreeEntry.forgetAll : List TreeEntry → List TreeEntry
  | [] => []
  | .mk id key value _ :: rest =>
      .mk id key.forget (Tree.forgetIn value) false :: TreeEntry.forgetAll rest

def TreeKey.forget : TreeKey → TreeKey
  | .unset => .unset
  | .field name => .field name
  | .map key => .map key.forget

end

theorem Constant.ofLiteral_of_toLiteral {id : Int} {c : Constant} {l : Literal}
    (hread : c.toLiteral id = .ok l) : Constant.ofLiteral l = c.forget := by
  cases c <;> cases hread <;> rfl

theorem TreeEntry.toEntries_cons {isMap : Bool} {t : TreeEntry} {rest : List TreeEntry}
    {entries : List Entry} (hread : TreeEntry.toEntries isMap (t :: rest) = .ok entries) :
    ∃ entry others, TreeEntry.toEntry isMap t = .ok entry ∧
      TreeEntry.toEntries isMap rest = .ok others ∧ entries = entry :: others := by
  rw [TreeEntry.toEntries] at hread
  split at hread
  · cases hread
  · next entry hentry =>
      split at hread
      · cases hread
      · next others hothers =>
          cases hread
          exact ⟨entry, others, hentry, hothers, rfl⟩

theorem TreeEntry.toEntry_map {isMap : Bool} {id : Int} {key : Tree} {value : Option Tree}
    {optional : Bool} {entry : Entry}
    (hread : TreeEntry.toEntry isMap (.mk id (.map key) value optional) = .ok entry) :
    ∃ k v, key.toExpr = .ok k ∧ TreeEntry.toValue id value = .ok v ∧ entry = .pair id k v := by
  rw [TreeEntry.toEntry] at hread
  split at hread
  · split at hread
    · cases hread
    · next k hk =>
        split at hread
        · cases hread
        · next v hv =>
            cases hread
            exact ⟨k, v, hk, hv, rfl⟩
  · cases hread

theorem TreeEntry.toEntry_field {isMap : Bool} {id : Int} {name : String} {value : Option Tree}
    {optional : Bool} {entry : Entry}
    (hread : TreeEntry.toEntry isMap (.mk id (.field name) value optional) = .ok entry) :
    ∃ v, TreeEntry.toValue id value = .ok v ∧ entry = .field id name v := by
  rw [TreeEntry.toEntry] at hread
  split at hread
  · cases hread
  · split at hread
    · cases hread
    · next v hv =>
        cases hread
        exact ⟨v, hv, rfl⟩

mutual

/-- What is read from a tree has this tree, but for what is forgotten. -/
theorem Tree.ofExpr_of_toExpr (t : Tree) {e : Expr} (hread : t.toExpr = .ok e) :
    Tree.ofExpr e = t.forget := by
  match t with
  | .mk id .unset => cases hread
  | .mk id (.constant c) =>
      rw [Tree.toExpr] at hread
      split at hread
      · cases hread
      · next l hl =>
          cases hread
          rw [Tree.ofExpr, Constant.ofLiteral_of_toLiteral hl, Tree.forget, TreeKind.forget]
  | .mk id (.ident name) =>
      cases hread
      rfl
  | .mk id (.select none field testOnly) => cases hread
  | .mk id (.select (some operand) field testOnly) =>
      rw [Tree.toExpr] at hread
      split at hread
      · cases hread
      · next o ho =>
          have hoperand := Tree.ofExpr_of_toExpr operand ho
          cases hread
          rw [Tree.forget, TreeKind.forget, Tree.forgetIn, ← hoperand]
          cases testOnly <;> rfl
  | .mk id (.call none function args) =>
      rw [Tree.toExpr] at hread
      split at hread
      · cases hread
      · next es hes =>
          cases hread
          rw [Tree.ofExpr, Tree.ofExprs_of_toExprs args hes, Tree.forget, TreeKind.forget,
            Tree.forgetIn]
  | .mk id (.call (some target) function args) =>
      rw [Tree.toExpr] at hread
      split at hread
      · cases hread
      · next receiver hreceiver =>
          split at hread
          · cases hread
          · next es hes =>
              cases hread
              rw [Tree.ofExpr, Tree.ofExpr_of_toExpr target hreceiver,
                Tree.ofExprs_of_toExprs args hes, Tree.forget, TreeKind.forget, Tree.forgetIn]
  | .mk id (.list elements optionalIndices) =>
      rw [Tree.toExpr] at hread
      split at hread
      · cases hread
      · next es hes =>
          cases hread
          rw [Tree.ofExpr, Tree.ofExprs_of_toExprs elements hes, Tree.forget, TreeKind.forget]
  | .mk id (.struct message entries) =>
      rw [Tree.toExpr] at hread
      split at hread
      · cases hread
      · next read hentries =>
          cases hread
          rw [Tree.ofExpr, TreeEntry.ofEntries_of_toEntries _ entries hentries, Tree.forget,
            TreeKind.forget]
  | .mk id .comprehension => cases hread

theorem Tree.ofExprs_of_toExprs (ts : List Tree) {es : List Expr}
    (hread : Tree.toExprs ts = .ok es) : Tree.ofExprs es = Tree.forgetAll ts := by
  match ts with
  | [] =>
      cases hread
      rfl
  | t :: rest =>
      rw [Tree.toExprs] at hread
      split at hread
      · cases hread
      · next e he =>
          split at hread
          · cases hread
          · next es hes =>
              cases hread
              rw [Tree.ofExprs, Tree.ofExpr_of_toExpr t he, Tree.ofExprs_of_toExprs rest hes,
                Tree.forgetAll]

theorem TreeEntry.ofEntries_of_toEntries (isMap : Bool) (ts : List TreeEntry)
    {entries : List Entry} (hread : TreeEntry.toEntries isMap ts = .ok entries) :
    TreeEntry.ofEntries entries = TreeEntry.forgetAll ts := by
  match ts with
  | [] =>
      cases hread
      rfl
  | .mk id (.map key) (some value) optional :: rest =>
      obtain ⟨entry, others, hentry, hothers, rfl⟩ := TreeEntry.toEntries_cons hread
      obtain ⟨k, v, hk, hv, rfl⟩ := TreeEntry.toEntry_map hentry
      rw [TreeEntry.ofEntries, Tree.ofExpr_of_toExpr key hk, Tree.ofExpr_of_toExpr value hv,
        TreeEntry.ofEntries_of_toEntries isMap rest hothers, TreeEntry.forgetAll, TreeKey.forget,
        Tree.forgetIn]
  | .mk id (.field name) (some value) optional :: rest =>
      obtain ⟨entry, others, hentry, hothers, rfl⟩ := TreeEntry.toEntries_cons hread
      obtain ⟨v, hv, rfl⟩ := TreeEntry.toEntry_field hentry
      rw [TreeEntry.ofEntries, Tree.ofExpr_of_toExpr value hv,
        TreeEntry.ofEntries_of_toEntries isMap rest hothers, TreeEntry.forgetAll, TreeKey.forget,
        Tree.forgetIn]
  | .mk id (.map key) none optional :: rest =>
      obtain ⟨entry, others, hentry, -⟩ := TreeEntry.toEntries_cons hread
      obtain ⟨k, v, -, hv, -⟩ := TreeEntry.toEntry_map hentry
      cases hv
  | .mk id (.field name) none optional :: rest =>
      obtain ⟨entry, others, hentry, -⟩ := TreeEntry.toEntries_cons hread
      obtain ⟨v, hv, -⟩ := TreeEntry.toEntry_field hentry
      cases hv
  | .mk id .unset value optional :: rest =>
      obtain ⟨entry, others, hentry, -⟩ := TreeEntry.toEntries_cons hread
      cases hentry

end

/-- Conversion loses nothing on the way to a tree, and on the way back only what expressions do
not keep: an expression whose entries fit is read back as it was, and the fault of any other
names an entry of it that does not fit; what is read from a tree has this tree again. -/
theorem conversion_lossless :
    (∀ e : Expr, e.WellKeyed → (Tree.ofExpr e).toExpr = .ok e) ∧
    (∀ e : Expr, ¬ e.WellKeyed → ∃ id message entries entry,
      (Expr.struct id message entries).Occurs e ∧ entry ∈ entries ∧ ¬ entry.Fits message ∧
      (Tree.ofExpr e).toExpr =
        .error (.missingField entry.id (if message = "" then "map_key" else "field_key"))) ∧
    ∀ (t : Tree) (e : Expr), t.toExpr = .ok e → Tree.ofExpr e = t.forget := by
  refine ⟨?_, ?_, fun t e => Tree.ofExpr_of_toExpr t⟩
  · intro e hkeyed
    rcases readsBack e with ⟨-, hread⟩ | ⟨fault, hblames, -⟩
    · exact hread
    · exact absurd hkeyed hblames.not_wellKeyed
  · intro e hmisfit
    rcases readsBack e with ⟨hkeyed, -⟩ | ⟨fault, hblames, hread⟩
    · exact absurd hkeyed hmisfit
    · obtain ⟨id, message, entries, entry, hoccurs, hentry, hfits, rfl⟩ := hblames
      exact ⟨id, message, entries, entry, hoccurs, hentry, hfits, hread⟩

namespace TreeWitness

/-- The message `pkg.M` with the field `f`, the map of null to `true`. -/
def nested : Expr :=
  .struct 6 "pkg.M" [.field 5 "f"
    (.struct 4 "" [.pair 3 (.literal 1 .null) (.literal 2 (.scalar (.bool true)))])]

/-- A list of a map with a field. -/
def misfit : Expr := .list 4 [.struct 3 "" [.field 2 "f" (.ident 1 "x")]]

/-- A list with an optional element, null under another number. -/
def optional : Tree := .mk 2 (.list [.mk 1 (.constant (.null 5))] [0])

theorem nested_wellKeyed : nested.WellKeyed := by
  have hliteral : ∀ id value, (Expr.literal id value).WellKeyed := by
    intro id value
    apply Expr.wellKeyed_of_operands
    · intro part hpart
      exact absurd hpart List.not_mem_nil
    · intro node message entries heq
      cases heq
  have hmap : (Expr.struct 4 "" [.pair 3 (.literal 1 .null)
      (.literal 2 (.scalar (.bool true)))]).WellKeyed := by
    apply Expr.wellKeyed_of_operands
    · intro part hpart
      simp only [Expr.operands, List.flatMap_cons, Entry.operands, List.flatMap_nil,
        List.append_nil, List.mem_cons, List.not_mem_nil, or_false] at hpart
      rcases hpart with rfl | rfl
      · exact hliteral 1 _
      · exact hliteral 2 _
    · intro id message entries heq
      cases heq
      exact List.forall_mem_singleton.mpr rfl
  apply Expr.wellKeyed_of_operands
  · intro part hpart
    rw [List.mem_singleton.mp hpart]
    exact hmap
  · intro id message entries heq
    cases heq
    exact List.forall_mem_singleton.mpr fun heq => absurd heq (by decide)

theorem misfit_not_wellKeyed : ¬ misfit.WellKeyed := by
  intro hkeyed
  have hmap : (Expr.struct 3 "" [.field 2 "f" (.ident 1 "x")]).Occurs misfit :=
    .operand List.mem_cons_self .whole
  exact hkeyed _ _ _ hmap _ List.mem_cons_self rfl

theorem nested_misfit_optional :
    nested.WellKeyed ∧ (Tree.ofExpr nested).toExpr = .ok nested ∧
      ¬ misfit.WellKeyed ∧ (∃ id message entries entry,
        (Expr.struct id message entries).Occurs misfit ∧ entry ∈ entries ∧ ¬ entry.Fits message ∧
        (Tree.ofExpr misfit).toExpr =
          .error (.missingField entry.id (if message = "" then "map_key" else "field_key"))) ∧
      (Tree.ofExpr misfit).toExpr = .error (.missingField 2 "map_key") ∧
      optional.toExpr = .ok (.list 2 [.literal 1 .null]) ∧
      Tree.ofExpr (.list 2 [.literal 1 .null]) = optional.forget := by
  obtain ⟨hback, hmisfit, hforget⟩ := conversion_lossless
  exact ⟨nested_wellKeyed, hback nested nested_wellKeyed, misfit_not_wellKeyed,
    hmisfit misfit misfit_not_wellKeyed, rfl, rfl, hforget optional _ rfl⟩

end TreeWitness

end Exchange

end CommonExpr
