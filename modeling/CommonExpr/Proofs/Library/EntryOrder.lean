import CommonExpr.Library.Format
import CommonExpr.Proofs.Value.Counterpart
import CommonExpr.Proofs.Value.Map
import CommonExpr.Proofs.Value.Order

/-!
The text of maps, and the order of their entries.

Bare numbers, strings and truth values have places of their own among the keys; bytes and
keys in wrappers share the last place, where keys of different kinds tie.  Main statement:
the order is total on the keys of a map just if those in the last place are of one kind, and
then the text does not depend on the order in which the entries are given.  Whether there is
a text never does.
-/

namespace CommonExpr

open Outcome

/-! Kinds of keys -/

/-- The place of the kind of a key: numbers, strings, truth values, bytes. -/
def Key.kind : Key → Nat
  | .number _ => 0
  | .string _ => 1
  | .bool _ => 2
  | .bytes _ => 3

/-- Keys can be compared if they are of one kind. -/
theorem Key.isSome_compare?_iff (k k' : Key) :
    (k.meaning.compare? k'.meaning).isSome = true ↔ k.kind = k'.kind := by
  cases k <;> cases k' <;> simp [Key.meaning, Key.kind, Scalar.Meaning.compare?]

theorem Value.compare?_of_key? {a b : Value} {k k' : Key} (ha : a.key? = some k)
    (hb : b.key? = some k') : a.compare? b = k.meaning.compare? k'.meaning := by
  rw [compare?_eq, (key?_eq_some_iff.mp ha).1, (key?_eq_some_iff.mp hb).1]
  rfl

namespace Format

/-! The order of keys -/

/-- A key stands at the place of its kind or at the last one. -/
theorem keyGroup_eq {a : Value} {k : Key} (ha : a.key? = some k) :
    keyGroup a = 3 ∨ keyGroup a = k.kind := by
  cases a with
  | scalar s =>
      cases s with
      | double d =>
          obtain ⟨i, -, rfl, -⟩ := Scalar.double_key?_eq_some_iff.mp ha
          exact Or.inr rfl
      | _ =>
          cases ha
          exact Or.inr rfl
  | wrapped s => exact Or.inl rfl
  | _ => cases ha

theorem keyBefore_iff {a b : Value} : keyBefore a b = true ↔
    keyGroup a < keyGroup b ∨ keyGroup a = keyGroup b ∧ a.compare? b = some .lt := by
  simp [keyBefore]

theorem keyBefore_irrefl (a : Value) : ¬ keyBefore a a = true := by
  rw [keyBefore_iff]
  rintro (hlt | ⟨-, hlt⟩)
  · exact Nat.lt_irrefl _ hlt
  · have hswap := a.compare?_swap a
    rw [hlt] at hswap
    cases hswap

theorem keyBefore_trans {a b c : Value} (hab : keyBefore a b = true)
    (hbc : keyBefore b c = true) : keyBefore a c = true := by
  rw [keyBefore_iff] at *
  rcases hab with hab | ⟨hgroup, hab⟩
  · left
    rcases hbc with hbc | ⟨hgroup', -⟩
    · exact Nat.lt_trans hab hbc
    · exact hgroup' ▸ hab
  · rcases hbc with hbc | ⟨hgroup', hbc⟩
    · exact Or.inl (hgroup ▸ hbc)
    · exact Or.inr ⟨hgroup.trans hgroup', Value.compare?_lt_trans hab hbc⟩

theorem keyBefore_asymm {a b : Value} (hab : keyBefore a b = true) : ¬ keyBefore b a = true :=
  fun hba => keyBefore_irrefl a (keyBefore_trans hab hba)

/-- Whether the order of keys is a total one on some of them. -/
structure TotallyOrdered (ks : List Value) : Prop where
  irrefl : ∀ a ∈ ks, ¬ keyBefore a a = true
  trans : ∀ a ∈ ks, ∀ b ∈ ks, ∀ c ∈ ks, keyBefore a b = true → keyBefore b c = true →
    keyBefore a c = true
  total : ∀ a ∈ ks, ∀ b ∈ ks, a ≠ b → keyBefore a b = true ∨ keyBefore b a = true

/-- Whether the bytes and the keys in wrappers among some keys are of one kind. -/
def LastOfOneKind (ks : List Value) : Prop :=
  ∀ a ∈ ks, ∀ b ∈ ks, keyGroup a = 3 → keyGroup b = 3 → a.key?.map Key.kind = b.key?.map Key.kind

section Keys

variable {a b : Value} {k k' : Key}

/-- Keys of one kind are not tied unless they are the same. -/
theorem compare?_of_kind (ha : a.key? = some k) (hb : b.key? = some k') (hkind : k.kind = k'.kind)
    (hne : k ≠ k') : a.compare? b = some .lt ∨ b.compare? a = some .lt := by
  obtain ⟨o, ho⟩ := Option.isSome_iff_exists.mp ((k.isSome_compare?_iff k').mpr hkind)
  rw [← Value.compare?_of_key? ha hb] at ho
  have hswap := a.compare?_swap b
  rw [ho] at hswap
  cases o with
  | lt => exact Or.inl ho
  | eq => exact absurd ((Value.key?_eq_iff_equals ha hb).mpr
      ((Value.compare?_eq_iff_equals ho).mp rfl)) hne
  | gt => exact Or.inr hswap

theorem kind_eq_of_keyBefore (ha : a.key? = some k) (hb : b.key? = some k')
    (hgroup : keyGroup a = keyGroup b) (hbefore : keyBefore a b = true) : k.kind = k'.kind := by
  rcases keyBefore_iff.mp hbefore with hlt | ⟨-, hlt⟩
  · exact absurd hgroup (Nat.ne_of_lt hlt)
  · rw [← Key.isSome_compare?_iff, ← Value.compare?_of_key? ha hb, hlt]
    rfl

theorem keyBefore_total (ha : a.key? = some k) (hb : b.key? = some k') (hne : k ≠ k')
    (hlast : keyGroup a = 3 → keyGroup b = 3 → k.kind = k'.kind) :
    keyBefore a b = true ∨ keyBefore b a = true := by
  rw [keyBefore_iff, keyBefore_iff]
  rcases Nat.lt_trichotomy (keyGroup a) (keyGroup b) with hlt | hgroup | hgt
  · exact Or.inl (Or.inl hlt)
  · have hkind : k.kind = k'.kind := by
      rcases keyGroup_eq ha with hthree | hkind
      · exact hlast hthree (hgroup ▸ hthree)
      · rcases keyGroup_eq hb with hthree | hkind'
        · exact hlast (hgroup.trans hthree) hthree
        · exact hkind.symm.trans (hgroup.trans hkind')
    exact (compare?_of_kind ha hb hkind hne).imp (fun h => Or.inr ⟨hgroup, h⟩)
      fun h => Or.inr ⟨hgroup.symm, h⟩
  · exact Or.inr (Or.inl hgt)

end Keys

/-- The keys of a map are in a total order just if the last are of one kind. -/
theorem totallyOrdered_iff {es : List (Outcome Value × Outcome Value)} {ks : List Value}
    {canonical : List Key} (hks : ReadKeys es ks canonical) :
    TotallyOrdered ks ↔ LastOfOneKind ks := by
  constructor
  · intro hordered a ha b hb hthree hthree'
    obtain ⟨k, hk⟩ := hks.exists_key_of_mem ha
    obtain ⟨k', hk'⟩ := hks.exists_key_of_mem hb
    by_cases hab : a = b
    · rw [hab]
    · rw [hk, hk', Option.map_some, Option.map_some, Option.some_inj]
      have hgroup := hthree.trans hthree'.symm
      rcases hordered.total a ha b hb hab with hbefore | hbefore
      · exact kind_eq_of_keyBefore hk hk' hgroup hbefore
      · exact (kind_eq_of_keyBefore hk' hk hgroup.symm hbefore).symm
  · intro hlast
    refine ⟨fun a _ => keyBefore_irrefl a, fun _ _ _ _ _ _ => keyBefore_trans, ?_⟩
    intro a ha b hb hab
    obtain ⟨k, hk⟩ := hks.exists_key_of_mem ha
    obtain ⟨k', hk'⟩ := hks.exists_key_of_mem hb
    refine keyBefore_total hk hk' ?_ fun hthree hthree' => ?_
    · rintro rfl
      exact hab (List.inj_on_of_nodup_map hks.nodup_keys ha hb (hk.trans hk'.symm))
    · have hkind := hlast a ha b hb hthree hthree'
      rwa [hk, hk', Option.map_some, Option.map_some, Option.some_inj] at hkind

/-! Sorting -/

theorem insertEntry_perm (entry : Value × Value) (sorted : List (Value × Value)) :
    (insertEntry entry sorted).Perm (entry :: sorted) := by
  induction sorted with
  | nil => exact List.Perm.refl _
  | cons last rest ih =>
      rw [insertEntry]
      split
      · exact (ih.cons last).trans (List.Perm.swap entry last rest)
      · exact List.Perm.refl _

theorem sortEntries_perm (entries : List (Value × Value)) :
    (sortEntries entries).Perm entries := by
  have hall : ([] ++ entries).Pairwise fun _ _ : Value × Value => True :=
    List.pairwise_of_forall fun _ _ => trivial
  have hperm := (foldl_insert_of_pairwise (P := fun _ => True) (fun _ _ _ => trivial)
    (fun entry sorted _ _ => ⟨insertEntry_perm entry sorted, trivial⟩) trivial hall).1
  exact (List.reverse_perm _).trans hperm

/-- Whether the keys of two entries are not tied. -/
def Untied (e e' : Value × Value) : Prop := keyBefore e.1 e'.1 = true ∨ keyBefore e'.1 e.1 = true

/-- Step: an entry is put among sorted ones, which stand in reverse. -/
theorem insertEntry_sorted {entry : Value × Value} {sorted : List (Value × Value)}
    (huntied : ∀ e ∈ sorted, Untied entry e)
    (hsorted : sorted.Pairwise fun e e' => keyBefore e'.1 e.1 = true) :
    (insertEntry entry sorted).Pairwise fun e e' => keyBefore e'.1 e.1 = true := by
  induction sorted with
  | nil => exact List.pairwise_singleton _ _
  | cons last rest ih =>
      obtain ⟨hlast, hrest⟩ := List.pairwise_cons.mp hsorted
      rw [insertEntry]
      split
      · next hbefore =>
          refine List.pairwise_cons.mpr
            ⟨?_, ih (fun e he => huntied e (List.mem_cons_of_mem last he)) hrest⟩
          intro e he
          rcases List.mem_cons.mp ((insertEntry_perm entry rest).mem_iff.mp he) with rfl | he
          · exact hbefore
          · exact hlast e he
      · next hnot =>
          have hbehind : keyBefore last.1 entry.1 = true :=
            (huntied last List.mem_cons_self).resolve_left hnot
          refine List.pairwise_cons.mpr ⟨?_, hsorted⟩
          intro e he
          rcases List.mem_cons.mp he with rfl | he
          · exact hbehind
          · exact keyBefore_trans (hlast e he) hbehind

theorem sortEntries_sorted {entries : List (Value × Value)} (huntied : entries.Pairwise Untied) :
    (sortEntries entries).Pairwise fun e e' => keyBefore e.1 e'.1 = true := by
  have hreverse := (foldl_insert_of_pairwise (R := Untied)
    (P := fun sorted => sorted.Pairwise fun e e' => keyBefore e'.1 e.1 = true)
    (fun _ _ => Or.symm)
    (fun entry sorted hnew hsorted =>
      ⟨insertEntry_perm entry sorted, insertEntry_sorted hnew hsorted⟩)
    List.Pairwise.nil huntied).2
  exact List.pairwise_reverse.mpr hreverse

/-- Entries without ties are sorted into one list, in whatever order they are given. -/
theorem sortEntries_congr {entries entries' : List (Value × Value)}
    (huntied : entries.Pairwise Untied) (hperm : entries.Perm entries') :
    sortEntries entries = sortEntries entries' := by
  have huntied' : entries'.Pairwise Untied := hperm.pairwise huntied fun h => h.symm
  exact List.Perm.eq_of_pairwise (fun _ _ _ _ hab hba => absurd hba (keyBefore_asymm hab))
    (sortEntries_sorted huntied) (sortEntries_sorted huntied')
    ((sortEntries_perm entries).trans (hperm.trans (sortEntries_perm entries').symm))

/-! The text of a map -/

theorem entryText_congr {write write' : Value → Except FormatFault String} {e : Value × Value}
    (hkey : write e.1 = write' e.1) (hvalue : write e.2 = write' e.2) :
    entryText write e = entryText write' e := by
  rw [entryText, entryText, hkey, hvalue]

/-- Keys and values that are written are less deep than the map. -/
theorem depth_of_mem_sortEntries {entries : Entries} {pairs : List (Value × Value)}
    (hpairs : entries.collectPairs 0 = .ok pairs) {e : Value × Value}
    (he : e ∈ sortEntries pairs) : e.1.depth ≤ entries.depth ∧ e.2.depth ≤ entries.depth := by
  have hread := Entries.mem_read_of_collectPairs hpairs e ((sortEntries_perm pairs).mem_iff.mp he)
  exact ⟨Entries.depth_of_read_key hread, Entries.depth_of_read hread⟩

/-- Fuel beyond the depth of a value is not used. -/
theorem textWithin_congr {v : Value} {fuel fuel' : Nat} (hfuel : v.depth ≤ fuel)
    (hfuel' : v.depth ≤ fuel') : textWithin fuel v = textWithin fuel' v := by
  induction fuel generalizing v fuel' with
  | zero => exact absurd v.depth_pos (Nat.not_lt.mpr hfuel)
  | succ fuel ih =>
      cases fuel' with
      | zero => exact absurd v.depth_pos (Nat.not_lt.mpr hfuel')
      | succ fuel' =>
          cases v with
          | list ty items =>
              have hdepth : items.depth ≤ fuel := Nat.le_of_succ_le_succ hfuel
              have hdepth' : items.depth ≤ fuel' := Nat.le_of_succ_le_succ hfuel'
              rw [textWithin, textWithin]
              cases hitems : items.collect 0 with
              | error f => rfl
              | ok values =>
                  have hle := (Items.readsTo_of_collect hitems).depth_le
                  dsimp only
                  rw [mapM_congr_of_mem fun v hv =>
                    ih (Nat.le_trans (hle v hv) hdepth) (Nat.le_trans (hle v hv) hdepth')]
          | map ty entries =>
              have hdepth : entries.depth ≤ fuel := Nat.le_of_succ_le_succ hfuel
              have hdepth' : entries.depth ≤ fuel' := Nat.le_of_succ_le_succ hfuel'
              rw [textWithin, textWithin]
              cases hpairs : entries.collectPairs 0 with
              | error f => rfl
              | ok pairs =>
                  have hentry : ∀ e ∈ sortEntries pairs, entryText (textWithin fuel) e =
                      entryText (textWithin fuel') e := by
                    intro e he
                    obtain ⟨hkey, hvalue⟩ := depth_of_mem_sortEntries hpairs he
                    exact entryText_congr (ih (hkey.trans hdepth) (hkey.trans hdepth'))
                      (ih (hvalue.trans hdepth) (hvalue.trans hdepth'))
                  dsimp only
                  rw [mapM_congr_of_mem hentry]
          | _ => rfl

/-- The text of sorted entries. -/
def entriesText (pairs : List (Value × Value)) : Except FormatFault String := do
  let parts ← (sortEntries pairs).mapM (entryText text)
  return "\x7b" ++ ", ".intercalate parts ++ "\x7d"

theorem text_map (ty : Ty) (entries : Entries) : text (.map ty entries) =
    match entries.collectPairs 0 with
    | .error _ => .error .brokenEntry
    | .ok pairs => entriesText pairs := by
  rw [text, textWithin]
  cases hpairs : entries.collectPairs 0 with
  | error f => rfl
  | ok pairs =>
      have hentry : ∀ e ∈ sortEntries pairs,
          entryText (textWithin (Value.map ty entries).depth) e = entryText text e := by
        intro e he
        obtain ⟨hkey, hvalue⟩ := depth_of_mem_sortEntries hpairs he
        exact entryText_congr (textWithin_congr (Nat.le_succ_of_le hkey) (Nat.le_succ _))
          (textWithin_congr (Nat.le_succ_of_le hvalue) (Nat.le_succ _))
      dsimp only
      rw [mapM_congr_of_mem hentry, entriesText]

/-- Entries that have a text have one in any order. -/
theorem exists_entriesText_of_perm {pairs pairs' : List (Value × Value)}
    (hperm : pairs.Perm pairs') {out : String} (hout : entriesText pairs = .ok out) :
    ∃ out', entriesText pairs' = .ok out' := by
  obtain ⟨parts, hparts, -⟩ := bind_eq_ok_iff.mp hout
  have hsorted : (sortEntries pairs).Perm (sortEntries pairs') :=
    (sortEntries_perm pairs).trans (hperm.trans (sortEntries_perm pairs').symm)
  obtain ⟨parts', hparts', -⟩ := exists_mapM_of_perm hsorted hparts
  exact ⟨_, bind_eq_ok_iff.mpr ⟨parts', hparts', rfl⟩⟩

end Format

namespace Entries

variable {entries entries' : Entries}

theorem exists_collectPairs_of_perm (hperm : (entries.read 0).Perm (entries'.read 0))
    {pairs : List (Value × Value)} (hpairs : entries.collectPairs 0 = .ok pairs) :
    ∃ pairs', entries'.collectPairs 0 = .ok pairs' ∧ pairs'.Perm pairs :=
  exists_collect_of_perm (hperm.map pair) hpairs

theorem read_values_perm {es es' : List (Value × Value)} (hperm : es.Perm es') (id : Int) :
    ((Entries.values es).read id).Perm ((Entries.values es').read id) := by
  rw [read, read]
  exact hperm.map _

end Entries

namespace Format

variable {entries entries' : Entries}

theorem exists_text_of_perm (hperm : (entries.read 0).Perm (entries'.read 0)) (ty ty' : Ty)
    {out : String} (hout : text (.map ty entries) = .ok out) :
    ∃ out', text (.map ty' entries') = .ok out' := by
  rw [text_map] at hout
  cases hpairs : entries.collectPairs 0 with
  | error f =>
      rw [hpairs] at hout
      cases hout
  | ok pairs =>
      obtain ⟨pairs', hpairs', hsame⟩ := Entries.exists_collectPairs_of_perm hperm hpairs
      rw [hpairs] at hout
      rw [text_map, hpairs']
      exact exists_entriesText_of_perm hsame.symm hout

/-- Maps of the same entries without ties have the same text, or fail for the same reason. -/
theorem text_congr_of_perm (hperm : (entries.read 0).Perm (entries'.read 0))
    (huntied : ∀ pairs, entries.collectPairs 0 = .ok pairs → pairs.Pairwise Untied) (ty ty' : Ty) :
    text (.map ty entries) = text (.map ty' entries') := by
  rw [text_map, text_map]
  cases hpairs : entries.collectPairs 0 with
  | ok pairs =>
      obtain ⟨pairs', hpairs', hsame⟩ := Entries.exists_collectPairs_of_perm hperm hpairs
      rw [hpairs']
      dsimp only
      rw [entriesText, entriesText, sortEntries_congr (huntied pairs hpairs) hsame.symm]
  | error f =>
      cases hpairs' : entries'.collectPairs 0 with
      | error f' => rfl
      | ok pairs' =>
          obtain ⟨pairs, hok, -⟩ := Entries.exists_collectPairs_of_perm hperm.symm hpairs'
          cases hpairs.symm.trans hok

theorem untied_of_totallyOrdered {pairs : List (Value × Value)}
    (hordered : TotallyOrdered (pairs.map (·.1))) (hnodup : (pairs.map (·.1)).Nodup) :
    pairs.Pairwise Untied := by
  have hkeys := hnodup.pairwise_of_forall_ne hordered.total
  rw [List.pairwise_map] at hkeys
  exact hkeys

/-- Maps of the same entries both have a text or both have none.  The order of keys is total
on those of a map just if the bytes and the keys in wrappers are of one kind, and maps with
such keys have the same text. -/
theorem text_of_permuted_entries (hkeys : entries.KeysDistinct)
    (hperm : (entries.read 0).Perm (entries'.read 0)) (ty ty' : Ty) :
    ((∃ out, text (.map ty entries) = .ok out) ↔ ∃ out, text (.map ty' entries') = .ok out) ∧
      ∃ ks, entries.collectKeys 0 = .ok ks ∧ (TotallyOrdered ks ↔ LastOfOneKind ks) ∧
        (LastOfOneKind ks → text (.map ty entries) = text (.map ty' entries')) := by
  obtain ⟨canonical, hcanonical, hnodup⟩ := hkeys 0
  obtain ⟨ks, hread, hkeys⟩ := exists_values_of_keys hcanonical
  have hks : ReadKeys (entries.read 0) ks canonical := ⟨hread, hkeys, hnodup⟩
  have htotal := totallyOrdered_iff hks
  refine ⟨⟨?_, ?_⟩, ks, (collect_eq_ok_iff _ _).mpr hread, htotal, fun hlast => ?_⟩
  · rintro ⟨out, hout⟩
    exact exists_text_of_perm hperm ty ty' hout
  · rintro ⟨out, hout⟩
    exact exists_text_of_perm hperm.symm ty' ty hout
  · refine text_congr_of_perm hperm (fun pairs hpairs => ?_) ty ty'
    have hmap : (pairs.map (·.1)).map Except.ok = ks.map (Except.ok : Value → Outcome Value) := by
      rw [← hread, Entries.keys, Entries.read_of_collectPairs hpairs, List.map_map, List.map_map]
      rfl
    obtain rfl := List.map_injective_iff.mpr (fun _ _ h => Except.ok.inj h) hmap
    exact untied_of_totallyOrdered (htotal.mpr hlast) (List.Nodup.of_map _ hks.nodup_keys)

end Format

namespace EntryOrderWitness

open Format

/-- Keys of all places, the wrapped ones numbers. -/
def apart : List (Value × Value) :=
  [(.wrapped (.int 3), .string "c"), (.bool true, .null), (.wrapped (.uint 1), .string "a"),
    (.string "s", .null), (.int 2, .string "b")]

theorem apart_distinct : (Entries.values apart).KeysDistinct := by
  intro id
  exact ⟨[.number 3, .bool true, .number 1, .string "s", .number 2], rfl, by decide⟩

theorem apart_last : LastOfOneKind (apart.map (·.1)) := by
  have hkind : ∀ a ∈ apart.map (·.1), keyGroup a = 3 → a.key?.map Key.kind = some 0 := by
    simp [apart, keyGroup, Value.key?, Scalar.key?, Key.kind]
  exact fun a ha b hb hthree hthree' => (hkind a ha hthree).trans (hkind b hb hthree').symm

theorem apart_text : text (.map .dynMap (.values apart)) =
      text (.map .dynMap (.values apart.reverse)) ∧ TotallyOrdered (apart.map (·.1)) := by
  obtain ⟨-, ks, hks, htotal, htext⟩ := text_of_permuted_entries apart_distinct
    (Entries.read_values_perm (List.reverse_perm apart).symm 0) .dynMap .dynMap
  obtain rfl : apart.map (·.1) = ks := Except.ok.inj hks
  exact ⟨htext apart_last, htotal.mpr apart_last⟩

/-- A number and a string, both in wrappers. -/
def tied : List (Value × Value) :=
  [(.wrapped (.int 1), .string "x"), (.wrapped (.string "a"), .string "y")]

/-- The entries are written in the order in which they are given. -/
theorem tied_text :
    (Entries.values tied).KeysDistinct ∧
      ((Entries.values tied).read 0).Perm ((Entries.values tied.reverse).read 0) ∧
      text (.map .dynMap (.values tied)) = .ok "\x7b1: x, a: y\x7d" ∧
      text (.map .dynMap (.values tied.reverse)) = .ok "\x7ba: y, 1: x\x7d" ∧
      ¬ TotallyOrdered (tied.map (·.1)) := by
  refine ⟨fun id => ⟨[.number 1, .string "a"], rfl, by decide⟩,
    Entries.read_values_perm (List.reverse_perm tied).symm 0, rfl, rfl, fun hordered => ?_⟩
  have hbefore := hordered.total (.wrapped (.int 1)) (by simp [tied]) (.wrapped (.string "a"))
    (by simp [tied]) (by simp)
  exact absurd hbefore (by decide)

end EntryOrderWitness

end CommonExpr
