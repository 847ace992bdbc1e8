import CommonExpr.Protobuf.Codec

/-!
What reading does to a message.

A field that the type knows is set to a value that is read onto what is stored; any
other field leaves the stored values alone.  Main statement: a property of messages
that each such step keeps is kept by reading a whole message onto another, if it is
kept by reading the messages nested in it.
-/

namespace CommonExpr.Protobuf

/-- What may be stored in a field after one more payload was read for it. -/
inductive Field.Reads (nested : Nested) (m : Message) (field : Field) (number : Nat) :
    Payload → Value → Prop
  /-- A single value, merged onto the one that is stored. -/
  | single {payload : Payload} {v : Value} (hshape : field.shape = .singular)
      (hmerge : field.kind.merge nested m.schema (m.stored? number) payload = some v) :
      Field.Reads nested m field number payload v
  /-- More elements of a list, all in one block. -/
  | block {packed : Bool} {b : List UInt8} {values : List Value}
      (hshape : field.shape = .repeated packed) (hpackable : field.kind.packable = true)
      (hread : field.kind.readPacked b.length b = some values) :
      Field.Reads nested m field number (.bytes b) (.list (m.listAt number ++ values))
  /-- One more element of a list. -/
  | element {packed : Bool} {payload : Payload} {v : Value}
      (hshape : field.shape = .repeated packed)
      (hmerge : field.kind.merge nested m.schema none payload = some v) :
      Field.Reads nested m field number payload (.list (m.listAt number ++ [v]))
  /-- One more entry of a map, whose key and value have defaults. -/
  | entry {key : Kind} {b : List UInt8} {raws : List RawField} {depth : Nat} {k v : Value}
      {k' : Key} (hshape : field.shape = .map key)
      (hfields : readFields (fun _ => false) b = some raws)
      (hread : readEntry nested depth m.schema key field.kind
        (key.default m.schema, field.kind.default m.schema) raws = some (k, v))
      (hkey : k.key? = some k') :
      Field.Reads nested m field number (.bytes b)
        (.map (insertEntry k' v (m.entriesAt number)))

/-- A step of reading sets a known field, or leaves all that is stored. -/
theorem mergeField_cases {unknowns : UnknownFields} {depth : Nat} {nested : Nested}
    {m m' : Message} {number : Nat} {payload : Payload}
    (hmerge : mergeField unknowns depth nested m (number, payload) = some m') :
    (∃ unknown, m' = .mk m.schema m.type m.fields unknown) ∨
      ∃ field v, m.type.fieldAt? number = some field ∧
        Field.Reads nested m field number payload v ∧ m' = m.set field v := by
  unfold mergeField at hmerge
  dsimp only at hmerge
  split at hmerge
  · left
    unfold mergeUnknown at hmerge
    split at hmerge
    · split at hmerge
      · exact ⟨_, (Option.some.inj hmerge).symm⟩
      · obtain rfl := Option.some.inj hmerge
        cases m
        exact ⟨_, rfl⟩
    · cases hmerge
  · next field hfield =>
      right
      split at hmerge
      · next hshape =>
          obtain ⟨v, hv, rfl⟩ := Option.map_eq_some_iff.mp hmerge
          exact ⟨field, v, hfield, .single hshape hv, rfl⟩
      · next packed hshape =>
          split at hmerge
          · next b hpackable =>
              obtain ⟨values, hvalues, rfl⟩ := Option.map_eq_some_iff.mp hmerge
              exact ⟨field, _, hfield, .block hshape hpackable hvalues, rfl⟩
          · obtain ⟨v, hv, rfl⟩ := Option.map_eq_some_iff.mp hmerge
            exact ⟨field, _, hfield, .element hshape hv, rfl⟩
      · next key hshape =>
          split at hmerge
          · obtain ⟨raws, hraws, hmerge⟩ := Option.bind_eq_some_iff.mp hmerge
            obtain ⟨⟨k, v⟩, hread, hmerge⟩ := Option.bind_eq_some_iff.mp hmerge
            obtain ⟨k', hkey, hmerge⟩ := Option.bind_eq_some_iff.mp hmerge
            obtain rfl := Option.some.inj hmerge
            exact ⟨field, _, hfield, .entry hshape hraws hread hkey, rfl⟩
          · cases hmerge

/-- Steps that keep a property keep it together. -/
theorem foldlM_keeps {α β : Type} {P : α → Prop} {f : α → β → Option α} {xs : List β}
    (hstep : ∀ x ∈ xs, ∀ a a', P a → f a x = some a' → P a') {a a' : α} (ha : P a)
    (hfold : xs.foldlM f a = some a') : P a' := by
  induction xs generalizing a with
  | nil => exact Option.some.inj hfold ▸ ha
  | cons x rest ih =>
      obtain ⟨b, hb, hrest⟩ := Option.bind_eq_some_iff.mp hfold
      have hPb := hstep x List.mem_cons_self a b ha hb
      exact ih (fun y hy => hstep y (List.mem_cons_of_mem _ hy)) hPb hrest

/-- What reading onto a message keeps at each step, given that it is kept by what
reads nested messages, is kept by reading to any depth. -/
theorem mergeBytes_keeps {unknowns : UnknownFields} {Q : Nested → Prop}
    (hnone : Q fun _ _ => none)
    (hfields : ∀ depth nested, Q nested → Q (mergeFields unknowns depth nested)) (depth : Nat) :
    Q (mergeBytes unknowns depth) := by
  induction depth with
  | zero => exact hfields 0 _ hnone
  | succ depth ih => exact hfields (depth + 1) _ ih

end CommonExpr.Protobuf
