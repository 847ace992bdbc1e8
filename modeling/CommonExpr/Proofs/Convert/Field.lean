import CommonExpr.Proofs.Protobuf.Storing
import CommonExpr.Proofs.Protobuf.Times
import CommonExpr.Proofs.Protobuf.WellKnown
import CommonExpr.Proofs.Value.Coercion

/-!
Values as fields and back.

A field takes integers that are within the bounds of its width, whatever their own type, and
else only what is of its type; lists and maps part by part.  Main statement: a value is stored
exactly if the field takes it, and is read back as an equal one, floating-point numbers and
messages without a meaning of their own apart.
-/

namespace CommonExpr

open Outcome

/-! What fields are given -/

namespace Value

/-- Whether a value is not null, and in range if it is a time. -/
def Storable : Value → Prop
  | .null => False
  | .typedNull _ _ => False
  | .timestamp t => t.InRange
  | .duration d => d.InRange
  | _ => True

/-- Whether a value, or each element or entry of a list or map, can be stored; keys are those
of a map. -/
def Givable : Value → Prop
  | .list _ items => ∀ id v, .ok v ∈ items.read id → v.Storable
  | .map _ entries => entries.KeysDistinct ∧ ∀ id k v, (k, .ok v) ∈ entries.read id → v.Storable
  | v => v.Storable

variable {v : Value}

theorem Storable.isNull (hv : v.Storable) : v.isNull = false := by
  cases v with
  | null => exact hv.elim
  | typedNull type zero => exact hv.elim
  | _ => rfl

theorem Givable.storable (hv : v.Givable) : v.Storable := by
  cases v with
  | list ty items => trivial
  | map ty entries => trivial
  | _ => exact hv

end Value

namespace Protobuf

/-! What a field takes -/

namespace Kind

/-- Scalar kinds other than those of floating-point numbers. -/
def isDiscrete : Kind → Bool
  | .double => false
  | .float => false
  | .message _ => false
  | _ => true

/-- The first integer that a kind holds, and the one after the last. -/
def bounds? : Kind → Option (Int × Int)
  | .int32 => some (-2147483648, 2147483648)
  | .sint32 => some (-2147483648, 2147483648)
  | .sfixed32 => some (-2147483648, 2147483648)
  | .enum _ => some (-2147483648, 2147483648)
  | .int64 => some (-9223372036854775808, 9223372036854775808)
  | .sint64 => some (-9223372036854775808, 9223372036854775808)
  | .sfixed64 => some (-9223372036854775808, 9223372036854775808)
  | .uint32 => some (0, 4294967296)
  | .fixed32 => some (0, 4294967296)
  | .uint64 => some (0, 18446744073709551616)
  | .fixed64 => some (0, 18446744073709551616)
  | _ => none

/-- Kinds whose values are read as they were stored. -/
inductive Lossless : Kind → Prop
  | discrete {kind : Kind} (hkind : kind.isDiscrete = true) : Lossless kind
  | wrapper {name : String} {kind : Kind} (hwrapper : wrapperKind? name = some kind)
      (hkind : kind.isDiscrete = true) : Lossless (.message name)
  | timestamp : Lossless (.message WellKnown.timestamp)
  | duration : Lossless (.message WellKnown.duration)

/-- Whether a value fits a kind that is lossless. -/
inductive Takes : Kind → CommonExpr.Value → Prop
  | integer {kind : Kind} {low high i : Int} {v : CommonExpr.Value}
      (hbounds : kind.bounds? = some (low, high)) (hi : v.integer? = some i) (hlow : low ≤ i)
      (hhigh : i < high) : Takes kind v
  | bool {b : Bool} {v : CommonExpr.Value} (hv : v.scalar? = some (.bool b)) : Takes .bool v
  | string {s : String} {v : CommonExpr.Value} (hv : v.scalar? = some (.string s)) :
      Takes .string v
  | bytes {b : List UInt8} {v : CommonExpr.Value} (hv : v.scalar? = some (.bytes b)) :
      Takes .bytes v
  | wrapper {name : String} {kind : Kind} {v : CommonExpr.Value}
      (hwrapper : wrapperKind? name = some kind) (hv : Takes kind v) : Takes (.message name) v
  | timestamp {t : Timestamp} : Takes (.message WellKnown.timestamp) (.timestamp t)
  | duration {d : Duration} : Takes (.message WellKnown.duration) (.duration d)

end Kind

/-- Whether a value fits a field: part by part, if the field holds a list or a map. -/
inductive Field.Takes (field : Field) : CommonExpr.Value → Prop
  | single {v : CommonExpr.Value} (hshape : field.shape = .singular) (hv : field.kind.Takes v) :
      Takes field v
  | list {packed : Bool} {ty : Ty} {items : Items} {vs : List CommonExpr.Value}
      (hshape : field.shape = .repeated packed) (hread : items.ReadsTo vs)
      (hvs : ∀ v ∈ vs, field.kind.Takes v) : Takes field (.list ty items)
  | map {key : Kind} {ty : Ty} {entries : Entries}
      {pairs : List (CommonExpr.Value × CommonExpr.Value)} (hshape : field.shape = .map key)
      (hread : entries.ReadsTo pairs)
      (hpairs : ∀ e ∈ pairs, key.Takes e.1 ∧ field.kind.Takes e.2) : Takes field (.map ty entries)

/-! Scalars -/

/-- Whether a field value and a value stand for the same scalar. -/
def Value.StandsFor (x : Value) (v : CommonExpr.Value) : Prop :=
  ∃ s s' m, v.scalar? = some s ∧ x.widened? = some s' ∧ s.meaning? = some m ∧ s'.meaning? = some m

namespace Value.StandsFor

variable {x : Value} {v : CommonExpr.Value}

theorem of_integer {i : Int} {s : Scalar} (hv : v.integer? = some i) (hx : x.widened? = some s)
    (hs : s.integer? = some i) : x.StandsFor v := by
  obtain ⟨s', hs', hm⟩ := CommonExpr.Value.exists_meaning_of_integer? hv
  exact ⟨s', s, _, hs', hx, hm, Scalar.integer?_eq_some_iff.mp hs⟩

theorem of_scalar {s : Scalar} (hv : v.scalar? = some s) (hx : x.widened? = some s)
    (hnan : s.isNaN = false) : x.StandsFor v := by
  obtain ⟨m, hm⟩ := Scalar.exists_meaning hnan
  exact ⟨s, s, m, hv, hx, hm, hm⟩

theorem mirrors (hstands : x.StandsFor v) : x.Mirrors v := by
  obtain ⟨s, s', m, hs, hs', hm, hm'⟩ := hstands
  intro schema id
  exact ⟨.scalar s', toValue_of_widened? hs' schema id,
    CommonExpr.Value.matches_of_meaning hs rfl hm hm' _⟩

theorem canonical?_eq {k : Key} (hstands : k.toValue.StandsFor v) : k.canonical? = v.key? := by
  obtain ⟨s, s', m, hs, hs', hm, hm'⟩ := hstands
  rw [Key.canonical?, hs', CommonExpr.Value.key?_of_scalar? hs]
  refine Option.ext fun key => ?_
  rw [Option.bind_some, Scalar.key?_eq_some_iff, Scalar.key?_eq_some_iff, hm, hm']

end Value.StandsFor

namespace Kind

variable {kind : Kind} {v : CommonExpr.Value} {id : Int}

theorem Takes.integer? (htakes : kind.Takes v) {low high : Int}
    (hbounds : kind.bounds? = some (low, high)) :
    ∃ i, v.integer? = some i ∧ low ≤ i ∧ i < high := by
  cases htakes with
  | integer hbounds' hi hlow hhigh =>
      obtain ⟨rfl, rfl⟩ := Prod.mk.inj (Option.some.inj (hbounds.symm.trans hbounds'))
      exact ⟨_, hi, hlow, hhigh⟩
  | _ => cases hbounds

/-- A conversion to words is one to all integers within the bounds of a kind. -/
theorem decides_word {ω : Type} {low high : Int} {o : Outcome ω} {toInt : ω → Int}
    {field : ω → Value} (hbounds : kind.bounds? = some (low, high))
    (hok : ∀ x, o = .ok x ↔ v.integer? = some (toInt x))
    (hrange : ∀ x, low ≤ toInt x ∧ toInt x < high)
    (hword : ∀ i, low ≤ i → i < high → ∃ x, toInt x = i)
    (hfield : ∀ x, ∃ s, (field x).widened? = some s ∧ s.integer? = some (toInt x)) :
    Decides (kind.Takes v) (fun x => x.StandsFor v) (field <$> o) := by
  constructor
  · intro y hy
    obtain ⟨x, hx, rfl⟩ := map_eq_ok_iff.mp hy
    have hv := (hok x).mp hx
    obtain ⟨s, hs, hi⟩ := hfield x
    exact ⟨.integer hbounds hv (hrange x).1 (hrange x).2, .of_integer hv hs hi⟩
  · intro htakes
    obtain ⟨i, hi, hlow, hhigh⟩ := htakes.integer? hbounds
    obtain ⟨x, rfl⟩ := hword i hlow hhigh
    exact ⟨field x, map_eq_ok_iff.mpr ⟨x, (hok x).mpr hi, rfl⟩⟩

theorem decides_scalar {α : Type} {o : Outcome α} {scalar : α → Scalar} {field : α → Value}
    (hok : ∀ a, o = .ok a ↔ v.scalar? = some (scalar a))
    (htakes : kind.Takes v ↔ ∃ a, v.scalar? = some (scalar a))
    (hfield : ∀ a, (field a).widened? = some (scalar a)) (hnan : ∀ a, (scalar a).isNaN = false) :
    Decides (kind.Takes v) (fun x => x.StandsFor v) (field <$> o) := by
  constructor
  · intro y hy
    obtain ⟨a, ha, rfl⟩ := map_eq_ok_iff.mp hy
    have hv := (hok a).mp ha
    exact ⟨htakes.mpr ⟨a, hv⟩, .of_scalar hv (hfield a) (hnan a)⟩
  · intro h
    obtain ⟨a, ha⟩ := htakes.mp h
    exact ⟨field a, map_eq_ok_iff.mpr ⟨a, (hok a).mpr ha, rfl⟩⟩

theorem decides_int32 (hbounds : kind.bounds? = some (-2147483648, 2147483648))
    (hnull : v.isNull = false) {field : Int32 → Value}
    (hfield : ∀ x, (field x).widened? = some (.int (Int64.ofInt x.toInt))) :
    Decides (kind.Takes v) (fun x => x.StandsFor v)
      (field <$> (CommonExpr.Value.toInt64 id (some v) >>= narrowInt id)) := by
  apply decides_word hbounds (fun x => CommonExpr.Value.toInt32_eq_ok_iff hnull)
  · intro x
    exact ⟨x.le_toInt, x.toInt_lt⟩
  · intro i hlow hhigh
    exact ⟨Int32.ofInt i, Int32.toInt_ofInt_of_le hlow (by omega)⟩
  · intro x
    have hlower := x.le_toInt
    have hupper := x.toInt_lt
    refine ⟨_, hfield x, ?_⟩
    exact congrArg some (Int64.toInt_ofInt_of_le (by omega) (by omega))

theorem decides_uint32 (hbounds : kind.bounds? = some (0, 4294967296)) (hnull : v.isNull = false) :
    Decides (kind.Takes v) (fun x => x.StandsFor v)
      (Value.uint32 <$> (CommonExpr.Value.toUInt64 id (some v) >>= narrowUInt id)) := by
  apply decides_word hbounds (fun x => CommonExpr.Value.toUInt32_eq_ok_iff hnull)
  · intro x
    have hupper := x.toNat_lt
    exact ⟨by omega, by omega⟩
  · intro i hlow hhigh
    refine ⟨UInt32.ofNat i.toNat, ?_⟩
    rw [UInt32.toNat_ofNat_of_lt' (by rw [UInt32.size]; omega)]
    omega
  · intro x
    have hupper := x.toNat_lt
    refine ⟨_, rfl, ?_⟩
    rw [Scalar.integer?, UInt64.toNat_ofNat_of_lt' (by rw [UInt64.size]; omega)]

theorem decides_int64 (hbounds : kind.bounds? = some (-9223372036854775808, 9223372036854775808))
    (hnull : v.isNull = false) :
    Decides (kind.Takes v) (fun x => x.StandsFor v)
      (Value.int64 <$> CommonExpr.Value.toInt64 id (some v)) := by
  apply decides_word hbounds (fun x => CommonExpr.Value.toInt64_eq_ok_iff hnull)
  · intro x
    exact ⟨x.le_toInt, x.toInt_lt⟩
  · intro i hlow hhigh
    exact ⟨Int64.ofInt i, Int64.toInt_ofInt_of_le hlow (by omega)⟩
  · intro x
    exact ⟨_, rfl, rfl⟩

theorem decides_uint64 (hbounds : kind.bounds? = some (0, 18446744073709551616))
    (hnull : v.isNull = false) :
    Decides (kind.Takes v) (fun x => x.StandsFor v)
      (Value.uint64 <$> CommonExpr.Value.toUInt64 id (some v)) := by
  apply decides_word hbounds (fun x => CommonExpr.Value.toUInt64_eq_ok_iff hnull)
  · intro x
    have hupper := x.toNat_lt
    exact ⟨by omega, by omega⟩
  · intro i hlow hhigh
    refine ⟨UInt64.ofNat i.toNat, ?_⟩
    rw [UInt64.toNat_ofNat_of_lt' (by rw [UInt64.size]; omega)]
    omega
  · intro x
    exact ⟨_, rfl, rfl⟩

/-- A value converts to a scalar kind just if it fits, and stands for the same then. -/
theorem ofScalar_decides (hkind : kind.isDiscrete = true) (hnull : v.isNull = false) (id : Int) :
    Decides (kind.Takes v) (fun x => x.StandsFor v) (kind.ofScalar id (some v)) := by
  cases kind with
  | double => cases hkind
  | float => cases hkind
  | message name => cases hkind
  | int32 => exact decides_int32 rfl hnull fun _ => rfl
  | sint32 => exact decides_int32 rfl hnull fun _ => rfl
  | sfixed32 => exact decides_int32 rfl hnull fun _ => rfl
  | enum name => exact decides_int32 rfl hnull fun _ => rfl
  | int64 => exact decides_int64 rfl hnull
  | sint64 => exact decides_int64 rfl hnull
  | sfixed64 => exact decides_int64 rfl hnull
  | uint32 => exact decides_uint32 rfl hnull
  | fixed32 => exact decides_uint32 rfl hnull
  | uint64 => exact decides_uint64 rfl hnull
  | fixed64 => exact decides_uint64 rfl hnull
  | bool =>
      refine decides_scalar (fun b => CommonExpr.Value.toBool_eq_ok_iff hnull) ?_
        (fun _ => rfl) fun _ => rfl
      constructor
      · intro htakes
        cases htakes with
        | integer hbounds => cases hbounds
        | bool hv => exact ⟨_, hv⟩
      · rintro ⟨b, hv⟩
        exact .bool hv
  | string =>
      refine decides_scalar (fun s => CommonExpr.Value.toText_eq_ok_iff hnull) ?_
        (fun _ => rfl) fun _ => rfl
      constructor
      · intro htakes
        cases htakes with
        | integer hbounds => cases hbounds
        | string hv => exact ⟨_, hv⟩
      · rintro ⟨b, hv⟩
        exact .string hv
  | bytes =>
      refine decides_scalar (fun b => CommonExpr.Value.toBytes_eq_ok_iff hnull) ?_
        (fun _ => rfl) fun _ => rfl
      constructor
      · intro htakes
        cases htakes with
        | integer hbounds => cases hbounds
        | bytes hv => exact ⟨_, hv⟩
      · rintro ⟨b, hv⟩
        exact .bytes hv

/-! Keys -/

theorem isDiscrete_of_isKey (hkey : kind.isKey = true) : kind.isDiscrete = true := by
  cases kind <;> first | rfl | cases hkey

/-- A key is converted as a value of its kind is. -/
theorem toValue_keyOf (hkey : kind.isKey = true) (id : Int) (k : CommonExpr.Value) :
    Key.toValue <$> kind.keyOf id k = kind.ofScalar id (some k) := by
  cases kind with
  | double => cases hkey
  | float => cases hkey
  | bytes => cases hkey
  | message name => cases hkey
  | enum name => cases hkey
  | _ => exact Functor.map_map _ _ _

/-- A key converts just if it fits, and keeps its canonical form. -/
theorem keyOf_decides (hkey : kind.isKey = true) {k : CommonExpr.Value} (hk : k.key?.isSome = true)
    (id : Int) :
    Decides (kind.Takes k) (fun y => y.canonical? = k.key?) (kind.keyOf id k) := by
  have hnull : k.isNull = false := by
    cases k <;> first | rfl | cases hk
  have hscalar := ofScalar_decides (isDiscrete_of_isKey hkey) hnull id
  rw [← toValue_keyOf hkey] at hscalar
  constructor
  · intro y hy
    obtain ⟨htakes, hstands⟩ := hscalar.holds (map_eq_ok_iff.mpr ⟨y, hy, rfl⟩)
    exact ⟨htakes, hstands.canonical?_eq⟩
  · intro htakes
    obtain ⟨x, hx⟩ := hscalar.succeeds htakes
    obtain ⟨y, hy, -⟩ := map_eq_ok_iff.mp hx
    exact ⟨y, hy⟩

end Kind

/-! Messages -/

variable {schema : Schema} {v : CommonExpr.Value}

theorem messageOf_wrapper {type : MessageType} {kind : Kind}
    (hkind : wrapperKind? type.name = some kind) (schema : Schema) (id : Int)
    (v : CommonExpr.Value) : messageOf schema id type v =
      single schema type "value" <$> kind.ofScalar id (some v) := by
  obtain ⟨hany, htimestamp, hduration, hvalue, hstruct, hlist⟩ := ne_special_of_wrapperKind? hkind
  rw [messageOf, if_neg hany]
  unfold plainMessage
  dsimp only
  rw [if_neg htimestamp, if_neg hduration, if_neg hvalue, if_neg hstruct, if_neg hlist]
  simp only [hkind]

theorem Message.toValue_wrapper {m : Message} {s : Scalar} (hwrapped : m.wrapped? = some s)
    (schema : Schema) (id : Int) : m.toValue schema id = .ok (.wrapped s) := by
  obtain ⟨kind, hkind, -⟩ := Option.bind_eq_some_iff.mp hwrapped
  obtain ⟨hany, htimestamp, hduration, hvalue, hstruct, hlist⟩ := ne_special_of_wrapperKind? hkind
  rw [toValue, read, if_neg hany, if_neg htimestamp, if_neg hduration, if_neg hvalue,
    if_neg hstruct, if_neg hlist, hwrapped]

theorem Kind.takes_message_iff {name : String} : (Kind.message name).Takes v ↔
    (∃ kind, wrapperKind? name = some kind ∧ kind.Takes v) ∨
      (name = WellKnown.timestamp ∧ ∃ t, v = .timestamp t) ∨
      name = WellKnown.duration ∧ ∃ d, v = .duration d := by
  constructor
  · intro htakes
    cases htakes with
    | integer hbounds => cases hbounds
    | wrapper hwrapper hv => exact Or.inl ⟨_, hwrapper, hv⟩
    | timestamp => exact Or.inr (Or.inl ⟨rfl, _, rfl⟩)
    | duration => exact Or.inr (Or.inr ⟨rfl, _, rfl⟩)
  · rintro (⟨kind, hwrapper, hv⟩ | ⟨rfl, t, rfl⟩ | ⟨rfl, d, rfl⟩)
    · exact .wrapper hwrapper hv
    · exact .timestamp
    · exact .duration

theorem Kind.takes_wrapper_iff {name : String} {kind : Kind}
    (hwrapper : wrapperKind? name = some kind) : (Kind.message name).Takes v ↔ kind.Takes v := by
  obtain ⟨-, htimestamp, hduration, -⟩ := ne_special_of_wrapperKind? hwrapper
  simp [takes_message_iff, hwrapper, htimestamp, hduration]

theorem Kind.takes_timestamp_iff :
    (Kind.message WellKnown.timestamp).Takes v ↔ ∃ t, v = .timestamp t := by
  have hplain : wrapperKind? WellKnown.timestamp = none := rfl
  have hother : WellKnown.timestamp ≠ WellKnown.duration := by decide
  simp [takes_message_iff, hplain, hother]

theorem Kind.takes_duration_iff :
    (Kind.message WellKnown.duration).Takes v ↔ ∃ d, v = .duration d := by
  have hplain : wrapperKind? WellKnown.duration = none := rfl
  have hother : WellKnown.duration ≠ WellKnown.timestamp := by decide
  simp [takes_message_iff, hplain, hother]

/-- The type of a message field is there and sound. -/
theorem exists_messageType (hs : schema.Sound) {name : String}
    (hfound : (schema.message? name).map (·.name) = some name) :
    ∃ t, schema.messageType name = t ∧ t.SoundIn schema ∧ t.name = name := by
  obtain ⟨t, ht, hname⟩ := Option.map_eq_some_iff.mp hfound
  refine ⟨t, ?_, hs.type ht, hname⟩
  rw [Schema.messageType, ht]
  rfl

theorem timestampMessage_decides (schema : Schema) (id : Int) (hv : v.Storable) :
    Decides (∃ t, v = .timestamp t) (fun m => (Value.message m).Mirrors v)
      (messageOf schema id WellKnown.timestampType v) := by
  cases v with
  | timestamp t =>
      have ht : t.InRange := hv
      let m := timeMessage schema WellKnown.timestampType t.seconds t.nanos
      have hseconds : m.intAt 1 = t.seconds := ht.words.1
      have hnanos : m.intAt 2 = t.nanos := ht.words.2
      have hmirrors : (Value.message m).Mirrors (.timestamp t) := by
        intro schema' id'
        exact ⟨.timestamp t, Message.toValue_timestamp rfl hseconds hnanos ht schema' id',
          CommonExpr.Value.matches_timestamp t _⟩
      exact decides_ok ⟨t, rfl⟩ hmirrors
  | _ => exact decides_error nofun

theorem durationMessage_decides (schema : Schema) (id : Int) (hv : v.Storable) :
    Decides (∃ d, v = .duration d) (fun m => (Value.message m).Mirrors v)
      (messageOf schema id WellKnown.durationType v) := by
  cases v with
  | duration d =>
      have hd : d.InRange := hv
      let m := timeMessage schema WellKnown.durationType d.seconds d.nanos
      have hseconds : m.intAt 1 = d.seconds := hd.words.1
      have hnanos : m.intAt 2 = d.nanos := hd.words.2
      have hmirrors : (Value.message m).Mirrors (.duration d) := by
        intro schema' id'
        exact ⟨.duration d, Message.toValue_duration rfl hseconds hnanos hd schema' id',
          CommonExpr.Value.matches_duration d _⟩
      exact decides_ok ⟨d, rfl⟩ hmirrors
  | _ => exact decides_error nofun

/-- A wrapper message wraps what its field is read as. -/
theorem wrapped?_single {t : MessageType} {kind : Kind} (hwrapper : wrapperKind? t.name = some kind)
    (hfield : t.field? "value" = some (.one 1 "value" kind)) {x : Value} {s : Scalar}
    (hx : x.widened? = some s) (schema : Schema) :
    (single schema t "value" x).wrapped? = some s := by
  rw [single_of_field? hfield]
  simp [Message.wrapped?, Message.name, hwrapper, hfield, Message.get_set, hx]

/-- A wrapper message holds the scalar that a value converts to. -/
theorem wrapperMessage_decides {t : MessageType} (ht : t.SoundIn schema) {kind : Kind}
    (hwrapper : wrapperKind? t.name = some kind) (hkind : kind.isDiscrete = true)
    (hnull : v.isNull = false) (id : Int) :
    Decides (kind.Takes v) (fun m => (Value.message m).Mirrors v) (messageOf schema id t v) := by
  rw [messageOf_wrapper hwrapper]
  apply (Kind.ofScalar_decides hkind hnull id).map
  rintro x ⟨s, s', m, hvs, hxs, hm, hm'⟩
  have hwrapped := wrapped?_single hwrapper (ht.wrapper_field? hwrapper) hxs schema
  intro schema' id'
  exact ⟨.wrapped s', Message.toValue_wrapper hwrapped schema' id',
    CommonExpr.Value.matches_of_meaning hvs rfl hm hm' _⟩

/-- A value becomes a message of a lossless kind just if it fits. -/
theorem messageOf_decides (hs : schema.Sound) {name : String}
    (hfound : (schema.message? name).map (·.name) = some name)
    (hkind : (Kind.message name).Lossless) (hv : v.Storable) (id : Int) :
    Decides ((Kind.message name).Takes v) (fun m => (Value.message m).Mirrors v)
      (messageOf schema id (schema.messageType name) v) := by
  obtain ⟨t, htype, hsound, rfl⟩ := exists_messageType hs hfound
  rw [htype]
  generalize hname : t.name = name at hkind ⊢
  cases hkind with
  | discrete hdiscrete => cases hdiscrete
  | wrapper hwrapper hdiscrete =>
      subst hname
      refine (wrapperMessage_decides hsound hwrapper hdiscrete hv.isNull id).congr ?_
      exact (Kind.takes_wrapper_iff hwrapper).symm
  | timestamp =>
      obtain rfl := hsound.eq_of_name WellKnown.timestampType (by decide) hname
      exact (timestampMessage_decides schema id hv).congr Kind.takes_timestamp_iff.symm
  | duration =>
      obtain rfl := hsound.eq_of_name WellKnown.durationType (by decide) hname
      exact (durationMessage_decides schema id hv).congr Kind.takes_duration_iff.symm

/-- A value becomes a single field value just if it fits, and is read back as an equal one. -/
theorem Kind.ofValue_decides (hs : schema.Sound) {kind : Kind}
    (hfound : ∀ name ∈ kind.messageName?, (schema.message? name).map (·.name) = some name)
    (hkind : kind.Lossless) (hv : v.Storable) (id : Int) :
    Decides (kind.Takes v) (fun x => x.Mirrors v) (kind.ofValue schema id v) := by
  by_cases hmessage : ∃ name, kind = .message name
  · obtain ⟨name, rfl⟩ := hmessage
    exact (messageOf_decides hs (hfound name rfl) hkind hv id).map fun m hm => hm
  · have hscalar : kind.ofValue schema id v = kind.ofScalar id (some v) := by
      cases kind <;> first | rfl | exact absurd ⟨_, rfl⟩ hmessage
    have hdiscrete : kind.isDiscrete = true := by
      cases hkind with
      | discrete hdiscrete => exact hdiscrete
      | _ => exact absurd ⟨_, rfl⟩ hmessage
    rw [hscalar]
    exact (ofScalar_decides hdiscrete hv.isNull id).mono fun x _ hx => hx.mirrors

theorem Kind.isZero_of_ofValue {name : String} {id : Int} {x : Value}
    (hx : (Kind.message name).ofValue schema id v = .ok x) : x.isZero = false := by
  obtain ⟨m, -, rfl⟩ := map_eq_ok_iff.mp hx
  rfl

/-! Fields -/

namespace Field

variable {field : Field} {key : Kind} {packed : Bool} {ty : Ty} {items : Items} {entries : Entries}
  {vs : List CommonExpr.Value} {pairs : List (CommonExpr.Value × CommonExpr.Value)}

theorem takes_single_iff (hshape : field.shape = .singular) :
    field.Takes v ↔ field.kind.Takes v := by
  constructor
  · intro htakes
    cases htakes with
    | single _ hv => exact hv
    | list hrepeated => cases hshape.symm.trans hrepeated
    | map hmap => cases hshape.symm.trans hmap
  · exact .single hshape

theorem takes_list_iff (hshape : field.shape = .repeated packed) :
    field.Takes v ↔ ∃ ty items vs, v = .list ty items ∧ items.ReadsTo vs ∧
      ∀ v ∈ vs, field.kind.Takes v := by
  constructor
  · intro htakes
    cases htakes with
    | single hsingle => cases hshape.symm.trans hsingle
    | list _ hread hvs => exact ⟨_, _, _, rfl, hread, hvs⟩
    | map hmap => cases hshape.symm.trans hmap
  · rintro ⟨ty, items, vs, rfl, hread, hvs⟩
    exact .list hshape hread hvs

theorem takes_map_iff (hshape : field.shape = .map key) :
    field.Takes v ↔ ∃ ty entries pairs, v = .map ty entries ∧ entries.ReadsTo pairs ∧
      ∀ e ∈ pairs, key.Takes e.1 ∧ field.kind.Takes e.2 := by
  constructor
  · intro htakes
    cases htakes with
    | single hsingle => cases hshape.symm.trans hsingle
    | list hrepeated => cases hshape.symm.trans hrepeated
    | map hmap hread hpairs =>
        cases hshape.symm.trans hmap
        exact ⟨_, _, _, rfl, hread, hpairs⟩
  · rintro ⟨ty, entries, pairs, rfl, hread, hpairs⟩
    exact .map hshape hread hpairs

/-- Whether the field of any message that stores `x` for it is read as a value that `v`
matches, whatever schema reads it. -/
def Keeps (field : Field) (x : Value) (v : CommonExpr.Value) : Prop :=
  ∀ m : Message, m.stored? field.number = some x → ∀ schema id,
    v.MatchesRead (v.SchemasIn (fun _ => True) (· = schema)) (m.fieldValue schema id field)

theorem keeps_single {x : Value} (hshape : field.shape = .singular)
    (hset : ∀ name, field.kind = .message name → x.isZero = false) (hx : x.Mirrors v) :
    field.Keeps x v := by
  intro m hstored schema id
  rw [Message.fieldValue_single hshape hstored hset]
  exact hx schema id

theorem keeps_list {ys : List Value} (hshape : field.shape = .repeated packed)
    (hread : items.ReadsTo vs) (hys : List.Forall₂ (fun v y => y.Mirrors v) vs ys) :
    field.Keeps (.list ys) (.list ty items) := by
  intro m hstored schema id
  exact ⟨_, Message.fieldValue_list hshape hstored schema id,
    CommonExpr.Value.matches_list_protobuf hread hys⟩

theorem keeps_map {es : List (Key × Value)} (hshape : field.shape = .map key)
    (hread : entries.ReadsTo pairs) (hkeys : DistinctKeys pairs)
    (hes : List.Forall₂ (fun e f => f.1.canonical? = e.1.key? ∧ f.2.Mirrors e.2) pairs es) :
    field.Keeps (.map (es.foldl (fun acc e => insertEntry e.1 e.2 acc) [])) (.map ty entries) := by
  intro m hstored schema id
  rw [Message.fieldValue_map hshape hstored]
  exact matchesRead_mapValue hread hkeys hes schema id field.ty

theorem ofValue_single_decides (hs : schema.Sound) (hfield : field.SoundIn schema)
    (hshape : field.shape = .singular) (hkind : field.kind.Lossless) (hv : v.Givable) (id : Int) :
    Decides (field.Takes v) (fun x => field.Keeps x v) (field.ofValue schema id v) := by
  have hmade : field.ofValue schema id v = field.kind.ofValue schema id v := by
    unfold ofValue
    rw [hshape]
  rw [hmade]
  have hdecides := field.kind.ofValue_decides hs hfield.found hkind hv.storable id
  refine (hdecides.congr (takes_single_iff hshape).symm).mono fun x hx hmirrors => ?_
  -- a message counts as set even if it is empty
  refine keeps_single hshape ?_ hmirrors
  intro name hname
  exact Kind.isZero_of_ofValue (hname ▸ hx)

theorem ofValue_list_decides (hs : schema.Sound) (hfield : field.SoundIn schema)
    (hshape : field.shape = .repeated packed) (hkind : field.kind.Lossless) (hv : v.Givable)
    (id : Int) :
    Decides (field.Takes v) (fun x => field.Keeps x v) (field.ofValue schema id v) := by
  refine Decides.congr ?_ (takes_list_iff hshape).symm
  unfold ofValue
  rw [hshape]
  cases v with
  | list ty items =>
      have hitems : ∀ vs, items.collect id = .ok vs → Decides (∀ v ∈ vs, field.kind.Takes v)
          (fun x => field.Keeps x (.list ty items))
          (Value.list <$> vs.mapM (field.kind.ofValue schema id)) := by
        intro vs hcollect
        have hread := Items.readsTo_of_collect hcollect
        have hvs : ∀ v ∈ vs, v.Storable := by
          intro v hv'
          exact hv 0 v (hread ▸ List.mem_map_of_mem hv')
        have hmap := Decides.mapM fun v hv' =>
          field.kind.ofValue_decides hs hfield.found hkind (hvs v hv') id
        exact hmap.map fun ys hys => keeps_list hshape hread hys
      refine (Decides.bind_ok hitems).congr ?_
      constructor
      · rintro ⟨vs, hcollect, htakes⟩
        exact ⟨ty, items, vs, rfl, Items.readsTo_of_collect hcollect, htakes⟩
      · rintro ⟨_, _, vs, ⟨⟩, hread, htakes⟩
        exact ⟨vs, hread.collect id, htakes⟩
  | _ => exact decides_error nofun

/-- An entry of a map field. -/
def entryOf (schema : Schema) (id : Int) (key kind : Kind)
    (e : CommonExpr.Value × CommonExpr.Value) : Outcome (Key × Value) := do
  let k ← key.keyOf id e.1
  let x ← kind.ofValue schema id e.2
  return (k, x)

theorem entryOf_decides (hs : schema.Sound) (hfield : field.SoundIn schema)
    (hkey : key.isKey = true) (hkind : field.kind.Lossless)
    {e : CommonExpr.Value × CommonExpr.Value} (hk : e.1.key?.isSome = true) (hv : e.2.Storable)
    (id : Int) :
    Decides (key.Takes e.1 ∧ field.kind.Takes e.2)
      (fun f => f.1.canonical? = e.1.key? ∧ f.2.Mirrors e.2)
      (entryOf schema id key field.kind e) := by
  apply (Kind.keyOf_decides hkey hk id).bind
  intro k hcanonical
  exact (field.kind.ofValue_decides hs hfield.found hkind hv id).map fun x hx => ⟨hcanonical, hx⟩

theorem ofValue_map_decides (hs : schema.Sound) (hfield : field.SoundIn schema)
    (hshape : field.shape = .map key) (hkind : field.kind.Lossless) (hv : v.Givable) (id : Int) :
    Decides (field.Takes v) (fun x => field.Keeps x v) (field.ofValue schema id v) := by
  refine Decides.congr ?_ (takes_map_iff hshape).symm
  unfold ofValue
  rw [hshape]
  cases v with
  | map ty entries =>
      have hkey : key.isKey = true := hfield.key key (hshape ▸ rfl)
      obtain ⟨hdistinct, hvalues⟩ := hv
      have hentries : ∀ pairs, entries.collectPairs id = .ok pairs →
          Decides (∀ e ∈ pairs, key.Takes e.1 ∧ field.kind.Takes e.2)
            (fun x => field.Keeps x (.map ty entries))
            ((fun es => .map (es.foldl (fun acc e => insertEntry e.1 e.2 acc) [])) <$>
              pairs.mapM (entryOf schema id key field.kind)) := by
        intro pairs hcollect
        have hread := Entries.readsTo_of_collectPairs hcollect
        have hkeys := hread.distinctKeys hdistinct
        have hstorable : ∀ e ∈ pairs, e.2.Storable := by
          intro e he
          exact hvalues 0 (.ok e.1) e.2 (hread ▸ List.mem_map_of_mem he)
        have hmap := Decides.mapM fun e he =>
          entryOf_decides hs hfield hkey hkind (hkeys.canonical e he) (hstorable e he) id
        exact hmap.map fun es hes => keeps_map hshape hread hkeys hes
      refine (Decides.bind_ok hentries).congr ?_
      constructor
      · rintro ⟨pairs, hcollect, htakes⟩
        exact ⟨ty, entries, pairs, rfl, Entries.readsTo_of_collectPairs hcollect, htakes⟩
      · rintro ⟨_, _, pairs, ⟨⟩, hread, htakes⟩
        exact ⟨pairs, hread.collectPairs id, htakes⟩
  | _ => exact decides_error nofun

/-- A value is stored just if it fits the field, and is read back as an equal one. -/
theorem ofValue_decides (hs : schema.Sound) (hfield : field.SoundIn schema)
    (hkind : field.kind.Lossless) (hv : v.Givable) (id : Int) :
    Decides (field.Takes v) (fun x => field.Keeps x v) (field.ofValue schema id v) := by
  cases hshape : field.shape with
  | singular => exact ofValue_single_decides hs hfield hshape hkind hv id
  | «repeated» packed => exact ofValue_list_decides hs hfield hshape hkind hv id
  | map key => exact ofValue_map_decides hs hfield hshape hkind hv id

end Field

end Protobuf

end CommonExpr
