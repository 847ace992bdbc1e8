import CommonExpr.Func
import CommonExpr.Proofs.Fault

/-!
What an outcome holds: a value with one property, or a fault with another.

A function that is called for a node fails at this node and at no other, if it
fails at all; an outcome that does so and whose value has a property is said to
yield the property.  Main statement: outcomes with these properties are collected
into values that all have the one, or into a fault that has the other.
-/

namespace CommonExpr

/-- An error of one node and of no other; errors beside it carry none themselves. -/
def Fault.At (id : Int) : Fault → Prop
  | .error e => e.id = id ∧ ∀ x ∈ e.additional, x.id = id ∧ x.additional = []
  | .unknown _ => False

/-- Whether a property of faults is kept when faults merge. -/
def Fault.Merges (F : Fault → Prop) : Prop := ∀ f g, F f → F g → F (f.merge g)

theorem Fault.At.merge (id : Int) : Fault.Merges (Fault.At id) := by
  intro f g hf hg
  cases f with
  | unknown ids => exact hf.elim
  | error a =>
      cases g with
      | unknown ids => exact hg.elim
      | error b =>
          refine ⟨hf.1, ?_⟩
          intro x hx
          rcases List.mem_append.mp hx with hx | hx
          · exact hf.2 x hx
          · rcases List.mem_cons.mp hx with rfl | hx
            · exact ⟨hg.1, rfl⟩
            · exact hg.2 x hx

namespace Outcome

/-- A value has the first property, a fault the second. -/
structure Meets {α : Type} (V : α → Prop) (F : Fault → Prop) (o : Outcome α) : Prop where
  value : ∀ {a}, o = .ok a → V a
  fault : ∀ {f}, o = .error f → F f

/-- A value has the property; a fault is one of node `id`. -/
abbrev Yields {α : Type} (id : Int) (V : α → Prop) (o : Outcome α) : Prop :=
  Meets V (Fault.At id) o

/-- A fault is one of node `id`. -/
abbrev FailsAt {α : Type} (id : Int) (o : Outcome α) : Prop := Yields id (fun _ => True) o

/-- A value has the property; nothing is said about faults. -/
abbrev Ensures {α : Type} (V : α → Prop) (o : Outcome α) : Prop := Meets V (fun _ => True) o

variable {α β : Type} {V : α → Prop} {W : β → Prop} {F : Fault → Prop} {id : Int}

@[simp]
theorem meets_ok {a : α} : Meets V F (.ok a) ↔ V a :=
  ⟨fun h => h.value rfl, fun h => ⟨fun heq => Except.ok.inj heq ▸ h, fun heq => (nomatch heq)⟩⟩

@[simp]
theorem meets_error {f : Fault} : Meets V F (.error f : Outcome α) ↔ F f :=
  ⟨fun h => h.fault rfl, fun h => ⟨fun heq => (nomatch heq), fun heq => Except.error.inj heq ▸ h⟩⟩

namespace Meets

theorem mono {V' : α → Prop} {F' : Fault → Prop} {o : Outcome α} (ho : Meets V F o)
    (hV : ∀ a, V a → V' a) (hF : ∀ f, F f → F' f) : Meets V' F' o :=
  ⟨fun hok => hV _ (ho.value hok), fun herror => hF _ (ho.fault herror)⟩

theorem bind {o : Outcome α} {g : α → Outcome β} (ho : Meets V F o)
    (hg : ∀ a, V a → Meets W F (g a)) : Meets W F (o >>= g) := by
  cases o with
  | ok a => exact hg a (ho.value rfl)
  | error f => exact meets_error.mpr (ho.fault rfl)

theorem map {o : Outcome α} {g : α → β} (ho : Meets V F o) (hg : ∀ a, V a → W (g a)) :
    Meets W F (g <$> o) := by
  cases o with
  | ok a => exact meets_ok.mpr (hg a (ho.value rfl))
  | error f => exact meets_error.mpr (ho.fault rfl)

theorem getD {o : Option (Outcome α)} {other : Outcome α} (ho : ∀ x, o = some x → Meets V F x)
    (hother : Meets V F other) : Meets V F (o.getD other) := by
  cases o with
  | none => exact hother
  | some x => exact ho x rfl

end Meets

theorem meets_collectFrom (hF : Fault.Merges F) {values : List α} {fault : Option Fault}
    {outcomes : List (Outcome α)} (hvalues : ∀ v ∈ values, V v) (hfault : ∀ f, fault = some f → F f)
    (houtcomes : ∀ o ∈ outcomes, Meets V F o) :
    Meets (fun vs => ∀ v ∈ vs, V v) F (collectFrom values fault outcomes) := by
  induction outcomes generalizing values fault with
  | nil =>
      cases fault with
      | none => exact meets_ok.mpr fun v hv => hvalues v (List.mem_reverse.mp hv)
      | some f => exact meets_error.mpr (hfault f rfl)
  | cons head rest ih =>
      have hrest : ∀ o ∈ rest, Meets V F o := fun o ho => houtcomes o (List.mem_cons_of_mem _ ho)
      have hhead := houtcomes head List.mem_cons_self
      cases head with
      | ok v =>
          refine @ih (v :: values) fault ?_ hfault hrest
          intro w hw
          rcases List.mem_cons.mp hw with rfl | hw
          · exact hhead.value rfl
          · exact hvalues w hw
      | error f =>
          rw [collectFrom.eq_def]
          refine ih hvalues ?_ hrest
          intro g hg
          obtain rfl := Option.some.inj hg
          cases fault with
          | none => exact hhead.fault rfl
          | some first => exact hF first f (hfault first rfl) (hhead.fault rfl)

/-- Collecting gives values that all have the property of values, or a fault
that has that of faults. -/
theorem meets_collect (hF : Fault.Merges F) {outcomes : List (Outcome α)}
    (houtcomes : ∀ o ∈ outcomes, Meets V F o) :
    Meets (fun vs => ∀ v ∈ vs, V v) F (collect outcomes) :=
  meets_collectFrom hF (fun _ hv => absurd hv List.not_mem_nil) (fun _ hf => nomatch hf) houtcomes

theorem meets_mapM {g : α → Outcome β} {xs : List α} (hg : ∀ x ∈ xs, Meets W F (g x)) :
    Meets (fun ys => ∀ y ∈ ys, W y) F (xs.mapM g) := by
  induction xs with
  | nil =>
      rw [List.mapM_nil]
      exact meets_ok.mpr fun _ hy => absurd hy List.not_mem_nil
  | cons x rest ih =>
      rw [List.mapM_cons]
      refine (hg x List.mem_cons_self).bind fun y hy => ?_
      refine (ih fun z hz => hg z (List.mem_cons_of_mem _ hz)).bind fun ys hys => ?_
      refine meets_ok.mpr fun z hz => ?_
      rcases List.mem_cons.mp hz with rfl | hz
      · exact hy
      · exact hys z hz

@[simp]
theorem yields_fail {cause : Cause} : Yields id V (fail id cause) :=
  meets_error.mpr ⟨rfl, fun _ hx => absurd hx List.not_mem_nil⟩

@[simp]
theorem yields_noOverload {function : String} {args : List Value} :
    Yields id V (noOverload id function args) :=
  yields_fail

theorem yields_orFail {cause : Cause} {o : Option α} (hV : ∀ a, o = some a → V a) :
    Yields id V (orFail id cause o) := by
  cases o with
  | some a => exact meets_ok.mpr (hV a rfl)
  | none => exact yields_fail

theorem yields_timed {result : Except TimeFault α} (hok : ∀ a, result = .ok a → V a) :
    Yields id V (timed id result) := by
  cases result with
  | ok a => exact meets_ok.mpr (hok a rfl)
  | error fault => exact yields_fail

namespace FailsAt

/-- Where an outcome fails is one matter and what its value is another. -/
theorem yields {o : Outcome α} (ho : FailsAt id o) (hV : ∀ a, o = .ok a → V a) : Yields id V o :=
  ⟨fun hok => hV _ hok, ho.fault⟩

theorem ok {a : α} : FailsAt id (.ok a) := meets_ok.mpr trivial

theorem bind {o : Outcome α} {g : α → Outcome β} (ho : FailsAt id o)
    (hg : ∀ a, FailsAt id (g a)) : FailsAt id (o >>= g) :=
  Meets.bind ho fun a _ => hg a

theorem map {o : Outcome α} (g : α → β) (ho : FailsAt id o) : FailsAt id (g <$> o) :=
  Meets.map ho fun _ _ => trivial

/-- A fault that one outcome passes on to another. -/
theorem error {o : Outcome α} {f : Fault} (ho : FailsAt id o) (herror : o = .error f) :
    FailsAt id (.error f : Outcome β) :=
  meets_error.mpr (ho.fault herror)

theorem orFail (id : Int) (cause : Cause) (o : Option α) : FailsAt id (orFail id cause o) :=
  yields_orFail fun _ _ => trivial

theorem timed (id : Int) (result : Except TimeFault α) : FailsAt id (timed id result) :=
  yields_timed fun _ _ => trivial

theorem collect {outcomes : List (Outcome α)} (houtcomes : ∀ o ∈ outcomes, FailsAt id o) :
    FailsAt id (collect outcomes) :=
  (meets_collect (Fault.At.merge id) houtcomes).mono (fun _ _ => trivial) fun _ hf => hf

theorem mapM {g : α → Outcome β} {xs : List α} (hg : ∀ x ∈ xs, FailsAt id (g x)) :
    FailsAt id (xs.mapM g) :=
  (meets_mapM hg).mono (fun _ _ => trivial) fun _ hf => hf

end FailsAt

theorem eq_ok_of_timed {result : Except TimeFault α} {a : α} (htimed : timed id result = .ok a) :
    result = .ok a := by
  cases result with
  | ok b => exact congrArg _ (Except.ok.inj htimed)
  | error fault => cases htimed

/-! Outcomes that are a given value -/

theorem orFail_eq_ok_iff {cause : Cause} {o : Option α} {a : α} :
    orFail id cause o = .ok a ↔ o = some a := by
  cases o with
  | none => simp [orFail, fail]
  | some b => simp [orFail]

theorem bind_eq_ok_iff {ε : Type} {o : Except ε α} {g : α → Except ε β} {b : β} :
    (o >>= g) = .ok b ↔ ∃ a, o = .ok a ∧ g a = .ok b := by
  cases o with
  | ok a =>
      constructor
      · intro h
        exact ⟨a, rfl, h⟩
      · rintro ⟨_, ⟨⟩, h⟩
        exact h
  | error f =>
      constructor
      · intro h
        cases h
      · rintro ⟨_, ha, -⟩
        cases ha

/-- What comes second matters for values only that come first. -/
theorem bind_congr_of_ok {o : Outcome α} {g g' : α → Outcome β}
    (hsame : ∀ a, o = .ok a → g a = g' a) : o >>= g = o >>= g' := by
  cases o with
  | ok a => exact hsame a rfl
  | error f => rfl

theorem map_eq_ok_iff {ε : Type} {o : Except ε α} {g : α → β} {b : β} :
    g <$> o = .ok b ↔ ∃ a, o = .ok a ∧ g a = b := by
  rw [← bind_pure_comp, bind_eq_ok_iff]
  exact exists_congr fun a => and_congr_right fun _ => Except.ok.injEq (g a) b ▸ Iff.rfl

/-! Values with a property, whatever the faults -/

theorem ensures_of {o : Outcome α} (hV : ∀ a, o = .ok a → V a) : Ensures V o :=
  ⟨fun hok => hV _ hok, fun _ => trivial⟩

theorem ensures_true (o : Outcome α) : Ensures (fun _ => True) o := ensures_of fun _ _ => trivial

@[simp]
theorem ensures_fail {cause : Cause} : Ensures V (fail id cause) := meets_error.mpr trivial

theorem ensures_orFail {cause : Cause} {o : Option α} (hV : ∀ a, o = some a → V a) :
    Ensures V (orFail id cause o) :=
  (yields_orFail hV).mono (fun _ hv => hv) fun _ _ => trivial

theorem ensures_bind {o : Outcome α} {g : α → Outcome β} (hg : ∀ a, o = .ok a → Ensures W (g a)) :
    Ensures W (o >>= g) :=
  Meets.bind (ensures_of fun _ hok => hok) hg

theorem ensures_map {o : Outcome α} {g : α → β} (hg : ∀ a, W (g a)) : Ensures W (g <$> o) :=
  Meets.map (ensures_true o) fun a _ => hg a

/-! Outcomes that are values under a condition -/

/-- Whether an outcome is a value just if a condition holds, and then one with a property. -/
structure Decides {α : Type} (P : Prop) (V : α → Prop) (o : Outcome α) : Prop where
  holds : ∀ {a}, o = .ok a → P ∧ V a
  succeeds : P → ∃ a, o = .ok a

theorem decides_error {P : Prop} {f : Fault} (hP : ¬ P) : Decides P V (.error f) :=
  ⟨nofun, fun h => absurd h hP⟩

theorem decides_ok {P : Prop} {a : α} (hP : P) (ha : V a) : Decides P V (.ok a) := by
  refine ⟨?_, fun _ => ⟨a, rfl⟩⟩
  intro b hb
  obtain rfl := Except.ok.inj hb
  exact ⟨hP, ha⟩

namespace Decides

variable {P Q : Prop} {o : Outcome α} {o' : Outcome β}

theorem congr (ho : Decides P V o) (hiff : P ↔ Q) : Decides Q V o :=
  ⟨fun hok => ⟨hiff.mp (ho.holds hok).1, (ho.holds hok).2⟩, fun hQ => ho.succeeds (hiff.mpr hQ)⟩

theorem mono {V' : α → Prop} (ho : Decides P V o) (hV : ∀ a, o = .ok a → V a → V' a) :
    Decides P V' o :=
  ⟨fun hok => ⟨(ho.holds hok).1, hV _ hok (ho.holds hok).2⟩, ho.succeeds⟩

theorem exists_ok_iff (ho : Decides P V o) : (∃ a, o = .ok a) ↔ P := by
  constructor
  · rintro ⟨a, hok⟩
    exact (ho.holds hok).1
  · exact ho.succeeds

theorem exists_error_iff (ho : Decides P V o) : (∃ f, o = .error f) ↔ ¬ P := by
  rw [← ho.exists_ok_iff]
  cases o with
  | ok a => simp
  | error f => simp

theorem map {g : α → β} (ho : Decides P V o) (hg : ∀ a, V a → W (g a)) : Decides P W (g <$> o) := by
  constructor
  · intro b hb
    obtain ⟨a, ha, rfl⟩ := map_eq_ok_iff.mp hb
    exact ⟨(ho.holds ha).1, hg a (ho.holds ha).2⟩
  · intro hP
    obtain ⟨a, ha⟩ := ho.succeeds hP
    exact ⟨g a, map_eq_ok_iff.mpr ⟨a, ha, rfl⟩⟩

theorem bind {g : α → Outcome β} (ho : Decides P V o) (hg : ∀ a, V a → Decides Q W (g a)) :
    Decides (P ∧ Q) W (o >>= g) := by
  constructor
  · intro b hb
    obtain ⟨a, ha, hgb⟩ := bind_eq_ok_iff.mp hb
    obtain ⟨hP, hV⟩ := ho.holds ha
    obtain ⟨hQ, hW⟩ := (hg a hV).holds hgb
    exact ⟨⟨hP, hQ⟩, hW⟩
  · rintro ⟨hP, hQ⟩
    obtain ⟨a, ha⟩ := ho.succeeds hP
    obtain ⟨b, hb⟩ := (hg a (ho.holds ha).2).succeeds hQ
    exact ⟨b, bind_eq_ok_iff.mpr ⟨a, ha, hb⟩⟩

/-- The condition of what comes second may be about the value that came first. -/
theorem bind_ok {Q : α → Prop} {g : α → Outcome β} (hg : ∀ a, o = .ok a → Decides (Q a) W (g a)) :
    Decides (∃ a, o = .ok a ∧ Q a) W (o >>= g) := by
  constructor
  · intro b hb
    obtain ⟨a, ha, hgb⟩ := bind_eq_ok_iff.mp hb
    obtain ⟨hQ, hW⟩ := (hg a ha).holds hgb
    exact ⟨⟨a, ha, hQ⟩, hW⟩
  · rintro ⟨a, ha, hQ⟩
    obtain ⟨b, hb⟩ := (hg a ha).succeeds hQ
    exact ⟨b, bind_eq_ok_iff.mpr ⟨a, ha, hb⟩⟩

/-- Elements that are converted one by one all have to fulfil their conditions. -/
theorem mapM {P : α → Prop} {R : α → β → Prop} {g : α → Outcome β} {xs : List α}
    (hg : ∀ x ∈ xs, Decides (P x) (R x) (g x)) :
    Decides (∀ x ∈ xs, P x) (fun ys => List.Forall₂ R xs ys) (xs.mapM g) := by
  induction xs with
  | nil => exact decides_ok (fun _ hx => absurd hx List.not_mem_nil) .nil
  | cons x rest ih =>
      obtain ⟨hx, hrest⟩ := List.forall_mem_cons.mp hg
      have hall := hx.bind fun y hy => (ih hrest).map fun ys hys => List.Forall₂.cons hy hys
      rw [List.mapM_cons]
      simp only [bind_pure_comp]
      exact hall.congr List.forall_mem_cons.symm

end Decides

end Outcome

end CommonExpr
