import CommonExpr.Func.Registry
import Mathlib.Data.List.Nodup

/-!
Registries and the calls that filled them.

A registry is filled by additions of one function or of several.  Main statement: whatever was
called before, a registry holds what was added with success, each function under its own name, and
refuses a function just for a name that it has or for an overload id that comes twice; what is
refused leaves it as it was.
-/

namespace CommonExpr

/-! Overload ids -/

/-- Whether `id` is that of the first overload which has the id of an earlier one. -/
def FirstRepeated (overloads : List Overload) (id : String) : Prop :=
  ∃ before o after, overloads = before ++ o :: after ∧ o.id = id ∧
    (before.map Overload.id).Nodup ∧ id ∈ before.map Overload.id

variable {seen : List String} {overloads : List Overload} {name id : String}

theorem repeatedOverload?_eq_none_iff (hseen : seen.Nodup) :
    repeatedOverload? seen overloads = none ↔ (seen ++ overloads.map Overload.id).Nodup := by
  induction overloads generalizing seen with
  | nil => simpa [repeatedOverload?] using hseen
  | cons o rest ih =>
      rw [repeatedOverload?, List.map_cons, List.perm_middle.nodup_iff]
      by_cases ho : o.id ∈ seen
      · rw [if_pos (by simpa using ho)]
        simp [ho]
      · rw [if_neg (by simpa using ho), ih (List.nodup_cons.mpr ⟨ho, hseen⟩), List.cons_append]

/-- The ids in `seen` count as those of earlier overloads. -/
theorem repeatedOverload?_eq_some_iff (hseen : seen.Nodup) :
    repeatedOverload? seen overloads = some id ↔ ∃ before o after,
      overloads = before ++ o :: after ∧ o.id = id ∧
        (seen ++ before.map Overload.id).Nodup ∧ id ∈ seen ++ before.map Overload.id := by
  induction overloads generalizing seen with
  | nil => simp [repeatedOverload?]
  | cons o rest ih =>
      rw [repeatedOverload?]
      by_cases ho : o.id ∈ seen
      · rw [if_pos (by simpa using ho)]
        constructor
        · intro hid
          obtain rfl := Option.some.inj hid
          exact ⟨[], o, rest, rfl, rfl, by simpa using hseen, by simpa using ho⟩
        · rintro ⟨before, o', after, hsplit, hid, hnodup, -⟩
          cases before with
          | nil =>
              obtain ⟨rfl, -⟩ := List.cons.inj hsplit
              rw [hid]
          | cons b before =>
              obtain ⟨rfl, -⟩ := List.cons.inj hsplit
              rw [List.map_cons, List.perm_middle.nodup_iff, List.nodup_cons] at hnodup
              exact absurd (List.mem_append_left _ ho) hnodup.1
      · rw [if_neg (by simpa using ho), ih (List.nodup_cons.mpr ⟨ho, hseen⟩)]
        constructor
        · rintro ⟨before, o', after, rfl, hid, hnodup, hmem⟩
          exact ⟨o :: before, o', after, rfl, hid, List.perm_middle.nodup_iff.mpr hnodup,
            List.perm_middle.mem_iff.mpr hmem⟩
        · rintro ⟨before, o', after, hsplit, hid, hnodup, hmem⟩
          cases before with
          | nil =>
              obtain ⟨rfl, -⟩ := List.cons.inj hsplit
              exact absurd (by simpa [hid] using hmem) ho
          | cons b before =>
              obtain ⟨rfl, rfl⟩ := List.cons.inj hsplit
              exact ⟨before, o', after, rfl, hid, List.perm_middle.nodup_iff.mp hnodup,
                List.perm_middle.mem_iff.mp hmem⟩

theorem firstRepeated_iff :
    FirstRepeated overloads id ↔ repeatedOverload? [] overloads = some id :=
  (repeatedOverload?_eq_some_iff List.nodup_nil).symm

/-! Functions by name -/

variable {known : List Func} {f : Func}

theorem isSome_findFunc?_iff :
    (findFunc? name known).isSome = true ↔ name ∈ known.map Func.name := by
  simp [findFunc?, List.mem_map]

theorem findFunc?_eq_some_iff (hnames : (known.map Func.name).Nodup) :
    findFunc? name known = some f ↔ f ∈ known ∧ f.name = name := by
  constructor
  · intro hfind
    exact ⟨List.mem_of_find?_eq_some hfind, by simpa using List.find?_some hfind⟩
  · rintro ⟨hf, rfl⟩
    obtain ⟨g, hg⟩ := Option.isSome_iff_exists.mp
      (isSome_findFunc?_iff.mpr (List.mem_map_of_mem hf))
    have hname : g.name = f.name := by simpa using List.find?_some hg
    have hsame : g = f :=
      List.inj_on_of_nodup_map hnames (List.mem_of_find?_eq_some hg) hf hname
    rw [hg, hsame]

/-! Additions -/

/-- Why a function is refused where functions of these names are registered.  Its overloads are
looked at only if its name is new. -/
inductive Func.Refused (names : List String) (f : Func) : RegistryFault → Prop where
  | function (hname : f.name ∈ names) : Refused names f (.duplicateFunction f.name)
  | overload {id : String} (hname : f.name ∉ names) (hid : FirstRepeated f.overloads id) :
      Refused names f (.duplicateOverload f.name id)

namespace Registry

variable {r r' : Registry} {fs : List Func} {fault : RegistryFault}

def names (r : Registry) : List String := r.functions.map Func.name

/-- The registry with more functions of its own. -/
def extend (r : Registry) (fs : List Func) : Registry := { r with functions := r.functions ++ fs }

theorem extend_nil (r : Registry) : r.extend [] = r := by
  rw [extend, List.append_nil]

theorem extend_extend (r : Registry) (fs gs : List Func) :
    (r.extend fs).extend gs = r.extend (fs ++ gs) := by
  rw [extend, extend, extend, List.append_assoc]

theorem add_eq_error_iff : r.add f = .error fault ↔ f.Refused r.names fault := by
  unfold add
  by_cases hname : f.name ∈ r.names
  · rw [if_pos (isSome_findFunc?_iff.mpr hname)]
    constructor
    · intro hadd
      obtain rfl := Except.error.inj hadd
      exact .function hname
    · intro hrefused
      cases hrefused with
      | function => rfl
      | overload hnew => exact absurd hname hnew
  · rw [if_neg fun hfound => hname (isSome_findFunc?_iff.mp hfound)]
    cases hrepeated : repeatedOverload? [] f.overloads with
    | none =>
        constructor
        · intro hadd
          cases hadd
        · intro hrefused
          cases hrefused with
          | function hknown => exact absurd hknown hname
          | overload _ hid => cases hrepeated.symm.trans (firstRepeated_iff.mp hid)
    | some id =>
        constructor
        · intro hadd
          obtain rfl := Except.error.inj hadd
          exact .overload hname (firstRepeated_iff.mpr hrepeated)
        · intro hrefused
          cases hrefused with
          | function hknown => exact absurd hknown hname
          | overload _ hid =>
              cases hrepeated.symm.trans (firstRepeated_iff.mp hid)
              rfl

theorem add_eq_ok_iff : r.add f = .ok r' ↔
    f.name ∉ r.names ∧ (f.overloads.map Overload.id).Nodup ∧ r' = r.extend [f] := by
  unfold add
  by_cases hname : f.name ∈ r.names
  · rw [if_pos (isSome_findFunc?_iff.mpr hname)]
    simp [hname]
  · have hdistinct : repeatedOverload? [] f.overloads = none ↔
        (f.overloads.map Overload.id).Nodup := repeatedOverload?_eq_none_iff List.nodup_nil
    rw [if_neg fun hfound => hname (isSome_findFunc?_iff.mp hfound)]
    cases hrepeated : repeatedOverload? [] f.overloads with
    | none => simp [hname, hdistinct.mp hrepeated, extend, eq_comm]
    | some id =>
        have htwice : ¬ (f.overloads.map Overload.id).Nodup := by
          rw [← hdistinct, hrepeated]
          exact Option.some_ne_none id
        simp [htwice]

/-- What the own functions of a registry are like. -/
structure Sound (r : Registry) : Prop where
  names : r.names.Nodup
  ids : ∀ f ∈ r.functions, (f.overloads.map Overload.id).Nodup

theorem Sound.add (hr : r.Sound) (hadd : r.add f = .ok r') : r'.Sound := by
  obtain ⟨hname, hids, rfl⟩ := add_eq_ok_iff.mp hadd
  refine ⟨?_, ?_⟩
  · rw [Registry.names, extend, List.map_append, List.map_cons, List.map_nil,
      List.perm_append_comm.nodup_iff]
    exact List.nodup_cons.mpr ⟨hname, hr.names⟩
  · intro g hg
    rcases List.mem_append.mp hg with hold | hnew
    · exact hr.ids g hold
    · obtain rfl := List.mem_singleton.mp hnew
      exact hids

/-! Several at once -/

theorem addAll_eq_none_iff :
    r.addAll fs = (r', none) ↔ fs.foldlM Registry.add r = .ok r' := by
  induction fs generalizing r with
  | nil => simp [addAll, pure, Except.pure]
  | cons f rest ih =>
      rw [addAll, List.foldlM_cons]
      cases hadd : r.add f with
      | error fault => simp [bind, Except.bind]
      | ok next => exact ih

theorem addAll_eq_some_iff : r.addAll fs = (r', some fault) ↔ ∃ before f after,
    fs = before ++ f :: after ∧ before.foldlM Registry.add r = .ok r' ∧
      r'.add f = .error fault := by
  induction fs generalizing r with
  | nil => simp [addAll]
  | cons g rest ih =>
      rw [addAll]
      constructor
      · cases hadd : r.add g with
        | error refusal =>
            intro hall
            cases hall
            exact ⟨[], g, rest, rfl, rfl, hadd⟩
        | ok next =>
            intro hall
            obtain ⟨before, f, after, rfl, hbefore, hf⟩ := ih.mp hall
            refine ⟨g :: before, f, after, rfl, ?_, hf⟩
            rw [List.foldlM_cons, hadd]
            exact hbefore
      · rintro ⟨before, f, after, hsplit, hbefore, hf⟩
        cases before with
        | nil =>
            obtain ⟨rfl, -⟩ := List.cons.inj hsplit
            cases hbefore
            rw [hf]
        | cons b before =>
            obtain ⟨rfl, rfl⟩ := List.cons.inj hsplit
            rw [List.foldlM_cons] at hbefore
            cases hadd : r.add g with
            | error refusal =>
                rw [hadd] at hbefore
                cases hbefore
            | ok next =>
                rw [hadd] at hbefore
                exact ih.mpr ⟨before, f, after, rfl, hbefore, hf⟩

/-- The functions of several that are added when they are added together. -/
def accepted (r : Registry) : List Func → List Func
  | [] => []
  | f :: rest =>
      match r.add f with
      | .error _ => []
      | .ok next => f :: next.accepted rest

theorem addAll_fst (r : Registry) (fs : List Func) :
    (r.addAll fs).1 = r.extend (r.accepted fs) := by
  induction fs generalizing r with
  | nil => exact (extend_nil r).symm
  | cons f rest ih =>
      rw [addAll, accepted]
      cases hadd : r.add f with
      | error fault => exact (extend_nil r).symm
      | ok next =>
          obtain ⟨-, -, rfl⟩ := add_eq_ok_iff.mp hadd
          exact (ih _).trans (extend_extend r [f] _)

theorem Sound.addAll (hr : r.Sound) (fs : List Func) : (r.addAll fs).1.Sound := by
  induction fs generalizing r with
  | nil => exact hr
  | cons f rest ih =>
      rw [Registry.addAll]
      cases hadd : r.add f with
      | error fault => exact hr
      | ok next => exact ih (hr.add hadd)

/-! Histories -/

/-- A registry without functions of its own, with or without another behind it. -/
def created : (parent? : Option Registry) → Registry
  | none => {}
  | some parent => under parent

/-- A call that adds to a registry. -/
inductive Call where
  | add (f : Func)
  | addAll (fs : List Func)

/-- The registry that a call leaves, and the fault that it reports. -/
def perform (r : Registry) : Call → Registry × Option RegistryFault
  | .add f =>
      match r.add f with
      | .error fault => (r, some fault)
      | .ok next => (next, none)
  | .addAll fs => r.addAll fs

/-- The registry that calls leave, one after the other, whether they succeed or not. -/
def run (r : Registry) : List Call → Registry
  | [] => r
  | call :: rest => (r.perform call).1.run rest

def Call.functions : Call → List Func
  | .add f => [f]
  | .addAll fs => fs

/-- The functions that calls add with success, in order. -/
def log (r : Registry) : List Call → List Func
  | [] => []
  | call :: rest => r.accepted call.functions ++ (r.perform call).1.log rest

/-- To add one function is to add several that are only this one. -/
theorem perform_eq (r : Registry) (call : Call) : r.perform call = r.addAll call.functions := by
  cases call with
  | add f =>
      rw [perform, Call.functions, addAll]
      cases r.add f <;> rfl
  | addAll fs => rfl

theorem perform_add_eq_some_iff :
    r.perform (.add f) = (r', some fault) ↔ r' = r ∧ f.Refused r.names fault := by
  rw [← add_eq_error_iff, perform]
  cases r.add f with
  | error refusal => simp [eq_comm]
  | ok next => simp

theorem Sound.run (hr : r.Sound) (history : List Call) : (r.run history).Sound := by
  induction history generalizing r with
  | nil => exact hr
  | cons call rest ih =>
      apply ih
      rw [perform_eq]
      exact hr.addAll call.functions

/-- Calls leave the functions that they added, behind those from before. -/
theorem run_eq_extend (r : Registry) (history : List Call) :
    r.run history = r.extend (r.log history) := by
  induction history generalizing r with
  | nil => exact (extend_nil r).symm
  | cons call rest ih =>
      rw [run, ih, log, perform_eq, addAll_fst, extend_extend]

theorem sound_created (parent? : Option Registry) : (created parent?).Sound := by
  cases parent? with
  | none => exact ⟨List.nodup_nil, fun _ hf => absurd hf List.not_mem_nil⟩
  | some parent => exact ⟨List.nodup_nil, fun _ hf => absurd hf List.not_mem_nil⟩

theorem functions_run_created (parent? : Option Registry) (history : List Call) :
    ((created parent?).run history).functions = (created parent?).log history := by
  rw [run_eq_extend]
  cases parent? <;> exact List.nil_append _

theorem find?_run_created (parent? : Option Registry) (history : List Call) (name : String) :
    ((created parent?).run history).find? name =
      (findFunc? name ((created parent?).log history)).or (parent?.bind (·.find? name)) := by
  rw [find?, functions_run_created, List.findSome?_cons, run_eq_extend]
  cases findFunc? name ((created parent?).log history) with
  | some f => rfl
  | none => cases parent? <;> rfl

/-- What a registry is like that was created in front of `parent?`, if that is one, and to which
the functions of `log` were added. -/
structure Records (parent? : Option Registry) (log : List Func) (r : Registry) : Prop where
  stored : ∀ name f, findFunc? name r.functions = some f ↔ f ∈ r.functions ∧ f.name = name
  distinct : ∀ f ∈ r.functions, (f.overloads.map Overload.id).Nodup
  add_fails : ∀ f r' fault, r.perform (.add f) = (r', some fault) ↔
    r' = r ∧ f.Refused (log.map Func.name) fault
  addAll_fails : ∀ fs r' fault, r.perform (.addAll fs) = (r', some fault) ↔
    ∃ before f after, fs = before ++ f :: after ∧ before.foldlM Registry.add r = .ok r' ∧
      r'.add f = .error fault
  addAll_succeeds : ∀ fs r', r.perform (.addAll fs) = (r', none) ↔
    fs.foldlM Registry.add r = .ok r'
  find : ∀ name, r.find? name = (findFunc? name log).or (parent?.bind (·.find? name))
  size : r.size = log.length

/-- After any calls a registry is what their successes make of it. -/
theorem records_of_history (parent? : Option Registry) (history : List Call) :
    Records parent? ((created parent?).log history) ((created parent?).run history) := by
  have hsound : ((created parent?).run history).Sound := (sound_created parent?).run history
  have hfunctions := functions_run_created parent? history
  exact {
    stored := fun _ _ => findFunc?_eq_some_iff hsound.names
    distinct := hsound.ids
    add_fails := fun f r' fault => by
      rw [perform_add_eq_some_iff, names, hfunctions]
    addAll_fails := fun _ _ _ => addAll_eq_some_iff
    addAll_succeeds := fun _ _ => addAll_eq_none_iff
    find := find?_run_created parent? history
    size := congrArg List.length hfunctions }

end Registry

end CommonExpr
