import CommonExpr.Number.Double

/-!
JSON values.  Numbers are integers between `-2^63` and `2^64`, or doubles;
objects list their members by ascending name.
-/

namespace CommonExpr

/-- An integer that fits a signed or an unsigned 64-bit word. -/
structure JsonInteger where
  val : Int
  lower : -9223372036854775808 ≤ val
  upper : val < 18446744073709551616
  deriving DecidableEq

inductive Json where
  | null
  | bool (b : Bool)
  | integer (i : JsonInteger)
  | double (d : Double)
  | string (s : String)
  | array (items : List Json)
  | object (members : List (String × Json))

namespace Json

/-- Puts a member into an ascending list, replacing one of the same name. -/
def insertMember (name : String) (value : Json) : List (String × Json) → List (String × Json)
  | [] => [(name, value)]
  | (n, v) :: rest =>
      if n = name then (name, value) :: rest
      else if name < n then (name, value) :: (n, v) :: rest
      else (n, v) :: insertMember name value rest

/-- An object of these members; the last one of a name counts. -/
def ofMembers (members : List (String × Json)) : Json :=
  .object (members.foldl (fun acc (name, value) => insertMember name value acc) [])

def ofInt64 (i : Int64) : Json :=
  .integer ⟨i.toInt, by have := i.le_toInt; omega, by have := i.toInt_lt; omega⟩

def ofUInt64 (u : UInt64) : Json :=
  .integer ⟨u.toNat, by omega, by have := u.toNat_lt; omega⟩

/-- An integer of any size: a double when it fits no 64-bit word. -/
def ofInt (i : Int) : Json :=
  if h : -9223372036854775808 ≤ i ∧ i < 18446744073709551616 then .integer ⟨i, h.1, h.2⟩
  else .double (Double.ofInt i)

mutual

/-- How many levels a value nests. -/
def depth : Json → Nat
  | .array items => listDepth items + 1
  | .object members => memberDepth members + 1
  | _ => 1

def listDepth : List Json → Nat
  | [] => 0
  | v :: rest => max v.depth (listDepth rest)

def memberDepth : List (String × Json) → Nat
  | [] => 0
  | (_, v) :: rest => max v.depth (memberDepth rest)

end

end Json

end CommonExpr
