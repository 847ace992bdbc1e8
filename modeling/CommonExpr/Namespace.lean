import CommonExpr.Text.Search

/-!
Resolution of names relative to a container.

A name `x` used inside container `a.b` may denote `a.b.x`, `a.x` or `x`; the
candidates are listed from most to least qualified.  A leading dot makes a name
absolute, and an alias of the first segment replaces all candidates.
-/

namespace CommonExpr

/-- A container name and the aliases in force. -/
structure Namespace where
  name : String := ""
  aliases : List (String × String) := []
  deriving DecidableEq, Repr, Inhabited

namespace Namespace

/-- Adds an alias; the newest one of a name counts. -/
def withAlias (ns : Namespace) (short qualified : String) : Namespace :=
  { ns with aliases := ns.aliases.filter (·.1 != short) ++ [(short, qualified)] }

/-- Splits off the first segment; the rest keeps its dot. -/
def firstSegment (name : String) : String × String :=
  (String.ofList (name.toList.takeWhile (· != '.')),
    String.ofList (name.toList.dropWhile (· != '.')))

/-- The name with an alias of its first segment replaced. -/
def expand? (ns : Namespace) (name : String) : Option String :=
  let (simple, qualifier) := firstSegment name
  (ns.aliases.lookup simple).map (· ++ qualifier)

/-- What stands before each dot, shortest first. -/
def outerContainers : List Char → List (List Char)
  | [] => []
  | c :: rest =>
      let inner := (outerContainers rest).map (c :: ·)
      if c = '.' then [] :: inner else inner

/-- The container and those around it, innermost first. -/
def containers (container : String) : List String :=
  container :: ((outerContainers container.toList).reverse.map String.ofList)

/-- The full names that `name` may stand for, most qualified first. -/
def candidates (ns : Namespace) (name : String) : List String :=
  match name.toList with
  | '.' :: rest =>
      let qualified := String.ofList rest
      [(ns.expand? qualified).getD qualified]
  | _ =>
      match ns.expand? name with
      | some expanded => [expanded]
      | none =>
          if ns.name = "" then [name]
          else (containers ns.name).map (· ++ "." ++ name) ++ [name]

end Namespace

end CommonExpr
