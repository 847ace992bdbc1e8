import CommonExpr.Convert.Json
import CommonExpr.Exchange.Tree
import CommonExpr.Library.Standard
import CommonExpr.Plan.Evaluation
import CommonExpr.Plan.Planner

/-!
Environments: variables, functions, types and a container, against which
expressions are parsed, planned and evaluated.

Plans are values of their own; they can be evaluated any number of times,
against the bindings of an environment or any other activation.
-/

namespace CommonExpr

/-- Why an expression was not evaluated at all. -/
inductive EnvironmentFault where
  | noParser
  | parse (issue : String)
  | plan (fault : PlanFault)
  | tree (fault : Exchange.TreeFault)
  deriving DecidableEq, Repr

def EnvironmentFault.message : EnvironmentFault → String
  | .noParser => "no parser configured"
  | .parse issue => s!"parse error: {issue}"
  | .plan fault => fault.message
  | .tree fault => fault.message

/-- What a host binds a name to, in any form that can be read. -/
inductive Binding where
  | outcome (result : Outcome Value)
  | json (j : Json)
  | message (m : Protobuf.Message)
  | exchange (v : Exchange.Value)

/-- The outcome of reading a host's value by a schema. -/
def Binding.read (schema : Protobuf.Schema) : Binding → Outcome Value
  | .outcome result => result
  | .json j => j.toValue 0
  | .message m => m.toValue schema 0
  | .exchange v => v.toValue (some schema) 0

structure Environment where
  bindings : Bindings := {}
  scope : Namespace := {}
  schema : Protobuf.Schema := .wellKnown
  /-- The zones known by name are the host's. -/
  zones : String → Option ZoneRule := namedZone?
  dispatcher : Dispatcher := ⟨[Library.standard zones]⟩
  /-- The grammar of source text is the host's. -/
  parser : Option (String → Except String Expr) := none

namespace Environment

def withContainer (env : Environment) (container : String) : Environment :=
  { env with scope := { name := container } }

def withSchema (env : Environment) (schema : Protobuf.Schema) : Environment :=
  { env with schema := schema }

def withParser (env : Environment) (parser : String → Except String Expr) : Environment :=
  { env with parser := some parser }

/-- Adds functions behind those already present. -/
def appendFunctions (env : Environment) (r : Registry) : Environment :=
  { env with dispatcher := env.dispatcher.append r }

/-- Adds functions in front of those already present. -/
def overrideFunctions (env : Environment) (r : Registry) : Environment :=
  { env with dispatcher := env.dispatcher.prepend r }

/-- Binds a name to a value that is read now. -/
def set (env : Environment) (name : String) (value : Binding) : Environment :=
  { env with bindings := env.bindings.insert name (value.read env.schema) }

/-- Drops a name, and tells what it was bound to. -/
def remove (env : Environment) (name : String) : Environment × Option (Outcome Value) :=
  ({ env with bindings := env.bindings.erase name }, env.bindings.find? name)

def activation (env : Environment) : Activation := .ofBindings env.bindings

def planner (env : Environment) : Planner where
  dispatcher := env.dispatcher
  provider := .ofSchema env.schema
  scope := env.scope

def parse (env : Environment) (source : String) : Except EnvironmentFault Expr :=
  match env.parser with
  | none => .error .noParser
  | some parser =>
      match parser source with
      | .ok e => .ok e
      | .error issue => .error (.parse issue)

def plan (env : Environment) (e : Expr) : Except EnvironmentFault Plan :=
  match env.planner.plan e with
  | .ok p => .ok p
  | .error fault => .error (.plan fault)

/-- Plans an expression in exchange form. -/
def planParsed (env : Environment) (parsed : Exchange.Parsed) : Except EnvironmentFault Plan :=
  match parsed.toExpr with
  | .ok e => env.plan e
  | .error fault => .error (.tree fault)

/-- Plans an expression in the bytes of its exchange form. -/
def planBytes (env : Environment) (bytes : List UInt8) : Except EnvironmentFault Plan :=
  match Exchange.decodeParsed? bytes with
  | none => .error (.tree .malformed)
  | some parsed => env.planParsed parsed

/-- Evaluates against the environment's own bindings. -/
def eval (env : Environment) (p : Plan) : Outcome Value := p.eval env.activation

/-- Parses, plans and evaluates. -/
def run (env : Environment) (source : String) : Except EnvironmentFault (Outcome Value) :=
  match env.parse source with
  | .error fault => .error fault
  | .ok e =>
      match env.plan e with
      | .error fault => .error fault
      | .ok p => .ok (env.eval p)

/-- Runs source text and gives the value as JSON. -/
def runJson (env : Environment) (source : String) : Except EnvironmentFault (Outcome Json) :=
  match env.run source with
  | .error fault => .error fault
  | .ok outcome => .ok (outcome >>= fun v => v.toJson 0)

end Environment

end CommonExpr
