import CommonExpr.Exchange.Format
import CommonExpr.Expr

/-!
Expression trees as they are exchanged, and their conversion to and from
`Expr`.  The exchange form can leave out parts that an expression needs; what
is missing, and at which id, is the fault of a failed conversion.
-/

namespace CommonExpr.Exchange

open Protobuf (Message)

/-- A constant in exchange form. -/
inductive Constant where
  | unset
  | null (number : Int32)
  | scalar (s : Scalar)
  | duration
  | timestamp

mutual

/-- An expression in exchange form. -/
inductive Tree where
  | mk (id : Int) (kind : TreeKind)

inductive TreeKind where
  | unset
  | constant (c : Constant)
  | ident (name : String)
  | select (operand : Option Tree) (field : String) (testOnly : Bool)
  | call (target : Option Tree) (function : String) (args : List Tree)
  | list (elements : List Tree) (optionalIndices : List Int32)
  | struct (message : String) (entries : List TreeEntry)
  /-- A loop; its parts are of no use here. -/
  | comprehension

inductive TreeEntry where
  | mk (id : Int) (key : TreeKey) (value : Option Tree) (optional : Bool)

inductive TreeKey where
  | unset
  | field (name : String)
  | map (key : Tree)

end

/-- Why a tree in exchange form is no expression. -/
inductive TreeFault where
  | missingField (id : Int) (field : String)
  | unknownKind (id : Int)
  | comprehension (id : Int)
  | invalidConstant (id : Int) (issue : String)
  | malformed
  deriving DecidableEq, Repr

def TreeFault.message : TreeFault → String
  | .missingField id field => s!"expr {id}: missing required field '{field}'"
  | .unknownKind id => s!"expr {id}: unknown expression kind"
  | .comprehension id => s!"expr {id}: comprehensions are not supported"
  | .invalidConstant id issue => s!"expr {id}: invalid constant: {issue}"
  | .malformed => "failed to decode expression: malformed bytes"

def Constant.toLiteral (id : Int) : Constant → Except TreeFault Literal
  | .unset => .error (.missingField id "constant_kind")
  | .null _ => .ok .null
  | .scalar s => .ok (.scalar s)
  | .duration => .error (.invalidConstant id "duration constants are not supported")
  | .timestamp => .error (.invalidConstant id "timestamp constants are not supported")

def Constant.ofLiteral : Literal → Constant
  | .null => .null 0
  | .scalar s => .scalar s

mutual

/-- The expression that a tree stands for. -/
def Tree.toExpr : Tree → Except TreeFault Expr
  | .mk id kind =>
      match kind with
      | .unset => .error (.unknownKind id)
      | .constant c =>
          match c.toLiteral id with
          | .error e => .error e
          | .ok l => .ok (.literal id l)
      | .ident name => .ok (.ident id name)
      | .select none _ _ => .error (.missingField id "operand")
      | .select (some operand) field testOnly =>
          match operand.toExpr with
          | .error e => .error e
          | .ok operand =>
              .ok (if testOnly then .has id operand field else .select id operand field)
      | .call none function args =>
          match Tree.toExprs args with
          | .error e => .error e
          | .ok args => .ok (.call id function args)
      | .call (some target) function args =>
          match target.toExpr with
          | .error e => .error e
          | .ok target =>
              match Tree.toExprs args with
              | .error e => .error e
              | .ok args => .ok (.memberCall id target function args)
      | .list elements _ =>
          match Tree.toExprs elements with
          | .error e => .error e
          | .ok elements => .ok (.list id elements)
      | .struct message entries =>
          match TreeEntry.toEntries (message == "") entries with
          | .error e => .error e
          | .ok entries => .ok (.struct id message entries)
      | .comprehension => .error (.comprehension id)

def Tree.toExprs : List Tree → Except TreeFault (List Expr)
  | [] => .ok []
  | t :: rest =>
      match t.toExpr with
      | .error e => .error e
      | .ok e =>
          match Tree.toExprs rest with
          | .error e => .error e
          | .ok es => .ok (e :: es)

/-- The entries of a map or of a message; each key must be of the right sort. -/
def TreeEntry.toEntries (isMap : Bool) : List TreeEntry → Except TreeFault (List Entry)
  | [] => .ok []
  | entry :: rest =>
      match TreeEntry.toEntry isMap entry with
      | .error e => .error e
      | .ok entry =>
          match TreeEntry.toEntries isMap rest with
          | .error e => .error e
          | .ok entries => .ok (entry :: entries)

def TreeEntry.toEntry (isMap : Bool) : TreeEntry → Except TreeFault Entry
  | .mk id (.map key) value _ =>
      if isMap then
        match key.toExpr with
        | .error e => .error e
        | .ok key =>
            match TreeEntry.toValue id value with
            | .error e => .error e
            | .ok value => .ok (.pair id key value)
      else .error (.missingField id "field_key")
  | .mk id (.field name) value _ =>
      if isMap then .error (.missingField id "map_key")
      else
        match TreeEntry.toValue id value with
        | .error e => .error e
        | .ok value => .ok (.field id name value)
  | .mk id .unset _ _ => .error (.missingField id (if isMap then "map_key" else "field_key"))

def TreeEntry.toValue (id : Int) : Option Tree → Except TreeFault Expr
  | none => .error (.missingField id "value")
  | some value => value.toExpr

end

mutual

/-- The tree of an expression. -/
def Tree.ofExpr : Expr → Tree
  | .literal id value => .mk id (.constant (.ofLiteral value))
  | .ident id name => .mk id (.ident name)
  | .select id operand field => .mk id (.select (some (Tree.ofExpr operand)) field false)
  | .has id operand field => .mk id (.select (some (Tree.ofExpr operand)) field true)
  | .call id function args => .mk id (.call none function (Tree.ofExprs args))
  | .memberCall id target function args =>
      .mk id (.call (some (Tree.ofExpr target)) function (Tree.ofExprs args))
  | .list id elements => .mk id (.list (Tree.ofExprs elements) [])
  | .struct id message entries => .mk id (.struct message (TreeEntry.ofEntries entries))

def Tree.ofExprs : List Expr → List Tree
  | [] => []
  | e :: rest => Tree.ofExpr e :: Tree.ofExprs rest

def TreeEntry.ofEntries : List Entry → List TreeEntry
  | [] => []
  | .field id name value :: rest =>
      .mk id (.field name) (some (Tree.ofExpr value)) false :: TreeEntry.ofEntries rest
  | .pair id key value :: rest =>
      .mk id (.map (Tree.ofExpr key)) (some (Tree.ofExpr value)) false :: TreeEntry.ofEntries rest

end

/-! Trees as messages -/

def Constant.toMessage : Constant → Message
  | .unset => build constantType []
  | .null n => build constantType [(1, .enum n)]
  | .scalar (.bool b) => build constantType [(2, .bool b)]
  | .scalar (.int i) => build constantType [(3, .int64 i)]
  | .scalar (.uint u) => build constantType [(4, .uint64 u)]
  | .scalar (.double d) => build constantType [(5, .double d)]
  | .scalar (.string s) => build constantType [(6, .string s)]
  | .scalar (.bytes b) => build constantType [(7, .bytes b)]
  | .duration => build constantType [(8, .message (build Protobuf.WellKnown.durationType []))]
  | .timestamp => build constantType [(9, .message (build Protobuf.WellKnown.timestampType []))]

def Constant.ofMessage (m : Message) : Constant :=
  match m.fields.head? with
  | some (1, .enum n) => .null n
  | some (2, .bool b) => .scalar (.bool b)
  | some (3, .int64 i) => .scalar (.int i)
  | some (4, .uint64 u) => .scalar (.uint u)
  | some (5, .double d) => .scalar (.double d)
  | some (6, .string s) => .scalar (.string s)
  | some (7, .bytes b) => .scalar (.bytes b)
  | some (8, _) => .duration
  | some (9, _) => .timestamp
  | _ => .unset

mutual

def Tree.toMessage : Tree → Message
  | .mk id kind => build exprType ((2, .int64 (Int64.ofInt id)) :: TreeKind.toFields kind)

def TreeKind.toFields : TreeKind → List (Nat × Protobuf.Value)
  | .unset => []
  | .constant c => [(3, .message c.toMessage)]
  | .ident name => [(4, .message (build identType [(1, .string name)]))]
  | .select operand field testOnly =>
      [(5, .message (build selectType
        (Tree.optionFields 1 operand ++ [(2, .string field), (3, .bool testOnly)])))]
  | .call target function args =>
      [(6, .message (build callType
        (Tree.optionFields 1 target ++
          [(2, .string function), (3, .list (Tree.toMessages args))])))]
  | .list elements optionalIndices =>
      [(7, .message (build createListType
        [(1, .list (Tree.toMessages elements)), (2, .list (optionalIndices.map .int32))]))]
  | .struct message entries =>
      [(8, .message (build createStructType
        [(1, .string message), (2, .list (TreeEntry.toMessages entries))]))]
  | .comprehension => [(9, .message (build comprehensionType []))]

def Tree.optionFields (number : Nat) : Option Tree → List (Nat × Protobuf.Value)
  | none => []
  | some t => [(number, .message t.toMessage)]

def Tree.toMessages : List Tree → List Protobuf.Value
  | [] => []
  | t :: rest => .message t.toMessage :: Tree.toMessages rest

def TreeEntry.toMessages : List TreeEntry → List Protobuf.Value
  | [] => []
  | .mk id key value optional :: rest =>
      .message (build structEntryType
        ((1, .int64 (Int64.ofInt id)) :: TreeKey.toFields key ++ Tree.optionFields 4 value ++
          [(5, .bool optional)])) :: TreeEntry.toMessages rest

def TreeKey.toFields : TreeKey → List (Nat × Protobuf.Value)
  | .unset => []
  | .field name => [(2, .string name)]
  | .map key => [(3, .message key.toMessage)]

end

/-- The tree in a message, nested at most `fuel` levels deep. -/
def Tree.ofMessage : (fuel : Nat) → Message → Tree
  | 0, m => .mk (m.intAt 2) .unset
  | fuel + 1, m =>
      let child := Tree.ofMessage fuel
      .mk (m.intAt 2) <|
        match (m.fields.filter (·.1 != 2)).head? with
        | some (3, .message c) => .constant (.ofMessage c)
        | some (4, .message i) => .ident (i.textAt 1)
        | some (5, .message s) => .select ((s.messageAt? 1).map child) (s.textAt 2) (s.boolAt 3)
        | some (6, .message c) =>
            .call ((c.messageAt? 1).map child) (c.textAt 2) ((c.messagesAt 3).map child)
        | some (7, .message l) =>
            .list ((l.messagesAt 1).map child) ((l.listAt 2).filterMap fun
              | .int32 i => some i
              | _ => none)
        | some (8, .message s) =>
            .struct (s.textAt 1) ((s.messagesAt 2).map fun e =>
              let key : TreeKey := match e.stored? 2, e.messageAt? 3 with
                | some (.string name), _ => .field name
                | _, some key => .map (child key)
                | _, none => .unset
              .mk (e.intAt 1) key ((e.messageAt? 4).map child) (e.boolAt 5))
        | some (9, .message _) => .comprehension
        | _ => .unset

/-- Bytes of a parsed expression with this tree. -/
def Tree.encode (t : Tree) : List UInt8 :=
  (build parsedExprType [(2, .message t.toMessage)]).encode

/-- A parsed expression: its tree, if it has one. -/
structure Parsed where
  root : Option Tree

/-- The expression in a parsed one. -/
def Parsed.toExpr : Parsed → Except TreeFault Expr
  | ⟨none⟩ => .error (.missingField 0 "expr")
  | ⟨some root⟩ => root.toExpr

/-- An expression as a parsed one. -/
def Parsed.ofExpr (e : Expr) : Parsed := ⟨some (Tree.ofExpr e)⟩

/-- Reads a parsed expression, `none` when the bytes do not encode one. -/
def decodeParsed? (bytes : List UInt8) : Option Parsed :=
  (Protobuf.decodeKnown? format parsedExprType bytes).map fun m =>
    ⟨(m.messageAt? 2).map fun root => Tree.ofMessage (root.depth + 1) root⟩

/-- Reads the expression out of the bytes of a parsed expression. -/
def decodeExpr (bytes : List UInt8) : Except TreeFault Expr :=
  match decodeParsed? bytes with
  | none => .error .malformed
  | some parsed => parsed.toExpr

/-- Bytes of a parsed expression. -/
def encodeExpr (e : Expr) : List UInt8 := (Tree.ofExpr e).encode

end CommonExpr.Exchange
