import CommonExpr.Pattern.ByteSequence
import CommonExpr.Pattern.Shape
import Std.Data.HashMap

/-!
The size of the programs that a pattern becomes.

A pattern is compiled twice, to read a text forwards and backwards, into states
that read one byte each.  So a set of characters costs as much as its byte
sequences, and a counted repetition as much as all its copies.  Byte sequences
share states, but a state is only found again while its slot of a table of fixed
size is not taken by another one, and the slot depends on the numbers of the
states.  That is why the programs are counted state by state.  Patterns for which
one of the two does not fit in `sizeLimit` are refused.
-/

namespace CommonExpr

open Text (CharRange CharSet)

/-- A program as far as it is written: how many states it has, and the bytes that
its states take beyond their own. -/
structure Program where
  states : Nat := 0
  extra : Nat := 0

namespace Program

/-- Bytes of a state. -/
def stateSize : Nat := 32

/-- Bytes of one way out of a state that chooses among other states. -/
def choiceSize : Nat := 4

/-- Bytes of one way out of a state that chooses by the byte it reads. -/
def arrowSize : Nat := 8

def size (p : Program) : Nat := stateSize * p.states + p.extra

/-- How large a program may be. -/
def sizeLimit : Nat := 10485760

/-- Adds states, and bytes beyond their own. -/
def add (p : Program) (states : Nat) (extra : Nat := 0) : Program :=
  ⟨p.states + states, p.extra + extra⟩

/-- Adds up to `n` copies, as long as the program is not too large already. -/
def addCopies (copy : Program → Program) : Nat → Program → Program
  | 0, p => p
  | n + 1, p => if sizeLimit < p.size then p else addCopies copy n (copy p)

/-- The slot of some numbers in a table with `slots` slots. -/
def slotOf (slots : Nat) (numbers : List Nat) : Nat :=
  (numbers.foldl (fun (h : UInt64) n => (h ^^^ n.toUInt64) * 1099511628211)
    14695981039346656037).toNat % slots

/-- A table that finds states again by what they do, each slot holding the newest. -/
abbrev Found := Std.HashMap Nat (List Nat × Nat)

/-- The state in a program that does what the numbers tell: one that is found
again, or a new one with some bytes beyond its own. -/
def findOrAdd (slots extra : Nat) (does : List Nat) (found : Found) (p : Program) :
    Nat × Found × Program :=
  let slot := slotOf slots does
  match found[slot]? with
  | some (done, state) =>
      if done = does then (state, found, p)
      else (p.states, found.insert slot (does, p.states), p.add 1 extra)
  | none => (p.states, found.insert slot (does, p.states), p.add 1 extra)

namespace Backwards

/-- Adds the states that read one byte sequence backwards and lead on to `last`. -/
def addSequence (last : Nat) (found : Found) (p : Program) :
    List CharRange → Found × Program
  | [] => (found, p.add 0 choiceSize)
  | r :: rest =>
      let (state, found, p) := findOrAdd 1000 0 [last, r.lo, r.hi] found p
      addSequence state found p rest

/-- Adds the states that read one of the sequences backwards. -/
def addSet (sequences : List (List CharRange)) (p : Program) : Program :=
  let last := p.states + 1
  (sequences.foldl (fun (found, p) sequence => addSequence last found p sequence)
    ((∅ : Found), p.add 2)).2

end Backwards

namespace Forwards

/-- A state that is being written: its ways out, newest first, as the bounds of the
byte and the next state, and the bounds of the way that has no next state yet. -/
structure Node where
  ways : List (Nat × Nat × Nat) := []
  open? : Option CharRange := none

/-- Gives the way that has no next state its next state. -/
def Node.close (node : Node) (next : Nat) : Node :=
  match node.open? with
  | none => node
  | some r => ⟨(r.lo, r.hi, next) :: node.ways, none⟩

/-- The state of a node whose ways are all written. -/
def addNode (node : Node) (found : Found) (p : Program) : Nat × Found × Program :=
  let does := node.ways.reverse.flatMap fun (lo, hi, next) => [lo, hi, next]
  findOrAdd 10000 (arrowSize * node.ways.length) does found p

/-- Writes the nodes below the `keep` upper ones of a path, the lowest first, and
closes the lowest of those that stay. -/
def settle : (nodes : List Node) → (next : Nat) → (keep : Nat) → Found → Program →
    List Node × Found × Program
  | [], _, _, found, p => ([], found, p)
  | node :: upper, next, keep, found, p =>
      let node := node.close next
      if upper.length < keep then (node :: upper, found, p)
      else
        let (state, found, p) := addNode node found p
        settle upper state keep found p

/-- How many nodes of a path, from its top, have the ranges of a sequence open. -/
def sharedLength : List Node → List CharRange → Nat
  | node :: nodes, r :: rest => if node.open? = some r then sharedLength nodes rest + 1 else 0
  | _, _ => 0

/-- Puts a sequence on a path, whose lowest node comes first. -/
def addSequence (last : Nat) (nodes : List Node) (found : Found) (p : Program)
    (sequence : List CharRange) : List Node × Found × Program :=
  let shared := sharedLength nodes.reverse sequence
  let (nodes, found, p) := settle nodes last (shared + 1) found p
  match nodes, sequence.drop shared with
  | node :: upper, r :: rest =>
      (rest.foldl (fun nodes r => ⟨[], some r⟩ :: nodes) ({ node with open? := some r } :: upper),
        found, p)
  | nodes, _ => (nodes, found, p)

/-- Adds the states that read one of the sequences, which ascend. -/
def addSet (sequences : List (List CharRange)) (p : Program) : Program :=
  let last := p.states
  let (nodes, found, p) := sequences.foldl
    (fun (nodes, found, p) sequence => addSequence last nodes found p sequence)
    ([{}], (∅ : Found), p.add 1)
  (settle nodes last 0 found p).2.2

end Forwards

/-- Adds the states that read a member of a set.  ASCII needs one state that chooses
and one to go on from. -/
def addSet (backwards : Bool) (set : CharSet) : Program → Program :=
  if set.isAscii then fun p => p.add 2 (arrowSize * set.ranges.length)
  else
    let sequences := ByteSequence.ofSet set
    if backwards then Backwards.addSet sequences else Forwards.addSet sequences

namespace Words

/-- The words between the empty ones, of which those at the start count once. -/
def chunks (words : List (List UInt8)) : List (List (List UInt8)) :=
  let split (words : List (List UInt8)) : List (List (List UInt8)) :=
    words.foldr (fun w acc =>
      match w, acc with
      | [], acc => [] :: acc
      | w, [] => [[w]]
      | w, chunk :: acc => (w :: chunk) :: acc) [[]]
  match words with
  | [] :: rest => [] :: split (rest.dropWhile (·.isEmpty))
  | words => split words

/-- What follows a byte in those of the words that start with it. -/
def after (b : UInt8) (words : List (List UInt8)) : List (List UInt8) :=
  words.filterMap fun
    | c :: rest => if c = b then some rest else none
    | [] => none

/-- Adds the states that read what is left of some words: for each chunk of them one
that chooses by the first byte, and one that chooses a chunk. -/
def addRests : (fuel : Nat) → List (List UInt8) → Program → Program
  | 0, _, p => p
  | fuel + 1, words, p =>
      if words.all (·.isEmpty) then p
      else
        let parts := chunks words
        let filled := parts.filter (!·.isEmpty)
        let p := filled.foldl (fun p chunk =>
          let firsts := (chunk.filterMap (·.head?)).eraseDups
          let p := firsts.foldl (fun p b => addRests fuel (after b chunk) p) p
          p.add 1 (if firsts.length = 1 then 0 else arrowSize * firsts.length)) p
        p.add 1 (choiceSize * (filled.length + parts.length - 1))

/-- Adds the states that read one of some words. -/
def add (words : List (List UInt8)) (p : Program) : Program :=
  let longest := words.foldl (fun n w => max n w.length) 0
  addRests (longest + 1) words (p.add 1)

end Words

end Program

namespace Pattern

/-- The bytes of a literal. -/
def bytes (chars : List Char) : List UInt8 := (String.ofList chars).toUTF8.toList

/-- The literal that a pattern is. -/
def literal? : Pattern → Option (List Char)
  | .literal chars => some chars
  | _ => none

/-- Whether every match reads at least a byte; not so if some part never matches. -/
def shortest? : Pattern → Option Nat
  | .literal chars => some chars.length
  | .char _ set => if set.isEmpty then none else some 1
  | .seq a b => return (← a.shortest?) + (← b.shortest?)
  | .alt a b => return min (← a.shortest?) (← b.shortest?)
  | .times least _ _ p => return least * (← p.shortest?)
  | .group _ p => p.shortest?
  | _ => some 0

/-- Adds a repetition of what `copy` adds; `advances` if every copy reads a byte. -/
def addRepetition (copy : Program → Program) (advances : Bool) (least : Nat)
    (most : Option Nat) (p : Program) : Program :=
  let choices := 2 * Program.choiceSize
  match least, most with
  | 0, none =>
      if advances then copy (p.add 1 choices) else (copy p).add 3 (2 * choices)
  | 0, some 1 => (copy (p.add 1 choices)).add 1
  | least, none => (Program.addCopies copy least p).add 1 choices
  | least, some most =>
      let p := if least = 0 then p.add 1 else Program.addCopies copy least p
      if least = most then p
      else Program.addCopies (fun p => copy (p.add 1 choices)) (most - least) (p.add 1)

/-- How the states of a pattern are added: on its own, and as the branches of an
alternation that come after the first one. -/
structure Writer where
  whole : Program → Program
  rest : (second : Bool) → Program → Program

/-- A branch that is read; after the second one comes the state that chooses. -/
def closeBranch (second : Bool) (p : Program) : Program :=
  if second then p.add 2 (2 * Program.choiceSize) else p.add 0 Program.choiceSize

/-- A pattern that is no alternation. -/
def Writer.single (whole : Program → Program) : Writer :=
  ⟨whole, fun second p => closeBranch second (whole p)⟩

/-- How the states of a pattern are added.  Backwards, a sequence starts with its
last item and groups are not remembered. -/
def writer (backwards : Bool) : Pattern → Writer
  | .literal chars => .single (·.add (bytes chars).length)
  | .char _ set => .single (Program.addSet backwards set)
  | .seq a b =>
      let a := (a.writer backwards).whole
      let b := (b.writer backwards).whole
      .single fun p => if backwards then a (b p) else b (a p)
  | .alt a b =>
      let first := (a.writer backwards).whole
      let others := (b.writer backwards).rest
      let whole := match (Pattern.alt a b).branches.mapM literal? with
        | some words =>
            let words := words.map bytes
            Program.Words.add (if backwards then words.map List.reverse else words)
        | none => fun p => others true (first p)
      ⟨whole, fun second p => others false (closeBranch second (first p))⟩
  | .times least most _ a =>
      .single (addRepetition (a.writer backwards).whole (0 < a.shortest?.getD 0) least most)
  | .group _ a =>
      if backwards then .single (a.writer backwards).whole
      else
        let inner := (a.writer backwards).whole
        .single fun p => (inner (p.add 1)).add 1
  | _ => .single (·.add 1)

/-- Whether every match starts where the text starts. -/
def startsText : Pattern → Bool
  | .textStart => true
  | .seq a b => a.startsText || (a.onlyEmpty && b.startsText)
  | .alt a b => a.startsText && b.startsText
  | .times least _ _ p => 0 < least && p.startsText
  | .group _ p => p.startsText
  | _ => false

/-- Whether every match ends where the text ends. -/
def endsText : Pattern → Bool
  | .textEnd => true
  | .seq a b => b.endsText || (b.onlyEmpty && a.endsText)
  | .alt a b => a.endsText && b.endsText
  | .times least _ _ p => 0 < least && p.endsText
  | .group _ p => p.endsText
  | _ => false

/-- The start of a program: a loop that looks for a match, or one state if there is
only one place for it. -/
def searching (fixed : Bool) : Program :=
  if fixed then ⟨1, 0⟩ else ⟨3, 2 * Program.choiceSize + Program.arrowSize⟩

/-- The program that reads forwards; the whole match is a group. -/
def forwards (p : Pattern) : Program :=
  ((p.writer false).whole ((searching p.startsText).add 1)).add 2

/-- The program that reads backwards. -/
def backwards (p : Pattern) : Program :=
  ((p.writer true).whole (searching p.endsText)).add 1

/-- Whether both programs of a pattern are small enough. -/
def fits (p : Pattern) : Bool :=
  p.forwards.size ≤ Program.sizeLimit && p.backwards.size ≤ Program.sizeLimit

end Pattern

end CommonExpr
