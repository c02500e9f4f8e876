import TrackerBoard.Number.Word
import TrackerBoard.Yaml.Event
import TrackerBoard.Yaml.Numeral

/-!
# YAML nodes

A node is given by the events of its document from its start on.  A scalar is a text; how it was
written decides whether it may be read as a number.

Anchors are numbered.  A node with an anchor gets as number how many different names there are so
far, so a name that is used again takes a number that the next new name takes, too.  An alias
stands for the node in the whole document that has its number last.
-/

namespace TrackerBoard.Yaml

/-- A node and all that follows it. -/
abbrev Node := List (Event Nat)

namespace Event

/-- The anchor of the node that starts with an event. -/
def anchor? {α : Type} : Event α → Option α
  | scalar anchor _ _ _ | listStart anchor | mappingStart anchor => anchor
  | reference _ | collectionEnd => none

/-- How much deeper what follows an event is, when `depth` collections are open before it. -/
def depthAfter {α : Type} (depth : Nat) : Event α → Nat
  | listStart _ | mappingStart _ => depth + 1
  | collectionEnd => depth - 1
  | scalar _ _ _ _ | reference _ => depth

end Event

/-! ### Numbered anchors -/

/-- The names of the anchors so far with the numbers they had last, each name once. -/
abbrev Anchors := List (String × Nat)

/-- Numbers the anchor of a node, if it has one. -/
def Anchors.number (names : Anchors) : Option String → Anchors × Option Nat
  | none => (names, none)
  | some name => ((name, names.length) :: names.filter (·.1 ≠ name), some names.length)

/-- Numbers the anchors of an event; an alias must have a name that was there before. -/
def Anchors.event? (names : Anchors) : Event String → Option (Anchors × Event Nat)
  | .scalar anchor tag text style =>
    let (names, n) := names.number anchor
    some (names, .scalar n tag text style)
  | .listStart anchor => let (names, n) := names.number anchor; some (names, .listStart n)
  | .mappingStart anchor => let (names, n) := names.number anchor; some (names, .mappingStart n)
  | .collectionEnd => some (names, .collectionEnd)
  | .reference anchor => (names.lookup anchor).map fun n => (names, .reference n)

/-- Numbers the anchors of some events; `sofar` comes newest first. -/
def Anchors.events? (names : Anchors) (sofar : List (Event Nat)) :
    List (Event String) → Option (List (Event Nat))
  | [] => some sofar.reverse
  | e :: events => do
    let (names, e) ← names.event? e
    names.events? (e :: sofar) events

namespace Node

/-- The node that has an anchor last, or another one if there is none. -/
def lastAnchored (n : Nat) (best : Node) : Node → Node
  | [] => best
  | e :: events => lastAnchored n (if e.anchor? = some n then e :: events else best) events

/-- The nodes in a list or a mapping of which the start was passed; `depth` collections in it are
open, and `sofar` comes newest first. -/
def inside (depth : Nat) (sofar : List Node) : List (Event Nat) → List Node
  | [] => sofar.reverse
  | e :: events =>
    if depth = 0 ∧ e = .collectionEnd then sofar.reverse
    else inside (e.depthAfter depth) (if depth = 0 then (e :: events) :: sofar else sofar) events

/-- Nodes in pairs of key and value. -/
def pairs : List Node → List (Node × Node)
  | key :: value :: nodes => (key, value) :: pairs nodes
  | _ => []

/-! ### Reading nodes -/

/-- A text: any scalar. -/
def string? : Node → Option String
  | .scalar _ _ text _ :: _ => some text
  | _ => none

/-- The characters of a scalar that may be a number: a plain one, or a literal one whose tag says
that it is a number of this kind. -/
def number? (kind : String) : Node → Option (List Char)
  | .scalar _ _ text .plain :: _ => some text.toList
  | .scalar _ tag text .literal :: _ =>
    if tag = some (Tag.language kind) then some text.toList else none
  | _ => none

/-- A natural word. -/
def uint64? (node : Node) : Option UInt64 :=
  ((node.number? "int").bind Numeral.natural?).bind naturalWord?

/-- A signed word. -/
def int64? (node : Node) : Option Int64 :=
  ((node.number? "int").bind Numeral.integer?).bind signedWord?

/-- A double. -/
def float? (node : Node) : Option Float := (node.number? "float").bind Numeral.double?

/-- Whether a node is nothing at all. -/
def isEmpty : Node → Bool
  | .scalar _ _ text style :: _ => text = "" ∧ style = .plain
  | _ => false

end Node

/-- A document: its one node. -/
structure Document where
  root : Node

namespace Document

/-- The document of a text. -/
def ofText? (text : String) : Option Document := do
  return ⟨← Anchors.events? [] [] (← Event.ofTokens? (← Token.ofText? text))⟩

/-- The node that a node stands for: an alias for another one, and any other for itself. -/
def target (d : Document) : Node → Node
  | .reference n :: _ => Node.lastAnchored n [] d.root
  | node => node

/-- The items of a list; nothing at all is the empty one. -/
def items? (d : Document) (node : Node) : Option (List Node) :=
  match node with
  | .listStart _ :: events => some ((Node.inside 0 [] events).map d.target)
  | node => if node.isEmpty then some [] else none

/-- The entries of a mapping whose names are texts; nothing at all is the empty one. -/
def entries? (d : Document) (node : Node) : Option (List (String × Node)) :=
  match node with
  | .mappingStart _ :: events =>
    (Node.pairs (Node.inside 0 [] events)).mapM fun (key, value) =>
      (d.target key).string?.map (·, d.target value)
  | node => if node.isEmpty then some [] else none

/-- The fields of a document that is a record: the entries with known names, none of which may be
there twice.  All others are left out. -/
def fields? (d : Document) (known : List String) : Option (List (String × Node)) := do
  let fields := (← d.entries? d.root).filter (·.1 ∈ known)
  if (fields.map (·.1)).Nodup then some fields else none

end Document

/-- A field of a record: its default if it is missing, and nothing if it cannot be read. -/
def field {α : Type} (fields : List (String × Node)) (name : String) (read : Node → Option α)
    (default : α) : Option α :=
  match fields.find? (·.1 = name) with
  | some (_, node) => read node
  | none => some default

end TrackerBoard.Yaml
