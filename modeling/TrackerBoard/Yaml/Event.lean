import TrackerBoard.Yaml.Lexer

/-!
# Events

The events of a document are its scalars and aliases and the starts and ends of its lists and
mappings, in the order of the text.  What is missing, such as the value of a key without one, is an
empty scalar.

A stack says what is awaited, innermost first.  A step looks at the next tokens, takes some of
them, and puts other things into the place of the one on top.
-/

namespace TrackerBoard.Yaml

/-- An event, with anchors of some kind. -/
inductive Event (α : Type) where
  | scalar (anchor : Option α) (tag : Option (List UInt8)) (text : String) (style : Style)
  | reference (anchor : α)
  | listStart (anchor : Option α)
  | mappingStart (anchor : Option α)
  /-- The innermost list or mapping is over. -/
  | collectionEnd
deriving DecidableEq, Repr

/-- The node of nothing at all. -/
def Event.empty {α : Type} : Event α := .scalar none none "" .plain

/-- What is awaited. -/
inductive Awaited where
  /-- A node, which may be a block collection or not; `isItemAside` tells whether it may be a list
  whose dashes stand at the column of the mapping around it. -/
  | node (inBlock isItemAside : Bool)
  | blockItem
  | itemAside
  | blockKey
  | blockValue
  | flowItem (isFirst : Bool)
  /-- The key of a mapping that is an item between brackets. -/
  | pairKey
  | pairValue
  | pairEnd
  | flowKey (isFirst : Bool)
  | flowValue
  | noFlowValue
deriving DecidableEq, Repr

/-- What a step does: the events that it gives, what is awaited in place of the one on top, and the
tokens that are left. -/
structure Step where
  events : List (Event String) := []
  awaited : List Awaited := []
  rest : List Token

namespace Awaited

/-- What may stand before a node. -/
structure Marks where
  anchor : Option String := none
  tag : Option Tag := none
deriving DecidableEq

/-- Takes an anchor and a tag, in either order and each at most once. -/
def marks : List Token → Marks × List Token
  | .anchor a :: .tag t :: rest => (⟨a, t⟩, rest)
  | .anchor a :: rest => (⟨a, none⟩, rest)
  | .tag t :: .anchor a :: rest => (⟨a, t⟩, rest)
  | .tag t :: rest => (⟨none, t⟩, rest)
  | tokens => ({}, tokens)

/-- A node.  Where there is nothing but marks it is empty. -/
def nodeStep? (handles : Handles) (inBlock isItemAside : Bool) (tokens : List Token) :
    Option Step := do
  let (m, rest) := marks tokens
  let tag ← match m.tag with
    | some tag => (tag.name? handles).map some
    | none => some none
  let found : Option Step := match rest with
    | .scalar text style :: rest => some { events := [.scalar m.anchor tag text style], rest }
    | .listOpen :: rest =>
      some { events := [.listStart m.anchor], awaited := [.flowItem true], rest }
    | .mappingOpen :: rest =>
      some { events := [.mappingStart m.anchor], awaited := [.flowKey true], rest }
    | .listStart :: rest =>
      if inBlock then some { events := [.listStart m.anchor], awaited := [.blockItem], rest }
      else none
    | .mappingStart :: rest =>
      if inBlock then some { events := [.mappingStart m.anchor], awaited := [.blockKey], rest }
      else none
    | .dash :: _ =>
      if isItemAside then some { events := [.listStart m.anchor], awaited := [.itemAside], rest }
      else none
    | .reference anchor :: rest =>
      if m = {} then some { events := [.reference anchor], rest } else none
    | _ => none
  if m = {} then found
  else return found.getD { events := [.scalar m.anchor tag "" .plain], rest }

/-- A node that is missing if one of some tokens follows. -/
def missingBefore (stops : List Token) (inBlock isItemAside : Bool) (next : Awaited)
    (tokens : List Token) : Step :=
  if tokens.head?.any (· ∈ stops) then
    { events := [.empty], awaited := [next], rest := tokens }
  else { awaited := [.node inBlock isItemAside, next], rest := tokens }

/-- The end of the innermost list or mapping. -/
def ended (rest : List Token) : Option Step := some { events := [.collectionEnd], rest }

/-- What stands behind a comma, which is not there before the first item. -/
def behindComma? (isFirst : Bool) : List Token → Option (List Token)
  | .comma :: rest => some (if isFirst then .comma :: rest else rest)
  | tokens => if isFirst then some tokens else none

/-- A further item between brackets, or the end of the list. -/
def flowItemStep? (isFirst : Bool) : List Token → Option Step
  | .listClose :: rest => ended rest
  | tokens => do
    match ← behindComma? isFirst tokens with
    | .listClose :: rest => ended rest
    | .key :: rest =>
      return { events := [.mappingStart none], awaited := [.pairKey, .flowItem false], rest }
    | tokens => return { awaited := [.node false false, .flowItem false], rest := tokens }

/-- A further key between braces, or the end of the mapping.  A node without sign is a key, too. -/
def flowKeyStep? (isFirst : Bool) : List Token → Option Step
  | .mappingClose :: rest => ended rest
  | tokens => do
    match ← behindComma? isFirst tokens with
    | .mappingClose :: rest => ended rest
    | .key :: rest =>
      return missingBefore [.value, .comma, .mappingClose] false false .flowValue rest
    | tokens => return { awaited := [.node false false, .noFlowValue], rest := tokens }

/-- What a step does, by what is awaited.  In a list between brackets, a key that is missing takes
the place of the token that shows it. -/
def step? (handles : Handles) : Awaited → List Token → Option Step
  | .node inBlock isItemAside, tokens => nodeStep? handles inBlock isItemAside tokens
  | .blockItem, .dash :: rest => missingBefore [.dash, .blockEnd] true false .blockItem rest
  | .blockItem, .blockEnd :: rest => ended rest
  | .blockItem, _ => none
  | .itemAside, .dash :: rest =>
    missingBefore [.dash, .key, .value, .blockEnd] true false .itemAside rest
  | .itemAside, tokens => ended tokens
  | .blockKey, .key :: rest => missingBefore [.key, .value, .blockEnd] true true .blockValue rest
  | .blockKey, .blockEnd :: rest => ended rest
  | .blockKey, _ => none
  | .blockValue, .value :: rest => missingBefore [.key, .value, .blockEnd] true true .blockKey rest
  | .blockValue, tokens => some { events := [.empty], awaited := [.blockKey], rest := tokens }
  | .flowItem isFirst, tokens => flowItemStep? isFirst tokens
  | .pairKey, t :: rest =>
    if t ∈ [.value, .comma, .listClose] then
      some { events := [.empty], awaited := [.pairValue], rest }
    else some { awaited := [.node false false, .pairValue], rest := t :: rest }
  | .pairKey, [] => none
  | .pairValue, .value :: rest => missingBefore [.comma, .listClose] false false .pairEnd rest
  | .pairValue, tokens => some { events := [.empty], awaited := [.pairEnd], rest := tokens }
  | .pairEnd, tokens => ended tokens
  | .flowKey isFirst, tokens => flowKeyStep? isFirst tokens
  | .flowValue, .value :: rest =>
    missingBefore [.comma, .mappingClose] false false (.flowKey false) rest
  | .flowValue, tokens | .noFlowValue, tokens =>
    some { events := [.empty], awaited := [.flowKey false], rest := tokens }

/-- Steps until nothing is awaited, and gives the events, newest first, and the tokens that are
left.  Between two tokens there are at most four steps. -/
def run? (handles : Handles) : Nat → List (Event String) → List Awaited → List Token →
    Option (List (Event String) × List Token)
  | 0, _, _, _ => none
  | _ + 1, events, [], tokens => some (events, tokens)
  | fuel + 1, events, top :: stack, tokens => do
    let s ← top.step? handles tokens
    run? handles fuel (s.events.reverse ++ events) (s.awaited ++ stack) s.rest

end Awaited

namespace Event

/-- The events of a node in block context, and the tokens that are left. -/
def ofNode? (handles : Handles) (tokens : List Token) :
    Option (List (Event String) × List Token) := do
  let (events, rest) ← Awaited.run? handles (4 * tokens.length + 8) [] [.node true false] tokens
  return (events.reverse, rest)

/-- What the directives of a document say. -/
structure Heading where
  handles : Handles := []
  hasVersion : Bool := false
deriving DecidableEq

/-- Takes a directive into account: each may be there once, and the version must be known. -/
def Heading.add? (h : Heading) : Directive → Option Heading
  | .version major minor =>
    if ¬ h.hasVersion ∧ major = 1 ∧ (minor = 1 ∨ minor = 2) then some { h with hasVersion := true }
    else none
  | .handle name start =>
    if (h.handles.lookup name).isNone then some { h with handles := (name, start) :: h.handles }
    else none

/-- Takes the directives before a document. -/
def heading? : Heading → List Token → Option (Heading × List Token)
  | h, .directive d :: rest => do heading? (← h.add? d) rest
  | h, tokens => some (h, tokens)

/-- Whether a token stands outside of every document. -/
def isOutside : Token → Bool
  | .directive _ | .documentStart | .documentEnd => true
  | _ => false

/-- The events of the document that some tokens start with, and the tokens that are left.  Behind
directives there must be a marker, and behind that the document may be empty. -/
def ofDocument? (tokens : List Token) : Option (List (Event String) × List Token) := do
  let (h, rest) ← heading? {} tokens
  match rest with
  | .documentStart :: rest =>
    if rest.head?.all isOutside then return ([.empty], rest)
    else ofNode? (h.handles ++ Tag.defaultHandles) rest
  | [] => if h = {} then return ([.empty], []) else none
  | rest => if h = {} then ofNode? Tag.defaultHandles rest else none

/-- The events of one document.  Behind it there may be end markers and nothing else. -/
def ofTokens? (tokens : List Token) : Option (List (Event String)) := do
  let (events, rest) ← ofDocument? tokens
  if rest.all (· = .documentEnd) then return events else none

end Event

end TrackerBoard.Yaml
