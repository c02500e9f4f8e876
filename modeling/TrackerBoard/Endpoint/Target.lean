/-!
# Request targets

What a request asks for is named by a path, by an address with a scheme and an authority in front
of the path, by an authority alone, or by a star.  A query and a fragment may follow a path.  Of a
target without path, the path is empty.
-/

namespace TrackerBoard.Target

/-- The most bytes of a target. -/
def maxLength : Nat := 65534

/-- The longest scheme. -/
def maxSchemeLength : Nat := 64

/-- Whether a character may stand in a scheme. -/
def isSchemeChar (c : Char) : Bool := c.isAlphanum || ['+', '-', '.', '~'].contains c

/-- Whether a character may stand in an authority, besides the percent sign. -/
def isAuthorityChar (c : Char) : Bool := c.isAlphanum || "-._~:[]@!$&'()*+,;=".toList.contains c

/-- Whether a character ends a path. -/
def isPathEnd (c : Char) : Bool := c = '?' ∨ c = '#'

/-- Whether a character may stand in a path. -/
def isPathChar (c : Char) : Bool := '\x21' ≤ c ∧ c ≤ '\x7e' ∧ c ∉ ['#', '<', '>', '?', '\x60']

/-- Whether a character may stand in a query. -/
def isQueryChar (c : Char) : Bool := '\x21' ≤ c ∧ c ≤ '\x7e' ∧ c ∉ ['"', '#', '<', '>']

/-- The path in front of a query and a fragment. -/
def pathOf? (text : List Char) : Option (List Char) :=
  let path := text.takeWhile (¬ isPathEnd ·)
  let rest := text.drop path.length
  let query := if rest.head? = some '?' then rest.tail.takeWhile (· ≠ '#') else []
  if path.all isPathChar ∧ query.all isQueryChar then
    some (if path = [] then ['/'] else path)
  else none

/-- What was read of an authority. -/
structure Authority where
  /-- Colons since the last user name or closing bracket. -/
  colons : Nat := 0
  isOpened : Bool := false
  isClosed : Bool := false
  /-- Whether a percent sign is in the host. -/
  hasPercent : Bool := false
  /-- Whether a user name was read last. -/
  endsUser : Bool := false

namespace Authority

/-- The most colons in a row of groups. -/
def maxColons : Nat := 8

/-- Reads a character. -/
def add? (a : Authority) (c : Char) : Option Authority :=
  let a := { a with endsUser := c = '@' }
  match c with
  | ':' => if a.colons < maxColons then some { a with colons := a.colons + 1 } else none
  | '[' => if a.hasPercent ∨ a.isOpened then none else some { a with isOpened := true }
  | ']' =>
    if a.isOpened ∧ ¬ a.isClosed then
      some { a with colons := 0, hasPercent := false, isClosed := true }
    else none
  | '@' => some { a with colons := 0, hasPercent := false }
  | '%' => some { a with hasPercent := true }
  | c => if isAuthorityChar c then some a else none

/-- Whether a text is an authority: a host that may have a user name before it and a port behind
it, and may be an address in brackets. -/
def isWellFormed (text : List Char) : Bool :=
  (text.foldlM add? {}).any fun a =>
    a.isOpened = a.isClosed ∧ a.colons ≤ 1 ∧ ¬ a.endsUser ∧ ¬ a.hasPercent

end Authority

/-- The text behind a scheme and its sign; nothing if there is no scheme. -/
def afterScheme? (text : List Char) : Option (List Char) :=
  let rest := text.dropWhile isSchemeChar
  if rest.take 3 = "://".toList then some (rest.drop 3) else none

/-- The path of an address behind its scheme, or of an authority alone. -/
def addressPath? (text : List Char) : Option (List Char) :=
  let rest := (afterScheme? text).getD text
  let authority := rest.takeWhile fun c => c ≠ '/' ∧ ¬ isPathEnd c
  let path := rest.drop authority.length
  if ¬ Authority.isWellFormed authority then none
  else if (afterScheme? text).isNone then if path = [] then some [] else none
  else if authority = [] ∨ maxSchemeLength < (text.takeWhile isSchemeChar).length then none
  else pathOf? path

/-- The path of a target, if it is well formed. -/
def path? (target : String) : Option (List Char) :=
  if target.utf8ByteSize > maxLength then none
  else
    match target.toList with
    | [] => none
    | ['*'] => some ['*']
    | '/' :: rest => pathOf? ('/' :: rest)
    | text => addressPath? text

end TrackerBoard.Target
