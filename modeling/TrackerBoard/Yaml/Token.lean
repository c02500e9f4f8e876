import TrackerBoard.Yaml.Directive
import TrackerBoard.Yaml.Scalar

/-!
# Tokens

A document is first split into tokens.  Besides what is written there are tokens for what the
layout says: where a list or a mapping without brackets starts and ends, and where a key starts
that only the colon behind it shows to be one.
-/

namespace TrackerBoard.Yaml

/-- A token of a document. -/
inductive Token where
  | directive (d : Directive)
  | documentStart
  | documentEnd
  /-- A block list starts. -/
  | listStart
  /-- A block mapping starts. -/
  | mappingStart
  /-- A block list or a block mapping is over. -/
  | blockEnd
  | listOpen
  | listClose
  | mappingOpen
  | mappingClose
  | comma
  /-- An item of a block list follows. -/
  | dash
  /-- A key follows. -/
  | key
  /-- A value follows. -/
  | value
  | reference (anchor : String)
  | anchor (name : String)
  | tag (t : Tag)
  | scalar (text : String) (style : Style)
deriving DecidableEq, Repr

end TrackerBoard.Yaml
