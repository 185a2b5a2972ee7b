namespace UnitLift.Yaml

/-- What is wrong with a text that should be a document. -/
inductive Flaw where
  /-- A character that no document may hold. -/
  | unprintable
  /-- A character that starts nothing. -/
  | noToken
  /-- A key that has to be one is not followed by a colon. -/
  | missingColon
  /-- An entry, a key or a value where there can be none. -/
  | misplaced
  | badDirective
  /-- An anchor or an alias without a proper name. -/
  | badName
  | badTag
  | badEscape
  /-- An escape for a code that no character can have. -/
  | codeOutOfRange
  /-- Quotes are not closed, or a document ends inside them. -/
  | unclosedQuotes
  /-- The line that starts a block of text says something else than how to read it. -/
  | badBlockHeader
  /-- The parts of the text do not go together. -/
  | disorder
  | unknownAlias
  | repeatedAnchor
  | repeatedKey
  /-- A key with parts. -/
  | compoundKey
  /-- What is to be merged is no mapping. -/
  | unmergeable
  | unknownTag
  | severalDocuments
  /-- A scalar that should be a number and is none, or is too long for one. -/
  | badNumeral
  /-- A scalar that should be a number has nothing, or nothing but a sign. -/
  | emptyNumeral
  /-- A number in so many sixtieths that it is too large. -/
  | numeralTooLarge
  /-- A word that should be a truth value and is none. -/
  | unknownTruth
  /-- A scalar that should be a date and does not look like one. -/
  | noDate
  /-- A date that no calendar or clock has. -/
  | impossibleDate
  /-- Bytes that are not written as such. -/
  | badBytes
  /-- A scalar where a mapping should be. -/
  | scalarForMapping
  /-- A node with parts, or one of its parts, where a node of another sort should be. -/
  | wrongSort
  /-- A node that should be a text, a list or pairs and is not. -/
  | unexpectedNode
  /-- A node that is a part of itself. -/
  | endless
  /-- Nodes are nested too deeply. -/
  | nestedTooDeeply
deriving DecidableEq, Repr

end UnitLift.Yaml
