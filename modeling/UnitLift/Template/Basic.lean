import UnitLift.Data.Value

/-!
Texts with references in them. A reference stands for a setting, or for what a function makes of its
arguments; references may be nested, in keys, in names and in arguments.
-/

namespace UnitLift.Template

mutual

/-- A part of a text. -/
inductive Piece where
  | literal (text : String)
  | reference (reference : Reference)

/-- What is put in for a part of a text. -/
inductive Reference where
  /-- The setting under a key, which is put together from pieces. -/
  | setting (key : List Piece)
  /-- What a function gives. -/
  | call (name : List Piece) (arguments : List Element)

/-- An argument of a function, or a part of one. -/
inductive Element where
  | scalar (value : Scalar)
  /-- What a reference stands for, which need not be a text. -/
  | reference (reference : Reference)
  /-- A text. -/
  | text (pieces : List Piece)
  | list (items : List Element)
  | mapping (entries : List (Scalar × Element))
  /-- An argument that is well-formed and still has no value. -/
  | invalid

end

instance : Inhabited Piece := ⟨.literal ""⟩
instance : Inhabited Reference := ⟨.setting []⟩
instance : Inhabited Element := ⟨.invalid⟩

end UnitLift.Template
