import UnitLift.Settings.Document
import UnitLift.Settings.Located

/-!
Looking settings up. A setting may be a text with references: what it stands for is found on the way,
by further look-ups from the list or mapping that it is in. These go down by levels, of which there are
only so many.
-/

namespace UnitLift.Settings

/-- What a reference stands for. -/
inductive Outcome where
  | setting (located : Located)
  /-- A value that was made. -/
  | made (value : Value)

def Outcome.value : Outcome → Value
  | setting located => located.value
  | made value => value

/-- The look-ups that references may need. -/
structure Lookups where
  /-- The setting under a key, as seen from a list or mapping; a strict look-up refuses settings that
  have still to be given. -/
  select : Located → String → Bool → Except Fault (Option Located)
  /-- What a text stands for as an argument of a function. -/
  decode : Located → String → Except Fault Outcome

/-- What references give for what goes wrong while they are looked up. -/
def unresolved {α : Type} : Except Fault α → Except Fault α
  | .error (.unresolved cause) => .error (.unresolved cause)
  | .error _ => .error (.unresolved .failed)
  | .ok result => .ok result

/-- What goes wrong with a reference for no reason of its own. -/
def failed {α : Type} : Except Fault α := .error (.unresolved .failed)

mutual

def checkMade : Value → Except Fault Unit
  | .scalar (.text text) =>
    if Template.isWellFormed text then .ok () else .error .malformedReference
  | .scalar _ => .ok ()
  | .list items => checkItems items
  | .mapping entries => checkEntries entries

def checkItems : List Value → Except Fault Unit
  | [] => .ok ()
  | item :: rest => do
    checkMade item
    checkItems rest

def checkEntries : List (Scalar × Value) → Except Fault Unit
  | [] => .ok ()
  | (key, value) :: rest => do
    if key == .null then throw (.unresolved .invalidResult)
    checkMade value
    checkEntries rest

end

/-- Writes an entry: under a key that is there already the value is replaced. -/
def writeEntry (entries : List (Scalar × Value)) (key : Scalar) (value : Value) :
    List (Scalar × Value) :=
  if entries.any fun entry => entry.1.isSameKey key then
    entries.map fun entry => if entry.1.isSameKey key then (entry.1, value) else entry
  else entries ++ [(key, value)]

/-! ## Functions -/

def functionNames : List String :=
  ["oc.create", "oc.decode", "oc.deprecated", "oc.dict.keys", "oc.dict.values", "oc.env", "oc.select"]

/-- A list or a mapping made of a value. -/
def create (container : Located) (value : Value) : Except Fault Outcome := do
  match value with
  | .scalar .null => return .made .null
  | .scalar (.text text) => return .setting (container.made (← collectionIn text))
  | .scalar _ => failed
  | value =>
    checkMade value
    return .setting (container.made value)

def selectOr (lookups : Lookups) (container : Located) (key : String) (default : Outcome) :
    Except Fault Outcome :=
  match lookups.select container key false with
  | .error .noContainer => .ok default
  | .error fault => .error fault
  | .ok none => .ok default
  | .ok (some found) =>
    if isOpen found.value then .ok default
    else if found.isContainer then .ok (.setting found)
    else .ok (.made found.value)

def keysUnder (lookups : Lookups) (container : Located) (key : String) :
    Except Fault (List Scalar) := do
  match ← lookups.select container key true with
  | some found =>
    match found.value with
    | .mapping entries => return entries.map (·.1)
    | _ => failed
  | none => failed

/-- What a function gives for arguments. -/
def apply (lookups : Lookups) (container : Located) (name : String) (arguments : List Outcome) :
    Except Fault Outcome := do
  let made (items : List Value) : Except Fault Outcome := do
    checkItems items
    return .setting (container.made (.list items))
  match name, arguments.map Outcome.value, arguments with
  | "oc.create", [value], _ => create container value
  | "oc.decode", [.scalar .null], _ => return .made .null
  | "oc.decode", [.scalar (.text text)], _ => lookups.decode container text
  | "oc.deprecated", .scalar (.text key) :: message, _ =>
    if message matches [] | [.scalar (.text _)] then
      match ← lookups.select container key false with
      | some found => return .setting found
      | none => failed
    else failed
  | "oc.dict.keys", [.scalar (.text key)], _ =>
    made ((← keysUnder lookups container key).map Value.scalar)
  | "oc.dict.values", [.scalar (.text key)], _ =>
    let lead := if key.startsWith "." then "." ++ key else key
    made ((← keysUnder lookups container key).map fun name =>
      .text ("$\x7b" ++ lead ++ "." ++ name.printed ++ "\x7d"))
  | "oc.env", [.scalar (.text _), .scalar .null], _ => return .made .null
  | "oc.env", [.scalar (.text _), default], _ => return .made (.text default.printed)
  | "oc.select", [.scalar (.text key)], _ => selectOr lookups container key (.made .null)
  | "oc.select", [.scalar (.text key), _], [_, default] => selectOr lookups container key default
  | name, _, _ =>
    if functionNames.contains name then failed else throw (.unresolved .unknownFunction)

/-! ## References -/

/-- What a reference to a setting stands for, as seen from a list or mapping. It may not lead to what
it is itself a part of. -/
def target (lookups : Lookups) (container : Located) (key : String) : Except Fault Outcome :=
  match lookups.select container key true with
  | .error .noParent => .error (.unresolved .missingTarget)
  | .error .openValue => .error (.unresolved .openTarget)
  | .error fault => .error fault
  | .ok none => .error (.unresolved .missingTarget)
  | .ok (some found) => if container.isWithin found.spot then failed else .ok (.setting found)

/-- The text that an outcome is as a part of a name. -/
def nameOf (outcome : Outcome) : Except Fault String :=
  match outcome.value with
  | .scalar (.text text) => .ok text
  | _ => failed

open Template (Piece Reference Element)

mutual

/-- What a reference stands for, as seen from a list or mapping. -/
def valueOfReference (lookups : Lookups) (container : Located) :
    Reference → Except Fault Outcome
  | .setting key => do target lookups container (String.join (← namesOf lookups container key))
  | .call name arguments => do
    let name := String.join (← namesOf lookups container name)
    apply lookups container name (← valuesOfElements lookups container arguments)

/-- The texts that pieces give as parts of a name. -/
def namesOf (lookups : Lookups) (container : Located) : List Piece → Except Fault (List String)
  | [] => .ok []
  | .literal text :: rest => do return text :: (← namesOf lookups container rest)
  | .reference reference :: rest => do
    let name ← nameOf (← valueOfReference lookups container reference)
    return name :: (← namesOf lookups container rest)

/-- The texts that pieces give as parts of a text. -/
def textsOf (lookups : Lookups) (container : Located) : List Piece → Except Fault (List String)
  | [] => .ok []
  | .literal text :: rest => do return text :: (← textsOf lookups container rest)
  | .reference reference :: rest => do
    let outcome ← valueOfReference lookups container reference
    return outcome.value.printed :: (← textsOf lookups container rest)

def valueOfElement (lookups : Lookups) (container : Located) : Element → Except Fault Outcome
  | .scalar value => .ok (.made (.scalar value))
  | .reference reference => valueOfReference lookups container reference
  | .text pieces => do
    return .made (.text (String.join (← textsOf lookups container pieces)))
  | .list items => do
    return .made (.list ((← valuesOfElements lookups container items).map Outcome.value))
  | .mapping entries => do
    return .made (.mapping (← valuesOfEntries lookups container [] entries))
  | .invalid => failed

def valuesOfElements (lookups : Lookups) (container : Located) :
    List Element → Except Fault (List Outcome)
  | [] => .ok []
  | element :: rest => do
    let outcome ← valueOfElement lookups container element
    return outcome :: (← valuesOfElements lookups container rest)

/-- What entries stand for, behind those in `before`. -/
def valuesOfEntries (lookups : Lookups) (container : Located) (before : List (Scalar × Value)) :
    List (Scalar × Element) → Except Fault (List (Scalar × Value))
  | [] => .ok before
  | (key, element) :: rest => do
    let outcome ← valueOfElement lookups container element
    valuesOfEntries lookups container (writeEntry before key outcome.value) rest

end

/-- What a text stands for: a single reference for what it gives, all else for a text. -/
def valueOfText (lookups : Lookups) (container : Located) :
    List Piece → Except Fault Outcome
  | [.reference reference] => valueOfReference lookups container reference
  | pieces => do return .made (.text (String.join (← textsOf lookups container pieces)))

/-- A setting in a list or mapping with what it stands for instead of its references. What that is is
not read for references again. -/
def resolve (lookups : Lookups) (container setting : Located) : Except Fault Located := do
  match setting.value with
  | .scalar (.text text) =>
    if isOpen setting.value || !Template.hasReferences text then return setting
    match Template.read? text with
    | none => throw .malformedReference
    | some pieces =>
      match ← unresolved (valueOfText lookups container pieces) with
      | .setting found => return found
      | .made (.scalar value) => return container.made (.scalar value)
      | .made value =>
        checkMade value
        return container.made value
  | _ => return setting

/-! ## Keys -/

/-- The setting under a name in a list or mapping. -/
def selectPart (lookups : Lookups) (container : Located) (name : String) (strict : Bool) :
    Except Fault (Option Located) := do
  match ← container.part? name with
  | none => return none
  | some found =>
    if strict && isOpen found.value then throw .openValue
    return some (← resolve lookups container found)

/-- The setting that names lead to. -/
def follow (lookups : Lookups) (strict : Bool) (container : Located) :
    List String → Except Fault (Option Located)
  | [] => .ok (some container)
  | [name] => selectPart lookups container name strict
  | name :: rest => do
    match ← selectPart lookups container name strict with
    | none => return none
    | some found =>
      if !found.isContainer then throw .noContainer
      follow lookups strict found rest

def select (lookups : Lookups) (container : Located) (key : String) (strict : Bool) :
    Except Fault (Option Located) := do
  let key := Key.ofText key
  let start ← container.start key
  follow lookups strict start (← key.names)

/-- What a text stands for as an argument of a function. -/
def decode (lookups : Lookups) (container : Located) (text : String) : Except Fault Outcome := do
  match Template.readElement? text with
  | none => failed
  | some element => unresolved (valueOfElement lookups container element)

/-- The look-ups that may go down by some levels. -/
def lookups : Nat → Lookups
  | 0 => ⟨fun _ _ _ => failed, fun _ _ => failed⟩
  | levels + 1 =>
    let lower := lookups levels
    ⟨select lower, decode lower⟩

/-- How many levels look-ups go down. -/
def deepestLookup : Nat := 56

/-- All look-ups. -/
def allLookups : Lookups := lookups deepestLookup

end UnitLift.Settings
