import UnitLift.Data.Printed
import UnitLift.Journal
import UnitLift.Path
import UnitLift.Table
import UnitLift.Text.Quoted
import UnitLift.Work

/-!
The search for a library that can be loaded: the one that is asked for, the default one, and those in
the usual directories. A library that was chosen stays chosen when it cannot be loaded, and the
outcome of the first search is remembered.
-/

namespace UnitLift

/-- The libraries and directories of the machine. -/
structure LibraryHost where
  /-- The libraries that can be loaded; the default one has no path. -/
  loadable : List (Option String) := []
  /-- The libraries that cannot be chosen. -/
  refused : List String := []
  /-- The paths that a pattern stands for. -/
  patterns : Table String (List String) := .empty
  /-- The entries of directories. -/
  directories : Table String (List String) := .empty
  /-- Where links lead. -/
  targets : Table String String := .empty
  missing : List String := []
deriving DecidableEq, Repr

/-- What was asked of the machine. -/
inductive ProbeCall where
  | load
  | choose (path : String)
  | expand (pattern : String)
deriving DecidableEq, Repr

def ProbeCall.text : ProbeCall → String
  | load => "create"
  | choose path => "set " ++ path
  | expand pattern => "glob " ++ pattern

structure LibraryProbe where
  host : LibraryHost
  /-- The library that the settings ask for, if they can be asked. -/
  setting : Except Fault Value := .ok .null
  /-- The library that was chosen last. -/
  chosen : Option String := none
  /-- Whether a library was found, once that is known. -/
  outcome : Option Bool := none
  calls : List ProbeCall := []
  journal : Journal := {}

namespace LibraryProbe

/-- The patterns of the directories in which libraries are looked for. -/
def searchPatterns : List String :=
  ["/usr/lib", "/usr/lib/llvm-*/lib", "/usr/lib/x86_64-linux-gnu", "/usr/local/lib",
   "/usr/local/opt/llvm/lib", "/lib/x86_64-linux-gnu"]

def isLibraryName (name : String) : Bool :=
  "libclang".toList.isPrefixOf name.toList && ".so".toList.isSuffixOf name.toList

/-- Writes a journal record. -/
def note (level : Level) (message : String) : Work LibraryProbe Unit :=
  modify fun probe => { probe with journal := probe.journal.add ⟨level, .toolchain, message⟩ }

def recordCall (call : ProbeCall) : Work LibraryProbe Unit :=
  modify fun probe => { probe with calls := probe.calls ++ [call] }

/-- Loads the library that is chosen: why that is not possible, if it is not. -/
def load : Work LibraryProbe (Option String) := do
  recordCall .load
  let probe ← get
  if probe.host.loadable.contains probe.chosen then return none
  else return some ("cannot load " ++ probe.chosen.getD "None")

/-- Chooses a library and loads it: why that is not possible, if it is not. -/
def loadFrom (path : String) : Work LibraryProbe (Option String) := do
  recordCall (.choose path)
  if (← get).host.refused.contains path then return some "library already loaded"
  modify ({ · with chosen := some path })
  load

def tryWanted (path : String) : Work LibraryProbe Bool := do
  match ← loadFrom path with
  | none =>
    note .info ("Using libclang from configured path: " ++ path)
    return true
  | some reason =>
    note .warning ("Could not use configured libclang path '" ++ path ++ "': " ++ reason)
    return false

/-- Tries to load without a choice of a library. -/
def tryDefault : Work LibraryProbe Bool := do
  match ← load with
  | none =>
    note .debug "Default libclang configuration works without additional setup"
    return true
  | some reason =>
    note .debug ("Default libclang not accessible: " ++ reason)
    return false

def tryFound (path : String) : Work LibraryProbe Bool := do
  let host := (← get).host
  if host.missing.contains ((host.targets.get? path).getD path) then
    note .warning ("Symlink target of " ++ path ++ " does not exist!")
    return false
  match ← loadFrom path with
  | none =>
    note .info ("Successfully configured libclang with: " ++ path)
    return true
  | some reason =>
    note .debug ("Failed to configure libclang with " ++ path ++ ": " ++ reason)
    return false

def tryDirectory (directory : String) : Work LibraryProbe Bool := do
  let names := (((← get).host.directories.get? directory).getD []).filter isLibraryName
  names.anyM fun name => tryFound (Path.join directory name)

/-- Tries the libraries of the directories that a pattern stands for. -/
def tryPattern (pattern : String) : Work LibraryProbe Bool := do
  recordCall (.expand pattern)
  (((← get).host.patterns.get? pattern).getD []).anyM tryDirectory

/-- Searches for a library in the usual directories. -/
def search : Work LibraryProbe Bool := do
  note .debug ("Searching for libclang in common locations: " ++ Text.quotedList searchPatterns)
  if ← searchPatterns.anyM tryPattern then return true
  note .warning
    ("Could not find a working libclang library. " ++
      "Set 'parser.libclang_path' to the location of libclang.so")
  return false

/-- The library that is asked for by an argument, or else by the settings. -/
def wanted (argument : Value) (setting : Except Fault Value) :
    Except Fault (Option String) := do
  if argument.isTruthy then return some argument.printed
  let value ← setting
  return if value.isTruthy then some value.printed else none

/-- Makes the first search for a library. -/
def configureOnce (argument : Value) : Work LibraryProbe Bool := do
  note .debug "Python libclang module loaded from: clang/__init__.py"
  if let some path ← Work.ofFault (wanted argument (← get).setting) then
    if ← tryWanted path then return true
  if ← tryDefault then return true
  search

/-- Makes sure that a library is loaded: whether one is. Only the first call searches for it. -/
def configure (argument : Value) : Work LibraryProbe Bool := do
  match (← get).outcome with
  | some outcome => return outcome
  | none =>
    let outcome ← configureOnce argument
    modify ({ · with outcome := some outcome })
    return outcome

end LibraryProbe

end UnitLift
