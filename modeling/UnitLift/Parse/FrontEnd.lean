import UnitLift.Parse.Parser

namespace UnitLift

/-- A parser as a batch sees it. -/
structure FrontEnd where
  /-- The name under which it is refused. -/
  className : String
  /-- It takes the configurations of compilation databases. -/
  usesLibrary : Bool
  /-- Parses a file, and registers it in the index. -/
  parse : PathArgument → AnyConfig → Work Session EntityId

/-- What a stand-in does with the files it is given. -/
structure StandIn where
  className : String := "LibclangParser"
  usesLibrary : Bool := true
  /-- The files on which it breaks down. -/
  crashing : List String := []
  /-- The files that it fails to parse. -/
  failing : List String := []
  /-- The files in which it finds errors. -/
  withErrors : List String := []
deriving DecidableEq, Repr

/-- Keeps the call, and makes a file without entities. -/
def StandIn.parse (standIn : StandIn) (path : PathArgument) (config : AnyConfig) :
    Work Session EntityId := do
  let name := path.printed
  Session.modifyWorld fun world =>
    { world with standInCalls := world.standInCalls ++ [(name, config.flags)] }
  if standIn.crashing.contains name then Work.fault .parserCrashed
  if standIn.failing.contains name then
    Work.fail (.parsing (.stated ("fatal error while parsing '" ++ name ++ "'") (some name)))
  let (root, graph) := (← get).graph.createFile name { hadErrors := standIn.withErrors.contains name }
  modify fun session => { session with graph, index := session.index.registerFile graph root }
  return root

namespace FrontEnd

/-- The parser that works with libclang. -/
def library : FrontEnd :=
  { className := "LibclangParser", usesLibrary := true, parse := Parser.parse }

def ofStandIn (standIn : StandIn) : FrontEnd :=
  { className := standIn.className, usesLibrary := standIn.usesLibrary, parse := standIn.parse }

end FrontEnd

end UnitLift
