namespace UnitLift

/-- The levels of journal records that the library itself uses. -/
inductive Level where
  | debug
  | info
  | warning
  | error
  | critical
deriving DecidableEq, Repr

namespace Level

/-- The rank of a level among all numbers that may serve as levels. -/
def rank : Level → Nat
  | debug => 10
  | info => 20
  | warning => 30
  | error => 40
  | critical => 50

def name : Level → String
  | debug => "DEBUG"
  | info => "INFO"
  | warning => "WARNING"
  | error => "ERROR"
  | critical => "CRITICAL"

def ofRank? (rank : Int) : Option Level :=
  [debug, info, warning, error, critical].find? fun level => (level.rank : Int) == rank

end Level

/-- The parts of the library that keep a journal. -/
inductive Channel where
  | settings
  | toolchain
  | compileConfig
  | database
  | lookup
  | preprocessor
  | parser
  | batch
  | diagnostic
deriving DecidableEq, Repr

/-- The name that records of a channel carry. -/
def Channel.name : Channel → String
  | settings => "cxxparse"
  | toolchain => "cxxparse.toolchain"
  | compileConfig => "cxxparse.compile_config"
  | database => "cxxparse.database"
  | lookup => "cxxparse.lookup"
  | preprocessor => "cxxparse.preprocessor"
  | parser => "cxxparse.parser"
  | batch => "cxxparse.batch"
  | diagnostic => "cxxparse.diagnostic"

structure Entry where
  level : Level
  channel : Channel
  message : String
deriving DecidableEq, Repr

/-- The records kept so far, and the least level that is kept. -/
structure Journal where
  threshold : Level := .info
  entries : List Entry := []
deriving DecidableEq, Repr

namespace Journal

/-- Keeps a record unless it is below the threshold. -/
def add (journal : Journal) (entry : Entry) : Journal :=
  if journal.threshold.rank ≤ entry.level.rank then
    { journal with entries := journal.entries ++ [entry] }
  else journal

end Journal

end UnitLift
