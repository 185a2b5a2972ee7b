import UnitLift.Proofs.Work
import UnitLift.Session

namespace UnitLift.Session

open Work

variable {τ : Type}

@[simp] theorem runFrom_modifyParser (change : ParserStatus → ParserStatus) (session : Session) :
    (modifyParser change).runFrom session =
      (.ok ⟨⟩, { session with parser := change session.parser }) := rfl

@[simp] theorem runFrom_enter (stage : Stage) (session : Session) :
    (enter stage).runFrom session =
      (.ok ⟨⟩, { session with parser := { session.parser with stage } }) := rfl

@[simp] theorem runFrom_absolutePath (path : String) (session : Session) :
    (absolutePath path).runFrom session =
      (.ok (Path.absolute session.world.currentDirectory path), session) := rfl

/-- A session without what was said: the journal and the sink. -/
def unsaid (session : Session) : Session := { session with journal := {}, sink := .recording }

/-- A session without what child processes do: what is said about them, the scripts they follow,
their launches, and what they do to the parser while it waits for them. -/
def unlaunched (session : Session) : Session :=
  { session.unsaid with
    world := { session.world with children := [], launches := [] }
    parser := { session.parser with running := none, closed := false } }

/-- A session without what child processes do and what is written to files. -/
def unwritten (session : Session) : Session :=
  { session.unlaunched with
    world := { session.unlaunched.world with files := .empty, written := [] } }

/-- A session without what the library is asked and answers, and without what is said. -/
def unasked (session : Session) : Session :=
  { session.unsaid with world := { session.world with units := [], requests := [] } }

def stored (session : Session) : BuildDefaults × Array Database :=
  (session.defaults, session.databases)

def withStored (stored : BuildDefaults × Array Database) (session : Session) : Session :=
  { session with defaults := stored.1, databases := stored.2 }

/-- A session without what its databases were asked. -/
def unqueried (session : Session) : Session :=
  { session with databases := session.databases.map ({ · with asked := [] }) }

theorem world_of_unsaid {before after : Session} (same : after.unsaid = before.unsaid) :
    after.world = before.world := by
  change after.unsaid.world = before.unsaid.world
  rw [same]

theorem parser_of_unsaid {before after : Session} (same : after.unsaid = before.unsaid) :
    after.parser = before.parser := by
  change after.unsaid.parser = before.unsaid.parser
  rw [same]

theorem unlaunched_of_unsaid {before after : Session} (same : after.unsaid = before.unsaid) :
    after.unlaunched = before.unlaunched := by
  change after.unsaid.unlaunched = before.unsaid.unlaunched
  rw [same]

theorem unasked_of_unsaid {before after : Session} (same : after.unsaid = before.unsaid) :
    after.unasked = before.unasked := by
  change after.unsaid.unasked = before.unsaid.unasked
  rw [same]

theorem passes_log (level : Level) (channel : Channel) (message : String) :
    Passes unsaid (log level channel message) := .modify fun _ => rfl

theorem passes_logs (level : Level) (channel : Channel) (message : String → String)
    (texts : List String) :
    Passes unsaid (texts.forM fun text => log level channel (message text)) :=
  .forM (fun text => passes_log level channel (message text)) texts

theorem passes_report (source : String) (diagnostic : Diagnostic) :
    Passes unsaid (report source diagnostic) := .modify fun _ => rfl

end UnitLift.Session
