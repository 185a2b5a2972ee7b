import UnitLift.Proofs.Session

namespace UnitLift

open Work

/-- The operation does not look at the defaults and the databases of a session, and leaves them as they
are. -/
def Indifferent {α : Type} (work : Work Session α) : Prop :=
  ∀ stored, Commutes (Session.withStored stored) work

namespace Indifferent

variable {α β : Type} {work : Work Session α}

protected theorem pure (value : α) : Indifferent (pure value : Work Session α) :=
  fun _ => .pure value

theorem throw (stop : Stop) : Indifferent (throw stop : Work Session α) := fun _ => .throw stop

theorem ofFault (result : Except Fault α) : Indifferent (ofFault result : Work Session α) :=
  fun _ => .ofFault result

theorem ofExcept (result : Except Stop α) : Indifferent (Work.ofExcept result : Work Session α) :=
  fun _ => .ofExcept result

protected theorem bind {next : α → Work Session β} (first : Indifferent work)
    (second : ∀ value, Indifferent (next value)) : Indifferent (work >>= next) :=
  fun stored => (first stored).bind fun value => second value stored

protected theorem ite {condition : Prop} [Decidable condition] {other : Work Session α}
    (first : Indifferent work) (second : Indifferent other) :
    Indifferent (if condition then work else other) :=
  fun stored => .ite (first stored) (second stored)

theorem outcome (indifferent : Indifferent work) : Indifferent (outcome work) :=
  fun stored => (indifferent stored).outcome

theorem keeps_stored (indifferent : Indifferent work) : Keeps Session.stored work :=
  fun session => congrArg (·.2.stored) (indifferent session.stored session)

/-- Nor does it look at what the databases were asked. -/
theorem respects_unqueried (indifferent : Indifferent work) :
    Respects Session.unqueried work := by
  apply Commutes.respects
  intro session
  have by_stored (session : Session) : session.unqueried =
      session.withStored (session.stored.1, session.stored.2.map ({ · with asked := [] })) := rfl
  rw [by_stored, by_stored, indifferent.keeps_stored session]
  exact indifferent _ session

end Indifferent

namespace Session

theorem indifferent_log (level : Level) (channel : Channel) (message : String) :
    Indifferent (log level channel message) := fun _ _ => rfl

theorem indifferent_logs (level : Level) (channel : Channel) (message : String → String)
    (texts : List String) :
    Indifferent (texts.forM fun text => log level channel (message text)) := by
  induction texts with
  | nil => exact .pure ()
  | cons text rest ih => exact (indifferent_log level channel (message text)).bind fun _ => ih

theorem indifferent_report (source : String) (diagnostic : Diagnostic) :
    Indifferent (report source diagnostic) := fun _ _ => rfl

theorem indifferent_modifyWorld (change : World → World) : Indifferent (modifyWorld change) :=
  fun _ _ => rfl

theorem indifferent_modifyParser (change : ParserStatus → ParserStatus) :
    Indifferent (modifyParser change) := fun _ _ => rfl

theorem indifferent_enter (stage : Stage) : Indifferent (enter stage) := fun _ _ => rfl

theorem indifferent_absolutePath (path : String) : Indifferent (absolutePath path) := fun _ _ => rfl

end Session

end UnitLift
