import UnitLift.Proofs.Entity.Planting
import UnitLift.Proofs.Parse.Atomicity
import UnitLift.Proofs.Parse.Reuse

namespace UnitLift

open Work

namespace EntityGraph

variable {graph grown : EntityGraph}

def name? (graph : EntityGraph) (id : EntityId) : Option String := (graph.get? id).map (·.name)

theorem lt_size_of_name? {id : EntityId} {name : String} (named : graph.name? id = some name) :
    id < graph.entities.size := by
  obtain ⟨entity, found, -⟩ := Option.map_eq_some_iff.mp named
  exact (Array.getElem?_eq_some_iff.mp found).1

/-- Entities that get children keep their names. -/
theorem GrowsTo.name?_eq {parent : EntityId} {children : List EntityId} {count : Nat}
    (grows : graph.GrowsTo grown parent children count) {id : EntityId}
    (known : id < graph.entities.size) : grown.name? id = graph.name? id := by
  by_cases same : id = parent
  · subst same
    rw [name?, grows.parent, Option.map_map]
    rfl
  · rw [name?, grows.others id known same, name?]

theorem name?_createFile (graph : EntityGraph) (path : String) (facts : FileFacts) (id : EntityId) :
    (graph.createFile path facts).2.name? id =
      if id = graph.entities.size then some path else graph.name? id := by
  rw [name?, get?, createFile, create, Array.getElem?_push]
  split
  · rfl
  · rfl

end EntityGraph

namespace EntityIndex

variable {graph : EntityGraph} {index : EntityIndex}

theorem files_register (graph : EntityGraph) (index : EntityIndex) (id : EntityId) :
    (index.register graph id).files = index.files := by
  rw [register]
  split
  · rfl
  · split
    · rfl
    · split
      · rfl
      · rfl

theorem files_registerAll (graph : EntityGraph) (index : EntityIndex) (ids : List EntityId) :
    (index.registerAll graph ids).files = index.files := by
  rw [registerAll]
  induction ids generalizing index with
  | nil => rfl
  | cons id rest ih => rw [List.foldl_cons, ih, files_register]

theorem files_registerFile {id : EntityId} {name : String} (named : graph.name? id = some name) :
    (index.registerFile graph id).files = index.files.insert name id := by
  obtain ⟨root, found, rfl⟩ := Option.map_eq_some_iff.mp named
  rw [registerFile, found]

end EntityIndex

namespace Session

variable {before between after : Session}

/-- No file has been registered since, and no entity has lost its name. -/
structure Continues (before after : Session) : Prop where
  files : after.index.files = before.index.files
  names : ∀ id name, before.graph.name? id = some name → after.graph.name? id = some name

/-- A root has been registered since under its name, and no entity has lost its name. -/
structure Registers (before after : Session) (root : EntityId) (name : String) : Prop where
  named : after.graph.name? root = some name
  files : after.index.files = before.index.files.insert name root
  names : ∀ id name, before.graph.name? id = some name → after.graph.name? id = some name

theorem Continues.of_eq (graph : after.graph = before.graph) (index : after.index = before.index) :
    Continues before after where
  files := by rw [index]
  names := by
    rw [graph]
    exact fun _ _ named => named

theorem Continues.trans (first : Continues before between) (second : Continues between after) :
    Continues before after where
  files := second.files.trans first.files
  names id name named := second.names id name (first.names id name named)

theorem Registers.of_continues {root : EntityId} {name : String}
    (continues : Continues before between) (registers : Registers between after root name) :
    Registers before after root name where
  named := registers.named
  files := by rw [registers.files, continues.files]
  names id name named := registers.names id name (continues.names id name named)

/-- What a call on a parser leaves of the files in the index, which hangs on how it ends. -/
def Files (before after : Session) : Except Stop EntityId → Prop
  | .ok root => ∃ name, Registers before after root name
  | .error _ => Continues before after

theorem Files.of_continues {result : Except Stop EntityId} (continues : Continues before between)
    (files : between.Files after result) : before.Files after result := by
  cases result with
  | error stop => exact continues.trans files
  | ok root =>
    obtain ⟨name, registers⟩ := files
    exact ⟨name, .of_continues continues registers⟩

end Session

/-- However the operation ends, it registers no file and takes no entity its name. -/
def Continuing {α : Type} (work : Work Session α) : Prop :=
  ∀ session : Session, session.Continues (work.runFrom session).2

/-- However the operation ends, it has registered the root that it gives, and no other file. -/
def Registering (work : Work Session EntityId) : Prop :=
  ∀ session : Session, session.Files (work.runFrom session).2 (work.runFrom session).1

theorem Registering.bind {α : Type} {work : Work Session α} {next : α → Work Session EntityId}
    (first : Continuing work) (second : ∀ value, Registering (next value)) :
    Registering (work >>= next) := by
  intro session
  have continues := first session
  rcases ran : work.runFrom session with ⟨stop | value, left⟩
  · rw [ran] at continues
    rw [runFrom_bind_of_error ran]
    exact continues
  · rw [ran] at continues
    rw [runFrom_bind_of_ok ran]
    exact .of_continues continues (second value left)

namespace Parser

variable {session left : Session} {path : String} {view : ConfigView}

/-- The root of a file has the name of the file, and older entities keep theirs. -/
theorem names_of_grown {facts : FileFacts} {outlines : List Outline} {graph final : EntityGraph}
    {planted : List EntityId} (grew : grown graph path facts outlines = (planted, final)) :
    final.name? graph.entities.size = some path ∧
      ∀ id name, graph.name? id = some name → final.name? id = some name := by
  have size : (graph.createFile path facts).2.entities.size = graph.entities.size + 1 :=
    Array.size_push _
  obtain ⟨other, plants, grows, -⟩ := Outline.plantAll_eq graph.entities.size outlines
    (graph.createFile path facts).2 (by omega)
  cases plants.symm.trans grew
  -- Of the entities up to the root only the root changes, and it only gets children.
  have keeps (id : EntityId) (old : id ≤ graph.entities.size) :
      final.name? id = (graph.createFile path facts).2.name? id := by
    refine grows.name?_eq ?_
    rw [size]
    exact Nat.lt_succ_of_le old
  constructor
  · rw [keeps _ (Nat.le_refl _), EntityGraph.name?_createFile, if_pos rfl]
  · intro id name named
    have old := EntityGraph.lt_size_of_name? named
    rw [keeps id (Nat.le_of_lt old), EntityGraph.name?_createFile, if_neg (Nat.ne_of_lt old), named]

private theorem continuing_prepare : Continuing (prepare path view) := by
  intro session
  have kept := unwritten_of_prepare (Prod.eta ((prepare path view).runFrom session)).symm
  exact .of_eq (congrArg (·.graph) kept) (congrArg (·.index) kept)

theorem FileRun.files {result : Except Stop EntityId}
    (run : FileRun path view session result left) : session.Files left result := by
  cases result with
  | error stop =>
    obtain ⟨index, graph⟩ := run.index_of_error
    exact .of_eq graph index
  | ok root =>
    cases run with
    | lifted _ _ _ grew _ graph index =>
      obtain ⟨named, names⟩ := names_of_grown grew
      rw [← graph] at named names index
      refine ⟨path, named, ?_, names⟩
      rw [index, EntityIndex.files_registerFile named, EntityIndex.files_registerAll]

private theorem files_settle {result : Except Stop EntityId} (files : session.Files left result) :
    session.Files (settle (result, left)).2 (settle (result, left)).1 := by
  rcases result with (failure | fault) | root
  · exact ⟨files.files, files.names⟩
  · exact ⟨files.files, files.names⟩
  · obtain ⟨name, registers⟩ := files
    exact ⟨name, registers.named, registers.files, registers.names⟩

/-- A session in which a file has been lifted, but not registered. -/
def unregistered (path : String) (facts : FileFacts) (outlines : List Outline) (session : Session) :
    Session :=
  let (planted, graph) := grown session.graph path facts outlines
  { session with graph, index := session.index.registerAll graph planted }

theorem continues_unregistered (path : String) (facts : FileFacts) (outlines : List Outline)
    (session : Session) : session.Continues (unregistered path facts outlines session) where
  files := EntityIndex.files_registerAll _ _ _
  names := (names_of_grown rfl).2

theorem registering_callWith {parseFile : String → ConfigView → Work Session EntityId}
    (registers : ∀ path view, Registering (parseFile path view)) (path : PathArgument)
    (config : AnyConfig) : Registering (callWith parseFile path config) := by
  intro session
  obtain ⟨_, ran, calling⟩ := exists_calling parseFile session path config
  rw [ran]
  cases calling with
  | refused => exact .of_eq rfl rfl
  | pathless => exact .of_eq rfl rfl
  | settled =>
    have starts : session.Continues (begun session) := .of_eq rfl rfl
    exact files_settle (.of_continues starts (registers _ _ _))

namespace Course

/-- Where the library breaks down, entities may have been registered, but no file. -/
def IsQuiet : Course → Prop
  | answers => True
  | breaksDown _ done =>
    ∀ preprocessed session, Session.Continues session (done preprocessed session)

theorem IsQuiet.registering {course : Course} (quiet : course.IsQuiet) (path : PathArgument)
    (config : AnyConfig) : Registering (course.call path config) := by
  apply registering_callWith
  intro path view session
  cases course with
  | answers => exact (fileRun_parseFile path view session).files
  | breaksDown stage done =>
    refine Registering.bind continuing_prepare (fun preprocessed => ?_) session
    refine .bind (fun _ => .of_eq rfl rfl) fun _ session => ?_
    rw [runFrom_bind_of_ok (runFrom_get session)]
    cases closed : session.parser.closed with
    | true => exact .of_eq rfl rfl
    | false =>
      have continues := quiet preprocessed session
      exact ⟨continues.files, continues.names⟩

end Course

end Parser

end UnitLift
