import UnitLift.Proofs.Batch.Turns
import UnitLift.Proofs.Database.Lookup
import UnitLift.Proofs.Parse.Registering
import UnitLift.Proofs.Table

/-! The files of a batch and the files in its index. However the calls on a batch end, the index has the
name of each parsed file once, and under it the root of the last file of that name. -/

namespace UnitLift

/-- The parser that works with libclang. The library may break down in a call on it. -/
structure FrontEnd.IsLibrary (frontEnd : FrontEnd) : Prop where
  usesLibrary : frontEnd.usesLibrary = true
  parse : ∀ path config, ∃ course : Parser.Course,
    course.IsQuiet ∧ frontEnd.parse path config = course.call path config

theorem FrontEnd.library_isLibrary : library.IsLibrary where
  usesLibrary := rfl
  parse _ _ := ⟨.answers, trivial, rfl⟩

theorem FrontEnd.IsLibrary.registering {frontEnd : FrontEnd} (library : frontEnd.IsLibrary)
    (path : PathArgument) (config : AnyConfig) : Registering (frontEnd.parse path config) := by
  obtain ⟨course, quiet, same⟩ := library.parse path config
  rw [same]
  exact quiet.registering path config

namespace Batch

open Work

variable {frontEnd : FrontEnd} {getConfig : PathArgument → Work Session AnyConfig}
  {path : PathArgument} {id : DatabaseId} {batch before after : Batch} {left : Session}
  {entries : List (String × EntityId)}

/-- The files of a batch are what was written into its index, in order. -/
structure Filed (batch : Batch) (entries : List (String × EntityId)) : Prop where
  files : batch.files = entries.map (·.2)
  names : ∀ entry ∈ entries, batch.session.graph.name? entry.2 = some entry.1
  index : batch.session.index.files = .ofList entries

def IsFiled (batch : Batch) : Prop := ∃ entries, batch.Filed entries

theorem Filed.of_continues (filed : before.Filed entries) (files : after.files = before.files)
    (continues : before.session.Continues after.session) : after.Filed entries where
  files := files.trans filed.files
  names entry member := continues.names _ _ (filed.names entry member)
  index := continues.files.trans filed.index

theorem Filed.of_registers {root : EntityId} {name : String} (filed : before.Filed entries)
    (files : after.files = before.files ++ [root])
    (registers : before.session.Registers after.session root name) :
    after.Filed (entries ++ [(name, root)]) where
  files := by rw [files, filed.files, List.map_append, List.map_singleton]
  names entry member := by
    rcases List.mem_append.mp member with old | new
    · exact registers.names _ _ (filed.names entry old)
    · rw [List.mem_singleton.mp new]
      exact registers.named
  index := by rw [registers.files, filed.index, Table.ofList_concat]

theorem IsFiled.of_continues (filed : before.IsFiled) (files : after.files = before.files)
    (continues : before.session.Continues after.session) : after.IsFiled := by
  obtain ⟨entries, filed⟩ := filed
  exact ⟨entries, filed.of_continues files continues⟩

/-- A failure that is collected is only noted. -/
private theorem IsFiled.dealWith (filed : batch.IsFiled) (continues : batch.session.Continues left)
    (path : PathArgument) (stop : Stop) : (batch.dealWith path stop left).2.IsFiled := by
  have noted {failure : Failure} : batch.session.Continues (noted path.printed failure left) :=
    ⟨continues.files, continues.names⟩
  -- Neither policy takes a root from the batch or gives it one.
  rcases batch with ⟨session, collects | stops, files, errors⟩
  · cases stop with
    | failure failure => exact filed.of_continues rfl noted
    | fault fault => exact filed.of_continues rfl continues
  · cases stop with
    | failure failure => exact filed.of_continues rfl continues
    | fault fault => exact filed.of_continues rfl continues

theorem IsFiled.settle {turn : Turn} (filed : batch.IsFiled)
    (files : batch.session.Files left turn.outcome) : (batch.settle turn left).2.IsFiled := by
  rcases turn with ⟨path, config, stop | root⟩
  · exact filed.dealWith files path stop
  · obtain ⟨entries, filed⟩ := filed
    obtain ⟨name, registers⟩ := files
    exact ⟨_, filed.of_registers rfl registers⟩

theorem Turn.files_take (registering : ∀ path config, Registering (frontEnd.parse path config))
    (continuing : ∀ path, Continuing (getConfig path)) (path : PathArgument) (session : Session) :
    session.Files (take frontEnd getConfig path session).2
      (take frontEnd getConfig path session).1.outcome := by
  have continues := continuing path session
  rcases found : (getConfig path).runFrom session with ⟨stop | config, between⟩
  · rw [found] at continues
    rw [take_of_error found]
    exact continues
  · rw [found] at continues
    rw [take_of_ok found rfl]
    exact .of_continues continues (registering path config between)

theorem preserves_parse {config : AnyConfig} (registering : Registering (frontEnd.parse path config)) :
    Preserves IsFiled (parse frontEnd path config) := by
  intro batch filed
  rw [runFrom_parse rfl]
  exact filed.settle (registering batch.session)

theorem preserves_parseFilesWith
    (registering : ∀ path config, Registering (frontEnd.parse path config))
    (continuing : ∀ path, Continuing (getConfig path)) (paths : List PathArgument) :
    Preserves IsFiled (parseFilesWith frontEnd getConfig paths) := by
  induction paths with
  | nil => exact .pure _
  | cons path rest ih =>
    have first : Preserves IsFiled (parseConfigured frontEnd getConfig path) := by
      intro batch filed
      rw [runFrom_parseConfigured rfl]
      exact filed.settle (Turn.files_take registering continuing path batch.session)
    exact first.bind fun _ => ih.bind fun _ => .pure _

private theorem preserves_onSession {α : Type} {work : Work Session α} (continuing : Continuing work) :
    Preserves IsFiled (onSession work) :=
  fun batch filed => filed.of_continues rfl (continuing batch.session)

private theorem continuing_of_unsearched {α : Type} {work : Work Session α}
    (keeps : Keeps Session.unsearched work) : Continuing work := by
  intro session
  have same := keeps session
  exact .of_eq (congrArg (·.graph) same) (congrArg (·.index) same)

private theorem preserves_requireLibrary (frontEnd : FrontEnd) :
    Preserves IsFiled (requireLibrary frontEnd) :=
  .ite (fun _ filed => filed) (.pure _)

theorem preserves_parseFiles (registering : ∀ path config, Registering (frontEnd.parse path config))
    (id : DatabaseId) (paths : List PathArgument) :
    Preserves IsFiled (parseFiles frontEnd id paths) := by
  have found (path : PathArgument) : Keeps Session.unsearched (foundConfig id path) := by
    apply (Database.keeps_findConfig id path).bind
    intro config?
    cases config? with
    | none => exact .throw _
    | some config => exact .pure _
  apply (preserves_requireLibrary frontEnd).bind
  intro _
  exact preserves_parseFilesWith registering (fun path => continuing_of_unsearched (found path)) paths

theorem preserves_parseDatabase
    (registering : ∀ path config, Registering (frontEnd.parse path config)) (id : DatabaseId) :
    Preserves IsFiled (parseDatabase frontEnd id) := by
  have recorded (path : PathArgument) : Keeps Session.unsearched (recordedConfig id path) :=
    (Database.keeps_configOf id path).bind fun _ => .pure _
  have named : Keeps Session.unsearched (Database.files id) :=
    (Database.keeps_recordsOf _ id).bind fun _ => .pure _
  apply (preserves_requireLibrary frontEnd).bind
  intro _
  apply (preserves_onSession (continuing_of_unsearched named)).bind
  intro names
  apply (preserves_parseFilesWith registering
    (fun path => continuing_of_unsearched (recorded path)) (names.map .path)).bind
  intro roots
  have said : Continuing (Session.log .info .batch
      ("Parsed " ++ toString roots.length ++ " files from compilation database")) :=
    fun _ => .of_eq rfl rfl
  exact (preserves_onSession said).bind fun _ => .pure _

/-- Batches with an index of their own, and what they come to by calls, however these end. Between calls
all may change but for the files: nobody else registers any, and no entity loses its name. -/
inductive Reached : Batch → Prop
  | new {batch : Batch} (unused : batch.files = []) (own : batch.session.index.files = .empty) :
      Reached batch
  | aside {before after : Batch} (reached : Reached before) (files : after.files = before.files)
      (continues : before.session.Continues after.session) : Reached after
  | parse {before : Batch} (reached : Reached before) {frontEnd : FrontEnd}
      (library : frontEnd.IsLibrary) (path : PathArgument) (config : AnyConfig) :
      Reached ((Batch.parse frontEnd path config).runFrom before).2
  | parseFilesWith {before : Batch} (reached : Reached before) {frontEnd : FrontEnd}
      (library : frontEnd.IsLibrary) {getConfig : PathArgument → Work Session AnyConfig}
      (continuing : ∀ path, Continuing (getConfig path)) (paths : List PathArgument) :
      Reached ((Batch.parseFilesWith frontEnd getConfig paths).runFrom before).2
  | parseFiles {before : Batch} (reached : Reached before) {frontEnd : FrontEnd}
      (library : frontEnd.IsLibrary) (id : DatabaseId) (paths : List PathArgument) :
      Reached ((Batch.parseFiles frontEnd id paths).runFrom before).2
  | parseDatabase {before : Batch} (reached : Reached before) {frontEnd : FrontEnd}
      (library : frontEnd.IsLibrary) (id : DatabaseId) :
      Reached ((Batch.parseDatabase frontEnd id).runFrom before).2

/-- How failures are dealt with may change between calls. -/
theorem Reached.of_policy (reached : Reached batch) (stopOnError : Bool) :
    Reached { batch with stopOnError } :=
  reached.aside rfl (.of_eq rfl rfl)

theorem Reached.isFiled (reached : Reached batch) : batch.IsFiled := by
  -- A call that ends early has settled whole turns, so what it leaves is filed as well.
  induction reached with
  | new unused own => exact ⟨[], unused, nofun, own⟩
  | aside _ files continues ih => exact ih.of_continues files continues
  | parse _ library path config ih => exact preserves_parse (library.registering path config) _ ih
  | parseFilesWith _ library continuing paths ih =>
    exact preserves_parseFilesWith library.registering continuing paths _ ih
  | parseFiles _ library id paths ih => exact preserves_parseFiles library.registering id paths _ ih
  | parseDatabase _ library id ih => exact preserves_parseDatabase library.registering id _ ih

/-- The roots of the files of a name, in the order in which they were parsed. -/
def rootsOf (batch : Batch) (name : String) : List EntityId :=
  batch.files.filter (batch.session.graph.name? · == some name)

theorem name?_of_mem_rootsOf {name : String} {root : EntityId} (member : root ∈ batch.rootsOf name) :
    batch.session.graph.name? root = some name :=
  beq_iff_eq.mp (List.mem_filter.mp member).2

namespace Filed

theorem map_files (filed : batch.Filed entries) :
    batch.files.map batch.session.graph.name? = (entries.map (·.1)).map some := by
  rw [filed.files, List.map_map, List.map_map]
  exact List.map_congr_left filed.names

theorem rootsOf_eq (filed : batch.Filed entries) (name : String) :
    batch.rootsOf name = (entries.filter (·.1 == name)).map (·.2) := by
  rw [rootsOf, filed.files, List.filter_map]
  congr 1
  apply List.filter_congr
  intro entry member
  simp [filed.names entry member]

theorem rootsOf_eq_nil_iff (filed : batch.Filed entries) {name : String} :
    batch.rootsOf name = [] ↔ name ∉ entries.map (·.1) := by
  rw [filed.rootsOf_eq, List.map_eq_nil_iff, List.filter_eq_nil_iff]
  grind

theorem lookupFile_eq (filed : batch.Filed entries) (name : String) :
    batch.session.index.lookupFile name = (batch.rootsOf name).getLast? := by
  rw [EntityIndex.lookupFile, filed.index, Table.get?_ofList, filed.rootsOf_eq, List.getLast?_map]

theorem lookupFile_of_mem (filed : batch.Filed entries) {name : String}
    (member : name ∈ entries.map (·.1)) :
    ∃ root, (batch.rootsOf name).getLast? = some root ∧
      batch.session.index.lookupFile name = some root := by
  have named : batch.rootsOf name ≠ [] := fun none => filed.rootsOf_eq_nil_iff.mp none member
  have last := List.getLast?_eq_some_getLast named
  exact ⟨_, last, (filed.lookupFile_eq name).trans last⟩

theorem lookupFile_of_not_mem (filed : batch.Filed entries) {path : String}
    (absent : path ∉ entries.map (·.1)) : batch.session.index.lookupFile path = none := by
  rw [filed.lookupFile_eq, filed.rootsOf_eq_nil_iff.mpr absent, List.getLast?_nil]

theorem map_values (filed : batch.Filed entries) :
    batch.session.index.files.values.map some =
      (entries.map (·.1)).eraseDups.map batch.session.index.lookupFile := by
  have keys : batch.session.index.files.keys = (entries.map (·.1)).eraseDups := by
    rw [filed.index, Table.keys_ofList]
  have nodup : batch.session.index.files.keys.Nodup := keys ▸ Table.nodup_eraseDups _
  rw [← Table.map_get?_keys nodup, keys]
  rfl

/-- What is listed in the index has the names of the parsed files, each where it first comes up. -/
theorem names_values (filed : batch.Filed entries) :
    batch.session.index.files.values.map batch.session.graph.name? =
      (entries.map (·.1)).eraseDups.map some := by
  let graph := batch.session.graph
  let index := batch.session.index
  have own : ∀ name ∈ (entries.map (·.1)).eraseDups,
      (index.lookupFile name).bind graph.name? = some name := by
    intro name member
    obtain ⟨root, last, found⟩ := filed.lookupFile_of_mem (List.mem_eraseDups.mp member)
    rw [found]
    exact name?_of_mem_rootsOf (List.mem_of_getLast? last)
  calc
    index.files.values.map graph.name?
      = (index.files.values.map some).map (·.bind graph.name?) := by rw [List.map_map]; rfl
    _ = ((entries.map (·.1)).eraseDups.map index.lookupFile).map (·.bind graph.name?) := by
      rw [filed.map_values]
    _ = (entries.map (·.1)).eraseDups.map some := by
      rw [List.map_map]
      exact List.map_congr_left own

end Filed

/-- The files of a batch and those in its index agree. -/
theorem files_of_reached (reached : Reached batch) :
    let graph := batch.session.graph
    let index := batch.session.index
    ∃ names : List String,
      batch.files.map graph.name? = names.map some ∧
      index.files.values.map graph.name? = names.eraseDups.map some ∧
      index.files.values.map some = names.eraseDups.map index.lookupFile ∧
      (∀ name ∈ names, ∃ root, (batch.rootsOf name).getLast? = some root ∧
        index.lookupFile name = some root) ∧
      ∀ path ∉ names, index.lookupFile path = none := by
  intro graph index
  obtain ⟨entries, filed⟩ := reached.isFiled
  exact ⟨entries.map (·.1), filed.map_files, filed.names_values, filed.map_values,
    fun _ member => filed.lookupFile_of_mem member, fun _ absent => filed.lookupFile_of_not_mem absent⟩

/-- A batch that collects failures, with an index of its own. The second and the fourth file cannot be
parsed. -/
def filingSample : Batch where
  session :=
    { defaults := .sample
      world :=
        { currentDirectory := "/src"
          units := [.unit [] [], .unit [] [⟨4, "fatal", {}⟩], .unit [] [⟨3, "error", {}⟩],
            .unit [] [⟨4, "fatal", {}⟩], .unit [] []] } }
  stopOnError := false

/-- The parser that works with libclang, where the library breaks down after it has shown a function. -/
def breakingSample : FrontEnd :=
  let outline : Outline := .node
    { name := "f", kind := "FUNCTION_DECL", extent := ⟨"/src/d.cpp", 1, 1, 1, 1⟩, usr := "f" } []
  { FrontEnd.library with
    parse :=
      (Parser.Course.breaksDown .lifting fun _ => Parser.unregistered "/src/d.cpp" {} [outline]).call }

theorem breakingSample_isLibrary : breakingSample.IsLibrary where
  usesLibrary := rfl
  parse _ _ := by
    refine ⟨_, ?_, rfl⟩
    intro preprocessed session
    exact Parser.continues_unregistered _ _ _ _

theorem files_of_reached_sample :
    let config : AnyConfig := .library (.blank BuildDefaults.sample.toolchain)
    let paths : List PathArgument := [.path "a.cpp", .path "b.cpp", .path "c.cpp"]
    let parsed := ((parseFilesWith .library (fun _ => pure config) paths).runFrom filingSample).2
    let stopped := (parse .library (.path "b.cpp") config).runFrom { parsed with stopOnError := true }
    let broken := (parse breakingSample (.path "d.cpp") config).runFrom stopped.2
    let left := ((parse .library (.path "a.cpp") config).runFrom broken.2).2
    let index := left.session.index
    stopped.1 = .error (.failure (.parsing (.fatalDiagnostic "/src/b.cpp" "<unknown>" "fatal"))) ∧
      broken.1 = .error (.fault .parserCrashed) ∧ left.files = [0, 1, 4] ∧
      index.files.values.map left.session.graph.name? = [some "/src/a.cpp", some "/src/c.cpp"] ∧
      index.lookupFile "/src/a.cpp" = some 4 ∧ index.lookupFile "/src/b.cpp" = none ∧
      index.lookupFile "/src/d.cpp" = none := by
  intro config paths parsed stopped broken left index
  have library := FrontEnd.library_isLibrary
  have collected : Reached parsed :=
    .parseFilesWith (.new rfl rfl) library (fun _ _ => .of_eq rfl rfl) paths
  have stops : Reached { parsed with stopOnError := true } := collected.of_policy true
  have failed : Reached stopped.2 := stops.parse library (.path "b.cpp") config
  have broke : Reached broken.2 := failed.parse breakingSample_isLibrary (.path "d.cpp") config
  have reached : Reached left := broke.parse library (.path "a.cpp") config
  have named : left.files.map left.session.graph.name? =
      ["/src/a.cpp", "/src/c.cpp", "/src/a.cpp"].map some := by
    decide +kernel
  have roots : left.rootsOf "/src/a.cpp" = [0, 4] := by decide +kernel
  obtain ⟨names, same, listed, -, found, absent⟩ := files_of_reached reached
  obtain rfl := List.map_injective_iff.mpr (fun _ _ => Option.some.inj) (named.symm.trans same)
  obtain ⟨root, last, known⟩ := found "/src/a.cpp" (by decide)
  rw [roots] at last
  cases last
  exact ⟨by decide +kernel, by decide +kernel, by decide +kernel, listed, known,
    absent _ (by decide), absent _ (by decide)⟩

end Batch

end UnitLift
