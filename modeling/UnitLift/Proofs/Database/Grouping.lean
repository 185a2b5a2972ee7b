import Mathlib.Data.List.Induction
import UnitLift.Database.Loading
import UnitLift.Proofs.Database.Lookup

/-! Commands grouped by file. No command is lost or counted twice: the files come in the order in which
they first come up, and the commands for each of them in the order in which they are recorded. -/

namespace UnitLift

/-- A recorded command without its file. -/
def RecordedCommand.command (recorded : RecordedCommand) : Command :=
  ⟨recorded.directory, recorded.arguments⟩

namespace Database

open Work

/-- The recorded files, each where it first comes up. -/
def filesOf (commands : List RecordedCommand) : List String :=
  (commands.map RecordedCommand.key).eraseDups

def commandsOf (commands : List RecordedCommand) (file : String) : List Command :=
  (commands.filter (·.key == file)).map RecordedCommand.command

theorem nodup_filesOf (commands : List RecordedCommand) : (filesOf commands).Nodup :=
  Table.nodup_eraseDups _

theorem mem_filesOf_iff {commands : List RecordedCommand} {file : String} :
    file ∈ filesOf commands ↔ commandsOf commands file ≠ [] := by
  simp [filesOf, commandsOf]

private theorem groupAll_concat (commands : List RecordedCommand) (command : RecordedCommand) :
    groupAll (commands ++ [command]) = group (groupAll commands) command := by
  simp only [groupAll, List.foldl_append, List.foldl_cons, List.foldl_nil]

private theorem commandsOf_concat (commands : List RecordedCommand) (command : RecordedCommand)
    (file : String) :
    commandsOf (commands ++ [command]) file =
      commandsOf commands file ++ if command.key == file then [command.command] else [] := by
  rw [commandsOf, List.filter_append, List.map_append, commandsOf]
  cases same : command.key == file <;> simp [same]

theorem keys_groupAll (commands : List RecordedCommand) :
    (groupAll commands).keys = filesOf commands := by
  induction commands using List.reverseRecOn with
  | nil => rfl
  | append_singleton commands command ih =>
    rw [groupAll_concat, filesOf, List.map_append]
    exact Table.keys_insert_of_eraseDups ih _ _

theorem nodup_keys_groupAll (commands : List RecordedCommand) : (groupAll commands).keys.Nodup :=
  keys_groupAll commands ▸ nodup_filesOf commands

theorem getD_groupAll (commands : List RecordedCommand) (file : String) :
    ((groupAll commands).get? file).getD [] = commandsOf commands file := by
  induction commands using List.reverseRecOn with
  | nil => rfl
  | append_singleton commands command ih =>
    rw [groupAll_concat, group, Table.get?_insert, commandsOf_concat]
    cases same : command.key == file with
    | true =>
      have known : command.key = file := eq_of_beq same
      simp [known, ih, RecordedCommand.command]
    | false => simp [ih]

/-- Values are found again by a part of them: all that have one of these parts, and none twice. -/
private theorem perm_flatMap_filter {α β : Type} [BEq β] [LawfulBEq β] (part : α → β)
    {parts : List β} (nodup : parts.Nodup) (values : List α) :
    (parts.flatMap fun known => values.filter (part · == known)).Perm
      (values.filter fun value => parts.contains (part value)) := by
  induction parts with
  | nil => simp
  | cons first rest ih =>
    obtain ⟨fresh, others⟩ := List.nodup_cons.mp nodup
    let inside := values.filter fun value => (first :: rest).contains (part value)
    have own : inside.filter (part · == first) = values.filter (part · == first) := by
      rw [List.filter_filter]
      apply List.filter_congr
      intro value _
      simp only [List.contains_cons]
      grind
    have further : inside.filter (fun value => !(part value == first)) =
        values.filter fun value => rest.contains (part value) := by
      rw [List.filter_filter]
      apply List.filter_congr
      intro value _
      grind
    have split := List.filter_append_perm (part · == first) inside
    rw [own, further] at split
    rw [List.flatMap_cons]
    exact ((ih others).append_left _).trans split

/-- The commands for all files together are all that are recorded, each once. -/
theorem perm_flatMap_commandsOf (commands : List RecordedCommand) :
    ((filesOf commands).flatMap fun file => (commandsOf commands file).map (file, ·)).Perm
      (commands.map fun recorded => (recorded.key, recorded.command)) := by
  have named (file : String) : (commandsOf commands file).map (file, ·) =
      (commands.filter (·.key == file)).map fun recorded => (recorded.key, recorded.command) := by
    rw [commandsOf, List.map_map]
    apply List.map_congr_left
    intro recorded member
    have same : recorded.key = file := eq_of_beq (List.mem_filter.mp member).2
    rw [same]
    rfl
  have all : commands.filter (fun recorded => (filesOf commands).contains recorded.key) =
      commands := by
    apply List.filter_eq_self.mpr
    intro recorded member
    simpa [filesOf] using ⟨recorded, member, rfl⟩
  have perm := perm_flatMap_filter RecordedCommand.key (nodup_filesOf commands) commands
  rw [all] at perm
  simp only [named, ← List.map_flatMap]
  exact perm.map _

/-- What a database answers that holds these commands. -/
structure Holds (session : Session) (id : DatabaseId) (commands : List RecordedCommand) : Prop where
  files : (Database.files id).runFrom session = (.ok (filesOf commands), session)
  commandsFor (file : String) :
    (Database.commandsFor id (.path file)).runFrom session = (.ok (commandsOf commands file), session)
  hasConfig (file : String) :
    ((Database.hasConfig id (.path file)).runFrom session).1 = .ok (decide (file ∈ filesOf commands))

theorem holds_of_records {session : Session} {id : DatabaseId} {commands : List RecordedCommand}
    (opened : session.records? id = some (groupAll commands)) : Holds session id commands := by
  have given := runFrom_recordsOf_of_open opened
  constructor
  case files =>
    rw [Database.files, runFrom_bind_of_ok given, keys_groupAll]
    rfl
  case commandsFor =>
    intro file
    rw [Database.commandsFor, runFrom_bind_of_ok given, ← getD_groupAll]
    rfl
  case hasConfig =>
    intro file
    obtain ⟨left, ran, -⟩ := runFrom_hasConfig opened file
    have known : (groupAll commands).contains file = decide (file ∈ filesOf commands) := by
      rw [Bool.eq_iff_iff, Table.contains_iff_mem_keys, keys_groupAll, decide_eq_true_iff]
    rw [ran, known]

theorem runFrom_load_of_ok {source : DatabaseSource} {commands : List RecordedCommand}
    (found : source.files.contains source.commandFile = true) (works : source.libraryWorks = true)
    (given : source.commands = .ok commands) (session : Session) :
    ∃ start, (load source).runFrom session = (.ok session.databases.size, start) ∧
      start.records? session.databases.size = some (groupAll commands) ∧
      start.databases.size = session.databases.size + 1 := by
  rw [load, found, works, given]
  refine ⟨_, rfl, ?_, Array.size_push _⟩
  simp [Session.records?]

/-- Loading groups the commands by file. A database that has what was loaded, be it the loaded one or one
that has taken its records, lists every file once and in order, and has the commands for each file in
order. Taken together, these are the commands that were loaded, each once. -/
theorem load_groups {source : DatabaseSource} {commands : List RecordedCommand}
    (found : source.files.contains source.commandFile = true) (works : source.libraryWorks = true)
    (given : source.commands = .ok commands) (session : Session) :
    (∃ id start, (load source).runFrom session = (.ok id, start) ∧ Holds start id commands ∧
      ∀ now owner, now.records? owner = start.records? id → Holds now owner commands) ∧
    (∀ file, file ∈ filesOf commands ↔ commandsOf commands file ≠ []) ∧
    ((filesOf commands).flatMap fun file => (commandsOf commands file).map (file, ·)).Perm
      (commands.map fun recorded => (recorded.key, recorded.command)) := by
  obtain ⟨start, ran, opened, -⟩ := runFrom_load_of_ok found works given session
  refine ⟨⟨_, start, ran, holds_of_records opened, ?_⟩, fun file => mem_filesOf_iff,
    perm_flatMap_commandsOf commands⟩
  intro now owner same
  exact holds_of_records (same.trans opened)

/-- A database with two commands for one file, of which one is relative. -/
def sampleSource : DatabaseSource where
  directory := "/build"
  files := ["/build/compile_commands.json"]
  libraryWorks := true
  commands := .ok [⟨"/src", "b.cpp", ["clang++", "b.cpp"]⟩, ⟨"/src", "/src/a.cpp", ["clang++"]⟩,
    ⟨"/", "/src/b.cpp", ["clang++", "-DB", "/src/b.cpp"]⟩]

theorem load_groups_sample :
    ∃ start, (load sampleSource).runFrom { defaults := .sample } = (.ok 0, start) ∧
      (files 0).runFrom start = (.ok ["/src/b.cpp", "/src/a.cpp"], start) ∧
      (commandsFor 0 (.path "/src/b.cpp")).runFrom start =
        (.ok [⟨"/src", ["clang++", "b.cpp"]⟩, ⟨"/", ["clang++", "-DB", "/src/b.cpp"]⟩], start) ∧
      (commandsFor 0 (.path "b.cpp")).runFrom start = (.ok [], start) ∧
      ((hasConfig 0 (.path "b.cpp")).runFrom start).1 = .ok false := by
  have found : sampleSource.files.contains sampleSource.commandFile = true := by decide
  obtain ⟨⟨id, start, ran, holds, -⟩, -, -⟩ := load_groups found rfl rfl { defaults := .sample }
  cases ran.symm.trans rfl
  exact ⟨_, ran, holds.files, holds.commandsFor "/src/b.cpp", holds.commandsFor "b.cpp",
    holds.hasConfig "b.cpp"⟩

end Database

end UnitLift
