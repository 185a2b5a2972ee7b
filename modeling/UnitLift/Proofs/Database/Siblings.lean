import UnitLift.Proofs.Database.Lookup
import UnitLift.Proofs.Path.Stem

namespace UnitLift.Database

open Work

variable {session other : Session} {id : DatabaseId} {records : Table String (List Command)}
  {file sibling : String}

private theorem valid_of_mem {extension : String} (member : extension ∈ candidateExtensions) :
    Path.IsExtension extension.toList := by
  have all : ∀ extension ∈ candidateExtensions, Path.IsExtension extension.toList := by decide
  exact all extension member

private theorem exists_of_mem (member : sibling ∈ candidates file) :
    ∃ extension, Path.IsExtension extension.toList ∧ sibling = Path.stem file ++ extension := by
  obtain ⟨extension, known, rfl⟩ := List.mem_map.mp member
  exact ⟨extension, valid_of_mem known, rfl⟩

theorem nodup_candidates (file : String) : (candidates file).Nodup := by
  apply List.Nodup.map
  · intro first second same
    simpa using same
  · decide

theorem nodup_tried (file : String) : (tried file).Nodup :=
  List.nodup_cons.mpr ⟨by simp, (nodup_candidates file).filter _⟩

theorem directoryPart_of_mem_candidates (member : sibling ∈ candidates file) :
    Path.directoryPart sibling.toList = Path.directoryPart file.toList := by
  obtain ⟨extension, valid, rfl⟩ := exists_of_mem member
  exact Path.directoryPart_stem_append file valid

theorem directoryPart_of_mem_tried {name : String} (member : name ∈ tried file) :
    Path.directoryPart name.toList = Path.directoryPart file.toList := by
  rcases List.mem_cons.mp member with rfl | member
  · rfl
  · exact directoryPart_of_mem_candidates (List.mem_filter.mp member).1

/-- The siblings of a sibling are the siblings of the file, if its name is more than dots. -/
theorem candidates_eq_iff (member : sibling ∈ candidates file) :
    candidates sibling = candidates file ↔ ∃ c ∈ Path.basePart file.toList, c ≠ '.' := by
  obtain ⟨extension, valid, rfl⟩ := exists_of_mem member
  constructor
  · intro same
    by_contra unnamed
    have dots : ∀ c ∈ Path.basePart file.toList, c = '.' := by simpa using unnamed
    have first : Path.stem (Path.stem file ++ extension) ++ ".cpp" = Path.stem file ++ ".cpp" :=
      (List.cons.inj same).1
    rw [Path.stem_stem_append_of_dots dots valid] at first
    have length := congrArg String.length first
    obtain ⟨letters, dotted, -⟩ := valid.exists_letters
    have long : extension.length = letters.length + 1 := by
      rw [← String.length_toList, dotted, List.length_cons]
    simp only [String.length_append] at length
    omega
  · intro named
    rw [candidates, Path.stem_stem_append named valid, candidates]

theorem ne_notConfigured_of_configFrom {defaults : BuildDefaults} {name : String} :
    configFrom records defaults file ≠ .error (.failure (.notConfigured name)) := by
  intro stopped
  rw [configFrom_eq_error_iff] at stopped
  cases choice : defaults.standard with
  | standard chosen | unavailable fault =>
    rw [choice] at stopped
    cases stopped
  | token text =>
    rw [choice, StandardChoice.resolve] at stopped
    split at stopped
    · cases stopped
    · cases stopped

/-- The first name under which a file is recorded serves it, and no name after that is asked for. The names
are those of the file and of its siblings, all of one directory; when none is recorded, all have been asked
for, and there is no configuration, which is no failure. -/
theorem first_recorded_serves (opened : session.records? id = some records) (file : String) :
    (tried file).Nodup ∧
    (∀ name ∈ tried file, Path.directoryPart name.toList = Path.directoryPart file.toList) ∧
    ((∀ name ∈ tried file, records.contains name = false) →
      ∃ left, (findConfig id (.path file)).runFrom session = (.ok none, left) ∧
        left.unsaid = (session.asking id (tried file)).unsaid) ∧
    (∀ before server after, tried file = before ++ server :: after →
      (∀ name ∈ before, records.contains name = false) → records.contains server = true →
      ∃ between result left,
        between.unsaid = (session.asking id (before ++ [server])).unsaid ∧
        (configOf id (.path server)).runFrom between = (result, left) ∧
        (findConfig id (.path file)).runFrom session = (result.map some, left) ∧
        left.unsaid = (session.asking id (before ++ [server, server])).unsaid) ∧
    ∀ name, ((findConfig id (.path file)).runFrom session).1 ≠
      .error (.failure (.notConfigured name)) := by
  refine ⟨nodup_tried file, fun name member => directoryPart_of_mem_tried member,
    runFrom_findConfig_of_unknown opened, ?_, ?_⟩
  · intro before server after split unknown known
    obtain ⟨between, left, asked, lifted, ran, again⟩ :=
      runFrom_findConfig_of_known opened split unknown known
    exact ⟨between, _, left, asked, lifted, ran, again⟩
  · intro name stopped
    obtain ⟨left, ran, -⟩ := runFrom_findConfig opened file
    rw [ran] at stopped
    cases served : serving? records file with
    | none =>
      rw [served] at stopped
      cases stopped
    | some server =>
      rw [served] at stopped
      cases made : configFrom records session.defaults server with
      | ok config =>
        simp only [made] at stopped
        cases stopped
      | error stop =>
        simp only [made] at stopped
        cases stopped
        exact ne_notConfigured_of_configFrom made

/-- A session with a database in which two siblings are recorded. -/
def siblingSample : Session where
  defaults := .sample
  databases := #[{
    directory := "/src"
    records := some ⟨[("/src/a.h", [⟨"/src", ["clang++", "-DHEADER"]⟩]),
      ("/src/a.cc", [⟨"/src", ["clang++", "-DSOURCE"]⟩])]⟩ }]

theorem first_recorded_serves_sample :
    (∃ left, (findConfig 0 (.path "/src/b")).runFrom siblingSample = (.ok none, left) ∧
      left.unsaid = (siblingSample.asking 0 (tried "/src/b")).unsaid) ∧
    ∃ between result left,
      (configOf 0 (.path "/src/a.cc")).runFrom between = (result, left) ∧
      (findConfig 0 (.path "/src/a.hpp")).runFrom siblingSample = (result.map some, left) ∧
      left.unsaid = (siblingSample.asking 0
        ["/src/a.hpp", "/src/a.cpp", "/src/a.cc", "/src/a.cc"]).unsaid := by
  have opened : siblingSample.records? 0 = some _ := rfl
  obtain ⟨-, -, none, -, -⟩ := first_recorded_serves opened "/src/b"
  obtain ⟨-, -, -, first, -⟩ := first_recorded_serves opened "/src/a.hpp"
  obtain ⟨between, result, left, -, lifted, found, asked⟩ :=
    first ["/src/a.hpp", "/src/a.cpp"] "/src/a.cc" ((tried "/src/a.hpp").drop 3)
      (by decide) (by decide) (by decide)
  exact ⟨none (by decide), between, result, left, lifted, found, asked⟩

/-- The lookup of a file comes down to the configuration of a recorded one. -/
def ServedBy (id : DatabaseId) (file server : String) (session : Session)
    (result : Except Stop CompileConfig) : Prop :=
  ∃ between left, between.basis id = session.basis id ∧
    (configOf id (.path server)).runFrom between = (result, left) ∧
    (findConfig id (.path file)).runFrom session = (result.map some, left)

private theorem serving?_of_unknown (unknown : records.contains file = false) :
    serving? records file = (candidates file).find? records.contains := by
  rw [serving?, List.find?_cons_of_neg (by simp [unknown])]

/-- Files that differ in the extension are looked up alike if they are not recorded themselves. Their
siblings are the same but for names that are nothing but dots, which have no extension to lose. -/
theorem siblings_served_alike (member : sibling ∈ candidates file) :
    (candidates sibling = candidates file ↔ ∃ c ∈ Path.basePart file.toList, c ≠ '.') ∧
    ((∃ c ∈ Path.basePart file.toList, c ≠ '.') →
      ∀ (id : DatabaseId) (records : Table String (List Command)) (defaults : BuildDefaults)
        (session other : Session),
      session.basis id = (some records, defaults) → other.basis id = (some records, defaults) →
      records.contains file = false → records.contains sibling = false →
      (((findConfig id (.path file)).runFrom session).1 = .ok none ∧
          ((findConfig id (.path sibling)).runFrom other).1 = .ok none) ∨
        ∃ server result, records.contains server = true ∧
          ServedBy id file server session result ∧ ServedBy id sibling server other result ∧
          ∀ fresh, CompileConfig.fresh defaults = .ok fresh → ∃ config, result = .ok config) := by
  refine ⟨candidates_eq_iff member, ?_⟩
  intro named id records defaults session other basis otherBasis unknown unknownSibling
  have opened : session.records? id = some records := congrArg (·.1) basis
  have otherOpened : other.records? id = some records := congrArg (·.1) otherBasis
  have same : serving? records sibling = serving? records file := by
    rw [serving?_of_unknown unknown, serving?_of_unknown unknownSibling,
      (candidates_eq_iff member).mpr named]
  cases served : serving? records file with
  | none =>
    obtain ⟨left, ran, -⟩ := runFrom_findConfig opened file
    obtain ⟨otherLeft, otherRan, -⟩ := runFrom_findConfig otherOpened sibling
    rw [served] at ran same
    rw [same] at otherRan
    exact .inl ⟨congrArg (·.1) ran, congrArg (·.1) otherRan⟩
  | some server =>
    obtain ⟨between, left, -, kept, lifted, ran, -⟩ := runFrom_findConfig_of_served opened served
    obtain ⟨otherBetween, otherLeft, -, otherKept, otherLifted, otherRan, -⟩ :=
      runFrom_findConfig_of_served otherOpened (same.trans served)
    have own : session.defaults = defaults := congrArg (·.2) basis
    have others : other.defaults = defaults := congrArg (·.2) otherBasis
    rw [own] at lifted ran
    rw [others] at otherLifted otherRan
    refine .inr ⟨server, configFrom records defaults server, contains_of_serving? served,
      ⟨between, left, kept, lifted, ran⟩,
      ⟨otherBetween, otherLeft, otherKept, otherLifted, otherRan⟩, ?_⟩
    intro fresh made
    rw [configFrom, made]
    exact ⟨_, rfl⟩

theorem siblings_served_alike_sample :
    candidates "/src/a.hpp" = candidates "/src/a.inl" ∧
    ∃ server result, ServedBy 0 "/src/a.inl" server siblingSample result ∧
      ServedBy 0 "/src/a.hpp" server siblingSample result ∧ ∃ config, result = .ok config := by
  have member : "/src/a.hpp" ∈ candidates "/src/a.inl" := by decide
  have named : ∃ c ∈ Path.basePart "/src/a.inl".toList, c ≠ '.' := ⟨'a', by decide, by decide⟩
  have basis : siblingSample.basis 0 = (some _, BuildDefaults.sample) := rfl
  obtain ⟨same, alike⟩ := siblings_served_alike member
  refine ⟨same.mpr named, ?_⟩
  rcases alike named 0 _ _ _ _ basis basis (by decide) (by decide) with
    ⟨missed, -⟩ | ⟨server, result, -, own, others, made⟩
  · have found : ((findConfig 0 (.path "/src/a.inl")).runFrom siblingSample).1 ≠ .ok none := by
      decide +kernel
    exact absurd missed found
  · exact ⟨server, result, own, others, made _ rfl⟩

end UnitLift.Database
