import Mathlib.Data.List.Nodup
import Mathlib.Logic.Function.Basic
import UnitLift.Proofs.Entity.Identity
import UnitLift.Proofs.Entity.Planting
import UnitLift.Proofs.Parse.Atomicity

namespace UnitLift

namespace EntityGraph

/-- Graphs as they come to be, with the lineages of their entities as these were created. What an entity
was created from stays in its digest, whatever is changed about it later. -/
inductive Created : EntityGraph → (EntityId → Lineage) → Prop
  | empty : Created {} fun _ => []
  | create {graph : EntityGraph} {lineage : EntityId → Lineage} (created : Created graph lineage)
      (content : EntityContent) (parent : Option EntityId) (facts : Option FileFacts)
      (known : ∀ id ∈ parent, id < graph.entities.size) :
      Created (graph.create content parent facts).2
        (Function.update lineage graph.entities.size (content :: (parent.map lineage).getD []))
  | change {graph : EntityGraph} {lineage : EntityId → Lineage} (created : Created graph lineage)
      (id : EntityId) (change : Entity → Entity) (kept : ∀ entity, (change entity).uuid = entity.uuid) :
      Created (graph.modify id change) lineage

theorem Created.uuid_eq {graph : EntityGraph} {lineage : EntityId → Lineage}
    (created : Created graph lineage) {id : EntityId} {entity : Entity}
    (found : graph.get? id = some entity) : (lineage id).uuid? = some entity.uuid := by
  induction created generalizing id entity with
  | empty => cases found
  | @create graph lineage created content parent facts known ih =>
    have above : Lineage.uuid? ((parent.map lineage).getD []) = graph.parentUuid parent := by
      cases parent with
      | none => rfl
      | some parent =>
        have inside : parent < graph.entities.size := known parent rfl
        have standing : graph.get? parent = some graph.entities[parent] :=
          Array.getElem?_eq_getElem inside
        rw [Option.map_some, Option.getD_some, ih standing, parentUuid, Option.bind_some, standing]
        rfl
    have pushed : (graph.create content parent facts).2.get? id = _ := Array.getElem?_push
    rw [pushed] at found
    split at found
    · subst id
      cases found
      rw [Function.update_self, Lineage.uuid?, above]
    · rename_i old
      rw [Function.update_of_ne old, ih found]
  | change created other change kept ih =>
    rw [get?_modify] at found
    split at found
    · obtain ⟨before, known, rfl⟩ := Option.map_eq_some_iff.mp found
      rw [kept, ih known]
    · exact ih found

/-- A graph in which the lineages of entities are their chains of parents as these stand. -/
structure Stands (graph : EntityGraph) (lineage : EntityId → Lineage) : Prop where
  created : Created graph lineage
  parent : ∀ id entity parent, graph.get? id = some entity → entity.parent = some parent →
    parent < graph.entities.size
  chain : ∀ id entity, graph.get? id = some entity →
    lineage id = entity.toEntityContent :: (entity.parent.map lineage).getD []

namespace Stands

variable {graph : EntityGraph} {lineage : EntityId → Lineage}

theorem empty : Stands {} fun _ => [] := by
  have nothing (id : EntityId) : EntityGraph.get? {} id = none := Array.getElem?_empty
  refine ⟨.empty, fun id _ _ found => ?_, fun id _ found => ?_⟩
  · cases (nothing id).symm.trans found
  · cases (nothing id).symm.trans found

theorem create (stands : Stands graph lineage) (content : EntityContent) (parent : Option EntityId)
    (facts : Option FileFacts) (known : ∀ id ∈ parent, id < graph.entities.size) :
    Stands (graph.create content parent facts).2
      (Function.update lineage graph.entities.size (content :: (parent.map lineage).getD [])) := by
  have look (id : EntityId) : (graph.create content parent facts).2.get? id = _ := Array.getElem?_push
  have size : (graph.create content parent facts).2.entities.size = graph.entities.size + 1 :=
    Array.size_push _
  -- the lineages of parents that are known are as they were
  have same {parent : Option EntityId} (known : ∀ id ∈ parent, id < graph.entities.size)
      (own : Lineage) :
      parent.map (Function.update lineage graph.entities.size own) = parent.map lineage :=
    Option.map_congr fun id member => Function.update_of_ne (Nat.ne_of_lt (known id member)) _ _
  refine ⟨stands.created.create content parent facts known, ?_, ?_⟩
  · intro id entity above found named
    rw [look] at found
    split at found
    · cases found
      exact size ▸ Nat.lt_succ_of_lt (known above named)
    · exact size ▸ Nat.lt_succ_of_lt (stands.parent id entity above found named)
  · intro id entity found
    rw [look] at found
    split at found
    · subst id
      cases found
      rw [Function.update_self, same known]
    · rename_i old
      rw [Function.update_of_ne old, stands.chain id entity found,
        same fun above named => stands.parent id entity above found named]

theorem change (stands : Stands graph lineage) (id : EntityId) (change : Entity → Entity)
    (uuid : ∀ entity, (change entity).uuid = entity.uuid)
    (kept : ∀ entity, graph.get? id = some entity →
      (change entity).toEntityContent = entity.toEntityContent ∧
        (change entity).parent = entity.parent) : Stands (graph.modify id change) lineage := by
  have before {other : EntityId} {entity : Entity}
      (found : (graph.modify id change).get? other = some entity) : ∃ old,
      graph.get? other = some old ∧ entity.toEntityContent = old.toEntityContent ∧
        entity.parent = old.parent := by
    rw [get?_modify] at found
    split at found
    · subst other
      obtain ⟨old, known, rfl⟩ := Option.map_eq_some_iff.mp found
      exact ⟨old, known, kept old known⟩
    · exact ⟨entity, found, rfl, rfl⟩
  have size : (graph.modify id change).entities.size = graph.entities.size := Array.size_modify
  refine ⟨stands.created.change id change uuid, ?_, ?_⟩
  · intro other entity parent found named
    obtain ⟨old, known, -, same⟩ := before found
    exact size ▸ stands.parent other old parent known (same ▸ named)
  · intro other entity found
    obtain ⟨old, known, content, parent⟩ := before found
    rw [content, parent, stands.chain other old known]

theorem sprout (stands : Stands graph lineage) (content : EntityContent) {parent : EntityId}
    (known : parent < graph.entities.size) :
    Stands ((graph.create content (some parent)).2.addChild parent graph.entities.size)
      (Function.update lineage graph.entities.size (content :: lineage parent)) := by
  have fresh : (graph.create content (some parent)).2.get? graph.entities.size =
      some (graph.freshEntity content parent) := Array.getElem?_push_size
  have adopted := (stands.create content (some parent) none (by simpa using known)).change
    graph.entities.size (fun entity => { entity with parent := some parent }) (fun _ => rfl) (by
      intro entity found
      cases fresh.symm.trans found
      exact ⟨rfl, rfl⟩)
  exact adopted.change parent
    (fun entity => { entity with children := entity.children ++ [graph.entities.size] })
    (fun _ => rfl) fun _ _ => ⟨rfl, rfl⟩

theorem plantAll (outlines : List Outline) (stands : Stands graph lineage) {parent : EntityId}
    (known : parent < graph.entities.size) :
    ∃ later, Stands (Outline.plantAll parent outlines graph).2 later ∧
      ∀ id < graph.entities.size, later id = lineage id := by
  induction outlines using Outline.list_induction generalizing parent graph lineage with
  | nil => exact ⟨lineage, stands, fun _ _ => rfl⟩
  | cons content children rest ihChildren ihRest =>
    let name := graph.entities.size
    let sprouted := (graph.create content (some parent)).2.addChild parent name
    have size : sprouted.entities.size = name + 1 := (growsTo_addChild_create content known).1.size
    have inside : name < sprouted.entities.size := by omega
    obtain ⟨branched, planted, grows, -⟩ := Outline.plantAll_eq name children sprouted inside
    obtain ⟨middle, branching, kept⟩ := ihChildren (stands.sprout content known) inside
    rw [planted] at branching
    have larger : name < branched.entities.size := by
      rw [grows.size]
      omega
    obtain ⟨later, whole, keptThen⟩ := ihRest branching (Nat.lt_trans known larger)
    refine ⟨later, ?_, fun id old => ?_⟩
    · change Stands (Outline.plantAll parent rest (Outline.plantAll name children sprouted).2).2 later
      rw [planted]
      exact whole
    · rw [keptThen id (Nat.lt_trans old larger), kept id (Nat.lt_trans old inside)]
      exact Function.update_of_ne (Nat.ne_of_lt old) _ _

end Stands

end EntityGraph

namespace Parser

variable {session left : Session} {lineage : EntityId → Lineage}

/-- However the parse of a file goes, lineages stay chains of parents. -/
private theorem FileRun.exists_stands {path : String} {view : ConfigView}
    {result : Except Stop EntityId} (run : FileRun path view session result left)
    (stands : session.graph.Stands lineage) :
    ∃ later, left.graph.Stands later ∧
      ∀ id < session.graph.entities.size, later id = lineage id := by
  cases result with
  | error stop => exact ⟨lineage, run.index_of_error.2 ▸ stands, fun _ _ => rfl⟩
  | ok root =>
    cases run with
    | @lifted preprocessed _ _ cursors hadErrors _ _ _ _ _ grew _ graph _ =>
      let name := session.graph.entities.size
      let rooted := (session.graph.createFile path (factsOf preprocessed hadErrors)).2
      have size : rooted.entities.size = name + 1 := Array.size_push _
      have rooting : rooted.Stands (Function.update lineage name _) :=
        stands.create _ none _ (by simp)
      obtain ⟨later, standing, kept⟩ := rooting.plantAll
        (Cursor.outlinesOf session.world.pathView (session.world.pathView.resolve path) cursors)
        (show name < rooted.entities.size by omega)
      refine ⟨later, ?_, fun id old => ?_⟩
      · have same : (Outline.plantAll name _ rooted).2 = left.graph :=
          (congrArg (·.2) grew).trans graph.symm
        rwa [← same]
      · rw [kept id (by omega), Function.update_of_ne (Nat.ne_of_lt old)]

private theorem graph_settle (ended : Except Stop EntityId × Session) :
    (settle ended).2.graph = ended.2.graph := by
  obtain ⟨(_ | _) | _, _⟩ := ended
  · rfl
  · rfl
  · rfl

/-- A call, however it ends, adds entities so that their lineages are chains of parents, and leaves
those of other entities. -/
theorem exists_stands_parse (stands : session.graph.Stands lineage) (path : PathArgument)
    (config : AnyConfig) :
    ∃ later, ((parse path config).runFrom session).2.graph.Stands later ∧
      ∀ id < session.graph.entities.size, later id = lineage id := by
  have still {left : Session} (graph : left.graph = session.graph) : ∃ later,
      left.graph.Stands later ∧ ∀ id < session.graph.entities.size, later id = lineage id :=
    ⟨lineage, graph ▸ stands, fun _ _ => rfl⟩
  obtain ⟨_, ran, calling⟩ := exists_calling parseFile session path config
  rw [← callWith_parseFile, ran]
  cases calling with
  | refused => exact still rfl
  | pathless => exact still rfl
  | settled =>
    rw [graph_settle]
    exact (fileRun_parseFile _ _ (begun session)).exists_stands stands

end Parser

namespace EntityGraph

/-- The identifiers of entities of one file tell these apart. The text that is digested is the same only
for the same name, kind, place and digest of the parent; so if there is no collision, entities that the
library gives no identifier have the same one just if these fields are the same for them and for each of
their parents. Lineages start with no entity, and no parse changes those of entities that are there. -/
theorem identifiers_agree_iff {file : String} (absolute : Path.isAbsolute file = true) :
    (∀ (content other : EntityContent) (parentUuid otherUuid : Option String),
      content.LiesIn file → other.LiesIn file → (∀ uuid ∈ parentUuid, IsHexDigest uuid) →
      (∀ uuid ∈ otherUuid, IsHexDigest uuid) →
        (Entity.digestText content parentUuid = Entity.digestText other otherUuid ↔
          content.identity = other.identity ∧ parentUuid = otherUuid)) ∧
    (∀ (graph otherGraph : EntityGraph) (lineage otherLineage : EntityId → Lineage)
      (id otherId : EntityId) (entity other : Entity),
      Created graph lineage → Created otherGraph otherLineage →
      graph.get? id = some entity → otherGraph.get? otherId = some other →
      entity.usr = "" → other.usr = "" →
      (∀ content ∈ lineage id ++ otherLineage otherId, content.LiesIn file) →
      Lineage.NoCollision ((lineage id).texts ++ (otherLineage otherId).texts) →
        (entity.key = other.key ↔ (lineage id).identities = (otherLineage otherId).identities)) ∧
    (Stands {} fun _ => []) ∧
    ∀ (session : Session) (lineage : EntityId → Lineage) (path : PathArgument) (config : AnyConfig),
      session.graph.Stands lineage →
        ∃ later, ((Parser.parse path config).runFrom session).2.graph.Stands later ∧
          ∀ id < session.graph.entities.size, later id = lineage id := by
  refine ⟨fun _ _ _ _ => Entity.digestText_eq_iff absolute, ?_, .empty,
    fun _ _ path config stands => Parser.exists_stands_parse stands path config⟩
  intro graph otherGraph lineage otherLineage id otherId entity other created otherCreated found
    otherFound unnamed otherUnnamed inside apart
  have key : entity.key = entity.uuid := by rw [Entity.key, unnamed]; rfl
  have otherKey : other.key = other.uuid := by rw [Entity.key, otherUnnamed]; rfl
  rw [key, otherKey, ← Lineage.uuid?_eq_iff absolute inside apart, created.uuid_eq found,
    otherCreated.uuid_eq otherFound, Option.some.injEq]

/-- The root of a file, and a function whose name has separators in it. -/
def rootSample : EntityContent :=
  { name := "/a.cpp", kind := "TRANSLATION_UNIT", extent := ⟨"/a.cpp", 1, 1, 1, 1⟩ }

def functionSample : EntityContent :=
  { name := "a::f", kind := "FUNCTION_DECL", extent := ⟨"/a.cpp", 2, 1, 2, 9⟩ }

private theorem noCollision_sample :
    Lineage.NoCollision (Lineage.texts [functionSample, rootSample] ++ Lineage.texts [functionSample]) := by
  let rootUuid := "628338a7ae6b4e7a502d5bf8a37f9fd96e702e3030b0e499c4ae23b623b779eb"
  let texts := [Entity.digestText functionSample (some rootUuid),
    Entity.digestText rootSample none, Entity.digestText functionSample none]
  have digests : texts.map Sha256.ofText =
      ["3d122bb1fb9610feb22b3f7c39a43052b8ae4bdab32c38ab14ec85e3b3df299b", rootUuid,
        "fb5effcaf2b66ecb2374c91cef25850e460197b9e1041099778d7de5ff78802a"] := by
    decide +kernel
  have distinct : (texts.map Sha256.ofText).Nodup := by
    rw [digests]
    decide
  have known : Sha256.ofText (Entity.digestText rootSample none) = rootUuid :=
    (List.cons.inj (List.cons.inj digests).2).1
  have hashed : Lineage.texts [functionSample, rootSample] ++ Lineage.texts [functionSample] = texts := by
    simp only [Lineage.texts, Lineage.uuid?, known, List.cons_append, List.nil_append, texts]
  rw [hashed]
  exact fun _ member _ others => List.inj_on_of_nodup_map distinct member others

/-- The function below the root is another one than the function without a parent, and it has the same
lineage after any call. -/
theorem identifiers_agree_sample :
    let root : EntityGraph := (EntityGraph.create {} rootSample none none).2
    let graph := (root.create functionSample (some 0) none).2
    let orphaned := (EntityGraph.create {} functionSample none none).2
    (∀ text, Entity.digestText functionSample (some (Sha256.ofText text)) ≠
      Entity.digestText functionSample none) ∧
    (∃ entity orphan, graph.get? 1 = some entity ∧ orphaned.get? 0 = some orphan ∧
      entity.key ≠ orphan.key) ∧
    ∀ (session : Session) (path : PathArgument) (config : AnyConfig), session.graph = graph →
      ∃ lineage, ((Parser.parse path config).runFrom session).2.graph.Stands lineage ∧
        lineage 1 = [functionSample, rootSample] := by
  intro root graph orphaned
  have own : functionSample.LiesIn "/a.cpp" := ⟨rfl, by decide⟩
  have above : rootSample.LiesIn "/a.cpp" := ⟨rfl, by decide⟩
  obtain ⟨texts, keys, nothing, calls⟩ :=
    identifiers_agree_iff (show Path.isAbsolute "/a.cpp" = true by decide)
  have size : root.entities.size = 1 := Array.size_push _
  have rooted := nothing.create rootSample none none nofun
  have grown := rooted.create functionSample (some 0) none (by simp [root, size])
  rw [size] at grown
  obtain ⟨lineage, stands, below⟩ : ∃ lineage, graph.Stands lineage ∧
      lineage 1 = [functionSample, rootSample] := ⟨_, grown, rfl⟩
  refine ⟨?_, ?_, ?_⟩
  · intro text same
    have digest : ∀ uuid ∈ some (Sha256.ofText text), IsHexDigest uuid := by
      rintro _ ⟨⟩
      exact isHexDigest_ofText text
    cases ((texts _ _ _ _ own own digest (by simp)).mp same).2
  · obtain ⟨otherLineage, otherStands, alone⟩ : ∃ lineage, orphaned.Stands lineage ∧
        lineage 0 = [functionSample] := ⟨_, nothing.create functionSample none none nofun, rfl⟩
    obtain ⟨entity, found, unnamed⟩ : ∃ entity, graph.get? 1 = some entity ∧ entity.usr = "" :=
      ⟨_, rfl, rfl⟩
    obtain ⟨orphan, otherFound, otherUnnamed⟩ : ∃ orphan, orphaned.get? 0 = some orphan ∧
        orphan.usr = "" := ⟨_, rfl, rfl⟩
    have inside : ∀ content ∈ lineage 1 ++ otherLineage 0, content.LiesIn "/a.cpp" := by
      rw [below, alone]
      simp [own, above]
    have apart : Lineage.NoCollision ((lineage 1).texts ++ (otherLineage 0).texts) := by
      rw [below, alone]
      exact noCollision_sample
    have different : (lineage 1).identities ≠ (otherLineage 0).identities := by
      rw [below, alone]
      decide
    refine ⟨entity, orphan, found, otherFound, fun same => different ?_⟩
    exact (keys _ _ _ _ _ _ _ _ stands.created otherStands.created found otherFound unnamed
      otherUnnamed inside apart).mp same
  · intro session path config held
    obtain ⟨later, standing, kept⟩ := calls session lineage path config (held ▸ stands)
    have inside : 1 < session.graph.entities.size := by
      rw [held, show graph.entities.size = 2 from rfl]
      decide
    exact ⟨later, standing, (kept 1 inside).trans below⟩

end EntityGraph

end UnitLift
