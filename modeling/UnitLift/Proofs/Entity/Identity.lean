import UnitLift.Entity.Graph
import UnitLift.Proofs.Text.Numeral

/-! What the digest of an entity tells. The text that is digested determines all fields it is made
from if the file is known, and so digests without collisions determine an entity with all its parents. -/

namespace UnitLift

namespace EntityContent

/-- The fields of an entity that take part in its digest, its file apart. -/
structure Identity where
  name : String
  kind : String
  line : Int
  column : Int
  endLine : Int
  endColumn : Int
deriving DecidableEq

def identity (content : EntityContent) : Identity :=
  ⟨content.name, content.kind, content.extent.line, content.extent.column, content.extent.endLine,
    content.extent.endColumn⟩

/-- The numbers among these fields. -/
def Identity.place (identity : Identity) : List Int :=
  [identity.line, identity.column, identity.endLine, identity.endColumn]

/-- An entity of a file whose kind leaves the fields of its digest apart. -/
structure LiesIn (content : EntityContent) (file : String) : Prop where
  file : content.extent.file = file
  kind : ':' ∉ content.kind.toList

end EntityContent

/-- Text that can be the digest of an entity. -/
structure IsHexDigest (text : String) : Prop where
  length : text.length = 64
  digits : ∀ digit ∈ text.toList, digit ∈ "0123456789abcdefABCDEF".toList

theorem isHexDigest_ofText (text : String) : IsHexDigest (Sha256.ofText text) where
  length := Sha256.length_ofText text
  digits := fun digit member => by
    have lower := Sha256.mem_digits_of_mem_ofText member
    have more : "0123456789abcdefABCDEF" = "0123456789abcdef" ++ "ABCDEF" := rfl
    rw [more, String.toList_append]
    exact List.mem_append_left _ lower

namespace Entity

/-- What a digest is taken of besides name, kind and file: numbers, and the digest of the parent. -/
private def tailFields (content : EntityContent) (parentUuid : Option String) : List (List Char) :=
  (content.identity.place.map toString ++ parentUuid.toList).map String.toList

/-- The last of some separators is where two texts part. -/
private theorem split_last {separator : Char} {first second tail other : List Char}
    (same : first ++ separator :: tail = second ++ separator :: other)
    (free : separator ∉ tail) (freeOther : separator ∉ other) : first = second ∧ tail = other := by
  rcases List.append_eq_append_iff.mp same with ⟨between, rfl, rest⟩ | ⟨between, rfl, rest⟩
  · cases between with
    | nil =>
      cases rest
      exact ⟨(List.append_nil _).symm, rfl⟩
    | cons head more =>
      cases rest
      simp at free
  · cases between with
    | nil =>
      cases rest
      exact ⟨List.append_nil _, rfl⟩
    | cons head more =>
      cases rest
      simp at freeOther

private theorem toList_digestText (content : EntityContent) (parentUuid : Option String) :
    (digestText content parentUuid).toList =
      content.name.toList ++ ':' :: content.kind.toList ++ ':' :: (content.extent.file.toList ++
        ':' :: [':'].intercalate (tailFields content parentUuid)) := by
  have separator : ":".toList = [':'] := rfl
  simp [digestText, tailFields, EntityContent.identity, EntityContent.Identity.place, separator,
    List.intercalate_cons_cons]

private theorem exists_last {item : Char} {items : List Char} (member : item ∈ items) :
    ∃ before after, items = before ++ item :: after ∧ item ∉ after := by
  obtain ⟨after, before, same, free⟩ := List.eq_append_cons_of_mem (List.mem_reverse.mpr member)
  refine ⟨before.reverse, after.reverse, ?_, by simpa using free⟩
  simpa using congrArg List.reverse same

private theorem notMem_toString {separator : Char} (kind : separator = ':' ∨ separator = '/')
    (number : Int) : separator ∉ (toString number).toList := by
  rw [Text.toList_toString, List.mem_append]
  rintro (sign | digit)
  · split at sign
    · rcases kind with rfl | rfl <;> simp at sign
    · cases sign
  · rcases kind with rfl | rfl <;> exact Text.notMem_toDigits (by decide) _ digit

private theorem notMem_of_isHexDigest {separator : Char} (kind : separator = ':' ∨ separator = '/')
    {uuid : String} (digest : IsHexDigest uuid) : separator ∉ uuid.toList := by
  intro member
  have digit := digest.digits separator member
  rcases kind with rfl | rfl <;> exact absurd digit (by decide)

private theorem notMem_tailFields {separator : Char} (kind : separator = ':' ∨ separator = '/')
    {parentUuid : Option String} (digest : ∀ uuid ∈ parentUuid, IsHexDigest uuid)
    (content : EntityContent) : ∀ field ∈ tailFields content parentUuid, separator ∉ field := by
  intro field member
  obtain ⟨text, known, rfl⟩ := List.mem_map.mp member
  rcases List.mem_append.mp known with number | parent
  · obtain ⟨value, -, rfl⟩ := List.mem_map.mp number
    exact notMem_toString kind value
  · exact notMem_of_isHexDigest kind (digest text (Option.mem_toList.mp parent))

private theorem notMem_intercalate {item separator : Char} (other : item ≠ separator)
    {fields : List (List Char)} (free : ∀ field ∈ fields, item ∉ field) :
    item ∉ [separator].intercalate fields := by
  induction fields with
  | nil => simp
  | cons field rest ih =>
    obtain ⟨own, others⟩ := List.forall_mem_cons.mp free
    cases rest with
    | nil => simpa using own
    | cons next more =>
      rw [List.intercalate_cons_cons]
      simp [own, other, ih others]

private theorem tailFields_inj {content other : EntityContent} {parentUuid otherUuid : Option String}
    (same : tailFields content parentUuid = tailFields other otherUuid) :
    content.identity.place = other.identity.place ∧ parentUuid = otherUuid := by
  have texts := List.map_inj_right (fun _ _ => String.toList_inj.mp) |>.mp same
  obtain ⟨numbers, uuids⟩ := List.append_inj texts rfl
  refine ⟨(List.map_inj_right fun _ _ => Text.toString_inj).mp numbers, ?_⟩
  cases parentUuid with
  | none => cases otherUuid with
    | none => rfl
    | some other => cases uuids
  | some uuid => cases otherUuid with
    | none => cases uuids
    | some other => simpa using uuids

/-- The text that is digested determines what it is made from, for entities of one file. -/
theorem digestText_eq_iff {content other : EntityContent} {parentUuid otherUuid : Option String}
    {file : String} (absolute : Path.isAbsolute file = true) (inside : content.LiesIn file)
    (otherInside : other.LiesIn file) (digest : ∀ uuid ∈ parentUuid, IsHexDigest uuid)
    (otherDigest : ∀ uuid ∈ otherUuid, IsHexDigest uuid) :
    digestText content parentUuid = digestText other otherUuid ↔
      content.identity = other.identity ∧ parentUuid = otherUuid := by
  have slash : '/' ∈ file.toList := by
    rw [Path.isAbsolute, beq_iff_eq] at absolute
    exact List.mem_of_mem_head? absolute
  obtain ⟨folder, base, parts, free⟩ := exists_last slash
  have read {content : EntityContent} (inside : content.LiesIn file) (parentUuid : Option String) :
      (digestText content parentUuid).toList =
        (content.name.toList ++ ':' :: content.kind.toList ++ ':' :: folder) ++
          '/' :: (base ++ ':' :: [':'].intercalate (tailFields content parentUuid)) := by
    rw [toList_digestText, inside.file, parts]
    simp
  have behind {content : EntityContent} {parentUuid : Option String}
      (digest : ∀ uuid ∈ parentUuid, IsHexDigest uuid) :
      '/' ∉ base ++ ':' :: [':'].intercalate (tailFields content parentUuid) := by
    have tail := notMem_intercalate (by decide : '/' ≠ ':')
      (notMem_tailFields (.inr rfl) digest content)
    simp [free, tail]
  have fields {content : EntityContent} {parentUuid : Option String}
      (digest : ∀ uuid ∈ parentUuid, IsHexDigest uuid) :
      List.splitOn ':' ([':'].intercalate (tailFields content parentUuid)) =
        tailFields content parentUuid :=
    List.splitOn_intercalate ':' (notMem_tailFields (.inl rfl) digest content)
      (by simp [tailFields, EntityContent.Identity.place])
  rw [← String.toList_inj, read inside, read otherInside]
  constructor
  · intro same
    -- the last slash is that of the file, whatever stands in the names
    obtain ⟨front, back⟩ := split_last same (behind digest) (behind otherDigest)
    obtain ⟨name, kind⟩ := split_last (List.append_cancel_right front) inside.kind otherInside.kind
    have tails : [':'].intercalate (tailFields content parentUuid) =
        [':'].intercalate (tailFields other otherUuid) := by simpa using back
    have sameFields : tailFields content parentUuid = tailFields other otherUuid := by
      rw [← fields digest, tails, fields otherDigest]
    obtain ⟨numbers, uuids⟩ := tailFields_inj sameFields
    have names := String.toList_inj.mp name
    have kinds := String.toList_inj.mp kind
    refine ⟨?_, uuids⟩
    simp_all [EntityContent.identity, EntityContent.Identity.place]
  · rintro ⟨same, rfl⟩
    have names : content.name = other.name := congrArg (·.name) same
    have kinds : content.kind = other.kind := congrArg (·.kind) same
    rw [names, kinds, tailFields, same, ← tailFields]

end Entity

/-- What an entity was created from, followed by the same of its parent, and so on up to an entity
without a parent. -/
abbrev Lineage := List EntityContent

namespace Lineage

/-- The digest of the entity with a lineage. -/
def uuid? : Lineage → Option String
  | [] => none
  | content :: parents => some (Sha256.ofText (Entity.digestText content (uuid? parents)))

/-- The texts whose digests go into that of the entity with a lineage. -/
def texts : Lineage → List String
  | [] => []
  | content :: parents => Entity.digestText content (uuid? parents) :: texts parents

/-- The fields of an entity and of all its parents that take part in the digest, their files apart. -/
def identities (lineage : Lineage) : List EntityContent.Identity :=
  lineage.map EntityContent.identity

private theorem isHexDigest_uuid? (lineage : Lineage) :
    ∀ uuid ∈ uuid? lineage, IsHexDigest uuid := by
  cases lineage with
  | nil => simp [uuid?]
  | cons content parents =>
    rintro _ ⟨⟩
    exact isHexDigest_ofText _

/-- The digests of some texts tell these apart. -/
def NoCollision (texts : List String) : Prop :=
  ∀ text ∈ texts, ∀ other ∈ texts, Sha256.ofText text = Sha256.ofText other → text = other

private theorem NoCollision.mono {texts more : List String} (apart : NoCollision more)
    (fewer : texts ⊆ more) : NoCollision texts :=
  fun text member other known => apart text (fewer member) other (fewer known)

/-- Digests without collisions determine a lineage of entities of one file. -/
theorem uuid?_eq_iff {file : String} (absolute : Path.isAbsolute file = true)
    {lineage other : Lineage} (inside : ∀ content ∈ lineage ++ other, content.LiesIn file)
    (apart : NoCollision (texts lineage ++ texts other)) :
    uuid? lineage = uuid? other ↔ identities lineage = identities other := by
  induction lineage generalizing other with
  | nil => cases other <;> simp [uuid?, identities]
  | cons content parents ih =>
    cases other with
    | nil => simp [uuid?, identities]
    | cons otherContent otherParents =>
      have above : uuid? parents = uuid? otherParents ↔ identities parents = identities otherParents :=
        ih (fun content member => inside content (by grind)) (apart.mono (by grind [texts]))
      have parted := Entity.digestText_eq_iff absolute (inside content (by simp))
        (inside otherContent (by simp)) (isHexDigest_uuid? parents) (isHexDigest_uuid? otherParents)
      have digests : Sha256.ofText (Entity.digestText content (uuid? parents)) =
          Sha256.ofText (Entity.digestText otherContent (uuid? otherParents)) ↔
            Entity.digestText content (uuid? parents) =
              Entity.digestText otherContent (uuid? otherParents) :=
        ⟨apart _ (by simp [texts]) _ (by simp [texts]), congrArg Sha256.ofText⟩
      rw [uuid?, uuid?, Option.some.injEq, digests, parted, above]
      simp [identities]

end Lineage

end UnitLift
