import Reindex.EntityKey
import Reindex.Proofs.EntityId.Extraction
import Reindex.Proofs.Library
import Reindex.Proofs.ReadSet
import Reindex.Proofs.Uuid

/-!
# What serialization keeps

Identifiers, keys and read sets are written in one form and read in several: a UUID in any
of its spellings, a key as an object with members that are of no account or as a pair, a
read set as a word or a tag, and the paths of a read set in any order. The relations below
say what is accepted for a value without reading it. Reading accepts just that, and the
written form is a case of it, so what was written is read back, and what was read is
written in a form that stays as it is.
-/

namespace Reindex

/-- What is kept of values that are written and read as JSON. -/
structure RoundTrips {α : Type} (write : α → Json) (read? : Json → Option α)
    (SerializedBy : α → Json → Prop) : Prop where
  /-- Accepted is what serializes a value, and read as this value. -/
  accepted : ∀ json value, read? json = some value ↔ SerializedBy value json
  /-- What was written is read back. -/
  back : ∀ value, read? (write value) = some value
  /-- What was read is written in a form that is read as the same and written as the same. -/
  settled : ∀ json value, read? json = some value →
    read? (write value) = read? json ∧ (read? (write value)).map write = some (write value)

/-- It is all kept if reading accepts what serializes a value and writing writes such. -/
theorem RoundTrips.of_accepted {α : Type} {write : α → Json} {read? : Json → Option α}
    {SerializedBy : α → Json → Prop}
    (accepted : ∀ json value, read? json = some value ↔ SerializedBy value json)
    (written : ∀ value, SerializedBy value (write value)) :
    RoundTrips write read? SerializedBy where
  accepted := accepted
  back value := (accepted _ _).2 (written value)
  settled json value read := by
    have back : read? (write value) = some value := (accepted _ _).2 (written value)
    rw [back, read]
    exact ⟨rfl, rfl⟩

namespace EntityId

/-- The JSON values that serialize an identifier: one member, named for the kind. -/
inductive SerializedBy : EntityId → Json → Prop
  | int (value : Int64) :
      SerializedBy (.int value) (.object [("Int", .number (.integer value.toInt))])
  | text (value : String) : SerializedBy (.text value) (.object [("Str", .text value)])
  | uuid {value : Uuid} {text : String} (spelled : value.SpelledBy text.toList) :
      SerializedBy (.uuid value) (.object [("Uuid", .text text)])
  | composite {parts : List EntityId} {items : List Json}
      (each : List.Forall₂ SerializedBy parts items) :
      SerializedBy (.composite parts) (.object [("Composite", .array items)])

/-- What is read as an identifier serializes it. The induction is on what is read, together
with the items of an array. -/
theorem serializedBy_of_ofJson? (json : Json) (id : EntityId) :
    ofJson? json = some id → id.SerializedBy json := by
  revert id
  refine ofJson?.induct (fun json => ∀ id, ofJson? json = some id → id.SerializedBy json)
    (fun items => ∀ parts, ofJsonParts? items = some parts →
      List.Forall₂ SerializedBy parts items)
    ?int ?text ?uuid ?composite ?other ?nil ?cons json
  case int =>
    intro value id read
    obtain ⟨held, rfl, rfl⟩ := ofInt?_eq_some_iff.1 read
    exact .int held
  case text =>
    rintro value id ⟨⟩
    exact .text value
  case uuid =>
    intro text id read
    obtain ⟨value, spelled, rfl⟩ := Option.map_eq_some_iff.1 read
    exact .uuid (Uuid.read?_eq_some_iff.1 spelled)
  case composite =>
    intro items each id read
    rw [ofJson?] at read
    obtain ⟨parts, readParts, rfl⟩ := Option.map_eq_some_iff.1 read
    exact .composite (each parts readParts)
  case other =>
    intro json notInt notText notUuid notComposite id read
    rw [ofJson?] at read
    · cases read
    all_goals assumption
  case nil =>
    rintro parts ⟨⟩
    exact .nil
  case cons =>
    intro first rest firstSerializes restSerialize parts read
    rw [ofJsonParts?] at read
    simp only [Option.bind_eq_bind, Option.bind_eq_some_iff, Option.pure_def,
      Option.some.injEq] at read
    obtain ⟨part, readFirst, others, readRest, rfl⟩ := read
    exact .cons (firstSerializes part readFirst) (restSerialize others readRest)

mutual

/-- What serializes an identifier is read as it. -/
theorem ofJson?_of_serializedBy : (id : EntityId) → {json : Json} → id.SerializedBy json →
    ofJson? json = some id
  | .int _, _, .int value => ofInt?_eq_some_iff.2 ⟨value, rfl, rfl⟩
  | .text _, _, .text _ => rfl
  | .uuid _, _, .uuid spelled => Option.map_eq_some_iff.2 ⟨_, Uuid.read?_eq_some_iff.2 spelled, rfl⟩
  | .composite parts, _, .composite each => by
    rw [ofJson?, ofJsonParts?_of_forall₂ parts each]
    rfl

/-- So are the items that serialize the parts of a composite. -/
theorem ofJsonParts?_of_forall₂ : (parts : List EntityId) → {items : List Json} →
    List.Forall₂ SerializedBy parts items → ofJsonParts? items = some parts
  | [], _, .nil => rfl
  | part :: parts, _, .cons first rest => by
    rw [ofJsonParts?, ofJson?_of_serializedBy part first, ofJsonParts?_of_forall₂ parts rest]
    rfl

end

mutual

/-- The written form serializes an identifier. -/
theorem serializedBy_toJson : (id : EntityId) → id.SerializedBy id.toJson
  | .int value => .int value
  | .text value => .text value
  | .uuid value => .uuid (by rw [Uuid.render, String.toList_ofList]; exact value.spelledBy_toChars)
  | .composite parts => .composite (forall₂_toJsonParts parts)

/-- So do the written forms of the parts of a composite. -/
theorem forall₂_toJsonParts :
    (parts : List EntityId) → List.Forall₂ SerializedBy parts (toJsonParts parts)
  | [] => .nil
  | part :: parts => .cons (serializedBy_toJson part) (forall₂_toJsonParts parts)

end

/-- Identifiers are kept. -/
theorem roundTrips : RoundTrips toJson ofJson? SerializedBy :=
  .of_accepted (fun json id => ⟨serializedBy_of_ofJson? json id, ofJson?_of_serializedBy id⟩)
    serializedBy_toJson

end EntityId

namespace EntityKey

/-- The JSON values that serialize a key. -/
inductive SerializedBy : EntityKey → Json → Prop
  /-- An object with both members, whatever other members it has, -/
  | object {members : Fields} {type : TypeName} {id : EntityId} {item : Json}
      (typed : members.get? "type_id" = some (.text type))
      (identified : members.get? "id" = some item) (serialized : id.SerializedBy item) :
      SerializedBy ⟨type, id⟩ (.object members)
  /-- or the type and the identifier as a pair. -/
  | pair {type : TypeName} {id : EntityId} {item : Json} (serialized : id.SerializedBy item) :
      SerializedBy ⟨type, id⟩ (.array [.text type, item])

/-- What is read as a key serializes it, and what serializes a key is read as it. -/
theorem ofJson?_eq_some_iff (json : Json) (key : EntityKey) :
    ofJson? json = some key ↔ key.SerializedBy json := by
  constructor
  · intro read
    unfold ofJson? at read
    split at read
    · split at read
      · rename_i typed identified
        obtain ⟨id, serialized, rfl⟩ := Option.map_eq_some_iff.1 read
        exact .object typed identified ((EntityId.roundTrips.accepted _ _).1 serialized)
      · cases read
    · obtain ⟨id, serialized, rfl⟩ := Option.map_eq_some_iff.1 read
      exact .pair ((EntityId.roundTrips.accepted _ _).1 serialized)
    · cases read
  · rintro (⟨typed, identified, serialized⟩ | serialized)
    · have read := (EntityId.roundTrips.accepted _ _).2 serialized
      simp only [ofJson?, typed, identified, read, Option.map_some]
    · have read := (EntityId.roundTrips.accepted _ _).2 serialized
      simp only [ofJson?, read, Option.map_some]

/-- The written form serializes a key. -/
theorem serializedBy_toJson (key : EntityKey) : key.SerializedBy key.toJson :=
  .object rfl rfl key.id.serializedBy_toJson

/-- Keys are kept. -/
theorem roundTrips : RoundTrips toJson ofJson? SerializedBy :=
  .of_accepted ofJson?_eq_some_iff serializedBy_toJson

end EntityKey

namespace ReadSet

/-- The JSON values that serialize a read set. -/
inductive SerializedBy : ReadSet → Json → Prop
  /-- The word for everything, -/
  | word : SerializedBy .all (.text "all")
  /-- the same word as a tag without content, -/
  | tag : SerializedBy .all (.object [("all", .null)])
  /-- or the paths, in any order and as often as one likes. -/
  | listed {set : PathSet} {paths : List Path} (members : ∀ path, path ∈ set ↔ path ∈ paths) :
      SerializedBy (.paths set) (.object [("paths", .array (paths.map .text))])

/-- Texts are read from an array of them and from nothing else. -/
theorem texts?_eq_some_iff {json : Json} {texts : List String} :
    json.texts? = some texts ↔ json = .array (texts.map .text) := by
  have reads (item : Json) (text : String) : item.text? = some text ↔ id item = .text text := by
    cases item <;> simp [Json.text?]
  cases json with
  | array items => rw [Json.texts?, mapM_eq_some_iff reads, List.map_id, Json.array.injEq]
  | null | bool _ | number _ | text _ | object _ => exact iff_of_false nofun nofun

/-- What is read as a read set serializes it, and what serializes a read set is read as it. -/
theorem ofJson?_eq_some_iff (json : Json) (reads : ReadSet) :
    ofJson? json = some reads ↔ reads.SerializedBy json := by
  constructor
  · intro read
    unfold ofJson? at read
    split at read
    · simp only [PathSet.ofJson?, Option.map_eq_some_iff, texts?_eq_some_iff] at read
      obtain ⟨_, ⟨paths, rfl, rfl⟩, rfl⟩ := read
      exact .listed fun _ => PathSet.mem_ofList
    · rename_i json _
      obtain ⟨tagged, ⟨⟩⟩ := Option.ite_none_right_eq_some.1 read
      unfold Json.unitTag? at tagged
      split at tagged
      · obtain ⟨⟩ := tagged
        exact .word
      · obtain ⟨⟩ := tagged
        exact .tag
      · cases tagged
  · intro serialized
    cases serialized with
    | word => rfl
    | tag => rfl
    | @listed set paths members =>
      have read : PathSet.ofJson? (.array (paths.map .text)) = some set := by
        rw [PathSet.ofJson?, texts?_eq_some_iff.2 rfl, Option.map_some, Option.some.injEq]
        exact PathSet.ext_mem fun path => PathSet.mem_ofList.trans (members path).symm
      rw [ofJson?, read, Option.map_some]

/-- The written form serializes a read set. -/
theorem serializedBy_toJson : (reads : ReadSet) → reads.SerializedBy reads.toJson
  | .all => .word
  | .paths _ => .listed fun _ => Iff.rfl

/-- Read sets are kept. -/
theorem roundTrips : RoundTrips toJson ofJson? SerializedBy :=
  .of_accepted ofJson?_eq_some_iff serializedBy_toJson

end ReadSet

/-- Serialization keeps every identifier, however deep its composites, every key and every
read set. What is accepted is known exactly, it is read as what it serializes, and writing
that down settles it: from then on reading and writing change nothing. -/
theorem serialization_keeps :
    RoundTrips EntityId.toJson EntityId.ofJson? EntityId.SerializedBy ∧
    RoundTrips EntityKey.toJson EntityKey.ofJson? EntityKey.SerializedBy ∧
    RoundTrips ReadSet.toJson ReadSet.ofJson? ReadSet.SerializedBy :=
  ⟨EntityId.roundTrips, EntityKey.roundTrips, ReadSet.roundTrips⟩

namespace Library

/-- A book as a pair, under a number, no further part and a UUID in capitals between braces. -/
def filed : Json :=
  .array [.text "Book", .object [("Composite", .array [
    .object [("Int", .number (.integer 7))],
    .object [("Composite", .array [])],
    .object [("Uuid", .text "\x7b6BA7B810-9DAD-11D1-80B4-00C04FD430C8\x7d")]])]]

/-- The key of the book. -/
def filedKey : EntityKey where
  type := "Book"
  id := .composite [.int 7, .composite [],
    .uuid ((Uuid.read? "6ba7b810-9dad-11d1-80b4-00c04fd430c8").get rfl)]

/-- It is read as its key, and written as an object with the UUID in its usual form. -/
theorem filed_kept : EntityKey.ofJson? filed = some filedKey ∧
    EntityKey.ofJson? filedKey.toJson = EntityKey.ofJson? filed := by
  have read : EntityKey.ofJson? filed = some filedKey := by decide +kernel
  exact ⟨read, (serialization_keeps.2.1.settled filed filedKey read).1⟩

end Library

end Reindex
