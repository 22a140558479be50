import ClientGen.Model.Codec
import ClientGen.Proofs.Json.Fields
import ClientGen.Proofs.Json.Paths
import ClientGen.Proofs.Model.Check

/-! # Where findings point

Each thing that a check looks at has a place of its own in the model as it is written, and the path
of a finding is the text of such a place. The places of a list are those inside of its entries, so
what is to be shown of them is shown for one list, whatever is inside.
-/

namespace ClientGen

open Json (at? textFrom readPath readPath_textFrom lookup_sortFields)

/-- Each finding points at one place in the document, and no two at the same. -/
structure Report.PointsInto (document : Json) (report : Report) : Prop where
  resolves : ∀ finding ∈ report.findings,
    ∃ place value, readPath finding.path = some place ∧ at? place document = some value
  distinct : (report.findings.map (·.path)).Nodup

namespace Check

section Places

variable {α β : Type} {list list' name base : String} {entries : List α} {entries' : List β}
  {inside : α → List (List Json.Step)} {inside' : β → List (List Json.Step)}
  {place : List Json.Step} {places others : List (List Json.Step)} {document : Json}

/-- The places inside of the entries of a list. -/
def entryPlaces (list : String) (entries : List α) (inside : α → List (List Json.Step)) :
    List (List Json.Step) :=
  entries.zipIdx.flatMap fun (entry, index) =>
    (inside entry).map fun place => .field list :: .item index :: place

theorem mem_entryPlaces_iff :
    place ∈ entryPlaces list entries inside ↔ ∃ index entry rest,
      entries[index]? = some entry ∧ rest ∈ inside entry ∧
      place = .field list :: .item index :: rest := by
  simp only [entryPlaces, List.mem_flatMap, List.mem_map, Prod.exists,
    List.mk_mem_zipIdx_iff_getElem?]
  constructor
  · rintro ⟨entry, index, there, rest, mem, rfl⟩
    exact ⟨index, entry, rest, there, mem, rfl⟩
  · rintro ⟨index, entry, rest, there, mem, rfl⟩
    exact ⟨entry, index, there, rest, mem, rfl⟩

/-- Entries are told apart by their indices. -/
theorem nodup_entryPlaces (h : ∀ entry ∈ entries, (inside entry).Nodup) :
    (entryPlaces list entries inside).Nodup := by
  rw [entryPlaces, List.nodup_flatMap]
  constructor
  · rintro ⟨entry, index⟩ mem
    have mem := List.mem_of_getElem? (List.mk_mem_zipIdx_iff_getElem?.mp mem)
    exact (h entry mem).map fun place other same => (List.cons.inj (List.cons.inj same).2).2
  · have indices : (entries.zipIdx.map (·.2)).Nodup := by
      rw [List.zipIdx_map_snd]
      exact List.nodup_range'
    refine (List.pairwise_map.mp indices).imp fun distinct => ?_
    rintro place first second
    obtain ⟨rest, -, rfl⟩ := List.mem_map.mp first
    obtain ⟨rest', -, same⟩ := List.mem_map.mp second
    exact distinct (Json.Step.item.inj (List.cons.inj (List.cons.inj same).2).1).symm

/-- Different places that the document has, and that can be told from their texts. -/
structure PlacesOf (document : Json) (places : List (List Json.Step)) : Prop where
  distinct : places.Nodup
  plain : ∀ place ∈ places, ∀ step ∈ place, step.isPlain = true
  reached : ∀ place ∈ places, ∃ value, at? place document = some value

namespace PlacesOf

theorem whole (document : Json) : PlacesOf document [[]] where
  distinct := List.nodup_singleton []
  plain place mem := by
    rw [List.mem_singleton.mp mem]
    exact List.forall_mem_nil _
  reached place mem := ⟨document, by rw [List.mem_singleton.mp mem]; rfl⟩

theorem nil (document : Json) : PlacesOf document [] where
  distinct := List.nodup_nil
  plain := List.forall_mem_nil _
  reached := List.forall_mem_nil _

theorem field {value : Json} (held : document.field? name = some value)
    (plain : (Json.Step.field name).isPlain = true) (fresh : [.field name] ∉ places)
    (h : PlacesOf document places) : PlacesOf document ([.field name] :: places) where
  distinct := List.nodup_cons.mpr ⟨fresh, h.distinct⟩
  plain := List.forall_mem_cons.mpr ⟨List.forall_mem_singleton.mpr plain, h.plain⟩
  reached := List.forall_mem_cons.mpr
    ⟨⟨value, by rw [at?, Json.Step.from?, held]; rfl⟩, h.reached⟩

theorem append (h : PlacesOf document places) (h' : PlacesOf document others)
    (apart : places.Disjoint others) : PlacesOf document (places ++ others) where
  distinct := h.distinct.append h'.distinct apart
  plain := List.forall_mem_append.mpr ⟨h.plain, h'.plain⟩
  reached := List.forall_mem_append.mpr ⟨h.reached, h'.reached⟩

theorem ofEntries {toJson : α → Json}
    (held : document.field? list = some (.arr (entries.map toJson)))
    (plain : (Json.Step.field list).isPlain = true)
    (h : ∀ entry ∈ entries, PlacesOf (toJson entry) (inside entry)) :
    PlacesOf document (entryPlaces list entries inside) where
  distinct := nodup_entryPlaces fun entry mem => (h entry mem).distinct
  plain place mem := by
    obtain ⟨index, entry, rest, there, inner, rfl⟩ := mem_entryPlaces_iff.mp mem
    have known := (h entry (List.mem_of_getElem? there)).plain rest inner
    exact List.forall_mem_cons.mpr ⟨plain, List.forall_mem_cons.mpr ⟨rfl, known⟩⟩
  reached place mem := by
    obtain ⟨index, entry, rest, there, inner, rfl⟩ := mem_entryPlaces_iff.mp mem
    obtain ⟨value, reached⟩ := (h entry (List.mem_of_getElem? there)).reached rest inner
    exact ⟨value, by simp [at?, Json.Step.from?, held, there, reached]⟩

end PlacesOf

theorem field_not_mem_entryPlaces : [.field name] ∉ entryPlaces list entries inside := by
  intro mem
  obtain ⟨index, entry, rest, -, -, same⟩ := mem_entryPlaces_iff.mp mem
  cases same

theorem disjoint_entryPlaces (distinct : list ≠ list') :
    (entryPlaces list entries inside).Disjoint (entryPlaces list' entries' inside') := by
  rintro place mem mem'
  obtain ⟨index, entry, rest, -, -, rfl⟩ := mem_entryPlaces_iff.mp mem
  obtain ⟨index', entry', rest', -, -, same⟩ := mem_entryPlaces_iff.mp mem'
  exact distinct (Json.Step.field.inj (List.cons.inj same).1)

theorem map_textFrom_entryPlaces :
    (entryPlaces list entries inside).map (textFrom base) =
      entries.zipIdx.flatMap fun (entry, index) =>
        (inside entry).map (textFrom (entryPath (base ++ ("." ++ list)) index)) := by
  have text (index : Nat) (rest : List Json.Step) :
      textFrom base (.field list :: .item index :: rest)
        = textFrom (entryPath (base ++ ("." ++ list)) index) rest := by
    simp only [textFrom, Json.Step.text, entryPath, String.append_assoc]
  simp only [entryPlaces, List.map_flatMap, List.map_map, Function.comp_def, text]

end Places

/-- The package identifier, and each method's name, version and parameters. -/
def apiPlaces (api : Api) : List (List Json.Step) :=
  [.field "package"] :: entryPlaces "methods" api.methods fun method =>
    [.field "name"] :: [.field "version"] :: entryPlaces "params" method.params fun _ => [[]]

/-- The names and types of the fields of each record, and the names of all else. -/
def typesPlaces (types : Types) : List (List Json.Step) :=
  (entryPlaces "types" types.types fun record =>
    [.field "name"] :: entryPlaces "fields" record.fields fun _ =>
      [[.field "name"], [.field "type"]]) ++
  entryPlaces "enums" types.enums fun enum =>
    [.field "name"] :: entryPlaces "values" enum.values fun _ => [[.field "name"]]

def Subject.path : Subject → String
  | .package _ => "$.package"
  | .name list index => entryPath list.path index ++ ".name"
  | .version index _ => entryPath "$.methods" index ++ ".version"
  | .param index _ inner _ => entryPath (entryPath "$.methods" index ++ ".params") inner
  | .fieldType index _ inner _ =>
      entryPath (entryPath "$.types" index ++ ".fields") inner ++ ".type"

section Subjects

variable {file : String} {s : Subject} {f : Finding} {subjects : List Subject}
  {findings : List Finding}

theorem Due.path_eq_path (due : Due file s f) : f.path = s.path := by
  cases due <;> rfl

theorem Reports.paths_sublist (h : Reports file subjects findings) :
    (findings.map (·.path)).Sublist (subjects.map Subject.path) := by
  induction h with
  | nil => exact .slnil
  | fine _ _ ih => exact ih.cons _
  | due due _ ih =>
      rw [List.map_cons, List.map_cons, due.path_eq_path]
      exact ih.cons_cons _

theorem map_path_apiSubjects (api : Api) :
    (apiSubjects api).map Subject.path = (apiPlaces api).map (textFrom "$") := by
  simp only [apiSubjects, apiPlaces, methodNames, Subject.path, List.map_cons, List.map_nil,
    List.map_flatMap, List.map_map, Function.comp_def, map_textFrom_entryPlaces, textFrom,
    Json.Step.text, String.reduceAppend, ← List.map_eq_flatMap]

theorem map_path_typesSubjects (types : Types) :
    (typesSubjects types).map Subject.path = (typesPlaces types).map (textFrom "$") := by
  simp only [typesSubjects, typesPlaces, recordNames, fieldNames, enumNames, memberNames,
    Subject.path, List.map_append, List.map_cons, List.map_nil, List.map_flatMap, List.map_map,
    Function.comp_def, map_textFrom_entryPlaces, textFrom, Json.Step.text, String.reduceAppend,
    ← List.map_eq_flatMap]

end Subjects

section Models

theorem api_places (api : Api) : PlacesOf api.toJson (apiPlaces api) := by
  rw [apiPlaces]
  refine .field (lookup_sortFields _ _) (by decide) field_not_mem_entryPlaces
    (.ofEntries (lookup_sortFields _ _) (by decide) fun method _ => ?_)
  refine .field (lookup_sortFields _ _) (by decide) ?_
    (.field (lookup_sortFields _ _) (by decide) field_not_mem_entryPlaces
      (.ofEntries (lookup_sortFields _ _) (by decide) fun param _ => .whole param.toJson))
  exact List.not_mem_cons_of_ne_of_not_mem (by simp) field_not_mem_entryPlaces

theorem record_places (record : RecordType) :
    PlacesOf record.toJson ([.field "name"] :: entryPlaces "fields" record.fields fun _ =>
      [[.field "name"], [.field "type"]]) := by
  refine .field (lookup_sortFields _ _) (by decide) field_not_mem_entryPlaces
    (.ofEntries (lookup_sortFields _ _) (by decide) fun field _ => ?_)
  exact .field (lookup_sortFields _ _) (by decide) (by simp)
    (.field (lookup_sortFields _ _) (by decide) List.not_mem_nil (.nil field.toJson))

theorem enum_places (enum : EnumType) :
    PlacesOf enum.toJson ([.field "name"] :: entryPlaces "values" enum.values fun _ =>
      [[.field "name"]]) := by
  refine .field (lookup_sortFields _ _) (by decide) field_not_mem_entryPlaces
    (.ofEntries (lookup_sortFields _ _) (by decide) fun member _ => ?_)
  exact .field (lookup_sortFields _ _) (by decide) List.not_mem_nil (.nil member.toJson)

theorem types_places (types : Types) : PlacesOf types.toJson (typesPlaces types) :=
  .append (.ofEntries (lookup_sortFields _ _) (by decide) fun record _ => record_places record)
    (.ofEntries (lookup_sortFields _ _) (by decide) fun enum _ => enum_places enum)
    (disjoint_entryPlaces (by decide))

end Models

/-- It is enough that what has been looked at has places of its own in the document. -/
theorem Reports.pointsInto {file : String} {subjects : List Subject} {report : Report}
    {places : List (List Json.Step)} {document : Json} (h : Reports file subjects report.findings)
    (paths : subjects.map Subject.path = places.map (textFrom "$"))
    (known : PlacesOf document places) : report.PointsInto document where
  resolves finding mem := by
    have mem' := h.paths_sublist.subset (List.mem_map_of_mem mem)
    rw [paths] at mem'
    obtain ⟨place, mem, same⟩ := List.mem_map.mp mem'
    obtain ⟨value, reached⟩ := known.reached place mem
    exact ⟨place, value, same ▸ readPath_textFrom (known.plain place mem), reached⟩
  distinct := by
    refine h.paths_sublist.nodup ?_
    rw [paths]
    -- Two places with one text are read as the same steps.
    refine (List.nodup_map_iff_inj_on known.distinct).mpr fun place mem place' mem' same => ?_
    have read := congrArg readPath same
    rw [readPath_textFrom (known.plain place mem), readPath_textFrom (known.plain place' mem')]
      at read
    exact Option.some.inj read

/-- Each finding on a model points at one place that the model has as it is written, and no two
    findings point at the same place. -/
theorem reports_pointInto (file : String) :
    (∀ api : Api, (Check.api api file).PointsInto api.toJson) ∧
      ∀ types : Types, (Check.types types file).PointsInto types.toJson :=
  ⟨fun api => (api_reportOn api).reports.pointsInto (map_path_apiSubjects api) (api_places api),
    fun types => (types_reportOn types).reports.pointsInto (map_path_typesSubjects types)
      (types_places types)⟩

end Check

end ClientGen
