import KedaHttp.Foundation.JsonTypes
import KedaHttp.Routing.Table

/-!
# The JSON text of the routing table

`MarshalJSON` and `UnmarshalJSON` from `pkg/routing/table.go` on the texts that a ConfigMap holds,
and the two functions of `pkg/routing/config_map.go` over them. The model of `Routing.Table`, which
takes a text for the table it decodes to or for the decoder's error, is an abstraction of this one:
`Represents` relates the two, saving and fetching respect it, and so nothing that is proved over
the abstraction depends on how tables are written.

A text whose first value is `null` has no place in the abstraction. It leaves the table with a nil
map, which can be read like an empty one, but not written to.
-/

namespace KedaHttp.Routing

open KedaHttp.Foundation

/-- The size of Go's `int`. -/
def portBits : ℕ := 64

namespace Target

def marshalJSON (target : Target) : Json :=
  .object [("Service", .string target.service), ("Port", Json.encodeInt target.port),
    ("Deployment", .string target.deployment), ("Namespace", .string target.ns),
    ("TargetPendingRequests", Json.encodeInt target.targetPendingRequests.toInt)]

def fields : List (Json.Field Target) :=
  [⟨"Service", fun target value =>
      (Json.decodeString target.service value).map fun text => { target with service := text }⟩,
    ⟨"Port", fun target value =>
      (Json.decodeInt portBits target.port value).map fun n => { target with port := n }⟩,
    ⟨"Deployment", fun target value =>
      (Json.decodeString target.deployment value).map fun text =>
        { target with deployment := text }⟩,
    ⟨"Namespace", fun target value =>
      (Json.decodeString target.ns value).map fun text => { target with ns := text }⟩,
    ⟨"TargetPendingRequests", fun target value =>
      (Json.decodeInt 32 target.targetPendingRequests.toInt value).map fun n =>
        { target with targetPendingRequests := Int32.ofInt n }⟩]

def zero : Target := ⟨"", 0, "", "", 0⟩

def unmarshalJSON (data : Json) : Option Target := Json.decodeStruct fields zero data

/-- The targets whose port fits into Go's `int`. -/
def Representable (target : Target) : Prop := Json.InRange portBits target.port

theorem unmarshalJSON_marshalJSON {target : Target} (fits : Representable target) :
    unmarshalJSON (marshalJSON target) = some target := by
  have port : Json.decodeInt portBits 0 (Json.encodeInt target.port) = some target.port :=
    Json.parseInt_formatInt fits
  have pending : Json.decodeInt 32 0 (Json.encodeInt target.targetPendingRequests.toInt) =
      some target.targetPendingRequests.toInt :=
    Json.parseInt_formatInt ⟨target.targetPendingRequests.le_toInt,
      target.targetPendingRequests.toInt_lt⟩
  simp [unmarshalJSON, marshalJSON, Json.decodeStruct, Json.decodeMember, Json.findField, fields,
    zero, Json.decodeString, port, pending]

theorem writable_marshalJSON (target : Target) (room : ℕ) :
    Json.Writable (room + 1) (marshalJSON target) := by
  have number : ∀ n, Json.Writable room (Json.encodeInt n) :=
    fun n => .number (Json.isLiteral_formatInt n)
  apply Json.Writable.object
  simp [Json.Writable.string, number]

end Target

namespace Table

/-- The encoder ends what it writes with a line break. -/
def marshalText (t : Table) : String :=
  String.ofList ((Json.encodeMap Target.marshalJSON t.m).print ++ ['\n'])

/-- The map that a table holds after `UnmarshalJSON`, if that succeeds. -/
def unmarshalText (text : String) : Option (Option (GoMap String Target)) :=
  (Json.decode text.toList).bind (Json.decodeMap Target.unmarshalJSON)

def Representable (t : Table) : Prop := t.Every fun _ target => target.Representable

theorem unmarshalText_marshalText {t : Table} (fits : Representable t) :
    unmarshalText t.marshalText = some (some t.m) := by
  have writable : Json.Writable Json.maxNestingDepth (Json.encodeMap Target.marshalJSON t.m) :=
    Json.writable_encodeMap fun _ target _ => target.writable_marshalJSON 9998
  rw [unmarshalText, marshalText, String.toList_ofList, Json.decode_print writable,
    Option.bind_some, Json.decodeMap_encodeMap]
  · intro host target held
    exact Target.unmarshalJSON_marshalJSON (fits host target held)
  · intro literal isNumber
    simp [Json.encodeMap] at isNumber

end Table

/-- The data of a ConfigMap, as the texts that the cluster stores. -/
structure TextConfigMap where
  data : Option (GoMap String String)

section Texts

-- The message of the decoder for a text that it refuses.
variable (describe : String → String)

def saveTableText (table : Table) (configMap : TextConfigMap) : Except Failure TextConfigMap :=
  match configMap.data with
  | some data => .ok ⟨some (data.insert configMapRoutingTableKey table.marshalText)⟩
  | none => .error (.panic "assignment to entry in nil map")

/-- The map of the table that is fetched. -/
def fetchTableText (configMap : TextConfigMap) : Except String (Option (GoMap String Target)) :=
  match configMap.data.bind fun data => data.lookup configMapRoutingTableKey with
  | none =>
      .error ("no '" ++ configMapRoutingTableKey ++ "' key found in the " ++
        configMapRoutingTableName ++ " ConfigMap")
  | some text =>
      match Table.unmarshalText text with
      | some table => .ok table
      | none =>
          .error ("error decoding '" ++ configMapRoutingTableKey ++ "' key in " ++
            configMapRoutingTableName ++ " ConfigMap: " ++ describe text)

/-- What the abstraction sees of a text. -/
def documentOf (text : String) : Option Document :=
  match Table.unmarshalText text with
  | some (some map) => some (.encoded ⟨map⟩)
  | some none => none
  | none => some (.malformed (describe text))

theorem documentOf_marshalText {table : Table} (fits : table.Representable) :
    documentOf describe table.marshalText = some table.marshalJSON := by
  simp [documentOf, Table.unmarshalText_marshalText fits, Table.marshalJSON]

/-- Both have data or not, and every text is seen as the document under its key. -/
structure Represents (configMap : TextConfigMap) (abstracted : ConfigMap) : Prop where
  nil : configMap.data = none ↔ abstracted.data = none
  texts : ∀ key, (configMap.data.bind fun data => data.lookup key).map (documentOf describe) =
    (abstracted.data.bind fun data => data.lookup key).map some

namespace Represents

variable {describe} {configMap : TextConfigMap} {abstracted : ConfigMap}

theorem fetch (represents : Represents describe configMap abstracted) :
    fetchTableText describe configMap =
      (fetchTableFromConfigMap abstracted).map fun table => some table.m := by
  have seen := represents.texts configMapRoutingTableKey
  cases stored : configMap.data.bind fun data => data.lookup configMapRoutingTableKey with
  | none =>
      rw [stored, Option.map_none, eq_comm, Option.map_eq_none_iff] at seen
      simp [fetchTableText, fetchTableFromConfigMap, stored, seen, Except.map]
  | some text =>
      rw [stored, Option.map_some, eq_comm, Option.map_eq_some_iff] at seen
      rcases seen with ⟨document, found, seen⟩
      rw [documentOf] at seen
      cases decoded : Table.unmarshalText text with
      | none =>
          rw [decoded, Option.some.injEq] at seen
          simp [fetchTableText, fetchTableFromConfigMap, stored, found, seen, decoded, Except.map,
            Table.unmarshalJSON]
      | some held =>
          cases held with
          | none => simp [decoded] at seen
          | some map =>
              rw [decoded, Option.some.injEq] at seen
              simp [fetchTableText, fetchTableFromConfigMap, stored, found, seen, decoded,
                Except.map, Table.unmarshalJSON]

theorem both (represents : Represents describe configMap abstracted) :
    (configMap = ⟨none⟩ ∧ abstracted = ⟨none⟩) ∨
      ∃ data documents, configMap = ⟨some data⟩ ∧ abstracted = ⟨some documents⟩ := by
  have nil := represents.nil
  rcases configMap with ⟨_ | data⟩
  · rcases abstracted with ⟨_ | documents⟩
    · exact .inl ⟨rfl, rfl⟩
    · simp at nil
  · rcases abstracted with ⟨_ | documents⟩
    · simp at nil
    · exact .inr ⟨data, documents, rfl, rfl⟩

/-- Missing data count as empty data. -/
theorem filled (represents : Represents describe configMap abstracted) :
    Represents describe ⟨some (configMap.data.getD ∅)⟩ ⟨some (abstracted.data.getD ∅)⟩ := by
  rcases represents.both with ⟨rfl, rfl⟩ | ⟨data, documents, rfl, rfl⟩
  · exact ⟨by simp, by simp⟩
  · exact represents

/-- Writing a text and writing the document that it is seen as. -/
theorem insert {data : GoMap String String} {documents : GoMap String Document}
    (represents : Represents describe ⟨some data⟩ ⟨some documents⟩) {text : String}
    {document : Document} (seen : documentOf describe text = some document) (key : String) :
    Represents describe ⟨some (data.insert key text)⟩ ⟨some (documents.insert key document)⟩ where
  nil := by simp
  texts := by
    intro other
    have before := represents.texts other
    simp only [Option.bind_some, GoMap.lookup_insert_ite] at before ⊢
    split
    · simp [seen]
    · exact before

end Represents

/-- What a ConfigMap goes through. An edit is not made by this program. -/
inductive Access where
  | save (table : Table)
  | fetch
  | edit (text : String)

inductive Observation where
  | saved (result : Except Failure Unit)
  | fetched (result : Except String (Option (GoMap String Target)))
  | edited

namespace Access

def perform (configMap : TextConfigMap) : Access → TextConfigMap × Observation
  | .save table =>
      match saveTableText table configMap with
      | .ok saved => (saved, .saved (.ok ()))
      | .error failure => (configMap, .saved (.error failure))
  | .fetch => (configMap, .fetched (fetchTableText describe configMap))
  | .edit text => (⟨some ((configMap.data.getD ∅).insert configMapRoutingTableKey text)⟩, .edited)

/-- The access as the abstraction makes it. -/
def interpret (configMap : ConfigMap) : Access → ConfigMap × Observation
  | .save table =>
      match saveTableToConfigMap table configMap with
      | .ok saved => (saved, .saved (.ok ()))
      | .error failure => (configMap, .saved (.error failure))
  | .fetch =>
      (configMap, .fetched ((fetchTableFromConfigMap configMap).map fun table => some table.m))
  | .edit text =>
      match documentOf describe text with
      | some document =>
          (⟨some ((configMap.data.getD ∅).insert configMapRoutingTableKey document)⟩, .edited)
      | none => (configMap, .edited)

/-- Ports fit into Go's `int`, and no edit leaves a table with a nil map. -/
def Valid : Access → Prop
  | .save table => table.Representable
  | .fetch => True
  | .edit text => Table.unmarshalText text ≠ some none

variable {describe} {configMap : TextConfigMap} {abstracted : ConfigMap}

theorem exists_documentOf {text : String} (valid : (Access.edit text).Valid) :
    ∃ document, documentOf describe text = some document := by
  rw [documentOf]
  cases decoded : Table.unmarshalText text with
  | none => exact ⟨_, rfl⟩
  | some held =>
      cases held with
      | none => exact absurd decoded valid
      | some map => exact ⟨_, rfl⟩

/-- One access is observed in the same way on both sides, and leaves them related. -/
theorem perform_interpret (represents : Represents describe configMap abstracted) {access : Access}
    (valid : access.Valid) :
    Represents describe (access.perform describe configMap).1
        (access.interpret describe abstracted).1 ∧
      (access.perform describe configMap).2 = (access.interpret describe abstracted).2 := by
  cases access with
  | save table =>
      rcases represents.both with ⟨rfl, rfl⟩ | ⟨data, documents, rfl, rfl⟩
      · exact ⟨represents, rfl⟩
      · exact ⟨represents.insert (documentOf_marshalText describe valid) _, rfl⟩
  | fetch => exact ⟨represents, congrArg Observation.fetched represents.fetch⟩
  | edit text =>
      rcases @exists_documentOf describe text valid with ⟨document, seen⟩
      simp only [perform, interpret, seen, and_true]
      exact represents.filled.insert seen configMapRoutingTableKey

/-- A sequence of accesses, with what is observed of them. -/
def runs {Store : Type} (step : Store → Access → Store × Observation) (store : Store) :
    List Access → Store × List Observation
  | [] => (store, [])
  | access :: accesses =>
      let next := step store access
      let rest := runs step next.1 accesses
      (rest.1, next.2 :: rest.2)

/--
Whatever tables are saved and fetched, and whatever texts are put in between by others: the program
behaves on the texts as the abstraction does on documents.
-/
theorem runs_perform_eq (represents : Represents describe configMap abstracted)
    {accesses : List Access} (valid : ∀ access ∈ accesses, access.Valid) :
    Represents describe (runs (perform describe) configMap accesses).1
        (runs (interpret describe) abstracted accesses).1 ∧
      (runs (perform describe) configMap accesses).2 =
        (runs (interpret describe) abstracted accesses).2 := by
  induction accesses generalizing configMap abstracted with
  | nil => exact ⟨represents, rfl⟩
  | cons access accesses ih =>
      rw [List.forall_mem_cons] at valid
      rcases perform_interpret represents valid.1 with ⟨related, same⟩
      rcases ih related valid.2 with ⟨relatedRest, sameRest⟩
      refine ⟨relatedRest, ?_⟩
      simp only [runs, same, sameRest]

/-- A table is saved over a text that cannot be decoded, and fetched. -/
theorem runs_perform_eq_repaired :
    let table : Table := ⟨(∅ : GoMap String Target).insert "a" ⟨"svc", 8080, "app", "dp-a", 100⟩⟩
    ∃ err, (runs (perform fun _ => "") ⟨none⟩ [.edit "hosts: []", .fetch, .save table, .fetch]).2 =
      [.edited, .fetched (.error err), .saved (.ok ()), .fetched (.ok (some table.m))] := by
  intro table
  have nothing : Represents (fun _ => "") ⟨none⟩ ⟨none⟩ := ⟨by simp, by simp⟩
  have refused : Table.unmarshalText "hosts: []" = none := by
    have exposed : "hosts: []".toList = 'h' :: "osts: []".toList := by decide
    rw [Table.unmarshalText, exposed, Json.decode, Json.readValue_cons (by decide)]
    simp [Json.readKeyword]
  have fits : table.Representable := by
    intro host target found
    rw [GoMap.lookup_insert_ite] at found
    split at found
    · rw [← Option.some.inj found]
      exact (by decide : Json.InRange portBits 8080)
    · simp at found
  have valid : ∀ access ∈ [.edit "hosts: []", .fetch, .save table, .fetch],
      Access.Valid access := by
    simp [Valid, refused, fits]
  rw [(runs_perform_eq nothing valid).2]
  simp [runs, interpret, documentOf, refused, fetchTableFromConfigMap, saveTableToConfigMap,
    Table.marshalJSON, Table.unmarshalJSON, Except.map]

end Access

end Texts

end KedaHttp.Routing
