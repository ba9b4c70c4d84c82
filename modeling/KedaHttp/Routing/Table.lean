import KedaHttp.Foundation.GoStrings
import KedaHttp.Foundation.MergePatch

/-!
# The routing table and its ConfigMap

`Table` and `Target` from `pkg/routing`, and the two functions that move a table in and out of
the data of a ConfigMap. The mutex of a table is not modelled: its methods are atomic.

The JSON text under the ConfigMap's key is modelled up to its layout, by the table it decodes to
or by the decoder's error. That decoding undoes encoding is thus part of the model.
-/

namespace KedaHttp.Routing

open KedaHttp.Foundation

structure Target where
  service : String
  port : Int
  deployment : String
  ns : String
  targetPendingRequests : Int32
  deriving DecidableEq, Repr

def newTarget (ns svc : String) (port : Int) (depl : String) (targetPendingReqs : Int32) :
    Target where
  service := svc
  port := port
  deployment := depl
  ns := ns
  targetPendingRequests := targetPendingReqs

/-- The text of `ErrTargetNotFound`. -/
def errTargetNotFound : String := "Target not found"

structure Table where
  m : GoMap String Target
  deriving DecidableEq

def newTable : Table := ⟨∅⟩

namespace Table

@[ext]
theorem ext_lookup {left right : Table}
    (same : ∀ host, left.m.lookup host = right.m.lookup host) : left = right := by
  cases left
  cases right
  congr
  exact Finmap.ext_lookup same

def hasHost (t : Table) (host : String) : Bool := host ∈ t.m

/-- `Lookup` tries the host as it is, and then without what follows its last colon. -/
def lookup (t : Table) (host : String) : Except String Target :=
  let keys := host :: (beforeLast ':' host).toList
  match keys.findSome? fun key => t.m.lookup key with
  | some target => .ok target
  | none => .error errTargetNotFound

def addTarget (t : Table) (host : String) (target : Target) : Except String Table :=
  if host ∈ t.m then .error ("host " ++ host ++ " is already registered in the routing table")
  else .ok ⟨t.m.insert host target⟩

def removeTarget (t : Table) (host : String) : Except String Table :=
  if host ∈ t.m then .ok ⟨t.m.erase host⟩
  else .error ("host " ++ host ++ " did not exist in the routing table")

theorem lookup_of_freeOf (t : Table) {host : String} (colonFree : FreeOf ':' host) :
    t.lookup host =
      match t.m.lookup host with
      | some target => .ok target
      | none => .error errTargetNotFound := by
  rw [lookup, beforeLast_of_freeOf colonFree]
  cases found : t.m.lookup host <;> simp [found]

/-- The loops of the operator go on with the unchanged table when one of its hosts is refused. -/
def addTargets (t : Table) (hosts : List String) (target : Target) : Table :=
  hosts.foldl (fun table host =>
    match table.addTarget host target with
    | .ok added => added
    | .error _ => table) t

@[inherit_doc addTargets]
def removeTargets (t : Table) (hosts : List String) : Table :=
  hosts.foldl (fun table host =>
    match table.removeTarget host with
    | .ok removed => removed
    | .error _ => table) t

/-- Adding keeps the entries that exist and gives the other hosts the new target. -/
theorem lookup_addTargets (t : Table) (hosts : List String) (target : Target) (host : String) :
    (t.addTargets hosts target).m.lookup host =
      (t.m.lookup host).or (if host ∈ hosts then some target else none) := by
  induction hosts generalizing t with
  | nil => simp [addTargets]
  | cons first hosts ih =>
      have rest := ih (match t.addTarget first target with | .ok added => added | .error _ => t)
      simp only [addTargets, List.foldl_cons] at rest ⊢
      rw [rest]
      by_cases registered : first ∈ t.m
      · rw [addTarget, if_pos registered]
        rcases Finmap.mem_iff.mp registered with ⟨existing, found⟩
        by_cases same : host = first
        · subst same
          simp [found]
        · simp [same]
      · rw [addTarget, if_neg registered]
        simp only [GoMap.lookup_insert_ite]
        by_cases same : host = first
        · subst same
          simp [Finmap.lookup_eq_none.mpr registered]
        · simp [same]

theorem lookup_removeTargets (t : Table) (hosts : List String) (host : String) :
    (t.removeTargets hosts).m.lookup host =
      if host ∈ hosts then none else t.m.lookup host := by
  induction hosts generalizing t with
  | nil => simp [removeTargets]
  | cons first hosts ih =>
      have rest := ih (match t.removeTarget first with | .ok removed => removed | .error _ => t)
      simp only [removeTargets, List.foldl_cons] at rest ⊢
      rw [rest]
      by_cases registered : first ∈ t.m
      · rw [removeTarget, if_pos registered]
        simp only [GoMap.lookup_erase_ite, List.mem_cons]
        by_cases same : host = first <;> simp [same]
      · rw [removeTarget, if_neg registered]
        by_cases same : host = first
        · subst same
          simp [Finmap.lookup_eq_none.mpr registered]
        · simp [same]

section Targets

variable {t : Table} {hosts : List String}

theorem addTargets_of_registered (registered : ∀ host ∈ hosts, host ∈ t.m) (target : Target) :
    t.addTargets hosts target = t := by
  ext1 host
  rw [lookup_addTargets]
  by_cases member : host ∈ hosts
  · rcases Finmap.mem_iff.mp (registered host member) with ⟨existing, found⟩
    rw [found, Option.some_or]
  · rw [if_neg member, Option.or_none]

theorem removeTargets_eq_self_iff (registered : ∀ host ∈ hosts, host ∈ t.m) :
    t.removeTargets hosts = t ↔ hosts = [] := by
  constructor
  · intro same
    rw [List.eq_nil_iff_forall_not_mem]
    intro host member
    have removed := lookup_removeTargets t hosts host
    rw [same, if_pos member] at removed
    exact Finmap.lookup_eq_none.mp removed (registered host member)
  · rintro rfl
    rfl

/-- Removing what was added restores the table, if none of it was there before. -/
theorem removeTargets_addTargets (absent : ∀ host ∈ hosts, host ∉ t.m) (target : Target) :
    (t.addTargets hosts target).removeTargets hosts = t := by
  ext1 host
  rw [lookup_removeTargets, lookup_addTargets]
  by_cases member : host ∈ hosts
  · rw [if_pos member, Finmap.lookup_eq_none.mpr (absent host member)]
  · rw [if_neg member, if_neg member, Option.or_none]

end Targets

/-- A property of all entries of a table. -/
def Every (Entry : String → Target → Prop) (t : Table) : Prop :=
  ∀ host target, t.m.lookup host = some target → Entry host target

section Every

variable {Entry : String → Target → Prop} {t : Table}

theorem every_newTable : Every Entry newTable := by
  intro host target found
  simp [newTable] at found

theorem Every.removeTargets (every : Every Entry t) (hosts : List String) :
    Every Entry (t.removeTargets hosts) := by
  intro host target found
  rw [lookup_removeTargets] at found
  split at found
  · simp at found
  · exact every host target found

theorem Every.addTargets (every : Every Entry t) {hosts : List String} {target : Target}
    (registers : ∀ host ∈ hosts, host ∉ t.m → Entry host target) :
    Every Entry (t.addTargets hosts target) := by
  intro host found looked
  rw [lookup_addTargets] at looked
  cases existing : t.m.lookup host with
  | some old =>
      rw [existing, Option.some_or, Option.some.injEq] at looked
      exact looked ▸ every host old existing
  | none =>
      rw [existing, Option.none_or] at looked
      split at looked
      · next member =>
          simp only [Option.some.injEq] at looked
          exact looked ▸ registers host member (Finmap.lookup_eq_none.mp existing)
      · simp at looked

end Every

end Table

/-- How a Go function can fail. -/
inductive Failure where
  | error (err : String)
  | panic (value : String)
  deriving DecidableEq, Repr

/-- `errors.Wrap`. A panic passes through. -/
def Failure.wrap (msg : String) : Failure → Failure
  | error err => error (msg ++ ": " ++ err)
  | panic value => panic value

/-- A JSON text as seen by the decoder of routing tables. -/
inductive Document where
  | encoded (table : Table)
  | malformed (err : String)
  deriving DecidableEq

def Table.marshalJSON (t : Table) : Document := .encoded t

def Table.unmarshalJSON : Document → Except String Table
  | .encoded table => .ok table
  | .malformed err => .error err

/-- The data of a ConfigMap, which is a nil map if the object has no data. -/
structure ConfigMap where
  data : Option (GoMap String Document)
  deriving DecidableEq

def configMapRoutingTableName : String := "keda-http-add-on-routing-table"

def configMapRoutingTableKey : String := "routing-table"

/-- Writing to the data of a ConfigMap without data panics. -/
def saveTableToConfigMap (table : Table) (configMap : ConfigMap) : Except Failure ConfigMap :=
  match configMap.data with
  | some data => .ok ⟨some (data.insert configMapRoutingTableKey table.marshalJSON)⟩
  | none => .error (.panic "assignment to entry in nil map")

def fetchTableFromConfigMap (configMap : ConfigMap) : Except String Table :=
  match configMap.data.bind fun data => data.lookup configMapRoutingTableKey with
  | none =>
      .error ("no '" ++ configMapRoutingTableKey ++ "' key found in the " ++
        configMapRoutingTableName ++ " ConfigMap")
  | some document =>
      match Table.unmarshalJSON document with
      | .ok table => .ok table
      | .error err =>
          .error ("error decoding '" ++ configMapRoutingTableKey ++ "' key in " ++
            configMapRoutingTableName ++ " ConfigMap: " ++ err)

/-- What is saved is what is fetched. -/
theorem fetchTableFromConfigMap_of_save {table : Table} {configMap saved : ConfigMap}
    (save : saveTableToConfigMap table configMap = .ok saved) :
    fetchTableFromConfigMap saved = .ok table := by
  simp only [saveTableToConfigMap] at save
  split at save
  · simp only [Except.ok.injEq] at save
    subst save
    simp [fetchTableFromConfigMap, Table.marshalJSON, Table.unmarshalJSON]
  · simp at save

/-- The ConfigMap of a fresh installation, which holds the empty table. -/
def shippedConfigMap : ConfigMap :=
  ⟨some ((∅ : GoMap String Document).insert configMapRoutingTableKey (.encoded newTable))⟩

end KedaHttp.Routing
