import KedaHttp.Operator.Commuting

/-!
# Taking a finalizer off a list

`remove` from `operator/controllers/http/finalizer.go` ranges over a slice while it shortens the
array behind it. When it deletes an element, the next one moves into its place and is passed over,
and the places that become free at the end of the array keep the last element.

`sweep` is what the loop amounts to: of two equal elements in a row, the second stays. And if the
last element is deleted after an earlier one, the loop comes past its copies at the end of the
array, where there is nothing left to slice.
-/

namespace KedaHttp.Operator

open KedaHttp.Foundation
open KedaHttp.Routing

section Sweep

variable {α : Type} [DecidableEq α]

/-- Deletes an element wherever it occurs, but passes over what follows a deleted one. -/
def sweep (s : α) : List α → List α
  | [] => []
  | v :: rest =>
      if v = s then
        match rest with
        | [] => []
        | next :: rest => next :: sweep s rest
      else v :: sweep s rest

/-- The element does not occur twice in a row. -/
def Scattered (s : α) (list : List α) : Prop :=
  list.IsChain fun v next => ¬(v = s ∧ next = s)

instance (s : α) (list : List α) : Decidable (Scattered s list) :=
  inferInstanceAs (Decidable (list.IsChain _))

theorem sweep_cons_self (s next : α) (rest : List α) :
    sweep s (s :: next :: rest) = next :: sweep s rest := by
  simp [sweep]

theorem sweep_cons_of_ne {s v : α} (differs : v ≠ s) (rest : List α) :
    sweep s (v :: rest) = v :: sweep s rest := by
  rw [sweep.eq_def]
  simp [differs]

omit [DecidableEq α] in
theorem scattered_cons_of_ne {s v : α} (differs : v ≠ s) (rest : List α) :
    Scattered s (v :: rest) ↔ Scattered s rest := by
  cases rest with
  | nil => simp [Scattered]
  | cons next rest => simp [Scattered, differs]

omit [DecidableEq α] in
theorem scattered_cons_self (s next : α) (rest : List α) :
    Scattered s (s :: next :: rest) ↔ next ≠ s ∧ Scattered s rest := by
  constructor
  · intro scattered
    have pair := List.isChain_cons_cons.mp scattered
    have differs : next ≠ s := fun same => pair.1 ⟨rfl, same⟩
    exact ⟨differs, (scattered_cons_of_ne differs rest).mp pair.2⟩
  · rintro ⟨differs, scattered⟩
    apply List.isChain_cons_cons.mpr
    exact ⟨fun both => differs both.2, (scattered_cons_of_ne differs rest).mpr scattered⟩

theorem sweep_of_notMem {s : α} {list : List α} (absent : s ∉ list) : sweep s list = list := by
  induction list with
  | nil => rfl
  | cons v rest ih =>
      rw [List.mem_cons, not_or] at absent
      rw [sweep_cons_of_ne (Ne.symm absent.1), ih absent.2]

/-- A sweep leaves nothing of the element exactly if it does not occur twice in a row. -/
theorem sweep_eq_filter_iff (s : α) (list : List α) :
    sweep s list = list.filter (· ≠ s) ↔ Scattered s list := by
  induction list using sweep.induct s with
  | case1 => simp [sweep, Scattered]
  | case2 => simp [sweep, Scattered]
  | case3 next rest ih =>
      rw [sweep_cons_self, scattered_cons_self, ← ih]
      by_cases same : next = s
      · -- The second of two stays in the sweep, and the filter has none.
        have member : next ∈ next :: sweep s rest := List.mem_cons_self
        constructor
        · intro filtered
          rw [filtered] at member
          simp [same] at member
        · intro split
          exact absurd same split.1
      · simp [same]
  | case4 v rest differs ih =>
      rw [sweep_cons_of_ne differs, scattered_cons_of_ne differs, ← ih]
      simp [differs]

end Sweep

section Remove

/-- The array in the middle of the loop: what was kept, what is to come, and copies of the last. -/
def Backing.amid (kept rest : List String) (deleted : ℕ) (last : String) : Backing :=
  ⟨kept ++ rest ++ List.replicate deleted last, kept.length + rest.length⟩

/-- The slice `list` at the end of the loop. -/
def Backing.list (backing : Backing) : List String := backing.array.take backing.length

theorem remove_eq (list : List String) (s : String) :
    remove list s =
      (removeFrom s ⟨list, list.length⟩ (List.range list.length)).map Backing.list := by
  rw [remove]
  cases removeFrom s ⟨list, list.length⟩ (List.range list.length) <;> rfl

def outOfRange : Failure := .panic "slice bounds out of range"

variable {s : String} {backing : Backing}

theorem removeFrom_of_absent {positions : List ℕ}
    (absent : ∀ i ∈ positions, backing.array[i]? ≠ some s) :
    removeFrom s backing positions = .ok backing := by
  induction positions with
  | nil => rfl
  | cons i positions ih =>
      rw [List.forall_mem_cons] at absent
      rw [removeFrom, if_neg absent.1]
      exact ih absent.2

theorem removeFrom_of_behind {i : ℕ} (found : backing.array[i]? = some s)
    (behind : backing.length ≤ i) (positions : List ℕ) :
    removeFrom s backing (i :: positions) = .error outOfRange := by
  have refused : backing.deleteAt i = .error outOfRange := if_neg (by omega)
  rw [removeFrom, if_pos found, refused]

variable {kept rest : List String} {deleted : ℕ} {last v : String}

theorem Backing.amid_cons :
    amid kept (v :: rest) deleted last = amid (kept ++ [v]) rest deleted last := by
  simp [amid, Nat.add_assoc, Nat.add_comm 1]

theorem range'_amid (kept : List String) (v : String) (left : ℕ) :
    List.range' kept.length (left + 1) =
      kept.length :: List.range' (kept ++ [v]).length left := by
  rw [List.range'_succ, List.length_append, List.length_singleton]

theorem Backing.getElem?_amid :
    (amid kept (v :: rest) deleted last).array[kept.length]? = some v := by
  simp [amid]

/-- Behind the slice, the loop only meets copies of the last element. -/
theorem Backing.getElem?_amid_nil {i : ℕ} (behind : i < deleted) :
    (amid kept [] deleted last).array[kept.length + i]? = some last := by
  simp [amid, behind]

theorem Backing.list_amid_nil : (amid kept [] deleted last).list = kept := by
  simp [amid, list]

/-- A deletion moves the rest down, and leaves one more copy of the last element behind. -/
theorem Backing.deleteAt_amid (ends : (v :: rest).getLast? = some last) :
    (amid kept (v :: rest) deleted last).deleteAt kept.length =
      .ok (amid kept rest (deleted + 1) last) := by
  have tail : (v :: rest).drop rest.length = [last] := by
    obtain ⟨front, split⟩ := List.getLast?_eq_some_iff.mp ends
    have length : rest.length = front.length := by
      have lengths := congrArg List.length split
      simp only [List.length_cons, List.length_append, List.length_nil] at lengths
      omega
    rw [split, length, List.drop_left]
  have below : kept.length + 1 ≤ kept.length + (v :: rest).length := by simp
  have before : kept.length + (v :: rest).length - 1 = kept.length + rest.length := by
    simp only [List.length_cons]
    omega
  have behind : (kept ++ v :: rest ++ List.replicate deleted last).drop
      (kept.length + rest.length) = List.replicate (deleted + 1) last := by
    rw [List.append_assoc, List.drop_length_add_append, List.drop_append_of_le_length (by simp),
      tail]
    rfl
  have moved : ((kept ++ v :: rest ++ List.replicate deleted last).take
      (kept.length + (v :: rest).length)).drop (kept.length + 1) = rest := by
    rw [← List.length_append, List.take_left, List.drop_length_add_append]
    rfl
  rw [deleteAt, amid, if_pos below, moved, before, behind]
  simp [amid]

theorem removeFrom_amid_self (ends : (s :: rest).getLast? = some last) (positions : List ℕ) :
    removeFrom s (.amid kept (s :: rest) deleted last) (kept.length :: positions) =
      removeFrom s (.amid kept rest (deleted + 1) last) positions := by
  rw [removeFrom, if_pos Backing.getElem?_amid, Backing.deleteAt_amid ends]

theorem removeFrom_amid_of_ne (differs : v ≠ s) (positions : List ℕ) :
    removeFrom s (.amid kept (v :: rest) deleted last) (kept.length :: positions) =
      removeFrom s (.amid (kept ++ [v]) rest deleted last) positions := by
  have absent : (Backing.amid kept (v :: rest) deleted last).array[kept.length]? ≠ some s := by
    rw [Backing.getElem?_amid]
    exact fun found => differs (Option.some.inj found)
  rw [removeFrom, if_neg absent, Backing.amid_cons]

/-- Behind the slice, the loop panics at the first place, or changes nothing. -/
theorem removeFrom_copies (kept : List String) (s last : String) (skipped visited : ℕ) :
    removeFrom s (.amid kept [] (skipped + visited) last)
      (List.range' (kept.length + skipped) visited) =
        if last = s ∧ 0 < visited then .error outOfRange
        else .ok (.amid kept [] (skipped + visited) last) := by
  by_cases panics : last = s ∧ 0 < visited
  · obtain ⟨rfl, positive⟩ := panics
    have copy : skipped < skipped + visited := by omega
    obtain ⟨visited, rfl⟩ := Nat.exists_eq_succ_of_ne_zero positive.ne'
    rw [if_pos ⟨rfl, positive⟩, List.range'_succ]
    apply removeFrom_of_behind (Backing.getElem?_amid_nil copy)
    exact Nat.le_add_right kept.length skipped
  · rw [if_neg panics]
    apply removeFrom_of_absent
    intro i member found
    obtain ⟨below, above⟩ := List.mem_range'_1.mp member
    obtain ⟨offset, rfl⟩ := Nat.exists_eq_add_of_le below
    have copy : skipped + offset < skipped + visited := by omega
    rw [Nat.add_assoc, Backing.getElem?_amid_nil copy] at found
    apply panics
    exact ⟨Option.some.inj found, by omega⟩

/--
The loop from any point on. It panics if the last element is deleted after another one, since the
copies behind the slice are then deleted too; else it returns a sweep.
-/
theorem map_removeFrom_amid (ends : ∀ e ∈ rest.getLast?, e = last) :
    (removeFrom s (.amid kept rest deleted last)
      (List.range' kept.length (rest.length + deleted))).map Backing.list =
        if last = s ∧ (0 < deleted ∨ 2 ≤ rest.count s) then .error outOfRange
        else .ok (kept ++ sweep s rest) := by
  induction rest using sweep.induct s generalizing kept deleted with
  | case1 =>
      -- Every deletion has left one place behind the slice, and the loop visits all of them.
      have copies := removeFrom_copies kept s last 0 deleted
      simp only [Nat.zero_add, Nat.add_zero] at copies
      rw [List.length_nil, Nat.zero_add, copies]
      by_cases panics : last = s ∧ 0 < deleted
      · simp [panics, Except.map]
      · simp [panics, Except.map, sweep, Backing.list_amid_nil]
  | case2 =>
      -- Deleting the last element uses up its own place, so the copies are those made before.
      obtain rfl : s = last := ends s rfl
      have copies := removeFrom_copies kept s s 1 deleted
      have lasts : [s].getLast? = some s := rfl
      simp only [Nat.add_comm 1] at copies
      rw [List.length_singleton, Nat.add_comm 1, List.range'_succ, removeFrom_amid_self lasts,
        copies]
      by_cases panics : 0 < deleted
      · simp [panics, Except.map]
      · simp [panics, Except.map, sweep, Backing.list_amid_nil]
  | case3 next rest ih =>
      -- The element that moves down is kept unseen.
      have lasts : (next :: rest).getLast? = some last := by
        have final := List.getLast?_eq_some_getLast (List.cons_ne_nil next rest)
        rw [final, ends _ (List.getLast?_cons_cons.trans final)]
      have restEnds : ∀ e ∈ rest.getLast?, e = last := by
        intro e final
        exact ends e (List.mem_getLast?_cons (List.mem_getLast?_cons final))
      have left : (s :: next :: rest).length + deleted =
          rest.length + (deleted + 1) + 1 := by
        simp only [List.length_cons]
        omega
      have twice : last = s → 2 ≤ (s :: next :: rest).count s := by
        rintro rfl
        have member := List.count_pos_iff.mpr (List.mem_of_getLast? lasts)
        rw [List.count_cons_self]
        omega
      rw [left, range'_amid kept next,
        removeFrom_amid_self (List.getLast?_cons_cons.trans lasts), Backing.amid_cons,
        ih restEnds, sweep_cons_self]
      by_cases same : last = s
      · rw [if_pos ⟨same, .inl (Nat.succ_pos deleted)⟩, if_pos ⟨same, .inr (twice same)⟩]
      · simp [same]
  | case4 v rest differs ih =>
      have restEnds : ∀ e ∈ rest.getLast?, e = last := by
        intro e final
        exact ends e (List.mem_getLast?_cons final)
      have left : (v :: rest).length + deleted = rest.length + deleted + 1 := by
        simp only [List.length_cons]
        omega
      rw [left, range'_amid kept v, removeFrom_amid_of_ne differs, ih restEnds,
        sweep_cons_of_ne differs, List.count_cons_of_ne differs]
      simp

/--
The whole loop: it panics if the last element is deleted and another equal one before it; else it
returns a sweep.
-/
theorem remove_eq_sweep (list : List String) (s : String) :
    remove list s =
      if list.getLast? = some s ∧ 2 ≤ list.count s then .error outOfRange
      else .ok (sweep s list) := by
  cases final : list.getLast? with
  | none =>
      obtain rfl := List.getLast?_eq_none_iff.mp final
      rfl
  | some last =>
      have loop : (removeFrom s (.amid [] list 0 last)
          (List.range' ([] : List String).length (list.length + 0))).map Backing.list = _ :=
        map_removeFrom_amid (by simp [final])
      have start : Backing.amid [] list 0 last = ⟨list, list.length⟩ := by
        simp [Backing.amid]
      simp only [start, List.length_nil, Nat.add_zero, ← List.range_eq_range'] at loop
      rw [remove_eq, loop]
      simp

theorem remove_eq_error_iff {list : List String} {s : String} :
    (∃ value, remove list s = .error (.panic value)) ↔
      list.getLast? = some s ∧ 2 ≤ list.count s := by
  rw [remove_eq_sweep]
  by_cases panics : list.getLast? = some s ∧ 2 ≤ list.count s
  · simp [panics, outOfRange]
  · simp [panics]

theorem remove_eq_filter_iff {list : List String} {s : String} :
    remove list s = .ok (list.filter (· ≠ s)) ↔
      Scattered s list ∧ (list.getLast? = some s → list.count s ≤ 1) := by
  rw [remove_eq_sweep]
  by_cases panics : list.getLast? = some s ∧ 2 ≤ list.count s
  · have twice : ¬(list.getLast? = some s → list.count s ≤ 1) := by
      intro once
      have := once panics.1
      omega
    rw [if_pos panics]
    exact ⟨nofun, fun both => absurd both.2 twice⟩
  · have once : list.getLast? = some s → list.count s ≤ 1 := by
      intro last
      by_contra more
      apply panics
      exact ⟨last, by omega⟩
    rw [if_neg panics, Except.ok.injEq, sweep_eq_filter_iff]
    exact ⟨fun scattered => ⟨scattered, once⟩, fun both => both.1⟩

end Remove

section Finalizing

/-- The finalizers that an object carries in the cluster. One that is gone carries none. -/
def State.carried (state : State) (key : ObjectKey) : List String :=
  (state.finalizers key).getD []

theorem carried_of_update {faults : Faults} {state : State} {httpso : HTTPScaledObject}
    {updated : Cluster}
    (update : state.cluster.updateHTTPScaledObject faults httpso = .ok updated) :
    ({ state with cluster := updated } : State).carried httpso.key = httpso.finalizers := by
  rcases Cluster.exists_of_update update with ⟨stored, found, rfl⟩
  by_cases released : stored.deletionTimestamp = true ∧ httpso.finalizers = []
  · simp [State.carried, State.finalizers, Cluster.storeUpdate, released]
  · simp [State.carried, State.finalizers, Cluster.storeUpdate, if_neg released]

/-- A successful `finalizeScaledObject` leaves a sweep of the finalizers on the object. -/
theorem carried_of_finalizeScaledObject {faults : Faults} {state : State}
    {httpso : HTTPScaledObject}
    (stored : state.finalizers httpso.key = some httpso.finalizers)
    (succeeds : (finalizeScaledObject faults state httpso).2 = .ok ()) :
    (finalizeScaledObject faults state httpso).1.carried httpso.key =
      sweep httpScaledObjectFinalizer httpso.finalizers := by
  by_cases present : httpScaledObjectFinalizer ∈ httpso.finalizers
  · simp only [finalizeScaledObject, if_pos present] at succeeds ⊢
    rw [remove_eq_sweep] at succeeds ⊢
    by_cases panics : httpso.finalizers.getLast? = some httpScaledObjectFinalizer ∧
        2 ≤ httpso.finalizers.count httpScaledObjectFinalizer
    · simp [if_pos panics] at succeeds
    · simp only [if_neg panics] at succeeds ⊢
      cases update : state.cluster.updateHTTPScaledObject faults
          { httpso with
            finalizers := sweep httpScaledObjectFinalizer httpso.finalizers } with
      | error err => simp [update] at succeeds
      | ok updated => exact carried_of_update update
  · simp only [finalizeScaledObject, if_neg present, State.carried, stored, Option.getD_some]
    exact (sweep_of_notMem present).symm

/-- The objects whose finalization panics list the finalizer last, and a second time. -/
theorem panicsFinalizing_iff (httpso : HTTPScaledObject) :
    httpso.panicsFinalizing = true ↔
      httpso.finalizers.getLast? = some httpScaledObjectFinalizer ∧
        2 ≤ httpso.finalizers.count httpScaledObjectFinalizer := by
  rw [HTTPScaledObject.panicsFinalizing, Bool.and_eq_true, decide_eq_true_eq, panicked_iff,
    remove_eq_error_iff]
  constructor
  · exact fun panics => panics.2
  · exact fun panics => ⟨List.mem_of_getLast? panics.1, panics⟩

/--
`remove` panics exactly if the list ends with the element and has another one. It returns the list
without the element exactly if it does not panic and no two of the elements stand side by side.
After a successful `finalizeScaledObject` the object is rid of the finalizer, and of no other,
exactly if it was not listed twice in a row.
-/
theorem finalizers_filtered_iff (list : List String) (s : String) (faults : Faults)
    {state : State} {httpso : HTTPScaledObject}
    (stored : state.finalizers httpso.key = some httpso.finalizers) :
    ((∃ value, remove list s = .error (.panic value)) ↔
      list.getLast? = some s ∧ 2 ≤ list.count s) ∧
    (remove list s = .ok (list.filter (· ≠ s)) ↔
      Scattered s list ∧ (list.getLast? = some s → list.count s ≤ 1)) ∧
    ((finalizeScaledObject faults state httpso).2 = .ok () →
      ((finalizeScaledObject faults state httpso).1.carried httpso.key =
        httpso.finalizers.filter (· ≠ httpScaledObjectFinalizer) ↔
          Scattered httpScaledObjectFinalizer httpso.finalizers)) := by
  refine ⟨remove_eq_error_iff, remove_eq_filter_iff, ?_⟩
  intro succeeds
  rw [carried_of_finalizeScaledObject stored succeeds]
  exact sweep_eq_filter_iff httpScaledObjectFinalizer httpso.finalizers

def sampleFinalized (finalizers : List String) : HTTPScaledObject :=
  { sampleObject "dp-a" "y" (sampleSpec "app" ["a"]) with
    finalizers := finalizers, deletionTimestamp := true }

/-- A finalizer listed once goes, and the one of another controller stays. -/
theorem finalizers_filtered_iff_other :
    let httpso := sampleFinalized ["other", httpScaledObjectFinalizer]
    (finalizeScaledObject noFaults (State.initial.store httpso) httpso).1.carried httpso.key =
      ["other"] := by
  intro httpso
  have stored : (State.initial.store httpso).finalizers httpso.key = some httpso.finalizers := by
    decide
  have filtered := finalizers_filtered_iff httpso.finalizers httpScaledObjectFinalizer noFaults
    stored
  exact (filtered.2.2 (by decide)).mpr (by decide)

/--
A finalizer listed twice makes the removal panic. With another one behind, the removal succeeds
and leaves the second on the object.
-/
theorem not_finalizers_filtered :
    (∃ value, remove [httpScaledObjectFinalizer, httpScaledObjectFinalizer]
      httpScaledObjectFinalizer = .error (.panic value)) ∧
    let httpso := sampleFinalized
      [httpScaledObjectFinalizer, httpScaledObjectFinalizer, "other"]
    (finalizeScaledObject noFaults (State.initial.store httpso) httpso).2 = .ok () ∧
    (finalizeScaledObject noFaults (State.initial.store httpso) httpso).1.carried httpso.key =
      [httpScaledObjectFinalizer, "other"] := by
  refine ⟨remove_eq_error_iff.mpr (by decide), ?_⟩
  intro httpso
  exact ⟨by decide, by decide⟩

end Finalizing

end KedaHttp.Operator
