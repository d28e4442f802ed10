import Mathlib.Data.List.Nodup
import Mathlib.Data.String.Basic
import TagTemplate.Parameters

/-!
The report on the kept parameters as a difference. It has one line for each name whose presence or
value differs, in the order of the names, and nothing else: the changes behind the lines turn the
old state into the new one, and no line can be left out. The report can be made from the entries of
both states in any order, because its lines are sorted by name.
-/

namespace TagTemplate.Parameters

namespace Change

def name : Change → String
  | .set name _ | .removed name => name

def value? : Change → Option String
  | .set _ value => some value
  | .removed _ => none

def apply (parameters : Parameters) : Change → Parameters
  | .set name value => parameters.insert name value
  | .removed name => parameters.erase name

theorem ext_name {left right : Change} (names : left.name = right.name)
    (values : left.value? = right.value?) : left = right := by
  cases left <;> cases right <;> simp_all [name, value?]

theorem text_set (name value : String) :
    (set name value).text = "persistent " ++ name ++ "=" ++ value :=
  rfl

theorem text_removed (name : String) : (removed name).text = "persistent " ++ name ++ " removed" :=
  rfl

theorem getElem?_apply (parameters : Parameters) (change : Change) (name : String) :
    (apply parameters change)[name]? =
      if change.name = name then change.value? else parameters[name]? := by
  by_cases about : change.name = name
  · subst about
    cases change <;> simp [apply, Change.name, value?]
  · rw [if_neg about]
    cases change with
    | set changed value =>
        simp [apply, Std.ExtTreeMap.getElem?_insert, show changed ≠ name from about]
    | removed changed =>
        simp [apply, Std.ExtTreeMap.getElem?_erase, show changed ≠ name from about]

theorem getElem?_foldl_apply (changes : List Change) {left right : Parameters} {name : String}
    (same : left[name]? = right[name]?) :
    (changes.foldl apply left)[name]? =
      ((changes.filter (·.name = name)).foldl apply right)[name]? := by
  induction changes generalizing left right with
  | nil => exact same
  | cons change others ih =>
      by_cases about : change.name = name
      · rw [List.filter_cons_of_pos (by simpa using about)]
        exact ih (by rw [getElem?_apply, getElem?_apply, if_pos about, if_pos about])
      · rw [List.filter_cons_of_neg (by simpa using about)]
        exact ih (by rw [getElem?_apply, if_neg about, same])

end Change

def linesAbout (before after : Parameters) (name : String) : List String :=
  if before[name]? = after[name]? then []
  else
    match after[name]? with
    | some value => ["persistent " ++ name ++ "=" ++ value]
    | none => ["persistent " ++ name ++ " removed"]

def changesSet (before : Parameters) (entries : List (String × String)) : List Change :=
  entries.filterMap fun (name, value) =>
    if before[name]? = some value then none else some (.set name value)

def changesRemoving (after : Parameters) (names : List String) : List Change :=
  names.filterMap fun name => if name ∈ after then none else some (.removed name)

/-- The changes as they are met on a way through the entries of the new state and then the names of
the old one, sorted by name. -/
def collected (before after : Parameters) (entries : List (String × String))
    (names : List String) : List Change :=
  (before.changesSet entries ++ after.changesRemoving names).mergeSort
    fun left right => left.name ≤ right.name

variable {before after : Parameters} {name : String} {change : Change}

theorem change?_eq_some_iff : before.change? after name = some change ↔
    change.name = name ∧ before[name]? ≠ after[name]? ∧ after[name]? = change.value? := by
  unfold change?
  cases before[name]? with
  | none =>
      cases after[name]? with
      | none => simp
      | some value => cases change <;> simp [Change.name, Change.value?, eq_comm]
  | some old =>
      cases after[name]? with
      | none => cases change <;> simp [Change.name, Change.value?, eq_comm]
      | some value =>
          by_cases same : old = value <;> cases change <;>
            simp [same, Change.name, Change.value?, eq_comm]

theorem change?_eq_none_iff :
    before.change? after name = none ↔ before[name]? = after[name]? := by
  unfold change?
  cases before[name]? <;> cases after[name]? <;> simp

theorem mem_names_iff : name ∈ (before.insertMany after.toList).keys ↔
    name ∈ before ∨ name ∈ after := by
  rw [Std.ExtTreeMap.mem_keys, Std.ExtTreeMap.mem_insertMany_list,
    Std.ExtTreeMap.map_fst_toList_eq_keys]
  simp

theorem mem_or_mem_of_ne (differs : before[name]? ≠ after[name]?) :
    name ∈ before ∨ name ∈ after := by
  by_contra absent
  obtain ⟨noBefore, noAfter⟩ := not_or.mp absent
  exact differs (by simp [noBefore, noAfter])

theorem mem_changes_iff : change ∈ before.changes after ↔
    before[change.name]? ≠ after[change.name]? ∧ after[change.name]? = change.value? := by
  rw [changes, List.mem_filterMap]
  constructor
  · rintro ⟨name, -, found⟩
    obtain ⟨rfl, described⟩ := change?_eq_some_iff.mp found
    exact described
  · rintro ⟨differs, value⟩
    exact ⟨change.name, mem_names_iff.mpr (mem_or_mem_of_ne differs),
      change?_eq_some_iff.mpr ⟨rfl, differs, value⟩⟩

theorem eq_of_mem_changes {left right : Change} (first : left ∈ before.changes after)
    (second : right ∈ before.changes after) (same : left.name = right.name) : left = right := by
  refine Change.ext_name same ?_
  rw [← (mem_changes_iff.mp first).2, ← (mem_changes_iff.mp second).2, same]

theorem changes_increasing (before after : Parameters) :
    (before.changes after).Pairwise fun left right => left.name < right.name := by
  rw [changes, List.pairwise_filterMap]
  refine Std.ExtTreeMap.ordered_keys.imp ?_
  intro first second smaller left fromFirst right fromSecond
  rw [(change?_eq_some_iff.mp fromFirst).1, (change?_eq_some_iff.mp fromSecond).1]
  exact compare_lt_iff_lt.mp smaller

theorem changes_nodup (before after : Parameters) : (before.changes after).Nodup := by
  refine (changes_increasing before after).imp ?_
  rintro left _ smaller rfl
  exact lt_irrefl left.name smaller

theorem filter_changes (before after : Parameters) (name : String) :
    (before.changes after).filter (·.name = name) = (before.change? after name).toList := by
  have member (change : Change) : change ∈ (before.changes after).filter (·.name = name) ↔
      before.change? after name = some change := by
    rw [List.mem_filter, decide_eq_true_iff, mem_changes_iff, change?_eq_some_iff]
    constructor
    · rintro ⟨described, rfl⟩
      exact ⟨rfl, described⟩
    · rintro ⟨rfl, described⟩
      exact ⟨described, rfl⟩
  cases found : before.change? after name with
  | none =>
      refine List.eq_nil_iff_forall_not_mem.mpr fun change present => ?_
      rw [member, found] at present
      cases present
  | some change =>
      refine List.perm_singleton.mp ?_
      rw [List.perm_ext_iff_of_nodup ((changes_nodup before after).filter _)
        (List.nodup_singleton change)]
      intro other
      rw [member, found, List.mem_singleton, Option.some.injEq, eq_comm]

theorem lines_filter_changes (before after : Parameters) (name : String) :
    ((before.changes after).filter (·.name = name)).map Change.text =
      before.linesAbout after name := by
  rw [filter_changes, linesAbout]
  unfold change?
  cases before[name]? with
  | none => cases after[name]? <;> simp [Change.text_set]
  | some old =>
      cases after[name]? with
      | none => simp [Change.text_removed]
      | some value => by_cases same : old = value <;> simp [same, Change.text_set]

theorem foldl_apply_changes (before after : Parameters) :
    (before.changes after).foldl Change.apply before = after := by
  refine Std.ExtTreeMap.ext_getElem? fun name => ?_
  rw [Change.getElem?_foldl_apply _ rfl, filter_changes]
  cases found : before.change? after name with
  | none => exact change?_eq_none_iff.mp found
  | some change =>
      obtain ⟨about, -, value⟩ := change?_eq_some_iff.mp found
      rw [value, Option.toList_some, List.foldl_cons, List.foldl_nil, Change.getElem?_apply,
        if_pos about]

theorem changes_eq_nil_iff : before.changes after = [] ↔ before = after := by
  constructor
  · intro nothing
    rw [← foldl_apply_changes before after, nothing, List.foldl_nil]
  · rintro rfl
    refine List.eq_nil_iff_forall_not_mem.mpr fun change member => ?_
    exact (mem_changes_iff.mp member).1 rfl

theorem mem_changesSet_iff {entries : List (String × String)} :
    change ∈ before.changesSet entries ↔
      ∃ name value, (name, value) ∈ entries ∧ before[name]? ≠ some value ∧
        .set name value = change := by
  simp [changesSet]

theorem mem_changesRemoving_iff {names : List String} :
    change ∈ after.changesRemoving names ↔
      ∃ name ∈ names, name ∉ after ∧ .removed name = change := by
  simp [changesRemoving]

theorem nodup_toList (parameters : Parameters) : parameters.toList.Nodup := by
  refine Std.ExtTreeMap.distinct_keys_toList.imp ?_
  rintro entry _ distinct rfl
  exact distinct Std.compare_self

theorem changesSet_nodup {entries : List (String × String)} (nodup : entries.Nodup) :
    (before.changesSet entries).Nodup := by
  refine nodup.filterMap ?_
  rintro ⟨name, value⟩ ⟨other, otherValue⟩ change first second
  simp only [Option.mem_def, Option.ite_none_left_eq_some, Option.some.injEq] at first second
  obtain ⟨rfl, rfl⟩ := Change.set.inj (first.2.trans second.2.symm)
  rfl

theorem changesRemoving_nodup {names : List String} (nodup : names.Nodup) :
    (after.changesRemoving names).Nodup := by
  refine nodup.filterMap ?_
  rintro name other change first second
  simp only [Option.mem_def, Option.ite_none_left_eq_some, Option.some.injEq] at first second
  exact Change.removed.inj (first.2.trans second.2.symm)

theorem changesSet_disjoint (entries : List (String × String)) (names : List String) :
    (before.changesSet entries).Disjoint (after.changesRemoving names) := by
  intro change first second
  obtain ⟨_, _, -, -, rfl⟩ := mem_changesSet_iff.mp first
  obtain ⟨_, -, -, removed⟩ := mem_changesRemoving_iff.mp second
  cases removed

theorem perm_changes {entries : List (String × String)} {names : List String}
    (allEntries : entries.Perm after.toList) (allNames : names.Perm before.keys) :
    (before.changesSet entries ++ after.changesRemoving names).Perm (before.changes after) := by
  have nodup : (before.changesSet entries ++ after.changesRemoving names).Nodup :=
    (changesSet_nodup (allEntries.nodup_iff.mpr after.nodup_toList)).append
      (changesRemoving_nodup (allNames.nodup_iff.mpr Std.ExtTreeMap.nodup_keys))
      (changesSet_disjoint entries names)
  rw [List.perm_ext_iff_of_nodup nodup (changes_nodup before after)]
  intro change
  rw [List.mem_append, mem_changesSet_iff, mem_changesRemoving_iff, mem_changes_iff]
  simp only [allEntries.mem_iff, allNames.mem_iff,
    Std.ExtTreeMap.mem_toList_iff_getElem?_eq_some, Std.ExtTreeMap.mem_keys]
  cases change with
  | set name value =>
      suffices after[name]? = some value ∧ before[name]? ≠ some value ↔
          before[name]? ≠ after[name]? ∧ after[name]? = some value by
        simpa [Change.name, Change.value?] using this
      constructor
      · rintro ⟨kept, differs⟩
        exact ⟨by rwa [kept], kept⟩
      · rintro ⟨differs, kept⟩
        exact ⟨kept, by rwa [kept] at differs⟩
  | removed name =>
      suffices name ∈ before ∧ name ∉ after ↔ before[name]? ≠ after[name]? ∧ after[name]? = none by
        simpa [Change.name, Change.value?] using this
      rw [Std.ExtTreeMap.mem_iff_isSome_getElem?, Std.ExtTreeMap.mem_iff_isSome_getElem?]
      cases before[name]? <;> cases after[name]? <;> simp

theorem collected_eq_changes {entries : List (String × String)} {names : List String}
    (allEntries : entries.Perm after.toList) (allNames : names.Perm before.keys) :
    before.collected after entries names = before.changes after := by
  have same : (before.collected after entries names).Perm (before.changes after) :=
    (List.mergeSort_perm _ _).trans (perm_changes allEntries allNames)
  have sorted : (before.collected after entries names).Pairwise
      fun left right => decide (left.name ≤ right.name) = true :=
    List.pairwise_mergeSort (fun _ _ _ => by simpa using le_trans)
      (fun left right => by simpa using le_total left.name right.name) _
  refine List.Perm.eq_of_pairwise ?_ sorted ?_ same
  · intro left right first second below above
    exact eq_of_mem_changes (same.mem_iff.mp first) second
      (le_antisymm (of_decide_eq_true below) (of_decide_eq_true above))
  · exact (changes_increasing before after).imp fun smaller => decide_eq_true smaller.le

/-- The report on two states has exactly one line for each name whose presence or value differs, in
strictly increasing order of the names, however the entries of the states are listed. It is empty
only if nothing differs, and its changes turn the old state into the new one. -/
theorem changes_exact (before after : Parameters) :
    (∀ name, ((before.changes after).filter (·.name = name)).map Change.text =
      before.linesAbout after name) ∧
    ((before.changes after).map Change.name).Pairwise (· < ·) ∧
    (∀ entries names, entries.Perm after.toList → names.Perm before.keys →
      before.collected after entries names = before.changes after) ∧
    (before.changes after = [] ↔ before = after) ∧
    (before.changes after).foldl Change.apply before = after :=
  ⟨lines_filter_changes before after, List.pairwise_map.mpr (changes_increasing before after),
    fun _ _ => collected_eq_changes, changes_eq_nil_iff, foldl_apply_changes before after⟩

def firstVisit : Parameters :=
  ((∅ : Parameters).insert "visits" "1").insert "page" "home" |>.insert "id" ""

def secondVisit : Parameters :=
  ((∅ : Parameters).insert "visits" "2").insert "page" "home" |>.insert "Z" "a=b"

theorem changes_exact_visits :
    [("visits", "2"), ("Z", "a=b"), ("page", "home")].Perm secondVisit.toList ∧
      ["page", "visits", "id"].Perm firstVisit.keys ∧
      (firstVisit.collected secondVisit [("visits", "2"), ("Z", "a=b"), ("page", "home")]
        ["page", "visits", "id"]).map Change.text =
          ["persistent Z=a=b", "persistent id removed", "persistent visits=2"] := by
  have allEntries : [("visits", "2"), ("Z", "a=b"), ("page", "home")].Perm secondVisit.toList := by
    decide
  have allNames : ["page", "visits", "id"].Perm firstVisit.keys := by decide
  have same := (changes_exact firstVisit secondVisit).2.2.1 _ _ allEntries allNames
  refine ⟨allEntries, allNames, ?_⟩
  rw [same]
  decide

end TagTemplate.Parameters
