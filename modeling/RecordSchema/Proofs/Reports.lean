import Mathlib
import RecordSchema.Proofs.FirstOccurrences
import RecordSchema.Validation

/-!
# What a report of failures holds

A report is built by adding failures one after the other. It keeps the first failure of each path,
in the order in which the paths were first met; a failure that comes later for the same path leaves
no trace.

## Main statements

* `FailureReport.paths_insert`, `FailureReport.get?_insert`: what adding one failure does.
* `FailureReport.paths_ofList`, `FailureReport.get?_ofList`: what adding several in turn does.
* `FailureReport.failures_eq`: the failures are those of the paths, in their order.
* `report_keeps_firsts`: all readings of a report in terms of the failures that were added.
-/

namespace RecordSchema

namespace FailureReport

section Insert

variable (report : FailureReport) (failure : Failure)

/-- A new path comes last. -/
theorem paths_insert : (report.insert failure).paths
    = if failure.path ∈ report.paths then report.paths else report.paths ++ [failure.path] := by
  by_cases h : failure.path ∈ report.paths
  · rw [if_pos h, paths, failures_insert_of_mem h, ← paths]
  · rw [if_neg h, paths, failures_insert_of_not_mem h, List.map_append, ← paths]
    rfl

/-- A failure is found unless its path has an earlier one. -/
theorem get?_insert (path : String) : (report.insert failure).get? path
    = (report.get? path).or (if failure.path = path then some failure else none) := by
  by_cases h : failure.path ∈ report.paths
  · rw [get?, failures_insert_of_mem h, ← get?]
    by_cases hpath : failure.path = path
    · have hfound : (report.get? path).isSome := by
        obtain ⟨known, hknown, heq⟩ := List.mem_map.1 h
        exact List.find?_isSome.2 ⟨known, hknown, by simp [heq, hpath]⟩
      rw [Option.or_of_isSome hfound]
    · rw [if_neg hpath, Option.or_none]
  · rw [get?, failures_insert_of_not_mem h, List.find?_append, ← get?]
    by_cases hpath : failure.path = path <;> simp [hpath]

theorem insert_of_mem (h : failure.path ∈ report.paths) : report.insert failure = report := by
  rw [insert, dif_pos ((contains_iff _ _).2 h)]

end Insert

theorem ofList_concat (added : List Failure) (failure : Failure) :
    ofList (added ++ [failure]) = (ofList added).insert failure := by
  rw [ofList, List.foldl_append]
  rfl

/-- The paths of a report are in the order in which they were first met. -/
theorem paths_ofList (added : List Failure) :
    (ofList added).paths = (added.map Failure.path).eraseDups := by
  induction added using List.reverseRecOn with
  | nil => rfl
  | append_singleton added failure ih =>
    rw [ofList_concat, paths_insert, ih, List.map_append, List.map_singleton, eraseDups_concat]
    simp only [List.mem_eraseDups]

/-- A report holds the first failure of each path. -/
theorem get?_ofList (added : List Failure) (path : String) :
    (ofList added).get? path = added.find? fun failure => failure.path = path := by
  induction added using List.reverseRecOn with
  | nil => rfl
  | append_singleton added failure ih =>
    rw [ofList_concat, get?_insert, ih, List.find?_append]
    by_cases hpath : failure.path = path <;> simp [hpath]

theorem size_eq (report : FailureReport) : report.size = report.paths.length := by
  rw [size, paths, List.length_map]

theorem get?_of_mem {report : FailureReport} {failure : Failure} (h : failure ∈ report.failures) :
    report.get? failure.path = some failure := by
  rw [get?, List.find?_eq_some_iff_append]
  obtain ⟨front, back, hsplit⟩ := List.append_of_mem h
  refine ⟨by simp, front, back, hsplit, fun other hother => ?_⟩
  have hdistinct := report.distinct
  rw [hsplit, List.map_append, List.nodup_append] at hdistinct
  have hne := hdistinct.2.2 other.path (List.mem_map_of_mem hother) failure.path (by simp)
  simpa using hne

/-- The failures of a report are those of its paths, in their order. -/
theorem failures_eq (report : FailureReport) :
    report.failures = report.paths.filterMap report.get? := by
  rw [paths, List.filterMap_map]
  have hself : ∀ failure ∈ report.failures, (report.get? ∘ Failure.path) failure = some failure :=
    fun failure hmem => get?_of_mem hmem
  rw [List.filterMap_congr hself, List.filterMap_some]

end FailureReport

/-- A report that starts empty and to which failures are added in turn keeps the first one of each
path: its paths are the distinct ones in the order of their first occurrence, there are as many
failures as distinct paths, and looking up, listing and writing out give the first failures in that
order. Adding another failure for a path that is there changes nothing. -/
theorem report_keeps_firsts (added : List Failure) :
    let report := FailureReport.ofList added
    let first (path : String) := added.find? fun failure => failure.path = path
    let paths := (added.map Failure.path).eraseDups
    report.paths = paths ∧
    (∀ path, report.get? path = first path) ∧
    (∀ path, report.contains path = true ↔ ∃ failure ∈ added, failure.path = path) ∧
    report.size = (added.map Failure.path).toFinset.card ∧
    report.isEmpty = added.isEmpty ∧
    report.failures = paths.filterMap first ∧
    report.text = "Validation failed" ++ (if added = [] then "" else ": " ++
      ", ".intercalate ((paths.filterMap first).map fun failure =>
        failure.path ++ ": " ++ failure.message)) ∧
    ∀ failure : Failure, failure.path ∈ added.map Failure.path →
      report.insert failure = report := by
  intro report first paths
  have hpaths : report.paths = paths := FailureReport.paths_ofList added
  have hget : report.get? = first := funext (FailureReport.get?_ofList added)
  have hmem : ∀ path, path ∈ report.paths ↔ path ∈ added.map Failure.path := fun path => by
    rw [hpaths, List.mem_eraseDups]
  have hfailures : report.failures = paths.filterMap first := by
    rw [report.failures_eq, hpaths, hget]
  have hempty : report.failures = [] ↔ added = [] := by
    rw [← List.map_eq_nil_iff (f := Failure.path), ← FailureReport.paths,
      List.eq_nil_iff_forall_not_mem]
    simp only [hmem, ← List.eq_nil_iff_forall_not_mem, List.map_eq_nil_iff]
  refine ⟨hpaths, fun path => congrFun hget path, fun path => ?_, ?_, ?_, hfailures, ?_, ?_⟩
  · rw [FailureReport.contains_iff, hmem, List.mem_map]
  · have hnodup : report.paths.Nodup := report.distinct
    rw [report.size_eq, ← List.toFinset_card_of_nodup hnodup]
    exact congrArg Finset.card (Finset.ext fun path => by simp only [List.mem_toFinset, hmem])
  · rw [FailureReport.isEmpty, Bool.eq_iff_iff, List.isEmpty_iff, List.isEmpty_iff, hempty]
  · rw [FailureReport.text, FailureReport.isEmpty]
    by_cases hnil : added = []
    · simp [hnil, hempty.2 hnil]
    · rw [if_neg hnil, if_neg (by simpa [hempty] using hnil), hfailures]
      simp [← String.append_assoc]
  · intro failure hfailure
    exact report.insert_of_mem failure ((hmem _).2 hfailure)

end RecordSchema
