import RecordSchema.Json.Printer
import RecordSchema.Text.Replace

/-!
# Checks of field values and their failures

A validator looks at the value of a field and at the whole record. When it rejects the value, the
failure carries the validator's message with the path and the value put in; when the check itself
breaks off with a reason, the failure carries the reason as it is.

The failures of one write are collected in a report: one failure per path, the first that was
found, in the order in which the paths were first met.

## Main definitions

* `Validator`, `Validator.run`: a check and its outcome on a value.
* `Failure`: why the value of a field was rejected.
* `FailureReport`, `FailureReport.insert`: the failures of one write.
* `FailureReport.text`: the report in one line.
-/

namespace RecordSchema

/-- Which kind of check rejected a value. -/
inductive ValidatorKind where
  /-- A required field has no value. -/
  | required
  /-- The value is not one of those listed. -/
  | enum
  /-- The text does not match the pattern. -/
  | regexp
  /-- The value is below the least one allowed. -/
  | min
  /-- The value is above the greatest one allowed. -/
  | max
  /-- The value has no stored form. -/
  | cast
  /-- A check attached to the field rejected the value. -/
  | userDefined
deriving DecidableEq, Repr

/-- The word for a kind of check. -/
def ValidatorKind.text : ValidatorKind → String
  | required => "required"
  | enum => "enum"
  | regexp => "regexp"
  | min => "min"
  | max => "max"
  | cast => "cast"
  | userDefined => "user defined"

/-- Why the value of a field was rejected. -/
structure Failure where
  /-- The path of the field. -/
  path : String
  /-- The reason in a sentence. -/
  message : String
  /-- The kind of check. -/
  kind : ValidatorKind
  /-- The rejected value. -/
  value : Json

/-- A check of a field. -/
structure Validator where
  /-- The kind of check. -/
  kind : ValidatorKind
  /-- The message of a rejection; `{PATH}` and `{VALUE}` in it stand for path and value. -/
  message : String
  /-- Whether a value is accepted within a record, or why the check breaks off. -/
  check : Json → Json → Except String Bool

/-- An attached check that tells valid values by true and fails with a message. -/
def Validator.ofTest (accepts : Json → Json → Bool) (message : String) : Validator where
  kind := .userDefined
  message := message
  check value record := .ok (accepts value record)

/-- An attached check that says itself why it rejects a value. -/
def Validator.ofReason (accepts : Json → Json → Except String Unit) : Validator where
  kind := .userDefined
  message := "Validator failed for path `\x7bPATH\x7d` with value `\x7bVALUE\x7d`"
  check value record := (accepts value record).map fun _ => true

/-- The message with the path, and after that the value, put in. -/
def filledMessage (template path : String) (value : Json) : String :=
  replaceWord (replaceWord template "\x7bPATH\x7d" path) "\x7bVALUE\x7d" value.shown

/-- The failure of a value at a path within a record, if the check rejects it. -/
def Validator.run (validator : Validator) (path : String) (value record : Json) : Option Failure :=
  match validator.check value record with
  | .ok true => none
  | .ok false => some ⟨path, filledMessage validator.message path value, validator.kind, value⟩
  | .error reason => some ⟨path, reason, validator.kind, value⟩

theorem Validator.path_of_run {validator : Validator} {path : String} {value record : Json}
    {failure : Failure} (h : validator.run path value record = some failure) :
    failure.path = path := by
  unfold run at h
  split at h <;> cases h <;> rfl

/-- The failures of one write, at most one for each path. -/
structure FailureReport where
  /-- The failures, in the order in which their paths were met. -/
  failures : List Failure := []
  /-- No path has two failures. -/
  distinct : (failures.map Failure.path).Nodup := by exact List.nodup_nil

namespace FailureReport

/-- The failure of a path. -/
def get? (report : FailureReport) (path : String) : Option Failure :=
  report.failures.find? fun failure => failure.path = path

/-- Whether a path has a failure. -/
def contains (report : FailureReport) (path : String) : Bool :=
  report.failures.any fun failure => failure.path = path

/-- The number of paths with a failure. -/
def size (report : FailureReport) : Nat :=
  report.failures.length

/-- Whether nothing failed. -/
def isEmpty (report : FailureReport) : Bool :=
  report.failures.isEmpty

/-- The paths with a failure, in the order in which they were met. -/
def paths (report : FailureReport) : List String :=
  report.failures.map Failure.path

/-- Adds a failure unless its path has one already. -/
def insert (report : FailureReport) (failure : Failure) : FailureReport :=
  if h : report.contains failure.path then report
  else
    { failures := report.failures ++ [failure]
      distinct := by
        simp only [contains, List.any_eq_true, decide_eq_true_eq, not_exists, not_and] at h
        rw [List.map_append, List.nodup_append]
        refine ⟨report.distinct, by simp, ?_⟩
        intro path hpath other hother
        simp only [List.map_cons, List.map_nil, List.mem_singleton] at hother
        obtain ⟨known, hknown, rfl⟩ := List.mem_map.1 hpath
        exact hother ▸ h known hknown }

theorem contains_iff (report : FailureReport) (path : String) :
    report.contains path = true ↔ path ∈ report.paths := by
  simp [contains, paths, List.any_eq_true]

theorem failures_insert_of_mem {report : FailureReport} {failure : Failure}
    (h : failure.path ∈ report.paths) : (report.insert failure).failures = report.failures := by
  rw [insert, dif_pos ((contains_iff _ _).2 h)]

theorem failures_insert_of_not_mem {report : FailureReport} {failure : Failure}
    (h : failure.path ∉ report.paths) :
    (report.insert failure).failures = report.failures ++ [failure] := by
  rw [insert, dif_neg (mt (contains_iff _ _).1 h)]

/-- The report of a list of failures, each added in turn. -/
def ofList (failures : List Failure) : FailureReport :=
  failures.foldl insert {}

/-- The report in one line. -/
def text (report : FailureReport) : String :=
  let entries := report.failures.map fun failure => failure.path ++ ": " ++ failure.message
  if report.isEmpty then "Validation failed"
  else "Validation failed: " ++ ", ".intercalate entries

end FailureReport

/-- A failure as an object. -/
def Failure.toJson (failure : Failure) : Json :=
  .obj [("path", .str failure.path), ("message", .str failure.message),
    ("kind", .str failure.kind.text), ("value", failure.value)]

/-- A report as an object of failures by path. -/
def FailureReport.toJson (report : FailureReport) : Json :=
  .obj [("errors", .obj (report.failures.map fun failure => (failure.path, failure.toJson)))]

end RecordSchema
