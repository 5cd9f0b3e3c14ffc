import ReplicaSync.Json.Schema
import ReplicaSync.Pipeline.Basic

/-!
# Phase results as JSON

Each type has a printer and a reader; what the printer writes, the reader reads back.
-/

namespace ReplicaSync

namespace PullResult

def toJson (result : PullResult) : Json :=
  .obj [("result_code", .str result.code.name),
    ("databases_applied", .ofNat result.databasesApplied)]

def ofJson? (j : Json) : Option PullResult := do
  match ← j.fields? ["result_code", "databases_applied"] with
  | [code, count] =>
    return ⟨← Json.required? (Json.choice? PullCode.named) code,
      ← Json.required? (Json.nat? 64) count⟩
  | _ => none

end PullResult

namespace ChangeSet

def toJson (changes : ChangeSet) : Json :=
  .obj [("new_files", .ofStrings changes.newFiles),
    ("changed_files", .ofStrings changes.changedFiles),
    ("deleted_files", .ofStrings changes.deletedFiles),
    ("unchanged_files", .ofStrings changes.unchangedFiles)]

def ofJson? (j : Json) : Option ChangeSet := do
  match ← j.fields? ["new_files", "changed_files", "deleted_files", "unchanged_files"] with
  | [new, changed, deleted, unchanged] =>
    return ⟨← Json.required? Json.strs? new, ← Json.required? Json.strs? changed,
      ← Json.required? Json.strs? deleted, ← Json.required? Json.strs? unchanged⟩
  | _ => none

end ChangeSet

namespace PushResult

def toJson (result : PushResult) : Json :=
  .obj [("result_code", .str result.code.name), ("change_set", result.changes.toJson)]

def ofJson? (j : Json) : Option PushResult := do
  match ← j.fields? ["result_code", "change_set"] with
  | [code, changes] =>
    return ⟨← Json.required? (Json.choice? PushCode.named) code,
      ← Json.required? ChangeSet.ofJson? changes⟩
  | _ => none

end PushResult

end ReplicaSync
