import LitearmDriver.Handlers.Motion

/-!
# Handlers for the feedforward reads and the model store

The service handlers of `litearm_driver_model.cpp`. Writes are staged in RAM; `commit_model`
is the one call of this group that touches flash.
-/

namespace LitearmDriver

open Interaction

/-- `item: name` for the SDK's static feedforward tables. -/
def formatItems (items : List (Int × String)) : List String :=
  items.map fun entry => toString entry.1 ++ ": " ++ entry.2

def handleGetFeedforwardVector (request : GetFeedforwardVector.Request)
    (response : Reply (List Double)) : Code (Reply (List Double)) :=
  runCommand "get_feedforward_vector" response fun response => do
    let values ← command (.getFfVec request.item.toInt)
    return { response with body := values }

def handleGetFeedforwardMask (response : Reply UInt32) : Code (Reply UInt32) :=
  runCommand "get_feedforward_mask" response fun response => do
    let mask ← command .getFfMask
    return { response with body := toUInt32 mask }

/-- The tables are compile-time constants, so this one works without a link. -/
def handleGetFeedforwardCatalog (_ : Reply GetFeedforwardCatalog.Body) :
    Code (Reply GetFeedforwardCatalog.Body) := do
  let vectorItems ← query .ffVecItems
  let scalarItems ← query .ffScalarItems
  let scalarRoItems ← query .ffScalarRoItems
  return {
    success := true
    message := "static SDK tables, not a firmware read: " ++
      toString (formatItems vectorItems).length ++ " vector items, " ++
      toString (formatItems scalarItems).length ++ " scalar items, " ++
      toString (formatItems scalarRoItems).length ++ " read-only scalars"
    body := ⟨formatItems vectorItems, formatItems scalarItems, formatItems scalarRoItems⟩ }

def handleSetGravityScale (request : SetGravityScale.Request) (response : Reply Unit) :
    Code (Reply Unit) :=
  refuseUnless (checkFiniteValuesN request.values 7 "values") response <|
    runCommand "set_gravity_scale" response fun response => do
      command (.setGravityScale request.values)
      return response

def handleSetInertiaScale (request : SetInertiaScale.Request) (response : Reply Unit) :
    Code (Reply Unit) :=
  refuseUnless (checkFiniteValuesN request.values 7 "values") response do
    let response ← runCommand "set_inertia_scale" response fun response => do
      command (.setInertiaScale request.values)
      return response
    return response.onSuccess (" (the default MOVE_JS path has no acceleration source, so " ++
      "this has no effect there)")

def handleSetGravityVector (request : SetGravityVector.Request) (response : Reply Unit) :
    Code (Reply Unit) :=
  refuseUnless (checkFiniteVector3 request.g) response <|
    runCommand "set_gravity_vector" response fun response => do
      command (.setGravityVector request.g)
      return response

def handleProbeModel (response : Reply Bool) : Code (Reply Bool) :=
  runCommand "probe_model" response fun response => do
    let supported ← command .modelProbe
    return { response with
      body := supported
      message := if supported then "the firmware answers the model store commands"
        else "the firmware has no model store: it refuses or ignores those commands" }

def handleGetModelBody (request : GetModelBody.Request) (response : Reply (List Double)) :
    Code (Reply (List Double)) :=
  runCommand "get_model_body" response fun response => do
    let values ← command (.modelGetBody request.body.toInt)
    return { response with body := values }

def handleSetModelBody (request : SetModelBody.Request) (response : Reply Unit) :
    Code (Reply Unit) :=
  refuseUnless (checkFiniteValues request.values "values") response do
    let response ← runCommand "set_model_body" response fun response => do
      command (.modelSetBody request.body.toInt request.values)
      return response
    return response.onSuccess
      " (staged in RAM: commit_model stores it, revert_model drops it)"

def handleGetModelJm (response : Reply (List Double)) : Code (Reply (List Double)) :=
  runCommand "get_model_jm" response fun response => do
    let values ← command .modelGetJm
    return { response with body := values }

def handleSetModelJm (request : SetModelJm.Request) (response : Reply Unit) :
    Code (Reply Unit) :=
  refuseUnless (checkFiniteValues request.values "values") response do
    let response ← runCommand "set_model_jm" response fun response => do
      command (.modelSetJm request.values)
      return response
    return response.onSuccess " (staged in RAM: commit_model stores it)"

/-- The gate receives the negated reading, unlike in `save_params` and
`reset_factory_params`. -/
def handleCommitModel (request : CommitModel.Request) (response : Reply Unit) :
    Code (Reply Unit) := do
  let enabled ← motorsEnabled
  refuseUnless (checkRequiresDisabled (!enabled) "commit_model") response do
    let response ← runCommand "commit_model" response fun response => do
      command (.modelCommit request.expectedMask.toUInt16)
      return response
    return response.onSuccess (" (expected_mask must match what the firmware has staged, " ++
      "or it refuses the commit)")

def handleRevertModel (response : Reply Unit) : Code (Reply Unit) :=
  runCommand "revert_model" response fun response => do
    command .modelRevert
    return response

def handleGetModelStatus (response : Reply GetModelStatus.Body) :
    Code (Reply GetModelStatus.Body) :=
  runCommand "get_model_status" response fun response => do
    let status ← command .modelStatus
    return { response with
      body := ⟨status.overrideLevel, status.stagedMask, status.dirty⟩
      message := if status.dirty ≠ 0 then
          "RAM differs from flash: commit_model or revert_model"
        else "RAM and flash agree" }

end LitearmDriver
