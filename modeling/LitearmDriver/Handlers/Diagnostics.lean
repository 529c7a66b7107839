import LitearmDriver.Handlers.Model

/-!
# Handlers for the link, host diagnostics and the tick log

The service handlers of `litearm_driver_diagnostics.cpp`.
-/

namespace LitearmDriver

open Interaction

/-- The firmware response ids worth reporting a rate for. -/
def rateIds : List RateId := [.status, .ack, .err, .firmware, .detail, .modelStatus, .logData]

/-- The session is rebuilt and the licence record read again inside one `try` block. -/
def handleReconnect (response : Reply Unit) : Code (Reply Unit) :=
  catching
    (do
      let node ← self
      if node.arm.isNone then
        return { response with
          success := false
          message := "the node is not configured: no SDK session to rebuild" }
      else
        armCommand .reconnect
        refreshLicenseRecord
        let port ← armQuery .portString
        let firmware ← armQuery .firmware
        return { response with
          success := true
          message := "link re-established on " ++ port ++ " (firmware " ++ firmware ++ ")" })
    fun error => return { response with
      success := false
      message := "reconnect failed: " ++ error }

def handleGetTcp (response : Reply GetTcp.Body) : Code (Reply GetTcp.Body) := do
  let link ← connected
  refuseUnless (checkConnected link) response <|
    catching
      (do
        let answer ← armCommand .getTcp
        match answer with
        | none => return { response with
            success := false
            message := "the firmware did not answer a tool pose (this is a firmware 1.8.0 " ++
              "command, and the arm has to have a solved pose)" }
        | some pose => return { response with
            success := true
            message := "pose in [x, y, z, roll, pitch, yaw]"
            body := ⟨pose⟩ })
      fun error => return { response with
        success := false
        message := "get_tcp failed: " ++ error }

/-- The message rates of the given ids, in their order. -/
def rates : List RateId → Code (List (UInt8 × Double))
  | []        => return []
  | id :: ids => do
    let code ← query (.responseId id)
    let hz ← armQuery (.msgHz code)
    let rest ← rates ids
    return (code, hz) :: rest

def handleGetDiagnostics (response : Reply GetDiagnostics.Body) :
    Code (Reply GetDiagnostics.Body) := do
  let link ← connected
  refuseUnless (checkConnected link) response <|
    catching
      (do
        let stats ← armQuery .hostStats
        let banner ← armQuery .bannerVersion
        let connected ← armQuery .isConnected
        let inDfu ← armQuery .isInDfu
        let cartSupported ← armQuery .cartSupported
        let axes ← armQuery .n
        let statusSeq ← armQuery .statusSeq
        let port ← armQuery .portString
        let firmware ← armQuery .firmware
        let lastResetReason ← armQuery .lastResetReason
        let hz ← rates rateIds
        return { response with
          success := true
          message := "host-side counters and the per-id message rates of this session"
          body := {
            connected := connected
            inDfu := inDfu
            cartSupported := cartSupported
            cartProbeSilent := stats.cartProbeSilent
            jointCount := .ofNat axes
            statusSeq := statusSeq
            port := port
            firmware := firmware
            bannerVersion := banner.getD ""
            lastResetReason := lastResetReason
            dropped := stats.dropped
            badStatusFrames := stats.badStatusFrames
            flushFailures := stats.flushFailures
            cartEvictedUnclaimed := stats.cartEvictedUnclaimed
            cartExtraReplies := stats.cartExtraReplies
            msgIds := hz.map Prod.fst
            msgHz := hz.map Prod.snd } })
      fun error => return { response with
        success := false
        message := "get_diagnostics failed: " ++ error }

/-- One `name=n,avg,max` line of a benchmark. -/
def timingLine (entry : String × List Int) : String :=
  entry.1 ++ "=" ++ ",".intercalate (entry.2.map toString)

def handleKinBench (request : KinBench.Request) (response : Reply KinBench.Body) :
    Code (Reply KinBench.Body) :=
  refuseUnless (checkTimeout request.timeout "timeout") response do
    let response ← runCommand "kin_bench" response fun response => do
      let default ← query .kinBenchTimeout
      let result ← command (.kinBench (orDefault request.timeout default))
      return { response with
        body := {
          raw := result.raw
          timings := result.timings.map timingLine
          crcErrors := result.crcErrors
          replyDropped := result.replyDropped
          canTxFail := result.canTxFail
          loopMaxKcycle := result.loopMaxKcycle
          loopOverruns := result.loopOverruns
          rxFifoLostMotor := result.rxFifoLostMotor
          rxFifoLostBridge := result.rxFifoLostBridge
          gsusbRingDrops := result.gsusbRingDrops } }
    return response.onSuccess
      " (0 in a counter means \"the firmware did not report it\", not \"no errors\")"

def handleLogStart (request : LogStart.Request) (response : Reply Unit) :
    Code (Reply Unit) :=
  if request.ticks.toInt ≤ 0 then
    return { response with
      success := false
      message := "ticks must be positive: the firmware records that many control " ++
        "cycles and stops on its own when its buffer is full" }
  else do
    let response ← runCommand "log_start" response fun response => do
      command (.logStart request.ticks.toInt)
      return response
    return response.onSuccess " (recording at 300 Hz; read it back with log_dump)"

def handleLogStop (response : Reply Unit) : Code (Reply Unit) :=
  runCommand "log_stop" response fun response => do
    command .logStop
    return response

/-- `std::filesystem::path(dir) / name`: an absolute name replaces the directory. -/
def joinPath (dir name : String) : String :=
  if name.startsWith "/" then name
  else if dir = "" ∨ dir.endsWith "/" then dir ++ name
  else dir ++ "/" ++ name

def handleLogDump (request : LogDump.Request) (response : Reply LogDump.Body) :
    Code (Reply LogDump.Body) :=
  refuseUnless (checkLogFilename request.filename) response <|
  refuseUnless (checkTimeout request.timeout "timeout") response do
    let link ← connected
    refuseUnless (checkConnected link) response <|
      catching
        (do
          let node ← self
          let created ← ask (.createDirectories node.logDir)
          orThrow created
          let path := joinPath node.logDir request.filename
          let bytes ← armCommand (.logDump path request.wait (orDefault request.timeout 1) 3
            (orDefault request.timeout (-1)))
          let axes ← armQuery .n
          let sampleSize ← query (.sampleSize axes)
          let samples : Int32 :=
            if 0 < sampleSize then .ofNat (bytes / sampleSize.toNat) else 0
          return { response with
            success := true
            message := "wrote " ++ toString (Int32.ofNat bytes).toInt ++ " bytes (" ++
              toString samples.toInt ++ " samples of " ++ toString sampleSize ++
              " bytes: u32 tick + q_ref/dq/tau per axis as f32)"
            body := { path := path, bytes := .ofNat bytes, samples := samples } })
        fun error => return { response with
          success := false
          message := "log_dump failed: " ++ error }

end LitearmDriver
