import StTools.BuildHandler.Service

/-!
# The test controller

The controller starts the tests of queued builds one at a time.  It is driven by signals on the
bus: from the gateway (builds have been queued, promoted or found faulty), from the test tool
`HSS_rtc` (it is ready for a new build, or has shut down) and from the command line interface.
One thread handles the signals, so a handler is one step on the state.

The state holds the controller's fields, the build handler it asks for builds, the signals that
are on the bus, and the orders it has sent to `HSS_rtc`.  Whether creating an `RTC_Handler`,
preparing its scenario and starting `HSS_rtc` succeed is decided outside and given to the
handlers as an outcome.
-/

namespace RtcController

open BuildHandler (Text Json PyError)

/-- The signals that the controller listens to. -/
inductive Signal where
  | rtcCheckPriorityList
  | rtcSetTestToFaulty (build : Text)
  | rtcPriorityIncrease (build : Text) (wasPending : Bool)
  | testToolReadyForNewBuild (build : Text)
  | testToolShutdown (build : Text) (testResult : Json)

/-- What the controller orders `HSS_rtc` to do.  The quit order is noted with the priority of the
running build and, as a ghost, with whether the build was released. -/
inductive Order where
  | quit (highPriority released : Bool)
  | resume
  | setTestExecutionStatusDiscarded
  | setHighPriority (value : Bool)
deriving DecidableEq

/-- The thread that runs a test. -/
structure RtcHandler where
  ongoingTest : Bool
  highPriority : Bool

/-- How the start of a test ends. -/
inductive StartOutcome where
  /-- Creating the `RTC_Handler` raises. -/
  | creationFails
  /-- `prepare_test_scenario` raises. -/
  | preparationFails
  /-- `HSS_rtc` does not start. -/
  | startFails
  /-- `HSS_rtc` has started. -/
  | started
deriving DecidableEq

/-- The controller with its surroundings. -/
structure Controller where
  rtcHandler : Option RtcHandler
  servicePaused : Bool
  currentTestCanBeStopped : Bool
  serviceConfig : Json
  build : Option Text
  buildInfo : Json
  highPriority : Bool
  buildHandler : BuildHandler.Handler
  /-- The signals in flight. -/
  bus : List Signal
  /-- The orders sent to `HSS_rtc`. -/
  orders : List Order
  /-- Ghost: since the running test was started, `HSS_rtc` has reported to be ready for a new
  build, or the test has been set to faulty. -/
  released : Bool

/-- The controller after its creation. -/
def Controller.init (serviceConfig : Json) (buildHandler : BuildHandler.Handler) : Controller where
  rtcHandler := none
  servicePaused := true
  currentTestCanBeStopped := false
  serviceConfig := serviceConfig
  build := none
  buildInfo := .null
  highPriority := false
  buildHandler := buildHandler
  bus := []
  orders := []
  released := false

/-- Is the value `None`? -/
def isNone : Json → Bool
  | .null => true
  | _ => false

namespace Controller

/-- Is a test running? -/
def ongoingTest (s : Controller) : Bool := s.rtcHandler.any RtcHandler.ongoingTest

/-- Put a signal on the bus. -/
def emit (s : Controller) (signal : Signal) : Controller := { s with bus := s.bus ++ [signal] }

/-- Take a signal off the bus. -/
def takeSignal (s : Controller) (index : ℕ) : Controller := { s with bus := s.bus.eraseIdx index }

/-- Send an order to `HSS_rtc`. -/
def order (s : Controller) (o : Order) : Controller := { s with orders := s.orders ++ [o] }

/-- Set the status of the build under test in the build handler. -/
def updateBuildStatus (s : Controller) (status : Text) : Controller :=
  match s.build with
  | none => s
  | some build =>
    { s with buildHandler := BuildHandler.updateBuildStatus s.buildHandler build status }

/-- Forget the test. -/
def clean (s : Controller) : Controller :=
  { s with
    rtcHandler := none
    currentTestCanBeStopped := false
    build := none
    buildInfo := .null
    highPriority := false }

/-- Give a test up: the build is faulty, unless the service is paused, and the test is
forgotten. -/
def giveUp (s : Controller) : Controller :=
  if s.servicePaused then s.clean else (s.updateBuildStatus "TEST_FAULTY".toList).clean

/-- Run the test of the build that has been chosen. -/
def runTest (s : Controller) : StartOutcome → Controller
  | .creationFails => s.giveUp
  | .preparationFails | .startFails =>
    giveUp { s with rtcHandler := some ⟨false, s.highPriority⟩, currentTestCanBeStopped := false }
  | .started =>
    let s := { s with
      rtcHandler := some ⟨true, s.highPriority⟩
      currentTestCanBeStopped := false
      released := false }
    if s.servicePaused then s else s.updateBuildStatus "TEST_ONGOING".toList

/-- Start the test of a given build, or of the next build that waits. -/
def startHssRtcExecution (s : Controller) (build : Option Text) (buildInfo : Json)
    (highPriority : Bool) (outcome : StartOutcome) : Controller :=
  match build with
  | none =>
    match BuildHandler.getBuild s.buildHandler with
    | (.error _, buildHandler) => { s with buildHandler }
    | (.ok (build, buildInfo, highPriority), buildHandler) =>
      let s := { s with build, buildInfo, highPriority, buildHandler }
      if build.isNone || isNone buildInfo then s else s.runTest outcome
  | some build =>
    if isNone buildInfo then
      match BuildHandler.fetchBuild s.buildHandler.db build with
      | .error _ => s
      | .ok buildInfo =>
        let s := { s with buildInfo }
        if isNone buildInfo then s
        else runTest { s with build := some build, highPriority } outcome
    else runTest { s with build := some build, buildInfo, highPriority } outcome

/-! ## Signals from the service -/

/-- Look for a build to test. -/
def checkPriorityList (s : Controller) (outcome : StartOutcome) : Controller :=
  if s.servicePaused then s
  else if s.highPriority && !s.currentTestCanBeStopped then s
  else
    match BuildHandler.isThereBuildToTest s.buildHandler.db with
    | .error _ => s
    | .ok false => s
    | .ok true =>
      if s.ongoingTest then
        if s.currentTestCanBeStopped then s.order (.quit s.highPriority s.released) else s
      else s.startHssRtcExecution none .null false outcome

/-- The build under test is faulty. -/
def setTestToFaulty (s : Controller) (build : Text) : Controller :=
  if s.servicePaused then s
  else if s.build ≠ some build then s
  else if s.rtcHandler.isNone then s
  else
    let s := (s.order .setTestExecutionStatusDiscarded).updateBuildStatus "CANCELLED".toList
    emit { s with currentTestCanBeStopped := true, released := true } .rtcCheckPriorityList

/-- A build has been promoted. -/
def priorityIncrease (s : Controller) (build : Text) (wasPending : Bool) : Controller :=
  if s.servicePaused then s
  else if s.ongoingTest && s.build = some build then
    order { s with
      rtcHandler := s.rtcHandler.map fun handler => { handler with highPriority := true }
      highPriority := true } (.setHighPriority true)
  else if !s.highPriority && wasPending then
    emit { s with currentTestCanBeStopped := true } .rtcCheckPriorityList
  else s

/-! ## Signals from the test tool -/

/-- The test tool could test a new build. -/
def testToolReadyForNewBuild (s : Controller) (build : Text) : Controller :=
  if s.servicePaused then
    if s.rtcHandler.isSome then s.order .resume else s
  else if s.build ≠ some build then s
  else
    let s := { s with currentTestCanBeStopped := true, released := true }
    match BuildHandler.isThereBuildToTest s.buildHandler.db with
    | .error _ => s
    | .ok true => s.emit .rtcCheckPriorityList
    -- Without an `RTC_Handler` the order raises, and nothing more is done.
    | .ok false => if s.rtcHandler.isSome then s.order .resume else s

/-- The test tool has shut down. -/
def testToolShutdown (s : Controller) (build : Text) (testResult : Json) : Controller :=
  let s := { s with
    buildHandler := BuildHandler.addBuildTestResult s.buildHandler build testResult }
  if s.build ≠ some build then s else s.clean.emit .rtcCheckPriorityList

/-- Handle a signal. -/
def handle (s : Controller) (outcome : StartOutcome) : Signal → Controller
  | .rtcCheckPriorityList => s.checkPriorityList outcome
  | .rtcSetTestToFaulty build => s.setTestToFaulty build
  | .rtcPriorityIncrease build wasPending => s.priorityIncrease build wasPending
  | .testToolReadyForNewBuild build => s.testToolReadyForNewBuild build
  | .testToolShutdown build testResult => s.testToolShutdown build testResult

/-! ## Requests from the command line interface -/

/-- Pause the service. -/
def pause (s : Controller) : Controller := { s with servicePaused := true }

/-- Resume the service with the configuration of the file, if it can be read; the build handler
reads its file again in any case. -/
def resume (s : Controller) (fileConfig : Option Json) : Controller :=
  if s.serviceConfig.truthy then
    let s :=
      match fileConfig with
      | none => s
      | some serviceConfig =>
        emit { s with serviceConfig, servicePaused := false } .rtcCheckPriorityList
    { s with buildHandler := BuildHandler.refreshDBMFromFile s.buildHandler }
  else s

/-- Force the test of a build while the service is paused, with the test info of a file or else
that of the build handler. -/
def forceBuild (s : Controller) (build : Text) (fileInfo : Option Json) (highPriority : Bool)
    (outcome : StartOutcome) : Controller :=
  if !s.servicePaused || !s.serviceConfig.truthy || s.ongoingTest then s
  else
    let buildInfo : Except PyError Json :=
      match fileInfo with
      | some buildInfo => .ok buildInfo
      | none => BuildHandler.fetchBuild s.buildHandler.db build
    match buildInfo with
    | .error _ => s
    | .ok buildInfo =>
      if fileInfo.isNone && isNone buildInfo then s
      else
        let s := { s with buildHandler := BuildHandler.priorityDel s.buildHandler build false }
        s.startHssRtcExecution (some build) buildInfo highPriority outcome

end Controller

/-! ## The system -/

/-- The requests that the gateway makes to the build handler, and the controller's command line
interface on its behalf. -/
def request (s : Controller) : BuildHandler.Op → Option Controller
  -- Only the controller takes builds or has the file read again.
  | .getBuild | .refreshDBMFromFile => none
  | .priorityAdd build =>
    match BuildHandler.priorityAdd s.buildHandler build with
    | (.error _, buildHandler) => some { s with buildHandler }
    | (.ok _, buildHandler) => some ({ s with buildHandler }.emit .rtcCheckPriorityList)
  | .priorityIncrease build =>
    match BuildHandler.priorityIncrease s.buildHandler build with
    | (.error _, buildHandler) => some { s with buildHandler }
    | (.ok wasPending, buildHandler) =>
      some (({ s with buildHandler }.emit (.rtcPriorityIncrease build wasPending)).emit
        .rtcCheckPriorityList)
  | op => some { s with buildHandler := op.run s.buildHandler }

/-- What can happen. -/
inductive Event where
  /-- A request to the build handler; queueing and promoting a build is followed by a check. -/
  | request (op : BuildHandler.Op)
  /-- The gateway or the test tool puts a signal on the bus. -/
  | emit (signal : Signal)
  /-- A signal in flight reaches the controller. -/
  | deliver (index : ℕ) (outcome : StartOutcome)
  /-- The thread of the test notices that `HSS_rtc` has finished. -/
  | testEnds
  | pause
  | resume (fileConfig : Option Json)
  | forceBuild (build : Text) (fileInfo : Option Json) (highPriority : Bool)
      (outcome : StartOutcome)
  /-- The configuration is changed by hand. -/
  | updateConfig (serviceConfig : Json)

/-- One step of the system. -/
def step (s : Controller) : Event → Option Controller
  | .request op => request s op
  | .emit signal => some (s.emit signal)
  | .deliver index outcome =>
    s.bus[index]?.map fun signal => (s.takeSignal index).handle outcome signal
  | .testEnds => some
      { s with rtcHandler := s.rtcHandler.map fun handler => { handler with ongoingTest := false } }
  | .pause => some s.pause
  | .resume fileConfig => some (s.resume fileConfig)
  | .forceBuild build fileInfo highPriority outcome =>
    some (s.forceBuild build fileInfo highPriority outcome)
  | .updateConfig serviceConfig => some { s with serviceConfig }

end RtcController
