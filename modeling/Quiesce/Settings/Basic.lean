import Quiesce.Duration

/-!
The settings of a daemon, in three sections, and the overrides that its command line lays over
them.
-/
namespace Quiesce

structure LifecycleSettings where
  /-- How long work in flight may go on after a request to stop, in milliseconds. -/
  graceMs : UInt64 := 5000
  deriving DecidableEq

structure WorkloadSettings where
  workers : UInt64 := 2
  unitMs : UInt64 := 250
  /-- The longest job that is taken on, in milliseconds. -/
  jobLimitMs : UInt64 := 60000
  deriving DecidableEq

structure ControlSettings where
  enabled : Bool := true
  ip : String := "127.0.0.1"
  /-- The port to listen on; `0` leaves the choice to the system. -/
  port : UInt16 := 50051
  deriving DecidableEq

structure Settings where
  lifecycle : LifecycleSettings := {}
  workload : WorkloadSettings := {}
  control : ControlSettings := {}
  deriving DecidableEq

def LifecycleSettings.grace (s : LifecycleSettings) : Duration := .ofMillis s.graceMs

def WorkloadSettings.unit (s : WorkloadSettings) : Duration := .ofMillis s.unitMs

def WorkloadSettings.jobLimit (s : WorkloadSettings) : Duration := .ofMillis s.jobLimitMs

def ControlSettings.address (s : ControlSettings) : String := s!"{s.ip}:{s.port}"

/-- Values from the command line, which win over every other source. -/
structure Overrides where
  graceMs : Option UInt64 := none
  workers : Option UInt64 := none
  unitMs : Option UInt64 := none
  controlPort : Option UInt16 := none
  disableControl : Bool := false
  deriving DecidableEq

def Overrides.apply (o : Overrides) (s : Settings) : Settings where
  lifecycle := { graceMs := o.graceMs.getD s.lifecycle.graceMs }
  workload := { s.workload with
    workers := o.workers.getD s.workload.workers
    unitMs := o.unitMs.getD s.workload.unitMs }
  control := { s.control with
    port := o.controlPort.getD s.control.port
    enabled := !o.disableControl && s.control.enabled }

end Quiesce
