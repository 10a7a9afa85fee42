import Chip8.Fault

/-! Why an action failed: by a fault of the machine or of a device, or by another failure of the host. -/

namespace Chip8

/-- Why an action failed. -/
inductive Failure where
  | fault (fault : Fault)
  | host (error : HostError)
  deriving DecidableEq

instance : Coe Fault Failure := ⟨.fault⟩

instance : Coe HostError Failure := ⟨.host⟩

namespace Failure

/-- The failure by which a report of a fault ends: the fault, or what is wrong with the report. -/
def ofReport : Except HostError Fault → Failure
  | .ok f => .fault f
  | .error e => .host e

/-- The failure of a kind that is known by its name, in the words of the given values. What is no kind of fault is a
    breakdown, unless it is the failure to use a value. -/
def ofName (name : String) (values : List Value) : Failure :=
  match Fault.Kind.named? name with
  | some kind => ofReport (kind.report values)
  | none =>
    let text := Value.shownTogether values
    if name = "ValueError" then .host (.badValue text) else .host (.breakdown text)

end Failure

end Chip8
