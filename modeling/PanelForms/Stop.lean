/-!
# Stop signals

A long-running call is stopped from outside.  It looks at its stop signal at every suspension
point, and once the signal has fired every later look finds it fired.

Main definitions:

- `StopSwitch`: the side that fires, and its state.
- `StopSignal`: what a call sees, look after look.
- `StopSignal.observe`: one look.
-/

namespace PanelForms

/-- The state shared by everyone who holds a switch or its signal. -/
structure StopSwitch where
  fired : Bool
  deriving DecidableEq

namespace StopSwitch

/-- A switch that has not been used. -/
def new : StopSwitch := ⟨false⟩

/-- Fire; firing again changes nothing. -/
def stop (_ : StopSwitch) : StopSwitch := ⟨true⟩

end StopSwitch

/-- How many more looks find the signal unfired; none if it never fires. -/
structure StopSignal where
  looksLeft : Option Nat
  deriving DecidableEq

namespace StopSignal

/-- A signal that never fires. -/
def never : StopSignal := ⟨none⟩

/-- A signal that has fired. -/
def fired : StopSignal := ⟨some 0⟩

/-- A signal that fires after a number of looks. -/
def after (looks : Nat) : StopSignal := ⟨some looks⟩

/-- One look: whether the signal has fired, and the signal for the looks to come. -/
def observe (s : StopSignal) : Bool × StopSignal :=
  match s.looksLeft with
  | none => (false, s)
  | some 0 => (true, s)
  | some (n + 1) => (false, ⟨some n⟩)

@[simp]
theorem observe_never : never.observe = (false, never) :=
  rfl

@[simp]
theorem observe_fired : fired.observe = (true, fired) :=
  rfl

end StopSignal

/-- What a call sees of a switch that is not used while the call runs. -/
def StopSwitch.signal (s : StopSwitch) : StopSignal :=
  if s.fired then .fired else .never

end PanelForms
