import ErrorTrail.Violation
import ErrorTrail.Text.Blank

/-! # Guards: checks that refuse an argument with a violation naming it and saying why. -/

namespace ErrorTrail.Guard

/-- Refuses a blank text. -/
def notBlank (argument : String) (value : String) : Except Violation Unit :=
  if Text.isBlank value then .error (.invalidArgument argument .blank) else .ok ()

/-- Refuses an absent value, and gives back a present one. -/
def notNone {α : Type} (argument : String) : Option α → Except Violation α
  | none => .error (.invalidArgument argument .absent)
  | some value => .ok value

/-- Refuses a sequence with no items. -/
def notEmpty {α : Type} (argument : String) (items : List α) : Except Violation Unit :=
  if items.isEmpty then .error (.invalidArgument argument .empty) else .ok ()

end ErrorTrail.Guard
