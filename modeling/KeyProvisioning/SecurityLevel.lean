/-!
# Security levels

The three places where a key pool can live, with their numbers and their display names.
-/

namespace KeyProvisioning

/-- The strength of the component that keeps a key. -/
inductive SecurityLevel
  | software
  | trustedEnvironment
  | strongBox
  deriving DecidableEq, Repr, Inhabited

namespace SecurityLevel

/-- The number by which components name the level. -/
def number : SecurityLevel → Nat
  | software => 0
  | trustedEnvironment => 1
  | strongBox => 2

/-- The level with a given number, if there is one. -/
def ofNumber? : Nat → Option SecurityLevel
  | 0 => some software
  | 1 => some trustedEnvironment
  | 2 => some strongBox
  | _ => none

/-- The display name of the level. -/
def label : SecurityLevel → String
  | software => "SOFTWARE"
  | trustedEnvironment => "TRUSTED_ENVIRONMENT"
  | strongBox => "STRONGBOX"

/-- A number names a level exactly when it is the level's number. -/
theorem ofNumber?_eq_some_iff {n : Nat} {level : SecurityLevel} :
    ofNumber? n = some level ↔ n = level.number := by
  unfold ofNumber?
  split <;> cases level <;> simp_all [number]

end SecurityLevel

end KeyProvisioning
