import ErrorTrail.Guard

/-! # Kinds: a name that classifies an error and a priority that ranks it; four kinds are
predefined. -/

namespace ErrorTrail

/-- A class of errors: its name and its priority. -/
structure Kind where
  name : String
  priority : Int
  deriving DecidableEq, Repr, Inhabited

namespace Kind

/-- No result was produced; the lowest priority. -/
def noResult : Kind := ⟨"NoResult", -2147483648⟩

/-- An ordinary failure. -/
def failure : Kind := ⟨"Failure", 0⟩

/-- A failure nobody planned for; one below the highest priority. -/
def unexpected : Kind := ⟨"Unexpected", 2147483646⟩

/-- A failure of unknown class; the highest priority. -/
def unspecified : Kind := ⟨"Unspecified", 2147483647⟩

/-- The predefined kinds, in increasing priority. -/
def predefined : List Kind := [noResult, failure, unexpected, unspecified]

/-- The predefined kind with the given name, if there is one. -/
def predefinedNamed? (name : String) : Option Kind :=
  predefined.find? (·.name == name)

/-- A kind is predefined when its name is the name of a predefined kind. -/
def isPredefined (k : Kind) : Bool :=
  predefined.any (·.name == k.name)

/-- Refuses a name or a priority that one of the given kinds holds, looking at the kinds in
order and, for each, at its name before its priority. -/
def checkReserved (name : String) (priority : Int) : List Kind → Except Violation Unit
  | [] => .ok ()
  | k :: rest =>
    if k.name = name then .error (.invalidArgument "name" (.reservedName name))
    else if k.priority = priority then
      .error (.invalidArgument "priority" (.reservedPriority priority k.name))
    else checkReserved name priority rest

/-- A custom kind: its name must not be blank, and neither its name nor its priority may be
those of a predefined kind. -/
def custom (name : String) (priority : Int) : Except Violation Kind := do
  Guard.notBlank "name" name
  checkReserved name priority predefined
  pure ⟨name, priority⟩

/-- Kinds are the same when their names are. -/
def same (a b : Kind) : Bool :=
  a.name == b.name

/-- Orders two kinds by priority. -/
def comparePriority (a b : Kind) : Ordering :=
  compare a.priority b.priority

/-- Orders two optional kinds by priority, an absent kind below every kind. -/
def compareOption : Option Kind → Option Kind → Ordering
  | some a, some b => comparePriority a b
  | some _, none => .gt
  | none, some _ => .lt
  | none, none => .eq

/-- The first item of highest priority: scanning from `first`, an item replaces the one kept
only when its priority is strictly greater, so of equal priorities the earliest wins. -/
def firstHighest {α : Type} (priorityOf : α → Int) (first : α) (rest : List α) : α :=
  rest.foldl (fun best x => if priorityOf best < priorityOf x then x else best) first

/-- The first kind of highest priority, if there is any kind. -/
def highest? : List Kind → Option Kind
  | [] => none
  | k :: rest => some (firstHighest Kind.priority k rest)

/-- The first kind of highest priority; an empty list is refused. -/
def highest (kinds : List Kind) : Except Violation Kind :=
  match highest? kinds with
  | none => .error (.invalidArgument "kinds" .empty)
  | some k => .ok k

end Kind

end ErrorTrail
