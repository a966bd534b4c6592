import ErrorTrail.Kind

/-! # Custom kinds: refused for a blank name, then for the first predefined kind whose name
or priority they take. -/

namespace ErrorTrail.Kind

/-- Whether the kind `k` holds the given name or the given priority. -/
def clashes (name : String) (priority : Int) (k : Kind) : Bool :=
  k.name == name || k.priority == priority

/-- The refusal for a name or a priority that the kind `k` holds; the name is looked at
first. -/
def reservedBy (name : String) (priority : Int) (k : Kind) : Violation :=
  if k.name = name then .invalidArgument "name" (.reservedName name)
  else .invalidArgument "priority" (.reservedPriority priority k.name)

/-- The check of reserved names and priorities refuses for the first kind that clashes. -/
theorem checkReserved_eq (name : String) (priority : Int) (kinds : List Kind) :
    checkReserved name priority kinds =
      match kinds.find? (clashes name priority) with
      | none => .ok ()
      | some k => .error (reservedBy name priority k) := by
  induction kinds with
  | nil => rfl
  | cons k rest ih =>
      by_cases hname : k.name = name
      · simp [checkReserved, clashes, reservedBy, hname]
      · by_cases hpriority : k.priority = priority
        · simp [checkReserved, clashes, reservedBy, hname, hpriority]
        · simp [checkReserved, clashes, hname, hpriority, ih]

/-- A custom kind is refused for a blank name, then for the first predefined kind it clashes
with, and is made otherwise. -/
theorem custom_eq (name : String) (priority : Int) :
    custom name priority =
      if Text.isBlank name then .error (.invalidArgument "name" .blank)
      else match predefined.find? (clashes name priority) with
        | none => .ok ⟨name, priority⟩
        | some k => .error (reservedBy name priority k) := by
  unfold custom Guard.notBlank
  by_cases hblank : Text.isBlank name
  · simp [hblank]
    rfl
  · rw [checkReserved_eq]
    cases predefined.find? (clashes name priority) <;> simp [hblank] <;> rfl

theorem find?_clashes_eq_none_iff (name : String) (priority : Int) (kinds : List Kind) :
    kinds.find? (clashes name priority) = none ↔
      name ∉ kinds.map (·.name) ∧ priority ∉ kinds.map (·.priority) := by
  simp only [List.find?_eq_none, clashes, Bool.or_eq_true, beq_iff_eq, not_or, List.mem_map,
    not_exists, not_and, imp_and, forall_and]

theorem isPredefined_eq_false_iff (k : Kind) :
    k.isPredefined = false ↔ k.name ∉ predefined.map (·.name) := by
  simp [isPredefined, List.any_eq_false, List.mem_map]

/-- A custom kind is made exactly when its name is not blank and neither its name nor its
priority is reserved; it then has that name and that priority. -/
theorem custom_eq_ok_iff (name : String) (priority : Int) (k : Kind) :
    custom name priority = .ok k ↔
      Text.isBlank name = false ∧ name ∉ predefined.map (·.name) ∧
        priority ∉ predefined.map (·.priority) ∧ k = ⟨name, priority⟩ := by
  rw [custom_eq]
  by_cases hblank : Text.isBlank name
  · simp [hblank]
  · have hnone := find?_clashes_eq_none_iff name priority predefined
    cases hfind : predefined.find? (clashes name priority) with
    | none =>
        have hfree := hnone.mp hfind
        simp [hblank, hfree, eq_comm]
    | some r =>
        -- a clash refuses the kind, so one of the names or priorities is reserved
        have hreserved : ¬(name ∉ predefined.map (·.name) ∧
            priority ∉ predefined.map (·.priority)) := fun hfree => by
          rw [hnone.mpr hfree] at hfind
          cases hfind
        simp only [hblank, Bool.false_eq_true, if_false, reduceCtorEq, false_iff]
        exact fun ⟨_, hname, hpriority, _⟩ => hreserved ⟨hname, hpriority⟩

/-- A custom kind is refused for a blank name, and otherwise for the first predefined kind
whose name or priority it takes. -/
theorem custom_eq_error_iff (name : String) (priority : Int) (v : Violation) :
    custom name priority = .error v ↔
      (Text.isBlank name = true ∧ v = .invalidArgument "name" .blank) ∨
      (Text.isBlank name = false ∧
        ∃ k, predefined.find? (clashes name priority) = some k ∧
          v = reservedBy name priority k) := by
  rw [custom_eq]
  by_cases hblank : Text.isBlank name
  · simp [hblank, eq_comm]
  · cases hfind : predefined.find? (clashes name priority) <;> simp [hblank, eq_comm]

/-- A custom kind with a 32-bit priority ranks strictly between `NoResult` and `Unexpected`. -/
theorem priority_between_of_custom_eq_ok {name : String} {priority : Int} {k : Kind}
    (hlow : -2147483648 ≤ priority) (hhigh : priority ≤ 2147483647)
    (hk : custom name priority = .ok k) :
    noResult.priority < k.priority ∧ k.priority < unexpected.priority := by
  obtain ⟨-, -, hfree, rfl⟩ := (custom_eq_ok_iff name priority k).mp hk
  simp [predefined, noResult, failure, unexpected, unspecified] at hfree ⊢
  omega

/-- What `custom` answers for a name and a priority: the kind it makes, where that kind ranks,
and the refusal it gives otherwise. -/
structure CustomKind (name : String) (priority : Int) : Prop where
  ok_iff : ∀ k, custom name priority = .ok k ↔
    Text.isBlank name = false ∧ name ∉ ["NoResult", "Failure", "Unexpected", "Unspecified"] ∧
      priority ∉ [-2147483648, 0, 2147483646, 2147483647] ∧ k = ⟨name, priority⟩
  not_predefined : ∀ k, custom name priority = .ok k → k.isPredefined = false
  ranked : -2147483648 ≤ priority → priority ≤ 2147483647 →
    ∀ k, custom name priority = .ok k →
    noResult.priority < k.priority ∧ k.priority < unexpected.priority ∧
      unexpected.priority < unspecified.priority
  error_iff : ∀ v, custom name priority = .error v ↔
    (Text.isBlank name = true ∧ v = .invalidArgument "name" .blank) ∨
    (Text.isBlank name = false ∧
      ∃ k, predefined.find? (clashes name priority) = some k ∧ v = reservedBy name priority k)

/-- Every name and priority: a custom kind is made exactly when the name is not blank and
neither the name nor the priority is a predefined kind's, it is then no predefined kind and,
for a 32-bit priority, ranks strictly between `NoResult` and `Unexpected`; a refusal names a
blank name, or else the first predefined kind whose name or priority is taken, its name before
its priority. -/
theorem customKinds (name : String) (priority : Int) : CustomKind name priority where
  ok_iff k := custom_eq_ok_iff name priority k
  not_predefined k hk := by
    obtain ⟨-, hname, -, rfl⟩ := (custom_eq_ok_iff name priority k).mp hk
    exact (isPredefined_eq_false_iff _).mpr hname
  ranked hlow hhigh k hk := by
    obtain ⟨habove, hbelow⟩ := priority_between_of_custom_eq_ok hlow hhigh hk
    exact ⟨habove, hbelow, by decide⟩
  error_iff v := custom_eq_error_iff name priority v

-- A name and a priority both reserved: `Failure`'s priority is met before `Unspecified`'s name.
example : custom "Unspecified" 0 =
    .error (.invalidArgument "priority" (.reservedPriority 0 "Failure")) := by
  rfl

end ErrorTrail.Kind
