import ClusterManifest.Value

/-! What a schema finds wrong with a value: the place, as a path of keys and indexes from
the root, and the cause. A check gives a value of the schema's type, or all issues in the
order in which the schema names its parts. -/

namespace ClusterManifest.Schema

inductive Step
  | key (name : String)
  | index (position : Int)
  deriving DecidableEq, Repr

inductive Fault
  /-- A required field is not there. -/
  | missing
  | notText
  /-- Bytes that are no Unicode text, or a text with a lone surrogate where a number is due. -/
  | notUnicode
  | notInteger
  /-- A text that writes no whole number. -/
  | notIntegerText
  | fraction
  | tooLarge
  | notFinite
  | negative
  | notList
  | notMapping
  /-- A value that is no mapping, where a record of the given name is due. -/
  | notRecord (name : String)
  /-- A value that is no mapping, where one of several records is due. -/
  | notFields
  /-- A field with one possible value that holds another. -/
  | otherThan (expected : String)
  | notNetwork
  /-- A text that a field's own rule refuses, with the reason. -/
  | refused (reason : String)
  deriving DecidableEq, Repr

structure Issue where
  path : List Step
  fault : Fault
  deriving DecidableEq, Repr

def Fault.kind : Fault → String
  | .missing => "missing"
  | .notText => "string_type"
  | .notUnicode => "string_unicode"
  | .notInteger => "int_type"
  | .notIntegerText => "int_parsing"
  | .fraction => "int_from_float"
  | .tooLarge => "int_parsing_size"
  | .notFinite => "finite_number"
  | .negative => "greater_than_equal"
  | .notList => "tuple_type"
  | .notMapping => "dict_type"
  | .notRecord _ => "model_type"
  | .notFields => "model_attributes_type"
  | .otherThan _ => "literal_error"
  | .notNetwork => "ip_any_network"
  | .refused _ => "value_error"

def Fault.message : Fault → String
  | .missing => "Field required"
  | .notText => "Input should be a valid string"
  | .notUnicode =>
    "Input should be a valid string, unable to parse raw data as a unicode string"
  | .notInteger => "Input should be a valid integer"
  | .notIntegerText =>
    "Input should be a valid integer, unable to parse string as an integer"
  | .fraction => "Input should be a valid integer, got a number with a fractional part"
  | .tooLarge => "Unable to parse input string as an integer, exceeded maximum size"
  | .notFinite => "Input should be a finite number"
  | .negative => "Input should be greater than or equal to 0"
  | .notList => "Input should be a valid tuple"
  | .notMapping => "Input should be a valid dictionary"
  | .notRecord name => "Input should be a valid dictionary or instance of " ++ name
  | .notFields => "Input should be a valid dictionary or object to extract fields from"
  | .otherThan expected => "Input should be '" ++ expected ++ "'"
  | .notNetwork => "value is not a valid IPv4 or IPv6 network"
  | .refused reason => "Value error, " ++ reason

inductive Checked (α : Type)
  | valid (value : α)
  | invalid (issues : List Issue)
  deriving Repr

namespace Checked

def fail {α : Type} (fault : Fault) : Checked α := .invalid [⟨[], fault⟩]

def map {α β : Type} (f : α → β) : Checked α → Checked β
  | .valid x => .valid (f x)
  | .invalid issues => .invalid issues

def bind {α β : Type} (x : Checked α) (f : α → Checked β) : Checked β :=
  match x with
  | .valid x => f x
  | .invalid issues => .invalid issues

/-- The next part of a record under construction: the issues of both sides are kept. -/
def part {α β : Type} (build : Checked (α → β)) (next : Checked α) : Checked β :=
  match build, next with
  | .valid f, .valid x => .valid (f x)
  | .valid _, .invalid issues => .invalid issues
  | .invalid issues, .valid _ => .invalid issues
  | .invalid issues, .invalid more => .invalid (issues ++ more)

def under {α : Type} (step : Step) : Checked α → Checked α
  | .valid x => .valid x
  | .invalid issues => .invalid (issues.map (fun issue => ⟨step :: issue.path, issue.fault⟩))

def value? {α : Type} : Checked α → Option α
  | .valid x => some x
  | .invalid _ => none

@[simp] theorem part_valid {α β : Type} (f : α → β) (x : α) :
    part (.valid f) (.valid x) = .valid (f x) := rfl

@[simp] theorem under_valid {α : Type} (step : Step) (x : α) :
    under step (.valid x) = .valid x := rfl

/-- A record is accepted exactly when what came before and the next part are. -/
theorem part_eq_valid {α β : Type} {build : Checked (α → β)} {next : Checked α} {y : β} :
    part build next = .valid y ↔ ∃ f x, build = .valid f ∧ next = .valid x ∧ f x = y := by
  cases build <;> cases next <;> simp [part]

theorem under_eq_valid {α : Type} {step : Step} {c : Checked α} {x : α} :
    under step c = .valid x ↔ c = .valid x := by
  cases c <;> simp [under]

theorem map_eq_valid {α β : Type} {f : α → β} {c : Checked α} {y : β} :
    map f c = .valid y ↔ ∃ x, c = .valid x ∧ f x = y := by
  cases c <;> simp [map]

theorem bind_eq_valid {α β : Type} {f : α → Checked β} {c : Checked α} {y : β} :
    bind c f = .valid y ↔ ∃ x, c = .valid x ∧ f x = .valid y := by
  cases c <;> simp [bind]

end Checked

structure Rejection where
  record : String
  issues : List Issue
  deriving DecidableEq, Repr

/-- A check as a result: an accepted value, or the rejection of a record of a name. -/
def Checked.orReject {α : Type} (record : String) : Checked α → Except Rejection α
  | .valid x => .ok x
  | .invalid issues => .error ⟨record, issues⟩

end ClusterManifest.Schema
