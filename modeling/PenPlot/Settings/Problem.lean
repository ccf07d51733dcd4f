-- Problems with settings. A record is checked field by field; every field that
-- is wrong is reported once, in the order in which the record declares its
-- fields, and the record is accepted only if there is nothing to report.
import PenPlot.Json.Basic

namespace PenPlot.Settings

/-! ## Causes and problems -/

/-- What is wrong with a value. -/
inductive Cause where
  | missing
  | frozen
  | floatType
  | floatParsing
  | notFinite
  | intType
  | intParsing
  | intParsingSize
  | intFromFloat
  | boolType
  | boolParsing
  | stringType
  | pathType
  | listType
  | recordType (name : String)
  | notAbove (bound : Nat)
  | belowLeast (bound : Nat)
  | aboveGreatest (bound : Nat)
  deriving DecidableEq, Repr

/-- The code of a cause. -/
def Cause.code : Cause → String
  | .missing => "missing"
  | .frozen => "frozen_instance"
  | .floatType => "float_type"
  | .floatParsing => "float_parsing"
  | .notFinite => "finite_number"
  | .intType => "int_type"
  | .intParsing => "int_parsing"
  | .intParsingSize => "int_parsing_size"
  | .intFromFloat => "int_from_float"
  | .boolType => "bool_type"
  | .boolParsing => "bool_parsing"
  | .stringType => "string_type"
  | .pathType => "path_type"
  | .listType => "list_type"
  | .recordType _ => "model_type"
  | .notAbove _ => "greater_than"
  | .belowLeast _ => "greater_than_equal"
  | .aboveGreatest _ => "less_than_equal"

/-- The wording of a cause. -/
def Cause.message : Cause → String
  | .missing => "Field required"
  | .frozen => "Instance is frozen"
  | .floatType => "Input should be a valid number"
  | .floatParsing => "Input should be a valid number, unable to parse string as a number"
  | .notFinite => "Input should be a finite number"
  | .intType => "Input should be a valid integer"
  | .intParsing => "Input should be a valid integer, unable to parse string as an integer"
  | .intParsingSize => "Unable to parse input string as an integer, exceeded maximum size"
  | .intFromFloat => "Input should be a valid integer, got a number with a fractional part"
  | .boolType => "Input should be a valid boolean"
  | .boolParsing => "Input should be a valid boolean, unable to interpret input"
  | .stringType => "Input should be a valid string"
  | .pathType => "Input is not a valid path for <class 'pathlib.Path'>"
  | .listType => "Input should be a valid list"
  | .recordType name => "Input should be a valid dictionary or instance of " ++ name
  | .notAbove bound => "Input should be greater than " ++ toString bound
  | .belowLeast bound => "Input should be greater than or equal to " ++ toString bound
  | .aboveGreatest bound => "Input should be less than or equal to " ++ toString bound

/-- A step of the way to a value: the field of a record or the place in a list. -/
inductive Step where
  | field (name : String)
  | index (i : Nat)
  deriving DecidableEq, Repr

/-- A problem: the way to the value, and what is wrong with it. -/
structure Problem where
  way : List Step
  cause : Cause
  deriving DecidableEq, Repr

/-! ## Checked values -/

/-- The result of checking: a value, or all problems found. -/
inductive Checked (α : Type) where
  | ok (value : α)
  | failed (problems : List Problem)
  deriving Repr

namespace Checked

variable {α β : Type}

/-- The value with a function applied. -/
def map (f : α → β) : Checked α → Checked β
  | .ok a => .ok (f a)
  | .failed ps => .failed ps

/-- A function and its argument checked one after the other; the problems of
both are kept. -/
def apply : Checked (α → β) → Checked α → Checked β
  | .ok f, .ok a => .ok (f a)
  | .ok _, .failed ps => .failed ps
  | .failed ps, .ok _ => .failed ps
  | .failed ps, .failed qs => .failed (ps ++ qs)

instance : Applicative Checked where
  pure := .ok
  map := map
  seq f x := apply f (x ())

/-- The problems seen from one step further out. -/
def within (step : Step) : Checked α → Checked α
  | .ok a => .ok a
  | .failed ps => .failed (ps.map fun p => { p with way := step :: p.way })

/-- The problems of a result. -/
def problems : Checked α → List Problem
  | .ok _ => []
  | .failed ps => ps

/-- A value that is checked as a whole, without steps to its parts. -/
def ofScalar : Except Cause α → Checked α
  | .ok a => .ok a
  | .error cause => .failed [⟨[], cause⟩]

end Checked

/-! ## Checks -/

/-- A check of a value. -/
abbrev Check (α : Type) := Json → Checked α

/-- The check that reads a value as a whole. -/
def scalar {α : Type} (read : Json → Except Cause α) : Check α := fun j => .ofScalar (read j)

/-- A field that may be left out. -/
def optionalField {α : Type} (name : String) (default : α) (check : Check α)
    (fields : List (String × Json)) : Checked α :=
  match Json.lookup? name fields with
  | none => .ok default
  | some value => (check value).within (.field name)

/-- A field that has to be there. -/
def requiredField {α : Type} (name : String) (check : Check α) (fields : List (String × Json)) :
    Checked α :=
  match Json.lookup? name fields with
  | none => .failed [⟨[.field name], .missing⟩]
  | some value => (check value).within (.field name)

/-- A value that may be null. -/
def nullable {α : Type} (check : Check α) : Check (Option α)
  | .null => .ok none
  | value => (check value).map some

/-- A record within a record; only an object is one. -/
def record {α : Type} (name : String) (check : List (String × Json) → Checked α) : Check α
  | .obj fields => check fields
  | _ => .failed [⟨[], .recordType name⟩]

/-- The items of a list, each checked at its place. -/
def checkItems {α : Type} (check : Check α) : Nat → List Json → Checked (List α)
  | _, [] => .ok []
  | i, item :: rest =>
    (((check item).within (.index i)).map List.cons).apply (checkItems check (i + 1) rest)

/-- A list. -/
def list {α : Type} (check : Check α) : Check (List α)
  | .arr items => checkItems check 0 items
  | _ => .failed [⟨[], .listType⟩]

end PenPlot.Settings
