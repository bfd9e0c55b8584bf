import JibitSdk.Python.Pydantic
import Mathlib.Data.List.Basic

/-!
# The base classes of the models

`jibit/models.py`: `_to_camel`, which turns the Python names of model fields into the API's, the two
base classes, and the declarations their fields are written with.
-/

namespace JibitSdk.Sdk

open JibitSdk.Python

/-! ## 1. Field names -/

/-- `str.capitalize`, of the ASCII names the generator is applied to. -/
def capitalize : List Char → List Char
  | [] => []
  | c :: rest => c.toUpper :: rest.map Char.toLower

/-- `_to_camel`. -/
def toCamel (value : List Char) : List Char :=
  match value.splitOn '_' with
  | [] => []
  | head :: tail => head ++ (tail.map capitalize).flatten

/-! ## 2. Base classes -/

/-- `JibitModel`: unknown keys are kept. -/
def jibitModel (fields : List (Field × Schema)) : Schema := .record .allow fields

/-- `JibitRequestModel`: unknown keys are refused. -/
def jibitRequestModel (fields : List (Field × Schema)) : Schema := .record .forbid fields

/-! ## 3. Fields -/

/-- A field under its alias and, by `populate_by_name`, under its name. -/
def fieldAs (name : String) (type : Schema) (default : Option Obj) (key : String) :
    Field × Schema := (⟨name, [key, name], default⟩, type)

/-- The alias that `alias_generator` gives a field. -/
def generatedAlias (name : String) : String := String.ofList (toCamel name.toList)

def requiredAs (name : String) (type : Schema) (key : String) : Field × Schema :=
  fieldAs name type none key

def required (name : String) (type : Schema) : Field × Schema :=
  requiredAs name type (generatedAlias name)

def defaultingAs (name : String) (type : Schema) (default : Obj) (key : String) : Field × Schema :=
  fieldAs name type (some default) key

def defaulting (name : String) (type : Schema) (default : Obj) : Field × Schema :=
  defaultingAs name type default (generatedAlias name)

/-- `X | None = None`. -/
def optionalAs (name : String) (type : Schema) (key : String) : Field × Schema :=
  fieldAs name (.nullable type) (some .null) key

def optional (name : String) (type : Schema) : Field × Schema :=
  optionalAs name type (generatedAlias name)

end JibitSdk.Sdk
