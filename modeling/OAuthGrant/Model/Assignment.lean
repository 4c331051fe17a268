import OAuthGrant.Failure

/-!
# Assigning to a field of a model

What was checked when a model was made is not checked again when one of its fields is assigned to.
Most models are therefore frozen; of the others some take any name and some only their own. A name
that starts with an underscore is private: it is taken by every model and shows nowhere, unless it
stands for a part that every model has. The names of the operations of a model may be assigned to as
if they were fields of its own.
-/

namespace OAuthGrant

/-- Which names a model takes that are not private. -/
inductive Openness where
  | frozen
  | ownNames
  | anyName
  deriving DecidableEq, Repr

/-- What assignments to a model go by: its name, the names of its fields, and which names it takes. -/
structure Assignable where
  model : String
  fieldNames : List String := []
  openness : Openness := .frozen
  deriving DecidableEq, Repr

/-- What a model holds: entries of its own, and further entries, which it keeps apart. -/
structure Holding where
  own : Fields
  further : Fields := []

/-- All entries of a model. A further entry hides one of the model's own of the same name. -/
def Holding.fields (h : Holding) : Fields := h.own.merge h.further

@[simp] theorem Holding.fields_own (own : Fields) : (Holding.mk own []).fields = own := rfl

/-- Whether a name is private. -/
def isPrivateName (name : String) : Bool := name.toList.head? = some '_'

/-- The names of what a model tells of itself, which is not assigned to. -/
def computedNames : List String := ["model_extra", "model_fields_set"]

/-- The private names of what a model tells of itself. -/
def privateComputedNames : List String := ["__fields__", "__fields_set__"]

/-- The private names of what all models of one name share. -/
def sharedNames : List String :=
  ["__class_vars__", "__private_attributes__", "__signature__", "__pydantic_complete__",
   "__pydantic_core_schema__", "__pydantic_custom_init__", "__pydantic_decorators__",
   "__pydantic_generic_metadata__", "__pydantic_parent_namespace__", "__pydantic_post_init__",
   "__pydantic_root_model__", "__pydantic_serializer__", "__pydantic_validator__",
   "__pydantic_fields__", "__pydantic_setattr_handlers__", "__pydantic_computed_fields__"]

/-- The names of the operations of a model, which are known without being fields. -/
def operationNames : List String :=
  ["construct", "copy", "dict", "from_orm", "json", "model_computed_fields", "model_config",
   "model_construct", "model_copy", "model_dump", "model_dump_json", "model_fields",
   "model_json_schema", "model_parametrized_name", "model_post_init", "model_rebuild",
   "model_validate", "model_validate_json", "model_validate_strings", "mro", "parse_file",
   "parse_obj", "parse_raw", "register", "schema", "schema_json", "update_forward_refs", "validate"]

namespace Assignable

def assignPrivate (a : Assignable) (h : Holding) (name : String) (value : Value) :
    Except Failure Holding :=
  if sharedNames.contains name then .error (.sharedName a.model name)
  else if privateComputedNames.contains name then .error (.computedField a.model name)
  else match name, value with
  | "__dict__", .object fields => .ok { h with own := fields.filter fun e => !isPrivateName e.1 }
  | "__dict__", v => .error (.entriesNotDictionary name v.kind)
  | "__pydantic_extra__", .object fields => .ok { h with further := fields }
  | "__pydantic_extra__", _ => .ok { h with further := [] }
  | "__class__", v => .error (.notClass name v.kind)
  | "__weakref__", _ => .error (.notWritable a.model name)
  | _, _ => .ok h

def assign (a : Assignable) (h : Holding) (name : String) (value : Value) :
    Except Failure Holding :=
  if isPrivateName name then a.assignPrivate h name value
  else if a.openness = .frozen then .error (.invalid [⟨[name], .frozen⟩])
  else if computedNames.contains name then .error (.computedField a.model name)
  else if a.fieldNames.contains name then .ok { h with own := h.own.put name value }
  else if a.openness = .ownNames then .error (.unknownField a.model name)
  else if operationNames.contains name then .ok { h with own := h.own.put name value }
  else .ok { h with further := h.further.put name value }

theorem assign_frozen {a : Assignable} {name : String} (ha : a.openness = .frozen)
    (hn : isPrivateName name = false) (h : Holding) (value : Value) :
    a.assign h name value = .error (.invalid [⟨[name], .frozen⟩]) := by
  simp [assign, ha, hn]

end Assignable
end OAuthGrant
