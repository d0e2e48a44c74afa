import Toolbox.Proofs.Dict
import Toolbox.Schema.Basic

/-!
# What adding a property does

`Schema.withProperty` through the readers of a schema: the property that is found, the names that
are required, and the order of the names.  Adding properties to the schema of an object leaves it
one (`DescribesObject`).
-/

namespace Toolbox.Schema

/-- Names of the properties, in ascending order if they are kept so. -/
def propertyNames (n : Schema) : List String := (n.properties.getD []).map (·.1)

def setDescription (n : Schema) (description : Option String) : Schema := { n with description }

def setDefault (n : Schema) (default : Option Json) : Schema := { n with default }

/-- Whether the properties are kept in ascending order of their names. -/
def Sorted (n : Schema) : Prop := Ascending (n.properties.getD [])

theorem setDescription_eq_self {n : Schema} {description : Option String}
    (h : n.description = description) : n.setDescription description = n := by
  cases n
  cases h
  rfl

theorem setDefault_eq_self {n : Schema} {default : Option Json} (h : n.default = default) :
    n.setDefault default = n := by
  cases n
  cases h
  rfl

theorem mem_propertyNames (n : Schema) (name : String) :
    name ∈ n.propertyNames ↔ (n.property name).isSome := by
  unfold propertyNames property
  rw [← isSome_findEntry_iff]
  cases n.properties <;> rfl

theorem sorted_object : object.Sorted := List.Pairwise.nil

theorem Sorted.propertyNames_ascend {n : Schema} (h : n.Sorted) :
    n.propertyNames.Pairwise (· < ·) :=
  List.pairwise_map.mpr h

theorem property_withProperty (n : Schema) (name key : String) (schema : Schema) (required : Bool) :
    (n.withProperty name schema required).property key =
      if key = name then some schema else n.property key := by
  have hfind : (n.withProperty name schema required).property key =
      findEntry key (insertEntry name schema (n.properties.getD [])) := rfl
  rw [hfind, findEntry_insertEntry]
  unfold property
  cases n.properties <;> rfl

theorem requiredNames_withProperty_false (n : Schema) (name : String) (schema : Schema) :
    (n.withProperty name schema false).requiredNames = n.requiredNames := rfl

theorem requiredNames_withProperty_true (n : Schema) (name : String) (schema : Schema) :
    (n.withProperty name schema true).requiredNames =
      if name ∈ n.requiredNames then n.requiredNames else n.requiredNames ++ [name] := rfl

/-- Whatever property is set, what is required stays declared: a name is marked along with its
property. -/
theorem declared_withProperty {n : Schema}
    (h : ∀ key ∈ n.requiredNames, (n.property key).isSome) (name : String) (schema : Schema)
    (required : Bool) : ∀ key ∈ (n.withProperty name schema required).requiredNames,
      ((n.withProperty name schema required).property key).isSome := by
  intro key hkey
  rw [property_withProperty]
  split
  next => rfl
  next hne =>
    apply h
    cases required with
    | false => exact hkey
    | true =>
      rw [requiredNames_withProperty_true] at hkey
      split at hkey
      next => exact hkey
      next =>
        rcases List.mem_append.mp hkey with hkey | hkey
        · exact hkey
        · exact absurd (List.mem_singleton.mp hkey) hne

theorem Sorted.withProperty {n : Schema} (h : n.Sorted) (name : String) (schema : Schema)
    (required : Bool) : (n.withProperty name schema required).Sorted :=
  Ascending.insertEntry h name schema

/-- Whether a schema is that of an object which has every name it requires. -/
structure DescribesObject (n : Schema) : Prop where
  kind : n.effectiveKind = some .object
  declared : ∀ name ∈ n.requiredNames, (n.property name).isSome

theorem DescribesObject.withDescription {n : Schema} (h : n.DescribesObject)
    (description : String) : (n.withDescription description).DescribesObject :=
  ⟨h.kind, h.declared⟩

theorem DescribesObject.withProperty {n : Schema} (h : n.DescribesObject) (name : String)
    (schema : Schema) (required : Bool) :
    (n.withProperty name schema required).DescribesObject :=
  ⟨h.kind, declared_withProperty h.declared name schema required⟩

end Toolbox.Schema
