import CloudOperator.Codec.Fields
import CloudOperator.Json.Limits

/-!
# Metadata

What the cluster keeps about every object: its name, its versions, its finalizers
and who owns it.  Every part may be absent.
-/

namespace CloudOperator

/-- A reference to an owner of an object. -/
structure OwnerReference where
  apiVersion : Option String
  blockOwnerDeletion : Option Bool
  controller : Option Bool
  kind : Option String
  name : Option String
  uid : Option String

namespace OwnerReference

/-- A text field that counts as empty where it is absent, and is always written. -/
def textField (name : String) : Fields (Option String) :=
  { Fields.omittable name .text with encode := fun value => [(name, .text (value.getD ""))] }

/-- The fields of an owner reference. -/
def fields : Fields OwnerReference :=
  (textField "apiVersion"
    >> Fields.omittable "blockOwnerDeletion" .flag
    >> Fields.omittable "controller" .flag
    >> textField "kind"
    >> textField "name"
    >> textField "uid").as
    (fun (version, block, controller, kind, name, uid) =>
      ⟨version, block, controller, kind, name, uid⟩)
    (fun r => (r.apiVersion, r.blockOwnerDeletion, r.controller, r.kind, r.name, r.uid))

end OwnerReference

/-- A record of the fields that one client manages. -/
structure ManagedFields where
  apiVersion : Option String
  fieldsType : Option String
  fieldsV1 : Option Json
  manager : Option String
  operation : Option String
  subresource : Option String
  time : Option Instant

namespace ManagedFields

/-- Values that are held as they stand, four levels inside of an object. -/
def heldValue : Codec Json :=
  { Codec.anything with
    encode := Json.canonical
    decode := fun json => if json.fitsInside 4 then some json else none }

/-- The fields of a record of managed fields. -/
def fields : Fields ManagedFields :=
  (Fields.omittable "apiVersion" .text
    >> Fields.omittable "fieldsType" .text
    >> Fields.omittable "fieldsV1" heldValue
    >> Fields.omittable "manager" .text
    >> Fields.omittable "operation" .text
    >> Fields.omittable "subresource" .text
    >> Fields.omittable "time" .instant).as
    (fun (version, type, values, manager, operation, subresource, time) =>
      ⟨version, type, values, manager, operation, subresource, time⟩)
    (fun m => (m.apiVersion, m.fieldsType, m.fieldsV1, m.manager, m.operation, m.subresource,
      m.time))

end ManagedFields

/-- The metadata of an object. -/
structure Metadata where
  annotations : Option (List (String × String))
  creationTimestamp : Option Instant
  deletionGracePeriodSeconds : Option Int64
  deletionTimestamp : Option Instant
  finalizers : Option (List String)
  generateName : Option String
  generation : Option Int64
  labels : Option (List (String × String))
  managedFields : Option (List ManagedFields)
  name : Option String
  /-- The namespace of the object. -/
  ns : Option String
  ownerReferences : Option (List OwnerReference)
  resourceVersion : Option String
  selfLink : Option String
  uid : Option String

namespace Metadata

/-- The fields of metadata. -/
def fields : Fields Metadata :=
  (Fields.omittable "annotations" (.map .text)
    >> Fields.omittable "creationTimestamp" .instant
    >> Fields.omittable "deletionGracePeriodSeconds" .int64
    >> Fields.omittable "deletionTimestamp" .instant
    >> Fields.omittable "finalizers" (.list .text)
    >> Fields.omittable "generateName" .text
    >> Fields.omittable "generation" .int64
    >> Fields.omittable "labels" (.map .text)
    >> Fields.omittable "managedFields" (.list (.tolerant ManagedFields.fields))
    >> Fields.omittable "name" .text
    >> Fields.omittable "namespace" .text
    >> Fields.omittable "ownerReferences" (.list (.tolerant OwnerReference.fields))
    >> Fields.omittable "resourceVersion" .text
    >> Fields.omittable "selfLink" .text
    >> Fields.omittable "uid" .text).as
    (fun (annotations, created, grace, deleted, finalizers, generateName, generation, labels,
        managed, name, ns, owners, version, link, uid) =>
      ⟨annotations, created, grace, deleted, finalizers, generateName, generation, labels, managed,
        name, ns, owners, version, link, uid⟩)
    (fun m => (m.annotations, m.creationTimestamp, m.deletionGracePeriodSeconds,
      m.deletionTimestamp, m.finalizers, m.generateName, m.generation, m.labels, m.managedFields,
      m.name, m.ns, m.ownerReferences, m.resourceVersion, m.selfLink, m.uid))

/-- Metadata as objects. -/
def codec : Codec Metadata :=
  Codec.tolerant fields

/-- The name of the object, or the beginning that its name is generated from. -/
def displayName (m : Metadata) : String :=
  (m.name.or m.generateName).getD ""

/-- The finalizers of the object. -/
def finalizerList (m : Metadata) : List String :=
  m.finalizers.getD []

end Metadata

end CloudOperator
