import ApiDiscovery.Format.Record
import ApiDiscovery.Timestamp

/-!
The metadata that every object and every list of objects carries.
-/

namespace ApiDiscovery

def Timestamp.format : Format Timestamp := .parsed Timestamp.parse Timestamp.print

structure ListMeta where
  continuation : Option String := none
  remainingItemCount : Option Int64 := none
  resourceVersion : Option String := none
  selfLink : Option String := none
  deriving DecidableEq, Inhabited

def ListMeta.format : Format ListMeta :=
  .record .lenient
    (.field (.optional "continue" .text) <|
      .field (.optional "remainingItemCount" .integer) <|
      .field (.optional "resourceVersion" .text) <|
      .field (.optional "selfLink" .text) .done)
    (fun (continuation, remainingItemCount, resourceVersion, selfLink, ()) =>
      { continuation, remainingItemCount, resourceVersion, selfLink })
    fun metadata =>
      (metadata.continuation, metadata.remainingItemCount, metadata.resourceVersion, metadata.selfLink, ())

structure ManagedFields where
  apiVersion : Option String := none
  fieldsType : Option String := none
  fields : Option Value := none
  manager : Option String := none
  operation : Option String := none
  subresource : Option String := none
  time : Option Timestamp := none
  deriving DecidableEq, Inhabited

def ManagedFields.format : Format ManagedFields :=
  .record .lenient
    (.field (.optional "apiVersion" .text) <|
      .field (.optional "fieldsType" .text) <|
      .field (.optional "fieldsV1" .value) <|
      .field (.optional "manager" .text) <|
      .field (.optional "operation" .text) <|
      .field (.optional "subresource" .text) <|
      .field (.optional "time" Timestamp.format) .done)
    (fun (apiVersion, fieldsType, fields, manager, operation, subresource, time, ()) =>
      { apiVersion, fieldsType, fields, manager, operation, subresource, time })
    fun managed =>
      (managed.apiVersion, managed.fieldsType, managed.fields, managed.manager, managed.operation,
        managed.subresource, managed.time, ())

structure OwnerReference where
  apiVersion : String := ""
  blockOwnerDeletion : Option Bool := none
  controller : Option Bool := none
  kind : String := ""
  name : String := ""
  uid : String := ""
  deriving DecidableEq, Inhabited

def OwnerReference.format : Format OwnerReference :=
  .record .lenient
    (.field (.lenient "apiVersion" .text "") <|
      .field (.optional "blockOwnerDeletion" .flag) <|
      .field (.optional "controller" .flag) <|
      .field (.lenient "kind" .text "") <|
      .field (.lenient "name" .text "") <|
      .field (.lenient "uid" .text "") .done)
    (fun (apiVersion, blockOwnerDeletion, controller, kind, name, uid, ()) =>
      { apiVersion, blockOwnerDeletion, controller, kind, name, uid })
    fun owner =>
      (owner.apiVersion, owner.blockOwnerDeletion, owner.controller, owner.kind, owner.name,
        owner.uid, ())

structure ObjectMeta where
  annotations : Option (Table String) := none
  creationTimestamp : Option Timestamp := none
  deletionGracePeriodSeconds : Option Int64 := none
  deletionTimestamp : Option Timestamp := none
  finalizers : Option (List String) := none
  generateName : Option String := none
  generation : Option Int64 := none
  labels : Option (Table String) := none
  managedFields : Option (List ManagedFields) := none
  name : Option String := none
  «namespace» : Option String := none
  ownerReferences : Option (List OwnerReference) := none
  resourceVersion : Option String := none
  selfLink : Option String := none
  uid : Option String := none
  deriving DecidableEq, Inhabited

def ObjectMeta.format : Format ObjectMeta :=
  .record .lenient
    (.field (.optional "annotations" (.table .text)) <|
      .field (.optional "creationTimestamp" Timestamp.format) <|
      .field (.optional "deletionGracePeriodSeconds" .integer) <|
      .field (.optional "deletionTimestamp" Timestamp.format) <|
      .field (.optional "finalizers" (.list .text)) <|
      .field (.optional "generateName" .text) <|
      .field (.optional "generation" .integer) <|
      .field (.optional "labels" (.table .text)) <|
      .field (.optional "managedFields" (.list ManagedFields.format)) <|
      .field (.optional "name" .text) <|
      .field (.optional "namespace" .text) <|
      .field (.optional "ownerReferences" (.list OwnerReference.format)) <|
      .field (.optional "resourceVersion" .text) <|
      .field (.optional "selfLink" .text) <|
      .field (.optional "uid" .text) .done)
    (fun (annotations, creationTimestamp, deletionGracePeriodSeconds, deletionTimestamp, finalizers,
        generateName, generation, labels, managedFields, name, «namespace», ownerReferences,
        resourceVersion, selfLink, uid, ()) =>
      { annotations, creationTimestamp, deletionGracePeriodSeconds, deletionTimestamp, finalizers,
        generateName, generation, labels, managedFields, name, «namespace», ownerReferences,
        resourceVersion, selfLink, uid })
    fun metadata =>
      (metadata.annotations, metadata.creationTimestamp, metadata.deletionGracePeriodSeconds,
        metadata.deletionTimestamp, metadata.finalizers, metadata.generateName, metadata.generation, metadata.labels,
        metadata.managedFields, metadata.name, metadata.namespace, metadata.ownerReferences, metadata.resourceVersion,
        metadata.selfLink, metadata.uid, ())

end ApiDiscovery
