import StagedTests.Cluster.Shape

/-!
# Pods and secrets as records

The shapes of the objects that a cluster gives out and takes in, in version 1.30 of its interface.
The times at which the containers of a pod ran keep their fractions of a second, since durations
are computed from them; all other times are cut off to whole seconds.
-/

namespace StagedTests.Schema

def optional (name : String) (shape : Shape) : String × Presence × Shape :=
  (name, .optional, shape)

def required (name : String) (shape : Shape) : String × Presence × Shape :=
  (name, .required, shape)

/-- A member that is always of one text. -/
def fixed (name text : String) : String × Presence × Shape :=
  (name, .fixed text, .text)

/-! ## Metadata -/

def ownerReference : Shape := .record "OwnerReference" [
  required "apiVersion" .text, optional "blockOwnerDeletion" .flag, optional "controller" .flag,
  required "kind" .text, required "name" .text, required "uid" .text]

def managedFieldsEntry : Shape := .record "ManagedFieldsEntry" [
  optional "apiVersion" .text, optional "fieldsType" .text, optional "fieldsV1" .anything,
  optional "manager" .text, optional "operation" .text, optional "subresource" .text,
  optional "time" .second]

def objectMeta : Shape := .record "ObjectMeta" [
  optional "annotations" (.table .text), optional "creationTimestamp" .second,
  optional "deletionGracePeriodSeconds" .int64, optional "deletionTimestamp" .second,
  optional "finalizers" (.list .text), optional "generateName" .text, optional "generation" .int64,
  optional "labels" (.table .text), optional "managedFields" (.list managedFieldsEntry),
  optional "name" .text, optional "namespace" .text,
  optional "ownerReferences" (.list ownerReference), optional "resourceVersion" .text,
  optional "selfLink" .text, optional "uid" .text]

def listMeta : Shape := .record "ListMeta" [
  optional "continue" .text, optional "remainingItemCount" .int64,
  optional "resourceVersion" .text, optional "selfLink" .text]

def labelSelectorRequirement : Shape := .record "LabelSelectorRequirement" [
  required "key" .text, required "operator" .text, optional "values" (.list .text)]

def labelSelector : Shape := .record "LabelSelector" [
  optional "matchExpressions" (.list labelSelectorRequirement),
  optional "matchLabels" (.table .text)]

def localObjectReference : Shape := .record "LocalObjectReference" [optional "name" .text]

/-! ## Affinity -/

def nodeSelectorRequirement : Shape := .record "NodeSelectorRequirement" [
  required "key" .text, required "operator" .text, optional "values" (.list .text)]

def nodeSelectorTerm : Shape := .record "NodeSelectorTerm" [
  optional "matchExpressions" (.list nodeSelectorRequirement),
  optional "matchFields" (.list nodeSelectorRequirement)]

def nodeSelector : Shape := .record "NodeSelector" [
  required "nodeSelectorTerms" (.list nodeSelectorTerm)]

def preferredSchedulingTerm : Shape := .record "PreferredSchedulingTerm" [
  required "preference" nodeSelectorTerm, required "weight" .int32]

def nodeAffinity : Shape := .record "NodeAffinity" [
  optional "preferredDuringSchedulingIgnoredDuringExecution" (.list preferredSchedulingTerm),
  optional "requiredDuringSchedulingIgnoredDuringExecution" nodeSelector]

def podAffinityTerm : Shape := .record "PodAffinityTerm" [
  optional "labelSelector" labelSelector, optional "matchLabelKeys" (.list .text),
  optional "mismatchLabelKeys" (.list .text), optional "namespaceSelector" labelSelector,
  optional "namespaces" (.list .text), required "topologyKey" .text]

def weightedPodAffinityTerm : Shape := .record "WeightedPodAffinityTerm" [
  required "podAffinityTerm" podAffinityTerm, required "weight" .int32]

def podAffinity : Shape := .record "PodAffinity" [
  optional "preferredDuringSchedulingIgnoredDuringExecution" (.list weightedPodAffinityTerm),
  optional "requiredDuringSchedulingIgnoredDuringExecution" (.list podAffinityTerm)]

def podAntiAffinity : Shape := .record "PodAntiAffinity" [
  optional "preferredDuringSchedulingIgnoredDuringExecution" (.list weightedPodAffinityTerm),
  optional "requiredDuringSchedulingIgnoredDuringExecution" (.list podAffinityTerm)]

def affinity : Shape := .record "Affinity" [
  optional "nodeAffinity" nodeAffinity, optional "podAffinity" podAffinity,
  optional "podAntiAffinity" podAntiAffinity]

/-! ## Containers -/

def configMapKeySelector : Shape := .record "ConfigMapKeySelector" [
  required "key" .text, optional "name" .text, optional "optional" .flag]

def secretKeySelector : Shape := .record "SecretKeySelector" [
  required "key" .text, optional "name" .text, optional "optional" .flag]

def objectFieldSelector : Shape := .record "ObjectFieldSelector" [
  optional "apiVersion" .text, required "fieldPath" .text]

def resourceFieldSelector : Shape := .record "ResourceFieldSelector" [
  optional "containerName" .text, optional "divisor" .text, required "resource" .text]

def envVarSource : Shape := .record "EnvVarSource" [
  optional "configMapKeyRef" configMapKeySelector, optional "fieldRef" objectFieldSelector,
  optional "resourceFieldRef" resourceFieldSelector, optional "secretKeyRef" secretKeySelector]

def envVar : Shape := .record "EnvVar" [
  required "name" .text, optional "value" .text, optional "valueFrom" envVarSource]

def configMapEnvSource : Shape := .record "ConfigMapEnvSource" [
  optional "name" .text, optional "optional" .flag]

def secretEnvSource : Shape := .record "SecretEnvSource" [
  optional "name" .text, optional "optional" .flag]

def envFromSource : Shape := .record "EnvFromSource" [
  optional "configMapRef" configMapEnvSource, optional "prefix" .text,
  optional "secretRef" secretEnvSource]

def execAction : Shape := .record "ExecAction" [optional "command" (.list .text)]

def httpHeader : Shape := .record "HTTPHeader" [required "name" .text, required "value" .text]

def httpGetAction : Shape := .record "HTTPGetAction" [
  optional "host" .text, optional "httpHeaders" (.list httpHeader), optional "path" .text,
  required "port" .numberOrName, optional "scheme" .text]

def sleepAction : Shape := .record "SleepAction" [required "seconds" .int64]

def tcpSocketAction : Shape := .record "TCPSocketAction" [
  optional "host" .text, required "port" .numberOrName]

def grpcAction : Shape := .record "GRPCAction" [required "port" .int32, optional "service" .text]

def lifecycleHandler : Shape := .record "LifecycleHandler" [
  optional "exec" execAction, optional "httpGet" httpGetAction, optional "sleep" sleepAction,
  optional "tcpSocket" tcpSocketAction]

def lifecycle : Shape := .record "Lifecycle" [
  optional "postStart" lifecycleHandler, optional "preStop" lifecycleHandler]

def probe : Shape := .record "Probe" [
  optional "exec" execAction, optional "failureThreshold" .int32, optional "grpc" grpcAction,
  optional "httpGet" httpGetAction, optional "initialDelaySeconds" .int32,
  optional "periodSeconds" .int32, optional "successThreshold" .int32,
  optional "tcpSocket" tcpSocketAction, optional "terminationGracePeriodSeconds" .int64,
  optional "timeoutSeconds" .int32]

def containerPort : Shape := .record "ContainerPort" [
  required "containerPort" .int32, optional "hostIP" .text, optional "hostPort" .int32,
  optional "name" .text, optional "protocol" .text]

def containerResizePolicy : Shape := .record "ContainerResizePolicy" [
  required "resourceName" .text, required "restartPolicy" .text]

def resourceClaim : Shape := .record "ResourceClaim" [required "name" .text]

def resourceRequirements : Shape := .record "ResourceRequirements" [
  optional "claims" (.list resourceClaim), optional "limits" (.table .text),
  optional "requests" (.table .text)]

def appArmorProfile : Shape := .record "AppArmorProfile" [
  optional "localhostProfile" .text, required "type" .text]

def capabilities : Shape := .record "Capabilities" [
  optional "add" (.list .text), optional "drop" (.list .text)]

def seLinuxOptions : Shape := .record "SELinuxOptions" [
  optional "level" .text, optional "role" .text, optional "type" .text, optional "user" .text]

def seccompProfile : Shape := .record "SeccompProfile" [
  optional "localhostProfile" .text, required "type" .text]

def windowsSecurityContextOptions : Shape := .record "WindowsSecurityContextOptions" [
  optional "gmsaCredentialSpec" .text, optional "gmsaCredentialSpecName" .text,
  optional "hostProcess" .flag, optional "runAsUserName" .text]

def securityContext : Shape := .record "SecurityContext" [
  optional "allowPrivilegeEscalation" .flag, optional "appArmorProfile" appArmorProfile,
  optional "capabilities" capabilities, optional "privileged" .flag, optional "procMount" .text,
  optional "readOnlyRootFilesystem" .flag, optional "runAsGroup" .int64,
  optional "runAsNonRoot" .flag, optional "runAsUser" .int64,
  optional "seLinuxOptions" seLinuxOptions, optional "seccompProfile" seccompProfile,
  optional "windowsOptions" windowsSecurityContextOptions]

def volumeDevice : Shape := .record "VolumeDevice" [
  required "devicePath" .text, required "name" .text]

def volumeMount : Shape := .record "VolumeMount" [
  required "mountPath" .text, optional "mountPropagation" .text, required "name" .text,
  optional "readOnly" .flag, optional "recursiveReadOnly" .text, optional "subPath" .text,
  optional "subPathExpr" .text]

/-- What all kinds of containers have. -/
def containerMembers : Shape.Members := [
  optional "args" (.list .text), optional "command" (.list .text), optional "env" (.list envVar),
  optional "envFrom" (.list envFromSource), optional "image" .text,
  optional "imagePullPolicy" .text, optional "lifecycle" lifecycle, optional "livenessProbe" probe,
  required "name" .text, optional "ports" (.list containerPort), optional "readinessProbe" probe,
  optional "resizePolicy" (.list containerResizePolicy), optional "resources" resourceRequirements,
  optional "restartPolicy" .text, optional "securityContext" securityContext,
  optional "startupProbe" probe, optional "stdin" .flag, optional "stdinOnce" .flag,
  optional "terminationMessagePath" .text, optional "terminationMessagePolicy" .text,
  optional "tty" .flag, optional "volumeDevices" (.list volumeDevice),
  optional "volumeMounts" (.list volumeMount), optional "workingDir" .text]

def container : Shape := .record "Container" containerMembers

def ephemeralContainer : Shape := .record "EphemeralContainer" (containerMembers ++ [
    optional "targetContainerName" .text])

/-! ## Volumes -/

def awsElasticBlockStoreVolumeSource : Shape := .record "AWSElasticBlockStoreVolumeSource" [
  optional "fsType" .text, optional "partition" .int32, optional "readOnly" .flag,
  required "volumeID" .text]

def azureDiskVolumeSource : Shape := .record "AzureDiskVolumeSource" [
  optional "cachingMode" .text, required "diskName" .text, required "diskURI" .text,
  optional "fsType" .text, optional "kind" .text, optional "readOnly" .flag]

def azureFileVolumeSource : Shape := .record "AzureFileVolumeSource" [
  optional "readOnly" .flag, required "secretName" .text, required "shareName" .text]

def cephFSVolumeSource : Shape := .record "CephFSVolumeSource" [
  required "monitors" (.list .text), optional "path" .text, optional "readOnly" .flag,
  optional "secretFile" .text, optional "secretRef" localObjectReference, optional "user" .text]

def cinderVolumeSource : Shape := .record "CinderVolumeSource" [
  optional "fsType" .text, optional "readOnly" .flag, optional "secretRef" localObjectReference,
  required "volumeID" .text]

def keyToPath : Shape := .record "KeyToPath" [
  required "key" .text, optional "mode" .int32, required "path" .text]

def configMapVolumeSource : Shape := .record "ConfigMapVolumeSource" [
  optional "defaultMode" .int32, optional "items" (.list keyToPath), optional "name" .text,
  optional "optional" .flag]

def csiVolumeSource : Shape := .record "CSIVolumeSource" [
  required "driver" .text, optional "fsType" .text,
  optional "nodePublishSecretRef" localObjectReference, optional "readOnly" .flag,
  optional "volumeAttributes" (.table .text)]

def downwardAPIVolumeFile : Shape := .record "DownwardAPIVolumeFile" [
  optional "fieldRef" objectFieldSelector, optional "mode" .int32, required "path" .text,
  optional "resourceFieldRef" resourceFieldSelector]

def downwardAPIVolumeSource : Shape := .record "DownwardAPIVolumeSource" [
  optional "defaultMode" .int32, optional "items" (.list downwardAPIVolumeFile)]

def emptyDirVolumeSource : Shape := .record "EmptyDirVolumeSource" [
  optional "medium" .text, optional "sizeLimit" .text]

def typedLocalObjectReference : Shape := .record "TypedLocalObjectReference" [
  optional "apiGroup" .text, required "kind" .text, required "name" .text]

def typedObjectReference : Shape := .record "TypedObjectReference" [
  optional "apiGroup" .text, required "kind" .text, required "name" .text,
  optional "namespace" .text]

def volumeResourceRequirements : Shape := .record "VolumeResourceRequirements" [
  optional "limits" (.table .text), optional "requests" (.table .text)]

def persistentVolumeClaimSpec : Shape := .record "PersistentVolumeClaimSpec" [
  optional "accessModes" (.list .text), optional "dataSource" typedLocalObjectReference,
  optional "dataSourceRef" typedObjectReference, optional "resources" volumeResourceRequirements,
  optional "selector" labelSelector, optional "storageClassName" .text,
  optional "volumeAttributesClassName" .text, optional "volumeMode" .text,
  optional "volumeName" .text]

def persistentVolumeClaimTemplate : Shape := .record "PersistentVolumeClaimTemplate" [
  optional "metadata" objectMeta, required "spec" persistentVolumeClaimSpec]

def ephemeralVolumeSource : Shape := .record "EphemeralVolumeSource" [
  optional "volumeClaimTemplate" persistentVolumeClaimTemplate]

def fcVolumeSource : Shape := .record "FCVolumeSource" [
  optional "fsType" .text, optional "lun" .int32, optional "readOnly" .flag,
  optional "targetWWNs" (.list .text), optional "wwids" (.list .text)]

def flexVolumeSource : Shape := .record "FlexVolumeSource" [
  required "driver" .text, optional "fsType" .text, optional "options" (.table .text),
  optional "readOnly" .flag, optional "secretRef" localObjectReference]

def flockerVolumeSource : Shape := .record "FlockerVolumeSource" [
  optional "datasetName" .text, optional "datasetUUID" .text]

def gcePersistentDiskVolumeSource : Shape := .record "GCEPersistentDiskVolumeSource" [
  optional "fsType" .text, optional "partition" .int32, required "pdName" .text,
  optional "readOnly" .flag]

def gitRepoVolumeSource : Shape := .record "GitRepoVolumeSource" [
  optional "directory" .text, required "repository" .text, optional "revision" .text]

def glusterfsVolumeSource : Shape := .record "GlusterfsVolumeSource" [
  required "endpoints" .text, required "path" .text, optional "readOnly" .flag]

def hostPathVolumeSource : Shape := .record "HostPathVolumeSource" [
  required "path" .text, optional "type" .text]

def iscsiVolumeSource : Shape := .record "ISCSIVolumeSource" [
  optional "chapAuthDiscovery" .flag, optional "chapAuthSession" .flag, optional "fsType" .text,
  optional "initiatorName" .text, required "iqn" .text, optional "iscsiInterface" .text,
  required "lun" .int32, optional "portals" (.list .text), optional "readOnly" .flag,
  optional "secretRef" localObjectReference, required "targetPortal" .text]

def nfsVolumeSource : Shape := .record "NFSVolumeSource" [
  required "path" .text, optional "readOnly" .flag, required "server" .text]

def persistentVolumeClaimVolumeSource : Shape := .record "PersistentVolumeClaimVolumeSource" [
  required "claimName" .text, optional "readOnly" .flag]

def photonPersistentDiskVolumeSource : Shape := .record "PhotonPersistentDiskVolumeSource" [
  optional "fsType" .text, required "pdID" .text]

def portworxVolumeSource : Shape := .record "PortworxVolumeSource" [
  optional "fsType" .text, optional "readOnly" .flag, required "volumeID" .text]

def clusterTrustBundleProjection : Shape := .record "ClusterTrustBundleProjection" [
  optional "labelSelector" labelSelector, optional "name" .text, optional "optional" .flag,
  required "path" .text, optional "signerName" .text]

def configMapProjection : Shape := .record "ConfigMapProjection" [
  optional "items" (.list keyToPath), optional "name" .text, optional "optional" .flag]

def downwardAPIProjection : Shape := .record "DownwardAPIProjection" [
  optional "items" (.list downwardAPIVolumeFile)]

def secretProjection : Shape := .record "SecretProjection" [
  optional "items" (.list keyToPath), optional "name" .text, optional "optional" .flag]

def serviceAccountTokenProjection : Shape := .record "ServiceAccountTokenProjection" [
  optional "audience" .text, optional "expirationSeconds" .int64, required "path" .text]

def volumeProjection : Shape := .record "VolumeProjection" [
  optional "clusterTrustBundle" clusterTrustBundleProjection,
  optional "configMap" configMapProjection, optional "downwardAPI" downwardAPIProjection,
  optional "secret" secretProjection, optional "serviceAccountToken" serviceAccountTokenProjection]

def projectedVolumeSource : Shape := .record "ProjectedVolumeSource" [
  optional "defaultMode" .int32, optional "sources" (.list volumeProjection)]

def quobyteVolumeSource : Shape := .record "QuobyteVolumeSource" [
  optional "group" .text, optional "readOnly" .flag, required "registry" .text,
  optional "tenant" .text, optional "user" .text, required "volume" .text]

def rbdVolumeSource : Shape := .record "RBDVolumeSource" [
  optional "fsType" .text, required "image" .text, optional "keyring" .text,
  required "monitors" (.list .text), optional "pool" .text, optional "readOnly" .flag,
  optional "secretRef" localObjectReference, optional "user" .text]

def scaleIOVolumeSource : Shape := .record "ScaleIOVolumeSource" [
  optional "fsType" .text, required "gateway" .text, optional "protectionDomain" .text,
  optional "readOnly" .flag, required "secretRef" localObjectReference,
  optional "sslEnabled" .flag, optional "storageMode" .text, optional "storagePool" .text,
  required "system" .text, optional "volumeName" .text]

def secretVolumeSource : Shape := .record "SecretVolumeSource" [
  optional "defaultMode" .int32, optional "items" (.list keyToPath), optional "optional" .flag,
  optional "secretName" .text]

def storageOSVolumeSource : Shape := .record "StorageOSVolumeSource" [
  optional "fsType" .text, optional "readOnly" .flag, optional "secretRef" localObjectReference,
  optional "volumeName" .text, optional "volumeNamespace" .text]

def vsphereVirtualDiskVolumeSource : Shape := .record "VsphereVirtualDiskVolumeSource" [
  optional "fsType" .text, optional "storagePolicyID" .text, optional "storagePolicyName" .text,
  required "volumePath" .text]

def volume : Shape := .record "Volume" [
  optional "awsElasticBlockStore" awsElasticBlockStoreVolumeSource,
  optional "azureDisk" azureDiskVolumeSource, optional "azureFile" azureFileVolumeSource,
  optional "cephfs" cephFSVolumeSource, optional "cinder" cinderVolumeSource,
  optional "configMap" configMapVolumeSource, optional "csi" csiVolumeSource,
  optional "downwardAPI" downwardAPIVolumeSource, optional "emptyDir" emptyDirVolumeSource,
  optional "ephemeral" ephemeralVolumeSource, optional "fc" fcVolumeSource,
  optional "flexVolume" flexVolumeSource, optional "flocker" flockerVolumeSource,
  optional "gcePersistentDisk" gcePersistentDiskVolumeSource,
  optional "gitRepo" gitRepoVolumeSource, optional "glusterfs" glusterfsVolumeSource,
  optional "hostPath" hostPathVolumeSource, optional "iscsi" iscsiVolumeSource,
  required "name" .text, optional "nfs" nfsVolumeSource,
  optional "persistentVolumeClaim" persistentVolumeClaimVolumeSource,
  optional "photonPersistentDisk" photonPersistentDiskVolumeSource,
  optional "portworxVolume" portworxVolumeSource, optional "projected" projectedVolumeSource,
  optional "quobyte" quobyteVolumeSource, optional "rbd" rbdVolumeSource,
  optional "scaleIO" scaleIOVolumeSource, optional "secret" secretVolumeSource,
  optional "storageos" storageOSVolumeSource,
  optional "vsphereVolume" vsphereVirtualDiskVolumeSource]

/-! ## Pods -/

def podDNSConfigOption : Shape := .record "PodDNSConfigOption" [
  optional "name" .text, optional "value" .text]

def podDNSConfig : Shape := .record "PodDNSConfig" [
  optional "nameservers" (.list .text), optional "options" (.list podDNSConfigOption),
  optional "searches" (.list .text)]

def hostAlias : Shape := .record "HostAlias" [
  optional "hostnames" (.list .text), optional "ip" .text]

def podOS : Shape := .record "PodOS" [required "name" .text]

def podReadinessGate : Shape := .record "PodReadinessGate" [required "conditionType" .text]

def claimSource : Shape := .record "ClaimSource" [
  optional "resourceClaimName" .text, optional "resourceClaimTemplateName" .text]

def podResourceClaim : Shape := .record "PodResourceClaim" [
  required "name" .text, optional "source" claimSource]

def podSchedulingGate : Shape := .record "PodSchedulingGate" [required "name" .text]

def sysctl : Shape := .record "Sysctl" [required "name" .text, required "value" .text]

def podSecurityContext : Shape := .record "PodSecurityContext" [
  optional "appArmorProfile" appArmorProfile, optional "fsGroup" .int64,
  optional "fsGroupChangePolicy" .text, optional "runAsGroup" .int64,
  optional "runAsNonRoot" .flag, optional "runAsUser" .int64,
  optional "seLinuxOptions" seLinuxOptions, optional "seccompProfile" seccompProfile,
  optional "supplementalGroups" (.list .int64), optional "sysctls" (.list sysctl),
  optional "windowsOptions" windowsSecurityContextOptions]

def toleration : Shape := .record "Toleration" [
  optional "effect" .text, optional "key" .text, optional "operator" .text,
  optional "tolerationSeconds" .int64, optional "value" .text]

def topologySpreadConstraint : Shape := .record "TopologySpreadConstraint" [
  optional "labelSelector" labelSelector, optional "matchLabelKeys" (.list .text),
  required "maxSkew" .int32, optional "minDomains" .int32, optional "nodeAffinityPolicy" .text,
  optional "nodeTaintsPolicy" .text, required "topologyKey" .text,
  required "whenUnsatisfiable" .text]

def podSpec : Shape := .record "PodSpec" [
  optional "activeDeadlineSeconds" .int64, optional "affinity" affinity,
  optional "automountServiceAccountToken" .flag, required "containers" (.list container),
  optional "dnsConfig" podDNSConfig, optional "dnsPolicy" .text,
  optional "enableServiceLinks" .flag, optional "ephemeralContainers" (.list ephemeralContainer),
  optional "hostAliases" (.list hostAlias), optional "hostIPC" .flag, optional "hostNetwork" .flag,
  optional "hostPID" .flag, optional "hostUsers" .flag, optional "hostname" .text,
  optional "imagePullSecrets" (.list localObjectReference),
  optional "initContainers" (.list container), optional "nodeName" .text,
  optional "nodeSelector" (.table .text), optional "os" podOS, optional "overhead" (.table .text),
  optional "preemptionPolicy" .text, optional "priority" .int32,
  optional "priorityClassName" .text, optional "readinessGates" (.list podReadinessGate),
  optional "resourceClaims" (.list podResourceClaim), optional "restartPolicy" .text,
  optional "runtimeClassName" .text, optional "schedulerName" .text,
  optional "schedulingGates" (.list podSchedulingGate),
  optional "securityContext" podSecurityContext, optional "serviceAccount" .text,
  optional "serviceAccountName" .text, optional "setHostnameAsFQDN" .flag,
  optional "shareProcessNamespace" .flag, optional "subdomain" .text,
  optional "terminationGracePeriodSeconds" .int64, optional "tolerations" (.list toleration),
  optional "topologySpreadConstraints" (.list topologySpreadConstraint),
  optional "volumes" (.list volume)]

/-! ## Status -/

/-- The state of a container, with the shape of its times. -/
def containerState (time : Shape) : Shape := .record "ContainerState" [
  optional "running" (.record "ContainerStateRunning" [optional "startedAt" time]),
  optional "terminated" (.record "ContainerStateTerminated" [optional "containerID" .text,
    required "exitCode" .int32, optional "finishedAt" time, optional "message" .text,
    optional "reason" .text, optional "signal" .int32, optional "startedAt" time]),
  optional "waiting" (.record "ContainerStateWaiting" [optional "message" .text,
    optional "reason" .text])]

def volumeMountStatus : Shape := .record "VolumeMountStatus" [
  required "mountPath" .text, required "name" .text, optional "readOnly" .flag,
  optional "recursiveReadOnly" .text]

/-- The status of a container, with the shape of the times of its state. -/
def containerStatus (time : Shape) : Shape := .record "ContainerStatus" [
  optional "allocatedResources" (.table .text), optional "containerID" .text,
  required "image" .text, required "imageID" .text, optional "lastState" (containerState .second),
  required "name" .text, required "ready" .flag, optional "resources" resourceRequirements,
  required "restartCount" .int32, optional "started" .flag,
  optional "state" (containerState time), optional "volumeMounts" (.list volumeMountStatus)]

def hostIP : Shape := .record "HostIP" [optional "ip" .text]

def podIP : Shape := .record "PodIP" [optional "ip" .text]

def podCondition : Shape := .record "PodCondition" [
  optional "lastProbeTime" .second, optional "lastTransitionTime" .second,
  optional "message" .text, optional "reason" .text, required "status" .text,
  required "type" .text]

def podResourceClaimStatus : Shape := .record "PodResourceClaimStatus" [
  required "name" .text, optional "resourceClaimName" .text]

def podStatus : Shape := .record "PodStatus" [
  optional "conditions" (.list podCondition),
  optional "containerStatuses" (.list (containerStatus .instant)),
  optional "ephemeralContainerStatuses" (.list (containerStatus .second)), optional "hostIP" .text,
  optional "hostIPs" (.list hostIP),
  optional "initContainerStatuses" (.list (containerStatus .second)),
  optional "message" .text, optional "nominatedNodeName" .text, optional "phase" .text,
  optional "podIP" .text, optional "podIPs" (.list podIP), optional "qosClass" .text,
  optional "reason" .text, optional "resize" .text,
  optional "resourceClaimStatuses" (.list podResourceClaimStatus), optional "startTime" .second]

/-! ## Objects -/

def pod : Shape := .record "Pod" [
  fixed "apiVersion" "v1", fixed "kind" "Pod", required "metadata" objectMeta,
  optional "spec" podSpec, optional "status" podStatus]

def secret : Shape := .record "Secret" [
  fixed "apiVersion" "v1", fixed "kind" "Secret", optional "data" (.table .bytes),
  optional "immutable" .flag, required "metadata" objectMeta,
  optional "stringData" (.table .text), optional "type" .text]

end StagedTests.Schema
