import StagedTests.Json.Decode

/-!
# Cluster profiles

Named bundles of credentials for a target cluster. Profiles of one platform share a cluster type.
-/

namespace StagedTests

inductive ClusterProfile
  | aws
  | awsAtomic
  | awsCentos
  | azure4
  | gcp
  | gcpHa
  | gcpCrio
  | libvirtPpc64le
  | libvirtS390x
  | openstack
  | vsphere
  deriving DecidableEq

namespace ClusterProfile

def all : List ClusterProfile :=
  [.aws, .awsAtomic, .awsCentos, .azure4, .gcp, .gcpHa, .gcpCrio, .libvirtPpc64le, .libvirtS390x,
    .openstack, .vsphere]

def name : ClusterProfile → String
  | .aws => "aws"
  | .awsAtomic => "aws-atomic"
  | .awsCentos => "aws-centos"
  | .azure4 => "azure4"
  | .gcp => "gcp"
  | .gcpHa => "gcp-ha"
  | .gcpCrio => "gcp-crio"
  | .libvirtPpc64le => "libvirt-ppc64le"
  | .libvirtS390x => "libvirt-s390x"
  | .openstack => "openstack"
  | .vsphere => "vsphere"

def clusterType : ClusterProfile → String
  | .aws | .awsAtomic | .awsCentos => "aws"
  | .azure4 => "azure4"
  | .gcp | .gcpHa | .gcpCrio => "gcp"
  | .libvirtPpc64le => "libvirt-ppc64le"
  | .libvirtS390x => "libvirt-s390x"
  | .openstack => "openstack"
  | .vsphere => "vsphere"

theorem mem_all (p : ClusterProfile) : p ∈ all := by
  cases p <;> simp [all]

def decoder : Json.Decoder ClusterProfile :=
  .enumeration (all.map fun p => (p.name, p))

def toJson (p : ClusterProfile) : Json := .string p.name

end ClusterProfile

end StagedTests
