/-! The regions of Amazon Web Services in which machines can be started, for the standard
partition. They stand in a table that comes with the library for these services, and it is taken
as that of one version and as one that can always be read; the library refuses to, where the
environment names a profile that is not configured. -/

namespace ClusterManifest.Region

def standard : String := "us-east-1"

def known : List String :=
  ["af-south-1", "ap-east-1", "ap-east-2", "ap-northeast-1", "ap-northeast-2",
    "ap-northeast-3", "ap-south-1", "ap-south-2", "ap-southeast-1", "ap-southeast-2",
    "ap-southeast-3", "ap-southeast-4", "ap-southeast-5", "ap-southeast-6",
    "ap-southeast-7", "ca-central-1", "ca-west-1", "eu-central-1", "eu-central-2",
    "eu-north-1", "eu-south-1", "eu-south-2", "eu-west-1", "eu-west-2", "eu-west-3",
    "il-central-1", "me-central-1", "me-south-1", "mx-central-1", "sa-east-1",
    "us-east-1", "us-east-2", "us-west-1", "us-west-2"]

def «variables» : List String :=
  ["OPENSHIFT_INSTALL_AWS_REGION", "AWS_DEFAULT_REGION", "AWS_REGION"]

end ClusterManifest.Region
