/-! The variables of an environment that inputs are taken from. -/

namespace ClusterManifest.Setting

def family : String := "OPENSHIFT_INSTALL_"

def sshPublicKey : String := family ++ "SSH_PUB_KEY"
def baseDomain : String := family ++ "BASE_DOMAIN"
def clusterName : String := family ++ "CLUSTER_NAME"
def pullSecret : String := family ++ "PULL_SECRET"
def platform : String := family ++ "PLATFORM"
def libvirtUri : String := family ++ "LIBVIRT_URI"
def openStackRegion : String := family ++ "OPENSTACK_REGION"
def openStackCloud : String := family ++ "OPENSTACK_CLOUD"
def openStackNetwork : String := family ++ "OPENSTACK_EXTERNAL_NETWORK"
def openStackImage : String := family ++ "OPENSTACK_IMAGE"
def directory : String := family ++ "DIR"

def pathOf (setting : String) : String := setting ++ "_PATH"

def all : List String :=
  [sshPublicKey, pathOf sshPublicKey, baseDomain, clusterName, pullSecret, pathOf pullSecret,
    platform, libvirtUri, openStackRegion, openStackCloud, openStackNetwork, openStackImage,
    directory]

end ClusterManifest.Setting
