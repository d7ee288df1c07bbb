import FabricTopology.Text.LowerCase
import FabricTopology.Text.Words

/-!
Names that more than one document uses: identifiers, domains, host names, ports and paths of key
material. The tools that read the documents join them by these texts, so each is made here and
nowhere else. Host ports are counted in 32 bits.
-/
namespace FabricTopology.Naming

/-- The port a peer listens on in its container. -/
def peerPort : UInt16 := 7051

/-- The port an orderer listens on in its container. -/
def ordererPort : UInt16 := 7050

/-- The port a certificate authority listens on in its container. -/
def caPort : UInt16 := 7054

/-- Peers that get an identity and a container, for each organization. -/
def peersPerOrg : Nat := 2

/-- Host ports set aside for each organization. -/
def portsPerOrg : UInt32 := 10

/-- The membership provider of the orderers. -/
def ordererMspId : String := "OrdererMSP"

/-- A text in lower case. -/
def lowered (s : String) : String := String.ofList (Text.lower s.toList)

/-- The membership provider of an organization that names none. -/
def defaultMspId (org : String) : String := org ++ "MSP"

/-- The domain of an organization that names none. -/
def defaultDomain (org : String) : String := lowered org ++ ".example.com"

/-- A network name in lower case, its words joined by hyphens. -/
def slug (network : String) : String :=
  String.ofList (['-'].intercalate ((Text.words network.toList).map Text.lower))

/-- The domain of a network's orderers. -/
def ordererDomain (network : String) : String := slug network ++ ".com"

/-- `orderer`, `orderer1`, `orderer2`, ... -/
def ordererHostname (index : Nat) : String :=
  if index = 0 then "orderer" else "orderer" ++ toString index

/-- An orderer's host name in its domain. -/
def ordererHost (index : Nat) (domain : String) : String := ordererHostname index ++ "." ++ domain

/-- A host and its port. -/
def address (host : String) (port : UInt16) : String := host ++ ":" ++ toString port.toNat

/-- An orderer's host name with the port it listens on. -/
def ordererEndpoint (index : Nat) (domain : String) : String :=
  address (ordererHost index domain) ordererPort

/-- A peer's host name in its organization's domain. -/
def peerHost (index : Nat) (domain : String) : String :=
  "peer" ++ toString index ++ "." ++ domain

/-- The port of the host machine at which an orderer is reached. -/
def ordererHostPort (index : Nat) : UInt32 := ordererPort.toUInt32 + UInt32.ofNat index

/-- The port of the host machine at which a peer is reached. -/
def peerHostPort (org index : Nat) : UInt32 :=
  peerPort.toUInt32 + UInt32.ofNat index + UInt32.ofNat org * portsPerOrg

/-- Where the orderers' membership material lies. -/
def ordererOrgMspDir (domain : String) : String :=
  "crypto-config/ordererOrganizations/" ++ domain ++ "/msp"

/-- Where an orderer's key material lies. -/
def ordererCryptoDir (index : Nat) (domain : String) : String :=
  "crypto-config/ordererOrganizations/" ++ domain ++ "/orderers/" ++ ordererHost index domain

/-- An orderer's certificate for encrypted connections. -/
def ordererTlsCert (index : Nat) (domain : String) : String :=
  ordererCryptoDir index domain ++ "/tls/server.crt"

/-- Where an organization's membership material lies. -/
def peerOrgMspDir (domain : String) : String :=
  "crypto-config/peerOrganizations/" ++ domain ++ "/msp"

/-- Where a peer's key material lies. -/
def peerCryptoDir (index : Nat) (domain : String) : String :=
  "crypto-config/peerOrganizations/" ++ domain ++ "/peers/" ++ peerHost index domain

end FabricTopology.Naming
