import OrderCustody.Address
import OrderCustody.TypedData.Word

namespace OrderCustody.TypedData

/-!
# Signing domains

The domain that a digest is bound to: a name, a version, a chain and the
contract that checks the signature.
-/

/-- A signing domain. -/
structure Domain where
  name : String
  version : String
  chainId : UInt64
  verifyingContract : Address
  deriving DecidableEq

namespace Domain

/-- The type text of a domain. -/
def typeText : String :=
  "EIP712Domain(string name,string version,uint256 chainId," ++
    "address verifyingContract)"

/-- The structure hash of a domain. -/
def separator (domain : Domain) : Octets 32 :=
  hashWords [
    textWord typeText,
    textWord domain.name,
    textWord domain.version,
    smallWord domain.chainId,
    addressWord domain.verifyingContract
  ]

end Domain

end OrderCustody.TypedData
