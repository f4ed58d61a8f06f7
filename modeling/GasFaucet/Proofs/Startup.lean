import GasFaucet.Program
import GasFaucet.Proofs.Accounts

/-!
# Startup

The pool is made for a chain that the node has shown to serve.  What the node says of its chain decides
alone whether the start gets as far as the keys.  Where it does not, the link's own complaint is the
start's, whatever the keys are, and nothing else has been asked of the node.
-/

namespace GasFaucet

namespace NetworkSettings

end NetworkSettings

namespace Link

variable {s : NetworkSettings} {link : Link} {d : Delivery}

end Link

namespace Launch

def soleSigner : Settings where
  faucet := {}
  network := { name := "goerli", endpoint := "http://localhost:8545" }
  signers := ⟨["0x0000000000000000000000000000000000000000000000000000000000000001"]⟩
  api := {}
  metrics := {}
  logging := {}

end Launch

end GasFaucet
