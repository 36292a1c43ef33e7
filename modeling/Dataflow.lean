import Dataflow.Loading
import Dataflow.Proofs.Catalog
import Dataflow.Proofs.Config.Filling
import Dataflow.Proofs.Cycle.Moves
import Dataflow.Proofs.Draft.Nodes
import Dataflow.Proofs.Draft.Tries
import Dataflow.Proofs.Log
import Dataflow.Proofs.Order
import Dataflow.Proofs.Port.Supply
import Dataflow.Proofs.Repair.Conversion
import Dataflow.Proofs.Repair.Naming
import Dataflow.Proofs.Repair.Residue
import Dataflow.Proofs.Repair.Settled
import Dataflow.Proofs.Rounds
import Dataflow.Proofs.Saved
import Dataflow.Proofs.Store
