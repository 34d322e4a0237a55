import EventRelay.Script.Run
import EventRelay.Proofs.Adapter.TypeSpace
import EventRelay.Proofs.Script.Balance
import EventRelay.Proofs.Interface.Typed
import EventRelay.Proofs.Listener.History
import EventRelay.Proofs.Host.Release
import EventRelay.Proofs.Host.Current
import EventRelay.Proofs.Host.Flow
import EventRelay.Proofs.Engines.Independence
import EventRelay.Proofs.Descriptor.Signature
import EventRelay.Proofs.Adapter.Call
import EventRelay.Proofs.Script.Inline
import EventRelay.Proofs.Emission.Binding
import EventRelay.Proofs.Host.Demand
import EventRelay.Proofs.Host.InWorker
import EventRelay.Proofs.Emission.LateBinding
import EventRelay.Proofs.Emission.Order
import EventRelay.Proofs.Listener.Removal
import EventRelay.Proofs.Adapter.Verdict
import EventRelay.Proofs.Interface.Parameters
import EventRelay.Proofs.Value.Conversion
