import StubGen.Main
import StubGen.Memory
import StubGen.Proofs.Preservation
import StubGen.Proofs.Appending
import StubGen.Proofs.Sessions
import StubGen.Proofs.SuiteNames
import StubGen.Proofs.OneSuite
import StubGen.Proofs.Persistence
import StubGen.Proofs.Members
import StubGen.Proofs.LineEnds
import StubGen.Proofs.Stability
import StubGen.Proofs.Stores
import StubGen.Proofs.Balance
import StubGen.Proofs.Readings
import StubGen.Proofs.VirtualMembers
import StubGen.Proofs.BodyEnd
import StubGen.Proofs.Grammar
import StubGen.Proofs.Anchors
import StubGen.Proofs.Parameters
import StubGen.Proofs.Wrapping
import StubGen.Proofs.StubBalance
import StubGen.Proofs.MockCalls
import StubGen.Proofs.ExactPlaces
