import ActuatorBus.Bus.ByName
import ActuatorBus.Connection.Open
import ActuatorBus.Packet.Checksum
import ActuatorBus.Proofs.Binary.Overflow
import ActuatorBus.Proofs.Bus.Broadcast
import ActuatorBus.Proofs.Bus.Collecting
import ActuatorBus.Proofs.Bus.Corruption
import ActuatorBus.Proofs.Bus.Deadlines
import ActuatorBus.Proofs.Bus.Disciplines
import ActuatorBus.Proofs.Bus.Ending
import ActuatorBus.Proofs.Bus.Isolation
import ActuatorBus.Proofs.Bus.Misfits
import ActuatorBus.Proofs.Bus.MultiWrites
import ActuatorBus.Proofs.Bus.ReadLoop
import ActuatorBus.Proofs.Bus.Refusals
import ActuatorBus.Proofs.Bus.Stages
import ActuatorBus.Proofs.Bus.Transcript
import ActuatorBus.Proofs.Bus.Verdict
import ActuatorBus.Proofs.Line.Sending
import ActuatorBus.Proofs.Packet.Extent
import ActuatorBus.Proofs.Reader.Acceptance
import ActuatorBus.Proofs.Reader.Damage
import ActuatorBus.Proofs.Reader.Finality
import ActuatorBus.Proofs.Reader.FirstMessage
import ActuatorBus.Proofs.Reader.Ledger
import ActuatorBus.Proofs.Reader.Remnants
import ActuatorBus.Proofs.Reader.RoundTrip
import ActuatorBus.Proofs.Reader.Session
import ActuatorBus.Proofs.Reader.StrayHeader
import ActuatorBus.Proofs.Register.Building
import ActuatorBus.Proofs.Register.Filling
import ActuatorBus.Proofs.Register.Fractions
import ActuatorBus.Proofs.Register.Integers
import ActuatorBus.Proofs.Register.Lookups
import ActuatorBus.Proofs.Register.Misfits
import ActuatorBus.Proofs.Register.Sessions
import ActuatorBus.Proofs.Register.Tables
