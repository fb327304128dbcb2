import ZephyrCcsds.Cfdp.ChecksumAgreement
import ZephyrCcsds.Cfdp.Completion
import ZephyrCcsds.Cfdp.FileArrival
import ZephyrCcsds.Cfdp.FinishedTransaction
import ZephyrCcsds.Cfdp.RangeArray
import ZephyrCcsds.Cfdp.HandleDiscipline
import ZephyrCcsds.Cfdp.Isolation
import ZephyrCcsds.Cfdp.PduExact
import ZephyrCcsds.Cfdp.PduReads
import ZephyrCcsds.Cfdp.Polling
import ZephyrCcsds.Cfdp.SourceHandle
import ZephyrCcsds.Cfdp.SequenceNumbers
import ZephyrCcsds.Cfdp.FreshReceiver
import ZephyrCcsds.Cfdp.SourceFile
import ZephyrCcsds.Cfdp.StoredFile
import ZephyrCcsds.Cfdp.Link
import ZephyrCcsds.Cfdp.SpacePacketAdapter
import ZephyrCcsds.Cfdp.ServiceLink
import ZephyrCcsds.Network
import ZephyrCcsds.Sdls.Replay
import ZephyrCcsds.Sdls.Nonces
import ZephyrCcsds.Sdls.Transactions
import ZephyrCcsds.Sdls.KeyTable
import ZephyrCcsds.Sdls.RoundTrip
import ZephyrCcsds.Sdls.KeySharing
import ZephyrCcsds.Sdls.CarrierRule
import ZephyrCcsds.Sdls.EpExact
import ZephyrCcsds.Sdls.EpLimit
import ZephyrCcsds.Sdls.FrameEffects
import ZephyrCcsds.Sdls.SecureChannel
import ZephyrCcsds.Sdls.KeyProof
import ZephyrCcsds.Tc.Transparency
import ZephyrCcsds.Tc.SequenceControl
import ZephyrCcsds.Tc.PacketDelivery
import ZephyrCcsds.Tc.Provenance
import ZephyrCcsds.Tc.Cltu
import ZephyrCcsds.Tc.BchCode
import ZephyrCcsds.Tc.FrameGrammar
import ZephyrCcsds.Tc.Randomizer
import ZephyrCcsds.Tc.Router
import ZephyrCcsds.Gf256
import ZephyrCcsds.ReedSolomon
import ZephyrCcsds.Remainder
import ZephyrCcsds.ShiftRegister
import ZephyrCcsds.Records
import ZephyrCcsds.Fifo
import ZephyrCcsds.Framing
import ZephyrCcsds.Tm.Receiver
import ZephyrCcsds.Tm.Crc
import ZephyrCcsds.Tm.ReferenceEncoder
import ZephyrCcsds.Tm.Emission
import ZephyrCcsds.Tm.Admission
import ZephyrCcsds.Tm.FailedCycle
import ZephyrCcsds.Tm.FrameCounters
import ZephyrCcsds.Tm.Contention
import ZephyrCcsds.Tm.Interleaving
import ZephyrCcsds.Sdls.EventRing
import ZephyrCcsds.Sdls.FsrHistory
import ZephyrCcsds.Tm.FirstHeader
import ZephyrCcsds.Tc.Statistics
import ZephyrCcsds.Tm.ClcwReports
import ZephyrCcsds.Tm.Resynchronization
