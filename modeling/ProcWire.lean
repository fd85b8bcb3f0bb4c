import ProcWire.Main
import ProcWire.Proofs.ArrayElements
import ProcWire.Proofs.BoundedSinks
import ProcWire.Proofs.CommandRuns
import ProcWire.Proofs.DiscardedFields
import ProcWire.Proofs.ErrorKinds
import ProcWire.Proofs.FieldLimit
import ProcWire.Proofs.Layouts
import ProcWire.Proofs.RequestForms
import ProcWire.Proofs.ResponseForms
import ProcWire.Proofs.ResponseText
import ProcWire.Proofs.SavedConfigs
import ProcWire.Proofs.StreamLocality
import ProcWire.Proofs.Truncation
import ProcWire.Proofs.WireGrammar
import ProcWire.Proofs.MessageSizes
import ProcWire.Proofs.Utf8Defects
import ProcWire.Proofs.HexInput
import ProcWire.Proofs.ArrayParameters
import ProcWire.Proofs.ExpressibleValues
import ProcWire.Proofs.IntegerParameters
import ProcWire.Proofs.Timestamps
import ProcWire.Proofs.FixedWidth
import ProcWire.Proofs.CountedReaders
import ProcWire.Proofs.InstantRounding
import ProcWire.Proofs.ParameterKinds
