import Conduit.Engine
import Conduit.Bundle.Reader
import Conduit.Bundle.Writer
import Conduit.Bundle.Loading
import Conduit.Content.Codec
import Conduit.Proofs.Run.Contract
import Conduit.Proofs.Memory
import Conduit.Proofs.Run.Flow
import Conduit.Proofs.Run.Interpreter
import Conduit.Proofs.Sample
import Conduit.Proofs.TypePreservation
import Conduit.Proofs.ErrorAnnotation
import Conduit.Proofs.Run.Comparison
import Conduit.Proofs.Run.Likeness
import Conduit.Proofs.Run.Oblivious
import Conduit.Proofs.StackLimit
import Conduit.Proofs.DryRun.Solidity
import Conduit.Proofs.DryRun.Soundness
import Conduit.Proofs.DanglingReferences
import Conduit.Proofs.Run.Agreement
import Conduit.Proofs.DryRun.Independence
import Conduit.Proofs.MainStuff
import Conduit.Proofs.Memory.Frame
import Conduit.Proofs.BranchJoin
import Conduit.Proofs.SharedStack
import Conduit.Proofs.Memory.View
import Conduit.Proofs.Memory.History
import Conduit.Proofs.Run.Script
import Conduit.Proofs.Run.Dialogue
import Conduit.Proofs.Run.ContentFaults
import Conduit.Proofs.Run.OwnFaults
import Conduit.Proofs.RecursionGuard
import Conduit.Proofs.Loading
import Conduit.Proofs.FailureKinds
import Conduit.Proofs.MemoryGrowth
import Conduit.Proofs.Vocabulary.Growth
import Conduit.Proofs.Vocabulary.Frame
import Conduit.Proofs.Vocabulary.Compatibility
import Conduit.Proofs.Decimal.FiniteDoubles
import Conduit.Proofs.Content.RoundTrip
import Conduit.Proofs.ConservativeExtension
import Conduit.Proofs.Vocabulary.Names
import Conduit.Proofs.Vocabulary.Resolution
import Conduit.Proofs.LoadingOrder
import Conduit.Proofs.Memory.UniqueNames
import Conduit.Proofs.Run.Depth
import Conduit.Proofs.Delegation
import Conduit.Proofs.BatchedStep
import Conduit.Proofs.DryRun.Records
import Conduit.Proofs.Memory.Order
import Conduit.Proofs.NestedSequence
import Conduit.Proofs.BranchOrder
import Conduit.Proofs.DryRun.Lists
import Conduit.Proofs.Attachments
import Conduit.Proofs.Text.Ascii
import Conduit.Proofs.Text.Blank
import Conduit.Proofs.Schema.TypeGrammar
import Conduit.Proofs.DryRun.Inputs
import Conduit.Proofs.RequestedCounts
import Conduit.Proofs.Run.Jobs
import Conduit.Proofs.KnownConcepts
import Conduit.Proofs.ExtractedDocuments
import Conduit.Proofs.Text.SnakeCase
import Conduit.Proofs.Vocabulary.Families
import Conduit.Proofs.MissingClasses
