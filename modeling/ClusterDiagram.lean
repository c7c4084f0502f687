import ClusterDiagram.Graph.Violation
import ClusterDiagram.Main
import ClusterDiagram.Session.Operation
import ClusterDiagram.Proofs.ParentChains
import ClusterDiagram.Proofs.WellFormed
import ClusterDiagram.Proofs.AssocLookup
import ClusterDiagram.Proofs.ClusterMerge
import ClusterDiagram.Proofs.FiniteCanvas
import ClusterDiagram.Proofs.MergeValidity
import ClusterDiagram.Proofs.SessionRuns
import ClusterDiagram.Proofs.AttributeText
import ClusterDiagram.Proofs.Computations
import ClusterDiagram.Proofs.StatementText
import ClusterDiagram.Proofs.DepthFirst
import ClusterDiagram.Proofs.WritingOrder
import ClusterDiagram.Proofs.Writable
import ClusterDiagram.Proofs.Reading
import ClusterDiagram.Proofs.ReadingOrder
import ClusterDiagram.Proofs.Rewriting
import ClusterDiagram.Proofs.RoundTrip
import ClusterDiagram.Proofs.Remerging
import ClusterDiagram.Proofs.Synchrony
import ClusterDiagram.Proofs.Doubles
import ClusterDiagram.Proofs.FiniteLayout
import ClusterDiagram.Proofs.Rereading
import ClusterDiagram.Proofs.ServiceAgreement
import ClusterDiagram.Proofs.HonestRoutes
import ClusterDiagram.Proofs.LateAnswers
import ClusterDiagram.Proofs.FailedOperations
import ClusterDiagram.Proofs.KeptEntities
import ClusterDiagram.Proofs.AnsweredEdits
import ClusterDiagram.Proofs.PayloadRoundTrip
import ClusterDiagram.Proofs.SelfMerge
import ClusterDiagram.Proofs.ReadTexts
import ClusterDiagram.Proofs.EchoedAnswer
import ClusterDiagram.Proofs.LegiblePrompts
import ClusterDiagram.Proofs.RenamedNodes
import ClusterDiagram.Proofs.SeparateMembers
import ClusterDiagram.Proofs.JoinedClusters
import ClusterDiagram.Proofs.ReadDiagrams
import ClusterDiagram.Proofs.TabledDiagrams
import ClusterDiagram.Proofs.WorkbookTables
import ClusterDiagram.Proofs.IdleDrops
import ClusterDiagram.Proofs.ShortestWays
import ClusterDiagram.Proofs.ExactContact
import ClusterDiagram.Proofs.GridRoutes
import ClusterDiagram.Proofs.FailedReplies
import ClusterDiagram.Proofs.Inheritance
import ClusterDiagram.Proofs.StartingPlaces
import ClusterDiagram.Proofs.NestedOutlines
import ClusterDiagram.Proofs.RouteEnds
import ClusterDiagram.Proofs.ExhaustiveDetours
import ClusterDiagram.Proofs.MovedClusters
import ClusterDiagram.Proofs.FirstUses
import ClusterDiagram.Proofs.MeetingPlaces
import ClusterDiagram.Proofs.RearrangedTexts
import ClusterDiagram.Proofs.TableTrees
import ClusterDiagram.Proofs.WrittenLines
import ClusterDiagram.Proofs.CutCycles
import ClusterDiagram.Proofs.ReportedViolations
import ClusterDiagram.Proofs.InnermostClusters
import ClusterDiagram.Proofs.PinnedLayouts
import ClusterDiagram.Proofs.SavedDiagrams
import ClusterDiagram.Proofs.LabelPlaces
import ClusterDiagram.Proofs.IdSearches
