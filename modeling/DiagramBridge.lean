import DiagramBridge.Main
import DiagramBridge.Proofs.CommandLine.InputFormat
import DiagramBridge.Proofs.Conversion.ClassTrip
import DiagramBridge.Proofs.Conversion.FlowchartTrip
import DiagramBridge.Proofs.Conversion.Overlap
import DiagramBridge.Proofs.Conversion.WellFormed
import DiagramBridge.Proofs.Diagram.DiscoveryOrder
import DiagramBridge.Proofs.Diagram.Reload
import DiagramBridge.Proofs.Drawio.Connectivity
import DiagramBridge.Proofs.Drawio.DistinctIds
import DiagramBridge.Proofs.Drawio.DocumentOrder
import DiagramBridge.Proofs.Drawio.Draw
import DiagramBridge.Proofs.Drawio.EdgeLabel
import DiagramBridge.Proofs.Drawio.TidyLabel
import DiagramBridge.Proofs.Mermaid.BracketAccount
import DiagramBridge.Proofs.Mermaid.ClassDiagram.MirroredRelation
import DiagramBridge.Proofs.Mermaid.Flowchart.ChainLine
import DiagramBridge.Proofs.Mermaid.Flowchart.Membership
import DiagramBridge.Proofs.Mermaid.Flowchart.NodeCount
import DiagramBridge.Proofs.Mermaid.Header
import DiagramBridge.Proofs.Mermaid.IdMap
import DiagramBridge.Proofs.Mermaid.NodeShapes
import DiagramBridge.Proofs.Mermaid.Precheck
import DiagramBridge.Proofs.Mermaid.Sequence.HyphenatedName
import DiagramBridge.Proofs.Mermaid.Topology
import DiagramBridge.Proofs.Service.Atomicity
import DiagramBridge.Proofs.Service.Isolation
import DiagramBridge.Proofs.Service.PageIndex
import DiagramBridge.Service.Handler
