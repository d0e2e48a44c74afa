import Toolbox.Annotation.Described
import Toolbox.Annotation.Enumeration
import Toolbox.Annotation.Expansion
import Toolbox.DocComment
import Toolbox.Proofs.Registry.Consistency
import Toolbox.Registry.Default
import Toolbox.Samples.Tools
import Toolbox.Values
import Toolbox.Proofs.Registry.History
import Toolbox.Proofs.Registry.Views
import Toolbox.Proofs.Schema.Building
import Toolbox.Proofs.Signature.Schema
import Toolbox.Proofs.Signature.Binding
import Toolbox.Proofs.Schema.Meaning
import Toolbox.Proofs.Schema.Preservation
import Toolbox.Proofs.Schema.RoundTrip
import Toolbox.Proofs.Schema.Nodes
import Toolbox.Proofs.Schema.Shape
import Toolbox.Proofs.Registry.Admission
import Toolbox.Proofs.Registry.Independence
import Toolbox.Proofs.Registry.Delivery
import Toolbox.Proofs.Signature.Refusal
import Toolbox.Proofs.Registry.Invocation
import Toolbox.Proofs.Annotation.Alignment
import Toolbox.Proofs.Annotation.Agreement
import Toolbox.Proofs.Registry.Audit
import Toolbox.Proofs.Registry.Default
import Toolbox.Proofs.Registry.Commutation
import Toolbox.Proofs.Signature.Contents
import Toolbox.Proofs.Signature.Documentation
import Toolbox.Proofs.Signature.Degradation
import Toolbox.Proofs.Signature.Laws
import Toolbox.Proofs.Signature.Warnings
import Toolbox.Proofs.DocComment.Writing
import Toolbox.Proofs.Annotation.Acceptance
import Toolbox.Proofs.Annotation.Companion
import Toolbox.Proofs.Annotation.Scoping
import Toolbox.Proofs.Code.Reading
import Toolbox.Proofs.Annotation.Naming
import Toolbox.Proofs.Schema.Plans
import Toolbox.Proofs.Annotation.Borrowing
import Toolbox.Proofs.Annotation.Words
import Toolbox.Proofs.Annotation.Comments
