import LiveMarkup.Marker
import LiveMarkup.Decimal.Written
import LiveMarkup.Decimal.Read
import LiveMarkup.Text.Blank
import LiveMarkup.Value.Inspect
import LiveMarkup.Element.Coercion
import LiveMarkup.Markup.Fragment
import LiveMarkup.Markup.Html
import LiveMarkup.Document.Tree
import LiveMarkup.Document.Walk
import LiveMarkup.Document.Event
import LiveMarkup.Document.Parse
import LiveMarkup.Template
import LiveMarkup.Template.Inspect
import LiveMarkup.Element.Inspect
import LiveMarkup.Session.Perform
import LiveMarkup.Proofs.Forest
import LiveMarkup.Proofs.Nesting
import LiveMarkup.Proofs.OpenNodes
import LiveMarkup.Proofs.OrderedMap
import LiveMarkup.Proofs.Marker
import LiveMarkup.Proofs.Marker.Weaving
import LiveMarkup.Proofs.Marker.Scanning
import LiveMarkup.Proofs.Value
import LiveMarkup.Proofs.Markup.Reference
import LiveMarkup.Proofs.Markup.Fragment
import LiveMarkup.Proofs.Markup.Building
import LiveMarkup.Proofs.Markup.Spelling
import LiveMarkup.Proofs.Markup.Reading
import LiveMarkup.Proofs.Markup.Anchor
import LiveMarkup.Proofs.Markup.RoundTrip
import LiveMarkup.Proofs.Markup.Grammar
import LiveMarkup.Proofs.Markup.Legibility
import LiveMarkup.Proofs.Document.Writing
import LiveMarkup.Proofs.Document.Planting
import LiveMarkup.Proofs.Document.Moving
import LiveMarkup.Proofs.Document.Reachable
import LiveMarkup.Proofs.Document.Operations
import LiveMarkup.Proofs.Document.Kinship
import LiveMarkup.Proofs.Document.Dispatch
import LiveMarkup.Proofs.Document.Reparsing
import LiveMarkup.Proofs.Document.Removal
import LiveMarkup.Proofs.Document.Appending
import LiveMarkup.Proofs.Document.Shadow
import LiveMarkup.Proofs.Document.Growing
import LiveMarkup.Proofs.Document.Parsing
import LiveMarkup.Proofs.Part.Writing
import LiveMarkup.Proofs.Part.Discovery
import LiveMarkup.Proofs.Markup.Pairing
import LiveMarkup.Proofs.Markup.Hushing
import LiveMarkup.Proofs.Markup.Veil
import LiveMarkup.Proofs.Markup.Veiling
import LiveMarkup.Proofs.Markup.Unveiling
import LiveMarkup.Proofs.Part.Faults
import LiveMarkup.Proofs.Part.Rendering
import LiveMarkup.Proofs.Part.Registry
import LiveMarkup.Proofs.Part.Keeping
import LiveMarkup.Proofs.Part.Footprint
import LiveMarkup.Proofs.Part.Skipping
import LiveMarkup.Proofs.Part.Conversion
import LiveMarkup.Proofs.Part.Dependence
import LiveMarkup.Proofs.Part.Likeness
import LiveMarkup.Proofs.Template.Binding
import LiveMarkup.Proofs.Template.FirstRender
import LiveMarkup.Proofs.Template.Reachable
import LiveMarkup.Proofs.Template.BadMarkers
import LiveMarkup.Proofs.Template.FailedRender
import LiveMarkup.Proofs.Template.Updating
import LiveMarkup.Proofs.Template.SparseUpdate
import LiveMarkup.Proofs.Template.Changes
import LiveMarkup.Proofs.Template.Conversion
import LiveMarkup.Proofs.Template.Footprint
import LiveMarkup.Proofs.Template.Silence
import LiveMarkup.Proofs.Element.Sync
import LiveMarkup.Proofs.Template.Lifecycle
import LiveMarkup.Proofs.Template.Likeness
import LiveMarkup.Proofs.Part.Locality
import LiveMarkup.Proofs.Template.Commuting
import LiveMarkup.Proofs.Session.Dispatch
import LiveMarkup.Proofs.Part.Stopping
import LiveMarkup.Proofs.Template.FailedUpdate
import LiveMarkup.Proofs.Element.FailedOperation
import LiveMarkup.Proofs.Template.OwnMarkers
import LiveMarkup.Proofs.Template.LeftoverMarkers
import LiveMarkup.Proofs.Marker.Decoding
import LiveMarkup.Proofs.Value.Reading
import LiveMarkup.Proofs.Element.Reading
import LiveMarkup.Proofs.Element.InUse
import LiveMarkup.Proofs.Element.Moments
import LiveMarkup.Proofs.Session.InUse
import LiveMarkup.Proofs.Session.Moments
import LiveMarkup.Proofs.Template.Registered
