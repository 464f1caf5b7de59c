import TripletGeometry.Coordinates.Store
import TripletGeometry.Encoding.Admission
import TripletGeometry.Ordinate.Exact
import TripletGeometry.Ordinate.Given
import TripletGeometry.Parts
import TripletGeometry.Proofs.Checks
import TripletGeometry.Reader
import TripletGeometry.Settings.Admission
import TripletGeometry.Vocabulary
import TripletGeometry.Proofs.ElementReaders
import TripletGeometry.Proofs.Building
import TripletGeometry.Proofs.Conservation
import TripletGeometry.Proofs.TypeCodes
import TripletGeometry.Proofs.Reading
import TripletGeometry.Proofs.Unread
import TripletGeometry.Proofs.AnnouncedKind
import TripletGeometry.Proofs.Emptiness
import TripletGeometry.Proofs.RingReaders
import TripletGeometry.Proofs.Sources
import TripletGeometry.Proofs.RingRejection
import TripletGeometry.Proofs.Decisions
import TripletGeometry.Proofs.PlanarRings
import TripletGeometry.Proofs.PlanarLeaves
import TripletGeometry.Proofs.Outcomes
import TripletGeometry.Proofs.Truncation
import TripletGeometry.Proofs.NarrowReading
import TripletGeometry.Proofs.Grouping
import TripletGeometry.Proofs.Likeness
import TripletGeometry.Proofs.Rendering
import TripletGeometry.Proofs.Machines
import TripletGeometry.Proofs.Concurrence
import TripletGeometry.Proofs.PlanarTwin
import TripletGeometry.Proofs.CompactPoints
import TripletGeometry.Proofs.Windows
import TripletGeometry.Proofs.Concatenation
import TripletGeometry.Proofs.ConcatenatedReading
import TripletGeometry.Proofs.Grammar
import TripletGeometry.Proofs.Numbers
import TripletGeometry.Proofs.Recognition
import TripletGeometry.Proofs.CollectionGrammar
import TripletGeometry.Proofs.Advance
import TripletGeometry.Proofs.Sessions
import TripletGeometry.Proofs.Widths
import TripletGeometry.Proofs.Stretches
import TripletGeometry.Proofs.Retagging
import TripletGeometry.Proofs.Tally
import TripletGeometry.Proofs.PostOrder
import TripletGeometry.Proofs.Rounds
import TripletGeometry.Proofs.Offsets
import TripletGeometry.Proofs.Ranges
import TripletGeometry.Proofs.Placement
import TripletGeometry.Proofs.Sharing
import TripletGeometry.Proofs.Shoelace
import TripletGeometry.Proofs.Orientation
import TripletGeometry.Proofs.Rectangles
import TripletGeometry.Proofs.Digits
import TripletGeometry.Proofs.Admissions
import TripletGeometry.Proofs.FlatArrays
