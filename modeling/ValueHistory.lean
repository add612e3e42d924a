import ValueHistory.Affordance.Unknown
import ValueHistory.CommandLine.OnDisk
import ValueHistory.Main
import ValueHistory.Service.Sweeper
import ValueHistory.Wire.Settings
import ValueHistory.Proofs.Cursor.Filtering
import ValueHistory.Proofs.Entry.Order
import ValueHistory.Proofs.Cursor.Growth
import ValueHistory.Proofs.Cursor.Returning
import ValueHistory.Proofs.History.LastWrites
import ValueHistory.Proofs.History.Reading
import ValueHistory.Proofs.History.ReadingBack
import ValueHistory.Proofs.Registry.Expiry
import ValueHistory.Proofs.Service.Answering
import ValueHistory.Proofs.Service.Disclosure
import ValueHistory.Proofs.Service.Leasing
import ValueHistory.Proofs.Cursor.Evidence
import ValueHistory.Proofs.Store.Usage
import ValueHistory.Proofs.Service.Recording
import ValueHistory.Proofs.Service.Shutdown
import ValueHistory.Proofs.Service.Storing
import ValueHistory.Proofs.Service.Sweeping
import ValueHistory.Proofs.Settings.Overlay
import ValueHistory.Proofs.Wire.RoundTrip
import ValueHistory.Proofs.Entry.Recoding
import ValueHistory.Proofs.Cursor.Positioning
import ValueHistory.Proofs.Cursor.Turning
import ValueHistory.Proofs.Store.Line
import ValueHistory.Proofs.Store.Roaming
import ValueHistory.Proofs.Store.Schema
import ValueHistory.Proofs.Settings.Saving
import ValueHistory.Proofs.Cursor.Termination
import ValueHistory.Proofs.Entry.Agreement
import ValueHistory.Proofs.Settings.Serving
