import PasteQueue.Capture.Timeline
import PasteQueue.Config.File
import PasteQueue.Config.Hotkeys
import PasteQueue.Hotkey
import PasteQueue.Input.Event
import PasteQueue.Interchange
import PasteQueue.Main
import PasteQueue.Queue.Report
import PasteQueue.Session.Script
import PasteQueue.CommandLine.Folder
import PasteQueue.Proofs.Base64
import PasteQueue.Proofs.Bindings
import PasteQueue.Proofs.Capture.Deadline
import PasteQueue.Proofs.Capture.Delivery
import PasteQueue.Proofs.Capture.Wakeups
import PasteQueue.Proofs.Config.Blanks
import PasteQueue.Proofs.Config.Hotkeys
import PasteQueue.Proofs.Config.Migration
import PasteQueue.Proofs.Config.Validation
import PasteQueue.Proofs.Controller.Books
import PasteQueue.Proofs.Controller.Calling
import PasteQueue.Proofs.Controller.Calls
import PasteQueue.Proofs.Controller.Gate
import PasteQueue.Proofs.Dispatch
import PasteQueue.Proofs.Hotkey.Firing
import PasteQueue.Proofs.Hotkey.Grammar
import PasteQueue.Proofs.Hotkey.Hints
import PasteQueue.Proofs.Hotkey.Presses
import PasteQueue.Proofs.Interleaving.Advance
import PasteQueue.Proofs.Interleaving.Announcements
import PasteQueue.Proofs.Interleaving.Basic
import PasteQueue.Proofs.Interleaving.Calling
import PasteQueue.Proofs.Interleaving.Clipboard
import PasteQueue.Proofs.Interleaving.Copies
import PasteQueue.Proofs.Interleaving.Custody
import PasteQueue.Proofs.Interleaving.Echoes
import PasteQueue.Proofs.Interleaving.Failures
import PasteQueue.Proofs.Interleaving.Gates
import PasteQueue.Proofs.Interleaving.Keystrokes
import PasteQueue.Proofs.Interleaving.Order
import PasteQueue.Proofs.Interleaving.Past
import PasteQueue.Proofs.Interleaving.Pasting
import PasteQueue.Proofs.Interleaving.Points
import PasteQueue.Proofs.Interleaving.Proceeding
import PasteQueue.Proofs.Interleaving.Progress
import PasteQueue.Proofs.Interleaving.Restoration
import PasteQueue.Proofs.Interleaving.Rounds
import PasteQueue.Proofs.Interleaving.Solo
import PasteQueue.Proofs.Interleaving.Switching
import PasteQueue.Proofs.Queue.Conservation
import PasteQueue.Proofs.Queue.Debounce
import PasteQueue.Proofs.Queue.EchoRing
import PasteQueue.Proofs.Queue.History
import PasteQueue.Proofs.Queue.Ledger
import PasteQueue.Proofs.Queue.Requests
import PasteQueue.Proofs.Registry
import PasteQueue.Proofs.Session.Assignment
import PasteQueue.Proofs.Signature.Canonical
import PasteQueue.Proofs.Signature.Layout
import PasteQueue.Proofs.Signature.Stored
import PasteQueue.Proofs.Signature.Truncation
import PasteQueue.Proofs.Text
import PasteQueue.Proofs.Watcher
import PasteQueue.Proofs.Queue.Window
import PasteQueue.Proofs.Signature.Hash
import PasteQueue.Proofs.Clipboard.Preview
import PasteQueue.Proofs.Queue.Fields
import PasteQueue.Proofs.Session.Commands
