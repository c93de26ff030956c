import C64Screen.Json.Reader
import C64Screen.Main
import C64Screen.Session
import C64Screen.Proofs.Markup.Grammar
import C64Screen.Proofs.Markup.Running
import C64Screen.Proofs.Markup.Outcome
import C64Screen.Proofs.Markup.Whereabouts
import C64Screen.Proofs.Markup.Scanning
import C64Screen.Proofs.Markup.Composition
import C64Screen.Proofs.Buffer.Overlay
import C64Screen.Proofs.Buffer.Overriding
import C64Screen.Proofs.Buffer.Clipping
import C64Screen.Proofs.Markup.Adrift
import C64Screen.Proofs.Markup.PlainText
import C64Screen.Proofs.Buffer.Puts
import C64Screen.Proofs.Value.Kinds
import C64Screen.Proofs.Buffer.Grids
import C64Screen.Proofs.Buffer.Strokes
import C64Screen.Proofs.Screen.Making
import C64Screen.Proofs.Screen.Plain
import C64Screen.Proofs.Buffer.Rows
import C64Screen.Proofs.Screen.Coloured
import C64Screen.Proofs.Screen.Reallocation
import C64Screen.Proofs.Screen.Sharing
import C64Screen.Proofs.Text.Numerals
import C64Screen.Proofs.Settings.Reading
import C64Screen.Proofs.Settings.Acceptance
import C64Screen.Proofs.Screen.Unbroken
import C64Screen.Proofs.CommandLine.Running
import C64Screen.Proofs.Json.Grammar
import C64Screen.Proofs.Json.Reading
import C64Screen.Proofs.Screen.Payloads
import C64Screen.Proofs.CommandLine.Forms
import C64Screen.Proofs.Buffer.Layout
import C64Screen.Proofs.Buffer.Fitting
import C64Screen.Proofs.Charset.Reversal
import C64Screen.Proofs.Markup.Diagnostic
import C64Screen.Proofs.Text.Written
import C64Screen.Proofs.CommandLine.Options
import C64Screen.Proofs.Value.Entries
import C64Screen.Proofs.Text.Lines
import C64Screen.Proofs.Toml.Scalars
import C64Screen.Proofs.Toml.Sections
import C64Screen.Proofs.Settings.Writing
import C64Screen.Proofs.Buffer.Layers
import C64Screen.Proofs.Markup.Layers
import C64Screen.Proofs.Markup.Inking
import C64Screen.Proofs.Markup.Clearing
import C64Screen.Proofs.Markup.Upright
import C64Screen.Proofs.Markup.Exchange
import C64Screen.Proofs.Markup.Displacement
import C64Screen.Proofs.Markup.DryPen
import C64Screen.Proofs.Buffer.Regions
import C64Screen.Proofs.Screen.Picture
import C64Screen.Proofs.Charset.Involution
import C64Screen.Proofs.Text.Digits
import C64Screen.Proofs.Text.Sorting
import C64Screen.Proofs.Settings.Precedence
import C64Screen.Proofs.Settings.Texts
import C64Screen.Proofs.Screen.Views
import C64Screen.Proofs.Markup.Looping
