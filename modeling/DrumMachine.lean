import DrumMachine.Audio.Buffer
import DrumMachine.Audio.Mixer
import DrumMachine.Audio.Riff
import DrumMachine.Audio.Sample
import DrumMachine.Audio.Wave
import DrumMachine.Catalog
import DrumMachine.CommandLine.Options
import DrumMachine.CommandLine.Run
import DrumMachine.Failure
import DrumMachine.Files.Fault
import DrumMachine.Files.Path
import DrumMachine.Files.Tree
import DrumMachine.Installed
import DrumMachine.Kit.Bank
import DrumMachine.Kit.Basic
import DrumMachine.Kit.Directory
import DrumMachine.Kit.Error
import DrumMachine.Kit.Printing
import DrumMachine.Kit.Recording
import DrumMachine.Kit.Sampled
import DrumMachine.Log
import DrumMachine.Main
import DrumMachine.Playback
import DrumMachine.Proofs.Catalog
import DrumMachine.Proofs.CommandLine.Outcomes
import DrumMachine.Proofs.CommandLine.Phases
import DrumMachine.Proofs.Double.Arithmetic
import DrumMachine.Proofs.Double.Rounding
import DrumMachine.Proofs.Double.Values
import DrumMachine.Proofs.Mixer.Blocks
import DrumMachine.Proofs.Mixer.Rendering
import DrumMachine.Proofs.Mixer.Sounding
import DrumMachine.Proofs.Mixer.Splitting
import DrumMachine.Proofs.Mixer.Timeline
import DrumMachine.Proofs.Playback.Kits
import DrumMachine.Proofs.Playback.Reports
import DrumMachine.Proofs.Playback.Rounds
import DrumMachine.Proofs.Playback.Views
import DrumMachine.Proofs.Printing.Decoding
import DrumMachine.Proofs.Printing.Lines
import DrumMachine.Proofs.Printing.Sessions
import DrumMachine.Proofs.Printing.Warnings
import DrumMachine.Proofs.Sample.Lengths
import DrumMachine.Proofs.Sampled.Banks
import DrumMachine.Proofs.Sampled.Impacts
import DrumMachine.Proofs.Sampled.Loading
import DrumMachine.Proofs.Settings.RoundTrip
import DrumMachine.Proofs.Stream.Reading
import DrumMachine.Proofs.Stream.Writing
import DrumMachine.Proofs.Tablature.Acceptance
import DrumMachine.Proofs.Tablature.Delivery
import DrumMachine.Proofs.Tablature.LineEndings
import DrumMachine.Proofs.Tablature.Names
import DrumMachine.Proofs.Tablature.Offences
import DrumMachine.Proofs.Tablature.Text
import DrumMachine.Proofs.Tablature.Written
import DrumMachine.Proofs.Tempo.Passes
import DrumMachine.Proofs.Tempo.Periods
import DrumMachine.Proofs.Text.Numerals
import DrumMachine.Proofs.Text.Order
import DrumMachine.Proofs.Text.Replacement
import DrumMachine.Proofs.Wave.Decoding
import DrumMachine.Proofs.Wave.Riff
import DrumMachine.Proofs.Yaml.Documents
import DrumMachine.Proofs.Yaml.Forms
import DrumMachine.Proofs.Yaml.Gaps
import DrumMachine.Proofs.Yaml.Keys
import DrumMachine.Proofs.Yaml.Literals
import DrumMachine.Proofs.Yaml.Numbers
import DrumMachine.Proofs.Yaml.Places
import DrumMachine.Proofs.Yaml.PlainScalars
import DrumMachine.Proofs.Yaml.Printable
import DrumMachine.Proofs.Yaml.Quotes
import DrumMachine.Proofs.Yaml.Records
import DrumMachine.Proofs.Yaml.Scanning
import DrumMachine.Proofs.Yaml.Steps
import DrumMachine.Proofs.Yaml.Tokens
import DrumMachine.Rehearsal
import DrumMachine.Serial
import DrumMachine.Settings.Basic
import DrumMachine.Settings.Load
import DrumMachine.Settings.Record
import DrumMachine.Stream.Sink
import DrumMachine.Stream.Source
import DrumMachine.Tablature.Basic
import DrumMachine.Tablature.Line
import DrumMachine.Tablature.Reading
import DrumMachine.Tempo
import DrumMachine.Text.Listing
import DrumMachine.Text.Numeral
import DrumMachine.Text.Quoted
import DrumMachine.Text.Unshown
import DrumMachine.Text.Utf8
import DrumMachine.Toml.DateTime
import DrumMachine.Toml.Document
import DrumMachine.Toml.Literal
import DrumMachine.Toml.Number
import DrumMachine.Toml.Records
import DrumMachine.Toml.Value
import DrumMachine.Yaml.Block
import DrumMachine.Yaml.Character
import DrumMachine.Yaml.Document
import DrumMachine.Yaml.Gap
import DrumMachine.Yaml.Layout
import DrumMachine.Yaml.Node
import DrumMachine.Yaml.Number
import DrumMachine.Yaml.Plain
import DrumMachine.Yaml.Quoted
import DrumMachine.Yaml.Records
import DrumMachine.Yaml.Tag
import DrumMachine.Yaml.Token
import DrumMachine.Yaml.Writing
