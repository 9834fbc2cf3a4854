import CrossBuild.Bindings
import CrossBuild.CMake.Build
import CrossBuild.CMake.Config
import CrossBuild.CommandLine.Command
import CrossBuild.CommandLine.Grammar
import CrossBuild.Compiler
import CrossBuild.Decimal.Notation
import CrossBuild.Decimal.Shortest
import CrossBuild.Directive
import CrossBuild.Disk
import CrossBuild.Document
import CrossBuild.Feature
import CrossBuild.Job
import CrossBuild.Layout
import CrossBuild.Layout.File
import CrossBuild.Link
import CrossBuild.Main
import CrossBuild.Native
import CrossBuild.Ndk
import CrossBuild.Path
import CrossBuild.Pipeline
import CrossBuild.Platform
import CrossBuild.Problem
import CrossBuild.Profile
import CrossBuild.Proofs.Actions
import CrossBuild.Proofs.AtomicBindings
import CrossBuild.Proofs.BitcodeFlags
import CrossBuild.Proofs.BuildSteps
import CrossBuild.Proofs.CMakeDefinitions
import CrossBuild.Proofs.CanonicalTriples
import CrossBuild.Proofs.CompilerSelection
import CrossBuild.Proofs.ConfigurationShapes
import CrossBuild.Proofs.Configurations
import CrossBuild.Proofs.ConfigureCommands
import CrossBuild.Proofs.DirectiveStreams
import CrossBuild.Proofs.DiskContents
import CrossBuild.Proofs.Disks
import CrossBuild.Proofs.FailedRuns
import CrossBuild.Proofs.FailingTools
import CrossBuild.Proofs.FeatureNames
import CrossBuild.Proofs.FipsBuilds
import CrossBuild.Proofs.FreshBindings
import CrossBuild.Proofs.FuzzingFlags
import CrossBuild.Proofs.GeneratorCommands
import CrossBuild.Proofs.InertFeatures
import CrossBuild.Proofs.JobRuns
import CrossBuild.Proofs.KeptDisks
import CrossBuild.Proofs.LayoutFiles
import CrossBuild.Proofs.LinkedLibraries
import CrossBuild.Proofs.OptionPrecedence
import CrossBuild.Proofs.PartialCommands
import CrossBuild.Proofs.ProjectPaths
import CrossBuild.Proofs.RepeatedBindings
import CrossBuild.Proofs.RepeatedRuns
import CrossBuild.Proofs.RepeatedSteps
import CrossBuild.Proofs.RequiredVariables
import CrossBuild.Proofs.RerunDirectives
import CrossBuild.Proofs.RunOrder
import CrossBuild.Proofs.Scripts
import CrossBuild.Proofs.SdkLookups
import CrossBuild.Proofs.SelectionOutcomes
import CrossBuild.Proofs.SharedOptions
import CrossBuild.Proofs.ShownParameters
import CrossBuild.Proofs.SourceTrees
import CrossBuild.Proofs.StepScripts
import CrossBuild.Proofs.SystemHeaders
import CrossBuild.Proofs.TargetDescriptions
import CrossBuild.Proofs.Texts
import CrossBuild.Proofs.ToolReports
import CrossBuild.Proofs.ToolchainFolders
import CrossBuild.Proofs.TouchedFiles
import CrossBuild.Proofs.UnreportedFailures
import CrossBuild.Proofs.UntouchedFiles
import CrossBuild.Proofs.Vendors
import CrossBuild.Source
import CrossBuild.SystemError
import CrossBuild.Target
import CrossBuild.Text.Blank
import CrossBuild.Text.Bytes
import CrossBuild.Text.Case
import CrossBuild.Text.CharClass
import CrossBuild.Text.CodePoint
import CrossBuild.Text.Digit
import CrossBuild.Text.Line
import CrossBuild.Text.Printable
import CrossBuild.Text.Quoted
import CrossBuild.Text.Search
import CrossBuild.Triple
import CrossBuild.Value
import CrossBuild.Value.Calendar
import CrossBuild.Value.Slots
import CrossBuild.Yaml.Cursor
import CrossBuild.Yaml.Document
import CrossBuild.Yaml.Fault
import CrossBuild.Yaml.Input
import CrossBuild.Yaml.Lexer
import CrossBuild.Yaml.Merge
import CrossBuild.Yaml.Node
import CrossBuild.Yaml.Numeral
import CrossBuild.Yaml.Scalar
import CrossBuild.Yaml.Tag
import CrossBuild.Yaml.Token
