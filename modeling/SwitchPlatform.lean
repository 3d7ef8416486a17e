import SwitchPlatform.Action
import SwitchPlatform.Attribute
import SwitchPlatform.Bmc
import SwitchPlatform.Board.Device
import SwitchPlatform.Board.Platform
import SwitchPlatform.Board.Qs32
import SwitchPlatform.Board.Readings
import SwitchPlatform.Board.Registry
import SwitchPlatform.Board.Sf54
import SwitchPlatform.Board.Table
import SwitchPlatform.Board.Validation
import SwitchPlatform.CommandLine.Arguments
import SwitchPlatform.CommandLine.Grammar
import SwitchPlatform.Config
import SwitchPlatform.Datum
import SwitchPlatform.FanPolicy
import SwitchPlatform.FileTree.Access
import SwitchPlatform.FileTree.Basic
import SwitchPlatform.FileTree.Path
import SwitchPlatform.Flags
import SwitchPlatform.Gpio
import SwitchPlatform.Hwmon
import SwitchPlatform.Io
import SwitchPlatform.Locator
import SwitchPlatform.Logging.Entry
import SwitchPlatform.Logging.Level
import SwitchPlatform.Logging.Targets
import SwitchPlatform.Main
import SwitchPlatform.Oid
import SwitchPlatform.Onie.Basic
import SwitchPlatform.Onie.Crc32
import SwitchPlatform.Onie.Image
import SwitchPlatform.Platform.Basic
import SwitchPlatform.Platform.Management
import SwitchPlatform.Platform.Scripted
import SwitchPlatform.Platform.Walk
import SwitchPlatform.PortSet
import SwitchPlatform.Proofs.Board.Controls
import SwitchPlatform.Proofs.Board.DeviceBytes
import SwitchPlatform.Proofs.Board.FanDuty
import SwitchPlatform.Proofs.Board.FanPass
import SwitchPlatform.Proofs.Board.FanReadings
import SwitchPlatform.Proofs.Board.FanSettings
import SwitchPlatform.Proofs.Board.Frame
import SwitchPlatform.Proofs.Board.LedModes
import SwitchPlatform.Proofs.Board.LedRoles
import SwitchPlatform.Proofs.Board.ModuleViews
import SwitchPlatform.Proofs.Board.Objects
import SwitchPlatform.Proofs.Board.PassesInStep
import SwitchPlatform.Proofs.Board.PortBus
import SwitchPlatform.Proofs.Board.PortLines
import SwitchPlatform.Proofs.Board.PsuReadings
import SwitchPlatform.Proofs.Board.QuietReadings
import SwitchPlatform.Proofs.Board.ReadContract
import SwitchPlatform.Proofs.Board.Readings
import SwitchPlatform.Proofs.Board.ReadingsInStep
import SwitchPlatform.Proofs.Board.Remembered
import SwitchPlatform.Proofs.Board.Repeated
import SwitchPlatform.Proofs.Board.SystemEeprom
import SwitchPlatform.Proofs.Board.Tree
import SwitchPlatform.Proofs.Board.TreeLines
import SwitchPlatform.Proofs.Board.Unmanaged
import SwitchPlatform.Proofs.Board.Valid
import SwitchPlatform.Proofs.FanPolicy.Duty
import SwitchPlatform.Proofs.FanPolicy.Hysteresis
import SwitchPlatform.Proofs.FanPolicy.Run
import SwitchPlatform.Proofs.FileTree.Agree
import SwitchPlatform.Proofs.FileTree.Export
import SwitchPlatform.Proofs.FileTree.Resolve
import SwitchPlatform.Proofs.FileTree.SameBut
import SwitchPlatform.Proofs.Hwmon
import SwitchPlatform.Proofs.Io.Confined
import SwitchPlatform.Proofs.Io.Dispatch
import SwitchPlatform.Proofs.Io.Driving
import SwitchPlatform.Proofs.Io.Failing
import SwitchPlatform.Proofs.Io.InStep
import SwitchPlatform.Proofs.Io.LocatorsInStep
import SwitchPlatform.Proofs.Io.Quiet
import SwitchPlatform.Proofs.Io.ReadBack
import SwitchPlatform.Proofs.Io.Run
import SwitchPlatform.Proofs.Io.Scaling
import SwitchPlatform.Proofs.Io.Within
import SwitchPlatform.Proofs.Io.Writing
import SwitchPlatform.Proofs.Logging.ConfigText
import SwitchPlatform.Proofs.Logging.Settings
import SwitchPlatform.Proofs.Logging.Setup
import SwitchPlatform.Proofs.Oid
import SwitchPlatform.Proofs.Onie.Accepted
import SwitchPlatform.Proofs.Onie.Area
import SwitchPlatform.Proofs.Onie.Behind
import SwitchPlatform.Proofs.Onie.Positions
import SwitchPlatform.Proofs.Onie.RoundTrip
import SwitchPlatform.Proofs.PathTemplate
import SwitchPlatform.Proofs.Platform.Calls
import SwitchPlatform.Proofs.Platform.FanPass
import SwitchPlatform.Proofs.Platform.FanScan
import SwitchPlatform.Proofs.Platform.LedPass
import SwitchPlatform.Proofs.Platform.Operations
import SwitchPlatform.Proofs.PortSet
import SwitchPlatform.Proofs.PortSet.Text
import SwitchPlatform.Proofs.RangeMap
import SwitchPlatform.Proofs.RangeMap.Exact
import SwitchPlatform.Proofs.Reading.Flags
import SwitchPlatform.Proofs.Reading.LineBreaks
import SwitchPlatform.Proofs.Report
import SwitchPlatform.Proofs.Text.AttributeInt
import SwitchPlatform.Proofs.Text.Decimal
import SwitchPlatform.Proofs.Text.Hex
import SwitchPlatform.Proofs.Text.HexDump
import SwitchPlatform.Proofs.Text.Numeral
import SwitchPlatform.Proofs.Text.Split
import SwitchPlatform.Proofs.Walk
import SwitchPlatform.Proofs.Walk.Loop
import SwitchPlatform.Proofs.Walk.Order
import SwitchPlatform.RangeMap
import SwitchPlatform.Reading.Fan
import SwitchPlatform.Reading.Led
import SwitchPlatform.Reading.Object
import SwitchPlatform.Reading.Psu
import SwitchPlatform.Reading.Thermal
import SwitchPlatform.Report
import SwitchPlatform.Sorting
import SwitchPlatform.Status
import SwitchPlatform.Text.Blank
import SwitchPlatform.Text.HexDump
import SwitchPlatform.Text.Numeral
import SwitchPlatform.Text.Quoted
import SwitchPlatform.Text.Utf8
import SwitchPlatform.Tool
import SwitchPlatform.Transceiver
import SwitchPlatform.Yaml.Directive
import SwitchPlatform.Yaml.Document
import SwitchPlatform.Yaml.Glyph
import SwitchPlatform.Yaml.Scalar
import SwitchPlatform.Yaml.Tag
import SwitchPlatform.Yaml.Token
