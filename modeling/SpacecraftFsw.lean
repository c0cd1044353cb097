import SpacecraftFsw.Lib.Access
import SpacecraftFsw.Lib.Backlog
import SpacecraftFsw.Lib.Crc
import SpacecraftFsw.Lib.CrcDivision
import SpacecraftFsw.Lib.Escalation
import SpacecraftFsw.Lib.Extremum
import SpacecraftFsw.Lib.Fifo
import SpacecraftFsw.Lib.Gaps
import SpacecraftFsw.Lib.Ieee
import SpacecraftFsw.Lib.Replies
import SpacecraftFsw.Lib.Schedule
import SpacecraftFsw.Lib.Unwinding
import SpacecraftFsw.Octets
import SpacecraftFsw.Tmtc.Ccsds
import SpacecraftFsw.Tmtc.Pus
import SpacecraftFsw.Tmtc.HkPayload
import SpacecraftFsw.Tmtc.Tc
import SpacecraftFsw.Tmtc.Division
import SpacecraftFsw.Tmtc.Verify
import SpacecraftFsw.Tmtc.Uplink
import SpacecraftFsw.Tmtc.Contract
import SpacecraftFsw.Tmtc.Corruption
import SpacecraftFsw.Tmtc.Bounds
import SpacecraftFsw.Tmtc.Stream
import SpacecraftFsw.Obdh.Store
import SpacecraftFsw.Obdh.Router
import SpacecraftFsw.Obdh.Housekeeping
import SpacecraftFsw.Obdh.Packing
import SpacecraftFsw.Obdh.Ledger
import SpacecraftFsw.Obdh.Ordering
import SpacecraftFsw.Obdh.Contents
import SpacecraftFsw.Obdh.Retention
import SpacecraftFsw.Obdh.Congruence
import SpacecraftFsw.Obdh.Views
import SpacecraftFsw.Obdh.Relay
import SpacecraftFsw.Obdh.Bounds
import SpacecraftFsw.Fdir.Monitors
import SpacecraftFsw.Fdir.Watchdog
import SpacecraftFsw.Fdir.Machine
import SpacecraftFsw.Fdir.Runs
import SpacecraftFsw.Fdir.Grammar
import SpacecraftFsw.Fdir.Persistence
import SpacecraftFsw.Fdir.Masks
import SpacecraftFsw.Fdir.Liveness
import SpacecraftFsw.Fdir.Limits
import SpacecraftFsw.Fdir.Detection
import SpacecraftFsw.Fdir.Countdown
import SpacecraftFsw.Fdir.Warnings
import SpacecraftFsw.Fdir.Evidence
import SpacecraftFsw.Fdir.Severity
import SpacecraftFsw.Fdir.Feedback
import SpacecraftFsw.Flight
import SpacecraftFsw.Flight.TwoRuns
import SpacecraftFsw.Flight.Producers
import SpacecraftFsw.Flight.Commands
import SpacecraftFsw.Flight.Authority
import SpacecraftFsw.Flight.GroundView
import SpacecraftFsw.Flight.Housekeeping
import SpacecraftFsw.Flight.Server
import SpacecraftFsw.Flight.Noise
import SpacecraftFsw.Flight.Attribution
import SpacecraftFsw.Flight.Isolation
import SpacecraftFsw.Flight.Bounds
import SpacecraftFsw.Foundation.HkTelemetry
import SpacecraftFsw.Rtos.Pipeline
import SpacecraftFsw.Rtos.Ipc
import SpacecraftFsw.Rtos.Modes
import SpacecraftFsw.Rtos.Turns
import SpacecraftFsw.Rtos.Ending
import SpacecraftFsw.Rtos.Statements
import SpacecraftFsw.Rtos.Signals
import SpacecraftFsw.Rtos.Statistics
import SpacecraftFsw.Rtos.Progress
import SpacecraftFsw.Rtos.Losses
