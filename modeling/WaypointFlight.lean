import WaypointFlight.Autopilot.Command
import WaypointFlight.Autopilot.Query
import WaypointFlight.Simulation.Basic
import WaypointFlight.Mission.Report
import WaypointFlight.Mission.Summary
import WaypointFlight.Main
import WaypointFlight.Proofs.RealVectors
import WaypointFlight.Proofs.Runs
import WaypointFlight.Proofs.Ticks
import WaypointFlight.Proofs.RealLimits
import WaypointFlight.Proofs.StraightProgress
import WaypointFlight.Proofs.SplineTicks
import WaypointFlight.Proofs.FreshLimits
import WaypointFlight.Proofs.LeashLaw
import WaypointFlight.Proofs.SplineArrival
import WaypointFlight.Proofs.LocationFaults
import WaypointFlight.Proofs.FailedCalls
import WaypointFlight.Proofs.CurveEnds
import WaypointFlight.Proofs.SimulatedFlights
import WaypointFlight.Proofs.RaisedPoints
import WaypointFlight.Proofs.TerrainFlight
import WaypointFlight.Proofs.StraightArrival
import WaypointFlight.Proofs.SplineProgress
import WaypointFlight.Proofs.SplineRamp
import WaypointFlight.Proofs.SegmentJoins
import WaypointFlight.Proofs.KeptTarget
import WaypointFlight.Proofs.ShortTracks
import WaypointFlight.Proofs.VerticalLeash
import WaypointFlight.Proofs.ClosedLoop
import WaypointFlight.Proofs.LeanLimit
import WaypointFlight.Proofs.DestinationLocation
import WaypointFlight.Proofs.GovernedSpeed
import WaypointFlight.Proofs.PlacedFlight
import WaypointFlight.Proofs.ControllerCalls
import WaypointFlight.Proofs.FeedForward
import WaypointFlight.Proofs.TerrainSources
import WaypointFlight.Proofs.OffTerrain
import WaypointFlight.Proofs.MissionFlights
import WaypointFlight.Proofs.ItemArrival
import WaypointFlight.Proofs.CurveSwing
import WaypointFlight.Proofs.LongitudeOffsets
import WaypointFlight.Proofs.ItemPlaces
import WaypointFlight.Proofs.ChosenHeadings
import WaypointFlight.Proofs.AltitudeFrames
import WaypointFlight.Proofs.ReframedSplines
import WaypointFlight.Proofs.StrictestAxis
import WaypointFlight.Proofs.LeashLength
import WaypointFlight.Proofs.SlowDownLaw
import WaypointFlight.Proofs.SpeedProfile
import WaypointFlight.Proofs.DampedControl
import WaypointFlight.Proofs.LeashUpkeep
import WaypointFlight.Proofs.ZeroDivisors
