import SwAxi.Registry
import SwAxi.Lookup
import SwAxi.Framing
import SwAxi.Matching
import SwAxi.Wakeup
import SwAxi.Owners
import SwAxi.Operations
import SwAxi.Answers
import SwAxi.Termination
import SwAxi.Agreement
import SwAxi.Rejection
import SwAxi.Account
import SwAxi.Ahead
import SwAxi.Shutdown
import SwAxi.Order
import SwAxi.Payload
import SwAxi.Progress
import SwAxi.Atomic
import SwAxi.Limits
import SwAxi.Drain
import SwAxi.Acceptance
import SwAxi.Hanging
import SwAxi.Rendezvous
import SwAxi.Sending
import SwAxi.Joining
import SwAxi.Presence
import SwAxi.Sessions
import SwAxi.Closedown
import SwAxi.Graceful
import SwAxi.SvTwin
import SwAxi.Device
import SwAxi.Isolation
import SwAxi.Refinement
