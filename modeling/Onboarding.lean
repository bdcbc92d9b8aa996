import Onboarding.Text.Quoted
import Onboarding.Number.Shortest
import Onboarding.Json.Writer
import Onboarding.Json.Sameness
import Onboarding.Form.Codec
import Onboarding.Flow.Codec
import Onboarding.Camera.Onboard
import Onboarding.Coordinator.Station
import Onboarding.Proofs.Registry.Exactness
import Onboarding.Proofs.Registry.Failure
import Onboarding.Proofs.Registry.Standstill
import Onboarding.Proofs.Flow.Restart
import Onboarding.Proofs.Flow.Aborted
import Onboarding.Proofs.Camera.Devices
import Onboarding.Proofs.Camera.Outcome
import Onboarding.Proofs.Flow.Claims
import Onboarding.Proofs.Registry.Lifelong
import Onboarding.Proofs.Job.Tracks
import Onboarding.Proofs.Camera.Visits
import Onboarding.Proofs.Job.Steps
import Onboarding.Proofs.Coordinator.Subscriptions
import Onboarding.Proofs.Coordinator.Notification
import Onboarding.Proofs.Flow.Conduct
import Onboarding.Proofs.Camera.Options
import Onboarding.Proofs.Camera.Login
import Onboarding.Proofs.Camera.Forms
import Onboarding.Proofs.Camera.RoundTrip
import Onboarding.Proofs.Camera.Sessions
import Onboarding.Proofs.Camera.Retries
import Onboarding.Proofs.Flow.Repairs
import Onboarding.Proofs.Flow.Commit
import Onboarding.Proofs.Flow.Omitted
import Onboarding.Proofs.Form.Extension
import Onboarding.Proofs.Form.Validation
import Onboarding.Proofs.Form.Reading
import Onboarding.Proofs.Flow.Stored
import Onboarding.Proofs.Device.Grammar
import Onboarding.Proofs.Registry.Versions
import Onboarding.Proofs.Registry.Addition
import Onboarding.Proofs.Registry.Updating
import Onboarding.Proofs.Registry.Commuting
