import Flexkube.Container.GoMap
import Flexkube.Exec
import Flexkube.Container.Types
import Flexkube.Container.Runtime
import Flexkube.Container.Engine
import Flexkube.Container.Containers
import Flexkube.Container.Faults
import Flexkube.Container.Steps
import Flexkube.Container.Frame
import Flexkube.Container.Loops
import Flexkube.Container.Plan
import Flexkube.Container.Drift
import Flexkube.Container.Footprint
import Flexkube.Container.Removal
import Flexkube.Container.Order
import Flexkube.Container.Converge
import Flexkube.Container.Rerun
import Flexkube.Container.Owned
import Flexkube.Container.Reach
import Flexkube.Container.Paths
import Flexkube.Container.Contract
import Flexkube.Container.Abort
import Flexkube.Controlplane.Build
import Flexkube.Controlplane.Defaults
import Flexkube.Controlplane.Validate
import Flexkube.Pki.Certificate
import Flexkube.Pki.Kubernetes
import Flexkube.Pki.Chain
import Flexkube.Pki.Errors
import Flexkube.Pki.Errors
