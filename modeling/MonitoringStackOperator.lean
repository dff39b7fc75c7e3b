import MonitoringStackOperator.Meta
import MonitoringStackOperator.Pass
import MonitoringStackOperator.Selector
import MonitoringStackOperator.GrafanaOperator.Objects
import MonitoringStackOperator.GrafanaOperator.Controller
import MonitoringStackOperator.GrafanaOperator.PhaseEngine
import MonitoringStackOperator.GrafanaOperator.Convergence
import MonitoringStackOperator.Api
import MonitoringStackOperator.Stack.Objects
import MonitoringStackOperator.Stack.Components
import MonitoringStackOperator.Stack.Patchers
import MonitoringStackOperator.ComponentLoop
import MonitoringStackOperator.Stack.Controller
import MonitoringStackOperator.Querier.Controller
import MonitoringStackOperator.Querier.Events
import MonitoringStackOperator.GrafanaOperator.Watches
import MonitoringStackOperator.Stack.Manager
import MonitoringStackOperator.Querier.Endpoints
import MonitoringStackOperator.Stack.Children
import MonitoringStackOperator.Stack.SelfScrape
