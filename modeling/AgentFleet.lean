import AgentFleet.Application.PendingApproval
import AgentFleet.Application.Terminality
import AgentFleet.Database.Cancellation
import AgentFleet.Database.Scheduling
import AgentFleet.Persistence.GrantAccounting
import AgentFleet.Database.Journal
import AgentFleet.Assurance.Repair
import AgentFleet.Policy.Scope
import AgentFleet.Policy.Monotone
import AgentFleet.Baseline.Readback
import AgentFleet.Trust.Publication
import AgentFleet.Policy.Approval
import AgentFleet.PlanReview.Chain
import AgentFleet.ModelProfiles.History
import AgentFleet.Resources.Teardown
import AgentFleet.Domain.LogicalPaths
import AgentFleet.Repository.Patches
import AgentFleet.Application.ReadScopes
import AgentFleet.Repository.Materialize
import AgentFleet.Assurance.Latest
import AgentFleet.Domain.Evolution
import AgentFleet.Configuration.Verification
import AgentFleet.Runtime.Accounting
import AgentFleet.Domain.BuiltinJson
import AgentFleet.Repository.Numstat
import AgentFleet.Graph.Scopes
import AgentFleet.Application.Planning
import AgentFleet.Baseline.Recording
import AgentFleet.Conversations.Ownership
import AgentFleet.Evaluation.Coherence
import AgentFleet.Evaluation.Commitments
